import ShopcityLoyalty.OfflineKeys
import ShopcityLoyalty.SyncPage

/-!
No record of a device is stranded: each is final, or in the next batch, or in a batch that is
under way.

The auxiliary state names the process that marked each record as syncing last. A process that
is not in flight has no record marked: it was never started, or it has written a result to
every record it marked.
-/

namespace ShopcityLoyalty

open Process

namespace SyncPage

/-- The process whose mark each record has. -/
abbrev Marks := String → Option Nat

def Final (state : OfflineEarnRecordState) : Prop :=
  state = .confirmed ∨ state = .rejected ∨ state = .awaitingApproval

/-- The records a process marks. -/
def Task.batch : Task → OfflineStore
  | .syncBatch _ (some listed) => queueableRecords listed
  | _ => []

def Task.marks (task : Task) (localId : String) : Prop := ∃ r ∈ task.batch, r.localId = localId

/-- The marks are on records that are syncing, every such record has one, and no batch was too
large for the server. -/
structure Marked (maxRecords : Nat) (s : DeviceState × Marks) : Prop where
  marked : ∀ id n, s.2 id = some n → ∃ r ∈ s.1.records, r.localId = id ∧ r.syncState = .syncing
  syncing : ∀ r ∈ s.1.records, r.syncState = .syncing → (s.2 r.localId).isSome
  sizes : ∀ batch ∈ s.1.submitted, batch.length ≤ maxRecords

/-- Nobody else marks a record in the name of process `n`; it marks records of its batch, and
its local writes do not fail where it is a sync. -/
def markContract (maxRecords n : Nat) (task : Task) : Contract DeviceInput DeviceState Marks where
  admits _ env := task.batch ≠ [] → env.failure = none
  rely s t := (∀ id, t.2 id = some n → s.2 id = some n) ∧
    (Marked maxRecords s → Marked maxRecords t)
  guarantee s t :=
    (∀ id m, m ≠ n → t.2 id = some m → s.2 id = some m) ∧
    (∀ id, t.2 id = some n → s.2 id = some n ∨ task.marks id) ∧
    (Marked maxRecords s → Marked maxRecords t)

/-- A process that cannot fail returns a value that meets an assertion. -/
def Returns {α : Type} (Q : α → DeviceState × Marks → Prop) :
    Except Empty α → DeviceState × Marks → Prop
  | .ok a => Q a

variable {maxRecords n : Nat} {task : Task} {s : DeviceState} {g : Marks}

lemma markContract_closed : (markContract maxRecords n task).Closed where
  refl _ := ⟨fun _ h => h, fun h => h⟩
  trans _ _ _ h h' := ⟨fun id hid => h.1 id (h'.1 id hid), fun hs => h'.2 (h.2 hs)⟩

/-! ### What the writes do to the marks -/

/-- The mark of a record after it was written. -/
def markAfter (n : Nat) (r : OfflineEarnRecord) (g : Marks) : Marks :=
  Function.update g r.localId (if r.syncState = .syncing then some n else none)

lemma Marked.put (h : Marked maxRecords (s, g)) (n : Nat) (r : OfflineEarnRecord) :
    Marked maxRecords ({ s with records := s.records.put r }, markAfter n r g) where
  marked id m hm := by
    by_cases hid : id = r.localId
    · subst hid
      simp only [markAfter, Function.update_self] at hm
      split at hm
      · exact ⟨r, OfflineStore.mem_put.2 (.inl rfl), rfl, ‹_›⟩
      · cases hm
    · simp only [markAfter, Function.update_of_ne hid] at hm
      obtain ⟨x, hx, rfl, hs⟩ := h.marked id m hm
      exact ⟨x, OfflineStore.mem_put.2 (.inr ⟨hx, hid⟩), rfl, hs⟩
  syncing x hx hs := by
    rcases OfflineStore.mem_put.1 hx with rfl | ⟨hx, hne⟩
    · simp [markAfter, hs]
    · simp only [markAfter, Function.update_of_ne hne]
      exact h.syncing x hx hs
  sizes := h.sizes

lemma Marked.delete (h : Marked maxRecords (s, g)) (id : String) :
    Marked maxRecords ({ s with records := s.records.delete id }, Function.update g id none) where
  marked id' m hm := by
    by_cases hid : id' = id
    · subst hid
      simp at hm
    · simp only [Function.update_of_ne hid] at hm
      obtain ⟨x, hx, rfl, hs⟩ := h.marked id' m hm
      exact ⟨x, by simp [OfflineStore.delete, hx, hid], rfl, hs⟩
  syncing x hx hs := by
    simp only [OfflineStore.delete, List.mem_filter, decide_eq_true_eq] at hx
    simp only [Function.update_of_ne hx.2]
    exact h.syncing x hx.1 hs
  sizes := h.sizes

lemma guarantee_put {r : OfflineEarnRecord}
    (hr : r.syncState = .syncing → task.marks r.localId) :
    (markContract maxRecords n task).guarantee (s, g)
      ({ s with records := s.records.put r }, markAfter n r g) := by
  refine ⟨fun id m hm hid => ?_, fun id hid => ?_, fun h => h.put n r⟩
  · by_cases heq : id = r.localId
    · subst heq
      simp only [markAfter, Function.update_self] at hid
      split at hid
      · exact absurd (Option.some.inj hid).symm hm
      · cases hid
    · simpa only [markAfter, Function.update_of_ne heq] using hid
  · by_cases heq : id = r.localId
    · subst heq
      simp only [markAfter, Function.update_self] at hid
      split at hid
      · exact .inr (hr ‹_›)
      · cases hid
    · exact .inl (by simpa only [markAfter, Function.update_of_ne heq] using hid)

lemma guarantee_delete {id : String} :
    (markContract maxRecords n task).guarantee (s, g)
      ({ s with records := s.records.delete id }, Function.update g id none) := by
  have hsame : ∀ id' m, Function.update g id none id' = some m → g id' = some m := by
    intro id' m hm
    by_cases heq : id' = id
    · subst heq
      simp at hm
    · simpa only [Function.update_of_ne heq] using hm
  exact ⟨fun id' m _ hm => hsame id' m hm, fun id' hm => .inl (hsame id' n hm),
    fun h => h.delete id⟩

lemma guarantee_refl : (markContract maxRecords n task).guarantee (s, g) (s, g) :=
  ⟨fun _ _ _ h => h, fun _ h => .inl h, fun h => h⟩

/-- Process `n` has marked records of its batch only. -/
def OwnMarks (n : Nat) (task : Task) (s : DeviceState × Marks) : Prop :=
  ∀ id, s.2 id = some n → task.marks id

/-- Process `n` has no record marked. -/
def NoMarks (n : Nat) (s : DeviceState × Marks) : Prop := ∀ id, s.2 id ≠ some n

lemma noMarks_stable : (markContract maxRecords n task).Stable (NoMarks n) :=
  fun _ _ h hrely id hid => h id (hrely.1 id hid)

lemma NoMarks.markAfter (h : NoMarks n (s, g)) {r : OfflineEarnRecord}
    (hr : r.syncState ≠ .syncing) {s' : DeviceState} : NoMarks n (s', markAfter n r g) := by
  intro id hid
  by_cases heq : id = r.localId
  · simp [SyncPage.markAfter, heq, hr] at hid
  · simp only [SyncPage.markAfter, Function.update_of_ne heq] at hid
    exact h id hid

/-! ### Statements -/

/-- What `update` does to a record, and to the mark on it. -/
lemma update_triple {P : DeviceState × Marks → Prop}
    {Q : OfflineWriteResult → DeviceState × Marks → Prop} {localId : String}
    {updater : OfflineEarnRecord → OfflineEarnRecord}
    (hstable : (markContract maxRecords n task).Stable P)
    (hid : ∀ r, (updater r).localId = r.localId)
    (hmark : ∀ r, (updater r).syncState = .syncing → task.marks localId)
    (hfail : ∀ s e, P s → task.batch = [] → Q (.error e) s)
    (hmissing : ∀ s, P s → s.1.records.get localId = none → Q .ok s)
    (hput : ∀ s r, P s → s.1.records.get localId = some r →
      Q .ok ({ s.1 with records := s.1.records.put (updater r) }, markAfter n (updater r) s.2)) :
    Triple (markContract maxRecords n task) P (update localId updater) (Returns Q) := by
  refine triple_statement hstable fun s env hs hadm => ?_
  cases hf : env.failure with
  | some e =>
      have hbatch : task.batch = [] := by
        by_contra hne
        rw [hadm hne] at hf
        cases hf
      refine ⟨s.2, ?_⟩
      simp only [updateOfflineEarnRecord, runWrite]
      exact ⟨guarantee_refl, hfail s e hs hbatch⟩
  | none =>
      simp only [updateOfflineEarnRecord, runWrite]
      cases hget : s.1.records.get localId with
      | none => exact ⟨s.2, guarantee_refl, hmissing s hs hget⟩
      | some r =>
          refine ⟨markAfter n (updater r) s.2, guarantee_put fun hsync => ?_, hput s r hs hget⟩
          rw [hid, (OfflineStore.get_some hget).2]
          exact hmark r hsync

lemma update_noMarks {localId : String} {updater : OfflineEarnRecord → OfflineEarnRecord}
    (hid : ∀ r, (updater r).localId = r.localId) (hstate : ∀ r, (updater r).syncState ≠ .syncing) :
    Triple (markContract maxRecords n task) (NoMarks n) (update localId updater)
      (Returns fun _ => NoMarks n) :=
  update_triple noMarks_stable hid (fun r hr => absurd hr (hstate r)) (fun _ _ h _ => h)
    (fun _ h _ => h) fun _ r h _ => h.markAfter (hstate r)

lemma refresh_triple {P : DeviceState × Marks → Prop}
    (hstable : (markContract maxRecords n task).Stable P) :
    Triple (markContract maxRecords n task) P refresh (Returns fun _ => P) := by
  refine triple_statement hstable fun s env hs _ => ⟨s.2, ?_⟩
  have hview : (if env.listingFails then (⟨"Unable to load saved purchases.", none⟩, s.1)
      else (⟨"", some s.1.records⟩, s.1) : PageView × DeviceState).2 = s.1 := by
    split <;> rfl
  rw [hview]
  exact ⟨guarantee_refl, hs⟩

lemma Returns.triple_bind {α β : Type} {c : Contract DeviceInput DeviceState Marks}
    {P : DeviceState × Marks → Prop} {Q : α → DeviceState × Marks → Prop}
    {Q' : Except Empty β → DeviceState × Marks → Prop} {p : PageProcess α}
    {f : α → PageProcess β} (hp : Triple c P p (Returns Q))
    (hf : ∀ a, Triple c (Q a) (f a) Q') : Triple c P (p >>= f) Q' :=
  hp.bind hf fun e => nomatch e

/-! ### The loops of a sync -/

lemma firstError_snoc {results : List OfflineWriteResult} (h : firstError results = none) :
    firstError (results ++ [.ok]) = none := by
  induction results with
  | nil => rfl
  | cons result results ih =>
      cases result with
      | ok => exact ih h
      | error e => cases h

/-- What is kept of the marks while a sync goes on. -/
def Own (maxRecords n : Nat) (task : Task) (s : DeviceState × Marks) : Prop :=
  Marked maxRecords s ∧ OwnMarks n task s

lemma own_stable : (markContract maxRecords n task).Stable (Own maxRecords n task) :=
  fun _ _ h hrely => ⟨hrely.2 h.1, fun id hid => h.2 id (hrely.1 id hid)⟩

lemma Own.put (h : Own maxRecords n task (s, g)) {r : OfflineEarnRecord}
    (hr : r.syncState = .syncing → task.marks r.localId) :
    Own maxRecords n task ({ s with records := s.records.put r }, markAfter n r g) := by
  have hguar : (markContract maxRecords n task).guarantee (s, g)
      ({ s with records := s.records.put r }, markAfter n r g) := guarantee_put hr
  refine ⟨h.1.put n r, fun id hid => ?_⟩
  rcases hguar.2.1 id hid with hold | hmarks
  · exact h.2 id hold
  · exact hmarks

/-- All records of the batch are marked, and no write has failed. -/
lemma markSyncing_loop :
    Triple (markContract maxRecords n task) (Own maxRecords n task)
      (Process.collect markSyncing task.batch)
      (Returns fun results s => Own maxRecords n task s ∧ firstError results = none) := by
  have hloop := Triple.collect (c := markContract maxRecords n task) (l := task.batch)
    (f := markSyncing) (E := fun _ _ => False)
    (I := fun _ results s => Own maxRecords n task s ∧ firstError results = none) ?_
  · refine hloop.consequence (fun s hs => ⟨hs, rfl⟩) fun r s h => ?_
    cases r with
    | ok results => exact h
    | error e => cases e
  intro done results r hr
  have hmarks : task.marks r.localId := ⟨r, hr, rfl⟩
  have hstable : (markContract maxRecords n task).Stable fun s =>
      Own maxRecords n task s ∧ firstError results = none :=
    fun s t h hrely => ⟨own_stable s t h.1 hrely, h.2⟩
  refine Triple.consequence (Q := Returns fun result s =>
    Own maxRecords n task s ∧ firstError (results ++ [result]) = none) ?_ (fun _ h => h)
    fun result s h => ?_
  · refine update_triple hstable (fun _ => rfl) (fun _ _ => hmarks) (fun s e _ hbatch => ?_)
      (fun s h _ => ⟨h.1, firstError_snoc h.2⟩) fun s x h hx => ?_
    · rw [hbatch] at hr
      cases hr
    · refine ⟨h.1.put fun _ => ?_, firstError_snoc h.2⟩
      have hid : x.localId = r.localId := (OfflineStore.get_some hx).2
      simpa only [hid] using hmarks
  · cases result with
    | ok result => exact h
    | error e => cases e

/-- Records that are written to without being syncing have no mark afterwards. -/
lemma clearing_loop {α : Type} (idOf : α → String)
    (updater : α → OfflineEarnRecord → OfflineEarnRecord)
    (hid : ∀ a r, (updater a r).localId = r.localId)
    (hstate : ∀ a r, (updater a r).syncState ≠ .syncing) (hbatch : task.batch ≠ []) (l : List α) :
    Triple (markContract maxRecords n task) (Own maxRecords n task)
      (Process.collect (fun a => update (idOf a) (updater a)) l)
      (Returns fun _ s => Own maxRecords n task s ∧ ∀ a ∈ l, s.2 (idOf a) ≠ some n) := by
  have hloop := Triple.collect (c := markContract maxRecords n task) (l := l)
    (f := fun a => update (idOf a) (updater a)) (E := fun _ _ => False)
    (I := fun done _ s => Own maxRecords n task s ∧ ∀ a ∈ done, s.2 (idOf a) ≠ some n) ?_
  · refine hloop.consequence (fun s hs => ⟨hs, by simp⟩) fun r s h => ?_
    cases r with
    | ok results => exact h
    | error e => cases e
  intro done results a _
  have hstable : (markContract maxRecords n task).Stable fun s =>
      Own maxRecords n task s ∧ ∀ a ∈ done, s.2 (idOf a) ≠ some n :=
    fun s t h hrely => ⟨own_stable s t h.1 hrely, fun a ha hm => h.2 a ha (hrely.1 _ hm)⟩
  refine Triple.consequence (Q := Returns fun _ s =>
    Own maxRecords n task s ∧ ∀ b ∈ done ++ [a], s.2 (idOf b) ≠ some n) ?_ (fun _ h => h)
    fun result s h => ?_
  · refine update_triple hstable (hid a) (fun r hr => absurd hr (hstate a r))
      (fun s e _ hempty => absurd hempty hbatch) (fun s h hnone => ?_) fun s x h hx => ?_
    · refine ⟨h.1, fun b hb hm => ?_⟩
      rcases List.mem_append.1 hb with hb | hb
      · exact h.2 b hb hm
      · obtain rfl := List.mem_singleton.1 hb
        obtain ⟨r, hr, hrid, -⟩ := h.1.1.marked _ n hm
        have hsome : (s.1.records.get (idOf b)).isSome := by
          unfold OfflineStore.get
          rw [List.find?_isSome]
          exact ⟨r, hr, by simp [hrid]⟩
        rw [hnone] at hsome
        cases hsome
    · have hxid : (updater a x).localId = idOf a := (hid a x).trans (OfflineStore.get_some hx).2
      refine ⟨h.1.put fun hsync => absurd hsync (hstate a x), fun b hb hm => ?_⟩
      by_cases heq : idOf b = idOf a
      · simp [markAfter, hxid, heq, hstate a x] at hm
      · simp only [markAfter, hxid, Function.update_of_ne heq] at hm
        rcases List.mem_append.1 hb with hb | hb
        · exact h.2 b hb hm
        · exact heq (by rw [List.mem_singleton.1 hb])
  · cases result with
    | ok result => exact h
    | error e => cases e

/-! ### Each task -/

lemma Own.noMarks {s : DeviceState × Marks} (h : Own maxRecords n task s)
    (hids : ∀ r ∈ task.batch, s.2 r.localId ≠ some n) : NoMarks n s := by
  intro id hid
  obtain ⟨r, hr, rfl⟩ := h.2 id hid
  exact hids r hr hid

lemma markBatchUnavailable_triple (hbatch : task.batch ≠ []) (message : String) :
    Triple (markContract maxRecords n task) (Own maxRecords n task)
      (markBatchUnavailable task.batch message) (Returns fun _ => NoMarks n) := by
  have hloop : Triple (markContract maxRecords n task) (Own maxRecords n task)
      (Process.collect (markRetryRequired message) task.batch)
      (Returns fun _ s => Own maxRecords n task s ∧ ∀ r ∈ task.batch, s.2 r.localId ≠ some n) :=
    clearing_loop OfflineEarnRecord.localId
      (fun _ current => { current with syncState := .retryRequired, lastError := some message })
      (fun _ _ => rfl) (by simp) hbatch task.batch
  refine Returns.triple_bind hloop fun results => ?_
  refine Returns.triple_bind ((refresh_triple noMarks_stable).consequence
    (fun s h => h.1.noMarks h.2) fun _ _ h => h) fun view => triple_done fun _ h => h

lemma mapSyncState_ne (status : OfflineSyncRecordStatus) : mapSyncState status ≠ .syncing := by
  cases status <;> simp [mapSyncState]

lemma storeResults_triple (hbatch : task.batch ≠ []) (results : List OfflineEarnBatchRecordResult)
    (hids : ∀ r ∈ task.batch, ∃ result ∈ results, result.localId = r.localId) :
    Triple (markContract maxRecords n task) (Own maxRecords n task) (storeResults results)
      (Returns fun _ => NoMarks n) := by
  have hloop : Triple (markContract maxRecords n task) (Own maxRecords n task)
      (Process.collect storeResult results)
      (Returns fun _ s => Own maxRecords n task s ∧ ∀ r ∈ results, s.2 r.localId ≠ some n) :=
    clearing_loop OfflineEarnBatchRecordResult.localId applyResult (fun _ _ => rfl)
      (fun result _ => mapSyncState_ne result.status) hbatch results
  refine Returns.triple_bind hloop fun writes => ?_
  refine Returns.triple_bind ((refresh_triple noMarks_stable).consequence
    (fun s h => h.1.noMarks fun r hr => ?_) fun _ _ h => h) fun view => triple_done fun _ h => h
  obtain ⟨result, hin, hid⟩ := hids r hr
  exact hid ▸ h.2 result hin

/-- A sync ends with no record left marked. -/
lemma syncBatch_triple {deviceId : String} {records : Option OfflineStore}
    (htask : task = .syncBatch deviceId records) (hsize : task.batch.length ≤ maxRecords) :
    Triple (markContract maxRecords n task) (fun s => Marked maxRecords s ∧ NoMarks n s)
      (syncBatch deviceId records) (Returns fun _ => NoMarks n) := by
  cases records with
  | none => exact triple_done fun _ h => h.2
  | some listed =>
      have hqueue : queueableRecords listed = task.batch := by rw [htask]; rfl
      unfold syncBatch
      simp only [hqueue]
      split
      · exact triple_done fun _ h => h.2
      split
      · exact triple_done fun _ h => h.2
      rename_i hbatch
      have hown : ∀ s, Marked maxRecords s ∧ NoMarks n s → Own maxRecords n task s :=
        fun s h => ⟨h.1, fun id hid => absurd hid (h.2 id)⟩
      refine Returns.triple_bind (markSyncing_loop.consequence hown fun _ _ h => h) fun writes => ?_
      cases hwrites : firstError writes with
      | some e => exact fun s h => absurd h.2 (by simp)
      | none =>
          have hpost : Triple (markContract maxRecords n task) (Own maxRecords n task)
              (post (task.batch.map (·.input))) (Returns fun _ => Own maxRecords n task) := by
            refine Returns.triple_bind (Q := fun _ => Own maxRecords n task) ?_ fun _ => ?_
            · refine triple_statement own_stable fun s _ h _ => ⟨s.2, ?_, ?_⟩
              · refine ⟨fun _ _ _ h => h, fun _ h => .inl h, fun h => ⟨h.marked, h.syncing, ?_⟩⟩
                intro batch hin
                rcases List.mem_append.1 hin with hin | hin
                · exact h.sizes batch hin
                · rw [List.mem_singleton.1 hin, List.length_map]
                  exact hsize
              · refine ⟨⟨h.1.marked, h.1.syncing, ?_⟩, h.2⟩
                intro batch hin
                rcases List.mem_append.1 hin with hin | hin
                · exact h.1.sizes batch hin
                · rw [List.mem_singleton.1 hin, List.length_map]
                  exact hsize
            · exact triple_statement own_stable fun s _ h _ => ⟨s.2, guarantee_refl, h⟩
          refine (Returns.triple_bind hpost fun answer => ?_).consequence (fun _ h => h.1)
            fun _ _ h => h
          cases answer with
          | results result =>
              refine storeResults_triple hbatch _ fun r hr => ?_
              refine ⟨{ result r.input with localId := r.localId }, ?_, rfl⟩
              rw [List.map_map]
              exact List.mem_map.2 ⟨r, hr, rfl⟩
          | status code => exact markBatchUnavailable_triple hbatch _
          | throws => exact markBatchUnavailable_triple hbatch _

lemma retryRecord_triple (localId : String) :
    Triple (markContract maxRecords n task) (NoMarks n) (retryRecord localId)
      (Returns fun _ => NoMarks n) := by
  refine Returns.triple_bind (update_noMarks (fun _ => rfl) (by simp)) fun _ => ?_
  exact refresh_triple noMarks_stable

lemma clearConfirmed_triple (browser : Browser) (confirmation : String) (records : OfflineStore) :
    Triple (markContract maxRecords n task) (NoMarks n)
      (clearConfirmed browser confirmation records) (Returns fun _ => NoMarks n) := by
  unfold clearConfirmed
  split
  · exact triple_done fun _ h => h
  have hloop := Triple.collect (c := markContract maxRecords n task)
    (l := records.filter fun r => r.syncState = .confirmed)
    (f := fun r : OfflineEarnRecord => write fun failure =>
      deleteOfflineEarnRecord failure r.localId)
    (E := fun _ _ => False) (I := fun _ _ => NoMarks n) ?_
  · refine Returns.triple_bind (Q := fun _ => NoMarks n) (hloop.consequence (fun _ h => h) ?_)
      fun results => ?_
    · intro r s h
      cases r with
      | ok results => exact h
      | error e => cases e
    · refine Returns.triple_bind (refresh_triple noMarks_stable) fun view => ?_
      cases firstError results <;> exact triple_done fun _ h => h
  intro done results r _
  refine triple_statement noMarks_stable fun s env h _ => ?_
  cases env.failure with
  | some e => exact ⟨s.2, guarantee_refl, h⟩
  | none =>
      refine ⟨Function.update s.2 r.localId none, guarantee_delete, fun id hid => ?_⟩
      by_cases heq : id = r.localId
      · simp [heq] at hid
      · simp only [Function.update_of_ne heq] at hid
        exact h id hid

lemma saveSubmission_triple (browser : Browser) (props : EarnTransactionControllerProps)
    (fields : EarnFields) (localId idempotencyKey : String) :
    Triple (markContract maxRecords n task) (NoMarks n)
      (saveSubmission browser props fields localId idempotencyKey)
      (Returns fun _ => NoMarks n) := by
  unfold saveSubmission
  split
  · exact triple_done fun _ h => h
  rename_i record hrecord
  have hstate : record.syncState ≠ .syncing := by
    simp only [EarnTransactionController.offlineRecord, Option.bind_eq_bind,
      Option.bind_eq_some_iff, Option.pure_def, Option.some.injEq] at hrecord
    obtain ⟨_, -, _, -, _, -, rfl⟩ := hrecord
    simp
  refine Returns.triple_bind (Q := fun _ => NoMarks n) ?_ fun _ => triple_done fun _ h => h
  refine triple_statement noMarks_stable fun s env h _ => ?_
  unfold saveOfflineEarnRecord runWrite
  split
  · exact ⟨s.2, guarantee_refl, h⟩
  · cases env.failure with
    | some e => exact ⟨s.2, guarantee_refl, h⟩
    | none =>
        exact ⟨markAfter n record s.2, guarantee_put fun hr => absurd hr hstate, h.markAfter hstate⟩

/-! ### Every run -/

/-- What a run is taken under: a batch is no larger than the server takes, no write of a sync
fails, and a page does not close while a record of the batch it submits is syncing. -/
structure Careful (maxRecords : Nat) (w : Pages) (event : PoolEvent Task DeviceInput) : Prop where
  size : ∀ task, event = .start task → task.batch.length ≤ maxRecords
  written : ∀ n task env, event = .advance n env → w.Active n task → task.batch ≠ [] →
    env.failure = none
  open_ : ∀ n task, event = .crash n → w.Active n task → ∀ r ∈ w.state.records,
    task.marks r.localId → r.syncState ≠ .syncing

/-- A record is final, in the next batch, or in a batch that is under way. -/
def Accounted (w : Pages) (r : OfflineEarnRecord) : Prop :=
  Final r.syncState ∨ r ∈ queueableRecords w.state.records ∨
  ∃ n task, w.Active n task ∧ task.marks r.localId

/-- In every run no record is stranded, and no batch is larger than the server takes. -/
def StrandsNone (browser : Browser) (maxRecords : Nat)
    (P : Pages → PoolEvent Task DeviceInput → Prop) : Prop :=
  ∀ w, Pool.StepsUnder (program browser) P (Pool.initial emptyDevice) w →
    (∀ r ∈ w.state.records, Accounted w r) ∧
    ∀ batch ∈ w.state.submitted, batch.length ≤ maxRecords

variable {browser : Browser}

def discipline (maxRecords : Nat) : Pool.Discipline Task DeviceInput DeviceState where
  beside _ _ := True
  startable task _ := task.batch.length ≤ maxRecords
  admits task _ env := task.batch ≠ [] → env.failure = none
  crashable task s := ∀ r ∈ s.records, task.marks r.localId → r.syncState ≠ .syncing

lemma program_triple (hsize : task.batch.length ≤ maxRecords) :
    Triple (markContract maxRecords n task) (fun s => Marked maxRecords s ∧ NoMarks n s)
      (program browser task) (Returns fun _ => NoMarks n) := by
  cases task with
  | syncBatch deviceId records => exact syncBatch_triple rfl hsize
  | retryRecord localId =>
      exact (retryRecord_triple localId).consequence (fun _ h => h.2) fun _ _ h => h
  | clearConfirmed confirmation records =>
      exact (clearConfirmed_triple browser confirmation records).consequence (fun _ h => h.2)
        fun _ _ h => h
  | saveSubmission props fields localId key =>
      exact (saveSubmission_triple browser props fields localId key).consequence (fun _ h => h.2)
        fun _ _ h => h

lemma accord : Pool.Accord (program browser) (markContract maxRecords)
    (fun n _ => Returns fun _ => NoMarks n) OwnMarks (fun n => NoMarks n) (discipline maxRecords)
    (Marked maxRecords) where
  closed _ _ := markContract_closed
  compatible n m _ _ _ _ hne _ _ h := ⟨fun id hid => h.1 id m hne.symm hid, h.2.2⟩
  good _ _ _ _ hs h := h.2.2 hs
  admits _ _ _ _ _ h := h
  program n task s hs hrest hsize := program_triple hsize s ⟨hs, hrest⟩
  postStable n m _ _ r _ _ hne _ h hr := by
    cases r with
    | ok view => exact fun id hid => hr id (h.1 id m hne.symm hid)
    | error e => cases e
  started _ _ _ _ hrest id hid := absurd hid (hrest id)
  knownOwn _ _ _ _ _ h hknown id hid := (h.2.1 id hid).elim (hknown id) fun hmarks => hmarks
  knownStable _ m _ _ _ _ hne _ h hknown id hid := hknown id (h.1 id m hne.symm hid)
  restStable _ m _ _ _ hne _ h hrest id hid := hrest id (h.1 id m hne.symm hid)
  ended _ _ r _ _ h := by
    cases r with
    | ok view => exact h
    | error e => cases e
  crashed n task s hs hknown hcrash id hid := by
    obtain ⟨r, hr, rfl, hsync⟩ := hs.marked id n hid
    exact hcrash r hr (hknown _ hid) hsync

/-- **No record is stranded** in a careful run. -/
theorem strands_none (browser : Browser) (maxRecords : Nat) :
    StrandsNone browser maxRecords (Careful maxRecords) := by
  intro w hrun
  have hfollows : ∀ (u : Pages) e, Careful maxRecords u e → (discipline maxRecords).Follows u e :=
    fun u e h =>
      { start := fun task htask => ⟨fun _ _ _ => ⟨trivial, trivial⟩, h.size task htask⟩
        admitted := h.written
        crash := h.open_ }
  have hempty : Marked maxRecords (emptyDevice, fun _ => none) :=
    ⟨fun _ _ h => by simp at h, by simp [emptyDevice], by simp [emptyDevice]⟩
  have hinit : (Pool.initial emptyDevice : Pages).Kept (markContract maxRecords)
      (fun n _ => Returns fun _ => NoMarks n) OwnMarks (fun n => NoMarks n)
      (discipline maxRecords).beside (Marked maxRecords) fun _ => none :=
    Pool.initial_kept hempty fun n id => by simp
  obtain ⟨g, hkept, -⟩ := Pool.run_kept accord hfollows (R := fun _ _ => True) (fun _ => trivial)
    (fun _ _ _ _ _ => trivial) (fun _ _ _ _ _ _ => trivial) hinit hrun
  refine ⟨fun r hr => ?_, hkept.good.sizes⟩
  cases hstate : r.syncState with
  | confirmed => exact .inl (.inl hstate)
  | rejected => exact .inl (.inr (.inl hstate))
  | awaitingApproval => exact .inl (.inr (.inr hstate))
  | syncing =>
      obtain ⟨n, hn⟩ := Option.isSome_iff_exists.1 (hkept.good.syncing r hr hstate)
      have hflight : w.InFlight n := by
        by_contra hquiet
        exact hkept.quiet n hquiet _ hn
      obtain ⟨task, hactive⟩ := hflight
      exact .inr (.inr ⟨n, task, hactive, hkept.known n task hactive _ hn⟩)
  | _ => exact .inr (.inl (List.mem_filter.2 ⟨hr, by simp [queueable, hstate]⟩))

end SyncPage

/-! ### A purchase saved and synced -/

namespace Shop

/-- The record of a purchase that was saved on the device. -/
def savedPurchase : OfflineEarnRecord where
  localId := "0"
  idempotencyKey := "00"
  cashierId := "cashier"
  branchId := "branch"
  deviceId := "till"
  customerId := some "customer"
  cardBarcode := "CARD"
  receiptNumber := "A1"
  receiptWeekStart := "2023-11-13"
  purchaseAmountKobo := 1000000
  occurredAtLocal := "2023-11-14T22:13:20.000Z"
  syncState := .waitingToSync
  lastError := none
  serverTransactionId := none
  serverApprovalId := none

/-- A customer's card was looked up at the till. -/
def atTill : EarnTransactionControllerProps where
  lookupContext := some ⟨some "CARD", some "customer", none, some "branch"⟩
  cashierId := some "cashier"
  deviceId := some "till"
  branchId := some "branch"
  branchTimezone := some "UTC"
  receiptWeekStartDay := some 1

def savePurchase : SyncPage.Task :=
  .saveSubmission atTill ⟨"CARD", "A1", some 1000000, "2023-11-14T22:13:20.000Z", ""⟩ "0" "00"

/-- The storage works, and the server confirms each record. -/
def working : DeviceInput where
  failure := none
  listingFails := false
  answer := .results fun r => ⟨r.localId, .CONFIRMED, some 0, none, none, none, false⟩

/-- The purchase is saved and marked as syncing; then the page closes, or it goes on. -/
def marked : List (PoolEvent SyncPage.Task DeviceInput) :=
  [.start savePurchase, .advance 0 working,
    .start (.syncBatch "till" (some [savedPurchase])), .advance 1 working]

def states (w : SyncPage.Pages) : List OfflineEarnRecordState := w.state.records.map (·.syncState)

/-- No page has statements left. -/
def idle (w : SyncPage.Pages) : Bool :=
  w.tasks.all fun task => match task.2 with
    | some p => ¬ p.Running
    | none => true

def carefulStep (maxRecords : Nat) : PoolEvent SyncPage.Task DeviceInput → Bool
  | .start task => task.batch.length ≤ maxRecords
  | .advance _ env => env.failure = none
  | .crash _ => false

end Shop

namespace SyncPage

lemma Careful.of_check {w : Pages} {event : PoolEvent Task DeviceInput}
    (h : Shop.carefulStep maxRecords event) : Careful maxRecords w event := by
  refine ⟨?_, ?_, ?_⟩
  · rintro task rfl
    simpa [Shop.carefulStep] using h
  · rintro n task env rfl _ _
    simpa [Shop.carefulStep] using h
  · rintro n task rfl
    simp [Shop.carefulStep] at h

lemma not_active_of_idle {w : Pages} (h : Shop.idle w) {n : Nat} {task : Task} :
    ¬ w.Active n task := by
  rintro ⟨p, hp, hrun⟩
  have hall := List.all_eq_true.1 h _ (List.mem_of_getElem? hp)
  simp [hrun] at hall

/-- A page that stays open confirms its record. -/
theorem strands_none_shop : ∃ w : Pages,
    Pool.StepsUnder (program Shop.browser) (Careful 100) (Pool.initial emptyDevice) w ∧
    Shop.states w = [.confirmed] ∧ ∀ r ∈ w.state.records, Accounted w r := by
  obtain ⟨w, hw, hstates⟩ : ∃ w : Pages, Pool.runChecked (program Shop.browser)
      (fun _ => Shop.carefulStep 100) (Pool.initial emptyDevice)
      (Shop.marked ++ [.advance 1 Shop.working, .advance 1 Shop.working, .advance 1 Shop.working,
        .advance 1 Shop.working]) = some w ∧ Shop.states w = [.confirmed] := by
    refine Option.map_eq_some_iff.1 ?_
    decide +kernel
  have hrun : Pool.StepsUnder (program Shop.browser) (Careful 100) (Pool.initial emptyDevice) w :=
    .of_runChecked (fun _ _ h => Careful.of_check h) hw
  exact ⟨w, hrun, hstates, (strands_none Shop.browser 100 w hrun).1⟩

/-- **A page that closes while its record is syncing** strands it. -/
theorem closed_page_strands : ¬ StrandsNone Shop.browser 100 fun _ _ => True := by
  intro h
  obtain ⟨w, hw, hstates⟩ : ∃ w : Pages, Pool.runChecked (program Shop.browser)
      (fun _ _ => true) (Pool.initial emptyDevice) (Shop.marked ++ [.crash 1]) = some w ∧
      (Shop.states w, Shop.idle w) = ([.syncing], true) := by
    refine Option.map_eq_some_iff.1 ?_
    decide +kernel
  obtain ⟨hsyncing, hidle⟩ := Prod.mk.inj hstates
  obtain ⟨r, hr, hstate⟩ : ∃ r ∈ w.state.records, r.syncState = .syncing := by
    have hmem : OfflineEarnRecordState.syncing ∈ Shop.states w := by simp [hsyncing]
    exact List.mem_map.1 hmem
  have hrun : Pool.StepsUnder (program Shop.browser) (fun _ _ => True)
      (Pool.initial emptyDevice) w := .of_runChecked (fun _ _ _ => trivial) hw
  rcases (h w hrun).1 r hr with hfinal | hqueued | ⟨n, task, hactive, -⟩
  · simp [Final, hstate] at hfinal
  · simp [queueableRecords, queueable, hstate] at hqueued
  · exact not_active_of_idle hidle hactive

end SyncPage

end ShopcityLoyalty
