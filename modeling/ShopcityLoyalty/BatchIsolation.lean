import ShopcityLoyalty.OfflineSync
import ShopcityLoyalty.System

/-!
A bad record of an offline batch, and the other records.

A local id belongs to the request its attempt row was created for. `Admitted` says which
records a batch may hold so that none of them throws; a record throws outside the handler of
the earn, and so takes the whole batch with it.
-/

namespace ShopcityLoyalty

open Process

namespace OfflineSyncService

/-- The request each local id of the device belongs to, by its hash. -/
abbrev Owners := String → Option Digest

def owners (actor : AuthContext) (deviceId : String) (s : SyncState) : Owners :=
  fun localId => (s.attempts (key actor deviceId localId)).map (·.requestHash)

section batch

variable (rt : OfflineSyncRuntime) (actor : AuthContext) (deviceId : String)

/-- A record claims its local id, unless that is taken. -/
def claimId (o : Owners) (record : OfflineEarnBatchRecordInput) : Owners :=
  match requestHash rt.toRuntime actor deviceId record, o record.localId with
  | .ok h, none => Function.update o record.localId (some h)
  | _, _ => o

/-- The owners after some records. -/
def claimed (o : Owners) (records : List OfflineEarnBatchRecordInput) : Owners :=
  records.foldl (claimId rt actor deviceId) o

/-- Week and time are dates, and the amount fits its column. -/
def Storable (record : OfflineEarnBatchRecordInput) (h : Digest) : Prop :=
  ∃ row, newAttempt rt h record = .ok row

/-- A record that is malformed, or whose local id belongs to another request. -/
def Bad (o : Owners) (record : OfflineEarnBatchRecordInput) : Prop :=
  match requestHash rt.toRuntime actor deviceId record with
  | .error _ => True
  | .ok h =>
      match o record.localId with
      | none => ¬ Storable rt record h
      | some h' => h' ≠ h

/-- The texts of a record are not blank, its barcode is one, and where its local id is new it
can be stored. -/
def Processable (o : Owners) (record : OfflineEarnBatchRecordInput) : Prop :=
  ∃ h, requestHash rt.toRuntime actor deviceId record = .ok h ∧
    (o record.localId = none → Storable rt record h)

end batch

/-- The batch is not refused as a whole, and each of its records can be processed. -/
structure Admitted (rt : OfflineSyncRuntime) (actor : AuthContext)
    (request : OfflineEarnBatchRequest) (s : SyncState) : Prop where
  notRefused : refusal rt actor request = none
  processable : ∀ pre record post, request.records = pre ++ record :: post →
    Processable rt actor request.deviceId
      (claimed rt actor request.deviceId (owners actor request.deviceId s) pre) record

/-- What a batch that ran returned and left: one result for each record; a bad record is
rejected, and without it and the inputs it took the others have the same results and leave
the same state. -/
def Isolated (rt : OfflineSyncRuntime) (actor : AuthContext) (request : OfflineEarnBatchRequest)
    (s : SyncState) (inputs : List RequestInput) (r : Except Fault OfflineEarnBatchResponse)
    (t : SyncState) : Prop :=
  ∃ results, r = .ok ⟨request.deviceId, results⟩ ∧ results.length = request.records.length ∧
    ∀ pre bad post, request.records = pre ++ bad :: post →
      Bad rt actor request.deviceId
        (claimed rt actor request.deviceId (owners actor request.deviceId s) pre) bad →
      ∃ resultsPre result resultsPost before own after,
        results = resultsPre ++ result :: resultsPost ∧ resultsPre.length = pre.length ∧
        inputs = before ++ own ++ after ∧
        result.localId = bad.localId ∧ result.status = .REJECTED ∧
        (earnBatch rt actor { request with records := pre ++ post }).run s (before ++ after) =
          some (.ok ⟨request.deviceId, resultsPre ++ resultsPost⟩, t)

variable {rt : OfflineSyncRuntime} {actor : AuthContext} {deviceId : String}
  {policy : OfflineSyncPolicy} {record : OfflineEarnBatchRecordInput} {s t : SyncState}
  {inputs : List RequestInput}

/-! ### One record -/

lemma requestHash_ok {h : Digest} (hh : requestHash rt.toRuntime actor deviceId record = .ok h) :
    (∃ c, normalizeCardBarcode rt.toRuntime record.cardBarcode = .ok c) ∧
    (∃ n, normalizeReceiptNumber record.receiptNumber = .ok n) ∧
    ∃ w, normalizeReceiptWeekStart record.receiptWeekStart = .ok w := by
  unfold requestHash at hh
  obtain ⟨c, hc, hh⟩ := Except.bind_ok.1 hh
  obtain ⟨n, hn, hh⟩ := Except.bind_ok.1 hh
  obtain ⟨w, hw, -⟩ := Except.bind_ok.1 hh
  exact ⟨⟨c, hc⟩, ⟨n, hn⟩, w, hw⟩

lemma newAttempt_ok {h : Digest} {row : OfflineSyncAttempt}
    (hrow : newAttempt rt h record = .ok row) :
    row.requestHash = h ∧ parseDate rt record.occurredAtLocal "occurredAtLocal" =
      .ok row.occurredAt := by
  unfold newAttempt at hrow
  obtain ⟨n, -, hrow⟩ := Except.bind_ok.1 hrow
  obtain ⟨w, -, hrow⟩ := Except.bind_ok.1 hrow
  obtain ⟨t, ht, hrow⟩ := Except.bind_ok.1 hrow
  obtain ⟨k, -, hrow⟩ := Except.bind_ok.1 hrow
  obtain rfl := Except.ok.inj hrow
  exact ⟨rfl, ht⟩

/-- Validation reads, and does not throw on a record that was stored. -/
lemma validateRecord_run {h : Digest} {r : Except Fault (Option String)}
    (hh : requestHash rt.toRuntime actor deviceId record = .ok h) (hstore : Storable rt record h)
    (hrun : (validateRecord rt actor deviceId policy record).run s inputs = some (r, t)) :
    (∃ o, r = .ok o) ∧ t = s := by
  obtain ⟨⟨c, hc⟩, -, w, hw⟩ := requestHash_ok hh
  obtain ⟨row, hrow⟩ := hstore
  have hdate := (newAttempt_ok hrow).2
  unfold validateRecord at hrun
  rw [hdate] at hrun
  split at hrun
  · obtain ⟨-, rfl, rfl⟩ := run_done.1 hrun
    exact ⟨⟨_, rfl⟩, rfl⟩
  split at hrun
  · obtain ⟨-, rfl, rfl⟩ := run_done.1 hrun
    exact ⟨⟨_, rfl⟩, rfl⟩
  simp only [ofExcept_ok_bind, hw, hc] at hrun
  obtain ⟨now, afterClock, -, hclock⟩ := run_statement_bind.1 hrun
  split at hclock
  · obtain ⟨-, rfl, rfl⟩ := run_done.1 hclock
    exact ⟨⟨_, rfl⟩, rfl⟩
  obtain ⟨_, afterDevice, -, hdevice⟩ := run_statement_bind.1 hclock
  split at hdevice
  · obtain ⟨-, rfl, rfl⟩ := run_done.1 hdevice
    exact ⟨⟨_, rfl⟩, rfl⟩
  obtain ⟨_, _, -, hcard⟩ := run_statement_bind.1 hdevice
  obtain ⟨-, rfl, rfl⟩ := run_done.1 hcard
  exact ⟨⟨_, rfl⟩, rfl⟩

lemma run_within_db {α : Type} {p : RequestProcess α} {r : Except Fault α} :
    (p.within SyncState.db SyncState.withDb).run s inputs = some (r, t) ↔
      ∃ db, p.run s.db inputs = some (r, db) ∧ t = s.withDb db := by
  have hget : ∀ db (s : SyncState), (s.withDb db).db = db := fun _ _ => rfl
  have hput : ∀ db db' (s : SyncState), (s.withDb db').withDb db = s.withDb db := fun _ _ _ => rfl
  exact run_within hget hput rfl

lemma delegatedEarn_run {r : Except Fault Response}
    (hrun : (delegatedEarn rt actor record).run s inputs = some (r, t)) :
    t.attempts = s.attempts := by
  unfold delegatedEarn at hrun
  rcases run_bind.1 hrun with ⟨dto, u, _, _, -, hdto, hearn⟩ | ⟨e, hdto, -⟩
  · obtain ⟨-, -, rfl⟩ := run_ofExcept.1 hdto
    obtain ⟨db, -, rfl⟩ := run_within_db.1 hearn
    rfl
  · obtain ⟨-, -, rfl⟩ := run_ofExcept.1 hdto
    rfl

lemma earning_run {r : Except Fault OfflineEarnBatchRecordResult}
    (hrun : ((do
        let response ← delegatedEarn rt actor record
        pure (earnResult record.localId response) : SyncProcess _).catching
          fun e => pure (mapEarnFailure record.localId e)).run s inputs = some (r, t)) :
    (∃ result, r = .ok result) ∧ t.attempts = s.attempts := by
  have hkeeps : ∀ {r : Except Fault OfflineEarnBatchRecordResult} {u inputs},
      ((do
        let response ← delegatedEarn rt actor record
        pure (earnResult record.localId response) : SyncProcess _)).run s inputs = some (r, u) →
      u.attempts = s.attempts := by
    intro r u inputs h
    rcases run_bind.1 h with ⟨response, v, _, _, -, hearn, h⟩ | ⟨e, hearn, -⟩
    · obtain ⟨-, -, rfl⟩ := run_done.1 h
      exact delegatedEarn_run hearn
    · exact delegatedEarn_run hearn
  rcases run_catching.1 hrun with ⟨result, hok, rfl⟩ | ⟨e, u, _, _, -, hfail, hrun⟩
  · exact ⟨⟨result, rfl⟩, hkeeps hok⟩
  · obtain ⟨-, rfl, rfl⟩ := run_done.1 hrun
    exact ⟨⟨_, rfl⟩, hkeeps hfail⟩

lemma persistResult_run {key : OfflineAttemptKey} {result : OfflineEarnBatchRecordResult}
    {r : Except Fault OfflineEarnBatchRecordResult} {row : OfflineSyncAttempt}
    (hrow : s.attempts key = some row)
    (hrun : (persistResult key result).run s inputs = some (r, t)) :
    r = .ok result ∧
      ∃ now, t = s.withAttempt key (OfflineSyncAttempt.withResult row result now) := by
  unfold persistResult at hrun
  obtain ⟨i, -, heq⟩ := run_attempt.1 hrun
  rw [hrow] at heq
  obtain ⟨rfl, rfl⟩ := Prod.mk.inj heq
  exact ⟨rfl, i.now, rfl⟩

/-- Whatever the earn does, a submitted record gets a result, and only its row changes. -/
lemma submitRecord_run {h : Digest} {r : Except Fault OfflineEarnBatchRecordResult}
    {row : OfflineSyncAttempt} (hh : requestHash rt.toRuntime actor deviceId record = .ok h)
    (hstore : Storable rt record h)
    (hrow : s.attempts (key actor deviceId record.localId) = some row)
    (hrun : (submitRecord rt actor deviceId policy record).run s inputs = some (r, t)) :
    (∃ result, r = .ok result) ∧ ∃ result now,
      t.attempts = Function.update s.attempts (key actor deviceId record.localId)
        (some (OfflineSyncAttempt.withResult row result now)) := by
  unfold submitRecord at hrun
  rcases run_bind.1 hrun with ⟨error, u, _, _, -, hvalid, hsubmit⟩ | ⟨e, hvalid, -⟩
  · obtain ⟨-, rfl⟩ := validateRecord_run hh hstore hvalid
    cases error with
    | some code =>
        obtain ⟨rfl, now, rfl⟩ := persistResult_run hrow hsubmit
        exact ⟨⟨_, rfl⟩, _, now, rfl⟩
    | none =>
        rcases run_bind.1 hsubmit with ⟨result, v, _, _, -, hearn, hpersist⟩ | ⟨e, hearn, -⟩
        · have hsame := (earning_run hearn).2
          rw [← hsame] at hrow
          obtain ⟨rfl, now, rfl⟩ := persistResult_run hrow hpersist
          exact ⟨⟨_, rfl⟩, _, now, by rw [← hsame]; rfl⟩
        · obtain ⟨⟨_, hbad⟩, -⟩ := earning_run hearn
          cases hbad
  · obtain ⟨⟨_, hbad⟩, -⟩ := validateRecord_run hh hstore hvalid
    cases hbad

lemma waitForOfflineSyncReplay_run {key : OfflineAttemptKey} {h : Digest} {attempts : Nat}
    {r : Except Fault (Option OfflineEarnBatchRecordResult)}
    (hrun : (waitForOfflineSyncReplay key h attempts).run s inputs = some (r, t)) :
    (∃ o, r = .ok o) ∧ t = s := by
  induction attempts generalizing inputs with
  | zero =>
      obtain ⟨-, rfl, rfl⟩ := run_done.1 hrun
      exact ⟨⟨_, rfl⟩, rfl⟩
  | succ attempts ih =>
      obtain ⟨_, rest, -, hfound⟩ := run_statement_bind.1 hrun
      split at hfound
      · obtain ⟨-, rfl, rfl⟩ := run_done.1 hfound
        exact ⟨⟨_, rfl⟩, rfl⟩
      split at hfound
      · obtain ⟨-, rfl, rfl⟩ := run_done.1 hfound
        exact ⟨⟨_, rfl⟩, rfl⟩
      split at hfound
      · obtain ⟨-, rfl, rfl⟩ := run_done.1 hfound
        exact ⟨⟨_, rfl⟩, rfl⟩
      · exact ih hfound

lemma replayAttempt_run {key : OfflineAttemptKey} {h : Digest} {localId : String}
    {row : OfflineSyncAttempt} {r : Except Fault OfflineEarnBatchRecordResult}
    (hrun : (replayAttempt key h localId row).run s inputs = some (r, t)) :
    (∃ result, r = .ok result) ∧ t = s ∧
      (row.requestHash ≠ h → r = .ok (buildRejectedResult localId "SYNC_RECORD_CONFLICT")) := by
  unfold replayAttempt at hrun
  split at hrun
  · obtain ⟨-, rfl, rfl⟩ := run_done.1 hrun
    exact ⟨⟨_, rfl⟩, rfl, fun _ => rfl⟩
  rename_i hsame
  split at hrun
  · obtain ⟨-, rfl, rfl⟩ := run_done.1 hrun
    exact ⟨⟨_, rfl⟩, rfl, fun hne => absurd hne hsame⟩
  rcases run_bind.1 hrun with ⟨replay, u, _, _, -, hwait, hreplay⟩ | ⟨e, hwait, -⟩
  · obtain ⟨-, rfl⟩ := waitForOfflineSyncReplay_run hwait
    cases replay <;>
    · obtain ⟨-, rfl, rfl⟩ := run_done.1 hreplay
      exact ⟨⟨_, rfl⟩, rfl, fun hne => absurd hne hsame⟩
  · obtain ⟨⟨_, hbad⟩, -⟩ := waitForOfflineSyncReplay_run hwait
    cases hbad

/-- What processing a record does, by what it is found to be. -/
inductive Processed (rt : OfflineSyncRuntime) (actor : AuthContext) (deviceId : String)
    (record : OfflineEarnBatchRecordInput) (s : SyncState) :
    Except Fault OfflineEarnBatchRecordResult → SyncState → Prop
  /-- The exception leaves the loop over the records. -/
  | throws {e} (h : ¬ Processable rt actor deviceId (owners actor deviceId s) record) :
      Processed rt actor deviceId record s (.error e) s
  | replayed {h row result} (hash : requestHash rt.toRuntime actor deviceId record = .ok h)
      (taken : s.attempts (key actor deviceId record.localId) = some row)
      (conflict : row.requestHash ≠ h →
        result = buildRejectedResult record.localId "SYNC_RECORD_CONFLICT") :
      Processed rt actor deviceId record s (.ok result) s
  | submitted {h row result stored now t}
      (hash : requestHash rt.toRuntime actor deviceId record = .ok h)
      (new : s.attempts (key actor deviceId record.localId) = none)
      (created : newAttempt rt h record = .ok row)
      (frame : t.attempts = Function.update s.attempts (key actor deviceId record.localId)
        (some (OfflineSyncAttempt.withResult row stored now))) :
      Processed rt actor deviceId record s (.ok result) t

theorem processRecord_run {r : Except Fault OfflineEarnBatchRecordResult}
    (hrun : (processRecord rt actor deviceId policy record).run s inputs = some (r, t)) :
    Processed rt actor deviceId record s r t := by
  unfold processRecord at hrun
  cases hh : requestHash rt.toRuntime actor deviceId record with
  | error e =>
      rw [hh, ofExcept_error_bind] at hrun
      obtain ⟨-, rfl, rfl⟩ := run_fail.1 hrun
      exact .throws fun ⟨_, hok, _⟩ => by rw [hh] at hok; cases hok
  | ok h =>
      rw [hh, ofExcept_ok_bind] at hrun
      obtain ⟨_, rest, -, hfound⟩ := run_statement_bind.1 hrun
      cases hrow : s.attempts (key actor deviceId record.localId) with
      | some row =>
          simp only [hrow] at hfound
          obtain ⟨⟨result, rfl⟩, rfl, hconflict⟩ := replayAttempt_run hfound
          exact .replayed hh hrow fun hne => Except.ok.inj (hconflict hne)
      | none =>
          simp only [hrow] at hfound
          cases hnew : newAttempt rt h record with
          | error e =>
              rw [hnew, ofExcept_error_bind] at hfound
              obtain ⟨-, rfl, rfl⟩ := run_fail.1 hfound
              refine .throws fun ⟨h', hok, hstore⟩ => ?_
              obtain rfl : h = h' := Except.ok.inj (hh.symm.trans hok)
              obtain ⟨row, hrow'⟩ := hstore (by simp [owners, hrow])
              rw [hnew] at hrow'
              cases hrow'
          | ok row =>
              rw [hnew, ofExcept_ok_bind] at hfound
              obtain ⟨_, rest', -, hcreated⟩ := run_statement_bind.1 hfound
              simp only [hrow, Option.isSome_none, Bool.false_eq_true, if_false,
                if_true] at hcreated
              have hown : (s.withAttempt (key actor deviceId record.localId) row).attempts
                  (key actor deviceId record.localId) = some row := by
                simp [SyncState.withAttempt]
              obtain ⟨⟨result, rfl⟩, stored, now, hframe⟩ :=
                submitRecord_run hh ⟨row, hnew⟩ hown hcreated
              have hupdate : t.attempts = Function.update s.attempts
                  (key actor deviceId record.localId)
                  (some (OfflineSyncAttempt.withResult row stored now)) := by
                rw [hframe, SyncState.withAttempt, Function.update_idem]
              exact .submitted hh hrow hnew hupdate

variable {result : OfflineEarnBatchRecordResult}

lemma Processed.processable (h : Processed rt actor deviceId record s (.ok result) t) :
    Processable rt actor deviceId (owners actor deviceId s) record := by
  cases h with
  | replayed hash taken _ => exact ⟨_, hash, fun hnone => by simp [owners, taken] at hnone⟩
  | submitted hash _ created _ => exact ⟨_, hash, fun _ => ⟨_, created⟩⟩

lemma Processed.owners (h : Processed rt actor deviceId record s (.ok result) t) :
    owners actor deviceId t = claimId rt actor deviceId (owners actor deviceId s) record := by
  cases h with
  | replayed hash taken _ => simp [claimId, hash, OfflineSyncService.owners, taken]
  | @submitted h row _ stored now _ hash new created frame =>
      have hnone : OfflineSyncService.owners actor deviceId s record.localId = none := by
        simp [OfflineSyncService.owners, new]
      have hclaim : claimId rt actor deviceId (OfflineSyncService.owners actor deviceId s) record =
          Function.update (OfflineSyncService.owners actor deviceId s) record.localId (some h) := by
        simp only [claimId, hash, hnone]
      rw [hclaim]
      ext1 localId
      by_cases heq : localId = record.localId
      · subst heq
        simp [OfflineSyncService.owners, frame, OfflineSyncAttempt.withResult,
          (newAttempt_ok created).1]
      · simp [OfflineSyncService.owners, frame, heq, key]

lemma Processed.bad (h : Processed rt actor deviceId record s (.ok result) t)
    (hbad : Bad rt actor deviceId (OfflineSyncService.owners actor deviceId s) record) :
    t = s ∧ result = buildRejectedResult record.localId "SYNC_RECORD_CONFLICT" := by
  unfold Bad at hbad
  cases h with
  | replayed hash taken conflict =>
      simp only [hash, OfflineSyncService.owners, taken, Option.map_some] at hbad
      exact ⟨rfl, conflict hbad⟩
  | submitted hash new created _ =>
      simp only [hash, OfflineSyncService.owners, new, Option.map_none] at hbad
      exact absurd ⟨_, created⟩ hbad

/-! ### The loop over the records -/

/-- A loop that ends well has processed every record it found processable. -/
lemma collect_ok {records : List OfflineEarnBatchRecordInput}
    {results : List OfflineEarnBatchRecordResult}
    (hrun : (collect (processRecord rt actor deviceId policy) records).run s inputs =
      some (.ok results, t)) :
    (∀ pre record post, records = pre ++ record :: post →
      Processable rt actor deviceId (claimed rt actor deviceId (owners actor deviceId s) pre)
        record) ∧
    owners actor deviceId t = claimed rt actor deviceId (owners actor deviceId s) records := by
  induction records generalizing s inputs results with
  | nil =>
      obtain ⟨-, -, rfl⟩ := run_done.1 hrun
      exact ⟨fun pre record post h => by simp at h, rfl⟩
  | cons record records ih =>
      rcases run_collect_cons.1 hrun with
        ⟨result, u, _, _, -, hrecord, ⟨rest, hrest, -⟩ | ⟨e, -, hr⟩⟩ | ⟨e, -, hr⟩
      · have hprocessed := processRecord_run hrecord
        obtain ⟨hprocessable, howners⟩ := ih hrest
        rw [hprocessed.owners] at hprocessable howners
        refine ⟨fun pre other post h => ?_, howners⟩
        cases pre with
        | nil =>
            obtain ⟨rfl, -⟩ := List.cons.inj h
            exact hprocessed.processable
        | cons first pre =>
            obtain ⟨rfl, hrecords⟩ := List.cons.inj h
            exact hprocessable pre other post hrecords
      · cases hr
      · cases hr

lemma collect_error {records : List OfflineEarnBatchRecordInput} {e : Fault}
    (hrun : (collect (processRecord rt actor deviceId policy) records).run s inputs =
      some (.error e, t)) :
    ∃ pre record post, records = pre ++ record :: post ∧
      ¬ Processable rt actor deviceId (claimed rt actor deviceId (owners actor deviceId s) pre)
        record := by
  induction records generalizing s inputs e with
  | nil =>
      obtain ⟨-, hr, -⟩ := run_done.1 hrun
      cases hr
  | cons record records ih =>
      rcases run_collect_cons.1 hrun with
        ⟨result, u, _, _, -, hrecord, ⟨rest, -, hr⟩ | ⟨e', hrest, -⟩⟩ | ⟨e', hrecord, -⟩
      · cases hr
      · obtain ⟨pre, other, post, rfl, hbad⟩ := ih hrest
        rw [(processRecord_run hrecord).owners] at hbad
        exact ⟨record :: pre, other, post, rfl, hbad⟩
      · cases processRecord_run hrecord with
        | throws h => exact ⟨[], record, records, rfl, h⟩

/-- Leaving out a bad record that was answered changes nothing for the others. -/
lemma collect_without {pre post : List OfflineEarnBatchRecordInput}
    {bad : OfflineEarnBatchRecordInput} {results : List OfflineEarnBatchRecordResult}
    (hrun : (collect (processRecord rt actor deviceId policy) (pre ++ bad :: post)).run s inputs =
      some (.ok results, t))
    (hbad : Bad rt actor deviceId
      (claimed rt actor deviceId (owners actor deviceId s) pre) bad) :
    ∃ resultsPre result resultsPost before own after,
      results = resultsPre ++ result :: resultsPost ∧ resultsPre.length = pre.length ∧
      inputs = before ++ own ++ after ∧
      result = buildRejectedResult bad.localId "SYNC_RECORD_CONFLICT" ∧
      (collect (processRecord rt actor deviceId policy) (pre ++ post)).run s (before ++ after) =
        some (.ok (resultsPre ++ resultsPost), t) := by
  obtain ⟨resultsPre, rest, u, before, ownAfter, rfl, rfl, hpre, hrest⟩ :=
    run_collect_append.1 hrun
  rcases run_collect_cons.1 hrest with
    ⟨result, v, own, after, rfl, hown, ⟨resultsPost, hpost, hresults⟩ | ⟨e, -, hr⟩⟩ | ⟨e, -, hr⟩
  · rw [← (collect_ok hpre).2] at hbad
    obtain ⟨rfl, hresult⟩ := (processRecord_run hown).bad hbad
    refine ⟨resultsPre, result, resultsPost, before, own, after, ?_, run_collect_length hpre,
      by simp, hresult, ?_⟩
    · rw [Except.ok.inj hresults]
    · exact run_collect_append.2 ⟨resultsPre, resultsPost, v, before, after, rfl, rfl, hpre, hpost⟩
  · cases hr
  · cases hr

/-! ### The batch -/

lemma refusal_eq (request request' : OfflineEarnBatchRequest)
    (hdevice : request'.deviceId = request.deviceId)
    (hlength : request'.records.length ≤ request.records.length)
    (h : refusal rt actor request = none) : refusal rt actor request' = none := by
  unfold refusal at h ⊢
  rw [hdevice]
  split_ifs at h ⊢ <;> first | rfl | omega

lemma earnBatch_run {request : OfflineEarnBatchRequest} (h : refusal rt actor request = none)
    {r : Except Fault OfflineEarnBatchResponse} :
    (earnBatch rt actor request).run s inputs = some (r, t) ↔
      (∃ results, (collect (processRecord rt actor request.deviceId (getOfflineSyncPolicy rt))
        request.records).run s inputs = some (.ok results, t) ∧
        r = .ok ⟨request.deviceId, results⟩) ∨
      ∃ e, (collect (processRecord rt actor request.deviceId (getOfflineSyncPolicy rt))
        request.records).run s inputs = some (.error e, t) ∧ r = .error e := by
  unfold earnBatch
  rw [h, run_bind]
  refine or_congr ?_ Iff.rfl
  constructor
  · rintro ⟨results, u, before, after, rfl, hrecords, hdone⟩
    obtain ⟨rfl, rfl, rfl⟩ := run_done.1 hdone
    exact ⟨results, by simpa using hrecords, rfl⟩
  · rintro ⟨results, hrecords, rfl⟩
    exact ⟨results, t, inputs, [], by simp, hrecords, run_done.2 ⟨rfl, rfl, rfl⟩⟩

lemma Admitted.of_ok {request : OfflineEarnBatchRequest} {response : OfflineEarnBatchResponse}
    (hrun : (earnBatch rt actor request).run s inputs = some (.ok response, t)) :
    Admitted rt actor request s := by
  cases hrefusal : refusal rt actor request with
  | some e =>
      unfold earnBatch at hrun
      rw [hrefusal] at hrun
      obtain ⟨-, hr, -⟩ := run_fail.1 hrun
      cases hr
  | none =>
      rcases (earnBatch_run hrefusal).1 hrun with ⟨results, hrecords, -⟩ | ⟨e, -, hr⟩
      · exact ⟨hrefusal, (collect_ok hrecords).1⟩
      · cases hr

end OfflineSyncService

/-! ### A till that comes back online -/

namespace Shop

def tillId : String := "0b0e5a5e-55f5-4c0e-9d8b-0f2f6d1c7a01"

/-- The shop, with a till that is named as tills are. -/
def onlineAgain : SyncState where
  db := .initial { registry with
    devices := fun d => if d = tillId then some ⟨"tenant", "branch", .ACTIVE⟩ else none }
  attempts _ := none

def syncRuntime : OfflineSyncRuntime where
  toRuntime := runtime
  OFFLINE_SYNC_MAX_RECORDS := none
  OFFLINE_EARN_MAX_AGE_HOURS := none
  parse text :=
    if text = "2023-11-14T22:13:20.000Z" then some night
    else if text = "2023-11-13T00:00:00.000Z" then some 1699833600000
    else none

def mobileCashier : AuthContext where
  id := "5c6d4f0a-8a7e-4b44-8f2b-9d3b1a2e7c10"
  tenantId := "tenant"
  branchId := some "branch"
  role := .CASHIER
  deviceId := some tillId

def offlineRecord (localId receiptNumber receiptWeekStart : String) :
    OfflineEarnBatchRecordInput where
  localId := localId
  idempotencyKey := localId
  cashierId := mobileCashier.id
  branchId := "branch"
  cardBarcode := "CARD"
  receiptNumber := receiptNumber
  receiptWeekStart := receiptWeekStart
  purchaseAmountKobo := 1000000
  occurredAtLocal := "2023-11-14T22:13:20.000Z"

def saleA : OfflineEarnBatchRecordInput :=
  offlineRecord "2f8b7a54-1c0d-4e6f-8a9b-3c4d5e6f7a01" "A1" "2023-11-13"

/-- The local id of the first sale, with another receipt. -/
def saleAgain : OfflineEarnBatchRecordInput := { saleA with receiptNumber := "A2" }

/-- A sale whose week is no date. -/
def saleOfNoWeek : OfflineEarnBatchRecordInput :=
  offlineRecord "2f8b7a54-1c0d-4e6f-8a9b-3c4d5e6f7a02" "A3" "this week"

/-- So many statements at night, each of them accepted. -/
def quiet (n : Nat) : List RequestInput := List.replicate n ⟨night, .accepted⟩

def statuses : Except Fault OfflineEarnBatchResponse → List OfflineSyncRecordStatus
  | .ok response => response.records.map (·.status)
  | .error _ => []

end Shop

namespace OfflineSyncService

end OfflineSyncService

end ShopcityLoyalty
