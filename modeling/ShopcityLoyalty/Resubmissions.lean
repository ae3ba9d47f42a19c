import ShopcityLoyalty.BatchIsolation
import ShopcityLoyalty.Lib.Interference

/-!
Records that are submitted again.

The row of a record is created before the record is earned and is never removed. Whoever finds
the row answers from it, also where the answer was that the record should be tried again, and
also where the batch that created it stopped before it had an answer.
-/

namespace ShopcityLoyalty

open Process

/-- Rows stay, each for the request it was created for. -/
def AttemptsKept (s t : SyncState) : Prop :=
  ∀ key row, s.attempts key = some row →
    ∃ row', t.attempts key = some row' ∧ row'.requestHash = row.requestHash

lemma AttemptsKept.refl (s : SyncState) : AttemptsKept s s := fun _ row h => ⟨row, h, rfl⟩

lemma AttemptsKept.trans {s t u : SyncState} (h : AttemptsKept s t) (h' : AttemptsKept t u) :
    AttemptsKept s u := by
  intro key row hrow
  obtain ⟨row', hrow', hsame⟩ := h key row hrow
  obtain ⟨row'', hrow'', hsame'⟩ := h' key row' hrow'
  exact ⟨row'', hrow'', hsame'.trans hsame⟩

lemma attemptsKept_withDb (db : Database) (s : SyncState) : AttemptsKept s (s.withDb db) :=
  fun _ row h => ⟨row, h, rfl⟩

lemma attemptsKept_withAttempt {s : SyncState} {key : OfflineAttemptKey} {row : OfflineSyncAttempt}
    (h : ∀ old, s.attempts key = some old → row.requestHash = old.requestHash) :
    AttemptsKept s (s.withAttempt key row) := by
  intro key' old hold
  by_cases hkey : key' = key
  · subst hkey
    exact ⟨row, by simp [SyncState.withAttempt], h old hold⟩
  · exact ⟨old, by simpa [SyncState.withAttempt, hkey] using hold, rfl⟩

namespace OfflineSyncService

variable {rt : OfflineSyncRuntime} {actor : AuthContext} {deviceId : String}
  {policy : OfflineSyncPolicy} {record : OfflineEarnBatchRecordInput} {s t : SyncState}

/-! ### What the server's statements keep -/

lemma stays_read {α : Type} (f : RequestInput → SyncState → α) :
    Stays AttemptsKept (statement fun env s => (f env s, s) : SyncProcess α) :=
  stays_statement fun _ s => .refl s

lemma stays_delegatedEarn : Stays AttemptsKept (delegatedEarn rt actor record) :=
  (stays_ofExcept _).bind fun _ => stays_within (fun db s => attemptsKept_withDb db s) _

lemma stays_validateRecord :
    Stays AttemptsKept (validateRecord rt actor deviceId policy record) := by
  unfold validateRecord
  split
  · exact within_done
  split
  · exact within_done
  refine (stays_ofExcept _).bind fun occurredAt => (stays_read _).bind fun now => ?_
  split
  · exact within_done
  refine (stays_read _).bind fun device => (stays_ofExcept _).bind fun week => ?_
  split
  · exact within_done
  · exact (stays_ofExcept _).bind fun barcode => (stays_read _).bind fun _ => within_done

lemma stays_persistResult {key : OfflineAttemptKey} {result : OfflineEarnBatchRecordResult} :
    Stays AttemptsKept (persistResult key result) := by
  refine stays_attempt fun env s => ?_
  cases hrow : s.attempts key with
  | none => exact .refl s
  | some row =>
      refine attemptsKept_withAttempt fun old hold => ?_
      obtain rfl : row = old := Option.some.inj (hrow.symm.trans hold)
      rfl

lemma stays_submitRecord : Stays AttemptsKept (submitRecord rt actor deviceId policy record) := by
  unfold submitRecord
  refine stays_validateRecord.bind fun error => ?_
  cases error with
  | some code => exact stays_persistResult
  | none =>
      dsimp only
      refine Stays.bind ?_ ?_
      · refine Stays.catching ?_ ?_
        · exact Stays.bind stays_delegatedEarn fun _ => stays_pure _
        · exact fun e => stays_pure _
      · exact fun result => stays_persistResult

lemma stays_waitForOfflineSyncReplay {key : OfflineAttemptKey} {h : Digest} (attempts : Nat) :
    Stays AttemptsKept (waitForOfflineSyncReplay key h attempts) := by
  induction attempts with
  | zero => exact within_done
  | succ attempts ih =>
      refine (stays_read _).bind fun found => ?_
      cases found with
      | none => exact within_done
      | some row =>
          dsimp only
          split
          · exact within_done
          split
          · exact within_done
          · exact ih

lemma stays_replayAttempt {key : OfflineAttemptKey} {h : Digest} {localId : String}
    {row : OfflineSyncAttempt} : Stays AttemptsKept (replayAttempt key h localId row) := by
  unfold replayAttempt
  split
  · exact within_done
  split
  · exact within_done
  · refine (stays_waitForOfflineSyncReplay _).bind fun replay => ?_
    cases replay <;> exact within_done

/-! ### Records that have a row -/

/-- The record has a row, created for it. -/
def Attempted (rt : OfflineSyncRuntime) (actor : AuthContext) (deviceId : String)
    (record : OfflineEarnBatchRecordInput) (s : SyncState) : Prop :=
  ∃ row, s.attempts (key actor deviceId record.localId) = some row ∧
    requestHash rt.toRuntime actor deviceId record = .ok row.requestHash

lemma Attempted.kept (h : Attempted rt actor deviceId record s) (hkept : AttemptsKept s t) :
    Attempted rt actor deviceId record t := by
  obtain ⟨row, hrow, hhash⟩ := h
  obtain ⟨row', hrow', hsame⟩ := hkept _ row hrow
  exact ⟨row', hrow', hhash.trans (by rw [hsame])⟩

lemma Attempted.of_tenant {actor' : AuthContext} (h : Attempted rt actor deviceId record s)
    (htenant : actor'.tenantId = actor.tenantId) : Attempted rt actor' deviceId record s := by
  obtain ⟨row, hrow, hhash⟩ := h
  refine ⟨row, ?_, ?_⟩
  · rw [key, htenant]
    exact hrow
  · rw [← hhash]
    unfold requestHash requestText
    rw [htenant]

lemma stays_attempted (rt : OfflineSyncRuntime) (actor : AuthContext) (deviceId : String)
    (record : OfflineEarnBatchRecordInput) {α : Type} {p : SyncProcess α}
    (h : Stays AttemptsKept p) :
    Triple (Contract.within AttemptsKept fun _ _ => True)
      (fun s => Attempted rt actor deviceId record s.1) p
      fun _ s => Attempted rt actor deviceId record s.1 :=
  Stays.keeps (fun _ _ hs hkept => Attempted.kept hs hkept) h

/-- A result that asks for another try has a row behind it. -/
def Backed (rt : OfflineSyncRuntime) (actor : AuthContext) (deviceId : String)
    (record : OfflineEarnBatchRecordInput) (result : OfflineEarnBatchRecordResult) (s : SyncState) :
    Prop :=
  result.retryable = true → Attempted rt actor deviceId record s

lemma Backed.kept {result : OfflineEarnBatchRecordResult}
    (h : Backed rt actor deviceId record result s) (hkept : AttemptsKept s t) :
    Backed rt actor deviceId record result t :=
  fun hretryable => (h hretryable).kept hkept

/-- What holds of the result of a process that does not fail. -/
def OnOk {α : Type} (J : α → SyncState → Prop) : Except Fault α → SyncState × Unit → Prop
  | .ok a, s => J a s.1
  | .error _, _ => True

lemma replayAttempt_backed {h : Digest} {row : OfflineSyncAttempt}
    (hhash : requestHash rt.toRuntime actor deviceId record = .ok h) :
    Triple (Contract.within AttemptsKept fun _ _ => True)
      (fun s => ∃ row', s.1.attempts (key actor deviceId record.localId) = some row' ∧
        row'.requestHash = row.requestHash)
      (replayAttempt (key actor deviceId record.localId) h record.localId row)
      (OnOk (Backed rt actor deviceId record)) := by
  by_cases hsame : row.requestHash = h
  · refine (stays_attempted rt actor deviceId record stays_replayAttempt).consequence ?_ ?_
    · rintro s ⟨row', hrow', heq⟩
      exact ⟨row', hrow', by rw [hhash, heq, hsame]⟩
    · intro r s hattempted
      cases r with
      | ok result => exact fun _ => hattempted
      | error e => trivial
  · unfold replayAttempt
    rw [if_pos hsame]
    refine triple_done fun s _ hretryable => ?_
    cases hretryable

/-- **A record that is to be tried again has a row**, which stays. -/
theorem processRecord_backed :
    Triple (Contract.within AttemptsKept fun _ _ => True) (fun _ => True)
      (processRecord rt actor deviceId policy record) (OnOk (Backed rt actor deviceId record)) := by
  have hread : ∀ J : Option OfflineSyncAttempt → SyncState → Prop,
      (∀ s : SyncState, J (s.attempts (key actor deviceId record.localId)) s) →
      Triple (Contract.within AttemptsKept fun _ _ => True) (fun _ => True)
        (findAttempt (key actor deviceId record.localId)) (OnOk J) := by
    intro J hJ
    exact triple_statement (fun _ _ _ _ => trivial) fun s i _ _ => ⟨(), .refl _, hJ s.1⟩
  have hfound : ∀ h, requestHash rt.toRuntime actor deviceId record = .ok h → ∀ row,
      Triple (Contract.within AttemptsKept fun _ _ => True)
        (fun s => s.1.attempts (key actor deviceId record.localId) = some row)
        (replayAttempt (key actor deviceId record.localId) h record.localId row)
        (OnOk (Backed rt actor deviceId record)) := fun h hhash row =>
    (replayAttempt_backed hhash).consequence (fun s hs => ⟨row, hs, rfl⟩) fun _ _ hr => hr
  unfold processRecord
  cases hhash : requestHash rt.toRuntime actor deviceId record with
  | error e => exact triple_fail fun _ _ => trivial
  | ok h =>
      refine (hread (fun found s => s.attempts (key actor deviceId record.localId) = found)
        fun _ => rfl).bind (fun found => ?_) fun _ _ _ => trivial
      cases found with
      | some row => exact hfound h hhash row
      | none =>
          cases hnew : newAttempt rt h record with
          | error e => exact triple_fail fun _ _ => trivial
          | ok row =>
              rw [ofExcept_ok_bind]
              have hcreate : Triple (Contract.within AttemptsKept fun _ _ => True) (fun _ => True)
                  (createAttempt (key actor deviceId record.localId) row)
                  (OnOk fun created s => created = true →
                    Attempted rt actor deviceId record s) := by
                refine triple_statement (fun _ _ _ _ => trivial) fun s i _ _ => ⟨(), ?_, ?_⟩
                · change AttemptsKept s.1 _
                  cases hold : s.1.attempts (key actor deviceId record.localId) with
                  | some old => simpa [hold] using AttemptsKept.refl s.1
                  | none =>
                      simp only [Option.isSome_none, Bool.false_eq_true, if_false]
                      exact attemptsKept_withAttempt fun old hold' => by
                        rw [hold] at hold'; cases hold'
                · change _ → _
                  cases hold : s.1.attempts (key actor deviceId record.localId) with
                  | some old => simp
                  | none =>
                      intro _
                      refine ⟨row, ?_, by rw [hhash, (newAttempt_ok hnew).1]⟩
                      simp [SyncState.withAttempt]
              refine Triple.bind (hcreate.consequence (fun _ _ => trivial) fun _ _ hr => hr)
                (fun created => ?_) fun _ _ _ => trivial
              cases created with
              | true =>
                  refine (stays_attempted rt actor deviceId record
                    stays_submitRecord).consequence (fun s hs => hs rfl) ?_
                  intro r s hattempted
                  cases r with
                  | ok result => exact fun _ => hattempted
                  | error e => trivial
              -- another batch took the key in between: its attempt is read and replayed
              | false =>
                  refine Triple.bind ((hread (fun found s =>
                    s.attempts (key actor deviceId record.localId) = found) fun _ =>
                      rfl).consequence (fun _ _ => trivial) fun _ _ hr => hr)
                    (fun found => ?_) fun _ _ _ => trivial
                  cases found with
                  | some row => exact hfound h hhash row
                  | none => exact triple_fail fun _ _ => trivial

/-! ### Batches -/

/-- The results that ask for another try have rows behind them. -/
def BackedAll (rt : OfflineSyncRuntime) (actor : AuthContext) (deviceId : String)
    (records : List OfflineEarnBatchRecordInput) (results : List OfflineEarnBatchRecordResult)
    (s : SyncState) : Prop :=
  List.Forall₂ (fun record result => Backed rt actor deviceId record result s) records results

lemma BackedAll.kept {records : List OfflineEarnBatchRecordInput}
    {results : List OfflineEarnBatchRecordResult}
    (h : BackedAll rt actor deviceId records results s) (hkept : AttemptsKept s t) :
    BackedAll rt actor deviceId records results t :=
  h.imp fun _ _ hbacked => hbacked.kept hkept

lemma earnBatch_backed (rt : OfflineSyncRuntime) (actor : AuthContext)
    (request : OfflineEarnBatchRequest) :
    Triple (Contract.within AttemptsKept fun _ _ => True) (fun _ => True)
      (earnBatch rt actor request)
      (OnOk fun response => BackedAll rt actor request.deviceId request.records
        response.records) := by
  unfold earnBatch
  split
  · exact triple_fail fun _ _ => trivial
  · have hloop := Triple.collect (c := Contract.within AttemptsKept fun _ _ => True)
      (I := fun records results s => BackedAll rt actor request.deviceId records results s.1)
      (E := fun (_ : Fault) _ => True)
      (f := processRecord rt actor request.deviceId (getOfflineSyncPolicy rt))
      (l := request.records) fun records results record _ => by
        intro s hs
        refine ((processRecord_backed s trivial).keeping
          (fun _ _ hbacked hkept => hbacked.kept hkept) hs).weaken fun r t ⟨hr, ht⟩ => ?_
        cases r with
        | ok result => exact List.rel_append ht (.cons hr .nil)
        | error e => trivial
    refine Triple.bind (hloop.consequence (fun _ _ => .nil) fun _ _ hr => hr) (fun results => ?_)
      fun _ _ _ => trivial
    exact triple_done fun s hs => hs

end OfflineSyncService

/-! ### The server -/

/-- What the server is asked for: a batch, or something else. -/
inductive ServerTask (Other : Type)
  | earnBatch (actor : AuthContext) (request : OfflineEarnBatchRequest)
  | other (task : Other)

open OfflineSyncService

section server

variable {Other : Type} (rt : OfflineSyncRuntime) (others : Other → RequestProcess Unit)

/-- The processes of the server. -/
def serve : ServerTask Other → SyncProcess (Option OfflineEarnBatchResponse)
  | .earnBatch actor request => do
      let response ← earnBatch rt actor request
      pure (some response)
  | .other task => do
      (others task).within SyncState.db SyncState.withDb
      pure none

abbrev Server (Other : Type) := Pool (ServerTask Other) RequestInput SyncState Fault
  (Option OfflineEarnBatchResponse)

/-- What an answered batch says of its records. -/
def Answered : ServerTask Other → Except Fault (Option OfflineEarnBatchResponse) → SyncState → Prop
  | .earnBatch actor request, .ok (some response), s =>
      BackedAll rt actor request.deviceId request.records response.records s
  | _, _, _ => True

variable {rt others}

lemma serve_answered (task : ServerTask Other) :
    Triple (Contract.within AttemptsKept fun _ _ => True) (fun _ => True) (serve rt others task)
      fun r s => Answered rt task r s.1 := by
  cases task with
  | earnBatch actor request =>
      refine (earnBatch_backed rt actor request).bind (fun response => ?_) fun _ _ _ => trivial
      exact triple_done fun s hs => hs
  | other task =>
      refine Triple.consequence (P := fun _ => True) (Q := fun _ _ => True) ?_ (fun _ _ => trivial)
        fun r s _ => by unfold Answered; split <;> trivial
      exact (stays_within (fun db s => attemptsKept_withDb db s) _).bind fun _ => within_done

/-- **Every run** keeps the rows, and each answer stays backed by them. -/
theorem server_run {w w' : Server Other}
    (h : w.UnderPost (fun _ _ => Contract.within AttemptsKept fun _ _ => True)
      (fun _ k r s => Answered rt k r s.1) ())
    (hrun : Pool.Steps (serve rt others) w w') :
    w'.UnderPost (fun _ _ => Contract.within AttemptsKept fun _ _ => True)
      (fun _ k r s => Answered rt k r s.1) () ∧ AttemptsKept w.state w'.state := by
  refine Pool.run_within_post AttemptsKept.refl (fun _ _ _ => AttemptsKept.trans) serve_answered
    (fun k r s t hkept hr => ?_) h hrun
  unfold Answered at hr ⊢
  split
  · exact BackedAll.kept hr hkept
  · trivial

end server

/-! ### Another try -/

/-- The record is to be tried again: a batch was told so, or a batch stopped between the row of
the record and its result. -/
inductive Due {Other : Type} (rt : OfflineSyncRuntime) (actor : AuthContext) (deviceId : String)
    (record : OfflineEarnBatchRecordInput) (w : Server Other) : Prop
  | reported {n i : Nat} {actor' : AuthContext} {records : List OfflineEarnBatchRecordInput}
      {response : OfflineEarnBatchResponse} {result : OfflineEarnBatchRecordResult}
      (task : w.tasks[n]? =
        some (.earnBatch actor' ⟨deviceId, records⟩, some (.done (some response))))
      (tenantId : actor.tenantId = actor'.tenantId) (submitted : records[i]? = some record)
      (answered : response.records[i]? = some result) (retryable : result.retryable = true)
  | stopped {n : Nat} {actor' : AuthContext} {records : List OfflineEarnBatchRecordInput}
      {row : OfflineSyncAttempt}
      (task : w.tasks[n]? = some (.earnBatch actor' ⟨deviceId, records⟩, none))
      (tenantId : actor.tenantId = actor'.tenantId) (submitted : record ∈ records)
      (created : w.state.attempts (key actor deviceId record.localId) = some row)
      (hash : requestHash rt.toRuntime actor deviceId record = .ok row.requestHash)
      (unanswered : row.responseJson = none)

/-- Submitted again, the record may be tried again: whoever tries it writes, at the latest the
result. -/
def TriedAgain (rt : OfflineSyncRuntime) (actor : AuthContext) (deviceId : String)
    (policy : OfflineSyncPolicy) (record : OfflineEarnBatchRecordInput) (s : SyncState) : Prop :=
  MayWrite AttemptsKept (processRecord rt actor deviceId policy record) s

/-- The answer that a row holds. -/
def OfflineSyncAttempt.answer (row : OfflineSyncAttempt) (localId : String) :
    OfflineEarnBatchRecordResult :=
  row.responseJson.getD (buildRetryableResult localId "SYNC_RECORD_PROCESSING")

section resubmissions

variable {Other : Type} {rt : OfflineSyncRuntime} {others : Other → RequestProcess Unit}
  {actor : AuthContext} {deviceId : String} {policy : OfflineSyncPolicy}
  {record : OfflineEarnBatchRecordInput} {s t s₀ : SyncState}

lemma waitForOfflineSyncReplay_reads {key : OfflineAttemptKey} {h : Digest} (attempts : Nat)
    (s : SyncState × Unit) :
    (waitForOfflineSyncReplay key h attempts).Meets (Contract.reading AttemptsKept)
      (fun _ _ => True) s := by
  induction attempts generalizing s with
  | zero => trivial
  | succ attempts ih =>
      refine Meets.read fun u i _ => ?_
      generalize u.1.attempts key = found
      cases found with
      | none => trivial
      | some row =>
          dsimp only
          split
          · trivial
          split
          · trivial
          · exact ih _

lemma replayAttempt_reads {key : OfflineAttemptKey} {h : Digest} {localId : String}
    {row : OfflineSyncAttempt} (s : SyncState × Unit) :
    (replayAttempt key h localId row).Meets (Contract.reading AttemptsKept) (fun _ _ => True)
      s := by
  unfold replayAttempt
  split
  · trivial
  split
  · trivial
  · refine (waitForOfflineSyncReplay_reads _ s).bind (fun replay t _ => ?_) fun _ _ _ => trivial
    cases replay <;> trivial

/-- **A record with a row is not tried again.** -/
theorem OfflineSyncService.Attempted.not_triedAgain (h : Attempted rt actor deviceId record s) :
    ¬ TriedAgain rt actor deviceId policy record s := by
  obtain ⟨row, hrow, hhash⟩ := h
  refine Meets.not_mayWrite (Q := fun _ _ => True) ?_
  unfold processRecord
  rw [hhash]
  refine Meets.read fun u i hu => ?_
  obtain ⟨row', hrow', -⟩ := hu _ row hrow
  rw [hrow']
  exact replayAttempt_reads _

lemma waitForOfflineSyncReplay_none {key : OfflineAttemptKey} {row : OfflineSyncAttempt}
    {attempts : Nat} {inputs : List RequestInput}
    {r : Except Fault (Option OfflineEarnBatchRecordResult)}
    (hrow : s.attempts key = some row) (hnone : row.responseJson = none) :
    (waitForOfflineSyncReplay key row.requestHash attempts).run s inputs = some (r, t) ↔
      inputs.length = attempts ∧ r = .ok none ∧ t = s := by
  induction attempts generalizing inputs with
  | zero =>
      rw [List.length_eq_zero_iff]
      exact run_done
  | succ attempts ih =>
      unfold waitForOfflineSyncReplay findAttempt
      rw [run_statement_bind]
      simp only [hrow, hnone, ne_eq, not_true, if_false, ih]
      constructor
      · rintro ⟨_, rest, rfl, hlength, hr, ht⟩
        exact ⟨by rw [List.length_cons, hlength], hr, ht⟩
      · rintro ⟨hlength, hr, ht⟩
        obtain ⟨i, rest, rfl⟩ := List.exists_cons_of_length_eq_add_one hlength
        exact ⟨i, rest, rfl, by simpa using hlength, hr, ht⟩

/-- **A record with a row is answered from it.** -/
theorem processRecord_answer {row : OfflineSyncAttempt} {inputs : List RequestInput}
    {r : Except Fault OfflineEarnBatchRecordResult}
    (hrow : s.attempts (key actor deviceId record.localId) = some row)
    (hhash : requestHash rt.toRuntime actor deviceId record = .ok row.requestHash)
    (hrun : (processRecord rt actor deviceId policy record).run s inputs = some (r, t)) :
    r = .ok (row.answer record.localId) ∧ t = s := by
  unfold processRecord at hrun
  rw [hhash, ofExcept_ok_bind] at hrun
  obtain ⟨_, rest, -, hfound⟩ := run_statement_bind.1 hrun
  simp only [hrow, replayAttempt, ne_eq, not_true, if_false] at hfound
  unfold OfflineSyncAttempt.answer
  cases hresponse : row.responseJson with
  | some response =>
      rw [hresponse] at hfound
      obtain ⟨-, rfl, rfl⟩ := run_done.1 hfound
      exact ⟨rfl, rfl⟩
  | none =>
      rw [hresponse] at hfound
      rcases run_bind.1 hfound with ⟨replay, u, _, _, -, hwait, hreplay⟩ | ⟨e, hwait, -⟩
      · obtain ⟨-, hreplay', rfl⟩ := (waitForOfflineSyncReplay_none hrow hresponse).1 hwait
        obtain rfl := Except.ok.inj hreplay'
        obtain ⟨-, rfl, rfl⟩ := run_done.1 hreplay
        exact ⟨rfl, rfl⟩
      · obtain ⟨-, hbad, -⟩ := (waitForOfflineSyncReplay_none hrow hresponse).1 hwait
        cases hbad

lemma processRecord_unanswered (row : OfflineSyncAttempt) {inputs : List RequestInput}
    (hrow : s.attempts (key actor deviceId record.localId) = some row)
    (hhash : requestHash rt.toRuntime actor deviceId record = .ok row.requestHash)
    (hnone : row.responseJson = none)
    (hlength : inputs.length = OFFLINE_SYNC_REPLAY_RETRY_ATTEMPTS + 1) :
    (processRecord rt actor deviceId policy record).run s inputs =
      some (.ok (buildRetryableResult record.localId "SYNC_RECORD_PROCESSING"), s) := by
  obtain ⟨i, rest, rfl⟩ := List.exists_cons_of_length_eq_add_one hlength
  unfold processRecord findAttempt
  rw [hhash, ofExcept_ok_bind, run_statement_bind]
  refine ⟨i, rest, rfl, ?_⟩
  simp only [hrow, replayAttempt, ne_eq, not_true, if_false, hnone]
  refine run_bind.2 (.inl ⟨none, s, rest, [], by simp, ?_, run_done.2 ⟨rfl, rfl, rfl⟩⟩)
  exact (waitForOfflineSyncReplay_none hrow hnone).2 ⟨by simpa using hlength, rfl, rfl⟩

lemma newAttempt_unanswered {h : Digest} {row : OfflineSyncAttempt}
    (hrow : newAttempt rt h record = .ok row) : row.responseJson = none := by
  unfold newAttempt at hrow
  obtain ⟨n, -, hrow⟩ := Except.bind_ok.1 hrow
  obtain ⟨w, -, hrow⟩ := Except.bind_ok.1 hrow
  obtain ⟨t, -, hrow⟩ := Except.bind_ok.1 hrow
  obtain ⟨k, -, hrow⟩ := Except.bind_ok.1 hrow
  obtain rfl := Except.ok.inj hrow
  rfl

variable {w w' : Server Other}

lemma Due.attempted (hrun : Pool.Steps (serve rt others) (.initial s₀) w)
    (hdue : Due rt actor deviceId record w) : Attempted rt actor deviceId record w.state := by
  cases hdue with
  | @reported n i actor' records response result task tenantId submitted answered retryable =>
      obtain ⟨hunder, -⟩ := server_run (Pool.initial_under s₀) hrun
      have hbacked : BackedAll rt actor' deviceId records response.records w.state :=
        hunder n _ _ task
      obtain ⟨hlength, hget⟩ := List.forall₂_iff_get.1 hbacked
      obtain ⟨hi, hrecord⟩ := List.getElem?_eq_some_iff.1 submitted
      obtain ⟨hi', hresult⟩ := List.getElem?_eq_some_iff.1 answered
      have hone := hget i hi hi'
      simp only [List.get_eq_getElem, hrecord, hresult] at hone
      exact (hone retryable).of_tenant tenantId
  | stopped _ _ _ created hash _ => exact ⟨_, created, hash⟩

/-- **A record that is to be tried again is never tried again**: whenever it is submitted, it
is answered from its row. -/
theorem due_never_retried (policy : OfflineSyncPolicy)
    (hrun : Pool.Steps (serve rt others) (.initial s₀) w) (hdue : Due rt actor deviceId record w)
    (hlater : Pool.Steps (serve rt others) w w') :
    ¬ TriedAgain rt actor deviceId policy record w'.state ∧
      (∀ w'', Pool.Steps (serve rt others) w' w'' → AttemptsKept w'.state w''.state) ∧
      ∃ row, w'.state.attempts (key actor deviceId record.localId) = some row ∧
        ∀ inputs r t, (processRecord rt actor deviceId policy record).run w'.state inputs =
          some (r, t) → r = .ok (row.answer record.localId) ∧ t = w'.state := by
  obtain ⟨hunder, -⟩ := server_run (Pool.initial_under s₀) hrun
  obtain ⟨hunder', hkept⟩ := server_run hunder hlater
  have hattempted := (hdue.attempted hrun).kept hkept
  refine ⟨hattempted.not_triedAgain, fun w'' h => (server_run hunder' h).2, ?_⟩
  obtain ⟨row, hrow, hhash⟩ := hattempted
  exact ⟨row, hrow, fun inputs r t hone => processRecord_answer hrow hhash hone⟩

/-- **A batch may stop** right after the row of its first record. -/
theorem stopped_reachable (others : Other → RequestProcess Unit) (s : SyncState)
    (records : List OfflineEarnBatchRecordInput) {h : Digest} {row : OfflineSyncAttempt}
    (hrefusal : refusal rt actor ⟨deviceId, record :: records⟩ = none)
    (hhash : requestHash rt.toRuntime actor deviceId record = .ok h)
    (hcreated : newAttempt rt h record = .ok row)
    (hnew : s.attempts (key actor deviceId record.localId) = none) :
    ∃ w, Pool.Steps (serve rt others) (.initial s) w ∧ Due rt actor deviceId record w ∧
      w.state = s.withAttempt (key actor deviceId record.localId) row := by
  set task : ServerTask Other := .earnBatch actor ⟨deviceId, record :: records⟩ with htask
  set rowKey := key actor deviceId record.localId with hkey
  obtain ⟨next, hfind, next', hcreate⟩ : ∃ next : Option OfflineSyncAttempt →
      SyncProcess (Option OfflineEarnBatchResponse), serve rt others task =
        .act (fun _ s => (s.attempts rowKey, s)) next ∧
      ∃ next' : Bool → SyncProcess (Option OfflineEarnBatchResponse), next none =
        .act (fun _ s => if (s.attempts rowKey).isSome then (false, s)
          else (true, s.withAttempt rowKey row)) next' := by
    unfold serve earnBatch
    simp only [htask, hrefusal, collect, processRecord, hhash, hcreated, ofExcept_ok_bind]
    exact ⟨_, rfl, _, rfl⟩
  have hstart : Pool.step (serve rt others) (.initial s) (.start task) =
      some ⟨s, [(task, some (.act (fun _ s => (s.attempts rowKey, s)) next))]⟩ := by
    rw [← hfind]
    rfl
  have hlookup : Pool.step (serve rt others)
      ⟨s, [(task, some (.act (fun _ s => (s.attempts rowKey, s)) next))]⟩
      (.advance 0 ⟨0, .accepted⟩) = some ⟨s, [(task, some (next none))]⟩ := by
    simp [Pool.step, hnew]
  have hrow : Pool.step (serve rt others) ⟨s, [(task, some (next none))]⟩
      (.advance 0 ⟨0, .accepted⟩) =
        some ⟨s.withAttempt rowKey row, [(task, some (next' true))]⟩ := by
    rw [hcreate]
    simp [Pool.step, hnew]
  have hcrash : Pool.step (serve rt others)
      ⟨s.withAttempt rowKey row, [(task, some (next' true))]⟩ (.crash 0) =
        some ⟨s.withAttempt rowKey row, [(task, none)]⟩ := by
    simp [Pool.step]
  have hrun : Pool.Steps (serve rt others) (.initial s)
      ⟨s.withAttempt rowKey row, [(task, none)]⟩ :=
    (((Runs.single trivial hstart).tail trivial hlookup).tail trivial hrow).tail trivial hcrash
  have hown : (s.withAttempt rowKey row).attempts rowKey = some row := by
    simp [SyncState.withAttempt]
  refine ⟨_, hrun, .stopped (n := 0) rfl rfl List.mem_cons_self hown ?_ ?_, rfl⟩
  · rw [hhash, (newAttempt_ok hcreated).1]
  · exact newAttempt_unanswered hcreated

end resubmissions

/-! ### A sale whose batch stopped -/

namespace Shop

/-- Nothing else is asked of the server. -/
def nothingElse (task : Empty) : RequestProcess Unit := nomatch task

lemma saleA_creatable : ∃ h row,
    requestHash syncRuntime.toRuntime mobileCashier tillId saleA = .ok h ∧
      newAttempt syncRuntime h saleA = .ok row := by
  have hok : ((requestHash syncRuntime.toRuntime mobileCashier tillId saleA).bind fun h =>
      newAttempt syncRuntime h saleA).isOk = true := by decide +kernel
  cases hhash : requestHash syncRuntime.toRuntime mobileCashier tillId saleA with
  | error e => rw [hhash] at hok; cases hok
  | ok h =>
      rw [hhash] at hok
      cases hrow : newAttempt syncRuntime h saleA with
      | error e =>
          have hbad : (newAttempt syncRuntime h saleA).isOk = true := hok
          rw [hrow] at hbad
          cases hbad
      | ok row => exact ⟨h, row, rfl, hrow⟩

end Shop

/-- A batch stops, and its sale is submitted again. -/
theorem due_never_retried_shop : ∃ w,
    Pool.Steps (serve Shop.syncRuntime Shop.nothingElse) (.initial Shop.onlineAgain) w ∧
      Due Shop.syncRuntime Shop.mobileCashier Shop.tillId Shop.saleA w ∧
      ¬ TriedAgain Shop.syncRuntime Shop.mobileCashier Shop.tillId
        (getOfflineSyncPolicy Shop.syncRuntime) Shop.saleA w.state := by
  obtain ⟨h, row, hhash, hrow⟩ := Shop.saleA_creatable
  obtain ⟨w, hrun, hdue, -⟩ := stopped_reachable Shop.nothingElse Shop.onlineAgain []
    (by decide) hhash hrow rfl
  exact ⟨w, hrun, hdue, (due_never_retried _ hrun hdue (.refl w)).1⟩

/-- **A sale whose batch stopped** is answered as being processed, again and again. -/
theorem stopped_sale_never_retried : ∃ w,
    Pool.Steps (serve Shop.syncRuntime Shop.nothingElse) (.initial Shop.onlineAgain) w ∧
      Due Shop.syncRuntime Shop.mobileCashier Shop.tillId Shop.saleA w ∧
      ¬ TriedAgain Shop.syncRuntime Shop.mobileCashier Shop.tillId
        (getOfflineSyncPolicy Shop.syncRuntime) Shop.saleA w.state ∧
      (processRecord Shop.syncRuntime Shop.mobileCashier Shop.tillId
        (getOfflineSyncPolicy Shop.syncRuntime) Shop.saleA).run w.state (Shop.quiet 9) =
          some (.ok (buildRetryableResult Shop.saleA.localId "SYNC_RECORD_PROCESSING"),
            w.state) := by
  obtain ⟨h, row, hhash, hrow⟩ := Shop.saleA_creatable
  obtain ⟨w, hrun, hdue, hstate⟩ := stopped_reachable Shop.nothingElse Shop.onlineAgain []
    (by decide) hhash hrow rfl
  refine ⟨w, hrun, hdue, (hdue.attempted hrun).not_triedAgain, ?_⟩
  rw [hstate]
  refine processRecord_unanswered row (by simp [SyncState.withAttempt]) ?_
    (newAttempt_unanswered hrow) rfl
  rw [hhash, (newAttempt_ok hrow).1]

end ShopcityLoyalty
