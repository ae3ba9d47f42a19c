import ShopcityLoyalty.SmsReservations
import ShopcityLoyalty.Lib.Executions

/-!
The attempts of a message, over sequences of handlings of its event.

A handling asks the provider at most once and counts that once, as long as no statement of it
fails, and it is not cut short, once it has asked the provider or counted an attempt.
-/

namespace ShopcityLoyalty

open Process

namespace OutboxWorkerRuntime

/-! ### Sequences of handlings -/

/-- A handling of the event, or a recovery cycle between two: each runs alone on the inputs its
statements get, and is cut short where they do not suffice. -/
inductive SmsTurn
  | handling (inputs : List Surroundings)
  | recovery (inputs : List Surroundings)

def SmsTurn.run (ctx : WorkerContext) (id : Nat) (s : OutboxState) : SmsTurn → OutboxState
  | handling inputs => ((handleJob ctx id).after inputs s).2
  | recovery inputs => ((recoverAndPublishOnce ctx).after inputs s).2

/-- The provider was asked, or an attempt was counted. -/
def Begun (id : Nat) (s t : OutboxState) : Prop :=
  t.submissions.count id ≠ s.submissions.count id ∨ attempts id t ≠ attempts id s

/-- An answer of the provider's type: a `SmsDeliveryOutcome` is never `QUEUED`. -/
def OfOutcomeType (env : Surroundings) : Prop := ∀ r, env.answer = .ok r → r.status ≠ .QUEUED

/-- The statements of a handling that has begun do not fail, and are all run. -/
def SmsTurn.Recorded (ctx : WorkerContext) (id : Nat) (s : OutboxState) : SmsTurn → Prop
  | handling inputs =>
      (handleJob ctx id).Allowed
        (fun t env => OfOutcomeType env ∧ (Begun id s t → env.failure.isNone))
        (fun t => ¬ Begun id s t) inputs s
  | recovery _ => True

/-- Any number of turns under a condition. -/
abbrev TurnsUnder (ctx : WorkerContext) (id : Nat) (P : OutboxState → SmsTurn → Prop) :
    OutboxState → OutboxState → Prop :=
  Runs (fun turn s t => t = turn.run ctx id s) P

/-- An SMS event that nobody has handled. -/
def Unhandled (id : Nat) (s : OutboxState) : Prop :=
  ∃ row, s.rows[id]? = some row ∧ row.eventType = "sms.send" ∧
    ∀ m, row.smsMessage = some m → m.attempts = 0 ∧ m.failureCategory = none

/-- The attempts stay within the budget; where failures have used it up, the message and the event
are dead-lettered. -/
structure Budgeted (id : Nat) (s : OutboxState) : Prop where
  attempts_le : attempts id s ≤ OUTBOX_RETRY_ATTEMPTS
  deadLettered : ∀ row m, s.rows[id]? = some row → row.smsMessage = some m → m.status = .FAILED →
    OUTBOX_RETRY_ATTEMPTS ≤ m.attempts → m.deadLetteredAt.isSome ∧ row.deadLetteredAt.isSome

/-- The provider was asked at most once, and that raised the attempts by one. -/
def CountsSends (id : Nat) (s t : OutboxState) : Prop :=
  t.submissions.count id = s.submissions.count id ∨
    (t.submissions.count id = s.submissions.count id + 1 ∧ attempts id t = attempts id s + 1)

/-! ### The account of an event -/

def rowAttempts (row : OutboxRow) : Nat := (row.smsMessage.map (·.attempts)).getD 0

lemma attempts_of_row {id : Nat} {s : OutboxState} {row : OutboxRow}
    (h : s.rows[id]? = some row) : attempts id s = rowAttempts row := by
  unfold attempts rowAttempts
  rw [h]
  rfl

/-- What is kept of an SMS event between two turns. -/
structure InBudget (row : OutboxRow) : Prop where
  sms : row.eventType = "sms.send"
  bounded : ∀ m, row.smsMessage = some m → m.attempts ≤ 5
  /-- A reservation is only taken with an attempt left. -/
  reserved : ∀ m, row.smsMessage = some m → m.failureCategory = some submissionInProgress →
    m.attempts < 5
  spent : ∀ m, row.smsMessage = some m → m.status = .FAILED → 5 ≤ m.attempts →
    m.deadLetteredAt.isSome ∧ row.deadLetteredAt.isSome

lemma InBudget.of_message {row : OutboxRow} {m : SmsMessage} (hm : row.smsMessage = some m)
    (hsms : row.eventType = "sms.send") (hbounded : m.attempts ≤ 5)
    (hreserved : m.failureCategory = some submissionInProgress → m.attempts < 5)
    (hspent : m.status = .FAILED → 5 ≤ m.attempts →
      m.deadLetteredAt.isSome ∧ row.deadLetteredAt.isSome) : InBudget row := by
  have honly : ∀ m', row.smsMessage = some m' → m = m' :=
    fun m' hm' => Option.some.inj (hm.symm.trans hm')
  refine ⟨hsms, fun m' hm' => ?_, fun m' hm' => ?_, fun m' hm' => ?_⟩
  · rw [← honly m' hm']
    exact hbounded
  · rw [← honly m' hm']
    exact hreserved
  · rw [← honly m' hm']
    exact hspent

lemma rowAttempts_of_message {row : OutboxRow} {m : SmsMessage} (hm : row.smsMessage = some m) :
    rowAttempts row = m.attempts := by
  unfold rowAttempts
  rw [hm]
  rfl

/-- The row of the event and the number of its submissions are as `R` says. -/
def On (id : Nat) (R : OutboxRow → Nat → Prop) (s : OutboxState) : Prop :=
  ∃ row, s.rows[id]? = some row ∧ R row (s.submissions.count id)

/-- The account of an event at the start of a handling: its attempts and submissions. -/
structure Account where
  attempts : Nat
  sent : Nat

namespace Account

variable (a : Account)

def BegunBy (row : OutboxRow) (n : Nat) : Prop := n ≠ a.sent ∨ rowAttempts row ≠ a.attempts

/-- Nothing was asked or counted yet. -/
structure Idle (row : OutboxRow) (n : Nat) : Prop where
  kept : InBudget row
  sent : n = a.sent
  attempts : rowAttempts row = a.attempts

/-- With an attempt left, not counted yet. -/
structure Chargeable (row : OutboxRow) (n : Nat) : Prop where
  sms : row.eventType = "sms.send"
  left : a.attempts < 5
  message : ∃ m, row.smsMessage = some m ∧ m.attempts = a.attempts

/-- The provider was asked, and its answer is not recorded. -/
structure Asked (row : OutboxRow) (n : Nat) : Prop extends a.Chargeable row n where
  sent : n = a.sent + 1

/-- The attempt was counted on the message; the event does not know yet. -/
structure Charged (dead : Bool) (row : OutboxRow) (n : Nat) : Prop where
  sms : row.eventType = "sms.send"
  left : a.attempts < 5
  sent : n = a.sent ∨ n = a.sent + 1
  last : 5 ≤ a.attempts + 1 → dead = true
  message : ∃ m, row.smsMessage = some m ∧ m.attempts = a.attempts + 1 ∧
    (dead = true → m.deadLetteredAt.isSome) ∧ m.failureCategory ≠ some submissionInProgress

/-- What a handling leaves. -/
structure Finished (row : OutboxRow) (n : Nat) : Prop where
  kept : InBudget row
  counts : n = a.sent ∨ (n = a.sent + 1 ∧ rowAttempts row = a.attempts + 1)

/-- What a handling may rely on and does. -/
def contract (id : Nat) : Contract Surroundings OutboxState Unit where
  admits s env := OfOutcomeType env ∧ (On id a.BegunBy s.1 → env.failure.isNone)
  rely s t := t = s
  guarantee _ t := On id (fun row n => a.BegunBy row n ∨ InBudget row) t.1

variable {a} {id : Nat} {row : OutboxRow} {n : Nat}

lemma Idle.finished (h : a.Idle row n) : a.Finished row n := ⟨h.kept, .inl h.sent⟩

lemma Idle.not_begun (h : a.Idle row n) : ¬ a.BegunBy row n := by
  rintro (hn | hattempts)
  · exact hn h.sent
  · exact hattempts h.attempts

lemma Asked.begun (h : a.Asked row n) : a.BegunBy row n := by
  have hsent := h.sent
  exact .inl (by omega)

lemma Charged.begun {dead : Bool} (h : a.Charged dead row n) : a.BegunBy row n := by
  obtain ⟨m, hm, hattempts, -⟩ := h.message
  have hrow := rowAttempts_of_message hm
  exact .inr (by omega)

/-! ### Statements -/

lemma stable (a : Account) (id : Nat) (P : OutboxState × Unit → Prop) :
    (a.contract id).Stable P := by
  rintro s t hs rfl
  exact hs

/-- A statement on the row. -/
lemma triple_onRow {α : Type} {missing : Except JobError α}
    {f : Surroundings → OutboxRow → Except JobError α × OutboxRow} {R : OutboxRow → Nat → Prop}
    {S : Except JobError α → OutboxRow → Nat → Prop}
    (hkept : ∀ row n, R row n → a.BegunBy row n ∨ InBudget row)
    (hfail : ∀ row n e, R row n → ¬ a.BegunBy row n → S (.error e) row n)
    (hf : ∀ env row n, R row n → S (f env row).1 (f env row).2 n ∧
      (a.BegunBy (f env row).2 n ∨ InBudget (f env row).2)) :
    Triple (a.contract id) (fun s => On id R s.1) (onRow id missing f)
      fun r s => On id (S r) s.1 := by
  apply triple_attempt (stable a id _)
  rintro ⟨s, _⟩ env ⟨row, hrow, hR⟩ ⟨-, hfails⟩
  refine ⟨(), ?_⟩
  cases hfailure : env.failure with
  | some e =>
      have hnot : ¬ a.BegunBy row (s.submissions.count id) := by
        intro hbegun
        have hnone := hfails ⟨row, hrow, hbegun⟩
        rw [hfailure] at hnone
        cases hnone
      exact ⟨⟨row, hrow, hkept row _ hR⟩, ⟨row, hrow, hfail row _ e hR hnot⟩⟩
  | none =>
      have hlt := Table.lt_of_getElem? hrow
      obtain ⟨hS, hguar⟩ := hf env row _ hR
      simp only [hrow]
      exact ⟨⟨_, List.getElem?_set_self hlt, hguar⟩, ⟨_, List.getElem?_set_self hlt, hS⟩⟩

lemma triple_clock {R : OutboxRow → Nat → Prop}
    (hkept : ∀ row n, R row n → a.BegunBy row n ∨ InBudget row) :
    Triple (a.contract id) (fun s => On id R s.1) clock fun _ s => On id R s.1 := by
  apply triple_statement (stable a id _)
  rintro ⟨s, _⟩ env hs -
  obtain ⟨row, hrow, hR⟩ := hs
  exact ⟨(), ⟨row, hrow, hkept row _ hR⟩, ⟨row, hrow, hR⟩⟩

lemma triple_updateEvent_idle {data : Int → OutboxRow → OutboxRow} {K : OutboxRow → Prop}
    (hdata : ∀ now row, (data now row).toOutboxEvent = row.toOutboxEvent ∧
      (data now row).smsMessage = row.smsMessage ∧
      (row.deadLetteredAt.isSome → (data now row).deadLetteredAt.isSome))
    (hK : ∀ row row', row'.smsMessage = row.smsMessage → K row → K row') :
    Triple (a.contract id) (fun s => On id (fun row n => a.Idle row n ∧ K row) s.1)
      (updateEvent id data) fun _ s => On id (fun row n => a.Idle row n ∧ K row) s.1 := by
  refine triple_onRow (fun _ _ h => .inr h.1.kept) (fun _ _ _ h _ => h) fun env row n h => ?_
  obtain ⟨⟨hkept, hsent, hattempts⟩, hKrow⟩ := h
  obtain ⟨hevent, hmessage, hdead⟩ := hdata env.now row
  have hkept' : InBudget { data env.now row with updatedAt := env.now } := by
    refine ⟨(congrArg OutboxEvent.eventType hevent).trans hkept.sms, fun m hm => ?_, fun m hm => ?_,
      fun m hm hfailed hspent => ?_⟩
    · exact hkept.bounded m (hmessage ▸ hm)
    · exact hkept.reserved m (hmessage ▸ hm)
    · obtain ⟨hm', hrow'⟩ := hkept.spent m (hmessage ▸ hm) hfailed hspent
      exact ⟨hm', hdead hrow'⟩
  refine ⟨⟨⟨hkept', hsent, ?_⟩, hK row _ hmessage hKrow⟩, .inr hkept'⟩
  rw [← hattempts]
  exact congrArg (fun m => (Option.map SmsMessage.attempts m).getD 0) hmessage

/-- The same as a last statement. -/
lemma triple_mark_idle {data : Int → OutboxRow → OutboxRow}
    (hdata : ∀ now row, (data now row).toOutboxEvent = row.toOutboxEvent ∧
      (data now row).smsMessage = row.smsMessage ∧
      (row.deadLetteredAt.isSome → (data now row).deadLetteredAt.isSome)) :
    Triple (a.contract id) (fun s => On id a.Idle s.1) (updateEvent id data)
      fun _ s => On id a.Finished s.1 := by
  refine (triple_updateEvent_idle (K := fun _ => True) hdata fun _ _ _ _ => trivial).consequence ?_
    ?_
  · rintro s ⟨row, hrow, hidle⟩
    exact ⟨row, hrow, hidle, trivial⟩
  · rintro _ s ⟨row, hrow, hidle, -⟩
    exact ⟨row, hrow, hidle.finished⟩

/-- An attempt is counted on the message. -/
lemma triple_charge {data : SmsMessage → SmsMessage} {dead : Bool} {R : OutboxRow → Nat → Prop}
    (hR : ∀ row n, R row n → a.Chargeable row n ∧ (a.Idle row n ∨ n = a.sent + 1))
    (hlast : 5 ≤ a.attempts + 1 → dead = true)
    (hdata : ∀ m, (data m).attempts = m.attempts + 1 ∧
      (dead = true → (data m).deadLetteredAt.isSome) ∧
      (data m).failureCategory ≠ some submissionInProgress) :
    Triple (a.contract id) (fun s => On id R s.1) (updateMessage id data) fun r s =>
      (r = .ok () ∧ On id (a.Charged dead) s.1) ∨
        (∃ e, r = .error e ∧ On id (fun row n => R row n ∧ a.Idle row n) s.1) := by
  refine Triple.consequence (triple_onRow (S := fun r row n => match r with
    | .ok () => a.Charged dead row n
    | .error _ => R row n ∧ a.Idle row n) ?_ ?_ ?_) (fun _ h => h) ?_
  · intro row n h
    obtain ⟨-, hidle | hsent⟩ := hR row n h
    · exact .inr hidle.kept
    · exact .inl (.inl (by omega))
  · intro row n e h hnot
    obtain ⟨-, hidle | hsent⟩ := hR row n h
    · exact ⟨h, hidle⟩
    · exact absurd (.inl (by omega)) hnot
  · intro env row n h
    obtain ⟨⟨hsms, hleft, m, hm, hattempts⟩, hsent⟩ := hR row n h
    obtain ⟨hdattempts, hddead, hdcategory⟩ := hdata m
    have hcharged : a.Charged dead { row with smsMessage := some (data m) } n :=
      ⟨hsms, hleft, hsent.imp_left fun hidle => hidle.sent, hlast, data m, rfl, by omega, hddead,
        hdcategory⟩
    simp only [hm]
    exact ⟨hcharged, .inl hcharged.begun⟩
  · rintro (e | ⟨⟩) s h
    · exact .inr ⟨e, rfl, h⟩
    · exact .inl ⟨rfl, h⟩

lemma triple_settle {data : Int → OutboxRow → OutboxRow} {dead : Bool}
    (hdata : ∀ now row, (data now row).toOutboxEvent = row.toOutboxEvent ∧
      (data now row).smsMessage = row.smsMessage ∧
      (dead = true → (data now row).deadLetteredAt.isSome)) :
    Triple (a.contract id) (fun s => On id (a.Charged dead) s.1) (updateEvent id data)
      fun r s => r = .ok () ∧ On id a.Finished s.1 := by
  refine Triple.consequence (triple_onRow (S := fun r row n => r = .ok () ∧ a.Finished row n)
    (fun _ _ h => .inl h.begun) (fun _ _ _ h hnot => absurd h.begun hnot)
    fun env row n h => ?_) (fun _ h => h) ?_
  · obtain ⟨hsms, hleft, hsent, hlast, m, hm, hattempts, hmdead, hcategory⟩ := h
    obtain ⟨hevent, hmessage, hdead⟩ := hdata env.now row
    have hm' : (data env.now row).smsMessage = some m := hmessage.trans hm
    have hfinished : a.Finished { data env.now row with updatedAt := env.now } n := by
      refine ⟨InBudget.of_message hm' ((congrArg OutboxEvent.eventType hevent).trans hsms)
        (by omega) (fun hreserved => absurd hreserved hcategory) fun _ hspent => ?_,
        hsent.imp_right fun hone => ⟨hone, (rowAttempts_of_message hm').trans hattempts⟩⟩
      have hdeadnow := hlast (by omega)
      exact ⟨hmdead hdeadnow, hdead hdeadnow⟩
    exact ⟨⟨rfl, hfinished⟩, .inr hfinished.kept⟩
  · rintro r s ⟨row, hrow, hr, hfinished⟩
    exact ⟨hr, row, hrow, hfinished⟩

lemma triple_charge_settle {R : OutboxRow → Nat → Prop} {data : SmsMessage → SmsMessage}
    {mark : Int → OutboxRow → OutboxRow} (dead : Bool)
    (hR : ∀ row n, R row n → a.Chargeable row n ∧ (a.Idle row n ∨ n = a.sent + 1))
    (hlast : 5 ≤ a.attempts + 1 → dead = true)
    (hdata : ∀ m, (data m).attempts = m.attempts + 1 ∧
      (dead = true → (data m).deadLetteredAt.isSome) ∧
      (data m).failureCategory ≠ some submissionInProgress)
    (hmark : ∀ now row, (mark now row).toOutboxEvent = row.toOutboxEvent ∧
      (mark now row).smsMessage = row.smsMessage ∧
      (dead = true → (mark now row).deadLetteredAt.isSome)) :
    Triple (a.contract id) (fun s => On id R s.1)
      (updateMessage id data >>= fun _ => updateEvent id mark) fun r s =>
        (r = .ok () ∧ On id a.Finished s.1) ∨ On id (fun row n => R row n ∧ a.Idle row n) s.1 := by
  refine (triple_charge hR hlast hdata).bind (fun _ => ?_) ?_
  · refine (triple_settle hmark).consequence ?_ fun _ _ h => .inl h
    rintro s (⟨-, hcharged⟩ | ⟨e, herr, -⟩)
    · exact hcharged
    · cases herr
  · rintro e s (⟨hok, -⟩ | ⟨_, -, hidle⟩)
    · cases hok
    · exact .inr hidle

/-! ### The submission -/

lemma Asked.charge (h : a.Asked row n) : a.Chargeable row n ∧ (a.Idle row n ∨ n = a.sent + 1) :=
  ⟨h.toChargeable, .inr h.sent⟩

lemma Asked.not_idle (h : a.Asked row n) : ¬ a.Idle row n := fun hidle => hidle.not_begun h.begun

lemma triple_record {data : SmsMessage → SmsMessage} {mark : Int → OutboxRow → OutboxRow}
    (dead : Bool) (hlast : 5 ≤ a.attempts + 1 → dead = true)
    (hdata : ∀ m, (data m).attempts = m.attempts + 1 ∧
      (dead = true → (data m).deadLetteredAt.isSome) ∧
      (data m).failureCategory ≠ some submissionInProgress)
    (hmark : ∀ now row, (mark now row).toOutboxEvent = row.toOutboxEvent ∧
      (mark now row).smsMessage = row.smsMessage ∧
      (dead = true → (mark now row).deadLetteredAt.isSome)) :
    Triple (a.contract id) (fun s => On id a.Asked s.1)
      (updateMessage id data >>= fun _ => updateEvent id mark) fun r s =>
        r = .ok () ∧ On id a.Finished s.1 := by
  refine (triple_charge_settle dead (fun _ _ h => h.charge) hlast hdata hmark).consequence
    (fun _ h => h) ?_
  rintro r s (h | ⟨row, -, hasked, hidle⟩)
  · exact h
  · exact absurd hidle hasked.not_idle

lemma triple_recordFailedSubmission (ctx : WorkerContext) (now : Int) (dead : Bool)
    (lastError : String) (hlast : 5 ≤ a.attempts + 1 → dead = true) :
    Triple (a.contract id) (fun s => On id a.Asked s.1)
      (recordFailedSubmission ctx id now dead lastError) fun r s =>
        r = .ok () ∧ On id a.Finished s.1 := by
  refine triple_record dead hlast (fun m => ⟨rfl, fun hdead => ?_, ?_⟩)
    fun _ _ => ⟨rfl, rfl, fun hdead => ?_⟩
  · rw [hdead]
    rfl
  · cases dead <;> simp [failedSubmission, submissionInProgress]
  · rw [hdead]
    rfl

lemma triple_markSmsSubmissionOutcomeUnknown (now : Int) {R : OutboxRow → Nat → Prop}
    (hR : ∀ row n, R row n → a.Chargeable row n ∧ (a.Idle row n ∨ n = a.sent + 1)) :
    Triple (a.contract id) (fun s => On id R s.1) (markSmsSubmissionOutcomeUnknown id now)
      fun _ s => On id a.Finished s.1 := by
  unfold markSmsSubmissionOutcomeUnknown markOutboxEventDeadLettered
  refine (triple_charge_settle true hR (fun _ => rfl) ?_ ?_).consequence (fun _ h => h) ?_
  · intro m
    simp [submissionInProgress]
  · exact fun _ _ => ⟨rfl, rfl, fun _ => rfl⟩
  · rintro r s (⟨-, h⟩ | ⟨row, hrow, -, hidle⟩)
    · exact h
    · exact ⟨row, hrow, hidle.finished⟩

lemma triple_send :
    Triple (a.contract id) (fun s => On id (fun row n => a.Idle row n ∧ a.Chargeable row n) s.1)
      (send id) fun r s => On id a.Asked s.1 ∧ ∀ x, r = .ok x → x.status ≠ .QUEUED := by
  refine Triple.bind (Q := fun _ s => On id a.Asked s.1) ?_ (fun _ => ?_) ?_
  · apply triple_statement (stable a id _)
    rintro ⟨s, _⟩ env ⟨row, hrow, hidle, hcharge⟩ -
    have hcount : (s.submissions ++ [id]).count id = a.sent + 1 := by
      rw [List.count_append, hidle.sent]
      simp
    have hasked : a.Asked row ((s.submissions ++ [id]).count id) :=
      ⟨⟨hcharge.sms, hcharge.left, hcharge.message⟩, hcount⟩
    exact ⟨(), ⟨row, hrow, .inl hasked.begun⟩, ⟨row, hrow, hasked⟩⟩
  · apply triple_attempt (stable a id _)
    rintro ⟨s, _⟩ env ⟨row, hrow, hasked⟩ ⟨htype, -⟩
    exact ⟨(), ⟨row, hrow, .inl hasked.begun⟩, ⟨row, hrow, hasked⟩, fun x hx => htype x hx⟩
  · rintro e s hs
    exact ⟨hs, fun x hx => by cases hx⟩

lemma mapSmsDispatchResult_counts {result : SmsSendResult} (hfailed : result.status ≠ .FAILED)
    (hqueued : result.status ≠ .QUEUED) (now : Int) (m : SmsMessage) :
    (mapSmsDispatchResult result now m).attempts = m.attempts + 1 ∧
      (mapSmsDispatchResult result now m).status ≠ .FAILED ∧
      (mapSmsDispatchResult result now m).failureCategory = none := by
  unfold mapSmsDispatchResult
  cases hstatus : result.status with
  | QUEUED => exact absurd hstatus hqueued
  | FAILED => exact absurd hstatus hfailed
  | SENT => simp
  | DELIVERED => simp
  | SUPPRESSED => simp

lemma triple_recordDispatch {result : SmsSendResult} (hfailed : result.status ≠ .FAILED)
    (hqueued : result.status ≠ .QUEUED) (now : Int) :
    Triple (a.contract id) (fun s => On id a.Asked s.1)
      (updateMessage id (mapSmsDispatchResult result now)) fun r s =>
        r = .ok () ∧ On id a.Finished s.1 := by
  refine Triple.consequence (triple_onRow (S := fun r row n => r = .ok () ∧ a.Finished row n)
    (fun _ _ h => .inl h.begun) (fun _ _ _ h hnot => absurd h.begun hnot)
    fun env row n h => ?_) (fun _ h => h) ?_
  · obtain ⟨⟨hsms, hleft, m, hm, hattempts⟩, hsent⟩ := h
    obtain ⟨hcount, hstatus, hcategory⟩ := mapSmsDispatchResult_counts hfailed hqueued now m
    have hfinished : a.Finished
        { row with smsMessage := some (mapSmsDispatchResult result now m) } n := by
      refine ⟨InBudget.of_message rfl hsms (by omega) (fun hreserved => ?_)
        fun hfailed => absurd hfailed hstatus, .inr ⟨hsent, ?_⟩⟩
      · rw [hcategory] at hreserved
        cases hreserved
      · rw [rowAttempts_of_message rfl, hcount, hattempts]
    simp only [hm]
    exact ⟨⟨trivial, hfinished⟩, .inr hfinished.kept⟩
  · rintro r s ⟨row, hrow, hr, hfinished⟩
    exact ⟨hr, row, hrow, hfinished⟩

lemma triple_submitSms (ctx : WorkerContext) {message : SmsMessage} (now : Int)
    (hmessage : message.attempts = a.attempts) :
    Triple (a.contract id) (fun s => On id (fun row n => a.Idle row n ∧ a.Chargeable row n) s.1)
      (submitSms ctx id message now) fun r s =>
        (r = .ok () ∧ On id a.Finished s.1) ∨ ((∃ e, r = .error e) ∧ On id a.Asked s.1) := by
  refine triple_send.bind (fun result => ?_) fun e s h => .inr ⟨⟨e, rfl⟩, h.1⟩
  split
  · refine (triple_recordFailedSubmission ctx now _ _ fun hlast => ?_).consequence (fun s h => h.1)
      fun r s h => .inl h
    have hspent : message.attempts + 1 ≥ OUTBOX_RETRY_ATTEMPTS := by
      rw [hmessage]
      exact hlast
    simp [hspent]
  · rename_i hfailed
    rintro s ⟨hasked, hqueued⟩
    exact ((triple_recordDispatch hfailed (hqueued result rfl) now) s hasked).weaken
      fun r t h => .inl h

lemma triple_submissionThrew (ctx : WorkerContext) {message : SmsMessage} (now : Int)
    (reservationClaimed : Bool) (error : JobError) (hmessage : message.attempts = a.attempts) :
    Triple (a.contract id) (fun s => On id a.Asked s.1)
      (submissionThrew ctx id message now reservationClaimed error)
      fun _ s => On id a.Finished s.1 := by
  unfold submissionThrew
  split
  · exact triple_markSmsSubmissionOutcomeUnknown now fun _ _ h => h.charge
  · refine (triple_recordFailedSubmission ctx now _ _ fun hlast => ?_).bind (fun _ => ?_)
      fun _ _ h => h.2
    · have hspent : message.attempts + 1 ≥ OUTBOX_RETRY_ATTEMPTS := by
        rw [hmessage]
        exact hlast
      simp [hspent]
    · exact triple_fail fun _ h => h.2

lemma triple_claimSubmission (message : SmsMessage) (now : Int) :
    Triple (a.contract id) (fun s => On id (fun row n => a.Idle row n ∧ a.Chargeable row n) s.1)
      (claimSubmission id message now) fun _ s =>
        On id (fun row n => a.Idle row n ∧ a.Chargeable row n) s.1 := by
  refine triple_onRow (fun _ _ h => .inr h.1.kept) (fun _ _ _ h _ => h) fun env row n h => ?_
  obtain ⟨⟨hkept, hsent, hattempts⟩, hsms, hleft, m, hm, hcount⟩ := h
  simp only [hm]
  split
  · have hkept' : InBudget { row with
        smsMessage := some { m with
          failureCategory := some submissionInProgress, lastAttemptAt := some now } } :=
      .of_message rfl hkept.sms (hkept.bounded m hm) (fun _ => by (change m.attempts < 5; omega))
        (hkept.spent m hm)
    refine ⟨⟨⟨hkept', hsent, ?_⟩, hsms, hleft, _, rfl, hcount⟩, .inr hkept'⟩
    exact hcount
  · have hsame : { row with smsMessage := some m } = row := by
      rw [← hm]
    rw [hsame]
    exact ⟨⟨⟨hkept, hsent, hattempts⟩, hsms, hleft, m, hm, hcount⟩, .inr hkept⟩

lemma triple_reserveAndSubmit (ctx : WorkerContext) {message : SmsMessage} (now : Int)
    (hmessage : message.attempts = a.attempts) :
    Triple (a.contract id) (fun s => On id (fun row n => a.Idle row n ∧ a.Chargeable row n) s.1)
      (reserveAndSubmit ctx id message now) fun _ s => On id a.Finished s.1 := by
  have hsubmit : ∀ claimed, Triple (a.contract id)
      (fun s => On id (fun row n => a.Idle row n ∧ a.Chargeable row n) s.1)
      ((submitSms ctx id message now).catching (submissionThrew ctx id message now claimed))
      fun _ s => On id a.Finished s.1 := by
    intro claimed
    refine (triple_submitSms ctx now hmessage).catching ?_ fun e => ?_
    · rintro _ s (⟨-, h⟩ | ⟨⟨_, herr⟩, -⟩)
      · exact h
      · cases herr
    · refine (triple_submissionThrew ctx now claimed e hmessage).consequence ?_ fun _ _ h => h
      rintro s (⟨hok, -⟩ | ⟨-, h⟩)
      · cases hok
      · exact h
  unfold reserveAndSubmit
  split
  · refine (triple_claimSubmission message now).bind (fun claimed => ?_) ?_
    · split
      · exact hsubmit true
      · exact triple_done fun _ ⟨row, hrow, h, _⟩ => ⟨row, hrow, h.finished⟩
    · rintro _ s ⟨row, hrow, h, -⟩
      exact ⟨row, hrow, h.finished⟩
  · exact hsubmit false

/-! ### The handling -/

/-- The row still has the message that was read. -/
def Reads (a : Account) (message : Option SmsMessage) (row : OutboxRow) (n : Nat) : Prop :=
  a.Idle row n ∧ row.smsMessage = message

lemma Reads.attempts {message : SmsMessage} (h : a.Reads (some message) row n) :
    message.attempts = a.attempts :=
  (rowAttempts_of_message h.2).symm.trans h.1.attempts

lemma Reads.chargeable {message : SmsMessage} (h : a.Reads (some message) row n)
    (hleft : message.attempts < 5) : a.Chargeable row n := by
  have hattempts := h.attempts
  exact ⟨h.1.kept.sms, by omega, message, h.2, hattempts⟩

lemma triple_expireReservation (ctx : WorkerContext) {message : SmsMessage}
    (hreserved : message.failureCategory = some submissionInProgress) :
    Triple (a.contract id) (fun s => On id (a.Reads (some message)) s.1)
      (expireReservation ctx id message) fun _ s => On id a.Finished s.1 := by
  have hfinished : ∀ s : OutboxState, On id (a.Reads (some message)) s → On id a.Finished s :=
    fun _ ⟨row, hrow, h⟩ => ⟨row, hrow, h.1.finished⟩
  have hkept : ∀ row n, a.Reads (some message) row n → a.BegunBy row n ∨ InBudget row :=
    fun _ _ h => .inr h.1.kept
  refine (triple_clock hkept).bind (fun readAt => ?_) fun _ s h => hfinished s.1 h
  simp only
  split
  · exact triple_done fun s h => hfinished s.1 h
  · refine (triple_clock hkept).bind (fun now => ?_) fun _ s h => hfinished s.1 h
    exact triple_markSmsSubmissionOutcomeUnknown now fun row n h =>
      ⟨h.chargeable (h.1.kept.reserved message h.2 hreserved), .inl h.1⟩

lemma triple_handleSms (ctx : WorkerContext) (message : SmsMessage) :
    Triple (a.contract id) (fun s => On id (a.Reads (some message)) s.1)
      (handleSms ctx id message) fun _ s => On id a.Finished s.1 := by
  have hidle : ∀ s : OutboxState, On id (a.Reads (some message)) s → On id a.Idle s :=
    fun _ ⟨row, hrow, h⟩ => ⟨row, hrow, h.1⟩
  have hfinished : ∀ s : OutboxState, On id (a.Reads (some message)) s → On id a.Finished s :=
    fun _ ⟨row, hrow, h⟩ => ⟨row, hrow, h.1.finished⟩
  have hmark : ∀ {data : Int → OutboxRow → OutboxRow},
      (∀ now row, (data now row).toOutboxEvent = row.toOutboxEvent ∧
        (data now row).smsMessage = row.smsMessage ∧
        (row.deadLetteredAt.isSome → (data now row).deadLetteredAt.isSome)) →
      Triple (a.contract id) (fun s => On id (a.Reads (some message)) s.1) (updateEvent id data)
        fun _ s => On id a.Finished s.1 :=
    fun hdata => (triple_mark_idle hdata).consequence (fun s h => hidle s.1 h) fun _ _ h => h
  unfold handleSms
  split
  · exact hmark fun _ _ => ⟨rfl, rfl, fun h => h⟩
  split
  · rename_i hreserved
    exact triple_expireReservation ctx hreserved.2
  split
  · exact hmark fun _ _ => ⟨rfl, rfl, fun _ => rfl⟩
  rename_i hleft
  have hlt : message.attempts < 5 := by
    have hnot := (not_or.1 hleft).2
    exact Nat.lt_of_not_ge hnot
  refine (triple_clock fun _ _ h => .inr h.1.kept).bind (fun now => ?_) fun _ s h => hfinished s.1 h
  split
  · -- the payload is not valid: an attempt without a submission
    have hcharge : ∀ row n, a.Reads (some message) row n →
        a.Chargeable row n ∧ (a.Idle row n ∨ n = a.sent + 1) :=
      fun _ _ h => ⟨h.chargeable hlt, .inl h.1⟩
    refine (triple_charge_settle true hcharge (fun _ => rfl) ?_ ?_).consequence (fun _ h => h) ?_
    · intro m
      simp [submissionInProgress]
    · exact fun _ _ => ⟨rfl, rfl, fun _ => rfl⟩
    · rintro r s (⟨-, h⟩ | ⟨row, hrow, -, h⟩)
      · exact h
      · exact ⟨row, hrow, h.finished⟩
  · exact triple_fail fun s h => hfinished s.1 h
  · rintro s ⟨row, hrow, h⟩
    exact triple_reserveAndSubmit ctx now h.attempts s ⟨row, hrow, h.1, h.chargeable hlt⟩

lemma smsMessageFromOutboxEvent_new {ctx : WorkerContext} {row : OutboxRow} {now : Int}
    {m : SmsMessage} (h : smsMessageFromOutboxEvent ctx row now = .ok m) : m.attempts = 0 := by
  unfold smsMessageFromOutboxEvent at h
  simp only at h
  split at h
  · cases h
  split at h
  · cases h
  split at h
  · cases h
  split at h
  · cases h
  · obtain rfl := Except.ok.inj h
    rfl

/-- A message is made where there was none. -/
lemma triple_upsertMessage {message : SmsMessage} (hnew : message.attempts = 0) :
    Triple (a.contract id) (fun s => On id (a.Reads none) s.1) (upsertMessage id message)
      fun r s => match r with
        | .ok m => On id (a.Reads (some m)) s.1
        | .error _ => On id a.Idle s.1 := by
  refine Triple.consequence (triple_onRow (S := fun r row n => match r with
    | .ok m => a.Reads (some m) row n
    | .error _ => a.Idle row n) (fun _ _ h => .inr h.1.kept) (fun _ _ _ h _ => h.1) ?_)
    (fun _ h => h) ?_
  · intro env row n ⟨⟨hkept, hsent, hattempts⟩, hnone⟩
    have hkept' : InBudget { row with smsMessage := some message } :=
      .of_message rfl hkept.sms (by omega) (fun _ => by omega) fun _ hspent => by omega
    have hzero : a.attempts = 0 := by
      rw [← hattempts]
      unfold rowAttempts
      rw [hnone]
      rfl
    simp only [hnone]
    refine ⟨⟨⟨hkept', hsent, ?_⟩, rfl⟩, .inr hkept'⟩
    rw [hzero]
    exact hnew
  · rintro (e | m) s h
    · exact h
    · exact h

lemma triple_resolveSmsMessage (ctx : WorkerContext) (outboxEvent : OutboxRow) :
    Triple (a.contract id) (fun s => On id (a.Reads outboxEvent.smsMessage) s.1)
      (resolveSmsMessage ctx id outboxEvent) fun r s => match r with
        | .ok (some m) => On id (a.Reads (some m)) s.1
        | _ => On id a.Finished s.1 := by
  unfold resolveSmsMessage
  cases outboxEvent.smsMessage with
  | some message => exact triple_done fun _ h => h
  | none =>
      have hcreate : Triple (a.contract id) (fun s => On id (a.Reads none) s.1)
          (createSmsMessageFromOutboxEvent ctx id outboxEvent) fun r s => match r with
            | .ok m => On id (a.Reads (some m)) s.1
            | .error _ => On id a.Idle s.1 := by
        refine (triple_clock fun _ _ h => .inr h.1.kept).bind (fun queuedAt => ?_)
          fun _ s ⟨row, hrow, h, _⟩ => ⟨row, hrow, h⟩
        cases hmake : smsMessageFromOutboxEvent ctx outboxEvent queuedAt with
        | error e => exact triple_fail fun s ⟨row, hrow, h, _⟩ => ⟨row, hrow, h⟩
        | ok message =>
            exact triple_upsertMessage (smsMessageFromOutboxEvent_new hmake)
      refine Triple.catching (Q := fun r s => match r with
        | .ok (some m) => On id (a.Reads (some m)) s.1
        | .ok none => False
        | .error _ => On id a.Idle s.1) ?_ ?_ fun e => ?_
      · exact hcreate.bind (fun m => triple_done fun _ h => h) fun _ _ h => h
      · rintro (none | m) s h
        · exact h.elim
        · exact h
      · refine Triple.bind (Q := fun _ s => On id a.Finished s.1)
          (triple_mark_idle fun _ _ => ⟨rfl, rfl, fun _ => rfl⟩) (fun _ => ?_) fun _ _ h => h
        exact triple_done fun _ h => h

lemma triple_handleEvent (ctx : WorkerContext) (outboxEvent : OutboxRow)
    (hsms : outboxEvent.eventType = "sms.send") :
    Triple (a.contract id) (fun s => On id (a.Reads outboxEvent.smsMessage) s.1)
      (handleEvent ctx id outboxEvent) fun _ s => On id a.Finished s.1 := by
  have hfinished : ∀ s : OutboxState, On id (a.Reads outboxEvent.smsMessage) s →
      On id a.Finished s := fun _ ⟨row, hrow, h⟩ => ⟨row, hrow, h.1.finished⟩
  refine Triple.bind
    (triple_updateEvent_idle (K := fun row => row.smsMessage = outboxEvent.smsMessage)
    (fun _ _ => ⟨rfl, rfl, fun h => h⟩) fun _ _ heq h => heq.trans h) (fun _ => ?_)
    fun _ s h => hfinished s.1 h
  rw [hsms, if_neg (by decide), if_neg (by decide), if_neg (by simp)]
  refine (triple_resolveSmsMessage ctx outboxEvent).bind (fun resolved => ?_) fun _ _ h => h
  cases resolved with
  | some message => exact triple_handleSms ctx message
  | none => exact triple_done fun _ h => h

/-- **A handling** leaves its event in budget, and counts what it asked for. -/
theorem triple_handleJob (ctx : WorkerContext) (id : Nat) :
    Triple (a.contract id) (fun s => On id a.Idle s.1) (handleJob ctx id)
      fun _ s => On id a.Finished s.1 := by
  refine Triple.bind (Q := fun r s => match r with
    | .ok (some row) => row.eventType = "sms.send" ∧ On id (a.Reads row.smsMessage) s.1
    | .ok none => False
    | .error _ => On id a.Idle s.1) ?_ (fun found => ?_) fun _ _ ⟨row, hrow, h⟩ =>
      ⟨row, hrow, h.finished⟩
  · refine Triple.consequence (triple_onRow (S := fun r row n => (r = .ok (some row) ∨
      ∃ e, r = .error e) ∧ a.Idle row n) (fun _ _ h => .inr h.kept)
      (fun _ _ e h _ => ⟨.inr ⟨e, rfl⟩, h⟩) fun _ _ _ h => ⟨⟨.inl rfl, h⟩, .inr h.kept⟩)
      (fun _ h => h) ?_
    rintro r s ⟨row, hrow, rfl | ⟨e, rfl⟩, hidle⟩
    · exact ⟨hidle.kept.sms, row, hrow, hidle, rfl⟩
    · exact ⟨row, hrow, hidle⟩
  · cases found with
    | none => exact fun _ h => h.elim
    | some row =>
        simp only
        split
        · exact triple_done fun _ ⟨_, row', hrow', h, _⟩ => ⟨row', hrow', h.finished⟩
        · rintro s ⟨hsms, h⟩
          exact triple_handleEvent ctx row hsms s h

end Account

/-! ### Turns -/

/-- The event is there, and in budget. -/
def Kept (id : Nat) (s : OutboxState) : Prop :=
  ∃ row, s.rows[id]? = some row ∧ InBudget row

lemma begun_of_row {id : Nat} {s t : OutboxState} {row : OutboxRow} (hrow : s.rows[id]? = some row)
    (h : On id (Account.BegunBy ⟨rowAttempts row, s.submissions.count id⟩) t) : Begun id s t := by
  obtain ⟨row', hrow', hbegun⟩ := h
  unfold Begun
  rw [attempts_of_row hrow, attempts_of_row hrow']
  exact hbegun

lemma handling_kept (ctx : WorkerContext) (id : Nat) {s : OutboxState} (h : Kept id s)
    {inputs : List Surroundings} (hrecorded : (SmsTurn.handling inputs).Recorded ctx id s) :
    Kept id ((SmsTurn.handling inputs).run ctx id s) ∧
      CountsSends id s ((SmsTurn.handling inputs).run ctx id s) := by
  obtain ⟨row, hrow, hin⟩ := h
  let a : Account := ⟨rowAttempts row, s.submissions.count id⟩
  have hidle : On id a.Idle s := ⟨row, hrow, hin, rfl, rfl⟩
  have hadmits : ∀ u env, OfOutcomeType env ∧ (Begun id s u → env.failure.isNone) →
      (a.contract id).admits (u, ()) env :=
    fun u env ⟨htype, hfails⟩ => ⟨htype, fun hbegun => hfails (begun_of_row hrow hbegun)⟩
  have hallowed := Allowed.mono hadmits hrecorded
  rcases (a.triple_handleJob ctx id (s, ()) hidle).after (fun _ => rfl) hallowed with
    ⟨_, row', hrow', hfinished⟩ | ⟨hcut, hsame | ⟨_, row', hrow', hguar⟩⟩
  · refine ⟨⟨row', hrow', hfinished.kept⟩, ?_⟩
    unfold CountsSends
    rw [attempts_of_row hrow, attempts_of_row (s := SmsTurn.run ctx id s _) hrow']
    exact hfinished.counts
  · unfold SmsTurn.run
    simp only [hsame]
    exact ⟨⟨row, hrow, hin⟩, .inl rfl⟩
  · refine ⟨⟨row', hrow', hguar.resolve_left fun hbegun => ?_⟩, .inl ?_⟩
    · exact hcut (begun_of_row hrow ⟨row', hrow', hbegun⟩)
    · exact Classical.not_not.1 fun hne => hcut (.inl hne)

/-- A recovery cycle leaves the account as it is. -/
lemma recovery_kept (ctx : WorkerContext) (id : Nat) {s : OutboxState} (h : Kept id s)
    (inputs : List Surroundings) :
    Kept id ((SmsTurn.recovery inputs).run ctx id s) ∧
      CountsSends id s ((SmsTurn.recovery inputs).run ctx id s) := by
  obtain ⟨row, hrow, hin⟩ := h
  let a : Account := ⟨rowAttempts row, s.submissions.count id⟩
  let c : Contract Surroundings OutboxState Unit :=
    ⟨fun _ _ => True, fun s t => t = s, fun _ t => On id a.Idle t.1⟩
  have hrows : ∀ u v : OutboxState, On id a.Idle u → EachRow Recovered u v → On id a.Idle v := by
    rintro u v ⟨r, hr, hidle⟩ hrec
    obtain ⟨r', hr', hrecovered⟩ := hrec.rows id r hr
    have hmessage := hrecovered.smsMessage
    refine ⟨r', hr', ⟨?_, ?_, ?_, ?_⟩, ?_, ?_⟩
    · exact (congrArg OutboxEvent.eventType hrecovered.event).trans hidle.kept.sms
    · exact fun m hm => hidle.kept.bounded m (hmessage ▸ hm)
    · exact fun m hm => hidle.kept.reserved m (hmessage ▸ hm)
    · rw [hrecovered.deadLetteredAt]
      exact fun m hm => hidle.kept.spent m (hmessage ▸ hm)
    · rw [hrec.submissions]
      exact hidle.sent
    · rw [← hidle.attempts]
      exact congrArg (fun m => (Option.map SmsMessage.attempts m).getD 0) hmessage
  have hpermits : Permits c Recovered fun s => On id a.Idle s.1 := by
    refine ⟨Recovered.refl, ?_, fun u v _ hu huv _ => hrows u v hu huv,
      fun u v _ hu huv _ => hrows u v hu huv⟩
    rintro u v hu rfl
    exact hu
  have hidle : On id a.Idle s := ⟨row, hrow, hin, rfl, rfl⟩
  have hafter : On id a.Idle ((SmsTurn.recovery inputs).run ctx id s) := by
    have hallowed : (recoverAndPublishOnce ctx).Allowed (fun u env => c.admits (u, ()) env)
        (fun _ => True) inputs s := Allowed.of_forall (fun _ _ => trivial) fun _ => trivial
    rcases (recoverAndPublishOnce_rows ctx hpermits (s, ()) hidle).after (fun _ => rfl)
        hallowed with ⟨_, hend⟩ | ⟨-, hsame | ⟨_, hguar⟩⟩
    · exact hend
    · unfold SmsTurn.run
      simp only [hsame]
      exact hidle
    · exact hguar
  obtain ⟨row', hrow', hidle'⟩ := hafter
  exact ⟨⟨row', hrow', hidle'.kept⟩, .inl hidle'.sent⟩

lemma turn_kept (ctx : WorkerContext) (id : Nat) {s : OutboxState} (h : Kept id s) {turn : SmsTurn}
    (hrecorded : turn.Recorded ctx id s) :
    Kept id (turn.run ctx id s) ∧ CountsSends id s (turn.run ctx id s) := by
  cases turn with
  | handling inputs => exact handling_kept ctx id h hrecorded
  | recovery inputs => exact recovery_kept ctx id h inputs

lemma Unhandled.kept {id : Nat} {s : OutboxState} (h : Unhandled id s) : Kept id s := by
  obtain ⟨row, hrow, hsms, hnew⟩ := h
  refine ⟨row, hrow, hsms, fun m hm => ?_, fun m hm hreserved => ?_, fun m hm _ hspent => ?_⟩
  · have hzero := (hnew m hm).1
    omega
  · rw [(hnew m hm).2] at hreserved
    cases hreserved
  · have hzero := (hnew m hm).1
    omega

lemma Kept.budgeted {id : Nat} {s : OutboxState} (h : Kept id s) : Budgeted id s := by
  obtain ⟨row, hrow, hin⟩ := h
  refine ⟨?_, fun r m hr hm hfailed hspent => ?_⟩
  · rw [attempts_of_row hrow]
    unfold rowAttempts
    cases hm : row.smsMessage with
    | none => exact Nat.zero_le _
    | some m => exact hin.bounded m hm
  · obtain rfl := Option.some.inj (hrow.symm.trans hr)
    exact hin.spent m hm hfailed hspent

/-- **SMS attempts stay within budget**, over every sequence of handlings of an event whose
statements do not fail, and are all run, once the provider was asked or an attempt counted. -/
theorem sms_attempts_within_budget (ctx : WorkerContext) (id : Nat) (s t : OutboxState)
    (hnew : Unhandled id s) (hrun : TurnsUnder ctx id (fun u turn => turn.Recorded ctx id u) s t) :
    Budgeted id t ∧
      ∀ turn : SmsTurn, turn.Recorded ctx id t → CountsSends id t (turn.run ctx id t) := by
  have hkept : Kept id t := hrun.invariant (I := Kept id) (fun {turn u v} hrec hu hstep => by
    rw [hstep]
    exact (turn_kept ctx id hu hrec).1) hnew.kept
  exact ⟨hkept.budgeted, fun turn hrec => (turn_kept ctx id hkept hrec).2⟩

namespace Shop

/-- The confirmation of an earn waits to be sent. -/
def awaiting : OutboxState := ⟨[earnConfirmed.row 0], [], []⟩

/-- A handling whose submission is refused for now. -/
def refusedForNow (now : Int) : SmsTurn :=
  .handling (List.replicate 4 (at_ now) ++ answered now .FAILED false :: List.replicate 2 (at_ now))

/-- The same, but the update of the event fails, and the handler counts the attempt again. -/
def refusedAndLost (now : Int) : SmsTurn :=
  .handling (List.replicate 4 (at_ now) ++ answered now .FAILED false :: at_ now ::
    { at_ now with failure := some (.other "connection lost") } :: List.replicate 2 (at_ now))

def ofOutcomeType (env : Surroundings) : Bool :=
  match env.answer with
  | .ok r => r.status ≠ .QUEUED
  | .error _ => true

def typed : SmsTurn → Bool
  | .handling inputs | .recovery inputs => inputs.all ofOutcomeType

/-- Nothing fails, and every statement is run. -/
def complete (s : OutboxState) : SmsTurn → Bool
  | .handling inputs =>
      inputs.all (fun env => ofOutcomeType env ∧ env.failure.isNone) ∧
        ¬ ((handleJob worker 0).after inputs s).1.Running
  | .recovery _ => true

end Shop

lemma ofOutcomeType_of_check {env : Surroundings} (h : Shop.ofOutcomeType env = true) :
    OfOutcomeType env := by
  intro r hr
  unfold Shop.ofOutcomeType at h
  rw [hr] at h
  simpa using h

lemma recorded_of_complete {s : OutboxState} {turn : SmsTurn} (h : Shop.complete s turn = true) :
    turn.Recorded Shop.worker 0 s := by
  cases turn with
  | handling inputs =>
      simp only [Shop.complete, decide_eq_true_eq] at h
      obtain ⟨hinputs, hend⟩ := h
      refine Allowed.of_ended (fun env henv u => ?_) hend
      have henv' := List.all_eq_true.1 hinputs env henv
      simp only [decide_eq_true_eq] at henv'
      exact ⟨ofOutcomeType_of_check henv'.1, fun _ => henv'.2⟩
  | recovery inputs => exact trivial

/-- Five refusals use up the budget, and dead-letter the message and the event. -/
theorem sms_attempts_within_budget_shop :
    ∃ t, TurnsUnder Shop.worker 0 (fun u turn => turn.Recorded Shop.worker 0 u) Shop.awaiting t ∧
      attempts 0 t = 5 ∧ t.rows.map (fun row => row.deadLetteredAt.isSome) = [true] ∧
      Budgeted 0 t := by
  have hmap : ([0, 30000, 60000, 90000, 120000].map Shop.refusedForNow |>.foldlM
      (fun u turn => if Shop.complete u turn then some (turn.run Shop.worker 0 u) else none)
      Shop.awaiting).map
        (fun t => (attempts 0 t, t.rows.map fun row => row.deadLetteredAt.isSome)) =
      some (5, [true]) := by
    decide +kernel
  obtain ⟨t, ht, hfacts⟩ := Option.map_eq_some_iff.1 hmap
  simp only [Prod.mk.injEq] at hfacts
  have hrun : TurnsUnder Shop.worker 0 (fun u turn => turn.Recorded Shop.worker 0 u)
      Shop.awaiting t := .of_foldlM (fun _ _ h => recorded_of_complete h) ht
  have hnew : Unhandled 0 Shop.awaiting := by
    refine ⟨_, rfl, rfl, fun m hm => ?_⟩
    obtain rfl := Option.some.inj hm
    exact ⟨rfl, rfl⟩
  exact ⟨t, hrun, hfacts.1, hfacts.2,
    (sms_attempts_within_budget Shop.worker 0 Shop.awaiting t hnew hrun).1⟩

/-- **One refusal may be counted twice**: the update of the event fails after the message was
updated, and the fifth refusal makes it six attempts. -/
theorem sms_attempts_past_budget :
    ∃ t, Unhandled 0 Shop.awaiting ∧
      TurnsUnder Shop.worker 0 (fun _ turn => Shop.typed turn = true) Shop.awaiting t ∧
      t.submissions.count 0 = 5 ∧ attempts 0 t = 6 ∧ ¬ Budgeted 0 t := by
  have hmap : ([0, 30000, 60000, 90000].map Shop.refusedForNow ++ [Shop.refusedAndLost 120000]
      |>.foldlM (fun u turn => if Shop.typed turn then some (turn.run Shop.worker 0 u) else none)
      Shop.awaiting).map (fun t => (t.submissions.count 0, attempts 0 t)) = some (5, 6) := by
    decide +kernel
  obtain ⟨t, ht, hfacts⟩ := Option.map_eq_some_iff.1 hmap
  simp only [Prod.mk.injEq] at hfacts
  refine ⟨t, ⟨_, rfl, rfl, fun m hm => ?_⟩, .of_foldlM (fun _ _ h => h) ht, hfacts.1, hfacts.2,
    fun hbudget => ?_⟩
  · obtain rfl := Option.some.inj hm
    exact ⟨rfl, rfl⟩
  · have hle := hbudget.attempts_le
    rw [hfacts.2] at hle
    exact absurd hle (by decide)

end OutboxWorkerRuntime

end ShopcityLoyalty
