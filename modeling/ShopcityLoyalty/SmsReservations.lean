import ShopcityLoyalty.DeadLetters

/-!
Reserved submissions, over runs of any number of workers.

A job takes the reservation of a message that it read unreserved and finds unchanged, calls
the provider, and records the outcome. The auxiliary state names the job that holds the
reservation. Others may give up a message whose reservation is stale; they do not take the
reservation, which ends only when its holder records an outcome.
-/

namespace ShopcityLoyalty

open Process

namespace OutboxWorkerRuntime

/-- The job that reserved the submission of a message, and whether it has called the provider. -/
abbrev Reservation := Option (Nat × Bool)

/-- The reserved message is not submitted, and it is in progress unless it was given up. -/
def Holds (id : Nat) (s : OutboxState × Reservation) : Prop :=
  ∀ r, s.2 = some r → ∃ row m, s.1.rows[id]? = some row ∧ row.smsMessage = some m ∧
    ¬ Submitted m.status ∧ (m.failureCategory = some submissionInProgress ∨ m.deadLetteredAt.isSome)

/-- The job has the reservation. -/
def AtProvider (id n : Nat) (sent : Bool) (s : OutboxState × Reservation) : Prop :=
  Holds id s ∧ s.2 = some (n, sent)

/-- A change that submits nothing and reserves nothing: the message is given up, made, or left
alone. -/
def Unreserved (row row' : OutboxRow) : Prop :=
  row'.smsMessage = row.smsMessage ∨ row.smsMessage = none ∨
    ∃ m m', row.smsMessage = some m ∧ row'.smsMessage = some m' ∧ ¬ Submitted m'.status ∧
      m'.deadLetteredAt.isSome ∧ m.attempts ≤ m'.attempts ∧
      m'.failureCategory ≠ some submissionInProgress

lemma EachRow.holds {id : Nat} {s t : OutboxState} {g : Reservation} (h : EachRow Unreserved s t)
    (hs : Holds id (s, g)) : Holds id (t, g) := by
  intro r hr
  obtain ⟨row, m, hrow, hm, hopen, hheld⟩ := hs r hr
  obtain ⟨row', hrow', hrel⟩ := h.rows id row hrow
  rcases hrel with heq | hnone | ⟨_, m', _, hm', hopen', hdead, _⟩
  · exact ⟨row', m, hrow', heq.trans hm, hopen, hheld⟩
  · rw [hnone] at hm; cases hm
  · exact ⟨row', m', hrow', hm', hopen', .inr hdead⟩

/-- The row of an event with another message. -/
def withMessage (s : OutboxState) (id : Nat) (row : OutboxRow) (m : SmsMessage) : OutboxState :=
  { s with rows := s.rows.set id { row with smsMessage := some m } }

/-- The contract of the job with number `n` allows what such a job does with the reservation
of an event. -/
structure Reserving (c : Contract Surroundings OutboxState Reservation) (id n : Nat) : Prop where
  allows : Allows c Unreserved (Holds id)
  stable : ∀ sent, c.Stable (AtProvider id n sent)
  claim : ∀ s row m now, Holds id s → s.2 = none → s.1.rows[id]? = some row →
    row.smsMessage = some m → ¬ Submitted m.status → m.deadLetteredAt = none →
    m.failureCategory ≠ some submissionInProgress →
    c.guarantee s (withMessage s.1 id row { m with
      failureCategory := some submissionInProgress, lastAttemptAt := some now }, some (n, false))
  submit : ∀ s, AtProvider id n false s →
    c.guarantee s ({ s.1 with submissions := s.1.submissions ++ [id] }, some (n, true))
  record : ∀ s row m m', AtProvider id n true s → s.1.rows[id]? = some row →
    row.smsMessage = some m → m'.attempts = m.attempts + 1 →
    (m'.failureCategory = some submissionInProgress →
      m.failureCategory = some submissionInProgress) →
    c.guarantee s (withMessage s.1 id row m', none)

section
variable {c : Contract Surroundings OutboxState Reservation} {id n : Nat}

/-! ### Statements of a job -/

lemma Reserving.updateEvent (h : Reserving c id n) {data : Int → OutboxRow → OutboxRow}
    (hdata : ∀ now row, (data now row).smsMessage = row.smsMessage) :
    Triple c (Holds id) (updateEvent id data) fun _ => Holds id :=
  h.allows.permits.onRow fun env row => .inl (hdata env.now row)

lemma Reserving.giveUp (h : Reserving c id n) {data : SmsMessage → SmsMessage}
    (hdata : ∀ m, ¬ Submitted (data m).status ∧ (data m).deadLetteredAt.isSome ∧
      m.attempts ≤ (data m).attempts ∧
      (data m).failureCategory ≠ some submissionInProgress) :
    Triple c (Holds id) (updateMessage id data) fun _ => Holds id := by
  apply h.allows.permits.onRow
  intro env row
  cases hm : row.smsMessage with
  | none => exact .inr (.inl hm)
  | some m => exact .inr (.inr ⟨m, data m, hm, rfl, hdata m⟩)

lemma Reserving.outcomeUnknown (h : Reserving c id n) (now : Int) :
    Triple c (Holds id) (markSmsSubmissionOutcomeUnknown id now) fun _ => Holds id := by
  refine (h.giveUp ?_).bind (fun _ => h.updateEvent ?_) fun _ _ hs => hs
  · simp [Submitted, submissionInProgress]
  · simp

/-- What the provider answered is recorded, and the reservation ends; a statement that throws
leaves it. -/
lemma Reserving.record_triple (h : Reserving c id n) {data : SmsMessage → SmsMessage}
    (hdata : ∀ m, (data m).attempts = m.attempts + 1 ∧
      ((data m).failureCategory = some submissionInProgress →
        m.failureCategory = some submissionInProgress)) :
    Triple c (AtProvider id n true) (updateMessage id data) fun _ => Holds id := by
  apply triple_attempt (h.stable true)
  intro s env hs _
  have hstay := h.allows.guarantee s.1 s.1 s.2 hs.1 (.refl h.allows.refl s.1)
  cases hfail : env.failure with
  | some e => exact ⟨s.2, hstay, hs.1⟩
  | none =>
      obtain ⟨row, m, hrow, hm, _⟩ := hs.1 _ hs.2
      obtain ⟨hattempts, hcategory⟩ := hdata m
      simp only [hrow, hm]
      exact ⟨none, h.record s row m (data m) hs hrow hm hattempts hcategory,
        fun r hr => by cases hr⟩

lemma Reserving.send (h : Reserving c id n) :
    Triple c (AtProvider id n false) (send id) fun _ => AtProvider id n true := by
  refine Triple.bind (Q := fun _ => AtProvider id n true) ?_ (fun _ => ?_) fun _ _ hs => hs
  · apply triple_statement (h.stable false)
    intro s env hs _
    exact ⟨some (n, true), h.submit s hs, fun r _ => hs.1 _ hs.2, rfl⟩
  · apply triple_attempt (h.stable true)
    intro s env hs _
    exact ⟨s.2, h.allows.guarantee s.1 s.1 s.2 hs.1 (.refl h.allows.refl s.1), hs⟩

lemma mapSmsDispatchResult_records (result : SmsSendResult) (now : Int) (m : SmsMessage) :
    (mapSmsDispatchResult result now m).attempts = m.attempts + 1 ∧
      ((mapSmsDispatchResult result now m).failureCategory = some submissionInProgress →
        m.failureCategory = some submissionInProgress) := by
  unfold mapSmsDispatchResult
  split
  · exact ⟨rfl, fun h => by cases h⟩
  · exact ⟨rfl, fun h => by cases h⟩
  · exact ⟨rfl, fun h => by cases h⟩
  · exact ⟨rfl, fun h => h⟩

lemma Reserving.submitSms (h : Reserving c id n) (ctx : WorkerContext) (message : SmsMessage)
    (now : Int) :
    Triple c (AtProvider id n false) (submitSms ctx id message now) fun _ => Holds id := by
  refine h.send.bind (fun result => ?_) fun _ _ hs => hs.1
  split
  · refine Triple.bind (h.record_triple ?_) (fun _ => h.updateEvent fun _ _ => rfl) fun _ _ hs => hs
    intro m
    refine ⟨rfl, fun hcategory => ?_⟩
    simp only [failedSubmission, submissionInProgress] at hcategory
    split at hcategory <;> simp at hcategory
  · exact h.record_triple (mapSmsDispatchResult_records result now)

/-- The reservation is taken only of an unsubmitted message that nobody else has reserved. -/
lemma Reserving.claimSubmission (h : Reserving c id n) {message : SmsMessage} (now : Int)
    (hopen : ¬ Submitted message.status)
    (hfree : message.failureCategory ≠ some submissionInProgress) :
    Triple c (Holds id) (claimSubmission id message now) fun r s =>
      Holds id s ∧ (r = .ok true → AtProvider id n false s) := by
  apply triple_attempt h.allows.stable
  intro s env hs _
  have hsame : ∀ t, EachRow Unreserved s.1 t →
      c.guarantee s (t, s.2) ∧ Holds id (t, s.2) :=
    fun t ht => ⟨h.allows.guarantee _ _ s.2 hs ht, h.allows.keeps _ _ s.2 hs ht⟩
  have hstay := hsame _ (.refl h.allows.refl s.1)
  cases env.failure with
  | some e => exact ⟨s.2, hstay.1, hstay.2, fun hr => by cases hr⟩
  | none =>
  cases hrow : s.1.rows[id]? with
  | none => simp only [hrow]; exact ⟨s.2, hstay.1, hstay.2, fun hr => by cases hr⟩
  | some row =>
  have hlt := Table.lt_of_getElem? hrow
  cases hm : row.smsMessage with
  | none =>
      have hset := hsame _ (.set h.allows.refl hrow (h.allows.refl row))
      simp only [hrow, hm]
      exact ⟨s.2, hset.1, hset.2, fun hr => by cases hr⟩
  | some m =>
  simp only [hrow, hm]
  by_cases hc : decide (m.status = message.status ∧ m.attempts = message.attempts ∧
      m.deadLetteredAt.isNone ∧ m.failureCategory = message.failureCategory) = true
  · obtain ⟨hstatus, _, halive, hcategory⟩ := of_decide_eq_true hc
    rw [Option.isNone_iff_eq_none] at halive
    -- whoever holds the reservation has marked the message
    have hnobody : s.2 = none := by
      cases hholder : s.2 with
      | none => rfl
      | some r =>
          obtain ⟨row₁, m₁, hrow₁, hm₁, _, hheld⟩ := hs r hholder
          obtain rfl : row = row₁ := Option.some.inj (hrow.symm.trans hrow₁)
          obtain rfl : m = m₁ := Option.some.inj (hm.symm.trans hm₁)
          rcases hheld with hheld | hheld
          · exact absurd (hcategory.symm.trans hheld) hfree
          · simp [halive] at hheld
    simp only [hc, if_true]
    have hclaim := h.claim s row m now hs hnobody hrow hm (by rw [hstatus]; exact hopen) halive
      (by rw [hcategory]; exact hfree)
    have hholds : Holds id (withMessage s.1 id row { m with
        failureCategory := some submissionInProgress, lastAttemptAt := some now },
          some (n, false)) :=
      fun r _ => ⟨_, _, List.getElem?_set_self hlt, rfl, by rw [hstatus]; exact hopen, .inl rfl⟩
    exact ⟨some (n, false), hclaim, hholds, fun _ => ⟨hholds, rfl⟩⟩
  · have hset := hsame { s.1 with rows := s.1.rows.set id { row with smsMessage := some m } }
      (.set h.allows.refl hrow (.inl hm.symm))
    simp only [hc, Bool.false_eq_true, if_false]
    exact ⟨s.2, hset.1, hset.2, fun hr => by cases hr⟩

lemma Reserving.reserveAndSubmit (h : Reserving c id n) {ctx : WorkerContext}
    {message : SmsMessage} (now : Int)
    (hreserve : ctx.smsProvider.requiresLocalSubmissionReservation)
    (hopen : ¬ Submitted message.status)
    (hfree : message.failureCategory ≠ some submissionInProgress) :
    Triple c (Holds id) (reserveAndSubmit ctx id message now) fun _ => Holds id := by
  unfold OutboxWorkerRuntime.reserveAndSubmit
  rw [if_pos hreserve]
  refine (h.claimSubmission now hopen hfree).bind (fun claimed => ?_) fun _ _ hs => hs.1
  split
  · rename_i hclaimed
    refine Triple.consequence (Triple.catching (h.submitSms ctx message now) (fun _ _ hs => hs)
      fun error => ?_) (fun s hs => hs.2 (by rw [hclaimed])) fun _ _ hq => hq
    exact h.outcomeUnknown now
  · exact triple_done fun _ hs => hs.1

lemma Reserving.handleSms (h : Reserving c id n) {ctx : WorkerContext} (message : SmsMessage)
    (hreserve : ctx.smsProvider.requiresLocalSubmissionReservation) :
    Triple c (Holds id) (handleSms ctx id message) fun _ => Holds id := by
  unfold OutboxWorkerRuntime.handleSms
  split
  · exact h.updateEvent fun _ _ => rfl
  rename_i hopen
  split
  · unfold expireReservation
    refine h.allows.permits.clock.bind (fun readAt => ?_) fun _ _ hs => hs
    simp only
    split
    · exact triple_done fun _ hs => hs
    · exact h.allows.permits.clock.bind (fun now => h.outcomeUnknown now) fun _ _ hs => hs
  rename_i hfree
  split
  · exact h.updateEvent fun _ _ => rfl
  refine h.allows.permits.clock.bind (fun now => ?_) fun _ _ hs => hs
  split
  · refine (h.giveUp ?_).bind (fun _ => h.updateEvent fun _ _ => rfl) fun _ _ hs => hs
    simp [Submitted, submissionInProgress]
  · exact triple_fail fun _ hs => hs
  · exact h.reserveAndSubmit now hreserve hopen fun heq => hfree ⟨hreserve, heq⟩

/-- **A job** of a provider that wants reservations. -/
theorem Reserving.handleJob (h : Reserving c id n) {ctx : WorkerContext}
    (hreserve : ctx.smsProvider.requiresLocalSubmissionReservation) :
    Triple c (Holds id) (handleJob ctx id) fun _ => Holds id := by
  refine Triple.bind (h.allows.permits.onRow fun _ _ => .inl rfl) (fun found => ?_) fun _ _ hs => hs
  cases found with
  | none => exact triple_done fun _ hs => hs
  | some row =>
  simp only
  split
  · exact triple_done fun _ hs => hs
  refine Triple.bind (h.updateEvent fun _ _ => rfl) (fun _ => ?_) fun _ _ hs => hs
  split
  · exact h.allows.processFraudEvaluationEvent ctx id fun _ _ => .inl rfl
  split
  · unfold processReportRefreshEvent
    split
    · exact triple_fail fun _ hs => hs
    split
    · exact triple_fail fun _ hs => hs
    · refine (h.allows.permits.statement (fun env s => .refl h.allows.refl s)
        fun _ _ => rfl).bind (fun _ => ?_) fun _ _ hs => hs
      exact h.updateEvent fun _ _ => rfl
  split
  · exact h.updateEvent fun _ _ => rfl
  refine Triple.bind (Q := fun _ => Holds id) ?_ (fun resolved => ?_) fun _ _ hs => hs
  · unfold resolveSmsMessage
    split
    · exact triple_done fun _ hs => hs
    refine Triple.catching (Q := fun _ => Holds id) ?_ (fun _ _ hs => hs) fun _ => ?_
    · refine Triple.bind (Q := fun _ => Holds id) ?_ (fun _ => triple_done fun _ hs => hs)
        fun _ _ hs => hs
      refine h.allows.permits.clock.bind (fun queuedAt => ?_) fun _ _ hs => hs
      cases smsMessageFromOutboxEvent ctx row queuedAt with
      | error e => exact triple_fail fun _ hs => hs
      | ok message =>
          apply h.allows.permits.onRow
          intro env r
          cases hm : r.smsMessage with
          | some present => exact .inl rfl
          | none => exact .inr (.inl hm)
    · exact Triple.bind (Q := fun _ => Holds id) (h.updateEvent fun _ _ => rfl)
        (fun _ => triple_done fun _ hs => hs) fun _ _ hs => hs
  · split
    · exact h.handleSms _ hreserve
    · exact triple_done fun _ hs => hs

end

/-! ### Turns -/

/-- The message's counter of attempts. -/
def attempts (id : Nat) (s : OutboxState) : Nat :=
  ((s.rows[id]?.bind (·.smsMessage)).map (·.attempts)).getD 0

/-- The message was marked as being submitted. -/
def Turned (id : Nat) (s t : OutboxState) : Prop :=
  ∃ row m row' m', s.rows[id]? = some row ∧ row.smsMessage = some m ∧
    t.rows[id]? = some row' ∧ row'.smsMessage = some m' ∧
    m.failureCategory ≠ some submissionInProgress ∧
    m'.failureCategory = some submissionInProgress

lemma attempts_eq {id : Nat} {s : OutboxState} {row : OutboxRow} {m : SmsMessage}
    (hrow : s.rows[id]? = some row) (hm : row.smsMessage = some m) :
      attempts id s = m.attempts := by
  simp [attempts, hrow, hm]

/-- What the task with number `n` does to the reservation: it takes a free one, hands the
message to the provider once, and ends it by counting an attempt. -/
structure Turn (id n : Nat) (s t : OutboxState × Reservation) : Prop where
  holds : Holds id s → Holds id t
  others : ∀ m, m ≠ n → ∀ sent, s.2 = some (m, sent) ↔ t.2 = some (m, sent)
  attempts : attempts id s.1 ≤ attempts id t.1
  reserves : Turned id s.1 t.1 → s.2 = none ∧ t.2 = some (n, false)
  taken : s.2 = none → t.2 ≠ none → Turned id s.1 t.1
  submits : t.1.submissions.count id ≠ s.1.submissions.count id →
    s.2 = some (n, false) ∧ t.2 = some (n, true)
  own : ∀ sent, s.2 = some (n, sent) → (∃ sent', t.2 = some (n, sent') ∧ (sent → sent')) ∨
    (t.2 = none ∧ OutboxWorkerRuntime.attempts id s.1 < OutboxWorkerRuntime.attempts id t.1)

def turnContract (id n : Nat) : Contract Surroundings OutboxState Reservation where
  admits _ _ := True
  rely s t := (Holds id s → Holds id t) ∧ ∀ sent, s.2 = some (n, sent) ↔ t.2 = some (n, sent)
  guarantee := Turn id n

lemma Turn.of_kept {id n : Nat} {s t : OutboxState} {g : Reservation}
    (hholds : Holds id (s, g) → Holds id (t, g))
    (hattempts : OutboxWorkerRuntime.attempts id s ≤ OutboxWorkerRuntime.attempts id t)
    (hturned : ¬ Turned id s t) (hsubmissions : t.submissions.count id = s.submissions.count id) :
    Turn id n (s, g) (t, g) where
  holds := hholds
  others _ _ _ := Iff.rfl
  attempts := hattempts
  reserves h := absurd h hturned
  taken h h' := absurd h h'
  submits h := absurd hsubmissions h
  own sent h := .inl ⟨sent, h, fun hsent => hsent⟩

lemma EachRow.turn {R : OutboxRow → OutboxRow → Prop} {id n : Nat} {s t : OutboxState}
    {g : Reservation} (h : EachRow R s t) (hholds : Holds id (s, g) → Holds id (t, g))
    (hR : ∀ row row' m, R row row' → row.smsMessage = some m → ∃ m', row'.smsMessage = some m' ∧
      m.attempts ≤ m'.attempts ∧ (m'.failureCategory = some submissionInProgress →
        m.failureCategory = some submissionInProgress)) : Turn id n (s, g) (t, g) := by
  refine .of_kept hholds ?_ ?_ (by rw [h.submissions])
  · cases hrow : s.rows[id]? with
    | none => simp [attempts, hrow]
    | some row =>
        cases hm : row.smsMessage with
        | none => simp [attempts, hrow, hm]
        | some m =>
            obtain ⟨row', hrow', hrel⟩ := h.rows id row hrow
            obtain ⟨m', hm', hle, _⟩ := hR row row' m hrel hm
            rw [attempts_eq hrow hm, attempts_eq hrow' hm']
            exact hle
  · rintro ⟨row, m, row', m', hrow, hm, hrow', hm', hfree, hmarked⟩
    obtain ⟨row₁, hrow₁, hrel⟩ := h.rows id row hrow
    obtain ⟨m₁, hm₁, _, hback⟩ := hR row row₁ m hrel hm
    obtain rfl : row₁ = row' := Option.some.inj (hrow₁.symm.trans hrow')
    obtain rfl : m₁ = m' := Option.some.inj (hm₁.symm.trans hm')
    exact hfree (hback hmarked)

lemma EachRow.turn_of_unreserved {id n : Nat} {s t : OutboxState} {g : Reservation}
    (h : EachRow Unreserved s t) : Turn id n (s, g) (t, g) := by
  refine h.turn h.holds fun row row' m hrel hm => ?_
  rcases hrel with heq | hnone | ⟨m₁, m', hm₁, hm', _, _, hle, hfree⟩
  · exact ⟨m, heq.trans hm, le_rfl, fun h => h⟩
  · rw [hnone] at hm; cases hm
  · obtain rfl : m = m₁ := Option.some.inj (hm.symm.trans hm₁)
    exact ⟨m', hm', hle, fun h => absurd h hfree⟩

lemma EachRow.turn_of_polled {id n : Nat} {s t : OutboxState} {g : Reservation}
    (h : EachRow Polled s t) : Turn id n (s, g) (t, g) := by
  refine h.turn (fun hs r hr => ?_) fun row row' m hrel hm => ?_
  · obtain ⟨row, m, hrow, hm, hopen, hheld⟩ := hs r hr
    obtain ⟨row', hrow', hrel⟩ := h.rows id row hrow
    rcases hrel.message with heq | ⟨m₁, m', hm₁, _, hsent, _⟩
    · exact ⟨row', m, hrow', heq.trans hm, hopen, hheld⟩
    · obtain rfl : m = m₁ := Option.some.inj (hm.symm.trans hm₁)
      exact absurd (.inl hsent) hopen
  · rcases hrel.message with heq | ⟨m₁, m', hm₁, hm', _, hle, hback⟩
    · exact ⟨m, heq.trans hm, le_rfl, fun h => h⟩
    · obtain rfl : m = m₁ := Option.some.inj (hm.symm.trans hm₁)
      exact ⟨m', hm', hle.ge, hback⟩

lemma Local.turn {id j n : Nat} {s t : OutboxState} {g : Reservation} (h : Local j s t)
    (hne : id ≠ j) : Turn id n (s, g) (t, g) := by
  have hrows := h.rows id hne
  refine .of_kept (fun hs => ?_) ?_ ?_ (h.submissions id hne)
  · unfold Holds at hs ⊢; simp only [hrows]; exact hs
  · unfold OutboxWorkerRuntime.attempts; rw [hrows]
  · rintro ⟨row, m, row', m', hrow, hm, hrow', hm', hfree, hmarked⟩
    obtain rfl : row = row' := Option.some.inj (hrow.symm.trans (hrows ▸ hrow'))
    obtain rfl : m = m' := Option.some.inj (hm.symm.trans hm')
    exact hfree hmarked

lemma withMessage_row {s : OutboxState} {id : Nat} {row : OutboxRow} (hrow : s.rows[id]? = some row)
    (m : SmsMessage) : (withMessage s id row m).rows[id]? =
      some { row with smsMessage := some m } :=
  List.getElem?_set_self (Table.lt_of_getElem? hrow)

lemma reserving_turns (id n : Nat) : Reserving (turnContract id n) id n where
  allows :=
    { refl := fun _ => .inl rfl
      stable := fun _ _ hs hrely => hrely.1 hs
      guarantee := fun _ _ _ _ h => h.turn_of_unreserved
      keeps := fun _ _ _ hs h => h.holds hs }
  stable sent _ _ hs hrely := ⟨hrely.1 hs.1, (hrely.2 sent).1 hs.2⟩
  claim s row m now hs hnobody hrow hm hopen halive hfree := by
    have hrow' := withMessage_row hrow { m with
      failureCategory := some submissionInProgress, lastAttemptAt := some now }
    refine ⟨fun _ r _ => ⟨_, _, hrow', rfl, hopen, .inl rfl⟩, fun k hk sent => ?_, ?_,
      fun _ => ⟨hnobody, rfl⟩, fun _ _ => ?_, fun h => absurd rfl h, fun sent h => ?_⟩
    · rw [hnobody]
      constructor
      · intro h; cases h
      · intro h; exact absurd (Prod.mk.inj (Option.some.inj h)).1.symm hk
    · rw [attempts_eq hrow hm, attempts_eq hrow' rfl]
    · exact ⟨row, m, _, _, hrow, hm, hrow', rfl, hfree, rfl⟩
    · rw [hnobody] at h; cases h
  submit s hs := by
    have hrows : ∀ g, Holds id ({ s.1 with submissions := s.1.submissions ++ [id] }, g) :=
      fun g r _ => hs.1 _ hs.2
    refine ⟨fun _ => hrows _, fun k hk sent => ?_, le_rfl, fun hturned => ?_, fun h => ?_,
      fun _ => ⟨hs.2, rfl⟩, fun sent _ => .inl ⟨true, rfl, fun _ => rfl⟩⟩
    · rw [hs.2]
      constructor <;> intro h <;> exact absurd (Prod.mk.inj (Option.some.inj h)).1.symm hk
    · obtain ⟨row, m, row', m', hrow, hm, hrow', hm', hfree, hmarked⟩ := hturned
      obtain rfl : row = row' := Option.some.inj (hrow.symm.trans hrow')
      obtain rfl : m = m' := Option.some.inj (hm.symm.trans hm')
      exact absurd hmarked hfree
    · rw [hs.2] at h; cases h
  record s row m m' hs hrow hm hattempts hback := by
    have hrow' := withMessage_row hrow m'
    have hgrown : attempts id s.1 < attempts id (withMessage s.1 id row m') := by
      rw [attempts_eq hrow hm, attempts_eq hrow' rfl, hattempts]
      omega
    refine ⟨fun _ r hr => (by cases hr), fun k hk sent => ?_, hgrown.le, fun hturned =>
      ?_, fun h => ?_,
      fun h => absurd rfl h, fun _ _ => .inr ⟨rfl, hgrown⟩⟩
    · rw [hs.2]
      constructor
      · intro h; exact absurd (Prod.mk.inj (Option.some.inj h)).1.symm hk
      · intro h; cases h
    · obtain ⟨row₁, m₁, row₂, m₂, hrow₁, hm₁, hrow₂, hm₂, hfree, hmarked⟩ := hturned
      obtain rfl : row = row₁ := Option.some.inj (hrow.symm.trans hrow₁)
      obtain rfl : m = m₁ := Option.some.inj (hm.symm.trans hm₁)
      obtain rfl := Option.some.inj (hrow'.symm.trans hrow₂)
      obtain rfl : m' = m₂ := Option.some.inj hm₂
      exact absurd (hback hmarked) hfree
    · rw [hs.2] at h; cases h

lemma turns_fit {ctx : WorkerContext} (id : Nat)
    (hreserve : ctx.smsProvider.requiresLocalSubmissionReservation) :
    Pool.Fits (program ctx) (fun n _ => turnContract id n) (fun _ _ => True) (fun _ _ => True)
      (Holds id) where
  closed n _ := ⟨fun _ => ⟨fun h => h, fun _ => Iff.rfl⟩, fun _ _ _ h h' =>
    ⟨fun hs => h'.1 (h.1 hs), fun sent => (h.2 sent).trans (h'.2 sent)⟩⟩
  compatible n m _ _ s t hne _ _ hguar := ⟨hguar.holds, hguar.others m hne.symm⟩
  good _ _ _ _ hs hguar := hguar.holds hs
  admits _ _ _ _ _ _ := trivial
  program n k s hs := by
    have h := reserving_turns id n
    cases k with
    | handleJob j =>
        by_cases hj : j = id
        · subst hj
          exact (h.handleJob hreserve s hs).weaken fun _ _ _ => trivial
        · have hwork : WorkOn (turnContract id n) j fun _ => True :=
            ⟨fun _ _ _ _ => trivial, fun _ _ _ _ hl => hl.turn (Ne.symm hj), fun _ _ _ _ => trivial⟩
          exact hwork.handleJob ctx s trivial
    | insertOutboxEvent new =>
        have hallows : Allows (turnContract id n) (· = ·) fun _ => True :=
          ⟨fun _ => rfl, fun _ _ _ _ => trivial,
            fun _ _ _ _ he => (he.mono fun _ _ heq => .inl (by rw [heq])).turn_of_unreserved,
            fun _ _ _ _ _ => trivial⟩
        exact insertOutboxEvent_rows new hallows.permits s trivial
    | recoverAndPublishOnce =>
        have hallows : Allows (turnContract id n) Recovered fun _ => True :=
          ⟨Recovered.refl, fun _ _ _ _ => trivial,
            fun _ _ _ _ he => (he.mono fun _ _ hr => .inl hr.smsMessage).turn_of_unreserved,
            fun _ _ _ _ _ => trivial⟩
        exact recoverAndPublishOnce_rows ctx hallows.permits s trivial
    | pollDeliveryReports =>
        have hallows : Allows (turnContract id n) Polled fun _ => True :=
          ⟨Polled.refl, fun _ _ _ _ => trivial, fun _ _ _ _ he => he.turn_of_polled,
            fun _ _ _ _ _ => trivial⟩
        exact pollDeliveryReports_rows ctx hallows.permits s trivial

/-! ### Runs -/

/-- The task with number `n` takes the reservation of the message. -/
def Reserves (ctx : WorkerContext) (id n : Nat) (w w' : Workers) : Prop :=
  (∃ env, w.step (program ctx) (.advance n env) = some w') ∧ Turned id w.state w'.state

/-- The task with number `n` calls the provider with the message. -/
def StartsSend (ctx : WorkerContext) (id n : Nat) (w w' : Workers) : Prop :=
  (∃ env, w.step (program ctx) (.advance n env) = some w') ∧
    w'.state.submissions = w.state.submissions ++ [id]

/-- The task with number `n` counts an attempt on the message. -/
def RecordsAttempt (ctx : WorkerContext) (id n : Nat) (w w' : Workers) : Prop :=
  (∃ env, w.step (program ctx) (.advance n env) = some w') ∧
    attempts id w.state < attempts id w'.state

/-- Between two points of a run the task with number `n` recorded the outcome of its call. -/
def Released (ctx : WorkerContext) (id n : Nat) (w w' : Workers) : Prop :=
  ∃ u u', Run ctx w u ∧ RecordsAttempt ctx id n u u' ∧ Run ctx u' w'

/-- A step that takes no reservation of the message. -/
def LeavesReservation (ctx : WorkerContext) (id : Nat) (w : Workers)
    (event : PoolEvent Task Surroundings) : Prop :=
  ∀ w', w.step (program ctx) event = some w' → ¬ Turned id w.state w'.state

/-- Reservations and calls of the provider take turns: each call follows a reservation of the
same task, and before the next reservation or call the task has recorded its outcome. -/
structure TakesTurns (ctx : WorkerContext) : Prop where
  /-- At most one task takes the reservation at each value of the counter. -/
  reservations : ∀ {u u' w w' : Workers} {id n m : Nat}, Run ctx (Pool.initial noEvents) u →
    Reserves ctx id n u u' → Run ctx u' w → Reserves ctx id m w w' →
    attempts id u.state < attempts id w.state ∧ Released ctx id n u' w
  /-- At most one call starts at each value, and none while an earlier reservation is open. -/
  sends : ∀ {u u' w w' : Workers} {id n m : Nat}, Run ctx (Pool.initial noEvents) u →
    StartsSend ctx id n u u' → Run ctx u' w → StartsSend ctx id m w w' →
    attempts id u.state < attempts id w.state ∧ Released ctx id n u' w
  /-- Only a task that took the reservation calls the provider, and before any other takes it. -/
  reserved : ∀ {w w' : Workers} {id n : Nat}, Run ctx (Pool.initial noEvents) w →
    StartsSend ctx id n w w' → ∃ u u', Run ctx (Pool.initial noEvents) u ∧
      Reserves ctx id n u u' ∧ Pool.StepsUnder (program ctx) (LeavesReservation ctx id) u' w

section
variable {ctx : WorkerContext} {id n : Nat} {w w' : Workers} {g : Reservation}

/-- The jobs keep their contracts, and `g` is the reservation. -/
def Underway (id : Nat) (w : Workers) (g : Reservation) : Prop :=
  w.Kept (fun n _ => turnContract id n) (fun _ _ _ _ => True) (fun _ _ _ => True)
    (fun _ _ => True) (fun _ _ => True) (Holds id) g

lemma Underway.along (hreserve : ctx.smsProvider.requiresLocalSubmissionReservation)
    {J : Workers → Reservation → Prop}
    (hJ : ∀ u u' g g' event, Run ctx w u → u.step (program ctx) event = some u' →
      ((u'.state, g') = (u.state, g) ∨
        ∃ n env, event = .advance n env ∧ Turn id n (u.state, g) (u'.state, g')) → J u g → J u' g')
    (h : Underway id w g) (hw : J w g) (hrun : Run ctx w w') :
    ∃ g', Underway id w' g' ∧ J w' g' := by
  refine Pool.run_along (turns_fit id hreserve).accord (P := fun _ _ => True) (fun _ _ _ => ?_)
    (fun u u' g₁ g₂ event hfirst _ hstep _ hmove hj => ?_) h hw hrun
  · exact ⟨fun _ _ => ⟨fun _ _ _ => ⟨trivial, trivial⟩, trivial⟩, fun _ _ _ _ _ => trivial,
      fun _ _ _ _ => trivial⟩
  · refine hJ u u' g₁ g₂ event hfirst hstep ?_ hj
    rcases hmove with ⟨heq, _⟩ | ⟨n, _, env, hevent, hturn⟩
    · exact .inl heq
    · exact .inr ⟨n, env, hevent, hturn⟩

lemma Underway.advance (hreserve : ctx.smsProvider.requiresLocalSubmissionReservation)
    (h : Underway id w g) {env : Surroundings}
    (hstep : w.step (program ctx) (.advance n env) = some w') :
    ∃ g', Underway id w' g' ∧ Turn id n (w.state, g) (w'.state, g') := by
  obtain ⟨g', hkept, hmove⟩ := Pool.step_kept (turns_fit id hreserve).accord h
    ⟨fun _ _ => ⟨fun _ _ _ => ⟨trivial, trivial⟩, trivial⟩, fun _ _ _ _ _ => trivial,
      fun _ _ _ _ => trivial⟩ hstep
  rcases hmove with ⟨_, hno⟩ | ⟨m, _, env', hevent, hturn⟩
  · exact absurd rfl (hno n env)
  · obtain ⟨rfl, _⟩ := PoolEvent.advance.inj hevent
    exact ⟨g', hkept, hturn⟩

lemma Underway.reserves (hreserve : ctx.smsProvider.requiresLocalSubmissionReservation)
    (h : Underway id w g) (hr : Reserves ctx id n w w') :
    g = none ∧ Underway id w' (some (n, false)) ∧ attempts id w.state ≤ attempts id w'.state := by
  obtain ⟨⟨env, hstep⟩, hturned⟩ := hr
  obtain ⟨g', hkept, hturn⟩ := h.advance hreserve hstep
  obtain ⟨hnone, hsome⟩ := hturn.reserves hturned
  obtain rfl : g' = some (n, false) := hsome
  exact ⟨hnone, hkept, hturn.attempts⟩

lemma Underway.startsSend (hreserve : ctx.smsProvider.requiresLocalSubmissionReservation)
    (h : Underway id w g) (hs : StartsSend ctx id n w w') :
    g = some (n, false) ∧ Underway id w' (some (n, true)) ∧
      attempts id w.state ≤ attempts id w'.state := by
  obtain ⟨⟨env, hstep⟩, hsub⟩ := hs
  obtain ⟨g', hkept, hturn⟩ := h.advance hreserve hstep
  have hcount : w'.state.submissions.count id ≠ w.state.submissions.count id := by
    rw [hsub, List.count_append]
    simp
  obtain ⟨hfirst, hthen⟩ := hturn.submits hcount
  obtain rfl : g' = some (n, true) := hthen
  exact ⟨hfirst, hkept, hturn.attempts⟩

/-- Until its holder records an outcome the reservation stays. -/
lemma Underway.stays_or_released (hreserve : ctx.smsProvider.requiresLocalSubmissionReservation)
    {sent : Bool} (h : Underway id w (some (n, sent))) (hrun : Run ctx w w') :
    ∃ g', Underway id w' g' ∧ attempts id w.state ≤ attempts id w'.state ∧
      ((∃ sent', g' = some (n, sent') ∧ (sent → sent')) ∨
        (attempts id w.state < attempts id w'.state ∧ Released ctx id n w w')) := by
  refine Underway.along hreserve (J := fun v g' => attempts id w.state ≤ attempts id v.state ∧
    ((∃ sent', g' = some (n, sent') ∧ (sent → sent')) ∨
      (attempts id w.state < attempts id v.state ∧ Released ctx id n w v)))
    ?_ h ⟨le_rfl, .inl ⟨sent, rfl, fun hsent => hsent⟩⟩ hrun
  intro u u' g₁ g₂ event hfirst hstep hmove hj
  have hlast : Run ctx u u' := .single trivial hstep
  rcases hmove with heq | ⟨k, env, rfl, hturn⟩
  · obtain ⟨hstate, rfl⟩ := Prod.mk.inj heq
    rw [hstate]
    obtain ⟨hle, hcase⟩ := hj
    refine ⟨hle, hcase.imp_right ?_⟩
    rintro ⟨hlt, v, v', hv, hrecord, hv'⟩
    exact ⟨hlt, v, v', hv, hrecord, hv'.trans hlast⟩
  · obtain ⟨hle, hcase⟩ := hj
    have hgrows := hturn.attempts
    refine ⟨hle.trans hgrows, ?_⟩
    rcases hcase with ⟨sent', rfl, hsent⟩ | ⟨hlt, v, v', hv, hrecord, hv'⟩
    · by_cases hk : n = k
      · subst hk
        rcases hturn.own sent' rfl with ⟨sent₂, hsome, hsent₂⟩ | ⟨_, hgrown⟩
        · exact .inl ⟨sent₂, hsome, fun hs => hsent₂ (hsent hs)⟩
        · exact .inr ⟨hle.trans_lt hgrown, u, u', hfirst, ⟨⟨env, hstep⟩, hgrown⟩, .refl u'⟩
      · exact .inl ⟨sent', (hturn.others n hk sent').1 rfl, hsent⟩
    · exact .inr ⟨hlt.trans_le hgrows, v, v', hv, hrecord, hv'.trans hlast⟩

/-- A reservation was taken by its holder, and by nobody since. -/
lemma underway (id : Nat) (hreserve : ctx.smsProvider.requiresLocalSubmissionReservation)
    (hrun : Run ctx (Pool.initial noEvents) w) : ∃ g, Underway id w g ∧
      ∀ n sent, g = some (n, sent) → ∃ u u', Run ctx (Pool.initial noEvents) u ∧
        Reserves ctx id n u u' ∧ Pool.StepsUnder (program ctx) (LeavesReservation ctx id) u' w := by
  refine Underway.along hreserve (J := fun v g => ∀ n sent, g = some (n, sent) → ∃ u u',
    Run ctx (Pool.initial noEvents) u ∧ Reserves ctx id n u u' ∧
      Pool.StepsUnder (program ctx) (LeavesReservation ctx id) u' v) ?_
    (Pool.initial_kept (g := none) (fun r hr => by cases hr) fun _ => trivial)
    (fun n sent h => by cases h) hrun
  intro v v' g₁ g₂ event hfirst hstep hmove hj n sent hg
  have hquiet : ∀ m, g₁ = some m → LeavesReservation ctx id v event := by
    intro m hm v₁ hv₁ hturned
    obtain rfl : v' = v₁ := Option.some.inj (hstep.symm.trans hv₁)
    rcases hmove with heq | ⟨k, env, _, hturn⟩
    · obtain ⟨row, m₁, row', m', hrow, hm₁, hrow', hm', hfree, hmarked⟩ := hturned
      rw [(Prod.mk.inj heq).1, hrow] at hrow'
      obtain rfl := Option.some.inj hrow'
      obtain rfl : m₁ = m' := Option.some.inj (hm₁.symm.trans hm')
      exact hfree hmarked
    · have hnone := (hturn.reserves hturned).1
      rw [hm] at hnone
      cases hnone
  rcases hmove with heq | ⟨k, env, rfl, hturn⟩
  · obtain ⟨-, rfl⟩ := Prod.mk.inj heq
    obtain ⟨u, u', hu, hr, hrest⟩ := hj n sent hg
    exact ⟨u, u', hu, hr, hrest.tail (hquiet _ hg) hstep⟩
  · cases hold : g₁ with
    | none =>
        have hturned := hturn.taken hold (by rw [hg]; simp)
        have hsome : g₂ = some (k, false) := (hturn.reserves hturned).2
        obtain ⟨rfl, -⟩ := Prod.mk.inj (Option.some.inj (hg.symm.trans hsome))
        exact ⟨v, v', hfirst, ⟨⟨env, hstep⟩, hturned⟩, .refl v'⟩
    | some r =>
        obtain ⟨m, sent₁⟩ := r
        have hsame : m = n := by
          by_cases hk : m = k
          · subst hk
            rcases hturn.own sent₁ hold with ⟨sent₂, hsome, _⟩ | ⟨hnone, _⟩
            · exact (Prod.mk.inj (Option.some.inj (hsome.symm.trans hg))).1
            · rw [hg] at hnone; cases hnone
          · have hkeep := (hturn.others m hk sent₁).1 hold
            exact (Prod.mk.inj (Option.some.inj (hkeep.symm.trans hg))).1
        subst hsame
        obtain ⟨u, u', hu, hr, hrest⟩ := hj m sent₁ hold
        exact ⟨u, u', hu, hr, hrest.tail (hquiet _ hold) hstep⟩

end

/-- **Submissions take turns**, for a provider that wants reservations. -/
theorem sms_submissions_take_turns (ctx : WorkerContext)
    (hreserve : ctx.smsProvider.requiresLocalSubmissionReservation) : TakesTurns ctx where
  reservations {u u' w w' id n m} hreach hfirst hrun hthen := by
    obtain ⟨g, hu, _⟩ := underway id hreserve hreach
    obtain ⟨_, hu', hle⟩ := hu.reserves hreserve hfirst
    obtain ⟨g', hw, _, hcase⟩ := hu'.stays_or_released hreserve hrun
    obtain ⟨hnone, _⟩ := hw.reserves hreserve hthen
    rcases hcase with ⟨sent', hsome, _⟩ | ⟨hlt, hreleased⟩
    · rw [hnone] at hsome; cases hsome
    · exact ⟨hle.trans_lt hlt, hreleased⟩
  sends {u u' w w' id n m} hreach hfirst hrun hthen := by
    obtain ⟨g, hu, _⟩ := underway id hreserve hreach
    obtain ⟨_, hu', hle⟩ := hu.startsSend hreserve hfirst
    obtain ⟨g', hw, _, hcase⟩ := hu'.stays_or_released hreserve hrun
    obtain ⟨hfree, _⟩ := hw.startsSend hreserve hthen
    rcases hcase with ⟨sent', hsome, hsent⟩ | ⟨hlt, hreleased⟩
    · obtain ⟨_, heq⟩ := Prod.mk.inj (Option.some.inj (hfree.symm.trans hsome))
      rw [← heq] at hsent
      exact absurd (hsent rfl) (by decide)
    · exact ⟨hle.trans_lt hlt, hreleased⟩
  reserved {w w' id n} hreach hsend := by
    obtain ⟨g, hw, horigin⟩ := underway id hreserve hreach
    obtain ⟨hsome, _⟩ := hw.startsSend hreserve hsend
    exact horigin n false hsome

namespace Shop

/-- A worker whose provider wants reservations. -/
def reservingWorker : WorkerContext := { worker with smsProvider := ⟨true, some 20000, true⟩ }

/-- A job up to its call of the provider. -/
def untilSend (number : Nat) (now : Int) : List (PoolEvent Task Surroundings) :=
  [.start (.handleJob 0), .advance number (at_ now), .advance number (at_ now),
    .advance number (at_ now), .advance number (at_ now)]

/-- The provider fails for now, and the job records it. -/
def recordsFailure (number : Nat) (now : Int) : List (PoolEvent Task Surroundings) :=
  [.advance number (answered now .FAILED false), .advance number (at_ now),
    .advance number (at_ now)]

def firstCall : List (PoolEvent Task Surroundings) :=
  [.start (.insertOutboxEvent earnConfirmed), .advance 0 (at_ 0)] ++ untilSend 1 1

/-- Up to the second call, after the first one failed. -/
def secondCall : List (PoolEvent Task Surroundings) :=
  firstCall ++ .advance 1 (at_ 1) :: (recordsFailure 1 2 ++ untilSend 2 3)

/-- What the given steps have submitted. -/
def submits (events : List (PoolEvent Task Surroundings)) : Option (List Nat) :=
  (Pool.runChecked (program reservingWorker) (fun _ _ => true) (Pool.initial noEvents) events).map
    fun w => w.state.submissions

end Shop

/-- A job calls the provider again after the call before failed, at the next value. -/
theorem sms_submissions_take_turns_shop : ∃ u u' w w' : Workers,
    StartsSend Shop.reservingWorker 0 1 u u' ∧ Run Shop.reservingWorker u' w ∧
      StartsSend Shop.reservingWorker 0 2 w w' ∧ attempts 0 u.state < attempts 0 w.state := by
  have hsub : ∀ {events : List (PoolEvent Task Surroundings)} {w : Workers} {l : List Nat},
      Shop.submits events = some l →
      Pool.runChecked (program Shop.reservingWorker) (fun _ _ => true) (Pool.initial noEvents)
        events = some w → w.state.submissions = l := by
    intro events w l hl hw
    unfold Shop.submits at hl
    rw [hw] at hl
    exact Option.some.inj hl
  have hall : Shop.submits (Shop.secondCall ++ [.advance 2 (Shop.at_ 3)]) = some [0, 0] := by
    decide +kernel
  obtain ⟨w', hw', -⟩ := Option.map_eq_some_iff.1 hall
  obtain ⟨w, w'', hw, hw'', hsend', hlast⟩ := Pool.runChecked_split hw'
  obtain ⟨u, u', hu, hu', hsend, hrest⟩ := Pool.runChecked_split hw
  have hreach : Run Shop.reservingWorker (Pool.initial noEvents) u :=
    .of_runChecked (fun _ _ _ => trivial) hu
  have hrun : Run Shop.reservingWorker u' w := .of_runChecked (fun _ _ _ => trivial) hrest
  have hstarts : StartsSend Shop.reservingWorker 0 1 u u' := by
    refine ⟨⟨_, hsend⟩, ?_⟩
    rw [hsub (l := []) (by decide +kernel) hu, hsub (l := [0]) (by decide +kernel) hu']
    rfl
  have hagain : StartsSend Shop.reservingWorker 0 2 w w'' := by
    refine ⟨⟨_, hsend'⟩, ?_⟩
    rw [hsub (l := [0]) (by decide +kernel) hw, hsub hall hw'']
    rfl
  exact ⟨u, u', w, w'', hstarts, hrun, hagain,
    ((sms_submissions_take_turns Shop.reservingWorker rfl).sends hreach hstarts hrun hagain).1⟩

end OutboxWorkerRuntime

end ShopcityLoyalty
