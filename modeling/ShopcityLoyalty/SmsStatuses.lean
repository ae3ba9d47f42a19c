import ShopcityLoyalty.DeadLetters
import ShopcityLoyalty.Lib.Effects

/-!
What the statements of the outbox workers do to the statuses of messages and to the times that
go with them.

A message is inserted or created unsent; it gets another status when the result of a submission
is recorded, when a submission is given up, and when a delivery report is recorded. Every other
statement leaves the statuses and their times alone.
-/

namespace ShopcityLoyalty

open Process

/-- The columns of a message that its status goes with. -/
structure SmsStamps where
  status : SmsMessageStatus
  providerMessageId : Option String
  queuedAt : Int
  sentAt : Option Int
  deliveredAt : Option Int
  failedAt : Option Int
  suppressedAt : Option Int
  deadLetteredAt : Option Int
  deriving DecidableEq

def SmsMessage.stamps (m : SmsMessage) : SmsStamps where
  status := m.status
  providerMessageId := m.providerMessageId
  queuedAt := m.queuedAt
  sentAt := m.sentAt
  deliveredAt := m.deliveredAt
  failedAt := m.failedAt
  suppressedAt := m.suppressedAt
  deadLetteredAt := m.deadLetteredAt

namespace OutboxWorkerRuntime

/-- The stamps of the message of an event. -/
def stampsAt (s : OutboxState) (id : Nat) : Option SmsStamps :=
  s.rows[id]?.bind fun row => row.smsMessage.map SmsMessage.stamps

/-- A message that waits for its first submission. -/
def queuedStamps (queuedAt : Int) : SmsStamps :=
  ⟨.QUEUED, none, queuedAt, none, none, none, none, none⟩

/-! ### Effects -/

abbrev OutboxEffect := Surroundings → OutboxState → OutboxState

/-- The effect of a statement on the message of an event. -/
def messageEffect (id : Nat) (f : Surroundings → SmsMessage → SmsMessage) : OutboxEffect :=
  fun env s =>
    match env.failure, s.rows[id]? with
    | none, some row =>
        { s with rows := s.rows.set id { row with smsMessage := row.smsMessage.map (f env) } }
    | _, _ => s

/-- The result of a submission is recorded. -/
def recordEffect (id : Nat) (result : SmsSendResult) (now : Int) : OutboxEffect :=
  messageEffect id fun _ => mapSmsDispatchResult result now

/-- A delivery is reported of a message that meets a condition. -/
def deliveredEffect (id : Nat) (condition : SmsMessage → Bool) (report : SmsDeliveryReport) :
    OutboxEffect :=
  messageEffect id fun env message =>
    if condition message then
      { message with
        status := .DELIVERED
        deliveredAt := some (report.occurredAt.getD env.now)
        nextDeliveryReportPollAt := none }
    else message

/-- A failure is reported of a message that meets a condition. -/
def undeliveredEffect (id : Nat) (condition : SmsMessage → Bool) (report : SmsDeliveryReport) :
    OutboxEffect :=
  messageEffect id fun env message =>
    if condition message then
      { message with
        status := .FAILED
        failedAt := some (report.occurredAt.getD env.now)
        failureCategory := some "terminal"
        lastError := some "Provider delivery report marked message failed"
        nextDeliveryReportPollAt := none }
    else message

def insertEffect (new : NewOutboxEvent) : OutboxEffect :=
  fun env s =>
    match env.failure with
    | none => { s with rows := s.rows ++ [new.row env.now] }
    | some _ => s

/-- A submission is given up, or failed, at a time. -/
def GivesUp (now : Int) (data : SmsMessage → SmsMessage) : Prop :=
  ∀ m, ∃ deadLetteredAt, (data m).stamps =
    { m.stamps with status := .FAILED, failedAt := some now, deadLetteredAt := deadLetteredAt }

/-- What the statements of the workers do to the stamps. -/
inductive SmsEffect : OutboxEffect → Prop
  | quiet {e : OutboxEffect} (same : ∀ env s id, stampsAt (e env s) id = stampsAt s id) :
      SmsEffect e
  | inserted (new : NewOutboxEvent) : SmsEffect (insertEffect new)
  | created {e : OutboxEffect} (id : Nat) (queuedAt : Int)
      (created : ∀ env s j, stampsAt (e env s) j = stampsAt s j ∨
        (j = id ∧ stampsAt (e env s) j = some (queuedStamps queuedAt))) : SmsEffect e
  | recorded (id : Nat) (result : SmsSendResult) (now : Int) :
      SmsEffect (recordEffect id result now)
  | givenUp (id : Nat) {now : Int} {data : SmsMessage → SmsMessage} (givesUp : GivesUp now data) :
      SmsEffect (messageEffect id fun _ => data)
  | delivered (id : Nat) (condition : SmsMessage → Bool) (report : SmsDeliveryReport) :
      SmsEffect (deliveredEffect id condition report)
  | undelivered (id : Nat) (condition : SmsMessage → Bool) (report : SmsDeliveryReport) :
      SmsEffect (undeliveredEffect id condition report)

variable {α : Type} {env : Surroundings} {s : OutboxState} {id j : Nat}

lemma stampsAt_set {row row' : OutboxRow} (hrow : s.rows[id]? = some row) :
    stampsAt { s with rows := s.rows.set id row' } j =
      if j = id then row'.smsMessage.map SmsMessage.stamps else stampsAt s j := by
  unfold stampsAt
  by_cases hj : j = id
  · subst hj
    simp [List.getElem?_set_self (Table.lt_of_getElem? hrow)]
  · simp [List.getElem?_set_ne (Ne.symm hj), hj]

/-- The stamps after a statement on a message. -/
lemma stampsAt_messageEffect (f : Surroundings → SmsMessage → SmsMessage) :
    stampsAt (messageEffect id f env s) j =
      if j = id ∧ env.failure.isNone then
        (s.rows[id]?.bind fun row => row.smsMessage).map fun m => (f env m).stamps
      else stampsAt s j := by
  unfold messageEffect
  cases hfailure : env.failure with
  | some e => simp
  | none =>
      cases hrow : s.rows[id]? with
      | none =>
          by_cases hj : j = id
          · subst hj
            simp [stampsAt, hrow]
          · simp [hj]
      | some row =>
          simp only [stampsAt_set hrow]
          by_cases hj : j = id
          · subst hj
            simp [Function.comp_def]
          · simp [hj]

lemma stampsAt_eq (s : OutboxState) (id : Nat) :
    stampsAt s id = (s.rows[id]?.bind fun row => row.smsMessage).map SmsMessage.stamps := by
  unfold stampsAt
  cases s.rows[id]? with
  | none => rfl
  | some row => rfl

/-- A message of an event. -/
def MessageAt (s : OutboxState) (id : Nat) (m : SmsMessage) : Prop :=
  ∃ row, s.rows[id]? = some row ∧ row.smsMessage = some m

lemma stampsAt_some {st : SmsStamps} :
    stampsAt s id = some st ↔ ∃ m, MessageAt s id m ∧ m.stamps = st := by
  constructor
  · intro h
    obtain ⟨row, hrow, h⟩ := Option.bind_eq_some_iff.1 h
    obtain ⟨m, hm, hst⟩ := Option.map_eq_some_iff.1 h
    exact ⟨m, ⟨row, hrow, hm⟩, hst⟩
  · rintro ⟨m, ⟨row, hrow, hm⟩, rfl⟩
    unfold stampsAt
    rw [hrow]
    exact Option.map_eq_some_iff.2 ⟨m, hm, rfl⟩

/-- Stamps after a statement on a message: they were there, or the statement left them. -/
lemma of_stampsAt_messageEffect {f : Surroundings → SmsMessage → SmsMessage} {st : SmsStamps}
    (h : stampsAt (messageEffect id f env s) j = some st) :
    stampsAt s j = some st ∨
      (j = id ∧ env.failure = none ∧ ∃ m, MessageAt s id m ∧ (f env m).stamps = st) := by
  rw [stampsAt_messageEffect] at h
  by_cases hj : j = id ∧ env.failure.isNone
  · rw [if_pos hj] at h
    obtain ⟨m, hm, hst⟩ := Option.map_eq_some_iff.1 h
    obtain ⟨row, hrow, hm⟩ := Option.bind_eq_some_iff.1 hm
    exact .inr ⟨hj.1, Option.isNone_iff_eq_none.1 hj.2, m, ⟨row, hrow, hm⟩, hst⟩
  · rw [if_neg hj] at h
    exact .inl h

/-- A statement on a message that is there leaves its stamps. -/
lemma stampsAt_messageEffect_self {f : Surroundings → SmsMessage → SmsMessage} {m : SmsMessage}
    (henv : env.failure = none) (hm : MessageAt s id m) :
    stampsAt (messageEffect id f env s) id = some (f env m).stamps := by
  obtain ⟨row, hrow, hm⟩ := hm
  rw [stampsAt_messageEffect, henv, if_pos ⟨rfl, rfl⟩, hrow]
  simp [hm]

lemma of_stampsAt_insertEffect {new : NewOutboxEvent} {st : SmsStamps}
    (h : stampsAt (insertEffect new env s) j = some st) :
    stampsAt s j = some st ∨ ∃ m, new.message = some m ∧ m.stamps = st := by
  unfold insertEffect at h
  cases hfailure : env.failure with
  | some e =>
      rw [hfailure] at h
      exact .inl h
  | none =>
      rw [hfailure] at h
      obtain ⟨m, ⟨row, hrow, hm⟩, hst⟩ := stampsAt_some.1 h
      rcases Table.getElem?_insert_iff.1 hrow with hrow | ⟨-, rfl⟩
      · exact .inl (stampsAt_some.2 ⟨m, ⟨row, hrow, hm⟩, hst⟩)
      · exact .inr ⟨m, hm, hst⟩

/-! ### The statements -/

lemma effectsIn_quiet {f : Surroundings → OutboxState → Except JobError α × OutboxState}
    (h : ∀ env s id, stampsAt (f env s).2 id = stampsAt s id) :
      (statement f).EffectsIn SmsEffect := by
  refine effectsIn_attempt (.quiet fun env s id => ?_)
  simp only [effect]
  cases env.failure with
  | some e => rfl
  | none => exact h env s id

lemma effectsIn_clock : clock.EffectsIn SmsEffect :=
  effectsIn_statement (.quiet fun _ _ _ => rfl)

/-- A statement on a row that leaves the message alone. -/
lemma effectsIn_onRow {missing : Except JobError α}
    {f : Surroundings → OutboxRow → Except JobError α × OutboxRow}
    (h : ∀ env row, (f env row).2.smsMessage.map SmsMessage.stamps =
      row.smsMessage.map SmsMessage.stamps) : (onRow id missing f).EffectsIn SmsEffect := by
  refine effectsIn_quiet fun env s j => ?_
  cases hrow : s.rows[id]? with
  | none => rfl
  | some row =>
      simp only
      rw [stampsAt_set hrow, h]
      by_cases hj : j = id
      · subst hj
        rw [if_pos rfl, stampsAt, hrow]
        rfl
      · rw [if_neg hj]

lemma effectsIn_updateEvent {data : Int → OutboxRow → OutboxRow}
    (h : ∀ now row, (data now row).smsMessage = row.smsMessage) :
    (updateEvent id data).EffectsIn SmsEffect :=
  effectsIn_onRow fun env row => by rw [h env.now row]

lemma effectsIn_updateManyEvents {condition : OutboxRow → Bool} {data : Int → OutboxRow → OutboxRow}
    (h : ∀ now row, (data now row).smsMessage = row.smsMessage) :
    (updateManyEvents id condition data).EffectsIn SmsEffect := by
  refine effectsIn_onRow fun env row => ?_
  split
  · rw [h env.now row]
  · rfl

/-- A statement on a message. -/
lemma effectsIn_onMessage {missing : Except JobError α}
    {f : Surroundings → SmsMessage → Except JobError α × SmsMessage}
    (h : SmsEffect (messageEffect id fun env m => (f env m).2)) :
    (onMessage id missing f).EffectsIn SmsEffect := by
  refine effectsIn_attempt ((congrArg SmsEffect ?_).mpr h)
  funext env s
  simp only [effect, messageEffect]
  cases env.failure with
  | some e => rfl
  | none =>
      cases s.rows[id]? with
      | none => rfl
      | some row =>
          cases hmessage : row.smsMessage with
          | none =>
              simp only [hmessage, Option.map_none]
              rw [← hmessage]
          | some m => simp only [hmessage, Option.map_some]

lemma effectsIn_updateMessage {data : SmsMessage → SmsMessage}
    (h : SmsEffect (messageEffect id fun _ => data)) :
    (updateMessage id data).EffectsIn SmsEffect :=
  effectsIn_onMessage h

lemma effectsIn_updateManyMessages {condition : SmsMessage → Bool}
    {data : Int → SmsMessage → SmsMessage}
    (h : SmsEffect (messageEffect id fun env m => if condition m then data env.now m else m)) :
    (updateManyMessages id condition data).EffectsIn SmsEffect := by
  refine effectsIn_onMessage ?_
  have hsame : (fun (env : Surroundings) (m : SmsMessage) =>
      (if condition m then ((.ok true : Except JobError Bool), data env.now m)
        else (.ok false, m)).2) = fun env m => if condition m then data env.now m else m := by
    funext env m
    split <;> rfl
  exact hsame ▸ h

lemma smsEffect_kept {f : Surroundings → SmsMessage → SmsMessage}
    (h : ∀ env m, (f env m).stamps = m.stamps) : SmsEffect (messageEffect id f) := by
  refine .quiet fun env s j => ?_
  rw [stampsAt_messageEffect]
  split
  · rename_i hj
    obtain ⟨rfl, -⟩ := hj
    rw [stampsAt_eq]
    exact congrArg (fun g => Option.map g _) (funext fun m => h env m)
  · rfl

/-! ### The tasks -/

variable (ctx : WorkerContext)

lemma markOutboxEventCompleted_effects : (markOutboxEventCompleted id).EffectsIn SmsEffect :=
  effectsIn_updateEvent fun _ _ => rfl

lemma markOutboxEventDeadLettered_effects (failureCategory : String) :
    (markOutboxEventDeadLettered id failureCategory).EffectsIn SmsEffect :=
  effectsIn_updateEvent fun _ _ => rfl

lemma markOutboxEventFailure_effects (failureCategory : String) (nextAttemptAt : Option Int) :
    (markOutboxEventFailure id failureCategory nextAttemptAt).EffectsIn SmsEffect :=
  effectsIn_updateEvent fun _ _ => rfl

lemma markSmsMessageInvalidPayload_effects (now : Int) (error : JobError) :
    (markSmsMessageInvalidPayload id now error).EffectsIn SmsEffect :=
  effectsIn_updateMessage (.givenUp id fun _ => ⟨some now, rfl⟩)

lemma markSmsSubmissionOutcomeUnknown_effects (now : Int) :
    (markSmsSubmissionOutcomeUnknown id now).EffectsIn SmsEffect := by
  apply EffectsIn.bind
  · exact effectsIn_updateMessage (.givenUp id fun _ => ⟨some now, rfl⟩)
  · intro _
    exact markOutboxEventDeadLettered_effects _

lemma recordFailedSubmission_effects (now : Int) (dead : Bool) (lastError : String) :
    (recordFailedSubmission ctx id now dead lastError).EffectsIn SmsEffect := by
  apply EffectsIn.bind
  · exact effectsIn_updateMessage (.givenUp id fun _ => ⟨if dead then some now else none, rfl⟩)
  · intro _
    exact markOutboxEventFailure_effects _ _

lemma send_effects : (send id).EffectsIn SmsEffect := by
  apply EffectsIn.bind
  · exact effectsIn_statement (.quiet fun _ _ _ => rfl)
  · intro _
    exact effectsIn_attempt (.quiet fun _ _ _ => rfl)

lemma submitSms_effects (message : SmsMessage) (now : Int) :
    (submitSms ctx id message now).EffectsIn SmsEffect := by
  apply send_effects.bind
  intro result
  apply effectsIn_ite
  · intro _
    exact recordFailedSubmission_effects ctx now _ _
  · intro _
    exact effectsIn_updateMessage (.recorded id result now)

lemma submissionThrew_effects (message : SmsMessage) (now : Int) (reservationClaimed : Bool)
    (error : JobError) :
    (submissionThrew ctx id message now reservationClaimed error).EffectsIn SmsEffect := by
  apply effectsIn_ite
  · intro _
    exact markSmsSubmissionOutcomeUnknown_effects now
  · intro _
    exact (recordFailedSubmission_effects ctx now _ _).bind fun _ => effectsIn_fail

lemma claimSubmission_effects (message : SmsMessage) (now : Int) :
    (claimSubmission id message now).EffectsIn SmsEffect := by
  apply effectsIn_updateManyMessages
  apply smsEffect_kept
  intro env m
  split <;> rfl

lemma reserveAndSubmit_effects (message : SmsMessage) (now : Int) :
    (reserveAndSubmit ctx id message now).EffectsIn SmsEffect := by
  apply effectsIn_ite
  · intro _
    apply (claimSubmission_effects message now).bind
    intro claimed
    apply effectsIn_ite
    · intro _
      exact (submitSms_effects ctx message now).catching
        fun e => submissionThrew_effects ctx message now true e
    · intro _
      exact effectsIn_done
  · intro _
    exact (submitSms_effects ctx message now).catching
      fun e => submissionThrew_effects ctx message now false e

lemma expireReservation_effects (message : SmsMessage) :
    (expireReservation ctx id message).EffectsIn SmsEffect := by
  apply effectsIn_clock.bind
  intro readAt
  apply effectsIn_ite
  · intro _
    exact effectsIn_done
  · intro _
    exact effectsIn_clock.bind fun now => markSmsSubmissionOutcomeUnknown_effects now

lemma handleSms_effects (message : SmsMessage) :
    (handleSms ctx id message).EffectsIn SmsEffect := by
  apply effectsIn_ite
  · intro _
    exact markOutboxEventCompleted_effects
  intro _
  apply effectsIn_ite
  · intro _
    exact expireReservation_effects ctx message
  intro _
  apply effectsIn_ite
  · intro _
    exact markOutboxEventDeadLettered_effects _
  intro _
  apply effectsIn_clock.bind
  intro now
  cases ctx.validateSmsIntent message.template (normalizeJsonPayload message.payload) with
  | ok _ => exact reserveAndSubmit_effects ctx message now
  | error e =>
      cases e with
      | payload text =>
          exact (markSmsMessageInvalidPayload_effects now _).bind
            fun _ => markOutboxEventDeadLettered_effects _
      | other text => exact effectsIn_fail

lemma smsMessageFromOutboxEvent_stamps {outboxEvent : OutboxRow} {queuedAt : Int} {m : SmsMessage}
    (h : smsMessageFromOutboxEvent ctx outboxEvent queuedAt = .ok m) :
    m.stamps = queuedStamps queuedAt := by
  unfold smsMessageFromOutboxEvent at h
  simp only at h
  split at h
  · cases h
  split at h
  · cases h
  split at h
  · cases h
  split at h
  · cases h
  · obtain rfl := Except.ok.inj h
    rfl

lemma upsertMessage_effects {message : SmsMessage} {queuedAt : Int}
    (h : message.stamps = queuedStamps queuedAt) :
    (upsertMessage id message).EffectsIn SmsEffect := by
  refine effectsIn_attempt (.created id queuedAt fun env s j => ?_)
  simp only [effect]
  cases env.failure with
  | some e => exact .inl rfl
  | none =>
      cases hrow : s.rows[id]? with
      | none => exact .inl rfl
      | some row =>
          simp only
          rw [stampsAt_set hrow]
          by_cases hj : j = id
          · subst hj
            rw [if_pos rfl, stampsAt, hrow]
            cases hmessage : row.smsMessage with
            | none => exact .inr ⟨rfl, congrArg some h⟩
            | some m =>
                left
                simp [hmessage]
          · rw [if_neg hj]
            exact .inl rfl

lemma createSmsMessageFromOutboxEvent_effects (outboxEvent : OutboxRow) :
    (createSmsMessageFromOutboxEvent ctx id outboxEvent).EffectsIn SmsEffect := by
  apply effectsIn_clock.bind
  intro queuedAt
  cases hmessage : smsMessageFromOutboxEvent ctx outboxEvent queuedAt with
  | error e => exact effectsIn_fail
  | ok m => exact upsertMessage_effects (smsMessageFromOutboxEvent_stamps ctx hmessage)

lemma resolveSmsMessage_effects (outboxEvent : OutboxRow) :
    (resolveSmsMessage ctx id outboxEvent).EffectsIn SmsEffect := by
  unfold resolveSmsMessage
  cases outboxEvent.smsMessage with
  | some m => exact effectsIn_done
  | none =>
      apply EffectsIn.catching
      · exact (createSmsMessageFromOutboxEvent_effects ctx outboxEvent).bind fun _ => effectsIn_done
      · intro _
        exact (markOutboxEventDeadLettered_effects _).bind fun _ => effectsIn_done

lemma processFraudEvaluationEvent_effects :
    (processFraudEvaluationEvent ctx id).EffectsIn SmsEffect := by
  apply effectsIn_quiet
  intro env s j
  cases hrow : s.rows[id]? with
  | none => rfl
  | some row =>
      simp only
      split
      · rfl
      split
      · rfl
      · refine (stampsAt_set hrow).trans ?_
        by_cases hj : j = id
        · subst hj
          rw [if_pos rfl, stampsAt, hrow]
          rfl
        · rw [if_neg hj]

lemma processReportRefreshEvent_effects (outboxEvent : OutboxRow) :
    (processReportRefreshEvent ctx id outboxEvent).EffectsIn SmsEffect := by
  apply effectsIn_ite
  · intro _
    exact effectsIn_fail
  intro _
  apply effectsIn_ite
  · intro _
    exact effectsIn_fail
  · intro _
    exact (effectsIn_quiet fun _ _ _ => rfl).bind fun _ => markOutboxEventCompleted_effects

lemma handleEvent_effects (outboxEvent : OutboxRow) :
    (handleEvent ctx id outboxEvent).EffectsIn SmsEffect := by
  apply EffectsIn.bind
  · exact effectsIn_updateEvent fun _ _ => rfl
  intro _
  apply effectsIn_ite
  · intro _
    exact processFraudEvaluationEvent_effects ctx
  intro _
  apply effectsIn_ite
  · intro _
    exact processReportRefreshEvent_effects ctx outboxEvent
  intro _
  apply effectsIn_ite
  · intro _
    exact markOutboxEventDeadLettered_effects _
  · intro _
    apply (resolveSmsMessage_effects ctx outboxEvent).bind
    intro resolved
    cases resolved with
    | none => exact effectsIn_done
    | some m => exact handleSms_effects ctx m

lemma handleJob_effects : (handleJob ctx id).EffectsIn SmsEffect := by
  apply EffectsIn.bind
  · exact effectsIn_onRow fun _ _ => rfl
  intro found
  cases found with
  | none => exact effectsIn_done
  | some outboxEvent =>
      apply effectsIn_ite
      · intro _
        exact effectsIn_done
      · intro _
        exact handleEvent_effects ctx outboxEvent

lemma effectsIn_rowsMapped {f : OutboxRow → OutboxRow}
    (h : ∀ row, (f row).smsMessage = row.smsMessage) :
    (statement fun _ s =>
      ((.ok () : Except JobError Unit), { s with rows := s.rows.map f })).EffectsIn
      SmsEffect := by
  apply effectsIn_quiet
  intro env s j
  unfold stampsAt
  rw [List.getElem?_map]
  cases s.rows[j]? with
  | none => rfl
  | some row => simp [h]

lemma completeProcessed_effects (now : Int) : (completeProcessed now).EffectsIn SmsEffect := by
  apply effectsIn_rowsMapped
  intro row
  split <;> rfl

lemma completeSubmitted_effects (now : Int) : (completeSubmitted now).EffectsIn SmsEffect := by
  apply effectsIn_rowsMapped
  intro row
  split <;> rfl

/-- Rows of the table written back one after another, the messages apart. -/
lemma stampsAt_written {f : OutboxRow → OutboxRow} (h : ∀ row, (f row).smsMessage = row.smsMessage)
    (claimed : List (Nat × OutboxRow)) (hclaimed : ∀ r ∈ claimed,
      stampsAt s r.1 = r.2.smsMessage.map SmsMessage.stamps) {rows : Table OutboxRow}
    (hrows : ∀ j, stampsAt { s with rows } j = stampsAt s j) :
    stampsAt { s with rows := claimed.foldl (fun rows r => rows.set r.1 (f r.2)) rows } j =
      stampsAt s j := by
  induction claimed generalizing rows with
  | nil => exact hrows j
  | cons r rest ih =>
      apply ih fun q hq => hclaimed q (List.mem_cons_of_mem _ hq)
      intro k
      simp only
      cases hrow : rows[r.1]? with
      | none =>
          have hlen : rows.length ≤ r.1 := List.getElem?_eq_none_iff.1 hrow
          rw [List.set_eq_of_length_le hlen]
          exact hrows k
      | some row =>
          have hset : stampsAt { s with rows := rows.set r.1 (f r.2) } k =
              if k = r.1 then (f r.2).smsMessage.map SmsMessage.stamps
              else stampsAt { s with rows } k := stampsAt_set (s := { s with rows }) hrow
          refine hset.trans ?_
          by_cases hk : k = r.1
          · rw [if_pos hk, h, hk, hclaimed r List.mem_cons_self]
          · rw [if_neg hk]
            exact hrows k

lemma claimEvents_effects (now staleCutoff : Int) :
    (claimEvents ctx now staleCutoff).EffectsIn SmsEffect := by
  apply effectsIn_quiet
  intro env s j
  apply stampsAt_written (f := fun row => { row with
    status := .QUEUED, attempts := row.attempts + 1, nextAttemptAt := none, updatedAt := env.now })
  · exact fun _ => rfl
  · intro r hr
    have hfree := (List.perm_insertionSort createdFirst _).mem_iff.1 (List.mem_of_mem_take hr)
    have hrow := (Table.mem_select.1 (List.mem_of_mem_filter hfree)).1
    unfold stampsAt
    rw [hrow]
    rfl
  · exact fun _ => rfl

lemma publishClaimed_effects (now : Int) (r : Nat × OutboxRow) :
    (publishClaimed ctx now r).EffectsIn SmsEffect := by
  apply EffectsIn.catching
  · apply (effectsIn_quiet fun _ _ _ => rfl).bind
    intro _
    apply EffectsIn.bind
    · exact effectsIn_updateManyEvents fun _ _ => rfl
    · exact fun _ => effectsIn_done
  · intro _
    apply EffectsIn.bind
    · exact effectsIn_updateManyEvents fun _ _ => rfl
    · exact fun _ => effectsIn_done

lemma recoverAndPublishOnce_effects : (recoverAndPublishOnce ctx).EffectsIn SmsEffect := by
  apply effectsIn_clock.bind
  intro now
  apply (completeProcessed_effects now).bind
  intro _
  apply (completeSubmitted_effects now).bind
  intro _
  apply (claimEvents_effects ctx now _).bind
  intro outboxRows
  exact effectsIn_each fun r => publishClaimed_effects ctx now r

lemma recordReport_effects (stillClaimed : SmsMessage → Bool) (report : SmsDeliveryReport) :
    (recordReport id stillClaimed report).EffectsIn SmsEffect := by
  apply effectsIn_ite
  · intro _
    apply EffectsIn.bind
    · exact effectsIn_updateManyMessages (.delivered id stillClaimed report)
    · exact fun _ => effectsIn_done
  intro _
  apply effectsIn_ite
  · intro _
    apply EffectsIn.bind
    · exact effectsIn_updateManyMessages (.undelivered id stillClaimed report)
    · exact fun _ => effectsIn_done
  · intro _
    exact effectsIn_done

lemma pollMessage_effects (r : Nat × SmsMessage) : (pollMessage ctx r).EffectsIn SmsEffect := by
  unfold pollMessage
  cases r.2.providerMessageId with
  | none => exact effectsIn_done
  | some providerMessageId =>
      apply effectsIn_clock.bind
      intro readAt
      apply EffectsIn.bind
      · apply effectsIn_updateManyMessages
        apply smsEffect_kept
        intro env m
        split <;> rfl
      intro claimed
      apply effectsIn_ite
      · intro _
        exact effectsIn_done
      intro _
      apply (effectsIn_statement (.quiet fun _ _ _ => rfl)).bind
      intro report
      cases report with
      | none => exact effectsIn_done
      | some report =>
          apply effectsIn_ite
          · intro _
            exact effectsIn_done
          · intro _
            exact recordReport_effects _ report

lemma pollDeliveryReports_effects : (pollDeliveryReports ctx).EffectsIn SmsEffect := by
  apply effectsIn_ite
  · intro _
    exact effectsIn_done
  intro _
  apply effectsIn_clock.bind
  intro now
  apply (effectsIn_quiet fun _ _ _ => rfl).bind
  intro messages
  exact effectsIn_each fun r => pollMessage_effects ctx r

/-- **The workers**: each statement of a task does to the stamps what its class names. -/
theorem program_effects (task : Task) : (program ctx task).EffectsIn SmsEffect := by
  cases task with
  | insertOutboxEvent new =>
      refine effectsIn_attempt ((congrArg SmsEffect ?_).mpr (.inserted new))
      funext env s
      simp only [effect, insertEffect]
      cases env.failure with
      | some e => rfl
      | none => rfl
  | recoverAndPublishOnce => exact recoverAndPublishOnce_effects ctx
  | handleJob id => exact handleJob_effects ctx
  | pollDeliveryReports => exact pollDeliveryReports_effects ctx

end OutboxWorkerRuntime

end ShopcityLoyalty
