import ShopcityLoyalty.FraudEvaluation
import ShopcityLoyalty.Lib.Process

/-!
The outbox worker: the recovery cycle that claims outbox events and publishes them to the
queue, the jobs that handle them, and the delivery report poll.

Workers share the database; each database statement or transaction, each call of the SMS
provider and each clock reading is one statement of a process. The queue itself decides
when jobs run and how often, so that a job may start for any event at any time.
-/

namespace ShopcityLoyalty

inductive OutboxEventStatus | PENDING | QUEUED | PUBLISHED | COMPLETED | FAILED
  deriving DecidableEq

structure SmsMessage where
  receiptId : Option String
  ledgerEntryId : Option String
  redemptionId : Option String
  adjustmentId : Option String
  cardId : Option String
  phoneE164 : String
  template : String
  payload : Json
  status : SmsMessageStatus
  attempts : Nat
  providerMessageId : Option String
  lastError : Option String
  queuedAt : Int
  lastAttemptAt : Option Int
  nextAttemptAt : Option Int
  deadLetteredAt : Option Int
  failureCategory : Option String
  sentAt : Option Int
  nextDeliveryReportPollAt : Option Int
  deliveredAt : Option Int
  failedAt : Option Int
  suppressedAt : Option Int

/-- An outbox event with the columns its worker keeps, and the message that was created for
it, if any. -/
structure OutboxRow extends OutboxEvent where
  status : OutboxEventStatus
  attempts : Nat
  nextAttemptAt : Option Int
  publishedAt : Option Int
  processedAt : Option Int
  deadLetteredAt : Option Int
  failureCategory : Option String
  createdAt : Int
  updatedAt : Int
  smsMessage : Option SmsMessage

/-- The tables the worker writes, and the events whose messages were handed to
`smsProvider.send`, in order. -/
structure OutboxState where
  rows : Table OutboxRow
  submissions : List Nat
  fraudFlags : Table FraudFlag

structure SmsSendResult where
  status : SmsMessageStatus
  providerMessageId : Option String
  errorMessage : Option String
  /-- `terminal`, not `retryable`. -/
  terminal : Bool

structure SmsDeliveryReport where
  status : SmsMessageStatus
  providerMessageId : String
  occurredAt : Option Int

inductive JobError
  | payload (message : String)
  | other (message : String)

def JobError.message : JobError → String
  | payload m => m
  | other m => m

/-- What the surroundings supply to a statement. -/
structure Surroundings where
  now : Int
  /-- The error the statement throws instead of running. -/
  failure : Option JobError
  /-- The rows other transactions have locked. -/
  locked : List Nat
  /-- What the provider answers, or nothing where the call throws. -/
  answer : Except JobError SmsSendResult
  report : Option SmsDeliveryReport
  /-- What the application's tables answer to the fraud rules. -/
  reads : FraudReads

structure WorkerConfig where
  publishBatchSize : Nat
  deliveryReportPollIntervalMs : Int
  deliveryReportPollBatchSize : Nat
  retryDelayMs : Int
  recoveryThresholdMs : Int

structure SmsProvider where
  requiresLocalSubmissionReservation : Bool
  submissionReservationWindowMs : Option Int
  /-- The provider has `getDeliveryReport`. -/
  reportsDelivery : Bool

/-- What a worker runs with. -/
structure WorkerContext where
  config : WorkerConfig
  smsProvider : SmsProvider
  fraud : FraudRuntime
  /-- Fails with the error it throws. -/
  validateSmsIntent : String → List (String × Json) → Except JobError Unit
  reportMaterializer : Bool

abbrev Job (α : Type) := Process Surroundings OutboxState JobError α

namespace OutboxWorkerRuntime

def OUTBOX_RETRY_ATTEMPTS : Nat := 5

/-! ### Statements -/

/-- A statement that runs unless its surroundings make it throw. -/
def statement {α : Type} (f : Surroundings → OutboxState → Except JobError α × OutboxState) :
    Job α :=
  Process.attempt fun env s =>
    match env.failure with
    | some e => (.error e, s)
    | none => f env s

/-- `new Date()`. -/
def clock : Job Int := Process.statement fun env s => (env.now, s)

/-- A statement on the row of one event: its result and the row it leaves, or the result
where there is no such row. -/
def onRow {α : Type} (id : Nat) (missing : Except JobError α)
    (f : Surroundings → OutboxRow → Except JobError α × OutboxRow) : Job α :=
  statement fun env s =>
    match s.rows[id]? with
    | some row => ((f env row).1, { s with rows := s.rows.set id (f env row).2 })
    | none => (missing, s)

/-- A statement on the message of one event. -/
def onMessage {α : Type} (id : Nat) (missing : Except JobError α)
    (f : Surroundings → SmsMessage → Except JobError α × SmsMessage) : Job α :=
  onRow id missing fun env row =>
    match row.smsMessage with
    | some message => ((f env message).1, { row with smsMessage := some (f env message).2 })
    | none => (missing, row)

def findEvent (id : Nat) : Job (Option OutboxRow) :=
  onRow id (.ok none) fun _ row => (.ok (some row), row)

def recordNotFound : JobError := .other "No record was found for an update."

/-- `outboxEvent.updateMany` on one event, under a condition; whether it changed the row. -/
def updateManyEvents (id : Nat) (condition : OutboxRow → Bool)
    (data : Int → OutboxRow → OutboxRow) : Job Bool :=
  onRow id (.ok false) fun env row =>
    if condition row then (.ok true, { data env.now row with updatedAt := env.now })
    else (.ok false, row)

/-- `outboxEvent.update`. -/
def updateEvent (id : Nat) (data : Int → OutboxRow → OutboxRow) : Job Unit :=
  onRow id (.error recordNotFound) fun env row =>
    (.ok (), { data env.now row with updatedAt := env.now })

/-- `smsMessage.updateMany` on the message of one event. -/
def updateManyMessages (id : Nat) (condition : SmsMessage → Bool)
    (data : Int → SmsMessage → SmsMessage) : Job Bool :=
  onMessage id (.ok false) fun env message =>
    if condition message then (.ok true, data env.now message) else (.ok false, message)

/-- `smsMessage.update`. -/
def updateMessage (id : Nat) (data : SmsMessage → SmsMessage) : Job Unit :=
  onMessage id (.error recordNotFound) fun _ message => (.ok (), data message)

/-- The call of `smsProvider.send` and, later, its answer. -/
def send (id : Nat) : Job SmsSendResult := do
  Process.statement fun _ s => ((), { s with submissions := s.submissions ++ [id] })
  Process.attempt fun env s => (env.answer, s)

/-! ### Updates of events and messages -/

def markOutboxEventCompleted (id : Nat) : Job Unit :=
  updateEvent id fun now row =>
    { row with status := .COMPLETED, processedAt := some now, nextAttemptAt := none }

def markOutboxEventDeadLettered (id : Nat) (failureCategory : String) : Job Unit :=
  updateEvent id fun now row =>
    { row with
      status := .FAILED
      nextAttemptAt := none
      deadLetteredAt := some now
      failureCategory := some failureCategory }

def markOutboxEventFailure (id : Nat) (failureCategory : String) (nextAttemptAt : Option Int) :
    Job Unit :=
  updateEvent id fun now row =>
    { row with
      status := .FAILED
      nextAttemptAt
      failureCategory := some failureCategory
      deadLetteredAt := if nextAttemptAt.isNone then some now else none }

def markSmsMessageInvalidPayload (id : Nat) (now : Int) (error : JobError) : Job Unit :=
  updateMessage id fun message =>
    { message with
      status := .FAILED
      attempts := message.attempts + 1
      failedAt := some now
      lastAttemptAt := some now
      nextAttemptAt := none
      deadLetteredAt := some now
      failureCategory := some "invalid-payload"
      lastError := some error.message }

def submissionOutcomeUnknown : String :=
  "Twilio submission outcome is unknown; verify provider history before manual replay"

def markSmsSubmissionOutcomeUnknown (id : Nat) (now : Int) : Job Unit := do
  updateMessage id fun message =>
    { message with
      status := .FAILED
      attempts := message.attempts + 1
      failedAt := some now
      lastAttemptAt := some now
      nextAttemptAt := none
      deadLetteredAt := some now
      failureCategory := some "dead-lettered"
      lastError := some submissionOutcomeUnknown }
  markOutboxEventDeadLettered id "provider-outcome-unknown"

def mapSmsDispatchResult (result : SmsSendResult) (now : Int) (message : SmsMessage) : SmsMessage :=
  match result.status with
  | .DELIVERED =>
      { message with
        status := .DELIVERED
        attempts := message.attempts + 1
        providerMessageId := result.providerMessageId
        sentAt := some now
        deliveredAt := some now
        suppressedAt := none
        lastError := none
        lastAttemptAt := some now
        nextAttemptAt := none
        deadLetteredAt := none
        failureCategory := none }
  | .SENT =>
      { message with
        status := .SENT
        attempts := message.attempts + 1
        providerMessageId := result.providerMessageId
        sentAt := some now
        suppressedAt := none
        lastError := none
        lastAttemptAt := some now
        nextAttemptAt := none
        deadLetteredAt := none
        failureCategory := none }
  | .SUPPRESSED =>
      { message with
        status := .SUPPRESSED
        attempts := message.attempts + 1
        providerMessageId := result.providerMessageId
        suppressedAt := some now
        lastError := result.errorMessage
        lastAttemptAt := some now
        nextAttemptAt := none
        deadLetteredAt := none
        failureCategory := none }
  | _ =>
      { message with
        status := .FAILED
        attempts := message.attempts + 1
        providerMessageId := result.providerMessageId
        failedAt := some now
        lastError := some (result.errorMessage.getD "SMS delivery failed")
        lastAttemptAt := some now
        nextAttemptAt := none }

/-! ### Payloads -/

def normalizeJsonPayload : Json → List (String × Json)
  | .object fields => fields
  | value => [("value", value)]

def readStringField (payload : List (String × Json)) (key : String) : String :=
  match payload.lookup key with
  | some (.string s) => s
  | _ => ""

def readNumberField (payload : List (String × Json)) (key : String) : Int :=
  match payload.lookup key with
  | some (.number n) => n
  | _ => 0

def nonEmpty (s : String) : Option String := if s = "" then none else some s

/-- The message `createSmsMessageFromOutboxEvent` builds, or the error it throws. -/
def smsMessageFromOutboxEvent (ctx : WorkerContext) (outboxEvent : OutboxRow) (queuedAt : Int) :
    Except JobError SmsMessage :=
  let payload := normalizeJsonPayload outboxEvent.payload
  let receiptId := nonEmpty (trim (readStringField payload "receiptId"))
  let transactionId := trim (readStringField payload "transactionId")
  let cardId := nonEmpty (trim (readStringField payload "replacementCardId"))
  let customerId := nonEmpty (trim (readStringField payload "customerId"))
  let redemptionId := nonEmpty (trim (readStringField payload "redemptionId"))
  let adjustmentId := nonEmpty (trim (readStringField payload "adjustmentId"))
  let phoneE164 := trim (readStringField payload "phoneE164")
  let template := trim (readStringField payload "template")
  let requiresTransaction :=
    template ≠ "credit-expiry-reminder-v1" ∧ template ≠ "card-replaced"
  if outboxEvent.eventType ≠ "sms.send" then
    .error (.other s!"Unsupported outbox event type {outboxEvent.eventType}")
  else if readNumberField payload "version" ≠ 1 then
    .error (.other "Unsupported SMS payload version")
  else if (transactionId = "" ∧ requiresTransaction) ∨
      (template = "credit-expiry-reminder-v1" ∧ customerId.isNone) ∨
      (template = "card-replaced" ∧ cardId.isNone) ∨ phoneE164 = "" ∨ template = "" then
    .error (.other "SmsMessage payload missing required fields")
  else
    match ctx.validateSmsIntent template payload with
    | .error e => .error e
    | .ok () =>
        .ok
          { receiptId
            ledgerEntryId := nonEmpty transactionId
            redemptionId
            adjustmentId
            cardId
            phoneE164
            template
            payload := .object payload
            status := .QUEUED
            attempts := 0
            providerMessageId := none
            lastError := none
            queuedAt
            lastAttemptAt := none
            nextAttemptAt := none
            deadLetteredAt := none
            failureCategory := none
            sentAt := none
            nextDeliveryReportPollAt := none
            deliveredAt := none
            failedAt := none
            suppressedAt := none }

/-- `smsMessage.upsert` with an empty update: the message there is, or the new one. -/
def upsertMessage (id : Nat) (message : SmsMessage) : Job SmsMessage :=
  onRow id (.error recordNotFound) fun _ row =>
    match row.smsMessage with
    | some present => (.ok present, row)
    | none => (.ok message, { row with smsMessage := some message })

def createSmsMessageFromOutboxEvent (ctx : WorkerContext) (id : Nat) (outboxEvent : OutboxRow) :
    Job SmsMessage := do
  let queuedAt ← clock
  match smsMessageFromOutboxEvent ctx outboxEvent queuedAt with
  | .error e => .fail e
  | .ok message => upsertMessage id message

/-! ### Jobs -/

/-- The findings are recorded and the event is completed in one transaction; where the
evaluation throws, nothing is changed. -/
def processFraudEvaluationEvent (ctx : WorkerContext) (id : Nat) : Job Unit :=
  statement fun env s =>
    match s.rows[id]? with
    | none => (.ok (), s)
    | some latest =>
        if latest.processedAt.isSome ∨ latest.status = .COMPLETED then (.ok (), s)
        else
          match evaluateFraudForOutboxEvent ctx.fraud env.reads env.now latest.toOutboxEvent
              (normalizeJsonPayload latest.payload) with
          | .error text => (.error (.other text), s)
          | .ok findings =>
              (.ok (),
                { s with
                  rows := s.rows.set id
                    { latest with
                      status := .COMPLETED
                      processedAt := some env.now
                      nextAttemptAt := none
                      updatedAt := env.now }
                  fraudFlags :=
                    recordFraudFindings latest.tenantId findings env.now s.fraudFlags })

/-- The report tables are rebuilt by a call that may fail. -/
def materializeReport : Job Unit := statement fun _ s => (.ok (), s)

def processReportRefreshEvent (ctx : WorkerContext) (id : Nat) (outboxEvent : OutboxRow) :
    Job Unit :=
  if ¬ ctx.reportMaterializer then .fail (.other "Report materializer is not configured")
  else if readStringField (normalizeJsonPayload outboxEvent.payload) "report" = "" then
    .fail (.other "Invalid report refresh payload")
  else do
    materializeReport
    markOutboxEventCompleted id

def submissionInProgress : String := "provider-submission-in-progress"

/-- What a failed submission leaves on the message. -/
def failedSubmission (now : Int) (nextAttemptAt deadLetteredAt : Option Int)
    (failureCategory lastError : String) (message : SmsMessage) : SmsMessage :=
  { message with
    status := .FAILED
    attempts := message.attempts + 1
    failedAt := some now
    lastAttemptAt := some now
    nextAttemptAt
    deadLetteredAt
    failureCategory := some failureCategory
    lastError := some lastError }

/-- A submission failed: the message and the event are retried later or dead-lettered. -/
def recordFailedSubmission (ctx : WorkerContext) (id : Nat) (now : Int) (dead : Bool)
    (lastError : String) : Job Unit := do
  let nextAttemptAt := if dead then none else some (now + ctx.config.retryDelayMs)
  let category := if dead then "dead-lettered" else "retryable-failure"
  updateMessage id
    (failedSubmission now nextAttemptAt (if dead then some now else none) category lastError)
  markOutboxEventFailure id category nextAttemptAt

/-- The body of the `try` around the submission. -/
def submitSms (ctx : WorkerContext) (id : Nat) (message : SmsMessage) (now : Int) : Job Unit := do
  let result ← send id
  if result.status = .FAILED then
    recordFailedSubmission ctx id now
      (result.terminal ∨ message.attempts + 1 ≥ OUTBOX_RETRY_ATTEMPTS)
      (result.errorMessage.getD "SMS delivery failed")
  else
    updateMessage id (mapSmsDispatchResult result now)

/-- Its handler. -/
def submissionThrew (ctx : WorkerContext) (id : Nat) (message : SmsMessage) (now : Int)
    (reservationClaimed : Bool) (error : JobError) : Job Unit :=
  if reservationClaimed then markSmsSubmissionOutcomeUnknown id now
  else do
    recordFailedSubmission ctx id now (message.attempts + 1 ≥ OUTBOX_RETRY_ATTEMPTS) error.message
    .fail error

/-- The reservation of the submission: whether the message is still as it was read. -/
def claimSubmission (id : Nat) (message : SmsMessage) (now : Int) : Job Bool :=
  updateManyMessages id
    (fun current => current.status = message.status ∧ current.attempts = message.attempts ∧
      current.deadLetteredAt.isNone ∧ current.failureCategory = message.failureCategory)
    fun _ current =>
      { current with failureCategory := some submissionInProgress, lastAttemptAt := some now }

def reserveAndSubmit (ctx : WorkerContext) (id : Nat) (message : SmsMessage) (now : Int) :
    Job Unit :=
  if ctx.smsProvider.requiresLocalSubmissionReservation then do
    let claimed ← claimSubmission id message now
    if claimed then
      (submitSms ctx id message now).catching (submissionThrew ctx id message now true)
    else .done ()
  else (submitSms ctx id message now).catching (submissionThrew ctx id message now false)

/-- A reservation found on the message is left alone while it is fresh. -/
def expireReservation (ctx : WorkerContext) (id : Nat) (message : SmsMessage) : Job Unit := do
  let readAt ← clock
  let window := max ctx.config.recoveryThresholdMs
    (ctx.smsProvider.submissionReservationWindowMs.getD 0)
  if message.lastAttemptAt.any fun at_ => readAt - at_ < window then .done ()
  else do
    let now ← clock
    markSmsSubmissionOutcomeUnknown id now

/-- The part of `handleJob` that has the message. -/
def handleSms (ctx : WorkerContext) (id : Nat) (message : SmsMessage) : Job Unit :=
  if message.status = .SENT ∨ message.status = .DELIVERED ∨ message.status = .SUPPRESSED then
    markOutboxEventCompleted id
  else if ctx.smsProvider.requiresLocalSubmissionReservation ∧
      message.failureCategory = some submissionInProgress then
    expireReservation ctx id message
  else if message.deadLetteredAt.isSome ∨ message.attempts ≥ OUTBOX_RETRY_ATTEMPTS then
    markOutboxEventDeadLettered id "dead-lettered"
  else do
    let now ← clock
    match ctx.validateSmsIntent message.template (normalizeJsonPayload message.payload) with
    | .error (.payload text) => do
        markSmsMessageInvalidPayload id now (.payload text)
        markOutboxEventDeadLettered id "invalid-payload"
    | .error error => .fail error
    | .ok () => reserveAndSubmit ctx id message now

/-- The message of the event; where there is none and none can be made, the event is
dead-lettered. -/
def resolveSmsMessage (ctx : WorkerContext) (id : Nat) (outboxEvent : OutboxRow) :
    Job (Option SmsMessage) :=
  match outboxEvent.smsMessage with
  | some message => .done (some message)
  | none =>
      Process.catching (some <$> createSmsMessageFromOutboxEvent ctx id outboxEvent) fun _ => do
        markOutboxEventDeadLettered id "invalid-payload"
        .done none

/-- The part of `handleJob` after the event was found open. -/
def handleEvent (ctx : WorkerContext) (id : Nat) (outboxEvent : OutboxRow) : Job Unit := do
  updateEvent id fun now row =>
    { row with status := .PUBLISHED, publishedAt := some (outboxEvent.publishedAt.getD now) }
  if outboxEvent.eventType = "fraud.evaluate" then processFraudEvaluationEvent ctx id
  else if outboxEvent.eventType = "report.refresh" then
    processReportRefreshEvent ctx id outboxEvent
  else if outboxEvent.eventType ≠ "sms.send" then
    markOutboxEventDeadLettered id "unsupported-event"
  else do
    let resolved ← resolveSmsMessage ctx id outboxEvent
    match resolved with
    | some message => handleSms ctx id message
    | none => .done ()

def handleJob (ctx : WorkerContext) (id : Nat) : Job Unit := do
  let found ← findEvent id
  match found with
  | none => .done ()
  | some outboxEvent =>
      if outboxEvent.deadLetteredAt.isSome ∨ outboxEvent.processedAt.isSome then .done ()
      else handleEvent ctx id outboxEvent

/-! ### The recovery cycle -/

/-- Events that were processed but not completed. -/
def completeProcessed (now : Int) : Job Unit :=
  statement fun _ s =>
    (.ok (), { s with rows := s.rows.map fun row =>
      if row.processedAt.isSome ∧ row.status ≠ .COMPLETED ∧ row.deadLetteredAt.isNone then
        { row with
          status := .COMPLETED
          processedAt := some (row.processedAt.getD now)
          nextAttemptAt := none }
      else row })

/-- Events whose messages need no submission any more. -/
def completeSubmitted (now : Int) : Job Unit :=
  statement fun _ s =>
    (.ok (), { s with rows := s.rows.map fun row =>
      if row.eventType = "sms.send" ∧ row.status = .PUBLISHED ∧ row.processedAt.isNone ∧
          row.deadLetteredAt.isNone ∧
          row.smsMessage.any (fun message =>
            (message.status = .SENT ∨ message.status = .DELIVERED ∨ message.status = .SUPPRESSED) ∧
              message.deadLetteredAt.isNone) then
        { row with status := .COMPLETED, processedAt := some now, nextAttemptAt := none }
      else row })

/-- An event a recovery cycle may claim. -/
def Claimable (now staleCutoff : Int) (row : OutboxRow) : Prop :=
  row.eventType ∈ ["sms.send", "fraud.evaluate", "report.refresh"] ∧
  row.deadLetteredAt.isNone ∧ row.processedAt.isNone ∧
  (((row.status = .PENDING ∨ row.status = .FAILED) ∧ row.nextAttemptAt.all (· ≤ now)) ∨
    (row.status = .QUEUED ∧ row.updatedAt ≤ staleCutoff) ∨
    (row.status = .PUBLISHED ∧ row.publishedAt.any (· ≤ staleCutoff) ∧
      ((row.eventType = "sms.send" ∧ row.smsMessage.any (fun message =>
          (message.status = .QUEUED ∨ message.status = .FAILED) ∧
            message.deadLetteredAt.isNone)) ∨
        row.eventType = "fraud.evaluate" ∨ row.eventType = "report.refresh" ∨
        (row.eventType = "sms.send" ∧ row.smsMessage.isNone))))

instance (now staleCutoff : Int) : DecidablePred (Claimable now staleCutoff) :=
  fun row => by unfold Claimable; infer_instance

def createdFirst (a b : Nat × OutboxRow) : Prop := a.2.createdAt ≤ b.2.createdAt

instance : DecidableRel createdFirst :=
  fun a b => inferInstanceAs (Decidable (a.2.createdAt ≤ b.2.createdAt))

/-- The transaction that claims events; the events it claimed, oldest first. -/
def claimEvents (ctx : WorkerContext) (now staleCutoff : Int) : Job (List (Nat × OutboxRow)) :=
  statement fun env s =>
    let free := (s.rows.select fun row => Claimable now staleCutoff row).filter
      fun r => r.1 ∉ env.locked
    let claimed := (free.insertionSort createdFirst).take ctx.config.publishBatchSize
    let queue := fun row : OutboxRow =>
      { row with
        status := .QUEUED, attempts := row.attempts + 1, nextAttemptAt := none
        updatedAt := env.now }
    (.ok (claimed.map fun r => (r.1, queue r.2)),
      { s with rows := claimed.foldl (fun rows r => rows.set r.1 (queue r.2)) s.rows })

/-- The call to the queue, which may fail. -/
def publishOutboxEvent : Job Unit := statement fun _ s => (.ok (), s)

/-- An event that is still as it was claimed. -/
def stillQueued (row : OutboxRow) : Bool :=
  row.status = .QUEUED ∧ row.processedAt.isNone ∧ row.deadLetteredAt.isNone

def publishClaimed (ctx : WorkerContext) (now : Int) (r : Nat × OutboxRow) : Job Unit :=
  Process.catching
    (do
      publishOutboxEvent
      let _ ← updateManyEvents r.1 stillQueued fun _ row =>
        { row with status := .PUBLISHED, publishedAt := some now, nextAttemptAt := none }
      .done ())
    fun _ => do
      let _ ← updateManyEvents r.1 stillQueued fun _ row =>
        { row with status := .FAILED, nextAttemptAt := some (now + ctx.config.retryDelayMs) }
      .done ()

def recoverAndPublishOnce (ctx : WorkerContext) : Job Unit := do
  let now ← clock
  completeProcessed now
  completeSubmitted now
  let outboxRows ← claimEvents ctx now (now - ctx.config.recoveryThresholdMs)
  Process.each (publishClaimed ctx now) outboxRows

/-! ### The delivery report poll -/

/-- A message whose delivery is not known yet. -/
def awaitsReport (message : SmsMessage) : Bool :=
  message.status = .SENT ∧ message.deliveredAt.isNone ∧ message.failedAt.isNone ∧
    message.deadLetteredAt.isNone

/-- Nulls first. -/
def dueBefore : Option Int → Option Int → Prop
  | none, _ => True
  | some _, none => False
  | some a, some b => a ≤ b

instance : DecidableRel dueBefore
  | none, _ => .isTrue trivial
  | some _, none => .isFalse id
  | some a, some b => inferInstanceAs (Decidable (a ≤ b))

/-- By the next poll, then by the time of sending. -/
def polledBefore (a b : Nat × SmsMessage) : Prop :=
  if a.2.nextDeliveryReportPollAt = b.2.nextDeliveryReportPollAt then
    a.2.sentAt.getD 0 ≤ b.2.sentAt.getD 0
  else dueBefore a.2.nextDeliveryReportPollAt b.2.nextDeliveryReportPollAt

instance : DecidableRel polledBefore := fun a b => by unfold polledBefore; infer_instance

def dueMessages (ctx : WorkerContext) (now : Int) : Job (List (Nat × SmsMessage)) :=
  statement fun _ s =>
    let due := s.rows.zipIdx.filterMap fun (row, id) =>
      row.smsMessage.bind fun message =>
        if message.providerMessageId.isSome ∧ awaitsReport message ∧
            message.nextDeliveryReportPollAt.all (· ≤ now) then some (id, message)
        else none
    (.ok ((due.insertionSort polledBefore).take ctx.config.deliveryReportPollBatchSize), s)

/-- The provider's report; an error counts as no report. -/
def getDeliveryReport : Job (Option SmsDeliveryReport) :=
  Process.statement fun env s => (env.report, s)

/-- The message that a poll asks about. -/
def eligible (providerMessageId : String) (message : SmsMessage) : Bool :=
  message.providerMessageId = some providerMessageId ∧ awaitsReport message

/-- What the report says is recorded on a message that is still claimed by the poll. -/
def recordReport (id : Nat) (stillClaimed : SmsMessage → Bool) (report : SmsDeliveryReport) :
    Job Unit :=
  if report.status = .DELIVERED then do
    let _ ← updateManyMessages id stillClaimed fun now message =>
      { message with
        status := .DELIVERED
        deliveredAt := some (report.occurredAt.getD now)
        nextDeliveryReportPollAt := none }
    .done ()
  else if report.status = .FAILED then do
    let _ ← updateManyMessages id stillClaimed fun now message =>
      { message with
        status := .FAILED
        failedAt := some (report.occurredAt.getD now)
        failureCategory := some "terminal"
        lastError := some "Provider delivery report marked message failed"
        nextDeliveryReportPollAt := none }
    .done ()
  else .done ()

def pollMessage (ctx : WorkerContext) (r : Nat × SmsMessage) : Job Unit :=
  match r.2.providerMessageId with
  | none => .done ()
  | some providerMessageId => do
      let readAt ← clock
      let nextPollAt := readAt + ctx.config.deliveryReportPollIntervalMs
      let claimed ← updateManyMessages r.1
        (fun message => eligible providerMessageId message ∧
          message.nextDeliveryReportPollAt = r.2.nextDeliveryReportPollAt)
        fun _ message => { message with nextDeliveryReportPollAt := some nextPollAt }
      if ¬ claimed then .done ()
      else do
        let report ← getDeliveryReport
        match report with
        | none => .done ()
        | some report =>
            if report.providerMessageId ≠ providerMessageId then .done ()
            else
              recordReport r.1
                (fun message => eligible providerMessageId message ∧
                  message.nextDeliveryReportPollAt = some nextPollAt) report

def pollDeliveryReports (ctx : WorkerContext) : Job Unit :=
  if ¬ ctx.smsProvider.reportsDelivery then .done ()
  else do
    let now ← clock
    let messages ← dueMessages ctx now
    Process.each (pollMessage ctx) messages

/-! ### The workers -/

/-- An event as a transaction of the application inserts it, with its message, if any. -/
structure NewOutboxEvent where
  event : OutboxEvent
  nextAttemptAt : Option Int
  message : Option SmsMessage
  /-- A new message waits for its submission. -/
  queued : ∀ m, message = some m → m.status = .QUEUED

def NewOutboxEvent.row (new : NewOutboxEvent) (now : Int) : OutboxRow :=
  { new.event with
    status := .PENDING
    attempts := 0
    nextAttemptAt := new.nextAttemptAt
    publishedAt := none
    processedAt := none
    deadLetteredAt := none
    failureCategory := none
    createdAt := now
    updatedAt := now
    smsMessage := new.message }

def insertOutboxEvent (new : NewOutboxEvent) : Job Unit :=
  statement fun env s => (.ok (), { s with rows := s.rows ++ [new.row env.now] })

inductive Task
  | insertOutboxEvent (new : NewOutboxEvent)
  | recoverAndPublishOnce
  | handleJob (id : Nat)
  | pollDeliveryReports

def program (ctx : WorkerContext) : Task → Job Unit
  | .insertOutboxEvent new => insertOutboxEvent new
  | .recoverAndPublishOnce => recoverAndPublishOnce ctx
  | .handleJob id => handleJob ctx id
  | .pollDeliveryReports => pollDeliveryReports ctx

abbrev Workers := Pool Task Surroundings OutboxState JobError Unit

abbrev Run (ctx : WorkerContext) : Workers → Workers → Prop := Pool.Steps (program ctx)

def noEvents : OutboxState := ⟨[], [], []⟩

end OutboxWorkerRuntime

end ShopcityLoyalty
