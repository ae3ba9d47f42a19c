import ShopcityLoyalty.Lib.Machines
import ShopcityLoyalty.SmsTemplates
import ShopcityLoyalty.System

/-!
The reminders of credit that expires soon: `ExpiryReminderService.enqueueDueReminders`, as a
machine that stands before one statement after another, beside the operations on the books.

The candidates are read outside of any transaction. A candidate's transaction reads its lots
`FOR UPDATE`: the statement's snapshot says which rows, and each of them is locked and read as it
then is. The three rows of a reminder are written by the end of the transaction, or none is.
-/

namespace ShopcityLoyalty

open Txn

structure EnqueueDueRemindersInput where
  now : Int
  reminderDays : Int
  batchSize : Int
  deriving DecidableEq

structure ReminderSweepResult where
  customers : Nat
  amountKobo : Int
  deriving DecidableEq

structure ReminderCandidate where
  tenantId : String
  customerId : String
  phoneE164 : String
  deriving DecidableEq

structure RevalidatedReminderCandidate where
  totalExpiringKobo : Int
  earliestExpiresAt : Int
  latestExpiresAt : Int
  deriving DecidableEq

/-- The CHECKs ask for an amount and for a window of expiries. -/
structure CreditExpiryReminder where
  tenantId : String
  customerId : String
  reminderDate : Int
  totalExpiringKobo : PositiveKobo
  earliestExpiresAt : Int
  latestExpiresAt : Int
  outboxEventId : Nat
  expiry_window : earliestExpiresAt ≤ latestExpiresAt

/-- The columns of the index `tenantId, customerId, reminderDate`. -/
def CreditExpiryReminder.key (r : CreditExpiryReminder) : String × String × Int :=
  (r.tenantId, r.customerId, r.reminderDate)

/-- A row of the message table, under its event. -/
structure EventMessage extends SmsMessage where
  tenantId : String
  outboxEventId : Nat

/-- The books with their outbox, the messages and the reminders. -/
structure ReminderTables where
  system : System
  messages : Table EventMessage
  reminders : Table CreditExpiryReminder

inductive ReminderFault
  | fault (f : Fault)
  /-- `P2002`. -/
  | unique

abbrev ReminderTx (α : Type) := Txn ReminderTables ReminderFault α

namespace ExpiryReminderService

/-! ### The day -/

def addDaysUtc (date days : Int) : Int := date + days * 24 * 60 * 60 * 1000

def startOfUtcDay (date : Int) : Int := Calendar.join (Calendar.split date).1 0

def reminderDate (input : EnqueueDueRemindersInput) : Int :=
  startOfUtcDay (addDaysUtc input.now input.reminderDays)

def reminderDateEnd (input : EnqueueDueRemindersInput) : Int := addDaysUtc (reminderDate input) 1

/-- What is left of a lot expires within the day. -/
def isDue (input : EnqueueDueRemindersInput) (lot : CreditLot) : Bool :=
  0 < lot.remainingAmountKobo && reminderDate input ≤ lot.expiresAt &&
    lot.expiresAt < reminderDateEnd input

/-! ### The candidates -/

/-- The candidate of a lot, where no reminder was written. -/
def candidateOf (input : EnqueueDueRemindersInput) (s : ReminderTables) (lot : CreditLot) :
    Option ReminderCandidate :=
  if isDue input lot ∧
      ¬ ∃ r ∈ s.reminders, r.key = (lot.tenantId, lot.customerId, reminderDate input) then
    ((s.system.db.registry.customers lot.customerId).filter
      fun c => c.tenantId = lot.tenantId).map fun c => ⟨lot.tenantId, lot.customerId, c.phoneE164⟩
  else none

/-- `ORDER BY "tenantId" ASC, "customerId" ASC`. -/
def candidateLe (a b : ReminderCandidate) : Prop :=
  a.tenantId < b.tenantId ∨ (a.tenantId = b.tenantId ∧ a.customerId ≤ b.customerId)

instance : DecidableRel candidateLe := fun _ _ => inferInstanceAs (Decidable (_ ∨ _))

/-- One candidate for the lots of a customer, and no more than the batch. -/
def candidates (input : EnqueueDueRemindersInput) (s : ReminderTables) : List ReminderCandidate :=
  (((s.system.db.lots.filterMap (candidateOf input s)).dedup).insertionSort candidateLe).take
    input.batchSize.toNat

/-! ### The transaction of a candidate -/

/-- The rows that `buildRevalidatedReminderCandidate` asks for. -/
def isDueOf (input : EnqueueDueRemindersInput) (candidate : ReminderCandidate) (lot : CreditLot) :
    Bool :=
  lot.tenantId = candidate.tenantId && lot.customerId = candidate.customerId && isDue input lot

/-- The rows the statement's snapshot has, in its order. -/
def dueLots (rt : Runtime) (input : EnqueueDueRemindersInput) (candidate : ReminderCandidate)
    (s : ReminderTables) : List Nat :=
  ((s.system.db.lots.select (isDueOf input candidate)).insertionSort
    (LotAllocationService.lotLe rt)).map (·.1)

/-- A locked row is returned as it is by then, if it still meets the condition. -/
def lockLot (input : EnqueueDueRemindersInput) (candidate : ReminderCandidate)
    (s : ReminderTables) (id : Nat) : List LockedCreditLot :=
  ((s.system.db.lots[id]?.filter (isDueOf input candidate)).map fun lot => (id, lot)).toList

/-- The total and the window of the locked lots. -/
def revalidate : List LockedCreditLot → Option RevalidatedReminderCandidate
  | [] => none
  | first :: rest =>
      let lots := first :: rest
      some
        { totalExpiringKobo := (lots.map (·.2.remainingAmountKobo)).sum
          earliestExpiresAt := lots.foldl
            (fun e lot => if lot.2.expiresAt < e then lot.2.expiresAt else e) first.2.expiresAt
          latestExpiresAt := lots.foldl
            (fun e lot => if e < lot.2.expiresAt then lot.2.expiresAt else e) first.2.expiresAt }

def insertOutboxEvent (e : OutboxEvent) : ReminderTx Nat := do
  let s ← get
  update fun s => { s with system.db.outbox := s.system.db.outbox ++ [e] }
  pure s.system.db.outbox.nextId

def insertSmsMessage (m : EventMessage) : ReminderTx Unit := do
  let s ← get
  rejectIf (∃ x ∈ s.messages, x.tenantId = m.tenantId ∧ x.outboxEventId = m.outboxEventId) .unique
  update fun s => { s with messages := s.messages ++ [m] }

def insertReminder (r : CreditExpiryReminder) : ReminderTx Unit := do
  let s ← get
  rejectIf (∃ x ∈ s.reminders, x.key = r.key) .unique
  rejectIf (∃ x ∈ s.reminders, x.outboxEventId = r.outboxEventId) .unique
  update fun s => { s with reminders := s.reminders ++ [r] }

/-- A reminder, if the CHECKs admit it. -/
def reminder? (input : EnqueueDueRemindersInput) (candidate : ReminderCandidate)
    (revalidated : RevalidatedReminderCandidate) (outboxEventId : Nat) :
    Option CreditExpiryReminder :=
  if h : 0 < revalidated.totalExpiringKobo ∧
      revalidated.earliestExpiresAt ≤ revalidated.latestExpiresAt then
    some
      { tenantId := candidate.tenantId
        customerId := candidate.customerId
        reminderDate := reminderDate input
        totalExpiringKobo := ⟨revalidated.totalExpiringKobo, h.1⟩
        earliestExpiresAt := revalidated.earliestExpiresAt
        latestExpiresAt := revalidated.latestExpiresAt
        outboxEventId
        expiry_window := h.2 }
  else none

def reminderPayload (candidate : ReminderCandidate) (revalidated : RevalidatedReminderCandidate) :
    SmsPayload :=
  SmsTemplates.buildCreditExpiryReminderSmsPayload
    { customerId := candidate.customerId
      phoneE164 := candidate.phoneE164
      totalExpiringKobo := revalidated.totalExpiringKobo
      earliestExpiresAt := revalidated.earliestExpiresAt
      latestExpiresAt := revalidated.latestExpiresAt }

def reminderEvent (candidate : ReminderCandidate) (payload : SmsPayload) : OutboxEvent where
  tenantId := candidate.tenantId
  aggregateType := "customer"
  aggregateId := candidate.customerId
  eventType := "sms.send"
  payload := .object payload

def reminderMessage (input : EnqueueDueRemindersInput) (candidate : ReminderCandidate)
    (payload : SmsPayload) (outboxEventId : Nat) : EventMessage where
  tenantId := candidate.tenantId
  outboxEventId := outboxEventId
  receiptId := none
  ledgerEntryId := none
  redemptionId := none
  adjustmentId := none
  cardId := none
  phoneE164 := candidate.phoneE164
  template := "credit-expiry-reminder-v1"
  payload := .object payload
  status := .QUEUED
  attempts := 0
  providerMessageId := none
  lastError := none
  queuedAt := input.now
  lastAttemptAt := none
  nextAttemptAt := none
  deadLetteredAt := none
  failureCategory := none
  sentAt := none
  nextDeliveryReportPollAt := none
  deliveredAt := none
  failedAt := none
  suppressedAt := none

/-- The three inserts. -/
def createReminder (input : EnqueueDueRemindersInput) (candidate : ReminderCandidate)
    (revalidated : RevalidatedReminderCandidate) : ReminderTx Unit := do
  let payload := reminderPayload candidate revalidated
  let outboxEventId ← insertOutboxEvent (reminderEvent candidate payload)
  insertSmsMessage (reminderMessage input candidate payload outboxEventId)
  let reminder ← orFault (reminder? input candidate revalidated outboxEventId)
    (.fault (.check "CreditExpiryReminder"))
  insertReminder reminder

/-! ### The machine -/

/-- Where a task stands: before the statement named, or at its end. -/
inductive Place
  | selecting
  | reading (candidate : ReminderCandidate) (rest : List ReminderCandidate)
      (result : ReminderSweepResult)
  | locking (candidate : ReminderCandidate) (rest : List ReminderCandidate) (ids : List Nat)
      (locked : List LockedCreditLot) (result : ReminderSweepResult)
  | swept (result : Except ReminderFault ReminderSweepResult)
  | committing
  | committed

open Place

/-- The next candidate, if there is one. -/
def proceed (result : ReminderSweepResult) : List ReminderCandidate → Place
  | [] => swept (.ok result)
  | candidate :: rest => reading candidate rest result

def start (input : EnqueueDueRemindersInput) : Place :=
  if input.reminderDays ≤ 0 then
    swept (.error (.fault (badRequest "reminderDays must be a positive integer")))
  else if input.batchSize ≤ 0 then
    swept (.error (.fault (badRequest "batchSize must be a positive integer")))
  else selecting

/-- The statement of a place, and the place after it. -/
def next (rt : Runtime) (input : EnqueueDueRemindersInput) :
    Place → ReminderTables → Option (Place × ReminderTables)
  | selecting, s => some (proceed ⟨0, 0⟩ (candidates input s), s)
  | reading candidate rest result, s =>
      some (locking candidate rest (dueLots rt input candidate s) [] result, s)
  | locking candidate rest (id :: ids) locked result, s =>
      some (locking candidate rest ids (locked ++ lockLot input candidate s id) result, s)
  | locking candidate rest [] locked result, s =>
      -- the rest of the transaction
      match revalidate locked with
      | none => some (proceed result rest, s)
      | some revalidated =>
          match createReminder input candidate revalidated s with
          | .ok (_, t) =>
              some (proceed ⟨result.customers + 1,
                result.amountKobo + revalidated.totalExpiringKobo⟩ rest, t)
          | .error .unique => some (proceed result rest, s)
          | .error fault => some (swept (.error fault), s)
  | _, _ => none

/-- The lots that a place's transaction has locked. -/
def Place.locked : Place → List LockedCreditLot
  | locking _ _ _ locked _ => locked
  | _ => []

end ExpiryReminderService

/-- A run of the reminders, or an operation on the books. -/
inductive ReminderTask
  | enqueueDueReminders (input : EnqueueDueRemindersInput)
  | operation (op : Op)

namespace ExpiryReminderService

open Place

/-- An operation commits at once, or fails and changes nothing. -/
def commitOperation (rt : Runtime) (op : Op) :
    Place → ReminderTables → Option (Place × ReminderTables)
  | committing, s =>
      match s.system.run rt op with
      | .ok system => some (committed, { s with system })
      | .error _ => some (committed, s)
  | _, _ => none

def tasks (rt : Runtime) : Machine ReminderTask Unit ReminderTables Place where
  start
    | .enqueueDueReminders input => start input
    | .operation _ => committing
  next task _ place s :=
    match task with
    | .enqueueDueReminders input => next rt input place s
    | .operation op => commitOperation rt op place s

end ExpiryReminderService

/-- Runs of the reminders and operations in flight. -/
abbrev ReminderTasks := Crew ReminderTask ReminderTables ExpiryReminderService.Place

end ShopcityLoyalty
