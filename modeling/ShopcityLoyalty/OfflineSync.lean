import ShopcityLoyalty.EarnRequests
import ShopcityLoyalty.OfflineQueue

/-!
The server's side of the offline queue: `OfflineSyncService.earnBatch`.

Each record of a batch has an attempt row, named by tenant, device and the record's local id.
A record without a row gets one, is validated and earned, and its result is stored in the row;
a record with a row is answered from it.
-/

namespace ShopcityLoyalty

open Process

/-- An `Int` column of the database. -/
abbrev Int4 := {n : Int // -2147483648 ≤ n ∧ n ≤ 2147483647}

/-- The database refuses an integer out of range. -/
def Int4.of (column : String) (n : Int) : Except Fault Int4 :=
  if h : -2147483648 ≤ n ∧ n ≤ 2147483647 then .ok ⟨n, h⟩ else .error (.check column)

structure OfflineAttemptKey where
  tenantId : String
  deviceId : String
  localId : String
  deriving DecidableEq

structure OfflineSyncAttempt where
  idempotencyKey : String
  requestHash : Digest
  cashierId : String
  branchId : String
  posReceiptNumber : String
  receiptWeekStartSubmitted : Int
  purchaseAmountKobo : Int4
  occurredAt : Int
  status : OfflineSyncRecordStatus
  errorCode : Option String
  responseJson : Option OfflineEarnBatchRecordResult
  transactionId : Option Nat
  approvalId : Option Nat
  syncedAt : Option Int
  deriving DecidableEq

/-- The database with the table of the attempts. -/
structure SyncState where
  db : Database
  attempts : OfflineAttemptKey → Option OfflineSyncAttempt

def SyncState.withDb (db : Database) (s : SyncState) : SyncState := { s with db }

def SyncState.withAttempt (s : SyncState) (key : OfflineAttemptKey) (row : OfflineSyncAttempt) :
    SyncState :=
  { s with attempts := Function.update s.attempts key (some row) }

/-- What the process runs with, the reading of dates included. -/
structure OfflineSyncRuntime extends Runtime where
  OFFLINE_SYNC_MAX_RECORDS : Option Nat
  OFFLINE_EARN_MAX_AGE_HOURS : Option Int
  /-- The instant that a text names: `Date.parse`. -/
  parse : String → Option Int

structure OfflineSyncPolicy where
  maxRecords : Nat
  maxRecordAgeHours : Int

def DEFAULT_OFFLINE_SYNC_MAX_RECORDS : Nat := 100
def DEFAULT_OFFLINE_EARN_MAX_AGE_HOURS : Int := 72
def OFFLINE_SYNC_REPLAY_RETRY_ATTEMPTS : Nat := 8

def getOfflineSyncPolicy (rt : OfflineSyncRuntime) : OfflineSyncPolicy where
  maxRecords := rt.OFFLINE_SYNC_MAX_RECORDS.getD DEFAULT_OFFLINE_SYNC_MAX_RECORDS
  maxRecordAgeHours := rt.OFFLINE_EARN_MAX_AGE_HOURS.getD DEFAULT_OFFLINE_EARN_MAX_AGE_HOURS

structure OfflineEarnBatchRequest where
  deviceId : String
  records : List OfflineEarnBatchRecordInput

structure OfflineEarnBatchResponse where
  deviceId : String
  records : List OfflineEarnBatchRecordResult
  deriving DecidableEq

abbrev SyncProcess (α : Type) := Process RequestInput SyncState Fault α

namespace OfflineSyncService

/-! ### Texts, weeks and dates -/

def normalizeReceiptNumber (value : String) : Except Fault String :=
  if trim value = "" then .error (badRequest "receiptNumber is required") else .ok (trim value)

def normalizeCardBarcode (rt : Runtime) (value : String) : Except Fault String :=
  match (normalizeCardSerial rt value : Txn Unit Fault String) () with
  | .ok (serial, _) => .ok serial
  | .error _ => .error (badRequest "cardBarcode is required")

def normalizeReceiptWeekStart (value : String) : Except Fault String :=
  if trim value = "" then .error (badRequest "receiptWeekStart is required") else .ok (trim value)

def parseYmdDate (rt : OfflineSyncRuntime) (value : String) : Except Fault Int := do
  let normalized ← normalizeReceiptWeekStart value
  match rt.parse (normalized ++ "T00:00:00.000Z") with
  | some t => .ok t
  | none => .error (badRequest "receiptWeekStart must be a valid date")

def parseDate (rt : OfflineSyncRuntime) (value fieldName : String) : Except Fault Int :=
  match rt.parse value with
  | some t => .ok t
  | none => .error (badRequest (fieldName ++ " must be a valid date-time"))

/-- `deriveReceiptWeekStart` of this service, which takes any start day. -/
def deriveReceiptWeekStart (rt : Runtime) (occurredAt : Int) (timeZone : String)
    (receiptWeekStartDay : Int) : Int :=
  let localDate := rt.localDate timeZone occurredAt
  -- 1 January 1970 was a Thursday
  let localWeekday := (dateUTC localDate 0 / Calendar.msPerDay + 4) % 7
  let deltaDays := Int.tmod (7 + localWeekday - receiptWeekStartDay) 7
  dateUTC { localDate with day := localDate.day - deltaDays } 0

def requestText (actor : AuthContext) (deviceId : String) (record : OfflineEarnBatchRecordInput)
    (cardBarcode receiptNumber receiptWeekStart : String) : String :=
  Json.stableStringify <| .object [("tenantId", .string actor.tenantId),
    ("deviceId", .string deviceId), ("localId", .string record.localId),
    ("idempotencyKey", .string record.idempotencyKey), ("cashierId", .string record.cashierId),
    ("branchId", .string record.branchId), ("cardBarcode", .string cardBarcode),
    ("receiptNumber", .string receiptNumber), ("receiptWeekStart", .string receiptWeekStart),
    ("purchaseAmountKobo", .number record.purchaseAmountKobo),
    ("occurredAtLocal", .string record.occurredAtLocal)]

def requestHash (rt : Runtime) (actor : AuthContext) (deviceId : String)
    (record : OfflineEarnBatchRecordInput) : Except Fault Digest := do
  let cardBarcode ← normalizeCardBarcode rt record.cardBarcode
  let receiptNumber ← normalizeReceiptNumber record.receiptNumber
  let receiptWeekStart ← normalizeReceiptWeekStart record.receiptWeekStart
  pure (sha256 (requestText actor deviceId record cardBarcode receiptNumber receiptWeekStart))

/-! ### Results -/

def buildRejectedResult (localId errorCode : String) : OfflineEarnBatchRecordResult where
  localId := localId
  status := .REJECTED
  transactionId := none
  approvalId := none
  creditEarnedKobo := none
  errorCode := some errorCode
  retryable := false

def buildRetryableResult (localId errorCode : String) : OfflineEarnBatchRecordResult where
  localId := localId
  status := .RETRYABLE
  transactionId := none
  approvalId := none
  creditEarnedKobo := none
  errorCode := some errorCode
  retryable := true

/-- The code in an exception's response: Nest's own exceptions and database errors have none. -/
def readDomainCode : Fault → Option String
  | .http _ code _ => if code = "BAD_REQUEST" ∨ code = "CONFLICT" then none else some code
  | _ => none

def mapEarnFailure (localId : String) (e : Fault) : OfflineEarnBatchRecordResult :=
  let code := readDomainCode e
  if code = some "EARN_TRANSACTION_CONFLICT" then
    buildRetryableResult localId "EARN_TRANSACTION_CONFLICT"
  else if code = some "RECEIPT_ALREADY_USED" then
    buildRejectedResult localId "RECEIPT_ALREADY_USED"
  else if code = some "CARD_NOT_FOUND" then buildRejectedResult localId "CARD_INACTIVE"
  else if code = some "DEVICE_NOT_ACTIVE" ∨ code = some "DEVICE_BRANCH_MISMATCH" then
    buildRejectedResult localId "SYNC_DEVICE_MISMATCH"
  else if code = some "IDEMPOTENCY_CONFLICT" then
    buildRejectedResult localId "IDEMPOTENCY_CONFLICT"
  else buildRetryableResult localId (code.getD "OFFLINE_SYNC_UNEXPECTED_ERROR")

def pendingResult (localId : String) (approvalId : Option Nat) : OfflineEarnBatchRecordResult where
  localId := localId
  status := .PENDING_APPROVAL
  transactionId := none
  approvalId := approvalId
  creditEarnedKobo := none
  errorCode := none
  retryable := false

def confirmedResult (localId : String) (transactionId : Option Nat)
    (creditEarnedKobo : Option Int) :
    OfflineEarnBatchRecordResult where
  localId := localId
  status := .CONFIRMED
  transactionId := transactionId
  approvalId := none
  creditEarnedKobo := creditEarnedKobo
  errorCode := none
  retryable := false

/-- The result for what the earn answered. -/
def earnResult (localId : String) : Response → OfflineEarnBatchRecordResult
  | .earn response =>
      if response.state = .PENDING_APPROVAL then pendingResult localId response.approvalId
      else confirmedResult localId response.transactionId response.creditKobo
  -- no other response is stored under the key of an earn
  | _ => confirmedResult localId none none

/-! ### The attempt row -/

def key (actor : AuthContext) (deviceId localId : String) : OfflineAttemptKey :=
  ⟨actor.tenantId, deviceId, localId⟩

def findAttempt (key : OfflineAttemptKey) : SyncProcess (Option OfflineSyncAttempt) :=
  statement fun _ s => (s.attempts key, s)

/-- The row of a record that is seen for the first time. -/
def newAttempt (rt : OfflineSyncRuntime) (requestHash : Digest)
    (record : OfflineEarnBatchRecordInput) : Except Fault OfflineSyncAttempt := do
  let posReceiptNumber ← normalizeReceiptNumber record.receiptNumber
  let receiptWeekStartSubmitted ← parseYmdDate rt record.receiptWeekStart
  let occurredAt ← parseDate rt record.occurredAtLocal "occurredAtLocal"
  let purchaseAmountKobo ← Int4.of "purchaseAmountKobo" record.purchaseAmountKobo
  pure
    { idempotencyKey := record.idempotencyKey, requestHash, cashierId := record.cashierId
      branchId := record.branchId, posReceiptNumber, receiptWeekStartSubmitted, purchaseAmountKobo
      occurredAt, status := .RETRYABLE, errorCode := none, responseJson := none
      transactionId := none, approvalId := none, syncedAt := none }

/-- Whether the row was created; one that is there already is left alone. -/
def createAttempt (key : OfflineAttemptKey) (row : OfflineSyncAttempt) : SyncProcess Bool :=
  statement fun _ s =>
    if (s.attempts key).isSome then (false, s) else (true, s.withAttempt key row)

/-- The row with a result. -/
def OfflineSyncAttempt.withResult (row : OfflineSyncAttempt)
    (result : OfflineEarnBatchRecordResult) (now : Int) : OfflineSyncAttempt :=
  { row with
    status := result.status, errorCode := result.errorCode, transactionId := result.transactionId
    approvalId := result.approvalId, responseJson := some result, syncedAt := some now }

def persistResult (key : OfflineAttemptKey) (result : OfflineEarnBatchRecordResult) :
    SyncProcess OfflineEarnBatchRecordResult :=
  attempt fun env s =>
    match s.attempts key with
    | some row => (.ok result, s.withAttempt key (OfflineSyncAttempt.withResult row result env.now))
    | none => (.error .missing, s)

/-- Up to so many lookups, until the row has a response. -/
def waitForOfflineSyncReplay (key : OfflineAttemptKey) (requestHash : Digest) :
    Nat → SyncProcess (Option OfflineEarnBatchRecordResult)
  | 0 => pure none
  | attempts + 1 => do
      let record ← findAttempt key
      match record with
      | none => pure none
      | some row =>
          if row.requestHash ≠ requestHash then pure none
          else
            match row.responseJson with
            | some response => pure (some response)
            | none => waitForOfflineSyncReplay key requestHash attempts

/-- The answer for a record that has a row. -/
def replayAttempt (key : OfflineAttemptKey) (requestHash : Digest) (localId : String)
    (existingAttempt : OfflineSyncAttempt) : SyncProcess OfflineEarnBatchRecordResult :=
  if existingAttempt.requestHash ≠ requestHash then
    pure (buildRejectedResult localId "SYNC_RECORD_CONFLICT")
  else
    match existingAttempt.responseJson with
    | some response => pure response
    | none => do
        let replay ← waitForOfflineSyncReplay key requestHash OFFLINE_SYNC_REPLAY_RETRY_ATTEMPTS
        match replay with
        | some response => pure response
        | none => pure (buildRetryableResult localId "SYNC_RECORD_PROCESSING")

/-! ### Validation -/

/-- The device of an id with its branch. -/
def findDevice (db : Database) (tenantId deviceId : String) : Option (Device × Branch) := do
  let device ← (db.registry.devices deviceId).filter fun d => d.tenantId = tenantId
  let branch ← (db.registry.branches device.branchId).filter fun b => b.tenantId = device.tenantId
  pure (device, branch)

/-- The card whose stored barcode is the one given, with its customer. -/
def findCard (db : Database) (tenantId cardBarcode : String) : Option (Card × Customer) := do
  let card ← db.registry.cards.find? fun c => c.tenantId = tenantId && c.barcodeValue = cardBarcode
  let customer ← (db.registry.customers card.customerId).filter fun c => c.tenantId = card.tenantId
  pure (card, customer)

/-- Why a record is rejected for its device or its week. -/
def deviceError (rt : Runtime) (record : OfflineEarnBatchRecordInput) (occurredAt : Int)
    (submittedWeekStart : String) : Option (Device × Branch) → Option String
  | none => some "SYNC_DEVICE_MISMATCH"
  | some (device, branch) =>
      if device.status ≠ .ACTIVE ∨ branch.status ≠ .ACTIVE ∨ device.branchId ≠ record.branchId then
        some "SYNC_DEVICE_MISMATCH"
      else if submittedWeekStart ≠
          isoDay (deriveReceiptWeekStart rt occurredAt branch.timezone branch.receiptWeekStartDay)
            then
        some "SYNC_WEEK_MISMATCH"
      else none

/-- Why a record is rejected for its card. -/
def cardError : Option (Card × Customer) → Option String
  | none => some "CARD_INACTIVE"
  | some (card, customer) =>
      if card.status ≠ .ACTIVE ∨ customer.status ≠ .ACTIVE then some "CARD_INACTIVE"
      else if customer.isStaff then some "STAFF_INELIGIBLE"
      else none

/-- A record older than the policy takes. -/
def expired (policy : OfflineSyncPolicy) (occurredAt now : Int) : Prop :=
  policy.maxRecordAgeHours * 3600000 < now - occurredAt

instance (policy : OfflineSyncPolicy) (occurredAt now : Int) :
    Decidable (expired policy occurredAt now) :=
  inferInstanceAs (Decidable (_ < _))

/-- `validateRecord`: the code of the rejection, if any. -/
def validateRecord (rt : OfflineSyncRuntime) (actor : AuthContext) (deviceId : String)
    (policy : OfflineSyncPolicy) (record : OfflineEarnBatchRecordInput) :
    SyncProcess (Option String) :=
  if record.cashierId ≠ actor.id then pure (some "SYNC_ACTOR_MISMATCH")
  else if some record.branchId ≠ actor.branchId then pure (some "SYNC_BRANCH_MISMATCH")
  else do
    let occurredAt ← ofExcept (parseDate rt record.occurredAtLocal "occurredAtLocal")
    let now ← statement fun env s => (env.now, s)
    if expired policy occurredAt now then pure (some "SYNC_RECORD_EXPIRED")
    else do
      let device ← statement fun _ s => (findDevice s.db actor.tenantId deviceId, s)
      let submittedWeekStart ← ofExcept (normalizeReceiptWeekStart record.receiptWeekStart)
      match deviceError rt.toRuntime record occurredAt submittedWeekStart device with
      | some code => pure (some code)
      | none => do
          let cardBarcode ← ofExcept (normalizeCardBarcode rt.toRuntime record.cardBarcode)
          let card ← statement fun _ s => (findCard s.db actor.tenantId cardBarcode, s)
          pure (cardError card)

/-! ### Records and batches -/

def earnDto (rt : OfflineSyncRuntime) (record : OfflineEarnBatchRecordInput) :
    Except Fault EarnTransactionDto := do
  let posReceiptNumber ← normalizeReceiptNumber record.receiptNumber
  let cardSerialNumber ← normalizeCardBarcode rt.toRuntime record.cardBarcode
  let occurredAt ← parseDate rt record.occurredAtLocal "occurredAtLocal"
  pure
    { cardSerialNumber, posReceiptNumber, purchaseAmountKobo := record.purchaseAmountKobo
      occurredAt, overrideReason := none }

/-- The earn a record asks for. -/
def delegatedEarn (rt : OfflineSyncRuntime) (actor : AuthContext)
    (record : OfflineEarnBatchRecordInput) : SyncProcess Response := do
  let dto ← ofExcept (earnDto rt record)
  (LoyaltyService.earn rt.toRuntime actor (some record.idempotencyKey) dto).within
    SyncState.db SyncState.withDb

/-- A record whose row was just created. -/
def submitRecord (rt : OfflineSyncRuntime) (actor : AuthContext) (deviceId : String)
    (policy : OfflineSyncPolicy) (record : OfflineEarnBatchRecordInput) :
    SyncProcess OfflineEarnBatchRecordResult := do
  let validationError ← validateRecord rt actor deviceId policy record
  match validationError with
  | some code =>
      persistResult (key actor deviceId record.localId) (buildRejectedResult record.localId code)
  | none => do
      let result ← ((do
        let response ← delegatedEarn rt actor record
        pure (earnResult record.localId response)) : SyncProcess _).catching
          fun e => pure (mapEarnFailure record.localId e)
      persistResult (key actor deviceId record.localId) result

def processRecord (rt : OfflineSyncRuntime) (actor : AuthContext) (deviceId : String)
    (policy : OfflineSyncPolicy) (record : OfflineEarnBatchRecordInput) :
    SyncProcess OfflineEarnBatchRecordResult := do
  let requestHash ← ofExcept (requestHash rt.toRuntime actor deviceId record)
  let key := key actor deviceId record.localId
  let existingAttempt ← findAttempt key
  match existingAttempt with
  | some row => replayAttempt key requestHash record.localId row
  | none => do
      let row ← ofExcept (newAttempt rt requestHash record)
      let created ← createAttempt key row
      if created then submitRecord rt actor deviceId policy record
      else do
        -- another batch has created the row since; rows are never deleted
        let existingAttempt ← findAttempt key
        match existingAttempt with
        | some row => replayAttempt key requestHash record.localId row
        | none => fail .missing

/-- Why a batch is refused as a whole. -/
def refusal (rt : OfflineSyncRuntime) (actor : AuthContext) (request : OfflineEarnBatchRequest) :
    Option Fault :=
  if actor.role ≠ .CASHIER then
    some (.http 403 "SYNC_ACTOR_MISMATCH" "Offline earn sync requires a cashier session")
  else if actor.deviceId.getD "" = "" then
    some (.http 400 "SYNC_DEVICE_MISMATCH" "Session device is required for offline sync")
  else if some request.deviceId ≠ actor.deviceId then
    some (.http 400 "SYNC_DEVICE_MISMATCH"
      "Offline sync device does not match the authenticated session")
  else if actor.branchId = none then
    some (.http 400 "SYNC_BRANCH_MISMATCH" "Branch context is required for offline sync")
  else if (getOfflineSyncPolicy rt).maxRecords < request.records.length then
    some (badRequest "Offline sync batch is too large")
  else none

def earnBatch (rt : OfflineSyncRuntime) (actor : AuthContext) (request : OfflineEarnBatchRequest) :
    SyncProcess OfflineEarnBatchResponse :=
  match refusal rt actor request with
  | some e => fail e
  | none => do
      let records ← collect
        (processRecord rt actor request.deviceId (getOfflineSyncPolicy rt)) request.records
      pure ⟨request.deviceId, records⟩

end OfflineSyncService

end ShopcityLoyalty
