import ShopcityLoyalty.Policy

/-!
Idempotency keys and records, request texts, and the checks on receipts that earning and
redeeming share.
-/

namespace ShopcityLoyalty

open Txn Database

def IDP_EXPIRY_MS : Int := 7 * 24 * 60 * 60 * 1000
def APPROVAL_EXPIRY_MS : Int := 24 * 60 * 60 * 1000
def MAX_POS_FUTURE_SKEW_MS : Int := 5 * 60 * 1000
def MAX_POS_PAST_SKEW_MS : Int := 12 * 60 * 60 * 1000

/-- `normalizeIdempotencyKey`: the trimmed header, which must not be empty. -/
def normalizeIdempotencyKey (key : Option String) : Tx String := do
  let normalized := trim (key.getD "")
  rejectIf (normalized = "") (badRequest "Idempotency-Key header is required")
  pure normalized

def Database.dropExpired (s : Database) (matches_ : IdempotencyKey → Bool) (now : Int) :
    Database :=
  { s with idempotency := fun k =>
      (s.idempotency k).filter fun r => !(matches_ k && r.expiresAt ≤ now) }

lemma Database.dropExpired_other {s : Database} {matches_ : IdempotencyKey → Bool} {now : Int}
    {k : IdempotencyKey} (h : ¬ matches_ k) :
    (s.dropExpired matches_ now).idempotency k = s.idempotency k := by
  cases hr : s.idempotency k <;> simp [dropExpired, h, hr]

/-- `cleanupExpiredIdempotencyRecords` of the endpoints that name themselves. -/
def cleanupExpiredIdempotencyRecords (key : IdempotencyKey) (now : Int) : Tx Unit :=
  update fun s => s.dropExpired (fun k => k = key) now

/-- `cleanupExpiredIdempotencyRecords` of reversals and adjustments, which leaves the
endpoint out of its condition. -/
def cleanupExpiredRecordsOfAnyEndpoint (key : IdempotencyKey) (now : Int) : Tx Unit :=
  update fun s => s.dropExpired (fun k => k.tenantId = key.tenantId && k.actorId = key.actorId &&
    k.idempotencyKey = key.idempotencyKey) now

def idempotencyConflict : Fault :=
  .http 409 "IDEMPOTENCY_CONFLICT" "Idempotency key reused with different payload"

/-- What a request finds under its key before its transaction. -/
inductive Precheck
  | replay (response : Response)
  | proceed

/-- A record of another payload is a conflict, one with a response is replayed, and one
without is still in progress. -/
def precheckRecord (record : Option (IdempotencyRecord Response)) (requestHash : Digest)
    (inProgress : Fault) : Tx Precheck :=
  match record with
  | none => pure .proceed
  | some r => do
      rejectIf (r.requestHash ≠ requestHash) idempotencyConflict
      match r.responseJson with
      | some response => pure (.replay response)
      | none => fault inProgress

/-- `findCompletedEarnReplay` and `findCompletedRedeemReplay`. -/
def findCompletedReplay (db : Database) (key : IdempotencyKey) (requestHash : Digest) :
    Option Response :=
  (db.idempotency key).bind fun r => if r.requestHash = requestHash then r.responseJson else none

/-! ### Cards, receipts and devices -/

def isSerialChar (c : Char) : Bool := c.isUpper || c.isDigit

/-- `normalizeCardSerial`. -/
def normalizeCardSerial {σ : Type} (rt : Runtime) (value : String) : Txn σ Fault String := do
  let normalized := rt.toUpperCase (trim value)
  rejectIf (normalized = "") (badRequest "serialNumber is required")
  rejectIf (64 < normalized.length ∨ ¬ (isSerialChar (normalized.toList.headD ' ') ∧
      normalized.toList.all fun c => isSerialChar c || c = '-'))
    (badRequest
      "serialNumber must contain only letters, numbers, and hyphens (maximum 64 characters)")
  pure normalized

def normalizeReceiptIdentity (rt : Runtime) (value : String) : String := rt.toUpperCase (trim value)

/-- `deriveReceiptWeekStart`: the local date of the purchase, taken back to the day the
branch's receipt week starts. The services differ in the exception they throw. -/
def deriveReceiptWeekStart (rt : Runtime) (exception : String → Fault) (occurredAt : Int)
    (timeZone : String) (receiptWeekStartDay : Int) : Tx Int := do
  rejectIf (receiptWeekStartDay < 0 ∨ 6 < receiptWeekStartDay)
    (exception "Branch receipt week start day is invalid")
  let localDate := rt.localDate timeZone occurredAt
  -- 1 January 1970 was a Thursday
  let localWeekday := (dateUTC localDate 0 / Calendar.msPerDay + 4) % 7
  let deltaDays := (7 + localWeekday - receiptWeekStartDay) % 7
  pure (dateUTC { localDate with day := localDate.day - deltaDays } 0)

/-- The receipt that already has an identity. -/
def findReceipt (db : Database) (tenantId branchId : String) (receiptWeekStart : Int)
    (normalizedPosReceiptNumber : String) : Option (Nat × Receipt) :=
  db.receipts.find fun r => r.tenantId = tenantId && r.branchId = branchId &&
    r.receiptWeekStart = receiptWeekStart &&
    r.normalizedPosReceiptNumber = normalizedPosReceiptNumber

/-- The device of the session with its branch, both active and the branch the actor's own. -/
def findTransactionDevice (db : Database) (actor : AuthContext) (sessionDeviceId : String) :
    Tx (Device × Branch) := do
  let inactive : Fault := .http 400 "DEVICE_NOT_ACTIVE" "Device is not active"
  let device ← orFault ((db.registry.devices sessionDeviceId).filter fun d =>
    d.tenantId = actor.tenantId) inactive
  let branch ← orFault ((db.registry.branches device.branchId).filter fun b =>
    b.tenantId = device.tenantId) inactive
  rejectIf (device.status ≠ .ACTIVE ∨ branch.status ≠ .ACTIVE) inactive
  rejectIf (actor.branchId.any fun b => b ≠ device.branchId)
    (.http 400 "DEVICE_BRANCH_MISMATCH" "Device does not belong to cashier branch")
  pure (device, branch)

/-- The card of a serial number with its customer, both active. -/
def findTransactionCard (rt : Runtime) (db : Database) (tenantId cardSerialNumber : String) :
    Tx (Card × Customer) := do
  let notFound : Fault := .http 404 "CARD_NOT_FOUND" "Card not found"
  let card ← orFault (db.registry.cards.find? fun c =>
    c.tenantId = tenantId && rt.toUpperCase c.barcodeValue = rt.toUpperCase cardSerialNumber)
    notFound
  let customer ← orFault ((db.registry.customers card.customerId).filter fun c =>
    c.tenantId = card.tenantId) notFound
  rejectIf (card.status ≠ .ACTIVE ∨ customer.status ≠ .ACTIVE ∨ customer.isStaff) notFound
  pure (card, customer)

/-- What is recorded about a receipt presented again. -/
structure DuplicateReceiptAttempt where
  tenantId : String
  receiptId : String
  originalReceiptId : Nat
  branchId : String
  cashierId : String
  customerId : String
  deviceId : String
  normalizedPosReceiptNumber : String
  receiptWeekStart : Int
  occurredAt : Int

def DuplicateReceiptAttempt.metadata (rt : Runtime) (a : DuplicateReceiptAttempt) :
    List (String × Json) :=
  [("originalReceiptId", .string (rt.uuid .receipts a.originalReceiptId)),
    ("duplicateReceiptId", .string a.receiptId), ("branchId", .string a.branchId),
    ("cashierId", .string a.cashierId), ("customerId", .string a.customerId),
    ("deviceId", .string a.deviceId),
    ("normalizedPosReceiptNumber", .string a.normalizedPosReceiptNumber),
    ("receiptWeekStart", .string (Calendar.toISOString a.receiptWeekStart)),
    ("occurredAt", .string (Calendar.toISOString a.occurredAt))]

/-- A transaction of its own: an audit entry and a fraud event. -/
def recordDuplicateReceiptAttempt (rt : Runtime) (a : DuplicateReceiptAttempt) : Tx Unit := do
  recordAudit
    { tenantId := a.tenantId, actorId := some a.cashierId
      action := "RECEIPT_DUPLICATE_ATTEMPT_RECORDED", entityType := "RECEIPT"
      entityId := rt.uuid .receipts a.originalReceiptId, metadata := .object (a.metadata rt) }
  insertOutboxEvent
    { tenantId := a.tenantId, aggregateType := "receipt"
      aggregateId := rt.uuid .receipts a.originalReceiptId, eventType := "fraud.evaluate"
      payload := .object (("ruleCode", .string "FR-DUP-001") :: a.metadata rt) }

def receiptAlreadyUsed : Fault :=
  .http 409 "RECEIPT_ALREADY_USED" "Physical receipt already captured"

def isSafeInteger (n : Int) : Bool := -9007199254740991 ≤ n && n ≤ 9007199254740991

end ShopcityLoyalty
