import ShopcityLoyalty.Idempotency
import ShopcityLoyalty.LotAllocation

/-!
Capturing a purchase: `LoyaltyService.earn` up to the commit of its transaction.

The part before the transaction reads outside it; what it reads is an argument here, so
that the transaction may run later, on another state.
-/

namespace ShopcityLoyalty

open Txn Database

def APPROVAL_REASON_CODE : String := "PURCHASE_ABOVE_APPROVAL_THRESHOLD"
def LATE_RECEIPT_APPROVAL_REASON_CODE : String := "LATE_RECEIPT_CLAIM"
def LATE_RECEIPT_CLAIM_AGE_MS : Int := 7 * 24 * 60 * 60 * 1000

structure EarnTransactionDto where
  cardSerialNumber : String
  posReceiptNumber : String
  purchaseAmountKobo : Int
  occurredAt : Int
  overrideReason : Option String

/-- A request with its texts normalized and its hash taken. -/
structure EarnRequest where
  actor : AuthContext
  idempotencyKey : String
  cardSerialNumber : String
  posReceiptNumber : String
  normalizedPosReceiptNumber : String
  purchaseAmountKobo : Int
  occurredAt : Int
  overrideReason : Option String
  requestHash : Digest

def EarnRequest.key (req : EarnRequest) : IdempotencyKey :=
  ⟨req.actor.tenantId, req.actor.id, .earn, req.idempotencyKey⟩

namespace LoyaltyService

def earnRequestText (actor : AuthContext) (cardSerialNumber posReceiptNumber : String)
    (dto : EarnTransactionDto) (overrideReason : Option String) : String :=
  Json.stableStringify <|
    .object [("tenantId", .string actor.tenantId), ("actorId", .string actor.id),
    ("cardSerialNumber", .string cardSerialNumber), ("posReceiptNumber", .string posReceiptNumber),
    ("purchaseAmountKobo", .number dto.purchaseAmountKobo),
    ("occurredAt", .string (Calendar.toISOString dto.occurredAt)),
    ("deviceId", (actor.deviceId.map Json.string).getD .null),
    ("overrideReason", (overrideReason.map Json.string).getD .undefined)]

def earnRequest (rt : Runtime) (actor : AuthContext) (idempotencyKey : Option String)
    (dto : EarnTransactionDto) : Tx EarnRequest := do
  let normalizedKey ← normalizeIdempotencyKey idempotencyKey
  let posReceiptNumber := trim dto.posReceiptNumber
  rejectIf (posReceiptNumber = "") (badRequest "posReceiptNumber is required")
  let normalizedPosReceiptNumber := normalizeReceiptIdentity rt posReceiptNumber
  let overrideReason := dto.overrideReason.map trim
  let cardSerialNumber ← normalizeCardSerial rt dto.cardSerialNumber
  pure
    { actor, idempotencyKey := normalizedKey, cardSerialNumber
      posReceiptNumber, normalizedPosReceiptNumber, purchaseAmountKobo := dto.purchaseAmountKobo
      occurredAt := dto.occurredAt, overrideReason
      requestHash :=
        sha256 (earnRequestText actor cardSerialNumber normalizedPosReceiptNumber dto
          overrideReason) }

/-- The policy of the actor's own branch; an actor without a branch gets none. -/
def configuredEarnPolicy (db : Database) (actor : AuthContext) : Option EarnPolicyValues :=
  actor.branchId.bind fun b => (db.registry.policies actor.tenantId b).map (·.earnPolicy)

def assertPurchaseAmountAllowed (rt : Runtime) (purchaseAmountKobo : Int)
    (configuredPolicy : Option EarnPolicyValues) : Tx Unit := do
  rejectIf (¬ isSafeInteger purchaseAmountKobo)
    (badRequest "purchaseAmountKobo must be a safe integer")
  rejectIf (purchaseCeilingKobo rt configuredPolicy < purchaseAmountKobo)
    (badRequest "purchaseAmountKobo exceeds the allowed maximum")

/-- Whether the override of a timestamp out of range is accepted. -/
def assertOverrideAllowed (role : UserRole) (overrideReason : Option String) (tooFar : String) :
    Tx Bool := do
  rejectIf (role = .CASHIER) (badRequest tooFar)
  rejectIf (overrideReason.getD "" = "")
    (badRequest "overrideReason is required for timestamp overrides")
  pure true

def assertReceiptTimestampAllowed (role : UserRole) (occurredAt : Int)
    (overrideReason : Option String) (isLateReceiptClaim : Bool) (now : Int) : Tx Bool :=
  if MAX_POS_FUTURE_SKEW_MS < occurredAt - now then
    assertOverrideAllowed role overrideReason "occurredAt cannot be in the future"
  else if occurredAt - now < -MAX_POS_PAST_SKEW_MS ∧ ¬ (isLateReceiptClaim ∧ role = .CASHIER) then
    assertOverrideAllowed role overrideReason "occurredAt cannot be too old"
  else pure false

/-- What the part before the transaction hands to it. -/
structure EarnAdmission where
  sessionDeviceId : String
  configuredPolicy : Option EarnPolicyValues
  isLateReceiptClaim : Bool
  overrideApplied : Bool

/-- The checks between the lookup of the key and the transaction. -/
def admitEarn (rt : Runtime) (req : EarnRequest) (receivedAt : Int) : Tx EarnAdmission := do
  let sessionDeviceId ← orFault req.actor.deviceId
    (.http 400 "SESSION_DEVICE_REQUIRED" "Session device is required")
  let db ← get
  let configuredPolicy := configuredEarnPolicy db req.actor
  assertPurchaseAmountAllowed rt req.purchaseAmountKobo configuredPolicy
  let isLateReceiptClaim : Bool := LATE_RECEIPT_CLAIM_AGE_MS < receivedAt - req.occurredAt
  let overrideApplied ← assertReceiptTimestampAllowed req.actor.role req.occurredAt
    req.overrideReason isLateReceiptClaim receivedAt
  pure { sessionDeviceId, configuredPolicy, isLateReceiptClaim, overrideApplied }

def earnInProgress : Fault := .http 409 "CONFLICT" "Idempotency key is still being processed"

/-- The rows the transaction starts from. -/
structure EarnContext where
  device : Device
  branch : Branch
  card : Card
  customer : Customer
  branchId : String
  receiptWeekStart : Int

def earnContext (rt : Runtime) (req : EarnRequest) (adm : EarnAdmission) : Tx EarnContext := do
  let db ← get
  let (device, branch) ← findTransactionDevice db req.actor adm.sessionDeviceId
  let (card, customer) ← findTransactionCard rt db req.actor.tenantId req.cardSerialNumber
  let receiptWeekStart ← deriveReceiptWeekStart rt badRequest req.occurredAt branch.timezone
    branch.receiptWeekStartDay
  pure { device, branch, card, customer, branchId := req.actor.branchId.getD device.branchId
         receiptWeekStart }

/-- What the catch block records when the receipt was there already. -/
def earnDuplicateAttempt (req : EarnRequest) (adm : EarnAdmission) (ctx : EarnContext)
    (receiptId : String) (originalReceiptId : Nat) : DuplicateReceiptAttempt where
  tenantId := req.actor.tenantId
  receiptId := receiptId
  originalReceiptId := originalReceiptId
  branchId := ctx.branchId
  cashierId := req.actor.id
  customerId := ctx.card.customerId
  deviceId := adm.sessionDeviceId
  normalizedPosReceiptNumber := req.normalizedPosReceiptNumber
  receiptWeekStart := ctx.receiptWeekStart
  occurredAt := req.occurredAt

/-- Late claims wait for approval whatever their amount. -/
def earnCaptureStatus (rt : Runtime) (req : EarnRequest) (adm : EarnAdmission) :
    ReceiptCaptureStatus :=
  if adm.isLateReceiptClaim then .PENDING_APPROVAL
  else resolveEarnCaptureStatus req.purchaseAmountKobo rt adm.configuredPolicy

def earnApprovalReasonCode (rt : Runtime) (req : EarnRequest) (adm : EarnAdmission) :
    Option String :=
  if adm.isLateReceiptClaim then some LATE_RECEIPT_APPROVAL_REASON_CODE
  else if resolveEarnCaptureStatus req.purchaseAmountKobo rt adm.configuredPolicy =
    .PENDING_APPROVAL then some APPROVAL_REASON_CODE
  else none

/-- The receipt as captured: reviewed at once unless it waits for approval. -/
def earnReceipt (rt : Runtime) (req : EarnRequest) (adm : EarnAdmission) (ctx : EarnContext)
    (amount : PositiveKobo) (now : Int) : Receipt :=
  let captureStatus := earnCaptureStatus rt req adm
  let pending := captureStatus = .PENDING_APPROVAL
  { tenantId := req.actor.tenantId, branchId := ctx.branchId, customerId := ctx.card.customerId
    cardId := ctx.card.id, deviceId := some adm.sessionDeviceId
    posReceiptNumber := req.posReceiptNumber
    normalizedPosReceiptNumber := req.normalizedPosReceiptNumber
    receiptWeekStart := ctx.receiptWeekStart, purchaseAmountKobo := amount
    occurredAt := req.occurredAt, capturedBy := req.actor.staff, capturedAt := now, captureStatus
    reviewStatus := if pending then .PENDING else .APPROVED
    approvalReasonCode := earnApprovalReasonCode rt req adm
    reviewedBy := if pending then none else some req.actor.staff
    reviewedAt := if pending then none else some now
    approvedBy := if pending then none else some req.actor.staff
    approvedAt := if pending then none else some now }

/-- The approval a pending capture asks for. -/
def earnApproval (rt : Runtime) (req : EarnRequest) (adm : EarnAdmission) (receiptId : Nat)
    (requestedAt now : Int) : Approval where
  tenantId := req.actor.tenantId
  target := .EARN receiptId
  status := .PENDING
  requestedBy := req.actor.staff
  reasonCode := earnApprovalReasonCode rt req adm
  policyVersion := getEarnApprovalPolicyVersion rt adm.configuredPolicy
  requestedAt := requestedAt
  expiresAt := now + APPROVAL_EXPIRY_MS
  decisionBy := none
  decisionReason := none
  decidedAt := none
  executedAt := none

/-- The completed record of a request, kept for seven days. -/
def completedRecord (requestHash : Digest) (response : Response) (now : Int) :
    IdempotencyRecord Response where
  requestHash := requestHash
  responseJson := some response
  status := .COMPLETED
  expiresAt := now + IDP_EXPIRY_MS

def earnResponse (req : EarnRequest) (adm : EarnAdmission) (ctx : EarnContext) (receiptId : Nat)
    (now : Int) (captureStatus : ReceiptCaptureStatus) (state : CaptureState)
    (reviewStatus : ReceiptReviewStatus) : EarnTransactionResponse where
  transactionId := none
  state := state
  receiptId := receiptId
  approvalId := none
  tenantId := req.actor.tenantId
  branchId := ctx.branchId
  deviceId := adm.sessionDeviceId
  customerId := ctx.card.customerId
  cardSerialNumber := ctx.card.barcodeValue
  posReceiptNumber := req.posReceiptNumber
  purchaseAmountKobo := req.purchaseAmountKobo
  creditKobo := none
  captureStatus := captureStatus
  availableBalanceKobo := none
  expiresAt := none
  smsStatus := none
  occurredAt := req.occurredAt
  capturedAt := now
  reviewStatus := reviewStatus
  reasonCode := none

/-- The rest of the transaction for a receipt that waits for approval. -/
def captureForApproval (rt : Runtime) (req : EarnRequest) (adm : EarnAdmission) (ctx : EarnContext)
    (receiptId : Nat) (now : Int) : Tx EarnTransactionResponse := do
  let db ← get
  let approvalId ← insertApproval (earnApproval rt req adm receiptId
    (rt.insertedAt .approvals db.approvals.length) now)
  let reasonCode := earnApprovalReasonCode rt req adm
  insertOutboxEvent
    { tenantId := req.actor.tenantId, aggregateType := "receipt"
      aggregateId := rt.uuid .receipts receiptId, eventType := "fraud.evaluate"
      payload := .object [("receiptId", .string (rt.uuid .receipts receiptId)),
        ("approvalId", .string (rt.uuid .approvals approvalId)),
        ("tenantId", .string req.actor.tenantId), ("branchId", .string ctx.branchId),
        ("cashierId", .string req.actor.id), ("customerId", .string ctx.card.customerId),
        ("occurredAt", .string (Calendar.toISOString now)),
        ("reasonCode", (reasonCode.map Json.string).getD .null)] }
  let response : EarnTransactionResponse :=
    { earnResponse req adm ctx receiptId now (earnCaptureStatus rt req adm) .PENDING_APPROVAL
        .PENDING with
      approvalId := some approvalId, reasonCode }
  insertIdempotencyRecord req.key (completedRecord req.requestHash (.earn response) now)
  recordAudit
    { tenantId := req.actor.tenantId, actorId := some req.actor.id
      action := "earn.request.approval_required", entityType := "receipt"
      entityId := rt.uuid .receipts receiptId
      metadata := .object [("approvalId", .string (rt.uuid .approvals approvalId))] }
  pure response

def earnLedgerEntry (req : EarnRequest) (ctx : EarnContext) (receiptId : Nat)
    (amountKobo : PositiveKobo) : LoyaltyLedgerEntry where
  tenantId := req.actor.tenantId
  customerId := ctx.card.customerId
  receiptId := some receiptId
  type := .EARN
  direction := .CREDIT
  amountKobo := amountKobo
  correlationId := .request req.requestHash
  reversesEntryId := none
  createdBy := req.actor.staff
  effectiveAt := req.occurredAt

/-- The rest of the transaction for a receipt credited at once. -/
def creditReceipt (rt : Runtime) (req : EarnRequest) (adm : EarnAdmission) (ctx : EarnContext)
    (receiptId : Nat) (now : Int) : Tx EarnTransactionResponse := do
  let creditKobo := calculateEarnAmountKobo req.purchaseAmountKobo
    (resolveEarnRateBps rt adm.configuredPolicy)
  let amountKobo ← orFault (PositiveKobo.of? creditKobo)
    (.check "LoyaltyLedgerEntry_amountKobo_positive_check")
  let ledgerEntryId ← insertLedgerEntry (earnLedgerEntry req ctx receiptId amountKobo)
  let expiresAt := addUtcMonthsClamped req.occurredAt 12
  let creditLotId ← insertCreditLot req.actor.tenantId ctx.card.customerId ledgerEntryId amountKobo
    req.occurredAt expiresAt
  insertOutboxEvent
    { tenantId := req.actor.tenantId, aggregateType := "receipt"
      aggregateId := rt.uuid .receipts receiptId, eventType := "sms.send"
      payload := .object [("version", .number 1),
        ("receiptId", .string (rt.uuid .receipts receiptId)),
        ("transactionId", .string (rt.uuid .ledger ledgerEntryId)),
        ("customerId", .string ctx.card.customerId), ("phoneE164", .string ctx.customer.phoneE164),
        ("template", .string "earn-confirmed"), ("creditKobo", .string (toString creditKobo))] }
  insertOutboxEvent
    { tenantId := req.actor.tenantId, aggregateType := "receipt"
      aggregateId := rt.uuid .receipts receiptId, eventType := "fraud.evaluate"
      payload := .object [("receiptId", .string (rt.uuid .receipts receiptId))] }
  let db ← get
  let response : EarnTransactionResponse :=
    { earnResponse req adm ctx receiptId now (earnCaptureStatus rt req adm) .CONFIRMED
        .APPROVED with
      transactionId := some ledgerEntryId
      creditKobo := some creditKobo
      availableBalanceKobo := some (ActiveBalanceService.getActiveBalanceKobo db req.actor.tenantId
        ctx.card.customerId now)
      expiresAt := some expiresAt
      smsStatus := some .QUEUED }
  insertIdempotencyRecord req.key (completedRecord req.requestHash (.earn response) now)
  recordAudit
    { tenantId := req.actor.tenantId, actorId := some req.actor.id, action := "earn.confirmed"
      entityType := "receipt", entityId := rt.uuid .receipts receiptId
      metadata := .object [("creditLotId", .string (rt.uuid .lots creditLotId))] }
  onlyIf adm.overrideApplied <| recordAudit
    { tenantId := req.actor.tenantId, actorId := some req.actor.id
      action := "earn.timestamp_override", entityType := "receipt"
      entityId := rt.uuid .receipts receiptId
      metadata := .object [("overrideReason", (req.overrideReason.map Json.string).getD .undefined),
        ("occurredAt", .string (Calendar.toISOString req.occurredAt))] }
  pure response

/-- The callback of `earn`'s transaction, in one attempt. -/
def earnTransaction (rt : Runtime) (req : EarnRequest) (adm : EarnAdmission) (now : Int) :
    Tx EarnTransactionResponse := do
  let ctx ← earnContext rt req adm
  let db ← get
  rejectIf (findReceipt db req.actor.tenantId ctx.branchId ctx.receiptWeekStart
    req.normalizedPosReceiptNumber).isSome receiptAlreadyUsed
  let amount ← orFault (PositiveKobo.of? req.purchaseAmountKobo)
    (.check "Receipt_purchaseAmountKobo_positive_check")
  let receiptId ← insertReceipt (earnReceipt rt req adm ctx amount now)
  if earnCaptureStatus rt req adm = .PENDING_APPROVAL then
    captureForApproval rt req adm ctx receiptId now
  else
    creditReceipt rt req adm ctx receiptId now

end LoyaltyService

end ShopcityLoyalty
