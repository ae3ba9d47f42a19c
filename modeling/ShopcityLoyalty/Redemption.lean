import ShopcityLoyalty.Idempotency
import ShopcityLoyalty.Settlement

/-!
Redeeming credit at the till: `RedemptionsService.redeem` up to the commit of its
transaction. A request within its limits settles at once, the others wait for approval.
-/

namespace ShopcityLoyalty

open Txn Database

def MAX_BOUNDED_TEXT_LENGTH : Nat := 128

structure RedeemTransactionDto where
  cardSerialNumber : String
  posReceiptNumber : String
  basketAmountKobo : Int
  requestedRedemptionKobo : Int
  occurredAt : Int

/-- A request with its texts normalized and its hash taken. -/
structure RedeemRequest where
  actor : AuthContext
  idempotencyKey : String
  cardSerialNumber : String
  posReceiptNumber : String
  normalizedPosReceiptNumber : String
  basketAmountKobo : Int
  requestedRedemptionKobo : Int
  occurredAt : Int
  requestHash : Digest

def RedeemRequest.key (req : RedeemRequest) : IdempotencyKey :=
  ⟨req.actor.tenantId, req.actor.id, .redeem, req.idempotencyKey⟩

def validationError (message : String) : Fault := .http 400 "VALIDATION_ERROR" message

namespace RedemptionsService

/-- A trimmed text that is neither empty nor too long. -/
def normalizeBoundedText (value fieldName : String) : Tx String := do
  let normalized := trim value
  rejectIf (normalized = "") (validationError (fieldName ++ " is required"))
  rejectIf (MAX_BOUNDED_TEXT_LENGTH < utf16Length normalized)
    (validationError (fieldName ++ " is too long"))
  pure normalized

def redeemRequestText (actor : AuthContext) (cardSerialNumber posReceiptNumber : String)
    (dto : RedeemTransactionDto) : String :=
  Json.stableStringify <|
    .object [("tenantId", .string actor.tenantId), ("actorId", .string actor.id),
    ("cardSerialNumber", .string cardSerialNumber), ("posReceiptNumber", .string posReceiptNumber),
    ("basketAmountKobo", .number dto.basketAmountKobo),
    ("requestedRedemptionKobo", .number dto.requestedRedemptionKobo),
    ("occurredAt", .string (Calendar.toISOString dto.occurredAt)),
    ("deviceId", (actor.deviceId.map Json.string).getD .null)]

def redeemRequest (rt : Runtime) (actor : AuthContext) (idempotencyKey : Option String)
    (dto : RedeemTransactionDto) : Tx RedeemRequest := do
  let normalizedKey ← normalizeBoundedText (idempotencyKey.getD "") "Idempotency-Key header"
  let posReceiptNumber ← normalizeBoundedText dto.posReceiptNumber "posReceiptNumber"
  let normalizedPosReceiptNumber := normalizeReceiptIdentity rt posReceiptNumber
  let cardSerialNumber ← normalizeCardSerial rt dto.cardSerialNumber
  pure
    { actor, idempotencyKey := normalizedKey, cardSerialNumber
      posReceiptNumber, normalizedPosReceiptNumber, basketAmountKobo := dto.basketAmountKobo
      requestedRedemptionKobo := dto.requestedRedemptionKobo, occurredAt := dto.occurredAt
      requestHash :=
        sha256 (redeemRequestText actor cardSerialNumber normalizedPosReceiptNumber dto) }

/-- What the part before the transaction hands to it. -/
structure RedeemAdmission where
  sessionDeviceId : String
  requestedAmountKobo : PositiveKobo
  basketAmountKobo : PositiveKobo

def toSafePositiveBigInt (value : Int) (fieldName : String) : Tx PositiveKobo := do
  let exception := validationError (fieldName ++ " must be a positive safe integer")
  rejectIf (¬ isSafeInteger value) exception
  orFault (PositiveKobo.of? value) exception

def assertRedemptionTimestampAllowed (occurredAt now : Int) : Tx Unit :=
  rejectIf (MAX_POS_FUTURE_SKEW_MS < occurredAt - now ∨ occurredAt - now < -MAX_POS_PAST_SKEW_MS)
    (.http 422 "OFFLINE_REDEMPTION_NOT_ALLOWED"
      "Redemption occurredAt is outside the allowed clock skew")

def redeemInProgress : Fault :=
  .http 409 "IDEMPOTENCY_IN_PROGRESS" "Idempotency key is still being processed"

def sessionDeviceRequired : Fault :=
  .http 400 "SESSION_DEVICE_REQUIRED" "Session device is required"

/-- What comes before the lookup of the key: the expired record under it is dropped. -/
def startRedeem (rt : Runtime) (actor : AuthContext) (idempotencyKey : Option String)
    (dto : RedeemTransactionDto) (receivedAt : Int) : Tx RedeemRequest := do
  let req ← redeemRequest rt actor idempotencyKey dto
  rejectIf actor.deviceId.isNone sessionDeviceRequired
  cleanupExpiredIdempotencyRecords req.key receivedAt
  pure req

def lookUpRedeem (req : RedeemRequest) : Tx Precheck := do
  let db ← get
  precheckRecord (db.idempotency req.key) req.requestHash redeemInProgress

/-- The checks between the lookup of the key and the transaction. -/
def admitRedeem (req : RedeemRequest) (receivedAt : Int) : Tx RedeemAdmission := do
  let sessionDeviceId ← orFault req.actor.deviceId sessionDeviceRequired
  let requestedAmountKobo ← toSafePositiveBigInt req.requestedRedemptionKobo
    "requestedRedemptionKobo"
  let basketAmountKobo ← toSafePositiveBigInt req.basketAmountKobo "basketAmountKobo"
  assertRedemptionTimestampAllowed req.occurredAt receivedAt
  pure { sessionDeviceId, requestedAmountKobo, basketAmountKobo }

structure RedeemContext where
  device : Device
  branch : Branch
  card : Card
  customer : Customer
  branchId : String
  receiptWeekStart : Int

def redeemContext (rt : Runtime) (req : RedeemRequest) (adm : RedeemAdmission) :
    Tx RedeemContext := do
  let db ← get
  let (device, branch) ← findTransactionDevice db req.actor adm.sessionDeviceId
  let (card, customer) ← findTransactionCard rt db req.actor.tenantId req.cardSerialNumber
  let receiptWeekStart ← deriveReceiptWeekStart rt validationError req.occurredAt branch.timezone
    branch.receiptWeekStartDay
  pure { device, branch, card, customer, branchId := req.actor.branchId.getD device.branchId
         receiptWeekStart }

def assertRedemptionPolicyAllowsRequest (requestedAmountKobo : Int)
    (policy : RedemptionPolicyResult) : Tx Unit := do
  rejectIf (requestedAmountKobo < policy.minimumRedemptionKobo)
    (.http 422 "MINIMUM_REDEMPTION_NOT_MET" "Requested redemption is below the minimum amount")
  rejectIf (policy.maximumAllowedKobo ≤ 0)
    (.http 422 "REDEMPTION_NOT_ALLOWED" "No redemption amount is currently allowed")
  rejectIf (policy.basketCapKobo < requestedAmountKobo)
    (.http 422 "REDEMPTION_BASKET_CAP_EXCEEDED" "Requested redemption exceeds the basket cap")
  rejectIf (policy.maximumAllowedKobo < requestedAmountKobo)
    (.http 422 "INSUFFICIENT_BALANCE" "Active balance is lower than requested redemption amount")

/-- What the branch's policy, or the environment's, says about a request. -/
structure RedeemAssessment where
  policy : RedemptionPolicyResult
  earnCaptureStatus : ReceiptCaptureStatus
  earnRateBps : Int
  settlementPolicyVersion : String

def assessRedeem (rt : Runtime) (adm : RedeemAdmission)
    (configuredPolicy : Option PolicyConfiguration) (activeBalanceKobo : Int) :
    RedeemAssessment :=
  let earnPolicy := configuredPolicy.map (·.earnPolicy)
  let policy := RedemptionPolicyService.evaluate rt
    ⟨adm.requestedAmountKobo, adm.basketAmountKobo, activeBalanceKobo⟩
    (configuredPolicy.map (·.redemptionPolicy))
  { policy
    earnCaptureStatus := resolveEarnCaptureStatus adm.basketAmountKobo rt earnPolicy
    earnRateBps := resolveEarnRateBps rt earnPolicy
    settlementPolicyVersion := buildSettlementPolicyVersion policy.policyVersion
      (getEarnApprovalPolicyVersion rt earnPolicy) }

def RedeemAssessment.requiresApproval (a : RedeemAssessment) : Bool :=
  a.policy.requiresApproval || a.earnCaptureStatus = .PENDING_APPROVAL

def RedeemAssessment.approvalReasonCode (a : RedeemAssessment) : String :=
  if a.policy.requiresApproval then "REDEMPTION_ABOVE_APPROVAL_THRESHOLD"
  else "PURCHASE_ABOVE_APPROVAL_THRESHOLD"

def redeemReceipt (req : RedeemRequest) (adm : RedeemAdmission) (ctx : RedeemContext)
    (a : RedeemAssessment) (now : Int) : Receipt :=
  let pending := a.requiresApproval
  { tenantId := req.actor.tenantId, branchId := ctx.branchId, customerId := ctx.card.customerId
    cardId := ctx.card.id, deviceId := some adm.sessionDeviceId
    posReceiptNumber := req.posReceiptNumber
    normalizedPosReceiptNumber := req.normalizedPosReceiptNumber
    receiptWeekStart := ctx.receiptWeekStart, purchaseAmountKobo := adm.basketAmountKobo
    occurredAt := req.occurredAt, capturedBy := req.actor.staff, capturedAt := now
    captureStatus := if pending then .PENDING_APPROVAL else a.earnCaptureStatus
    reviewStatus := if pending then .PENDING else .APPROVED
    approvalReasonCode := if pending then some a.approvalReasonCode else none
    reviewedBy := if pending then none else some req.actor.staff
    reviewedAt := if pending then none else some now
    approvedBy := if pending then none else some req.actor.staff
    approvedAt := if pending then none else some now }

def redeemRedemption (req : RedeemRequest) (adm : RedeemAdmission) (ctx : RedeemContext)
    (a : RedeemAssessment) (receiptId : Nat) (now : Int) : Redemption where
  tenantId := req.actor.tenantId
  branchId := ctx.branchId
  customerId := ctx.card.customerId
  cardId := ctx.card.id
  deviceId := adm.sessionDeviceId
  receiptId := receiptId
  requestedBy := req.actor.staff
  requestedAmountKobo := adm.requestedAmountKobo
  basketAmountKobo := adm.basketAmountKobo
  maximumAllowedKobo := a.policy.maximumAllowedKobo
  confirmedAmountKobo := none
  status := .PENDING_APPROVAL
  policyVersion := a.policy.policyVersion
  ledgerEntryId := none
  requestedAt := now
  confirmedAt := none
  rejectedAt := none
  reversedAt := none

def redeemApproval (req : RedeemRequest) (a : RedeemAssessment) (redemptionId : Nat)
    (requestedAt now : Int) : Approval where
  tenantId := req.actor.tenantId
  target := .REDEEM redemptionId
  status := .PENDING
  requestedBy := req.actor.staff
  reasonCode := some a.approvalReasonCode
  policyVersion := a.settlementPolicyVersion
  requestedAt := requestedAt
  expiresAt := now + APPROVAL_EXPIRY_MS
  decisionBy := none
  decisionReason := none
  decidedAt := none
  executedAt := none

/-- `buildRedeemResponse` before anything is settled. -/
def buildRedeemResponse (req : RedeemRequest) (adm : RedeemAdmission) (ctx : RedeemContext)
    (a : RedeemAssessment) (receiptId redemptionId : Nat) (state : CaptureState)
    (now : Int) : RedeemTransactionResponse where
  transactionId := none
  redemptionId := redemptionId
  receiptId := receiptId
  approvalId := none
  state := state
  tenantId := req.actor.tenantId
  branchId := ctx.branchId
  deviceId := adm.sessionDeviceId
  customerId := ctx.card.customerId
  cardSerialNumber := ctx.card.barcodeValue
  posReceiptNumber := req.posReceiptNumber
  basketAmountKobo := adm.basketAmountKobo
  requestedRedemptionKobo := adm.requestedAmountKobo
  redeemedAmountKobo := none
  netPaidAmountKobo := none
  earnedKobo := none
  earnTransactionId := none
  maximumAllowedKobo := a.policy.maximumAllowedKobo
  remainingBalanceKobo := none
  allocations := []
  smsStatus := none
  occurredAt := req.occurredAt
  requestedAt := now
  policyVersion := a.settlementPolicyVersion

/-- `persistCompletedIdempotencyResponse`. -/
def persistCompletedIdempotencyResponse (req : RedeemRequest)
    (response : RedeemTransactionResponse) (now : Int) : Tx Unit :=
  insertIdempotencyRecord req.key
    { requestHash := req.requestHash, responseJson := some (.redeem response), status := .COMPLETED
      expiresAt := now + IDP_EXPIRY_MS }

/-- The rest of the transaction for a redemption that waits for approval. -/
def requestApproval (rt : Runtime) (req : RedeemRequest) (adm : RedeemAdmission)
    (ctx : RedeemContext) (a : RedeemAssessment) (receiptId redemptionId : Nat) (now : Int) :
    Tx RedeemTransactionResponse := do
  let db ← get
  let approvalId ← insertApproval (redeemApproval req a redemptionId
    (rt.insertedAt .approvals db.approvals.length) now)
  insertOutboxEvent
    { tenantId := req.actor.tenantId, aggregateType := "redemption"
      aggregateId := rt.uuid .redemptions redemptionId, eventType := "fraud.evaluate"
      payload := .object [("redemptionId", .string (rt.uuid .redemptions redemptionId)),
        ("approvalId", .string (rt.uuid .approvals approvalId)),
        ("tenantId", .string req.actor.tenantId), ("branchId", .string ctx.branchId),
        ("cashierId", .string req.actor.id), ("customerId", .string ctx.card.customerId),
        ("occurredAt", .string (Calendar.toISOString now))] }
  let response : RedeemTransactionResponse :=
    { buildRedeemResponse req adm ctx a receiptId redemptionId .PENDING_APPROVAL now with
      approvalId := some approvalId }
  persistCompletedIdempotencyResponse req response now
  recordAudit
    { tenantId := req.actor.tenantId, actorId := some req.actor.id
      action := "redemption.approval_required", entityType := "redemption"
      entityId := rt.uuid .redemptions redemptionId
      metadata := .object [("approvalId", .string (rt.uuid .approvals approvalId))] }
  pure response

/-- What a redemption settled at once settles. -/
def requestedSettlement (req : RedeemRequest) (adm : RedeemAdmission) (ctx : RedeemContext)
    (a : RedeemAssessment) (receiptId redemptionId : Nat) (now : Int) :
    RedemptionSettlementInput where
  tenantId := req.actor.tenantId
  customerId := ctx.card.customerId
  receiptId := receiptId
  redemptionId := redemptionId
  basketAmountKobo := adm.basketAmountKobo
  redeemedAmountKobo := adm.requestedAmountKobo
  occurredAt := req.occurredAt
  now := now
  actor := req.actor.staff
  correlationId := .request req.requestHash
  phoneE164 := ctx.customer.phoneE164
  earnRateBps := a.earnRateBps

/-- The rest of the transaction for a redemption settled at once. -/
def settleRequest (rt : Runtime) (req : RedeemRequest) (adm : RedeemAdmission)
    (ctx : RedeemContext) (a : RedeemAssessment) (receiptId redemptionId : Nat) (now : Int) :
    Tx RedeemTransactionResponse := do
  let settlement ← executeRedemptionSettlement rt
    (requestedSettlement req adm ctx a receiptId redemptionId now)
  insertOutboxEvent
    { tenantId := req.actor.tenantId, aggregateType := "redemption"
      aggregateId := rt.uuid .redemptions redemptionId, eventType := "fraud.evaluate"
      payload := .object [("redemptionId", .string (rt.uuid .redemptions redemptionId))] }
  let response : RedeemTransactionResponse :=
    { buildRedeemResponse req adm ctx a receiptId redemptionId .CONFIRMED now with
      transactionId := some settlement.redemptionLedgerEntryId
      redeemedAmountKobo := some adm.requestedAmountKobo
      netPaidAmountKobo := some settlement.netPaidAmountKobo
      earnedKobo := some settlement.earnedKobo
      earnTransactionId := settlement.earnLedgerEntryId
      remainingBalanceKobo := some settlement.remainingBalanceKobo
      allocations := settlement.allocations
      smsStatus := some settlement.smsStatus }
  persistCompletedIdempotencyResponse req response now
  recordAudit
    { tenantId := req.actor.tenantId, actorId := some req.actor.id, action := "redemption.confirmed"
      entityType := "redemption", entityId := rt.uuid .redemptions redemptionId
      metadata := .object [("transactionId",
        .string (rt.uuid .ledger settlement.redemptionLedgerEntryId))] }
  pure response

/-- The callback of `redeem`'s transaction, in one attempt. -/
def redeemTransaction (rt : Runtime) (req : RedeemRequest) (adm : RedeemAdmission)
    (now : Int) : Tx RedeemTransactionResponse := do
  let ctx ← redeemContext rt req adm
  let db ← get
  rejectIf (findReceipt db req.actor.tenantId ctx.branchId ctx.receiptWeekStart
    req.normalizedPosReceiptNumber).isSome receiptAlreadyUsed
  let configuredPolicy := db.registry.policies req.actor.tenantId ctx.branchId
  let activeBalanceKobo := ActiveBalanceService.getActiveBalanceKobo db req.actor.tenantId
    ctx.card.customerId now
  rejectIf (purchaseCeilingKobo rt (configuredPolicy.map (·.earnPolicy)) < adm.basketAmountKobo)
    (.http 400 "PURCHASE_AMOUNT_LIMIT_EXCEEDED" "Purchase amount exceeds the allowed maximum")
  let a := assessRedeem rt adm configuredPolicy activeBalanceKobo
  assertRedemptionPolicyAllowsRequest adm.requestedAmountKobo a.policy
  let receiptId ← insertReceipt (redeemReceipt req adm ctx a now)
  let redemptionId ← insertRedemption (redeemRedemption req adm ctx a receiptId now)
  recordAudit
    { tenantId := req.actor.tenantId, actorId := some req.actor.id, action := "redemption.requested"
      entityType := "redemption", entityId := rt.uuid .redemptions redemptionId
      metadata := .object [("requestedAmountKobo", .number adm.requestedAmountKobo),
        ("basketAmountKobo", .number adm.basketAmountKobo),
        ("maximumAllowedKobo", .number a.policy.maximumAllowedKobo),
        ("policyVersion", .string a.policy.policyVersion)] }
  if a.requiresApproval then
    requestApproval rt req adm ctx a receiptId redemptionId now
  else
    settleRequest rt req adm ctx a receiptId redemptionId now

end RedemptionsService

end ShopcityLoyalty
