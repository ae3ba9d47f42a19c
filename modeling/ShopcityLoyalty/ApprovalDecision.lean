import ShopcityLoyalty.ApprovalExpiry
import ShopcityLoyalty.Earn
import ShopcityLoyalty.Settlement

/-!
Deciding an approval: `LoyaltyService.decideApproval` with its two branches, the EARN one
and `decideRedemptionApproval`.

The decision commits in one transaction. The idempotency record is created PENDING inside
it and completed by an update of its own afterwards.
-/

namespace ShopcityLoyalty

open Txn Database

def LEGACY_APPROVAL_POLICY_VERSION : String := "legacy"

inductive Decision | APPROVED | REJECTED
  deriving DecidableEq

def Decision.text : Decision → String
  | APPROVED => "APPROVED"
  | REJECTED => "REJECTED"

/-- A request with its texts normalized and its hash taken. -/
structure DecisionRequest where
  actor : AuthContext
  idempotencyKey : String
  approvalId : Nat
  decision : Decision
  reason : String
  requestHash : Digest

def DecisionRequest.key (req : DecisionRequest) : IdempotencyKey :=
  ⟨req.actor.tenantId, req.actor.id, .approvalDecision, req.idempotencyKey⟩

/-- What the transaction returns: a decision, or that the approval had expired. -/
inductive DecisionResult
  | decided (response : ApprovalDecisionResponse)
  | expired
  deriving DecidableEq

namespace LoyaltyService

def decisionRequestText (rt : Runtime) (actor : AuthContext) (approvalId : Nat)
    (decision : Decision) (reason : String) : String :=
  Json.stableStringify <|
    .object [("tenantId", .string actor.tenantId), ("actorId", .string actor.id),
    ("approvalId", .string (rt.uuid .approvals approvalId)), ("decision", .string decision.text),
    ("reason", .string reason)]

def decisionRequest (rt : Runtime) (actor : AuthContext) (approvalId : Nat) (decision : Decision)
    (reason : String) (idempotencyKey : Option String) : Tx DecisionRequest := do
  let normalizedReason := trim reason
  let normalizedKey ← normalizeIdempotencyKey idempotencyKey
  pure
    { actor, idempotencyKey := normalizedKey, approvalId, decision
      reason := normalizedReason
      requestHash := sha256 (decisionRequestText rt actor approvalId decision normalizedReason) }

/-- `findApprovalIdempotency` and what `decideApproval` makes of it: a record with a
response and the same hash is replayed, and any other record is a conflict. -/
def decisionPrecheck (req : DecisionRequest) (receivedAt : Int) : Tx Precheck := do
  cleanupExpiredIdempotencyRecords req.key receivedAt
  let db ← get
  match db.idempotency req.key with
  | none => do
      rejectIf (req.reason = "") (badRequest "Decision reason is required")
      pure .proceed
  | some r =>
      match if r.requestHash = req.requestHash then r.responseJson else none with
      | some response => pure (.replay response)
      | none => fault idempotencyConflict

/-- The branch a decision is limited to: none for an administrator. -/
def requireBranchScope (actor : AuthContext) : Tx (Option String) :=
  if actor.role = .ADMIN then pure none
  else match actor.branchId with
    | some b => pure (some b)
    | none => fault (.http 403 "BRANCH_SCOPE_REQUIRED" "Branch scope is required")

/-- The receipt an approval is about, directly or through its redemption. -/
def approvalReceipt (db : Database) : ApprovalTarget → Option Receipt
  | .EARN receiptId => db.receipts[receiptId]?
  | .REDEEM redemptionId => db.redemptions[redemptionId]?.bind fun r => db.receipts[r.receiptId]?

def approvalNotFound : Fault := .http 404 "APPROVAL_NOT_FOUND" "Approval not found"

/-- The approval in the actor's scope, asked for by somebody else and still pending. -/
def findPendingApproval (req : DecisionRequest) : Tx Approval := do
  let scope ← requireBranchScope req.actor
  let db ← get
  let approval ← orFault (db.approvals[req.approvalId]?.filter fun a =>
    a.tenantId = req.actor.tenantId) approvalNotFound
  rejectIf (∃ b ∈ scope, ¬ ∃ r ∈ approvalReceipt db approval.target, r.branchId = b)
    approvalNotFound
  rejectIf (approval.requestedBy = req.actor.staff)
    (.http 400 "APPROVAL_SELF_DECISION_FORBIDDEN" "Requester cannot decide own approval")
  rejectIf (approval.status ≠ .PENDING) approvalAlreadyDecided
  pure approval

/-- The row becomes `status`, decided by the actor now. -/
def decided (req : DecisionRequest) (status : ApprovalStatus) (now : Int) (a : Approval) :
    Approval :=
  { a with status, decidedAt := some now, decisionBy := some req.actor.staff
           decisionReason := some req.reason }

/-- What a decided row becomes once everything is written. -/
def executed (now : Int) (a : Approval) : Approval :=
  { a with status := .EXECUTED, executedAt := some now }

/-- `approval.updateMany` from one status to the next. -/
def moveApproval (approvalId : Nat) (tenantId : String) (from_ : ApprovalStatus) (failed : Fault)
    (f : Approval → Approval) : Tx Unit := do
  let db ← get
  requireRow db.approvals approvalId (fun a => a.tenantId = tenantId ∧ a.status = from_) failed
  modifyApproval approvalId f

def reviewed (req : DecisionRequest) (status : ReceiptReviewStatus) (now : Int)
    (r : Receipt) : Receipt :=
  { r with
    reviewStatus := status, reviewedAt := some now, reviewedBy := some req.actor.staff
    approvedAt := if status = .APPROVED then some now else none
    approvedBy := if status = .APPROVED then some req.actor.staff else none }

def decisionAudit (rt : Runtime) (req : DecisionRequest) (action : String) : AuditLog where
  tenantId := req.actor.tenantId
  actorId := some req.actor.id
  action := action
  entityType := "approval"
  entityId := rt.uuid .approvals req.approvalId
  metadata := .object [("decision", .string req.decision.text), ("reason", .string req.reason)]

def executionFailed : Fault :=
  .http 409 "APPROVAL_EXECUTION_FAILED" "Approval execution did not complete"

def decisionResponse (req : DecisionRequest) (status : ApprovalStatus) (receiptId : Nat)
    (now : Int) : ApprovalDecisionResponse where
  id := req.approvalId
  status := status
  receiptId := receiptId
  redemptionId := none
  ledgerEntryId := none
  creditKobo := none
  redeemedAmountKobo := none
  netPaidAmountKobo := none
  earnedKobo := none
  earnTransactionId := none
  remainingBalanceKobo := none
  reason := some req.reason
  decidedAt := now
  executedAt := if status = .EXECUTED then some now else none

/-- Whether branch, device, card and customer of a captured row are still active. -/
def stillEligible (db : Database) (r : Receipt) : Prop :=
  (∃ b ∈ db.registry.branches r.branchId, b.tenantId = r.tenantId ∧ b.status = .ACTIVE) ∧
    (∃ deviceId ∈ r.deviceId, ∃ d ∈ db.registry.devices deviceId,
      d.tenantId = r.tenantId ∧ d.branchId = r.branchId ∧ d.status = .ACTIVE) ∧
    (∃ c ∈ db.registry.cards.find? (fun c => c.id = r.cardId && c.tenantId = r.tenantId),
      c.status = .ACTIVE) ∧
    ∃ c ∈ db.registry.customers r.customerId,
      c.tenantId = r.tenantId ∧ c.status = .ACTIVE ∧ c.isStaff = false

instance (db : Database) : DecidablePred (stillEligible db) := fun r => by
  unfold stillEligible; infer_instance

/-! ### Approvals of captured receipts -/

/-- `assertApprovalPolicyStillPermitsExecution`: the environment's policy is looked at,
whatever policy is configured for the branch. -/
def assertApprovalPolicyStillPermitsExecution (rt : Runtime) (purchaseAmountKobo : Int)
    (expectedPolicyVersion : String) (reasonCode : Option String) : Tx Unit := do
  rejectIf (purchaseCeilingKobo rt none < purchaseAmountKobo)
    (.http 422 "APPROVAL_POLICY_CHANGED"
      "Approval can no longer be executed under the current policy ceiling")
  rejectIf (expectedPolicyVersion ≠ LEGACY_APPROVAL_POLICY_VERSION ∧
      expectedPolicyVersion ≠ getEarnApprovalPolicyVersion rt none)
    (.http 422 "APPROVAL_POLICY_CHANGED" "Approval policy changed after the request was captured")
  rejectIf (reasonCode ≠ some LATE_RECEIPT_APPROVAL_REASON_CODE ∧
      resolveEarnCaptureStatus purchaseAmountKobo rt none ≠ .PENDING_APPROVAL)
    (.http 422 "APPROVAL_POLICY_CHANGED" "Approval is no longer required under the current policy")

def rejectEarnApproval (rt : Runtime) (req : DecisionRequest) (receiptId : Nat) (now : Int) :
    Tx DecisionResult := do
  moveApproval req.approvalId req.actor.tenantId .PENDING approvalAlreadyDecided
    (decided req .REJECTED now)
  modifyReceipt receiptId (reviewed req .REJECTED now)
  recordAudit (decisionAudit rt req "approval.reject")
  pure (.decided (decisionResponse req .REJECTED receiptId now))

/-- The checks an EARN approval must still pass. -/
def checkEarnApproval (rt : Runtime) (req : DecisionRequest) (approval : Approval)
    (receipt : Receipt) : Tx Unit := do
  rejectIf (receipt.captureStatus ≠ .PENDING_APPROVAL ∨ receipt.reviewStatus ≠ .PENDING)
    (.http 400 "RECEIPT_NOT_ELIGIBLE" "Receipt does not require review")
  rejectIf (receipt.capturedBy = req.actor.staff)
    (.http 400 "REVIEW_SELF_DECISION_FORBIDDEN" "Capturing cashier cannot review the same receipt")
  let db ← get
  rejectIf (¬ stillEligible db receipt)
    (.http 422 "RECEIPT_NO_LONGER_ELIGIBLE" "Receipt is no longer eligible")
  assertApprovalPolicyStillPermitsExecution rt receipt.purchaseAmountKobo approval.policyVersion
    approval.reasonCode

def approvedLedgerEntry (req : DecisionRequest) (receiptId : Nat) (receipt : Receipt)
    (amountKobo : PositiveKobo) : LoyaltyLedgerEntry where
  tenantId := req.actor.tenantId
  customerId := receipt.customerId
  receiptId := some receiptId
  type := .EARN
  direction := .CREDIT
  amountKobo := amountKobo
  correlationId := .approval req.approvalId
  reversesEntryId := none
  createdBy := req.actor.staff
  effectiveAt := receipt.occurredAt

/-- The credit of an approved receipt, at the environment's rate. -/
def executeEarnApproval (rt : Runtime) (req : DecisionRequest) (receiptId : Nat) (receipt : Receipt)
    (now : Int) : Tx DecisionResult := do
  moveApproval req.approvalId req.actor.tenantId .PENDING approvalAlreadyDecided
    (decided req .APPROVED now)
  let creditKobo := calculateEarnAmountKobo receipt.purchaseAmountKobo (resolveEarnRateBps rt none)
  let db ← get
  rejectIf (∃ e ∈ db.ledger, e.tenantId = req.actor.tenantId ∧ e.receiptId = some receiptId ∧
      e.type = .EARN)
    (.http 409 "LEDGER_ENTRY_ALREADY_EXISTS" "Ledger entry already exists")
  let amountKobo ← orFault (PositiveKobo.of? creditKobo)
    (.check "LoyaltyLedgerEntry_amountKobo_positive_check")
  let ledgerEntryId ← insertLedgerEntry (approvedLedgerEntry req receiptId receipt amountKobo)
  let _ ← insertCreditLot req.actor.tenantId receipt.customerId ledgerEntryId amountKobo
    receipt.occurredAt (addUtcMonthsClamped receipt.occurredAt 12)
  insertOutboxEvent
    { tenantId := req.actor.tenantId, aggregateType := "receipt"
      aggregateId := rt.uuid .receipts receiptId, eventType := "sms.send"
      payload := .object [("version", .number 1),
        ("receiptId", .string (rt.uuid .receipts receiptId)),
        ("transactionId", .string (rt.uuid .ledger ledgerEntryId)),
        ("customerId", .string receipt.customerId),
        ("phoneE164", ((db.registry.customers receipt.customerId).map fun c =>
          Json.string c.phoneE164).getD .null),
        ("template", .string "earn-confirmed"), ("creditKobo", .string (toString creditKobo))] }
  modifyReceipt receiptId (reviewed req .APPROVED now)
  moveApproval req.approvalId req.actor.tenantId .APPROVED executionFailed (executed now)
  recordAudit (decisionAudit rt req "approval.execute")
  pure (.decided
    { decisionResponse req .EXECUTED receiptId now with
      ledgerEntryId := some ledgerEntryId, creditKobo := some creditKobo })

def decideEarnApproval (rt : Runtime) (req : DecisionRequest) (approval : Approval)
    (receiptId : Nat) (now : Int) : Tx DecisionResult := do
  let db ← get
  let receipt ← orFault db.receipts[receiptId]?
    (.http 422 "UNSUPPORTED_APPROVAL_TARGET"
      "This approval target is not available through the earn approval workflow yet")
  if approval.expiresAt ≤ now then do
    expireApproval rt req.approvalId approval.tenantId approval.target none now none
      (some req.actor.staff)
    pure .expired
  else if req.decision = .REJECTED then
    rejectEarnApproval rt req receiptId now
  else do
    checkEarnApproval rt req approval receipt
    executeEarnApproval rt req receiptId receipt now

/-! ### Approvals of redemptions -/

/-- `assertRedemptionApprovalPolicyStillPermitsExecution`: a second evaluation, under the
environment's policy. -/
def assertRedemptionApprovalPolicyStillPermitsExecution (rt : Runtime)
    (input : RedemptionPolicyInput) (expectedPolicyVersion : String) : Tx Unit := do
  let currentPolicy := RedemptionPolicyService.evaluate rt input none
  rejectIf (expectedPolicyVersion ≠ currentPolicy.policyVersion)
    (.http 422 "APPROVAL_POLICY_CHANGED" "Approval policy changed after the request was captured")
  rejectIf (input.requestedAmountKobo < currentPolicy.minimumRedemptionKobo)
    (.http 422 "MINIMUM_REDEMPTION_NOT_MET" "Requested redemption is below the minimum amount")
  rejectIf (currentPolicy.maximumAllowedKobo < input.requestedAmountKobo)
    (.http 422 "INSUFFICIENT_BALANCE" "Active balance is lower than requested redemption amount")
  rejectIf (input.requestedAmountKobo ≤ currentPolicy.approvalThresholdKobo)
    (.http 422 "APPROVAL_POLICY_CHANGED"
      "Approval is no longer required under the current redemption policy")

def rejectedRedemption (now : Int) (r : Redemption) : Redemption :=
  { r with status := .REJECTED, rejectedAt := some now }

def rejectRedemptionApproval (rt : Runtime) (req : DecisionRequest) (redemptionId : Nat)
    (receiptId : Nat) (now : Int) : Tx DecisionResult := do
  moveApproval req.approvalId req.actor.tenantId .PENDING approvalAlreadyDecided
    (decided req .REJECTED now)
  modifyRedemption redemptionId (rejectedRedemption now)
  modifyReceipt receiptId (reviewed req .REJECTED now)
  recordAudit
    { decisionAudit rt req "redemption.rejected" with
      entityType := "redemption", entityId := rt.uuid .redemptions redemptionId }
  recordAudit (decisionAudit rt req "redemption.approval.reject")
  pure (.decided
    { decisionResponse req .REJECTED receiptId now with redemptionId := some redemptionId })

/-- The checks a REDEEM approval must still pass. -/
def checkRedemptionApproval (rt : Runtime) (req : DecisionRequest) (approval : Approval)
    (redemption : Redemption) (receipt : Receipt) (now : Int) : Tx Unit := do
  rejectIf (redemption.status ≠ .PENDING_APPROVAL ∨ receipt.captureStatus ≠ .PENDING_APPROVAL ∨
    receipt.reviewStatus ≠ .PENDING) approvalAlreadyDecided
  let db ← get
  rejectIf (¬ stillEligible db receipt)
    (.http 422 "REDEMPTION_NO_LONGER_ELIGIBLE" "Redemption is no longer eligible")
  let configuredPolicy := db.registry.policies req.actor.tenantId redemption.branchId
  let earnPolicy := configuredPolicy.map (·.earnPolicy)
  let input : RedemptionPolicyInput :=
    ⟨redemption.requestedAmountKobo, redemption.basketAmountKobo,
      ActiveBalanceService.getActiveBalanceKobo db req.actor.tenantId redemption.customerId now⟩
  let current := RedemptionPolicyService.evaluate rt input
    (configuredPolicy.map (·.redemptionPolicy))
  let currentSettlementPolicyVersion := buildSettlementPolicyVersion current.policyVersion
    (getEarnApprovalPolicyVersion rt earnPolicy)
  rejectIf (approval.policyVersion ≠
      if isSettlementPolicyVersion approval.policyVersion then currentSettlementPolicyVersion
      else current.policyVersion)
    (.http 422 "APPROVAL_POLICY_CHANGED" "Approval policy changed after the request was captured")
  rejectIf (purchaseCeilingKobo rt earnPolicy < redemption.basketAmountKobo)
    (.http 422 "APPROVAL_POLICY_CHANGED"
      "Approval can no longer be executed under the current policy ceiling")
  rejectIf (approval.reasonCode = some APPROVAL_REASON_CODE ∧
      resolveEarnCaptureStatus redemption.basketAmountKobo rt earnPolicy ≠ .PENDING_APPROVAL)
    (.http 422 "APPROVAL_POLICY_CHANGED"
      "Approval is no longer required under the current Earn policy")
  assertRedemptionApprovalPolicyStillPermitsExecution rt input redemption.policyVersion

/-- What an approved redemption settles. -/
def approvedSettlement (rt : Runtime) (db : Database) (req : DecisionRequest) (redemptionId : Nat)
    (redemption : Redemption) (receipt : Receipt) (now : Int) :
    RedemptionSettlementInput where
  tenantId := req.actor.tenantId
  customerId := redemption.customerId
  receiptId := redemption.receiptId
  redemptionId := redemptionId
  basketAmountKobo := redemption.basketAmountKobo
  redeemedAmountKobo := redemption.requestedAmountKobo
  occurredAt := receipt.occurredAt
  now := now
  actor := req.actor.staff
  correlationId := .redemptionApproval req.approvalId
  phoneE164 := ((db.registry.customers receipt.customerId).map (·.phoneE164)).getD ""
  earnRateBps := resolveEarnRateBps rt
    ((db.registry.policies req.actor.tenantId redemption.branchId).map (·.earnPolicy))

/-- The settlement of an approved redemption. -/
def executeRedemptionApproval (rt : Runtime) (req : DecisionRequest) (redemptionId : Nat)
    (redemption : Redemption) (receipt : Receipt) (now : Int) : Tx DecisionResult := do
  moveApproval req.approvalId req.actor.tenantId .PENDING approvalAlreadyDecided
    (decided req .APPROVED now)
  let db ← get
  let settlement ← executeRedemptionSettlement rt
    (approvedSettlement rt db req redemptionId redemption receipt now)
  modifyReceipt redemption.receiptId (reviewed req .APPROVED now)
  moveApproval req.approvalId req.actor.tenantId .APPROVED executionFailed (executed now)
  recordAudit (decisionAudit rt req "redemption.approval.execute")
  pure (.decided
    { decisionResponse req .EXECUTED redemption.receiptId now with
      redemptionId := some redemptionId
      ledgerEntryId := some settlement.redemptionLedgerEntryId
      redeemedAmountKobo := some redemption.requestedAmountKobo
      netPaidAmountKobo := some settlement.netPaidAmountKobo
      earnedKobo := some settlement.earnedKobo
      earnTransactionId := settlement.earnLedgerEntryId
      remainingBalanceKobo := some settlement.remainingBalanceKobo })

def decideRedemptionApproval (rt : Runtime) (req : DecisionRequest) (approval : Approval)
    (redemptionId : Nat) (now : Int) : Tx DecisionResult := do
  let db ← get
  let unsupported : Fault :=
    .http 422 "UNSUPPORTED_APPROVAL_TARGET" "Redemption approval target is invalid"
  let redemption ← orFault (db.redemptions[redemptionId]?.filter fun r =>
    r.tenantId = approval.tenantId) unsupported
  let receipt ← orFault db.receipts[redemption.receiptId]? unsupported
  if approval.expiresAt ≤ now then do
    expireApproval rt req.approvalId approval.tenantId approval.target (some redemption.receiptId)
      now none (some req.actor.staff)
    pure .expired
  else if req.decision = .REJECTED then
    rejectRedemptionApproval rt req redemptionId redemption.receiptId now
  else do
    checkRedemptionApproval rt req approval redemption receipt now
    executeRedemptionApproval rt req redemptionId redemption receipt now

/-! ### The transaction and the completion of its record -/

/-- The PENDING record a decision starts with. -/
def pendingDecisionRecord (req : DecisionRequest) (startedAt : Int) :
    IdempotencyRecord Response where
  requestHash := req.requestHash
  responseJson := none
  status := .PENDING
  expiresAt := startedAt + IDP_EXPIRY_MS

/-- The callback of `decideApproval`'s transaction. -/
def decideTransaction (rt : Runtime) (req : DecisionRequest) (startedAt now : Int) :
    Tx DecisionResult := do
  insertIdempotencyRecord req.key (pendingDecisionRecord req startedAt)
  let approval ← findPendingApproval req
  match approval.target with
  | .EARN receiptId => decideEarnApproval rt req approval receiptId now
  | .REDEEM redemptionId => decideRedemptionApproval rt req approval redemptionId now

/-- The update after the transaction: status and response, nothing else. -/
def completeDecision (key : IdempotencyKey) (response : ApprovalDecisionResponse) : Tx Unit := do
  let db ← get
  let r ← orFault (db.idempotency key) .missing
  updateIdempotencyRecord key
    { r with status := .COMPLETED, responseJson := some (.decision response) }

end LoyaltyService

end ShopcityLoyalty
