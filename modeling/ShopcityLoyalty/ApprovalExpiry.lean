import ShopcityLoyalty.Writes

/-!
Expiring an approval, shared by the worker's sweep and by a decision that comes too late.
-/

namespace ShopcityLoyalty

open Txn Database

def approvalAlreadyDecided : Fault :=
  .http 409 "APPROVAL_ALREADY_DECIDED" "Approval has already been decided"

/-- `updateMany` on one id under a condition: a count other than one is `fault`. -/
def requireRow {α : Type} (t : Table α) (i : Nat) (p : α → Prop) [DecidablePred p] (fault : Fault) :
    Tx Unit := do
  let r ← orFault t[i]? fault
  rejectIf (¬ p r) fault

/-- The approval becomes EXPIRED. -/
def expiredRow (now : Int) (actor : Option StaffRef) (a : Approval) : Approval :=
  { a with status := .EXPIRED, decidedAt := some now, decisionBy := actor
           decisionReason := some "approval expired" }

/-- Its receipt becomes REJECTED. -/
def rejectedRow (now : Int) (actor : Option StaffRef) (r : Receipt) : Receipt :=
  { r with reviewStatus := .REJECTED, reviewedAt := some now, reviewedBy := actor
           approvedAt := none, approvedBy := none }

/-- Its redemption becomes EXPIRED. -/
def expiredRedemptionRow (now : Int) (r : Redemption) : Redemption :=
  { r with status := .EXPIRED, rejectedAt := some now }

def expireApprovalRow (i : Nat) (tenantId : String) (now : Int) (actor : Option StaffRef) :
    Tx Unit := do
  let db ← get
  requireRow db.approvals i (fun a => a.tenantId = tenantId ∧ a.status = .PENDING)
    approvalAlreadyDecided
  modifyApproval i (expiredRow now actor)

def rejectExpiredReceipt (receiptId : Nat) (tenantId : String) (now : Int)
    (actor : Option StaffRef) : Tx Unit := do
  let db ← get
  requireRow db.receipts receiptId
    (fun r => r.tenantId = tenantId ∧ r.captureStatus = .PENDING_APPROVAL ∧
      r.reviewStatus = .PENDING) approvalAlreadyDecided
  modifyReceipt receiptId (rejectedRow now actor)

def expireRedemption (redemptionId : Nat) (tenantId : String) (now : Int) : Tx Unit := do
  let db ← get
  requireRow db.redemptions redemptionId
    (fun r => r.tenantId = tenantId ∧ r.status = .PENDING_APPROVAL) approvalAlreadyDecided
  modifyRedemption redemptionId (expiredRedemptionRow now)

/-- What becomes of the approval's receipt and redemption. -/
def expireTarget (tenantId : String) (target : ApprovalTarget) (redemptionReceiptId : Option Nat)
    (now : Int) (actor : Option StaffRef) : Tx Unit :=
  match target, redemptionReceiptId with
  | .EARN receiptId, _ => rejectExpiredReceipt receiptId tenantId now actor
  | .REDEEM redemptionId, some receiptId => do
      rejectExpiredReceipt receiptId tenantId now actor
      expireRedemption redemptionId tenantId now
  | .REDEEM redemptionId, none => expireRedemption redemptionId tenantId now

/-- `expireApproval` for the approval of an id, with what its record names: the receipt of
an EARN approval, or the redemption of a REDEEM approval and the redemption's receipt. -/
def expireApproval (rt : Runtime) (approvalId : Nat) (tenantId : String) (target : ApprovalTarget)
    (redemptionReceiptId : Option Nat) (now : Int) (actor : Option StaffRef)
    (detectedBy : Option StaffRef) : Tx Unit := do
  expireApprovalRow approvalId tenantId now actor
  expireTarget tenantId target redemptionReceiptId now actor
  recordAudit
    { tenantId, actorId := actor.map (·.id), action := "approval.expire", entityType := "approval"
      entityId := rt.uuid .approvals approvalId
      metadata := .object [("expiredAt", .string (Calendar.toISOString now)),
        ("detectedByTenantId", (detectedBy.map fun d => Json.string d.tenantId).getD .null),
        ("detectedBy", (detectedBy.map fun d => Json.string d.id).getD .null)] }

/-- The receipt of a REDEEM approval's redemption. -/
def redemptionReceiptId (db : Database) (tenantId : String) : ApprovalTarget → Option Nat
  | .EARN _ => none
  | .REDEEM redemptionId =>
      (db.redemptions[redemptionId]?.filter fun r => r.tenantId = tenantId).map (·.receiptId)

/-! ### The worker's sweep -/

/-- `ORDER BY a."expiresAt" ASC, a."requestedAt" ASC, a."id" ASC`. -/
def overdueLe (rt : Runtime) (a b : Nat × Approval) : Prop :=
  a.2.expiresAt < b.2.expiresAt ∨ (a.2.expiresAt = b.2.expiresAt ∧
    (a.2.requestedAt < b.2.requestedAt ∨ (a.2.requestedAt = b.2.requestedAt ∧
      rt.uuid .approvals a.1 ≤ rt.uuid .approvals b.1)))

instance (rt : Runtime) : DecidableRel (overdueLe rt) := fun _ _ =>
  inferInstanceAs (Decidable (_ ∨ _))

/-- The approvals one sweep locks; `skipped` are those another transaction has locked. -/
def lockOverdueApprovals (rt : Runtime) (db : Database) (now : Int) (batchSize : Nat)
    (skipped : List Nat) : List (Nat × Approval) :=
  (((db.approvals.select fun a => a.status = .PENDING && a.expiresAt ≤ now).filter
    fun a => a.1 ∉ skipped).insertionSort (overdueLe rt)).take batchSize

def expireOverdueApprovals (rt : Runtime) (now : Int) (batchSize : Nat) (skipped : List Nat) :
    Tx Nat := do
  let db ← get
  let overdue := lockOverdueApprovals rt db now batchSize skipped
  each (fun a => expireApproval rt a.1 a.2.tenantId a.2.target
    (redemptionReceiptId db a.2.tenantId a.2.target) now none
    (some ⟨a.2.tenantId, "approval-expiry-worker"⟩)) overdue
  pure overdue.length

end ShopcityLoyalty
