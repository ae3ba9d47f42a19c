import ShopcityLoyalty.Lib.Json
import ShopcityLoyalty.Lib.Sha256
import ShopcityLoyalty.Lib.Table
import ShopcityLoyalty.Lib.Calendar

/-!
The rows the financial operations read and write, after the Prisma schema.

What a CHECK constraint or an insert trigger demands of a single row is a field of the row
or a subtype, so that a row that breaks it cannot be built: amounts are positive, a credit
lot's remaining amount lies between zero and its original amount, a lot expires at the
instant derived from its earning, an approval has exactly one target. Money is in kobo,
instants are milliseconds UTC since 1970, and the id of a row is its position in its table.
-/

namespace ShopcityLoyalty

/-- An amount in kobo that a `> 0` constraint admits. -/
abbrev PositiveKobo := {k : Int // 0 < k}

def PositiveKobo.of? (k : Int) : Option PositiveKobo := if h : 0 < k then some ⟨k, h⟩ else none

@[simp] lemma PositiveKobo.of?_eq_some {k : Int} {a : PositiveKobo} :
    PositiveKobo.of? k = some a ↔ k = a := by
  obtain ⟨a, ha⟩ := a
  unfold of?
  split
  · simp
  · simp only [reduceCtorEq, false_iff]
    rintro rfl
    contradiction

/-- The characters `String.prototype.trim` removes. -/
def isWhiteSpace (c : Char) : Bool :=
  (0x9 ≤ c.toNat && c.toNat ≤ 0xd) || c.toNat = 0x20 || c.toNat = 0xa0 || c.toNat = 0x1680 ||
    (0x2000 ≤ c.toNat && c.toNat ≤ 0x200a) || c.toNat = 0x2028 || c.toNat = 0x2029 ||
    c.toNat = 0x202f || c.toNat = 0x205f || c.toNat = 0x3000 || c.toNat = 0xfeff

/-- `String.prototype.trim`. -/
def trim (s : String) : String :=
  String.ofList ((s.toList.dropWhile isWhiteSpace).reverse.dropWhile isWhiteSpace).reverse

/-- The `length` of a text: its UTF-16 code units. -/
def utf16Length (s : String) : Nat :=
  (s.toList.map fun c => if 0x10000 ≤ c.toNat then 2 else 1).sum

/-- The tables that hold such rows. -/
inductive TableName
  | ledger | lots | expiries | allocations | restorations | adjustments
  | receipts | redemptions | approvals | outbox | cards
  deriving DecidableEq

/-- Staff are named by tenant and user id. -/
structure StaffRef where
  tenantId : String
  id : String
  deriving DecidableEq

/-! ### Staff, branches, devices, cards, customers and policies -/

inductive UserRole | CASHIER | SUPERVISOR | ADMIN | SYSTEM
  deriving DecidableEq

inductive BranchStatus | ACTIVE | INACTIVE
  deriving DecidableEq

inductive DeviceStatus | ACTIVE | INACTIVE
  deriving DecidableEq

inductive CardStatus | ACTIVE | BLOCKED | REPLACED
  deriving DecidableEq

inductive CustomerStatus | ACTIVE | BLOCKED
  deriving DecidableEq

/-- The signed-in user and the device of the session. -/
structure AuthContext where
  id : String
  tenantId : String
  branchId : Option String
  role : UserRole
  deviceId : Option String
  deriving DecidableEq

def AuthContext.staff (actor : AuthContext) : StaffRef := ⟨actor.tenantId, actor.id⟩

structure Branch where
  tenantId : String
  timezone : String
  receiptWeekStartDay : Int
  status : BranchStatus
  deriving DecidableEq

structure Device where
  tenantId : String
  branchId : String
  status : DeviceStatus
  deriving DecidableEq

structure Card where
  id : String
  tenantId : String
  customerId : String
  barcodeValue : String
  status : CardStatus
  deriving DecidableEq

structure Customer where
  tenantId : String
  branchId : String
  phoneE164 : String
  isStaff : Bool
  status : CustomerStatus
  deriving DecidableEq

/-- A branch's configured policy; the bounds are those its update validates. -/
structure PolicyConfiguration where
  version : Int
  defaultEarnRateBps : Int
  minRedemptionKobo : Int
  maxRedemptionBasketPercent : Int
  purchaseFlagThresholdKobo : Int
  purchaseApprovalThresholdKobo : Int
  purchaseAmountCeilingKobo : Int
  redemptionApprovalThresholdKobo : Int
  rate_bounds : 0 ≤ defaultEarnRateBps ∧ defaultEarnRateBps ≤ 10000
  percent_bounds : 1 ≤ maxRedemptionBasketPercent ∧ maxRedemptionBasketPercent ≤ 100
  min_pos : 1 ≤ minRedemptionKobo
  deriving DecidableEq

/-- What the financial operations read and never write. -/
structure Registry where
  branches : String → Option Branch
  devices : String → Option Device
  cards : List Card
  customers : String → Option Customer
  /-- The policy configured for a tenant's branch. -/
  policies : String → String → Option PolicyConfiguration

/-! ### Ledger, lots and their evidence -/

inductive LedgerEntryType | EARN | REDEEM | REVERSAL | ADJUSTMENT | EXPIRY
  deriving DecidableEq, Repr

inductive LedgerEntryDirection | CREDIT | DEBIT
  deriving DecidableEq, Repr

/-- The texts a ledger entry's unique correlation id takes. -/
inductive CorrelationId
  | request (requestHash : Digest)
  | approval (approvalId : Nat)
  | redemptionApproval (approvalId : Nat)
  | creditExpiry (creditLotId : Nat)
  /-- `${correlationId}:earn`. -/
  | earn (of : CorrelationId)
  /-- `${correlationGroup}:earn-reversal`. -/
  | earnReversal (correlationGroup : Digest)
  /-- `${correlationGroup}:redeem-reversal`. -/
  | redeemReversal (correlationGroup : Digest)
  deriving DecidableEq

structure LoyaltyLedgerEntry where
  tenantId : String
  customerId : String
  receiptId : Option Nat
  type : LedgerEntryType
  direction : LedgerEntryDirection
  amountKobo : PositiveKobo
  correlationId : CorrelationId
  reversesEntryId : Option Nat
  createdBy : StaffRef
  effectiveAt : Int
  deriving DecidableEq

/-- The expiry the database derives from a lot's earning: twelve months later, in the last
day of the month where the month is too short. -/
def derive_credit_lot_expires_at (earned_at : Int) : Option Int :=
  let (date, ms) := Calendar.split earned_at
  -- the year before AD 1 is extracted as -1, and `make_date` has no year 0 to follow it
  if date.year = 0 then none
  else
    let target_year := date.year + 1
    let target_day := min date.day (Calendar.daysInMonth target_year date.month)
    some (Calendar.join ⟨target_year, date.month, target_day⟩ ms)

structure CreditLot where
  tenantId : String
  customerId : String
  earnLedgerEntryId : Nat
  originalAmountKobo : PositiveKobo
  remainingAmountKobo : Int
  earnedAt : Int
  expiresAt : Int
  remaining_nonneg : 0 ≤ remainingAmountKobo
  remaining_le : remainingAmountKobo ≤ originalAmountKobo
  lifecycle : derive_credit_lot_expires_at earnedAt = some expiresAt
  deriving DecidableEq

/-- A lot with another remaining amount; the CHECKs refuse one out of range. -/
def CreditLot.withRemaining? (l : CreditLot) (k : Int) : Option CreditLot :=
  if h : 0 ≤ k ∧ k ≤ l.originalAmountKobo then
    some { l with remainingAmountKobo := k, remaining_nonneg := h.1, remaining_le := h.2 }
  else none

structure CreditExpiry where
  tenantId : String
  customerId : String
  creditLotId : Nat
  ledgerEntryId : Nat
  amountKobo : PositiveKobo
  expiredAt : Int
  deriving DecidableEq

/-- An allocation serves a redemption or an adjustment, never both. -/
inductive DebitTarget
  | redemption (redemptionId : Nat)
  | adjustment (adjustmentId : Nat)
  deriving DecidableEq

structure RedemptionAllocation where
  tenantId : String
  target : DebitTarget
  redemptionLedgerEntryId : Nat
  creditLotId : Nat
  amountKobo : PositiveKobo
  allocationOrder : Nat
  deriving DecidableEq

structure AllocationRestoration where
  tenantId : String
  allocationId : Nat
  reversalLedgerEntryId : Nat
  amountKobo : PositiveKobo
  deriving DecidableEq

structure Adjustment where
  tenantId : String
  customerId : String
  kind : LedgerEntryDirection
  amountKobo : PositiveKobo
  reason : String
  createdBy : StaffRef
  ledgerEntryId : Nat
  effectiveAt : Int
  deriving DecidableEq

/-! ### Receipts, redemptions and approvals -/

inductive ReceiptCaptureStatus | CAPTURED | FLAGGED | PENDING_APPROVAL
  deriving DecidableEq, Repr

inductive ReceiptReviewStatus | PENDING | APPROVED | REJECTED
  deriving DecidableEq, Repr

inductive RedemptionStatus | PENDING_APPROVAL | CONFIRMED | REJECTED | EXPIRED | REVERSED
  deriving DecidableEq, Repr

inductive ApprovalStatus | PENDING | APPROVED | EXECUTED | REJECTED | EXPIRED
  deriving DecidableEq, Repr

structure Receipt where
  tenantId : String
  branchId : String
  customerId : String
  cardId : String
  deviceId : Option String
  posReceiptNumber : String
  normalizedPosReceiptNumber : String
  receiptWeekStart : Int
  purchaseAmountKobo : PositiveKobo
  occurredAt : Int
  capturedBy : StaffRef
  capturedAt : Int
  captureStatus : ReceiptCaptureStatus
  reviewStatus : ReceiptReviewStatus
  approvalReasonCode : Option String
  reviewedBy : Option StaffRef
  reviewedAt : Option Int
  approvedBy : Option StaffRef
  approvedAt : Option Int
  deriving DecidableEq

structure Redemption where
  tenantId : String
  branchId : String
  customerId : String
  cardId : String
  deviceId : String
  receiptId : Nat
  requestedBy : StaffRef
  requestedAmountKobo : PositiveKobo
  basketAmountKobo : PositiveKobo
  maximumAllowedKobo : Int
  confirmedAmountKobo : Option Int
  status : RedemptionStatus
  policyVersion : String
  ledgerEntryId : Option Nat
  requestedAt : Int
  confirmedAt : Option Int
  rejectedAt : Option Int
  reversedAt : Option Int
  deriving DecidableEq

/-- An approval is about a captured receipt or about a redemption. -/
inductive ApprovalTarget
  | EARN (receiptId : Nat)
  | REDEEM (redemptionId : Nat)
  deriving DecidableEq

structure Approval where
  tenantId : String
  target : ApprovalTarget
  status : ApprovalStatus
  requestedBy : StaffRef
  reasonCode : Option String
  policyVersion : String
  requestedAt : Int
  expiresAt : Int
  decisionBy : Option StaffRef
  decisionReason : Option String
  decidedAt : Option Int
  executedAt : Option Int
  deriving DecidableEq

/-! ### Idempotency records, outbox and audit log -/

inductive IdempotencyRecordStatus | PENDING | COMPLETED
  deriving DecidableEq

inductive Endpoint
  | earn | redeem | approvalDecision | reverse | adjustment
  deriving DecidableEq

structure IdempotencyKey where
  tenantId : String
  actorId : String
  endpoint : Endpoint
  idempotencyKey : String
  deriving DecidableEq

/-- `Response` is what a completed request answered. -/
structure IdempotencyRecord (Response : Type) where
  requestHash : Digest
  responseJson : Option Response
  status : IdempotencyRecordStatus
  expiresAt : Int

structure OutboxEvent where
  tenantId : String
  aggregateType : String
  aggregateId : String
  eventType : String
  payload : Json

structure AuditLog where
  tenantId : String
  actorId : Option String
  action : String
  entityType : String
  entityId : String
  metadata : Json

end ShopcityLoyalty
