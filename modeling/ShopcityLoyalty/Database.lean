import ShopcityLoyalty.Schema
import ShopcityLoyalty.Lib.Txn

/-!
The database, what requests answer, what the process runs with, and how requests fail.
-/

namespace ShopcityLoyalty

/-! ### Responses -/

inductive SmsMessageStatus | QUEUED | SENT | DELIVERED | FAILED | SUPPRESSED
  deriving DecidableEq

/-- `CONFIRMED` or `PENDING_APPROVAL`. -/
inductive CaptureState | CONFIRMED | PENDING_APPROVAL
  deriving DecidableEq

structure EarnTransactionResponse where
  transactionId : Option Nat
  state : CaptureState
  receiptId : Nat
  approvalId : Option Nat
  tenantId : String
  branchId : String
  deviceId : String
  customerId : String
  cardSerialNumber : String
  posReceiptNumber : String
  purchaseAmountKobo : Int
  creditKobo : Option Int
  captureStatus : ReceiptCaptureStatus
  availableBalanceKobo : Option Int
  expiresAt : Option Int
  smsStatus : Option SmsMessageStatus
  occurredAt : Int
  capturedAt : Int
  reviewStatus : ReceiptReviewStatus
  reasonCode : Option String
  deriving DecidableEq

/-- A part of a debit drawn from one lot. -/
structure PersistedAllocation where
  creditLotId : Nat
  amountKobo : Int
  allocationOrder : Nat
  expiresAt : Int
  deriving DecidableEq

structure RedeemTransactionResponse where
  transactionId : Option Nat
  redemptionId : Nat
  receiptId : Nat
  approvalId : Option Nat
  state : CaptureState
  tenantId : String
  branchId : String
  deviceId : String
  customerId : String
  cardSerialNumber : String
  posReceiptNumber : String
  basketAmountKobo : Int
  requestedRedemptionKobo : Int
  redeemedAmountKobo : Option Int
  netPaidAmountKobo : Option Int
  earnedKobo : Option Int
  earnTransactionId : Option Nat
  maximumAllowedKobo : Int
  remainingBalanceKobo : Option Int
  allocations : List PersistedAllocation
  smsStatus : Option SmsMessageStatus
  occurredAt : Int
  requestedAt : Int
  policyVersion : String
  deriving DecidableEq

structure ApprovalDecisionResponse where
  id : Nat
  status : ApprovalStatus
  receiptId : Nat
  redemptionId : Option Nat
  ledgerEntryId : Option Nat
  creditKobo : Option Int
  redeemedAmountKobo : Option Int
  netPaidAmountKobo : Option Int
  earnedKobo : Option Int
  earnTransactionId : Option Nat
  remainingBalanceKobo : Option Int
  reason : Option String
  decidedAt : Int
  executedAt : Option Int
  deriving DecidableEq

/-- A part of a reversal put back into one lot. -/
structure RestoredAmount where
  allocationId : Nat
  creditLotId : Nat
  amountKobo : Int
  deriving DecidableEq

/-- What the reversal of a settlement pair answers besides the common fields. -/
structure GroupedReversal where
  receiptId : Nat
  originalRedemptionTransactionId : Nat
  originalEarnTransactionId : Nat
  redemptionReversalTransactionId : Nat
  earnReversalTransactionId : Nat
  earnRemovedAmountKobo : Int
  redeemedRestoredAmountKobo : Int
  deriving DecidableEq

structure ReversalResponse where
  grouped : Option GroupedReversal
  id : Nat
  transactionId : Nat
  originalTransactionId : Nat
  originalTransactionType : LedgerEntryType
  reversedAmountKobo : Int
  newActiveBalanceKobo : Int
  allocations : List PersistedAllocation
  restorations : List RestoredAmount
  smsStatus : Option SmsMessageStatus
  occurredAt : Int
  requestedAt : Int
  deriving DecidableEq

structure AdjustmentResponse where
  id : Nat
  transactionId : Nat
  adjustmentId : Nat
  customerId : String
  kind : LedgerEntryDirection
  amountKobo : Int
  newActiveBalanceKobo : Int
  allocations : List PersistedAllocation
  /-- The new lot and its expiry, for a credit. -/
  creditLot : Option (Nat × Int)
  smsStatus : Option SmsMessageStatus
  occurredAt : Int
  deriving DecidableEq

inductive Response
  | earn (r : EarnTransactionResponse)
  | redeem (r : RedeemTransactionResponse)
  | decision (r : ApprovalDecisionResponse)
  | reversal (r : ReversalResponse)
  | adjustment (r : AdjustmentResponse)
  deriving DecidableEq

/-! ### The database -/

structure Database where
  registry : Registry
  ledger : Table LoyaltyLedgerEntry
  lots : Table CreditLot
  expiries : Table CreditExpiry
  allocations : Table RedemptionAllocation
  restorations : Table AllocationRestoration
  adjustments : Table Adjustment
  receipts : Table Receipt
  redemptions : Table Redemption
  approvals : Table Approval
  outbox : Table OutboxEvent
  auditLog : Table AuditLog
  idempotency : IdempotencyKey → Option (IdempotencyRecord Response)

/-- A database before the first financial operation. -/
def Database.initial (registry : Registry) : Database where
  registry := registry
  ledger := []
  lots := []
  expiries := []
  allocations := []
  restorations := []
  adjustments := []
  receipts := []
  redemptions := []
  approvals := []
  outbox := []
  auditLog := []
  idempotency := fun _ => none

/-- What the process runs with: the validated environment, the ids the database draws as
texts, its own clock when a row is inserted, and what the language's library answers about
letter case and about the local date of an instant in a time zone. -/
structure Runtime where
  DEFAULT_EARN_RATE_BPS : Int
  PURCHASE_FLAG_THRESHOLD_KOBO : Int
  PURCHASE_APPROVAL_THRESHOLD_KOBO : Int
  PURCHASE_AMOUNT_CEILING_KOBO : Int
  MIN_REDEMPTION_KOBO : Int
  MAX_REDEMPTION_BASKET_PERCENT : Int
  REDEMPTION_APPROVAL_THRESHOLD_KOBO : Int
  ADJUSTMENT_AMOUNT_CEILING_KOBO : Int
  ADJUSTMENT_CREDIT_EXPIRY_MONTHS : Int
  rate_bounds : 0 ≤ DEFAULT_EARN_RATE_BPS ∧ DEFAULT_EARN_RATE_BPS ≤ 10000
  percent_bounds : 1 ≤ MAX_REDEMPTION_BASKET_PERCENT ∧ MAX_REDEMPTION_BASKET_PERCENT ≤ 100
  min_pos : 1 ≤ MIN_REDEMPTION_KOBO
  uuid : TableName → Nat → String
  -- the columns with `@default(now())`
  insertedAt : TableName → Nat → Int
  toUpperCase : String → String
  localDate : String → Int → Calendar.Date

namespace Shop

/-- The environment's defaults. -/
def runtime : Runtime where
  DEFAULT_EARN_RATE_BPS := 200
  PURCHASE_FLAG_THRESHOLD_KOBO := 10000000
  PURCHASE_APPROVAL_THRESHOLD_KOBO := 20000000
  PURCHASE_AMOUNT_CEILING_KOBO := 100000000
  MIN_REDEMPTION_KOBO := 50000
  MAX_REDEMPTION_BASKET_PERCENT := 30
  REDEMPTION_APPROVAL_THRESHOLD_KOBO := 500000
  ADJUSTMENT_AMOUNT_CEILING_KOBO := 100000000
  ADJUSTMENT_CREDIT_EXPIRY_MONTHS := 12
  rate_bounds := by decide
  percent_bounds := by decide
  min_pos := by decide
  uuid table i := match table with
    | .ledger => "entry-" ++ toString i
    | .receipts => "receipt-" ++ toString i
    | _ => toString i
  insertedAt _ _ := 1700000000000
  toUpperCase := id
  localDate _ t := (Calendar.split t).1

end Shop

/-! ### Failures -/

/-- The unique indexes a write can run into. -/
inductive UniqueIndex
  | receiptIdentity
  | ledgerCorrelationId
  | ledgerReversesEntryId
  | ledgerReceiptEffect
  | creditLotEarnLedgerEntryId
  | creditExpiryCreditLotId
  | creditExpiryLedgerEntryId
  | allocationTargetLot
  | allocationTargetOrder
  | restorationAllocationReversal
  | adjustmentLedgerEntryId
  | redemptionReceiptId
  | approvalTarget
  | idempotencyKey
  deriving DecidableEq

inductive Fault
  /-- An exception with its HTTP status, error code and message. -/
  | http (status : Nat) (code message : String)
  /-- `P2002`. -/
  | unique (index : UniqueIndex)
  /-- A CHECK constraint or an insert trigger. -/
  | check (constraint : String)
  /-- `P2025`: the row to change is not there. -/
  | missing
  /-- `P2034`: the transaction could not be serialized. -/
  | serialization
  deriving DecidableEq

/-- Nest's `BadRequestException`. -/
def badRequest (message : String) : Fault := .http 400 "BAD_REQUEST" message

abbrev Tx (α : Type) := Txn Database Fault α

end ShopcityLoyalty
