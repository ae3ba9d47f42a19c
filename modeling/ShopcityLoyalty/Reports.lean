import ShopcityLoyalty.FraudEvaluation
import ShopcityLoyalty.Lib.Grouping
import ShopcityLoyalty.OutboxWorker

/-!
The report materializer: what it loads of a tenant, and the rows it builds of that for the
tenant and for each of its branches.

A map that accumulates by a key is read as the sums over the elements of the key. Report dates
are kept as their parts; the texts sort like the dates of four-digit years that they name.
-/

namespace ShopcityLoyalty

def DEFAULT_REPORT_TIME_ZONE : String := "Africa/Lagos"

/-- What the materializer runs with. -/
structure ReportRuntime where
  SHOPCITY_TIMEZONE : Option String
  /-- The local date and the milliseconds into it, in whole seconds. -/
  localDateTime : String → Int → Calendar.Date × Int

def ReportRuntime.reportTimeZone (rt : ReportRuntime) : String :=
  rt.SHOPCITY_TIMEZONE.getD DEFAULT_REPORT_TIME_ZONE

/-! ### Statuses as of an instant -/

inductive RedemptionSnapshotStatus | PENDING_APPROVAL | CONFIRMED | REJECTED | REVERSED
  deriving DecidableEq

inductive SmsSnapshotStatus | QUEUED | SENT | DELIVERED | FAILED | SUPPRESSED
  deriving DecidableEq

/-- The latest of the transitions so far; of equals, the first in the list. -/
def latestTransitionAt {α : Type} (first : α × Int) (later : List (α × Int)) (asOf : Int) :
    α × Int :=
  ((((first :: later).filter fun transition => transition.2 ≤ asOf).insertionSort
    fun left right => right.2 ≤ left.2).head?).getD first

/-- A transition that was recorded. -/
def transition {α : Type} (status : α) (occurredAt : Option Int) : List (α × Int) :=
  (occurredAt.map fun at_ => (status, at_)).toList

/-! ### Source data -/

structure BranchRecord where
  id : String
  timezone : String

structure CustomerRecord where
  id : String
  branchId : String
  createdAt : Int

structure ReceiptRecord where
  id : Nat
  branchId : String
  customerId : String
  capturedBy : String
  occurredAt : Int
  purchaseAmountKobo : Int

structure LedgerEntryRecord where
  id : Nat
  customerId : String
  receiptId : Option Nat
  reversesEntryId : Option Nat
  type : LedgerEntryType
  direction : LedgerEntryDirection
  amountKobo : Int
  createdBy : String
  effectiveAt : Int

structure CreditLotRecord where
  id : Nat
  customerId : String
  originalAmountKobo : Int
  earnedAt : Int
  expiresAt : Int
  earnLedgerEntryId : Nat

structure RedemptionRecord where
  id : Nat
  branchId : String
  customerId : String
  requestedAmountKobo : Int
  basketAmountKobo : Int
  confirmedAmountKobo : Option Int
  requestedAt : Int
  confirmedAt : Option Int
  rejectedAt : Option Int
  reversedAt : Option Int

structure CreditExpiryRecord where
  creditLotId : Nat
  amountKobo : Int
  expiredAt : Int

structure SmsMessageRecord where
  receiptId : Option Nat
  cardBranchId : Option String
  attempts : Nat
  deadLetteredAt : Option Int
  queuedAt : Int
  sentAt : Option Int
  deliveredAt : Option Int
  failedAt : Option Int
  suppressedAt : Option Int

structure ApprovalRecord where
  requestedBy : String
  requestedAt : Int
  status : ApprovalStatus
  receiptId : Option Nat
  redemptionId : Option Nat
  decidedAt : Option Int

structure RedemptionAllocationRecord where
  id : Nat
  redemptionId : Option Nat
  creditLotId : Nat
  amountKobo : Int
  createdAt : Int

structure AllocationRestorationRecord where
  allocationId : Nat
  amountKobo : Int
  createdAt : Int

structure FraudFlagRecord where
  branchId : Option String
  cashierId : Option String
  firstDetectedAt : Int

structure AuditLogRecord where
  actorId : Option String
  createdAt : Int
  metadata : List (String × Json)

structure SourceData where
  branches : List BranchRecord
  customers : List CustomerRecord
  receipts : List ReceiptRecord
  ledgerEntries : List LedgerEntryRecord
  creditLots : List CreditLotRecord
  redemptions : List RedemptionRecord
  creditExpiries : List CreditExpiryRecord
  smsMessages : List SmsMessageRecord
  approvals : List ApprovalRecord
  redemptionAllocations : List RedemptionAllocationRecord
  allocationRestorations : List AllocationRestorationRecord
  fraudFlags : List FraudFlagRecord
  auditLogs : List AuditLogRecord

/-- The tables a report is built from. Branches and customers are listed, each once, and the
database sets the instants at which rows are created. -/
structure ReportTables where
  db : Database
  branchIds : List String
  customerIds : List String
  customerCreatedAt : String → Int
  allocationCreatedAt : Nat → Int
  restorationCreatedAt : Nat → Int
  auditCreatedAt : Nat → Int
  fraudFlags : Table FraudFlag
  /-- The messages of each tenant. -/
  smsMessages : String → List SmsMessageRecord
  branchIds_nodup : branchIds.Nodup
  customerIds_nodup : customerIds.Nodup
  branch_listed : ∀ id, db.registry.branches id ≠ none → id ∈ branchIds
  customer_listed : ∀ id, db.registry.customers id ≠ none → id ∈ customerIds

namespace ReportMaterializerService

open OutboxWorkerRuntime

/-! #### Rows as records -/

def customerRecord (tables : ReportTables) (tenantId id : String) : Option CustomerRecord :=
  ((tables.db.registry.customers id).filter fun c => c.tenantId = tenantId).map fun c =>
    ⟨id, c.branchId, tables.customerCreatedAt id⟩

def branchRecord (tables : ReportTables) (tenantId id : String) : Option BranchRecord :=
  ((tables.db.registry.branches id).filter fun b => b.tenantId = tenantId).map fun b =>
    ⟨id, b.timezone⟩

def receiptRecord (r : Nat × Receipt) : ReceiptRecord where
  id := r.1
  branchId := r.2.branchId
  customerId := r.2.customerId
  capturedBy := r.2.capturedBy.id
  occurredAt := r.2.occurredAt
  purchaseAmountKobo := r.2.purchaseAmountKobo

def ledgerEntryRecord (e : Nat × LoyaltyLedgerEntry) : LedgerEntryRecord where
  id := e.1
  customerId := e.2.customerId
  receiptId := e.2.receiptId
  reversesEntryId := e.2.reversesEntryId
  type := e.2.type
  direction := e.2.direction
  amountKobo := e.2.amountKobo
  createdBy := e.2.createdBy.id
  effectiveAt := e.2.effectiveAt

def creditLotRecord (l : Nat × CreditLot) : CreditLotRecord where
  id := l.1
  customerId := l.2.customerId
  originalAmountKobo := l.2.originalAmountKobo
  earnedAt := l.2.earnedAt
  expiresAt := l.2.expiresAt
  earnLedgerEntryId := l.2.earnLedgerEntryId

def redemptionRecord (r : Nat × Redemption) : RedemptionRecord where
  id := r.1
  branchId := r.2.branchId
  customerId := r.2.customerId
  requestedAmountKobo := r.2.requestedAmountKobo
  basketAmountKobo := r.2.basketAmountKobo
  confirmedAmountKobo := r.2.confirmedAmountKobo
  requestedAt := r.2.requestedAt
  confirmedAt := r.2.confirmedAt
  rejectedAt := r.2.rejectedAt
  reversedAt := r.2.reversedAt

def creditExpiryRecord (x : Nat × CreditExpiry) : CreditExpiryRecord where
  creditLotId := x.2.creditLotId
  amountKobo := x.2.amountKobo
  expiredAt := x.2.expiredAt

def approvalRecord (a : Nat × Approval) : ApprovalRecord where
  requestedBy := a.2.requestedBy.id
  requestedAt := a.2.requestedAt
  status := a.2.status
  receiptId := match a.2.target with
    | .EARN receiptId => some receiptId
    | .REDEEM _ => none
  redemptionId := match a.2.target with
    | .EARN _ => none
    | .REDEEM redemptionId => some redemptionId
  decidedAt := a.2.decidedAt

def allocationRecord (tables : ReportTables) (a : Nat × RedemptionAllocation) :
    RedemptionAllocationRecord where
  id := a.1
  redemptionId := match a.2.target with
    | .redemption redemptionId => some redemptionId
    | .adjustment _ => none
  creditLotId := a.2.creditLotId
  amountKobo := a.2.amountKobo
  createdAt := tables.allocationCreatedAt a.1

def restorationRecord (tables : ReportTables) (r : Nat × AllocationRestoration) :
    AllocationRestorationRecord where
  allocationId := r.2.allocationId
  amountKobo := r.2.amountKobo
  createdAt := tables.restorationCreatedAt r.1

/-! #### Loading -/

def loadSourceData (tables : ReportTables) (tenantId : String) (asOf : Int) : SourceData :=
  let db := tables.db
  { branches := tables.branchIds.filterMap (branchRecord tables tenantId)
    customers := (tables.customerIds.filterMap (customerRecord tables tenantId)).filter
      fun customer => customer.createdAt ≤ asOf
    receipts := ((db.receipts.select fun r => r.tenantId = tenantId).map receiptRecord).filter
      fun receipt => receipt.occurredAt ≤ asOf
    ledgerEntries :=
      ((db.ledger.select fun e => e.tenantId = tenantId).map ledgerEntryRecord).filter
        fun entry => entry.effectiveAt ≤ asOf
    creditLots := ((db.lots.select fun l => l.tenantId = tenantId).map creditLotRecord).filter
      fun lot => lot.earnedAt ≤ asOf
    redemptions :=
      ((db.redemptions.select fun r => r.tenantId = tenantId).map redemptionRecord).filter
        fun redemption => redemption.requestedAt ≤ asOf
    creditExpiries :=
      (db.expiries.select fun x => x.tenantId = tenantId ∧ x.expiredAt ≤ asOf).map
        creditExpiryRecord
    smsMessages := (tables.smsMessages tenantId).filter fun sms => sms.queuedAt ≤ asOf
    approvals := ((db.approvals.select fun a => a.tenantId = tenantId).map approvalRecord).filter
      fun approval => approval.requestedAt ≤ asOf
    redemptionAllocations :=
      ((db.allocations.select fun a => a.tenantId = tenantId).map (allocationRecord tables)).filter
        fun allocation => allocation.createdAt ≤ asOf
    allocationRestorations :=
      ((db.restorations.select fun r => r.tenantId = tenantId).map
        (restorationRecord tables)).filter fun restoration => restoration.createdAt ≤ asOf
    fraudFlags :=
      (tables.fraudFlags.select fun f => f.tenantId = tenantId ∧ f.firstDetectedAt ≤ asOf).map
        fun f => ⟨f.2.branchId, f.2.cashierId, f.2.firstDetectedAt⟩
    auditLogs :=
      ((db.auditLog.select fun a => a.tenantId = tenantId ∧
          a.action = "RECEIPT_DUPLICATE_ATTEMPT_RECORDED").filter
        fun a => tables.auditCreatedAt a.1 ≤ asOf).map
          fun a => ⟨a.2.actorId, tables.auditCreatedAt a.1, normalizeJsonPayload a.2.metadata⟩ }

/-! #### Scopes -/

inductive ReportScope
  | TENANT
  | BRANCH (branchId : String)
  deriving DecidableEq

/-- A scope and the time zone of its dates. -/
structure ScopeDefinition where
  scope : ReportScope
  timezone : String

def filterReceiptsForScope (receipts : List ReceiptRecord) : ReportScope → List ReceiptRecord
  | .TENANT => receipts
  | .BRANCH branchId => receipts.filter fun receipt => receipt.branchId = branchId

def filterCustomersForScope (customers : List CustomerRecord) : ReportScope → List CustomerRecord
  | .TENANT => customers
  | .BRANCH branchId => customers.filter fun customer => customer.branchId = branchId

def filterRedemptionsForScope (redemptions : List RedemptionRecord) :
    ReportScope → List RedemptionRecord
  | .TENANT => redemptions
  | .BRANCH branchId => redemptions.filter fun redemption => redemption.branchId = branchId

/-- `customerBranchIds.get`. -/
def customerBranchId (source : SourceData) (customerId : String) : Option String :=
  (source.customers.find? fun customer => customer.id = customerId).map (·.branchId)

/-- `receiptBranchIds.get`. -/
def receiptBranchId (source : SourceData) (receiptId : Nat) : Option String :=
  (source.receipts.find? fun receipt => receipt.id = receiptId).map (·.branchId)

/-- The branch of the receipt, or else the branch of the customer. -/
def branchOf (source : SourceData) (receiptId : Option Nat) (customerId : String) : Option String :=
  (receiptId.bind (receiptBranchId source)).or (customerBranchId source customerId)

/-- `lotReceiptIds.get`. -/
def lotReceiptId (source : SourceData) (earnLedgerEntryId : Nat) : Option Nat :=
  (source.ledgerEntries.find? fun entry => entry.id = earnLedgerEntryId).bind (·.receiptId)

def lotBranchId (source : SourceData) (lot : CreditLotRecord) : Option String :=
  branchOf source (lotReceiptId source lot.earnLedgerEntryId) lot.customerId

def filterLotsForScope (lots : List CreditLotRecord) (source : SourceData) :
    ReportScope → List CreditLotRecord
  | .TENANT => lots
  | .BRANCH branchId => lots.filter fun lot => lotBranchId source lot = some branchId

def filterLedgerEntriesForScope (entries : List LedgerEntryRecord) (source : SourceData) :
    ReportScope → List LedgerEntryRecord
  | .TENANT => entries
  | .BRANCH branchId =>
      entries.filter fun entry => branchOf source entry.receiptId entry.customerId = some branchId

def approvalBranchId (source : SourceData) (approval : ApprovalRecord) : Option String :=
  (approval.receiptId.bind (receiptBranchId source)).or (approval.redemptionId.bind fun id =>
    (source.redemptions.find? fun redemption => redemption.id = id).map (·.branchId))

def filterApprovalsForScope (approvals : List ApprovalRecord) (source : SourceData) :
    ReportScope → List ApprovalRecord
  | .TENANT => approvals
  | .BRANCH branchId =>
      approvals.filter fun approval => approvalBranchId source approval = some branchId

def filterSmsForScope (smsMessages : List SmsMessageRecord) (source : SourceData) :
    ReportScope → List SmsMessageRecord
  | .TENANT => smsMessages
  | .BRANCH branchId => smsMessages.filter fun sms =>
      (sms.receiptId.bind (receiptBranchId source)).or sms.cardBranchId = some branchId

def resolveBranchIdForCashier (cashierId : String) (receipts : List ReceiptRecord) :
    Option String :=
  (receipts.find? fun receipt => receipt.capturedBy = cashierId).map (·.branchId)

/-! #### Dates -/

variable (rt : ReportRuntime)

def toReportDate (date : Int) (timeZone : String) : Calendar.Date :=
  (rt.localDateTime timeZone date).1

/-- Year and month. -/
def toReportMonth (date : Int) (timeZone : String) : Int × Int :=
  ((toReportDate rt date timeZone).year, (toReportDate rt date timeZone).month)

/-- Midnight UTC of the date. -/
def toDate (date : Calendar.Date) : Int := Calendar.join date 0

/-- The order of the texts. -/
def reportDateLe (a b : Calendar.Date) : Prop :=
  a.year < b.year ∨ (a.year = b.year ∧ (a.month < b.month ∨ (a.month = b.month ∧ a.day ≤ b.day)))

instance : DecidableRel reportDateLe := fun _ _ => inferInstanceAs (Decidable (_ ∨ _))

/-- A set of dates, sorted. -/
def sortedDates (dates : List Calendar.Date) : List Calendar.Date :=
  dates.dedup.insertionSort reportDateLe

/-- The last instant of the local day, by the offset at the following midnight UTC, but not
after `asOf`. -/
def endOfReportDate (reportDate : Calendar.Date) (timeZone : String) (asOf : Int) : Int :=
  let nextDayUtcGuess := dateUTC { reportDate with day := reportDate.day + 1 } 0
  let (localDate, ms) := rt.localDateTime timeZone nextDayUtcGuess
  let localAsUtc := dateUTC localDate ms
  let nextDayMidnight := nextDayUtcGuess - (localAsUtc - nextDayUtcGuess)
  if nextDayMidnight - 1 < asOf then nextDayMidnight - 1 else asOf

inductive AgeBucket | upTo30 | upTo60 | upTo90 | over90
  deriving DecidableEq

def AgeBucket.text : AgeBucket → String
  | upTo30 => "0-30"
  | upTo60 => "31-60"
  | upTo90 => "61-90"
  | over90 => "90+"

def resolveAgeBucket (expiresAt asOf : Int) : AgeBucket :=
  let days := max 0 ((expiresAt - asOf) / Calendar.msPerDay)
  if days ≤ 30 then .upTo30
  else if days ≤ 60 then .upTo60
  else if days ≤ 90 then .upTo90
  else .over90

/-! #### Balances of lots -/

/-- `allocationLotById.get`. -/
def allocationLot (source : SourceData) (allocationId : Nat) : Option Nat :=
  (source.redemptionAllocations.find? fun allocation => allocation.id = allocationId).map
    (·.creditLotId)

/-- A lot's balance before it is cut off at zero: what was earned, less what was allocated,
with what was restored, less what expired. -/
def replayedBalance (source : SourceData) (asOf : Int) (lotId : Nat) : Int :=
  (((source.creditLots.find? fun lot => lot.id = lotId ∧ lot.earnedAt ≤ asOf).map
      (·.originalAmountKobo)).getD 0)
    - sumOn (·.creditLotId) (·.amountKobo)
        (source.redemptionAllocations.filter fun allocation => allocation.createdAt ≤ asOf) lotId
    + sumOn (fun restoration => allocationLot source restoration.allocationId) (·.amountKobo)
        (source.allocationRestorations.filter fun restoration => restoration.createdAt ≤ asOf)
        (some lotId)
    - sumOn (·.creditLotId) (·.amountKobo)
        (source.creditExpiries.filter fun expiry => expiry.expiredAt ≤ asOf) lotId

/-- `buildLotBalances(source, asOf).get(lotId) ?? 0n`. -/
def lotBalance (source : SourceData) (asOf : Int) (lotId : Nat) : Int :=
  if replayedBalance source asOf lotId < 0 then 0 else replayedBalance source asOf lotId

def sumLots (lots : List CreditLotRecord) (balances : Nat → Int) : Int :=
  (lots.map fun lot => balances lot.id).sum

def sumExpiredOnReportDate (lots : List CreditLotRecord) (expiries : List CreditExpiryRecord)
    (reportDate : Calendar.Date) (timeZone : String) : Int :=
  ((expiries.filter fun expiry => (∃ lot ∈ lots, lot.id = expiry.creditLotId) ∧
    toReportDate rt expiry.expiredAt timeZone = reportDate).map (·.amountKobo)).sum

end ReportMaterializerService

end ShopcityLoyalty
