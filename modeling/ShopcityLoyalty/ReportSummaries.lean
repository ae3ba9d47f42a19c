import ShopcityLoyalty.Reports

/-!
The rows of the reports: the daily summaries, the customer snapshots, the liability buckets,
and the plan of all rows of a tenant or of one branch.
-/

namespace ShopcityLoyalty

def redemptionStatusAt (input : RedemptionRecord) (asOf : Int) : RedemptionSnapshotStatus :=
  if input.requestedAt > asOf then .PENDING_APPROVAL
  else
    (latestTransitionAt (.PENDING_APPROVAL, input.requestedAt)
      (transition .CONFIRMED input.confirmedAt ++ transition .REJECTED input.rejectedAt ++
        transition .REVERSED input.reversedAt) asOf).1

def smsStatusAt (input : SmsMessageRecord) (asOf : Int) : SmsSnapshotStatus :=
  if input.queuedAt > asOf then .QUEUED
  else
    (latestTransitionAt (.QUEUED, input.queuedAt)
      (transition .SENT input.sentAt ++ transition .DELIVERED input.deliveredAt ++
        transition .FAILED input.failedAt ++ transition .SUPPRESSED input.suppressedAt) asOf).1

structure DailyFinancialSummary where
  scope : ReportMaterializerService.ReportScope
  reportDate : Calendar.Date
  registeredCustomers : Nat
  activeCustomers : Nat
  transactionCount : Nat
  loyaltyPurchaseValueKobo : Int
  creditIssuedKobo : Int
  creditRedeemedKobo : Int
  creditExpiredKobo : Int
  outstandingLiabilityKobo : Int

structure CashierDailySummary where
  scope : ReportMaterializerService.ReportScope
  branchId : Option String
  cashierId : String
  reportDate : Calendar.Date
  transactionCount : Nat
  purchaseValueKobo : Int
  creditIssuedKobo : Int
  redemptionCount : Nat
  redemptionValueKobo : Int
  duplicateAttempts : Nat
  reversalCount : Nat
  approvalRequests : Nat
  fraudFlagCount : Nat

structure CustomerSnapshot where
  scope : ReportMaterializerService.ReportScope
  branchId : String
  customerId : String
  reportDate : Int
  purchaseValueKobo : Int
  currentBalanceKobo : Int
  visitCount : Nat
  lastActivityAt : Option Int
  dormant : Bool

structure LiabilityBucket where
  scope : ReportMaterializerService.ReportScope
  reportDate : Int
  expiryMonth : Int × Int
  ageBucket : ReportMaterializerService.AgeBucket
  customerCount : Nat
  lotCount : Nat
  outstandingKobo : Int

structure RedemptionDailySummary where
  scope : ReportMaterializerService.ReportScope
  reportDate : Calendar.Date
  redemptionCount : Nat
  requestedKobo : Int
  confirmedKobo : Int
  reversedKobo : Int
  pendingApprovalCount : Nat
  basketRatioBps : Int
  lotsConsumed : Nat
  allocationCount : Nat
  endingBalanceKobo : Int
  approvedCount : Nat
  rejectedCount : Nat
  expiredApprovalCount : Nat

structure SmsDailySummary where
  scope : ReportMaterializerService.ReportScope
  reportDate : Calendar.Date
  totalCount : Nat
  queuedCount : Nat
  sentCount : Nat
  deliveredCount : Nat
  failedCount : Nat
  suppressedCount : Nat
  retryCount : Nat
  deadLetterCount : Nat

namespace ReportMaterializerService

variable (rt : ReportRuntime) (source : SourceData)

/-! #### What counts -/

/-- The entry is among those that the entries of a scope reverse. -/
def isReversed (entries : List LedgerEntryRecord) (entry : LedgerEntryRecord) : Prop :=
  ∃ reversal ∈ entries, reversal.reversesEntryId = some entry.id

instance (entries : List LedgerEntryRecord) : DecidablePred (isReversed entries) := fun entry =>
  inferInstanceAs (Decidable (∃ reversal ∈ entries, reversal.reversesEntryId = some entry.id))

/-- The earnings of some entries that none of them reverses. -/
def earnings (entries : List LedgerEntryRecord) : List LedgerEntryRecord :=
  entries.filter fun entry =>
    entry.type = .EARN ∧ entry.direction = .CREDIT ∧ ¬ isReversed entries entry

/-- The redemptions in the ledger that none of the entries reverses. -/
def redemptionDebits (entries : List LedgerEntryRecord) : List LedgerEntryRecord :=
  entries.filter fun entry =>
    entry.type = .REDEEM ∧ entry.direction = .DEBIT ∧ ¬ isReversed entries entry

/-- The amount of the purchase, or that of the credit where there is no receipt. -/
def purchaseAmountKobo (entry : LedgerEntryRecord) : Int :=
  ((entry.receiptId.bind fun id => source.receipts.find? fun receipt => receipt.id = id).map
    (·.purchaseAmountKobo)).getD entry.amountKobo

def redeemedAmountKobo (redemption : RedemptionRecord) : Int :=
  redemption.confirmedAmountKobo.getD redemption.requestedAmountKobo

/-- The redemptions that are confirmed at an instant. -/
def confirmedAt (redemptions : List RedemptionRecord) (asOf : Int) : List RedemptionRecord :=
  redemptions.filter fun redemption => redemptionStatusAt redemption asOf = .CONFIRMED

/-! #### The builders -/

def buildDailyFinancialSummaries (scope : ScopeDefinition) (asOf : Int) :
    List DailyFinancialSummary :=
  let dateOf := fun date => toReportDate rt date scope.timezone
  let redemptions := filterRedemptionsForScope source.redemptions scope.scope
  let customers := filterCustomersForScope source.customers scope.scope
  let lots := filterLotsForScope source.creditLots source scope.scope
  let earned := earnings (filterLedgerEntriesForScope source.ledgerEntries source scope.scope)
  let confirmed := confirmedAt redemptions asOf
  let expiries := source.creditExpiries.filter fun expiry => expiry.expiredAt ≤ asOf
  let reportDates :=
    sortedDates (dateOf asOf :: expiries.map (fun expiry => dateOf expiry.expiredAt)
    ++ earned.map (fun entry => dateOf entry.effectiveAt)
    ++ redemptions.map (fun redemption => dateOf redemption.requestedAt))
  reportDates.map fun reportDate =>
    let earnedOn := groupOn (fun entry => dateOf entry.effectiveAt) earned reportDate
    let confirmedOn :=
      groupOn (fun redemption => dateOf redemption.requestedAt) confirmed reportDate
    let reportAsOf := endOfReportDate rt reportDate scope.timezone asOf
    { scope := scope.scope
      reportDate
      registeredCustomers :=
        (customers.filter fun customer => reportDateLe (dateOf customer.createdAt)
          reportDate).length
      activeCustomers :=
        (earnedOn.map (·.customerId) ++ confirmedOn.map (·.customerId)).dedup.length
      transactionCount := earnedOn.length + confirmedOn.length
      loyaltyPurchaseValueKobo := sumOn (fun entry => dateOf entry.effectiveAt)
        (purchaseAmountKobo source) earned reportDate
      creditIssuedKobo := sumOn (fun entry => dateOf entry.effectiveAt) (·.amountKobo) earned
        reportDate
      creditRedeemedKobo := sumOn (fun redemption => dateOf redemption.requestedAt)
        redeemedAmountKobo confirmed reportDate
      creditExpiredKobo := sumExpiredOnReportDate rt lots source.creditExpiries reportDate
        scope.timezone
      outstandingLiabilityKobo := sumLots (lots.filter fun lot => lot.expiresAt > reportAsOf)
        (lotBalance source reportAsOf) }

/-- `cashierKey`, as its parts. -/
abbrev CashierKey := Calendar.Date × String

/-- The order of the texts of the keys. -/
def cashierKeyLe (a b : CashierKey) : Prop :=
  (a.1 ≠ b.1 ∧ reportDateLe a.1 b.1) ∨ (a.1 = b.1 ∧ a.2 ≤ b.2)

instance : DecidableRel cashierKeyLe := fun _ _ => inferInstanceAs (Decidable (_ ∨ _))

def entryKey (timezone : String) (entry : LedgerEntryRecord) : CashierKey :=
  (toReportDate rt entry.effectiveAt timezone, entry.createdBy)

/-- The key of a duplicate attempt: the cashier that its metadata name, or the actor. -/
def attemptKey (timezone : String) (log : AuditLogRecord) : CashierKey :=
  (toReportDate rt log.createdAt timezone,
    (OutboxWorkerRuntime.textField log.metadata "cashierId").getD (log.actorId.getD "unknown"))

/-- The keys of the flags that name a cashier. -/
def flagKeys (timezone : String) (flags : List FraudFlagRecord) : List CashierKey :=
  flags.filterMap fun flag => (flag.cashierId.filter fun id => id ≠ "").map fun cashierId =>
    (toReportDate rt flag.firstDetectedAt timezone, cashierId)

def buildCashierSummaries (scope : ScopeDefinition) : List CashierDailySummary :=
  let receipts := filterReceiptsForScope source.receipts scope.scope
  let entries := filterLedgerEntriesForScope source.ledgerEntries source scope.scope
  let keyOf := entryKey rt scope.timezone
  let earned := earnings entries
  let redeemed := redemptionDebits entries
  let reversals := entries.filter fun entry => entry.reversesEntryId ≠ none
  let attempts := (match scope.scope with
    | .TENANT => source.auditLogs
    | .BRANCH branchId => source.auditLogs.filter fun log =>
        OutboxWorkerRuntime.textField log.metadata "branchId" = some branchId).map
      (attemptKey rt scope.timezone)
  let flags := flagKeys rt scope.timezone (match scope.scope with
    | .TENANT => source.fraudFlags
    | .BRANCH branchId => source.fraudFlags.filter fun flag => flag.branchId = some branchId)
  let requests := (filterApprovalsForScope source.approvals source scope.scope).map fun approval =>
    (toReportDate rt approval.requestedAt scope.timezone, approval.requestedBy)
  let keys := (earned.map keyOf ++ redeemed.map keyOf ++ attempts ++ reversals.map keyOf ++ requests
    ++ flags).dedup.insertionSort cashierKeyLe
  keys.map fun key =>
    { scope := scope.scope
      branchId := resolveBranchIdForCashier key.2 receipts
      cashierId := key.2
      reportDate := key.1
      transactionCount := (groupOn keyOf earned key).length + (groupOn keyOf redeemed key).length
      purchaseValueKobo := sumOn keyOf (purchaseAmountKobo source) earned key
      creditIssuedKobo := sumOn keyOf (·.amountKobo) earned key
      redemptionCount := (groupOn keyOf redeemed key).length
      redemptionValueKobo := sumOn keyOf (·.amountKobo) redeemed key
      duplicateAttempts := attempts.count key
      reversalCount := (groupOn keyOf reversals key).length
      approvalRequests := requests.count key
      fraudFlagCount := flags.count key }

/-- The confirmed entries of a customer: earnings and redemptions that are not reversed. -/
def confirmedEntries (entries : List LedgerEntryRecord) (customerId : String) :
    List LedgerEntryRecord :=
  entries.filter fun entry => entry.customerId = customerId ∧ ¬ isReversed entries entry ∧
    ((entry.type = .EARN ∧ entry.direction = .CREDIT) ∨
      (entry.type = .REDEEM ∧ entry.direction = .DEBIT))

def customerSnapshot (scope : ReportScope) (asOf dormantCustomerDays : Int)
    (customer : CustomerRecord) : CustomerSnapshot :=
  let lots := filterLotsForScope source.creditLots source scope
  let entries := filterLedgerEntriesForScope source.ledgerEntries source scope
  let confirmed := confirmedEntries entries customer.id
  let customerLots := lots.filter fun lot => lot.customerId = customer.id ∧ lot.expiresAt > asOf
  let lastActivityAt := (confirmed.map (·.effectiveAt)).max?
  { scope
    branchId := customer.branchId
    customerId := customer.id
    reportDate := asOf
    purchaseValueKobo := ((confirmed.filter fun entry =>
      entry.type = .EARN ∧ entry.direction = .CREDIT).map (purchaseAmountKobo source)).sum
    currentBalanceKobo := sumLots customerLots (lotBalance source asOf)
    visitCount := confirmed.length
    lastActivityAt
    dormant := lastActivityAt.any fun last =>
      dormantCustomerDays * Calendar.msPerDay < asOf - last }

def buildCustomerSnapshots (scope : ReportScope) (asOf dormantCustomerDays : Int) :
    List CustomerSnapshot :=
  ((filterCustomersForScope source.customers scope).map
    (customerSnapshot source scope asOf dormantCustomerDays)).insertionSort
      fun left right => left.customerId ≤ right.customerId

/-- A bucket: the month of the expiry, and how far it is ahead. -/
abbrev BucketKey := (Int × Int) × AgeBucket

def bucketKey (timezone : String) (asOf : Int) (lot : CreditLotRecord) : BucketKey :=
  (toReportMonth rt lot.expiresAt timezone, resolveAgeBucket lot.expiresAt asOf)

/-- The order of the texts of the keys. -/
def bucketKeyLe (a b : BucketKey) : Prop :=
  a.1.1 < b.1.1 ∨ (a.1.1 = b.1.1 ∧ (a.1.2 < b.1.2 ∨ (a.1.2 = b.1.2 ∧ a.2.text ≤ b.2.text)))

instance : DecidableRel bucketKeyLe := fun _ _ => inferInstanceAs (Decidable (_ ∨ _))

/-- Lots without a balance open no bucket. -/
def buildLiabilityBuckets (scope : ScopeDefinition) (asOf : Int) : List LiabilityBucket :=
  let lots := ((filterLotsForScope source.creditLots source scope.scope).filter fun lot =>
    lot.expiresAt > asOf).filter fun lot => 0 < lotBalance source asOf lot.id
  let keyOf := bucketKey rt scope.timezone asOf
  ((lots.map keyOf).dedup.insertionSort bucketKeyLe).map fun key =>
    { scope := scope.scope
      reportDate := asOf
      expiryMonth := key.1
      ageBucket := key.2
      customerCount := ((groupOn keyOf lots key).map (·.customerId)).dedup.length
      lotCount := (groupOn keyOf lots key).length
      outstandingKobo := sumOn keyOf (fun lot => lotBalance source asOf lot.id) lots key }

/-- The approvals of some redemptions that are decided by an instant, or undecided. -/
def decidedApprovals (redemptions : List RedemptionRecord) (asOf : Int) : List ApprovalRecord :=
  redemptions.flatMap fun redemption => source.approvals.filter fun approval =>
    approval.redemptionId = some redemption.id ∧
      ¬ (∃ decidedAt ∈ approval.decidedAt, decidedAt > asOf)

def buildRedemptionSummaries (scope : ScopeDefinition) (asOf : Int) :
    List RedemptionDailySummary :=
  let dateOf := fun redemption : RedemptionRecord =>
    toReportDate rt redemption.requestedAt scope.timezone
  let redemptions := filterRedemptionsForScope source.redemptions scope.scope
  let lots := filterLotsForScope source.creditLots source scope.scope
  let withStatus := fun status => redemptions.filter fun redemption =>
    redemptionStatusAt redemption asOf = status
  (sortedDates (redemptions.map dateOf)).map fun reportDate =>
    let requested := groupOn dateOf redemptions reportDate
    let settled := requested.filter fun redemption =>
      redemptionStatusAt redemption asOf = .CONFIRMED ∨
        redemptionStatusAt redemption asOf = .REVERSED
    let allocations := settled.flatMap fun redemption =>
      source.redemptionAllocations.filter fun allocation =>
        allocation.redemptionId = some redemption.id
    let approvals := decidedApprovals source requested asOf
    let basketKobo := (settled.map (·.basketAmountKobo)).sum
    let confirmedKobo := sumOn dateOf redeemedAmountKobo (confirmedAt redemptions asOf) reportDate
    let dayEnd := toDate reportDate + Calendar.msPerDay - 1
    { scope := scope.scope
      reportDate
      redemptionCount := requested.length
      requestedKobo := (requested.map (·.requestedAmountKobo)).sum
      confirmedKobo
      reversedKobo := sumOn dateOf redeemedAmountKobo (withStatus .REVERSED) reportDate
      pendingApprovalCount := (groupOn dateOf (withStatus .PENDING_APPROVAL) reportDate).length
      basketRatioBps := if 0 < basketKobo then (confirmedKobo * 10000).tdiv basketKobo else 0
      lotsConsumed := (allocations.map (·.creditLotId)).dedup.length
      allocationCount := allocations.length
      endingBalanceKobo := sumLots (lots.filter fun lot => lot.expiresAt > dayEnd)
        (lotBalance source dayEnd)
      approvedCount := approvals.countP fun approval => approval.status = .APPROVED
      rejectedCount := approvals.countP fun approval => approval.status = .REJECTED
      expiredApprovalCount := approvals.countP fun approval => approval.status = .EXPIRED }

def buildSmsSummaries (scope : ScopeDefinition) (asOf : Int) : List SmsDailySummary :=
  let smsMessages := filterSmsForScope source.smsMessages source scope.scope
  let dateOf := fun sms : SmsMessageRecord => toReportDate rt sms.queuedAt scope.timezone
  (sortedDates (smsMessages.map dateOf)).map fun reportDate =>
    let queued := groupOn dateOf smsMessages reportDate
    let withStatus := fun status => queued.countP fun sms => smsStatusAt sms asOf = status
    { scope := scope.scope
      reportDate
      totalCount := queued.length
      queuedCount := withStatus .QUEUED
      sentCount := withStatus .SENT
      deliveredCount := withStatus .DELIVERED
      failedCount := withStatus .FAILED
      suppressedCount := withStatus .SUPPRESSED
      retryCount := (queued.map fun sms => sms.attempts - 1).sum
      deadLetterCount := queued.countP fun sms =>
        ∃ deadLetteredAt ∈ sms.deadLetteredAt, deadLetteredAt ≤ asOf }

/-! #### Plans -/

/-- The rows of one scope. -/
structure ScopeRows where
  dailyFinancialSummaries : List DailyFinancialSummary
  cashierDailySummaries : List CashierDailySummary
  customerSnapshots : List CustomerSnapshot
  liabilityBuckets : List LiabilityBucket
  redemptionDailySummaries : List RedemptionDailySummary
  smsDailySummaries : List SmsDailySummary

def buildScope (asOf dormantCustomerDays : Int) (scope : ScopeDefinition) : ScopeRows where
  dailyFinancialSummaries := buildDailyFinancialSummaries rt source scope asOf
  cashierDailySummaries := buildCashierSummaries rt source scope
  customerSnapshots := buildCustomerSnapshots source scope.scope asOf dormantCustomerDays
  liabilityBuckets := buildLiabilityBuckets rt source scope asOf
  redemptionDailySummaries := buildRedemptionSummaries rt source scope asOf
  smsDailySummaries := buildSmsSummaries rt source scope asOf

def tenantScope : ScopeDefinition := ⟨.TENANT, rt.reportTimeZone⟩

def branchScope (branch : BranchRecord) : ScopeDefinition := ⟨.BRANCH branch.id, branch.timezone⟩

/-- The scopes of a tenant rebuild, or of one branch, which need not be the tenant's. -/
def planScopes : Option String → List ScopeDefinition
  | none => tenantScope rt :: source.branches.map branchScope
  | some branchId => [⟨.BRANCH branchId,
      ((source.branches.find? fun branch => branch.id = branchId).map (·.timezone)).getD
        rt.reportTimeZone⟩]

/-- `buildTenantPlan` and `buildBranchPlan`: the rows of each scope. -/
def buildPlan (branchId : Option String) (asOf dormantCustomerDays : Int) :
    List (ReportScope × ScopeRows) :=
  (planScopes rt source branchId).map fun scope =>
    (scope.scope, buildScope rt source asOf dormantCustomerDays scope)

end ReportMaterializerService

end ShopcityLoyalty
