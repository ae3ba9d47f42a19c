import ShopcityLoyalty.FraudRules

/-!
What the outbox worker finds in a `fraud.evaluate` event, and the flags it records.
-/

namespace ShopcityLoyalty

/-! ### Behaviour -/

namespace FraudBehaviorRuntime

variable (rt : FraudRuntime) (reads : FraudReads)

def cardDailyCountThreshold : Nat := rt.FRAUD_CARD_DAILY_COUNT_THRESHOLD.getD 5
def cashierMinSampleSize : Nat := rt.FRAUD_CASHIER_MIN_SAMPLE_SIZE.getD 5
def cashierValueRatioThresholdBps : Int := rt.FRAUD_CASHIER_VALUE_RATIO_THRESHOLD_BPS.getD 15000
def roundedValueMinSample : Nat := rt.FRAUD_ROUNDED_VALUE_MIN_SAMPLE.getD 5
def roundedValueUnitKobo : Int := rt.FRAUD_ROUNDED_VALUE_UNIT_KOBO.getD 1000
def reversalCountThreshold : Nat := rt.FRAUD_REVERSAL_COUNT_THRESHOLD.getD 3
def cardReplacementCountThreshold : Nat := rt.FRAUD_CARD_REPLACEMENT_COUNT_THRESHOLD.getD 3
def authFailureCountThreshold : Nat := rt.FRAUD_AUTH_FAILURE_COUNT_THRESHOLD.getD 5

/-! #### The local day of a branch -/

/-- `localMidnightUtc`, which corrects its guess at most eight times. -/
def localMidnightUtc (timeZone : String) (date : Calendar.Date) : Int :=
  let target := dateUTC date 0
  let rec correct : Nat → Int → Int
    | 0, guess => guess
    | attempts + 1, guess =>
        let (localDate, ms) := rt.localDateTime timeZone guess
        let delta := dateUTC localDate ms - target
        if delta = 0 then guess else correct attempts (guess - delta)
  correct 8 target

def branchDayWindow (reference : Int) (timeZone : String) : Int × Int :=
  let (date, _) := rt.localDateTime timeZone reference
  let (nextDay, _) := Calendar.split (dateUTC { date with day := date.day + 1 } 0)
  (localMidnightUtc rt timeZone date, localMidnightUtc rt timeZone nextDay)

/-! #### The rules -/

/-- A finding about behaviour within a window. -/
def windowFinding (ruleCode : FraudRuleCode) (severity : FraudSeverity) (key : String)
    (subjectType : FraudSubjectType) (subjectId : String) (window : Int × Int)
    (evidence : List (String × Json)) : FraudFinding where
  ruleCode := ruleCode
  severity := severity
  dedupeKey := dedupeKey ruleCode (key ++ dayKey window.1)
  subjectType := subjectType
  subjectId := subjectId
  windowStart := window.1
  windowEnd := some window.2
  branchId := none
  cashierId := none
  customerId := none
  receiptId := none
  redemptionId := none
  evidence := .object (evidence ++ [("windowStart", .string (Calendar.toISOString window.1)),
    ("windowEnd", .string (Calendar.toISOString window.2))])

def evaluateCardFrequency (receipt : FraudReceipt) (countInLocalDay : Nat) (window : Int × Int) :
    List FraudFinding :=
  let threshold := cardDailyCountThreshold rt
  if countInLocalDay < threshold then []
  else
    [{ windowFinding .FR_CARD_001 .MEDIUM (receipt.cardId ++ ":") .RECEIPT receipt.cardId window
        [("countInLocalDay", .number countInLocalDay), ("threshold", .number threshold)] with
       branchId := some receipt.branchId
       customerId := some receipt.customerId
       receiptId := some receipt.id }]

def evaluateCashierAnomaly (receipt : FraudReceipt) (cashierCount : Nat)
    (cashierValueKobo peerMedianValueKobo : Int) (window : Int × Int) : List FraudFinding :=
  let ratioBps :=
    if peerMedianValueKobo = 0 then 0 else (cashierValueKobo * 10000).tdiv peerMedianValueKobo
  if cashierCount < cashierMinSampleSize rt then []
  else if ratioBps ≤ cashierValueRatioThresholdBps rt then []
  else
    [{ windowFinding .FR_CASH_001 .MEDIUM (receipt.branchId ++ ":" ++ receipt.capturedBy ++ ":")
        .RECEIPT receipt.capturedBy window
        [("sampleSize", .number cashierCount), ("cashierCount", .number cashierCount),
          ("cashierValueKobo", .string (toString cashierValueKobo)),
          ("peerMedianValueKobo", .string (toString peerMedianValueKobo)),
          ("ratioBps", .string (toString ratioBps)),
          ("thresholdBps", .number (cashierValueRatioThresholdBps rt))] with
       branchId := some receipt.branchId
       cashierId := some receipt.capturedBy }]

def evaluateRoundedValues (receipt : FraudReceipt) (roundedCount sampleSize : Nat)
    (window : Int × Int) : List FraudFinding :=
  let minSampleSize := roundedValueMinSample rt
  if sampleSize < minSampleSize ∨ roundedCount < minSampleSize then []
  else
    [{ windowFinding .FR_ROUND_001 .LOW (receipt.branchId ++ ":" ++ receipt.capturedBy ++ ":")
        .RECEIPT receipt.id window
        [("roundedCount", .number roundedCount), ("sampleSize", .number sampleSize),
          ("unitKobo", .string (toString (roundedValueUnitKobo rt)))] with
       branchId := some receipt.branchId
       cashierId := some receipt.capturedBy
       receiptId := some receipt.id }]

def evaluateReversalFrequency (branchId cashierId : String) (reversalCount : Nat)
    (window : Int × Int) : List FraudFinding :=
  let threshold := reversalCountThreshold rt
  if reversalCount < threshold then []
  else
    [{ windowFinding .FR_REV_001 .MEDIUM (branchId ++ ":" ++ cashierId ++ ":") .LEDGER_ENTRY
        cashierId window
        [("reversalCount", .number reversalCount), ("threshold", .number threshold)] with
       branchId := some branchId
       cashierId := some cashierId }]

def evaluateCardReplacementFrequency (branchId customerId cardId : String)
    (replacementCount : Nat) (window : Int × Int) : List FraudFinding :=
  let threshold := cardReplacementCountThreshold rt
  if replacementCount < threshold then []
  else
    [{ windowFinding .FR_REPL_001 .MEDIUM (customerId ++ ":") .RECEIPT cardId window
        [("replacementCount", .number replacementCount), ("threshold", .number threshold)] with
       branchId := some branchId
       customerId := some customerId
       receiptId := some cardId }]

def evaluateAuthFailuresRule (userId : String) (failureCount : Nat) (window : Int × Int) :
    List FraudFinding :=
  let threshold := authFailureCountThreshold rt
  if failureCount < threshold then []
  else
    [windowFinding .FR_AUTH_001 .HIGH (userId ++ ":") .RECEIPT userId window
      [("failureCount", .number failureCount), ("threshold", .number threshold)]]

/-! #### What the rules read -/

def medianBigInt (values : List Int) : Int :=
  let sorted := values.insertionSort (· ≤ ·)
  let middle := sorted.length / 2
  if sorted.isEmpty then 0
  else if sorted.length % 2 = 1 then sorted.getD middle 0
  else (sorted.getD (middle - 1) 0 + sorted.getD middle 0).tdiv 2

/-- The receipts of the cashier, their mean value, and the median of the peers' mean values. -/
def loadCashierMetrics (receipt : FraudReceipt) (timezone : String) : Nat × Int × Int :=
  let rows := reads.cashierDayTotals receipt timezone
  let current := rows.find? fun row => row.cashierId = receipt.capturedBy
  let peerAverages := rows.filterMap fun row =>
    if row.cashierId ≠ receipt.capturedBy ∧ cashierMinSampleSize rt ≤ row.receiptCount then
      some (row.cashierValueKobo.tdiv row.receiptCount)
    else none
  ((current.map (·.receiptCount)).getD 0,
    match current with
    | some row => if row.receiptCount > 0 then row.cashierValueKobo.tdiv row.receiptCount else 0
    | none => 0,
    medianBigInt peerAverages)

def evaluateReceiptBehavior (tenantId receiptId : String) : List FraudFinding :=
  match reads.receiptWithBranch tenantId receiptId with
  | none => []
  | some (receipt, timezone) =>
      let window := branchDayWindow rt receipt.occurredAt timezone
      let (cashierCount, cashierValueKobo, peerMedianValueKobo) :=
        loadCashierMetrics rt reads receipt timezone
      let (roundedCount, sampleSize) :=
        reads.roundedReceiptCounts receipt timezone (roundedValueUnitKobo rt)
      evaluateCardFrequency rt receipt (reads.receiptFrequency receipt timezone) window ++
        evaluateCashierAnomaly rt receipt cashierCount cashierValueKobo
          peerMedianValueKobo window ++
        evaluateRoundedValues rt receipt roundedCount sampleSize window

def evaluateCardReplacementBehavior (tenantId cardId : String) (window : Int × Int) :
    List FraudFinding :=
  match reads.card tenantId cardId with
  | none => []
  | some (customerId, branchId) =>
      evaluateCardReplacementFrequency rt branchId customerId cardId
        (reads.cardReplacements tenantId customerId window.1 window.2) window

def evaluateReversalBehavior (tenantId branchId cashierId : String) (window : Int × Int) :
    List FraudFinding :=
  evaluateReversalFrequency rt branchId cashierId
    (reads.reversals tenantId cashierId window.1 window.2) window

def evaluateAuthFailures (tenantId userId : String) (window : Int × Int) : List FraudFinding :=
  if reads.user tenantId userId then
    evaluateAuthFailuresRule rt userId (reads.loginFailures tenantId userId window.1 window.2)
      window
  else []

end FraudBehaviorRuntime

/-! ### The worker -/

namespace OutboxWorkerRuntime

/-- `typeof payload[key] === 'string'`, and then that text. -/
def textField (payload : List (String × Json)) (key : String) : Option String :=
  match payload.lookup key with
  | some (.string s) => some s
  | _ => none

/-- A receipt above a threshold, from its row. -/
def highValueReceipt (ruleCode : FraudRuleCode) (severity : FraudSeverity) (receipt : FraudReceipt)
    (thresholdKobo : Int) : List FraudFinding :=
  if receipt.purchaseAmountKobo > thresholdKobo then
    [{ ruleCode, severity
       dedupeKey := dedupeKey ruleCode receipt.id
       subjectType := .RECEIPT
       subjectId := receipt.id
       windowStart := receipt.receiptWeekStart
       windowEnd := none
       branchId := some receipt.branchId
       cashierId := some receipt.capturedBy
       customerId := some receipt.customerId
       receiptId := some receipt.id
       redemptionId := none
       evidence := .object [("purchaseAmountKobo", .string (toString receipt.purchaseAmountKobo)),
         ("thresholdKobo", .number thresholdKobo),
         ("normalizedPosReceiptNumber", .string receipt.normalizedPosReceiptNumber),
         ("occurredAt", .string (Calendar.toISOString receipt.occurredAt))] }]
  else []

/-- The thresholds are those of the environment. -/
def receiptFindings (rt : Runtime) (receipt : FraudReceipt) : List FraudFinding :=
  highValueReceipt .FR_HV_001 .MEDIUM receipt rt.PURCHASE_FLAG_THRESHOLD_KOBO ++
    highValueReceipt .FR_HV_002 .HIGH receipt rt.PURCHASE_APPROVAL_THRESHOLD_KOBO

def redemptionFindings (rt : Runtime) (redemption : FraudRedemption) : List FraudFinding :=
  if redemption.requestedAmountKobo > rt.REDEMPTION_APPROVAL_THRESHOLD_KOBO then
    [{ ruleCode := .FR_HV_003
       severity := .HIGH
       dedupeKey := dedupeKey .FR_HV_003 redemption.id
       subjectType := .REDEMPTION
       subjectId := redemption.id
       windowStart := redemption.requestedAt
       windowEnd := none
       branchId := some redemption.branchId
       cashierId := some redemption.requestedBy
       customerId := some redemption.customerId
       receiptId := some redemption.receiptId
       redemptionId := some redemption.id
       evidence := .object
         [("requestedAmountKobo", .string (toString redemption.requestedAmountKobo)),
           ("thresholdKobo", .number rt.REDEMPTION_APPROVAL_THRESHOLD_KOBO),
           ("occurredAt", .string (Calendar.toISOString redemption.requestedAt))] }]
  else []

/-- The findings about a duplicate attempt are in the payload. -/
def duplicateFindings (rt : FraudRuntime) (now : Int) (aggregateId : String)
    (payload : List (String × Json)) : Except String (List FraudFinding) :=
  let branchId := (textField payload "branchId").getD ""
  let cashierId := (textField payload "cashierId").getD ""
  let customerId := (textField payload "customerId").getD ""
  let normalizedPosReceiptNumber := (textField payload "normalizedPosReceiptNumber").getD ""
  let receiptWeekStartRaw :=
    (textField payload "receiptWeekStart").getD (Calendar.toISOString now)
  let receiptId := (textField payload "originalReceiptId").getD aggregateId
  match rt.parse receiptWeekStartRaw with
  | none => .error "Invalid value for argument windowStart"
  | some windowStart =>
      .ok [{ ruleCode := .FR_DUP_001
             severity := .HIGH
             dedupeKey := dedupeKey .FR_DUP_001
               (branchId ++ ":" ++ normalizedPosReceiptNumber ++ ":" ++ receiptWeekStartRaw)
             subjectType := .RECEIPT
             subjectId := receiptId
             windowStart
             windowEnd := none
             branchId := some branchId
             cashierId := some cashierId
             customerId := some customerId
             receiptId := some receiptId
             redemptionId := none
             evidence := .object payload }]

def readOutboxOccurredAt (rt : FraudRuntime) (now : Int) (payload : List (String × Json)) : Int :=
  ((textField payload "occurredAt").bind rt.parse).getD now

def hoursMs (n : Int) : Int := n * 60 * 60 * 1000

/-- The findings of a `fraud.evaluate` event, or the text of the error. -/
def evaluateFraudForOutboxEvent (rt : FraudRuntime) (reads : FraudReads) (now : Int)
    (event : OutboxEvent) (payload : List (String × Json)) : Except String (List FraudFinding) :=
  let occurredAt := readOutboxOccurredAt rt now payload
  if event.eventType ≠ "fraud.evaluate" then .ok []
  else if textField payload "ruleCode" = some "FR-DUP-001" then
    duplicateFindings rt now event.aggregateId payload
  else if event.aggregateType = "receipt" then
    match reads.receipt event.tenantId event.aggregateId with
    | none => .error s!"Receipt {event.aggregateId} not found for fraud evaluation"
    | some receipt =>
        .ok (receiptFindings rt.toRuntime receipt ++
          FraudBehaviorRuntime.evaluateReceiptBehavior rt reads receipt.tenantId receipt.id)
  else if event.aggregateType = "redemption" then
    match reads.redemption event.tenantId event.aggregateId with
    | none => .error s!"Redemption {event.aggregateId} not found for fraud evaluation"
    | some redemption => .ok (redemptionFindings rt.toRuntime redemption)
  else if event.aggregateType = "card" then
    .ok (FraudBehaviorRuntime.evaluateCardReplacementBehavior rt reads event.tenantId
      ((textField payload "cardId").getD event.aggregateId)
      (occurredAt - hoursMs (30 * 24), occurredAt))
  else if event.aggregateType = "reversal" then
    .ok (FraudBehaviorRuntime.evaluateReversalBehavior rt reads event.tenantId
      ((textField payload "branchId").getD "")
      (((textField payload "actorId").or (textField payload "cashierId")).getD event.aggregateId)
      (occurredAt - hoursMs 24, occurredAt))
  else if event.aggregateType = "auth-user" then
    .ok (FraudBehaviorRuntime.evaluateAuthFailures rt reads event.tenantId
      ((textField payload "userId").getD event.aggregateId)
      (occurredAt - 15 * 60 * 1000, occurredAt))
  else .ok []

end OutboxWorkerRuntime

/-! ### Flags -/

inductive FraudFlagStatus | OPEN | ACKNOWLEDGED | RESOLVED
  deriving DecidableEq

structure FraudFlag extends FraudFinding where
  tenantId : String
  status : FraudFlagStatus
  firstDetectedAt : Int
  lastDetectedAt : Int
  occurrenceCount : Nat

namespace OutboxWorkerRuntime

/-- The unique index of the flags. -/
def isFlag (tenantId dedupeKey : String) (flag : FraudFlag) : Bool :=
  flag.tenantId = tenantId ∧ flag.dedupeKey = dedupeKey

/-- `fraudFlag.upsert`. -/
def upsertFlag (tenantId : String) (now : Int) (flags : Table FraudFlag) (finding : FraudFinding) :
    Table FraudFlag :=
  match flags.find (isFlag tenantId finding.dedupeKey) with
  | some (i, flag) =>
      flags.set i
        { flag with
          toFraudFinding := finding
          lastDetectedAt := now
          occurrenceCount := flag.occurrenceCount + 1 }
  | none =>
      flags ++ [{ finding with
        tenantId
        status := .OPEN
        firstDetectedAt := now
        lastDetectedAt := now
        occurrenceCount := 1 }]

def recordFraudFindings (tenantId : String) (findings : List FraudFinding) (now : Int)
    (flags : Table FraudFlag) : Table FraudFlag :=
  findings.foldl (upsertFlag tenantId now) flags

end OutboxWorkerRuntime

end ShopcityLoyalty
