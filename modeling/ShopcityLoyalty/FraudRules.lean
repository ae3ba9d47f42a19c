import ShopcityLoyalty.Policy

/-!
The fraud rules, as the service has them and as the outbox worker has them: what each finds
about a receipt, a redemption, or the behaviour of staff and customers.
-/

namespace ShopcityLoyalty

inductive FraudSeverity | LOW | MEDIUM | HIGH
  deriving DecidableEq

inductive FraudSubjectType | RECEIPT | REDEMPTION | LEDGER_ENTRY
  deriving DecidableEq

inductive FraudRuleCode
  | FR_DUP_001 | FR_HV_001 | FR_HV_002 | FR_HV_003 | FR_CARD_001 | FR_CASH_001 | FR_ROUND_001
  | FR_REV_001 | FR_REPL_001 | FR_AUTH_001
  deriving DecidableEq

def FraudRuleCode.text : FraudRuleCode → String
  | FR_DUP_001 => "FR-DUP-001"
  | FR_HV_001 => "FR-HV-001"
  | FR_HV_002 => "FR-HV-002"
  | FR_HV_003 => "FR-HV-003"
  | FR_CARD_001 => "FR-CARD-001"
  | FR_CASH_001 => "FR-CASH-001"
  | FR_ROUND_001 => "FR-ROUND-001"
  | FR_REV_001 => "FR-REV-001"
  | FR_REPL_001 => "FR-REPL-001"
  | FR_AUTH_001 => "FR-AUTH-001"

structure FraudFinding where
  ruleCode : FraudRuleCode
  severity : FraudSeverity
  dedupeKey : String
  subjectType : FraudSubjectType
  subjectId : String
  windowStart : Int
  windowEnd : Option Int
  branchId : Option String
  cashierId : Option String
  customerId : Option String
  receiptId : Option String
  redemptionId : Option String
  evidence : Json

def dedupeKey (ruleCode : FraudRuleCode) (subjectId : String) : String :=
  ruleCode.text ++ ":" ++ subjectId

/-- `toISOString().slice(0, 10)`. -/
def dayKey (date : Int) : String :=
  String.ofList ((Calendar.toISOString date).toList.take 10)

/-- What the process runs with, for the fraud rules. -/
structure FraudRuntime extends Runtime where
  FRAUD_CARD_DAILY_COUNT_THRESHOLD : Option Nat
  FRAUD_CASHIER_MIN_SAMPLE_SIZE : Option Nat
  FRAUD_CASHIER_VALUE_RATIO_THRESHOLD_BPS : Option Int
  FRAUD_ROUNDED_VALUE_MIN_SAMPLE : Option Nat
  FRAUD_ROUNDED_VALUE_UNIT_KOBO : Option Int
  FRAUD_REVERSAL_COUNT_THRESHOLD : Option Nat
  FRAUD_CARD_REPLACEMENT_COUNT_THRESHOLD : Option Nat
  FRAUD_AUTH_FAILURE_COUNT_THRESHOLD : Option Nat
  reversal_threshold_pos : ∀ n ∈ FRAUD_REVERSAL_COUNT_THRESHOLD, 1 ≤ n
  /-- The instant that a text names: `new Date(text)`. -/
  parse : String → Option Int
  /-- The local date and the milliseconds into it, in whole seconds. -/
  localDateTime : String → Int → Calendar.Date × Int

/-- The defaults; dates are not read from texts, and every zone is UTC. -/
def Shop.fraudRuntime : FraudRuntime :=
  { Shop.runtime with
    FRAUD_CARD_DAILY_COUNT_THRESHOLD := none
    FRAUD_CASHIER_MIN_SAMPLE_SIZE := none
    FRAUD_CASHIER_VALUE_RATIO_THRESHOLD_BPS := none
    FRAUD_ROUNDED_VALUE_MIN_SAMPLE := none
    FRAUD_ROUNDED_VALUE_UNIT_KOBO := none
    FRAUD_REVERSAL_COUNT_THRESHOLD := none
    FRAUD_CARD_REPLACEMENT_COUNT_THRESHOLD := none
    FRAUD_AUTH_FAILURE_COUNT_THRESHOLD := none
    reversal_threshold_pos := by simp
    parse := fun _ => none
    localDateTime := fun _ => Calendar.split }

/-! ### The rows and counts an evaluation reads -/

structure FraudReceipt where
  id : String
  tenantId : String
  branchId : String
  customerId : String
  cardId : String
  capturedBy : String
  normalizedPosReceiptNumber : String
  receiptWeekStart : Int
  purchaseAmountKobo : Int
  occurredAt : Int
  deriving DecidableEq

structure FraudRedemption where
  id : String
  tenantId : String
  branchId : String
  customerId : String
  cardId : String
  receiptId : String
  requestedBy : String
  requestedAmountKobo : Int
  requestedAt : Int
  deriving DecidableEq

structure CashierDayTotal where
  cashierId : String
  receiptCount : Nat
  cashierValueKobo : Int

/-- What the queries of an evaluation answer. -/
structure FraudReads where
  receipt : (tenantId id : String) → Option FraudReceipt
  /-- A receipt and the time zone of its branch. -/
  receiptWithBranch : (tenantId id : String) → Option (FraudReceipt × String)
  /-- The receipts of a card in a local day. -/
  receiptFrequency : FraudReceipt → (timezone : String) → Nat
  /-- The receipts of a branch in a local day, by cashier. -/
  cashierDayTotals : FraudReceipt → (timezone : String) → List CashierDayTotal
  /-- The receipts of a cashier in a local day: multiples of the unit, and all. -/
  roundedReceiptCounts : FraudReceipt → (timezone : String) → (unitKobo : Int) → Nat × Nat
  redemption : (tenantId id : String) → Option FraudRedemption
  /-- A card's customer, and that customer's branch. -/
  card : (tenantId id : String) → Option (String × String)
  /-- The cards of a customer that were replaced in a half-open window. -/
  cardReplacements : (tenantId customerId : String) → (windowStart windowEnd : Int) → Nat
  /-- The reversing entries that someone created in a half-open window. -/
  reversals : (tenantId createdBy : String) → (windowStart windowEnd : Int) → Nat
  user : (tenantId id : String) → Bool
  loginFailures : (tenantId actorId : String) → (windowStart windowEnd : Int) → Nat

/-- Nothing is found. -/
def Shop.noReads : FraudReads where
  receipt _ _ := none
  receiptWithBranch _ _ := none
  receiptFrequency _ _ := 0
  cashierDayTotals _ _ := []
  roundedReceiptCounts _ _ _ := (0, 0)
  redemption _ _ := none
  card _ _ := none
  cardReplacements _ _ _ _ := 0
  reversals _ _ _ _ := 0
  user _ _ := false
  loginFailures _ _ _ _ := 0

/-! ### The service -/

structure FraudReceiptInput where
  tenantId : String
  receiptId : String
  branchId : String
  customerId : String
  cashierId : String
  cardId : String
  normalizedPosReceiptNumber : String
  receiptWeekStart : Int
  purchaseAmountKobo : Int
  occurredAt : Int

structure FraudRedemptionInput where
  tenantId : String
  redemptionId : String
  receiptId : String
  branchId : String
  customerId : String
  cashierId : String
  cardId : String
  requestedAmountKobo : Int
  occurredAt : Int

namespace FraudRulesService

def purchaseFlagThresholdKobo (rt : Runtime) (configuredPolicy : Option PolicyConfiguration) :
    Int :=
  (configuredPolicy.map (·.purchaseFlagThresholdKobo)).getD rt.PURCHASE_FLAG_THRESHOLD_KOBO

def purchaseApprovalThresholdKobo (rt : Runtime)
    (configuredPolicy : Option PolicyConfiguration) : Int :=
  (configuredPolicy.map (·.purchaseApprovalThresholdKobo)).getD rt.PURCHASE_APPROVAL_THRESHOLD_KOBO

def redemptionApprovalThresholdKobo (rt : Runtime)
    (configuredPolicy : Option PolicyConfiguration) : Int :=
  (configuredPolicy.map (·.redemptionApprovalThresholdKobo)).getD
    rt.REDEMPTION_APPROVAL_THRESHOLD_KOBO

/-- A receipt above a threshold. -/
def highValueReceipt (ruleCode : FraudRuleCode) (severity : FraudSeverity)
    (input : FraudReceiptInput) (thresholdKobo : Int) : List FraudFinding :=
  if input.purchaseAmountKobo > thresholdKobo then
    [{ ruleCode, severity
       dedupeKey := dedupeKey ruleCode input.receiptId
       subjectType := .RECEIPT
       subjectId := input.receiptId
       windowStart := input.receiptWeekStart
       windowEnd := none
       branchId := some input.branchId
       cashierId := some input.cashierId
       customerId := some input.customerId
       receiptId := some input.receiptId
       redemptionId := none
       evidence := .object [("purchaseAmountKobo", .string (toString input.purchaseAmountKobo)),
         ("thresholdKobo", .number thresholdKobo),
         ("normalizedPosReceiptNumber", .string input.normalizedPosReceiptNumber),
         ("occurredAt", .string (Calendar.toISOString input.occurredAt))] }]
  else []

def evaluateReceipt (rt : Runtime) (input : FraudReceiptInput)
    (configuredPolicy : Option PolicyConfiguration) : List FraudFinding :=
  highValueReceipt .FR_HV_001 .MEDIUM input (purchaseFlagThresholdKobo rt configuredPolicy) ++
    highValueReceipt .FR_HV_002 .HIGH input (purchaseApprovalThresholdKobo rt configuredPolicy)

def evaluateRedemption (rt : Runtime) (input : FraudRedemptionInput)
    (configuredPolicy : Option PolicyConfiguration) : List FraudFinding :=
  let thresholdKobo := redemptionApprovalThresholdKobo rt configuredPolicy
  if input.requestedAmountKobo ≤ thresholdKobo then []
  else
    [{ ruleCode := .FR_HV_003
       severity := .HIGH
       dedupeKey := dedupeKey .FR_HV_003 input.redemptionId
       subjectType := .REDEMPTION
       subjectId := input.redemptionId
       windowStart := input.occurredAt
       windowEnd := none
       branchId := some input.branchId
       cashierId := some input.cashierId
       customerId := some input.customerId
       receiptId := some input.receiptId
       redemptionId := some input.redemptionId
       evidence := .object [("requestedAmountKobo", .string (toString input.requestedAmountKobo)),
         ("thresholdKobo", .number thresholdKobo),
         ("occurredAt", .string (Calendar.toISOString input.occurredAt))] }]

end FraudRulesService

namespace FraudService

/-- `getConfiguredPolicy`. -/
def getConfiguredPolicy (registry : Registry) (tenantId branchId : String) :
    Option PolicyConfiguration :=
  registry.policies tenantId branchId

/-- The high-value findings of `evaluateReceipt`. -/
def receiptFindings (rt : Runtime) (registry : Registry) (input : FraudReceiptInput) :
    List FraudFinding :=
  FraudRulesService.evaluateReceipt rt input
    (getConfiguredPolicy registry input.tenantId input.branchId)

def redemptionFindings (rt : Runtime) (registry : Registry) (input : FraudRedemptionInput) :
    List FraudFinding :=
  FraudRulesService.evaluateRedemption rt input
    (getConfiguredPolicy registry input.tenantId input.branchId)

end FraudService

end ShopcityLoyalty
