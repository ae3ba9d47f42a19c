import ShopcityLoyalty.FraudFlags

/-!
The high-value rules of the outbox worker against those of the service.

The worker takes its thresholds from the environment, the service takes them from the policy
of the branch, where there is one.
-/

namespace ShopcityLoyalty

/-! ### Findings by rule -/

section
variable {codes : List FraudRuleCode} {findings : List FraudFinding} {p : FraudRuleCode → Bool}

lemma Found.ruleCode_mem (h : Found codes findings) {f : FraudFinding} (hf : f ∈ findings) :
    f.ruleCode ∈ codes :=
  h.rules.subset (List.mem_map_of_mem hf)

lemma Found.filter_all (h : Found codes findings) (hp : ∀ code ∈ codes, p code) :
    findings.filter (fun f => p f.ruleCode) = findings :=
  List.filter_eq_self.2 fun _ hf => hp _ (h.ruleCode_mem hf)

lemma Found.filter_none (h : Found codes findings) (hp : ∀ code ∈ codes, ¬ p code) :
    findings.filter (fun f => p f.ruleCode) = [] :=
  List.filter_eq_nil_iff.2 fun _ hf => hp _ (h.ruleCode_mem hf)

lemma Found.append_inj {a b : FraudRuleCode} {as as' bs bs' : List FraudFinding} (hne : a ≠ b)
    (has : Found [a] as) (has' : Found [a] as') (hbs : Found [b] bs) (hbs' : Found [b] bs') :
    as ++ bs = as' ++ bs' ↔ as = as' ∧ bs = bs' := by
  have hfirst : ∀ {cs ds : List FraudFinding}, Found [a] cs → Found [b] ds →
      (cs ++ ds).filter (fun f => decide (f.ruleCode = a)) = cs := by
    intro cs ds hcs hds
    rw [List.filter_append, hcs.filter_all (p := fun code => decide (code = a)) (by simp),
      hds.filter_none (p := fun code => decide (code = a)) (by simp [hne.symm]), List.append_nil]
  constructor
  · intro heq
    have has_eq : as = as' := by rw [← hfirst has hbs, heq, hfirst has' hbs']
    refine ⟨has_eq, ?_⟩
    rw [has_eq] at heq
    exact List.append_cancel_left heq
  · rintro ⟨rfl, rfl⟩
    rfl

end

/-! ### Thresholds -/

/-- Two thresholds are the same, or the amount is above neither. -/
def SameFor (amountKobo a b : Int) : Prop := a = b ∨ (amountKobo ≤ a ∧ amountKobo ≤ b)

lemma above_eq_iff {f g : FraudFinding} {amountKobo a b : Int} (hnamed : f = g ↔ a = b) :
    (if amountKobo > a then [f] else []) = (if amountKobo > b then [g] else []) ↔
      SameFor amountKobo a b := by
  unfold SameFor
  by_cases ha : amountKobo > a
  · by_cases hb : amountKobo > b
    · simp only [ha, hb, if_true, List.cons.injEq, and_true, hnamed]
      omega
    · simp only [ha, hb, if_true, if_false]
      exact iff_of_false (by simp) (by omega)
  · by_cases hb : amountKobo > b
    · simp only [ha, hb, if_true, if_false]
      exact iff_of_false (by simp) (by omega)
    · simp only [ha, hb, if_false]
      exact iff_of_true trivial (by omega)

/-- The receipt as the service is given it. -/
def FraudReceipt.input (receipt : FraudReceipt) : FraudReceiptInput where
  tenantId := receipt.tenantId
  receiptId := receipt.id
  branchId := receipt.branchId
  customerId := receipt.customerId
  cashierId := receipt.capturedBy
  cardId := receipt.cardId
  normalizedPosReceiptNumber := receipt.normalizedPosReceiptNumber
  receiptWeekStart := receipt.receiptWeekStart
  purchaseAmountKobo := receipt.purchaseAmountKobo
  occurredAt := receipt.occurredAt

/-- The redemption as the service is given it. -/
def FraudRedemption.input (redemption : FraudRedemption) : FraudRedemptionInput where
  tenantId := redemption.tenantId
  redemptionId := redemption.id
  receiptId := redemption.receiptId
  branchId := redemption.branchId
  customerId := redemption.customerId
  cashierId := redemption.requestedBy
  cardId := redemption.cardId
  requestedAmountKobo := redemption.requestedAmountKobo
  occurredAt := redemption.requestedAt

lemma found_serviceReceipt (ruleCode : FraudRuleCode) (severity : FraudSeverity)
    (input : FraudReceiptInput) (thresholdKobo : Int) :
    Found [ruleCode]
      (FraudRulesService.highValueReceipt ruleCode severity input thresholdKobo) := by
  unfold FraudRulesService.highValueReceipt
  split
  · exact .single rfl rfl
  · exact .nil _

lemma highValueReceipt_eq_iff (ruleCode : FraudRuleCode) (severity : FraudSeverity)
    (receipt : FraudReceipt) (a b : Int) :
    OutboxWorkerRuntime.highValueReceipt ruleCode severity receipt a =
        FraudRulesService.highValueReceipt ruleCode severity receipt.input b ↔
      SameFor receipt.purchaseAmountKobo a b := by
  apply above_eq_iff
  constructor
  · intro h
    have hevidence := congrArg FraudFinding.evidence h
    simp only [Json.object.injEq, List.cons.injEq, Prod.mk.injEq, Json.number.injEq] at hevidence
    exact hevidence.2.1.2
  · rintro rfl
    rfl

lemma redemptionFindings_eq_iff (rt : Runtime) (redemption : FraudRedemption)
    (configuredPolicy : Option PolicyConfiguration) :
    OutboxWorkerRuntime.redemptionFindings rt redemption =
        FraudRulesService.evaluateRedemption rt redemption.input configuredPolicy ↔
      SameFor redemption.requestedAmountKobo rt.REDEMPTION_APPROVAL_THRESHOLD_KOBO
        (FraudRulesService.redemptionApprovalThresholdKobo rt configuredPolicy) := by
  have hservice : ∀ (finding : FraudFinding) (thresholdKobo : Int),
      (if redemption.requestedAmountKobo ≤ thresholdKobo then [] else [finding]) =
        if redemption.requestedAmountKobo > thresholdKobo then [finding] else [] := by
    intro finding thresholdKobo
    split <;> split <;> first | rfl | omega
  refine Iff.trans (Eq.congr_right (hservice _ _)) (above_eq_iff ?_)
  constructor
  · intro h
    have hevidence := congrArg FraudFinding.evidence h
    simp only [Json.object.injEq, List.cons.injEq, Prod.mk.injEq, Json.number.injEq] at hevidence
    exact hevidence.2.1.2
  · intro h
    rw [← h]
    rfl

lemma receiptFindings_eq_iff (rt : Runtime) (receipt : FraudReceipt)
    (configuredPolicy : Option PolicyConfiguration) :
    OutboxWorkerRuntime.receiptFindings rt receipt =
        FraudRulesService.evaluateReceipt rt receipt.input configuredPolicy ↔
      SameFor receipt.purchaseAmountKobo rt.PURCHASE_FLAG_THRESHOLD_KOBO
          (FraudRulesService.purchaseFlagThresholdKobo rt configuredPolicy) ∧
        SameFor receipt.purchaseAmountKobo rt.PURCHASE_APPROVAL_THRESHOLD_KOBO
          (FraudRulesService.purchaseApprovalThresholdKobo rt configuredPolicy) := by
  rw [← highValueReceipt_eq_iff .FR_HV_001 .MEDIUM, ← highValueReceipt_eq_iff .FR_HV_002 .HIGH]
  exact Found.append_inj (by decide) (OutboxWorkerRuntime.found_highValueReceipt ..)
    (found_serviceReceipt ..) (OutboxWorkerRuntime.found_highValueReceipt ..)
    (found_serviceReceipt ..)

/-! ### The worker and the service -/

namespace OutboxWorkerRuntime

def IsHighValue (code : FraudRuleCode) : Bool :=
  code = .FR_HV_001 ∨ code = .FR_HV_002 ∨ code = .FR_HV_003

/-- What the worker finds about high values in an event. -/
def highValueFindings (rt : FraudRuntime) (reads : FraudReads) (now : Int) (event : OutboxEvent) :
    List FraudFinding :=
  match evaluateFraudForOutboxEvent rt reads now event (normalizeJsonPayload event.payload) with
  | .ok findings => findings.filter fun f => IsHighValue f.ruleCode
  | .error _ => []

/-- An event about what was captured, not about a duplicate. -/
structure Captured (aggregateType : String) (event : OutboxEvent) : Prop where
  eventType : event.eventType = "fraud.evaluate"
  aggregateType : event.aggregateType = aggregateType
  original : textField (normalizeJsonPayload event.payload) "ruleCode" ≠ some "FR-DUP-001"

section
variable {rt : FraudRuntime} {reads : FraudReads} {event : OutboxEvent}

lemma highValueFindings_receipt (now : Int) (h : Captured "receipt" event) {receipt : FraudReceipt}
    (hreceipt : reads.receipt event.tenantId event.aggregateId = some receipt) :
    highValueFindings rt reads now event = receiptFindings rt.toRuntime receipt := by
  have hvalue : Found [.FR_HV_001, .FR_HV_002] (receiptFindings rt.toRuntime receipt) :=
    (found_highValueReceipt ..).append (found_highValueReceipt ..)
  have hbehavior :=
    FraudBehaviorRuntime.found_receiptBehavior rt reads receipt.tenantId receipt.id
  unfold highValueFindings evaluateFraudForOutboxEvent
  simp only [h.eventType, h.aggregateType, h.original, hreceipt, ne_eq, not_true, if_true, if_false]
  rw [List.filter_append, hvalue.filter_all (by decide), hbehavior.filter_none (by decide),
    List.append_nil]

lemma highValueFindings_redemption (now : Int) (h : Captured "redemption" event)
    {redemption : FraudRedemption}
    (hredemption : reads.redemption event.tenantId event.aggregateId = some redemption) :
    highValueFindings rt reads now event = redemptionFindings rt.toRuntime redemption := by
  have hvalue := found_redemption rt.toRuntime redemption
  have hother : "redemption" ≠ "receipt" := by decide
  unfold highValueFindings evaluateFraudForOutboxEvent
  simp only [h.eventType, h.aggregateType, h.original, hredemption, hother, ne_eq,
    not_true, if_true,
    if_false]
  exact hvalue.filter_all (by decide)

end

/-- **The worker finds what the service finds** exactly where each threshold of the branch's
policy is that of the environment, or the amount is above neither. -/
theorem high_value_findings_agree_iff (rt : FraudRuntime) (registry : Registry)
    (reads : FraudReads) (now : Int) (event : OutboxEvent) :
    (∀ receipt : FraudReceipt, Captured "receipt" event →
      reads.receipt event.tenantId event.aggregateId = some receipt →
      (highValueFindings rt reads now event =
          FraudService.receiptFindings rt.toRuntime registry receipt.input ↔
        SameFor receipt.purchaseAmountKobo rt.PURCHASE_FLAG_THRESHOLD_KOBO
          (FraudRulesService.purchaseFlagThresholdKobo rt.toRuntime
            (registry.policies receipt.tenantId receipt.branchId)) ∧
        SameFor receipt.purchaseAmountKobo rt.PURCHASE_APPROVAL_THRESHOLD_KOBO
          (FraudRulesService.purchaseApprovalThresholdKobo rt.toRuntime
            (registry.policies receipt.tenantId receipt.branchId)))) ∧
    (∀ redemption : FraudRedemption, Captured "redemption" event →
      reads.redemption event.tenantId event.aggregateId = some redemption →
      (highValueFindings rt reads now event =
          FraudService.redemptionFindings rt.toRuntime registry redemption.input ↔
        SameFor redemption.requestedAmountKobo rt.REDEMPTION_APPROVAL_THRESHOLD_KOBO
          (FraudRulesService.redemptionApprovalThresholdKobo rt.toRuntime
            (registry.policies redemption.tenantId redemption.branchId)))) := by
  constructor
  · intro receipt hevent hreceipt
    rw [highValueFindings_receipt now hevent hreceipt]
    exact receiptFindings_eq_iff rt.toRuntime receipt _
  · intro redemption hevent hredemption
    rw [highValueFindings_redemption now hevent hredemption]
    exact redemptionFindings_eq_iff rt.toRuntime redemption _

namespace Shop

/-- A branch that flags purchases above 10,000 naira. -/
def strict : PolicyConfiguration where
  version := 1
  defaultEarnRateBps := 150
  minRedemptionKobo := 60000
  maxRedemptionBasketPercent := 25
  purchaseFlagThresholdKobo := 1000000
  purchaseApprovalThresholdKobo := 20000000
  purchaseAmountCeilingKobo := 100000000
  redemptionApprovalThresholdKobo := 500000
  rate_bounds := by decide
  percent_bounds := by decide
  min_pos := by decide

def strictBranch : Registry where
  branches _ := none
  devices _ := none
  cards := []
  customers _ := none
  policies _ branchId := if branchId = "branch" then some strict else none

/-- A purchase of 20,000 naira. -/
def purchase (branchId : String) : FraudReceipt where
  id := "receipt-1"
  tenantId := "tenant"
  branchId := branchId
  customerId := "customer"
  cardId := "card"
  capturedBy := "cashier"
  normalizedPosReceiptNumber := "R1"
  receiptWeekStart := 0
  purchaseAmountKobo := 2000000
  occurredAt := 0

def purchased : OutboxEvent := ⟨"tenant", "receipt", "receipt-1", "fraud.evaluate", .object []⟩

def purchaseReads (branchId : String) : FraudReads :=
  { ShopcityLoyalty.Shop.noReads with receipt := fun _ _ => some (purchase branchId) }

end Shop

/-- In a branch without a policy both find nothing about the purchase. -/
theorem high_value_findings_agree_shop :
    highValueFindings ShopcityLoyalty.Shop.fraudRuntime (Shop.purchaseReads "other") 0
        Shop.purchased =
      FraudService.receiptFindings ShopcityLoyalty.Shop.fraudRuntime.toRuntime Shop.strictBranch
        (Shop.purchase "other").input := by
  refine ((high_value_findings_agree_iff _ Shop.strictBranch (Shop.purchaseReads "other") 0
    Shop.purchased).1 (Shop.purchase "other") ⟨rfl, rfl, by decide⟩ rfl).2 ?_
  exact ⟨.inl rfl, .inl rfl⟩

/-- In the strict branch the service flags the purchase, and the worker does not. -/
theorem high_value_findings_differ :
    ¬ ∀ (registry : Registry) (reads : FraudReads) (event : OutboxEvent) (receipt : FraudReceipt),
      Captured "receipt" event → reads.receipt event.tenantId event.aggregateId = some receipt →
      highValueFindings ShopcityLoyalty.Shop.fraudRuntime reads 0 event =
        FraudService.receiptFindings ShopcityLoyalty.Shop.fraudRuntime.toRuntime registry
          receipt.input := by
  intro h
  have heq := h Shop.strictBranch (Shop.purchaseReads "branch") Shop.purchased
    (Shop.purchase "branch") ⟨rfl, rfl, by decide⟩ rfl
  have hworker : (highValueFindings ShopcityLoyalty.Shop.fraudRuntime
      (Shop.purchaseReads "branch") 0 Shop.purchased).length = 0 := by decide +kernel
  have hservice : (FraudService.receiptFindings ShopcityLoyalty.Shop.fraudRuntime.toRuntime
      Shop.strictBranch (Shop.purchase "branch").input).length = 1 := by decide +kernel
  rw [heq, hservice] at hworker
  cases hworker

end OutboxWorkerRuntime

end ShopcityLoyalty
