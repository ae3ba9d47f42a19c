import ShopcityLoyalty.Writes

/-!
The earn policy and the redemption policy: rates, thresholds, credit amounts, expiry dates
and the versions that an approval remembers.

A policy comes from the branch's configuration or, where none is configured, from the
environment; each function takes the configured policy as an option, as the source does.
-/

namespace ShopcityLoyalty

/-! ### Earning -/

/-- The part of a configured policy the earn path selects. -/
structure EarnPolicyValues where
  version : Int
  defaultEarnRateBps : Int
  purchaseFlagThresholdKobo : Int
  purchaseApprovalThresholdKobo : Int
  purchaseAmountCeilingKobo : Int
  deriving DecidableEq

def PolicyConfiguration.earnPolicy (p : PolicyConfiguration) : EarnPolicyValues where
  version := p.version
  defaultEarnRateBps := p.defaultEarnRateBps
  purchaseFlagThresholdKobo := p.purchaseFlagThresholdKobo
  purchaseApprovalThresholdKobo := p.purchaseApprovalThresholdKobo
  purchaseAmountCeilingKobo := p.purchaseAmountCeilingKobo

/-- The credit for a paid amount, rounded up. -/
def calculateEarnAmountKobo (paidAmountKobo earnRateBps : Int) : Int :=
  (paidAmountKobo * earnRateBps + 9999) / 10000

def resolveEarnRateBps (rt : Runtime) (policy : Option EarnPolicyValues) : Int :=
  (policy.map (·.defaultEarnRateBps)).getD rt.DEFAULT_EARN_RATE_BPS

def resolveEarnCaptureStatus (purchaseAmountKobo : Int) (rt : Runtime)
    (policy : Option EarnPolicyValues) : ReceiptCaptureStatus :=
  let flagThresholdKobo :=
    (policy.map (·.purchaseFlagThresholdKobo)).getD rt.PURCHASE_FLAG_THRESHOLD_KOBO
  let approvalThresholdKobo :=
    (policy.map (·.purchaseApprovalThresholdKobo)).getD rt.PURCHASE_APPROVAL_THRESHOLD_KOBO
  if purchaseAmountKobo > approvalThresholdKobo then .PENDING_APPROVAL
  else if purchaseAmountKobo > flagThresholdKobo then .FLAGGED
  else .CAPTURED

def purchaseCeilingKobo (rt : Runtime) (policy : Option EarnPolicyValues) : Int :=
  (policy.map (·.purchaseAmountCeilingKobo)).getD rt.PURCHASE_AMOUNT_CEILING_KOBO

/-- The text whose digest is the version of an earn policy. -/
def earnPolicyText (rt : Runtime) (policy : Option EarnPolicyValues) : String :=
  Json.stableStringify <| .object [
    ("purchaseFlagThresholdKobo",
      .number ((policy.map (·.purchaseFlagThresholdKobo)).getD rt.PURCHASE_FLAG_THRESHOLD_KOBO)),
    ("purchaseApprovalThresholdKobo",
      .number ((policy.map (·.purchaseApprovalThresholdKobo)).getD
        rt.PURCHASE_APPROVAL_THRESHOLD_KOBO)),
    ("purchaseAmountCeilingKobo", .number (purchaseCeilingKobo rt policy)),
    ("defaultEarnRateBps", .number (resolveEarnRateBps rt policy)),
    ("version", (policy.map fun p => Json.number p.version).getD .null)]

def getEarnApprovalPolicyVersion (rt : Runtime) (policy : Option EarnPolicyValues) : String :=
  (sha256 (earnPolicyText rt policy)).text

/-- `Date.UTC`: a year from 0 to 99 is read as one of the twentieth century. -/
def dateUTC (date : Calendar.Date) (msOfDay : Int) : Int :=
  let year := if 0 ≤ date.year ∧ date.year ≤ 99 then 1900 + date.year else date.year
  Calendar.join ⟨year, date.month, date.day⟩ msOfDay

/-- The same day some months later, or the last day of that month where it is too short. -/
def addUtcMonthsClamped (date : Int) (months : Int) : Int :=
  let (d, ms) := Calendar.split date
  let monthIndex := d.month - 1 + months
  let targetYear := d.year + monthIndex / 12
  let targetMonth := monthIndex % 12
  let lastDayOfTargetMonth :=
    Calendar.daysInMonth (if 0 ≤ targetYear ∧ targetYear ≤ 99 then 1900 + targetYear
      else targetYear) (targetMonth + 1)
  dateUTC ⟨targetYear, targetMonth + 1, min d.day lastDayOfTargetMonth⟩ ms

/-! ### Redeeming -/

structure RedemptionPolicyValues where
  minRedemptionKobo : Int
  maxRedemptionBasketPercent : Int
  redemptionApprovalThresholdKobo : Int
  version : Int
  deriving DecidableEq

def PolicyConfiguration.redemptionPolicy (p : PolicyConfiguration) : RedemptionPolicyValues where
  minRedemptionKobo := p.minRedemptionKobo
  maxRedemptionBasketPercent := p.maxRedemptionBasketPercent
  redemptionApprovalThresholdKobo := p.redemptionApprovalThresholdKobo
  version := p.version

structure RedemptionPolicyInput where
  requestedAmountKobo : Int
  basketAmountKobo : Int
  activeBalanceKobo : Int

structure RedemptionPolicyResult where
  minimumRedemptionKobo : Int
  basketCapKobo : Int
  maximumAllowedKobo : Int
  approvalThresholdKobo : Int
  requiresApproval : Bool
  policyVersion : String
  deriving DecidableEq

namespace RedemptionPolicyService

/-- The environment's numbers are written as numbers, the configured ones as texts. -/
def policyText (rt : Runtime) : Option RedemptionPolicyValues → String
  | none => Json.stringify <| .object [
      ("minimumRedemptionKobo", .number rt.MIN_REDEMPTION_KOBO),
      ("maxBasketPercent", .number rt.MAX_REDEMPTION_BASKET_PERCENT),
      ("approvalThresholdKobo", .number rt.REDEMPTION_APPROVAL_THRESHOLD_KOBO)]
  | some p => Json.stringify <| .object [
      ("minimumRedemptionKobo", .string (toString p.minRedemptionKobo)),
      ("maxBasketPercent", .number p.maxRedemptionBasketPercent),
      ("approvalThresholdKobo", .string (toString p.redemptionApprovalThresholdKobo)),
      ("version", .number p.version)]

def policyVersion (rt : Runtime) (configuredPolicy : Option RedemptionPolicyValues) : String :=
  (sha256 (policyText rt configuredPolicy)).text

def evaluate (rt : Runtime) (input : RedemptionPolicyInput)
    (configuredPolicy : Option RedemptionPolicyValues) : RedemptionPolicyResult :=
  let minimumRedemptionKobo :=
    (configuredPolicy.map (·.minRedemptionKobo)).getD rt.MIN_REDEMPTION_KOBO
  let maxBasketPercent :=
    (configuredPolicy.map (·.maxRedemptionBasketPercent)).getD rt.MAX_REDEMPTION_BASKET_PERCENT
  let approvalThresholdKobo :=
    (configuredPolicy.map (·.redemptionApprovalThresholdKobo)).getD
      rt.REDEMPTION_APPROVAL_THRESHOLD_KOBO
  let basketCapKobo := input.basketAmountKobo * maxBasketPercent / 100
  { minimumRedemptionKobo
    basketCapKobo
    maximumAllowedKobo :=
      if input.activeBalanceKobo < basketCapKobo then input.activeBalanceKobo else basketCapKobo
    approvalThresholdKobo
    requiresApproval := input.requestedAmountKobo > approvalThresholdKobo
    policyVersion := policyVersion rt configuredPolicy }

end RedemptionPolicyService

/-! ### The version of a settlement -/

def settlementPolicyText (redemptionPolicyVersion earnPolicyVersion : String) : String :=
  Json.stringify <| .object [("redemptionPolicyVersion", .string redemptionPolicyVersion),
    ("earnPolicyVersion", .string earnPolicyVersion)]

def buildSettlementPolicyVersion (redemptionPolicyVersion earnPolicyVersion : String) : String :=
  "settlement-v1:" ++ (sha256 (settlementPolicyText redemptionPolicyVersion earnPolicyVersion)).text

def isSettlementPolicyVersion (version : String) : Bool :=
  "settlement-v1:".toList.isPrefixOf version.toList

end ShopcityLoyalty
