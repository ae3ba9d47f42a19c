import ShopcityLoyalty.Database
import ShopcityLoyalty.Lib.Executions

/-!
Updates of a branch's policy: `ConfigurationService.updatePolicyConfiguration` behind the
validation of its body, as processes that interleave.

A read that no lock protects is a statement of its own. The write of the policy repeats the
version as a condition and locks the row, so that it, the row read back and the audit entry
are one statement, at the commit.
-/

namespace ShopcityLoyalty

/-- An integer between two bounds. -/
abbrev Bounded (min max : Int) := { n : Int // min ≤ n ∧ n ≤ max }

/-- What the validation takes from the platform. -/
structure ValidationRuntime where
  /-- `Number(text)`, where it is an integer. -/
  Number : String → Option Int
  isUUID : String → Bool

def MAX_SAFE_INTEGER : Int := 9007199254740991

/-- The largest value of an `INTEGER` column. -/
def MAX_INTEGER_COLUMN : Nat := 2147483647

/-! ### The body of a request -/

/-- The values that a policy has. -/
structure PolicyValues where
  defaultEarnRateBps : Bounded 0 10000
  minRedemptionKobo : Bounded 1 MAX_SAFE_INTEGER
  maxRedemptionBasketPercent : Bounded 1 100
  purchaseFlagThresholdKobo : Bounded 0 MAX_SAFE_INTEGER
  purchaseApprovalThresholdKobo : Bounded 0 MAX_SAFE_INTEGER
  purchaseAmountCeilingKobo : Bounded 0 MAX_SAFE_INTEGER
  redemptionApprovalThresholdKobo : Bounded 1 MAX_SAFE_INTEGER
  offlineRedemptionDisabled : Bool
  deriving DecidableEq

structure UpdatePolicyConfigurationDto where
  branchId : String
  defaultEarnRateBps : Bounded 0 10000
  minRedemptionKobo : Bounded 1 MAX_SAFE_INTEGER
  maxRedemptionBasketPercent : Bounded 1 100
  purchaseFlagThresholdKobo : Bounded 0 MAX_SAFE_INTEGER
  purchaseApprovalThresholdKobo : Bounded 0 MAX_SAFE_INTEGER
  purchaseAmountCeilingKobo : Bounded 0 MAX_SAFE_INTEGER
  redemptionApprovalThresholdKobo : Bounded 1 MAX_SAFE_INTEGER
  offlineRedemptionDisabled : Bool
  expectedVersion : Nat
  deriving DecidableEq

/-- What a request is answered with where it fails. -/
inductive PolicyFault
  /-- The validation's 400, with the properties it names. -/
  | invalid (properties : List String)
  | fault (fault : Fault)
  /-- The conflict, with the version in its details. -/
  | versionConflict (currentVersion : Option Nat)
  deriving DecidableEq

namespace UpdatePolicyConfigurationDto

/-- The properties of the class. -/
def properties : List String :=
  ["branchId", "defaultEarnRateBps", "minRedemptionKobo", "maxRedemptionBasketPercent",
    "purchaseFlagThresholdKobo", "purchaseApprovalThresholdKobo", "purchaseAmountCeilingKobo",
    "redemptionApprovalThresholdKobo", "offlineRedemptionDisabled", "expectedVersion"]

/-- The value of a property in a parsed body. -/
def value (body : List (String × Json)) (property : String) : Json :=
  ((body.find? fun f => f.1 = property).map (·.2)).getD .undefined

variable (rt : ValidationRuntime)

/-- The conversion to a number, where it gives an integer. -/
def toInt : Json → Option Int
  | .number n => some n
  | .bool b => some (if b then 1 else 0)
  | .string s => rt.Number s
  | _ => none

/-- The conversion to a text. -/
def toText : Json → Option String
  | .string s => some s
  | .number n => some (toString n)
  | .bool b => some (if b then "true" else "false")
  | .object _ => some "[object Object]"
  | _ => none

/-- The conversion to a boolean. -/
def toBoolean : Json → Option Bool
  | .bool b => some b
  | .number n => some (n ≠ 0)
  | .string s => some (s ≠ "")
  | .object _ => some true
  | _ => none

/-- `@IsInt() @Min(min) @Max(max)`. -/
def bounded (min max : Int) (v : Json) : Option (Bounded min max) :=
  (toInt rt v).bind fun n => if h : min ≤ n ∧ n ≤ max then some ⟨n, h⟩ else none

/-- `@IsInt() @Min(0)`. -/
def version (v : Json) : Option Nat :=
  (toInt rt v).bind fun n => if 0 ≤ n then some n.toNat else none

/-- `@IsUUID()`. -/
def uuid (v : Json) : Option String := (toText v).filter rt.isUUID

/-- The body as an instance of the class, where every property is valid. -/
def instance? (body : List (String × Json)) : Option UpdatePolicyConfigurationDto := do
  return {
    branchId := ← uuid rt (value body "branchId")
    defaultEarnRateBps := ← bounded rt _ _ (value body "defaultEarnRateBps")
    minRedemptionKobo := ← bounded rt _ _ (value body "minRedemptionKobo")
    maxRedemptionBasketPercent := ← bounded rt _ _ (value body "maxRedemptionBasketPercent")
    purchaseFlagThresholdKobo := ← bounded rt _ _ (value body "purchaseFlagThresholdKobo")
    purchaseApprovalThresholdKobo := ← bounded rt _ _ (value body "purchaseApprovalThresholdKobo")
    purchaseAmountCeilingKobo := ← bounded rt _ _ (value body "purchaseAmountCeilingKobo")
    redemptionApprovalThresholdKobo :=
      ← bounded rt _ _ (value body "redemptionApprovalThresholdKobo")
    offlineRedemptionDisabled := ← toBoolean (value body "offlineRedemptionDisabled")
    expectedVersion := ← version rt (value body "expectedVersion") }

/-- Whether the value of a property is refused. -/
def invalidProperty (body : List (String × Json)) (property : String) : Bool :=
  let v := value body property
  match property with
  | "branchId" => (uuid rt v).isNone
  | "defaultEarnRateBps" => (bounded rt 0 10000 v).isNone
  | "maxRedemptionBasketPercent" => (bounded rt 1 100 v).isNone
  | "minRedemptionKobo" | "redemptionApprovalThresholdKobo" =>
      (bounded rt 1 MAX_SAFE_INTEGER v).isNone
  | "offlineRedemptionDisabled" => (toBoolean v).isNone
  | "expectedVersion" => (version rt v).isNone
  | _ => (bounded rt 0 MAX_SAFE_INTEGER v).isNone

/-- The validation pipe: other properties are forbidden. -/
def validate (body : List (String × Json)) : Except PolicyFault UpdatePolicyConfigurationDto :=
  let forbidden := (body.map (·.1)).filter fun property => property ∉ properties
  match forbidden, instance? rt body with
  | [], some input => .ok input
  | _, _ => .error (.invalid (forbidden ++ properties.filter (invalidProperty rt body)))

end UpdatePolicyConfigurationDto

/-! ### What is stored -/

structure PolicyScope where
  tenantId : String
  branchId : String
  deriving DecidableEq

structure PolicyRow where
  id : String
  version : Nat
  values : PolicyValues
  deriving DecidableEq

structure PolicyAuditMetadata where
  branchId : String
  version : Nat
  previousVersion : Nat
  policy : PolicyValues
  deriving DecidableEq

structure PolicyAuditLog where
  tenantId : String
  actorId : String
  action : String
  entityType : String
  entityId : String
  metadata : PolicyAuditMetadata
  deriving DecidableEq

/-- The policies under their unique key, and the audit log. -/
structure PolicyStore where
  policies : PolicyScope → Option PolicyRow
  auditLogs : List PolicyAuditLog

/-- What `assertBranchScope` selects of a branch. -/
structure PolicyBranch where
  name : String
  status : BranchStatus
  deriving DecidableEq

/-- What a statement meets: the branches as they are, and the id of a row it creates. -/
structure PolicySurroundings where
  branches : PolicyScope → Option PolicyBranch
  uuid : String

structure PolicyResponse where
  id : String
  tenantId : String
  branchId : String
  branchName : String
  version : Nat
  values : PolicyValues
  deriving DecidableEq

/-- A `PATCH` of the policies. -/
structure PolicyRequest where
  tenantId : String
  actorId : String
  body : List (String × Json)

namespace ConfigurationService

open Txn

abbrev Handling (α : Type) := Process PolicySurroundings PolicyStore PolicyFault α

abbrev PolicyTx (α : Type) := Txn PolicyStore PolicyFault α

def assertBranchScope (scope : PolicyScope) : Handling PolicyBranch :=
  Process.attempt fun env s =>
    (match env.branches scope with
      | none => .error (.fault (.http 404 "BRANCH_NOT_FOUND"
          "The requested branch is not in the current tenant."))
      | some branch =>
          if branch.status ≠ .ACTIVE then
            .error (.fault (.http 503 "DEPENDENCY_UNAVAILABLE" "The requested branch is inactive."))
          else .ok branch, s)

def policyValidationFailed (message : String) : PolicyFault :=
  .fault (.http 422 "POLICY_VALIDATION_FAILED" message)

def validatePolicyRelationships (input : UpdatePolicyConfigurationDto) :
    Except PolicyFault Unit :=
  if input.purchaseApprovalThresholdKobo.1 < input.purchaseFlagThresholdKobo.1 then
    .error (policyValidationFailed
      "Purchase approval threshold cannot be below the fraud flag threshold.")
  else if input.purchaseAmountCeilingKobo.1 < input.purchaseApprovalThresholdKobo.1 then
    .error (policyValidationFailed
      "Purchase amount ceiling cannot be below the approval threshold.")
  else if input.redemptionApprovalThresholdKobo.1 < input.minRedemptionKobo.1 then
    .error (policyValidationFailed
      "Redemption approval threshold cannot be below the minimum redemption.")
  else .ok ()

def policyData (input : UpdatePolicyConfigurationDto) : PolicyValues where
  defaultEarnRateBps := input.defaultEarnRateBps
  minRedemptionKobo := input.minRedemptionKobo
  maxRedemptionBasketPercent := input.maxRedemptionBasketPercent
  purchaseFlagThresholdKobo := input.purchaseFlagThresholdKobo
  purchaseApprovalThresholdKobo := input.purchaseApprovalThresholdKobo
  purchaseAmountCeilingKobo := input.purchaseAmountCeilingKobo
  redemptionApprovalThresholdKobo := input.redemptionApprovalThresholdKobo
  offlineRedemptionDisabled := input.offlineRedemptionDisabled

def serializePolicy (policy : PolicyRow) (scope : PolicyScope) (branchName : String) :
    PolicyResponse where
  id := policy.id
  tenantId := scope.tenantId
  branchId := scope.branchId
  branchName := branchName
  version := policy.version
  values := policy.values

/-- The write of a policy under its unique key. -/
def putPolicy (scope : PolicyScope) (policy : PolicyRow) : PolicyTx Unit :=
  update fun s => { s with policies := Function.update s.policies scope (some policy) }

/-- `policyConfiguration.create`. -/
def createPolicy (scope : PolicyScope) (id : String) (data : PolicyValues) :
    PolicyTx PolicyRow := do
  let s ← get
  rejectIf (s.policies scope).isSome
    (.fault (.http 500 "SYSTEM_ERROR" "Unique constraint failed"))
  let policy : PolicyRow := ⟨id, 1, data⟩
  putPolicy scope policy
  pure policy

/-- `policyConfiguration.updateMany` under the version, and the row read back. -/
def updateManyPolicy (scope : PolicyScope) (expectedVersion : Nat) (data : PolicyValues) :
    PolicyTx PolicyRow := do
  let s ← get
  let current ← orFault ((s.policies scope).filter fun p => p.version = expectedVersion)
    (.versionConflict none)
  rejectIf (MAX_INTEGER_COLUMN ≤ current.version)
    (.fault (.http 500 "SYSTEM_ERROR" "Value out of range for the type"))
  let policy : PolicyRow := ⟨current.id, current.version + 1, data⟩
  putPolicy scope policy
  pure policy

/-- `auditService.recordWithClient`. -/
def recordPolicyAudit (auditLog : PolicyAuditLog) : PolicyTx Unit :=
  update fun s => { s with auditLogs := s.auditLogs ++ [auditLog] }

def policyAuditLog (scope : PolicyScope) (actorId : String) (expectedVersion : Nat)
    (policy : PolicyRow) : PolicyAuditLog where
  tenantId := scope.tenantId
  actorId := actorId
  action := "configuration.policy.updated"
  entityType := "PolicyConfiguration"
  entityId := policy.id
  metadata := ⟨scope.branchId, policy.version, expectedVersion, policy.values⟩

/-- The write for the policy that was read. Where there was none the expected version is 0, as
it was compared with 0. -/
def writePolicy (scope : PolicyScope) (input : UpdatePolicyConfigurationDto)
    (current : Option PolicyRow) (uuid : String) : PolicyTx PolicyRow :=
  match current with
  | none => createPolicy scope uuid (policyData input)
  | some _ => updateManyPolicy scope input.expectedVersion (policyData input)

/-- The rest of the transaction once the policy was read. -/
def savePolicy (tenantId actorId : String) (input : UpdatePolicyConfigurationDto)
    (branch : PolicyBranch) (current : Option PolicyRow) (uuid : String) :
    PolicyTx PolicyResponse := do
  let scope : PolicyScope := ⟨tenantId, input.branchId⟩
  let policy ← writePolicy scope input current uuid
  recordPolicyAudit (policyAuditLog scope actorId input.expectedVersion policy)
  pure (serializePolicy policy scope branch.name)

/-- The transaction: it reads the policy, and saves it where its version is the expected one. -/
def policyTransaction (tenantId actorId : String) (input : UpdatePolicyConfigurationDto)
    (branch : PolicyBranch) : Handling PolicyResponse := do
  let current ← Process.statement fun _ s => (s.policies ⟨tenantId, input.branchId⟩, s)
  let currentVersion := (current.map (·.version)).getD 0
  if currentVersion ≠ input.expectedVersion then
    Process.fail (.versionConflict (some currentVersion)) else
  Process.transaction fun env => savePolicy tenantId actorId input branch current env.uuid

def updatePolicyConfiguration (tenantId actorId : String) (input : UpdatePolicyConfigurationDto) :
    Handling PolicyResponse := do
  let branch ← assertBranchScope ⟨tenantId, input.branchId⟩
  let _ ← Process.ofExcept (validatePolicyRelationships input)
  policyTransaction tenantId actorId input branch

/-- A request, from its body on. -/
def patchPolicies (rt : ValidationRuntime) (req : PolicyRequest) : Handling PolicyResponse := do
  let input ← Process.ofExcept (UpdatePolicyConfigurationDto.validate rt req.body)
  updatePolicyConfiguration req.tenantId req.actorId input

end ConfigurationService

/-- Requests in flight on one store. -/
abbrev PolicyRequests :=
  Pool PolicyRequest PolicySurroundings PolicyStore PolicyFault PolicyResponse

def PolicyStore.empty : PolicyStore := ⟨fun _ => none, []⟩

end ShopcityLoyalty
