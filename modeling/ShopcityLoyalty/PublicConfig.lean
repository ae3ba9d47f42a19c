import ShopcityLoyalty.AuthSchema
import ShopcityLoyalty.PolicyUpdates
import ShopcityLoyalty.Lib.Machines

/-!
The public configuration: `ConfigurationService.getPublicConfig` with its cache, beside updates of
the policies, in one process.

Between two awaits a request runs alone, so that a step goes from one await to the next. The reads
of the tenant and the branch see what their surroundings supply.
-/

namespace ShopcityLoyalty

/-- What the service takes from the environment. -/
structure PublicConfigRuntime where
  VERCEL_GIT_COMMIT_REF : Option String
  DEFAULT_PUBLIC_TENANT_ID : Option String
  DEFAULT_PUBLIC_BRANCH_ID : Option String
  DEFAULT_EARN_RATE_BPS : Option Int
  MIN_REDEMPTION_KOBO : Option Int
  MAX_REDEMPTION_BASKET_PERCENT : Option Int
  PURCHASE_FLAG_THRESHOLD_KOBO : Option Int
  PURCHASE_APPROVAL_THRESHOLD_KOBO : Option Int
  PURCHASE_AMOUNT_CEILING_KOBO : Option Int
  REDEMPTION_APPROVAL_THRESHOLD_KOBO : Option Int
  validation : ValidationRuntime

structure PublicTenant where
  id : String
  name : String
  status : TenantStatus

structure PublicBranch where
  id : String
  tenantId : String
  name : String
  timezone : String
  receiptWeekStartDay : Nat
  status : BranchStatus

structure PublicPolicies where
  defaultEarnRateBps : Int
  minRedemptionKobo : Int
  maxRedemptionBasketPercent : Int
  purchaseFlagThresholdKobo : Int
  purchaseApprovalThresholdKobo : Int
  purchaseAmountCeilingKobo : Int
  redemptionApprovalThresholdKobo : Int
  offlineRedemptionDisabled : Bool

/-- A configuration, with the tenant and the branch by their rows. -/
structure PublicConfig where
  tenant : PublicTenant
  branch : PublicBranch
  policies : PublicPolicies
  /-- The version of the policy that was read, 0 where there was none. The response leaves it
  out. -/
  version : Nat

inductive PublicConfigFault
  /-- A `ServiceUnavailableException`. -/
  | unavailable (message : String)
  | error (message : String)
  /-- The cache is read as an object where it is `null`. -/
  | typeError

/-- A stale configuration may be answered instead. -/
def PublicConfigFault.allowsStale : PublicConfigFault → Bool
  | unavailable _ => false
  | _ => true

structure CachedConfig where
  value : PublicConfig
  loadedAt : Int

/-- The database's policies and the fields of the service, with the loads started so far, each
with its outcome once it has one. -/
structure ConfigurationProcess where
  store : PolicyStore
  publicConfigCache : Option CachedConfig
  publicConfigRefresh : Option Nat
  loads : List (Option (Except PublicConfigFault PublicConfig))
  /-- The latest version of each scope that an update has returned: the history, which no field
  keeps. -/
  returned : PolicyScope → Nat

inductive ConfigurationRequest
  | getPublicConfig
  | patchPolicies (req : PolicyRequest)

/-- What a step meets. -/
structure ConfigurationSurroundings where
  now : Int
  tenants : String → Option PublicTenant
  branches : String → Option PublicBranch
  /-- The error that a read throws. -/
  failure : Option String
  policy : PolicySurroundings

namespace ConfigurationService

def PUBLIC_CONFIG_FRESH_MS : Int := 5 * 60 * 1000
def PUBLIC_CONFIG_STALE_MS : Int := 30 * 60 * 1000
def STAGING_TENANT_ID : String := "d7e5c452-a63b-445c-af0d-aa740a676905"
def STAGING_BRANCH_ID : String := "80241e14-2855-4cd8-87ad-0dd06083b50a"

variable (rt : PublicConfigRuntime)

/-- The tenant and the branch whose configuration is public. -/
def publicScope : PolicyScope :=
  if rt.VERCEL_GIT_COMMIT_REF = some "staging" then ⟨STAGING_TENANT_ID, STAGING_BRANCH_ID⟩
  else
    { tenantId := rt.DEFAULT_PUBLIC_TENANT_ID.getD "00000000-0000-4000-8000-000000000001"
      branchId :=
        if rt.DEFAULT_PUBLIC_BRANCH_ID = some "00000000-0000-0000-0000-000000000002" then
          "00000000-0000-4000-8000-000000000002"
        else rt.DEFAULT_PUBLIC_BRANCH_ID.getD "00000000-0000-4000-8000-000000000002" }

def defaultPolicyValues : PublicPolicies where
  defaultEarnRateBps := rt.DEFAULT_EARN_RATE_BPS.getD 200
  minRedemptionKobo := rt.MIN_REDEMPTION_KOBO.getD 50000
  maxRedemptionBasketPercent := rt.MAX_REDEMPTION_BASKET_PERCENT.getD 30
  purchaseFlagThresholdKobo := rt.PURCHASE_FLAG_THRESHOLD_KOBO.getD 10000000
  purchaseApprovalThresholdKobo := rt.PURCHASE_APPROVAL_THRESHOLD_KOBO.getD 20000000
  purchaseAmountCeilingKobo := rt.PURCHASE_AMOUNT_CEILING_KOBO.getD 100000000
  redemptionApprovalThresholdKobo := rt.REDEMPTION_APPROVAL_THRESHOLD_KOBO.getD 500000
  offlineRedemptionDisabled := true

def serializePolicyValues (values : PolicyValues) : PublicPolicies where
  defaultEarnRateBps := values.defaultEarnRateBps.1
  minRedemptionKobo := values.minRedemptionKobo.1
  maxRedemptionBasketPercent := values.maxRedemptionBasketPercent.1
  purchaseFlagThresholdKobo := values.purchaseFlagThresholdKobo.1
  purchaseApprovalThresholdKobo := values.purchaseApprovalThresholdKobo.1
  purchaseAmountCeilingKobo := values.purchaseAmountCeilingKobo.1
  redemptionApprovalThresholdKobo := values.redemptionApprovalThresholdKobo.1
  offlineRedemptionDisabled := values.offlineRedemptionDisabled

/-- The version of a policy that was read. -/
def versionOf (policy : Option PolicyRow) : Nat := (policy.map (·.version)).getD 0

/-- `loadConfig`, once its three reads are done. -/
def loadConfig (env : ConfigurationSurroundings) (policy : Option PolicyRow) :
    Except PublicConfigFault PublicConfig :=
  match env.tenants (publicScope rt).tenantId, env.branches (publicScope rt).branchId with
  | some tenant, some branch =>
      if branch.tenantId ≠ tenant.id then
        .error (.error "Public configuration bootstrap data is inconsistent")
      else if tenant.status ≠ .ACTIVE ∨ branch.status ≠ .ACTIVE then
        .error (.unavailable "Public configuration is unavailable")
      else
        .ok
          { tenant
            branch
            policies := (policy.map fun p => serializePolicyValues p.values).getD
              (defaultPolicyValues rt)
            version := versionOf policy }
  | _, _ => .error (.error "Public configuration bootstrap data is missing")

def isCachedConfigActive (env : ConfigurationSurroundings) (config : PublicConfig) : Bool :=
  match env.tenants config.tenant.id, env.branches config.branch.id with
  | some tenant, some branch =>
      tenant.status = .ACTIVE ∧ branch.status = .ACTIVE ∧ branch.tenantId = tenant.id
  | _, _ => false

/-- Where a request stands. A call for the configuration keeps what updates had returned when it
started, and the time. -/
inductive ConfigurationPlace
  | calling
  | verifying (since : Nat) (now : Int) (value : PublicConfig)
  | joined (since : Nat) (load : Nat)
  | readingPolicy (since : Nat) (now : Int) (load : Nat)
  | settling (since : Nat) (now : Int) (load : Nat) (policy : Option PolicyRow)
  | resuming (since : Nat) (now : Int) (load : Nat)
  | answered (since : Nat) (result : Except PublicConfigFault PublicConfig)
  | updating (rest : Handling PolicyResponse)
  | updated (result : Except PolicyFault PolicyResponse)

open ConfigurationPlace

/-- A load in flight is joined; without one, one is started. -/
def refresh (since : Nat) (now : Int) (s : ConfigurationProcess) :
    ConfigurationPlace × ConfigurationProcess :=
  match s.publicConfigRefresh with
  | some load => (joined since load, s)
  | none => (readingPolicy since now s.loads.length,
      { s with publicConfigRefresh := some s.loads.length, loads := s.loads ++ [none] })

/-- The load ends. -/
def settle (load : Nat) (outcome : Except PublicConfigFault PublicConfig)
    (s : ConfigurationProcess) : ConfigurationProcess :=
  { s with loads := s.loads.set load (some outcome) }

/-- The call that started a load goes on after it. -/
def resume (since : Nat) (now loadedAt : Int) (outcome : Except PublicConfigFault PublicConfig)
    (s : ConfigurationProcess) : ConfigurationPlace × ConfigurationProcess :=
  match outcome with
  | .ok value => (answered since (.ok value),
      { s with publicConfigCache := some ⟨value, loadedAt⟩, publicConfigRefresh := none })
  | .error fault =>
      let stale := s.publicConfigCache.filter fun cached =>
        fault.allowsStale ∧ now - cached.loadedAt < PUBLIC_CONFIG_STALE_MS
      match stale with
      | some cached => (answered since (.ok cached.value), { s with publicConfigRefresh := none })
      | none => (answered since (.error fault), { s with publicConfigRefresh := none })

/-- The step from a place. -/
def next (env : ConfigurationSurroundings) :
    ConfigurationPlace → ConfigurationProcess → Option (ConfigurationPlace × ConfigurationProcess)
  | calling, s =>
      let since := s.returned (publicScope rt)
      match s.publicConfigCache.filter fun cached =>
          env.now - cached.loadedAt < PUBLIC_CONFIG_FRESH_MS with
      | some cached => some (verifying since env.now cached.value, s)
      | none => some (refresh since env.now s)
  | verifying since now value, s =>
      match env.failure with
      | some message => some (answered since (.error (.error message)), s)
      | none =>
          if isCachedConfigActive env value then
            match s.publicConfigCache with
            | some cached => some (answered since (.ok cached.value), s)
            | none => some (answered since (.error .typeError), s)
          else some (refresh since now { s with publicConfigCache := none })
  | joined since load, s =>
      match s.loads[load]? with
      | some (some outcome) => some (answered since outcome, s)
      | _ => none
  | readingPolicy since now load, s =>
      match env.failure with
      | some message => some (resuming since now load, settle load (.error (.error message)) s)
      | none => some (settling since now load (s.store.policies (publicScope rt)), s)
  | settling since now load policy, s =>
      match env.failure with
      | some message => some (resuming since now load, settle load (.error (.error message)) s)
      | none => some (resuming since now load, settle load (loadConfig rt env policy) s)
  | resuming since now load, s =>
      match s.loads[load]? with
      | some (some outcome) => some (resume since now env.now outcome s)
      | _ => none
  | updating (.act st rest), s =>
      some (updating (rest (st env.policy s.store).1),
        { s with store := (st env.policy s.store).2 })
  | updating (.fail fault), s => some (updated (.error fault), s)
  | updating (.done response), s =>
      -- the transaction is committed: the cache is emptied, and the update returns
      let scope : PolicyScope := ⟨response.tenantId, response.branchId⟩
      some (updated (.ok response),
        { s with
          publicConfigCache := none
          returned := Function.update s.returned scope (max (s.returned scope) response.version) })
  | answered _ _, _ => none
  | updated _, _ => none

def start : ConfigurationRequest → ConfigurationPlace
  | .getPublicConfig => calling
  | .patchPolicies req => updating (patchPolicies rt.validation req)

def configuration : Machine ConfigurationRequest ConfigurationSurroundings ConfigurationProcess
    ConfigurationPlace where
  start := start rt
  next _ := next rt

/-- The process as it starts. -/
def started (store : PolicyStore) : ConfigurationProcess := ⟨store, none, none, [], fun _ => 0⟩

end ConfigurationService

/-- Requests in flight in one process. -/
abbrev ConfigurationRequests :=
  Crew ConfigurationRequest ConfigurationProcess ConfigurationService.ConfigurationPlace

end ShopcityLoyalty
