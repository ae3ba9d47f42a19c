import ShopcityLoyalty.Lib.Process
import ShopcityLoyalty.ReportSummaries

/-!
The materializations of one tenant's reports: processes that note in a state row that they
run, replace the rows of their scopes in one transaction, and note the outcome afterwards.
-/

namespace ShopcityLoyalty

inductive MaterializationStatus | RUNNING | COMPLETED | FAILED
  deriving DecidableEq

structure MaterializationState where
  asOf : Int
  status : MaterializationStatus
  lastError : Option String
  materializedAt : Option Int

/-- What a materialization is asked for, of one branch or of the tenant. -/
structure Materialization where
  branchId : Option String
  asOf : Int
  materializedAt : Int
  dormantCustomerDays : Int

/-- A committed transaction, with the tables it read. -/
structure Rebuild where
  request : Materialization
  tables : ReportTables

/-- The state rows and the report rows of a tenant. -/
structure ReportStore where
  states : ReportMaterializerService.ReportScope → Option MaterializationState
  rows : ReportMaterializerService.ReportScope → ReportMaterializerService.ScopeRows
  /-- The transactions in the order of their commits. Nothing reads them. -/
  rebuilds : List Rebuild

/-- What a statement meets: the tables as they are, or a failure. -/
structure MaterializerSurroundings where
  tables : ReportTables
  failure : Option String

namespace ReportMaterializerService

abbrev Materializing (α : Type) := Process MaterializerSurroundings ReportStore String α

/-! #### Statements -/

/-- What a statement does unless it fails. -/
def unlessFails (f : ReportTables → ReportStore → ReportStore) (env : MaterializerSurroundings)
    (s : ReportStore) : Except String Unit × ReportStore :=
  match env.failure with
  | some e => (.error e, s)
  | none => (.ok (), f env.tables s)

def statement (f : ReportTables → ReportStore → ReportStore) : Materializing Unit :=
  Process.attempt (unlessFails f)

def upsertState (scope : ReportScope) (state : MaterializationState) : Materializing Unit :=
  statement fun _ s => { s with states := Function.update s.states scope (some state) }

/-- The scope of the state row. -/
def scopeOf : Option String → ReportScope
  | none => .TENANT
  | some branchId => .BRANCH branchId

def ScopeRows.empty : ScopeRows := ⟨[], [], [], [], [], []⟩

def ScopeRows.append (a b : ScopeRows) : ScopeRows where
  dailyFinancialSummaries := a.dailyFinancialSummaries ++ b.dailyFinancialSummaries
  cashierDailySummaries := a.cashierDailySummaries ++ b.cashierDailySummaries
  customerSnapshots := a.customerSnapshots ++ b.customerSnapshots
  liabilityBuckets := a.liabilityBuckets ++ b.liabilityBuckets
  redemptionDailySummaries := a.redemptionDailySummaries ++ b.redemptionDailySummaries
  smsDailySummaries := a.smsDailySummaries ++ b.smsDailySummaries

/-- `deleteTenantRows` and `deleteBranchRows`, with the state rows. -/
def deleteRows : Option String → ReportStore → ReportStore
  | none, s => { s with states := fun _ => none, rows := fun _ => .empty }
  | some branchId, s =>
      { s with
        states := Function.update s.states (.BRANCH branchId) none
        rows := Function.update s.rows (.BRANCH branchId) .empty }

def insertRows (plan : List (ReportScope × ScopeRows)) (s : ReportStore) : ReportStore :=
  plan.foldl (fun s row =>
    { s with rows := Function.update s.rows row.1 ((s.rows row.1).append row.2) }) s

def upsertStates (scopes : List ReportScope) (state : MaterializationState) (s : ReportStore) :
    ReportStore :=
  scopes.foldl (fun s scope =>
    { s with states := Function.update s.states scope (some state) }) s

end ReportMaterializerService

open ReportMaterializerService

/-- The rows that a transaction computes of the source it loads. -/
def Rebuild.plan (rt : ReportRuntime) (tenantId : String) (r : Rebuild) :
    List (ReportScope × ScopeRows) :=
  buildPlan rt (loadSourceData r.tables tenantId r.request.asOf) r.request.branchId r.request.asOf
    r.request.dormantCustomerDays

def Materialization.scope (k : Materialization) : ReportScope := scopeOf k.branchId

def Materialization.running (k : Materialization) : MaterializationState :=
  ⟨k.asOf, .RUNNING, none, some k.materializedAt⟩

def Materialization.completed (k : Materialization) : MaterializationState :=
  ⟨k.asOf, .COMPLETED, none, some k.materializedAt⟩

def Materialization.failed (k : Materialization) (error : String) : MaterializationState :=
  ⟨k.asOf, .FAILED, some error, none⟩

namespace ReportMaterializerService

variable (rt : ReportRuntime) (tenantId : String)

/-- The transaction, under its lock. -/
def rebuild (r : Rebuild) (s : ReportStore) : ReportStore :=
  let plan := r.plan rt tenantId
  let s := deleteRows r.request.branchId s
  let s := insertRows plan s
  let s := upsertStates (plan.map Prod.fst) r.request.completed s
  { s with rebuilds := s.rebuilds ++ [r] }

/-- The transaction, or a note of its failure. -/
def rebuildOrFail (k : Materialization) : Materializing Unit :=
  Process.catching (statement fun tables s => rebuild rt tenantId ⟨k, tables⟩ s) fun error => do
    upsertState k.scope (k.failed error)
    Process.fail error

def complete (k : Materialization) : Materializing Unit := upsertState k.scope k.completed

def materialize (k : Materialization) : Materializing Unit := do
  upsertState k.scope k.running
  rebuildOrFail rt tenantId k
  complete k

end ReportMaterializerService

abbrev Materializers := Pool Materialization MaterializerSurroundings ReportStore String Unit

def noReports : ReportStore := ⟨fun _ => none, fun _ => .empty, []⟩

end ShopcityLoyalty
