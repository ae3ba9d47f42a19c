import ShopcityLoyalty.RedemptionSnapshots
import ShopcityLoyalty.ReportSources

/-!
Balances in the reports: what the tenant's snapshot shows of a customer against what the
customer can spend, and against what the snapshots of the branches show together.
-/

namespace ShopcityLoyalty

open ReportMaterializerService

/-! ### Snapshots of one customer -/

section snapshots

variable (source : SourceData) (scope : ReportScope) (asOf dormantCustomerDays : Int)

/-- The snapshot of a customer in a scope. -/
def customerSnapshotOf (customerId : String) : Option CustomerSnapshot :=
  (buildCustomerSnapshots source scope asOf dormantCustomerDays).find?
    fun snapshot => snapshot.customerId = customerId

/-- The balance a scope shows of a customer, nothing where it shows no such customer. -/
def shownBalanceKobo (customerId : String) : Int :=
  ((customerSnapshotOf source scope asOf dormantCustomerDays customerId).map
    (·.currentBalanceKobo)).getD 0

variable {source scope asOf dormantCustomerDays} {x : CustomerRecord} {customerId : String}

/-- The scopes that show a customer: the tenant and the home branch. -/
def ReportMaterializerService.ReportScope.Shows : ReportScope → CustomerRecord → Prop
  | .TENANT, _ => True
  | .BRANCH branchId, customer => customer.branchId = branchId

lemma mem_filterCustomersForScope {customers : List CustomerRecord} :
    x ∈ filterCustomersForScope customers scope ↔ x ∈ customers ∧ scope.Shows x := by
  cases scope with
  | TENANT => simp [filterCustomersForScope, ReportScope.Shows]
  | BRANCH branchId => simp [filterCustomersForScope, ReportScope.Shows]

lemma filterCustomersForScope_sublist (customers : List CustomerRecord) (scope : ReportScope) :
    (filterCustomersForScope customers scope).Sublist customers := by
  cases scope with
  | TENANT => exact .refl _
  | BRANCH branchId => exact List.filter_sublist

lemma customerSnapshotOf_eq (hn : (source.customers.map (·.id)).Nodup) :
    customerSnapshotOf source scope asOf dormantCustomerDays customerId =
      ((filterCustomersForScope source.customers scope).find? fun x => x.id = customerId).map
        (customerSnapshot source scope asOf dormantCustomerDays) := by
  have hids : (((filterCustomersForScope source.customers scope).map
      (customerSnapshot source scope asOf dormantCustomerDays)).map (·.customerId)).Nodup := by
    rw [List.map_map]
    exact hn.sublist ((filterCustomersForScope_sublist source.customers scope).map _)
  have hperm := (List.perm_insertionSort (fun left right : CustomerSnapshot =>
    left.customerId ≤ right.customerId) ((filterCustomersForScope source.customers scope).map
      (customerSnapshot source scope asOf dormantCustomerDays))).symm
  unfold customerSnapshotOf buildCustomerSnapshots
  rw [find?_perm hids hperm, List.find?_map]
  rfl

lemma customerSnapshotOf_some (hn : (source.customers.map (·.id)).Nodup) (hx : x ∈ source.customers)
    (hshows : scope.Shows x) :
    customerSnapshotOf source scope asOf dormantCustomerDays x.id =
      some (customerSnapshot source scope asOf dormantCustomerDays x) := by
  have hn' := hn.sublist ((filterCustomersForScope_sublist source.customers scope).map (·.id))
  have hmem : x ∈ filterCustomersForScope source.customers scope :=
    mem_filterCustomersForScope.2 ⟨hx, hshows⟩
  have hfind : (filterCustomersForScope source.customers scope).find? (fun y => y.id = x.id) =
      some x := find?_key hn' hmem
  rw [customerSnapshotOf_eq hn, hfind, Option.map_some]

lemma shownBalanceKobo_zero (hn : (source.customers.map (·.id)).Nodup)
    (hnone : ∀ x ∈ source.customers, x.id = customerId → ¬ scope.Shows x) :
    shownBalanceKobo source scope asOf dormantCustomerDays customerId = 0 := by
  have hfind : (filterCustomersForScope source.customers scope).find?
      (fun x => x.id = customerId) = none := by
    refine List.find?_eq_none.2 fun x hx => ?_
    obtain ⟨hmem, hshows⟩ := mem_filterCustomersForScope.1 hx
    simpa using fun hid => hnone x hmem hid hshows
  unfold shownBalanceKobo
  rw [customerSnapshotOf_eq hn, hfind]
  rfl

end snapshots

/-! ### What a customer can spend -/

variable {rt : Runtime} {s : System} {tables : ReportTables} {tenantId customerId : String}
  {now asOf dormantCustomerDays : Int}

/-- The tenant's snapshot as of now shows what the customer can spend now. -/
def ShowsSpendable (tables : ReportTables) (tenantId customerId : String)
    (now dormantCustomerDays : Int) : Prop :=
  (customerSnapshotOf (loadSourceData tables tenantId now) .TENANT now dormantCustomerDays
      customerId).map (·.currentBalanceKobo) =
    some (ActiveBalanceService.getActiveBalanceKobo tables.db tenantId customerId now)

/-- The lots a customer can spend are those the report counts and those earned later. -/
lemma spendable_eq_iff {db : Database} :
    db.lots.tally (fun l => l.tenantId = tenantId ∧ l.earnedAt ≤ now ∧ l.customerId = customerId ∧
        now < l.expiresAt) (·.remainingAmountKobo) =
      ActiveBalanceService.getActiveBalanceKobo db tenantId customerId now ↔
    ∀ l ∈ db.lots, l.tenantId = tenantId → l.customerId = customerId → now < l.expiresAt →
      0 < l.remainingAmountKobo → l.earnedAt ≤ now := by
  let unexpired : CreditLot → Prop := fun l =>
    l.tenantId = tenantId ∧ l.customerId = customerId ∧ now < l.expiresAt
  have hactive : ActiveBalanceService.getActiveBalanceKobo db tenantId customerId now =
      db.lots.tally unexpired (·.remainingAmountKobo) := by
    refine Table.tally_congr fun l _ => ?_
    have hnonneg := l.remaining_nonneg
    simp only [ActiveBalanceService.activeCreditLotWhere, unexpired, Bool.and_eq_true,
      decide_eq_true_eq]
    by_cases hpos : 0 < l.remainingAmountKobo
    · simp [hpos, and_assoc]
    · have hzero : l.remainingAmountKobo = 0 := by omega
      simp [hzero]
  rw [hactive, Table.tally_eq_iff (fun l _ h => ⟨h.1, h.2.2⟩) fun l _ _ => l.remaining_nonneg]
  constructor
  · intro hzero l hl hten hcust hexp hpos
    by_contra hlater
    have hempty := hzero l hl ⟨hten, hcust, hexp⟩ fun h => hlater h.2.1
    omega
  · rintro hearned l hl ⟨hten, hcust, hexp⟩ hnot
    have hnonneg := l.remaining_nonneg
    by_contra hne
    exact hnot ⟨hten, hearned l hl hten hcust hexp (by omega), hcust, hexp⟩

/-- **The balance in the report is the live one** exactly if no credit that the customer can
spend was earned later than now. -/
theorem report_balance_is_live_iff {c : Customer} (h : ReachableBy rt now s)
    (hdb : tables.db = s.db) (hcreated : tables.CreatedBy tenantId now)
    (hc : s.db.registry.customers customerId = some c) (hten : c.tenantId = tenantId) :
    ShowsSpendable tables tenantId customerId now dormantCustomerDays ↔
      ∀ l ∈ s.db.lots, l.tenantId = tenantId → l.customerId = customerId → now < l.expiresAt →
        0 < l.remainingAmountKobo → l.earnedAt ≤ now := by
  have hbooks : tables.db.books.Balanced := hdb ▸ h.reachable.invariants.books
  have hexpired : tables.db.ExpiredBy now := hdb ▸ h.expiredBy
  rw [← hdb] at hc ⊢
  have hsnapshot : customerSnapshotOf (loadSourceData tables tenantId now) .TENANT now
      dormantCustomerDays customerId = some (customerSnapshot (loadSourceData tables tenantId now)
        .TENANT now dormantCustomerDays
          ⟨customerId, c.branchId, tables.customerCreatedAt customerId⟩) :=
    customerSnapshotOf_some (loaded_customers_nodup tables tenantId now)
      (mem_customers hc hten (hcreated.customer hc hten)) trivial
  have hbalance := sumLots_eq hbooks hcreated hexpired
    (p := fun lot => lot.customerId = customerId ∧ lot.expiresAt > now)
    (q := fun l => l.customerId = customerId ∧ now < l.expiresAt) fun i l => by
      simp [creditLotRecord]
  unfold ShowsSpendable
  rw [hsnapshot, Option.map_some, Option.some.injEq, ← spendable_eq_iff, ← hbalance]
  rfl

/-! ### A credit that is earned later -/

namespace Shop

/-- A credit adjustment of a whole purchase's credit, effective at an instant. -/
def credited (effectiveAt : Int) : Op :=
  .adjust
    { actor := ⟨"administrator", "tenant", none, .ADMIN, none⟩
      idempotencyKey := "credited"
      customerId := "customer"
      kind := .CREDIT
      amountKobo := ⟨80000, by decide⟩
      reason := "goodwill"
      effectiveAt
      requestHash := sha256 "credited" } night night night

/-- A lot, without the bounds that its row carries. -/
def lotRow (l : CreditLot) : (String × String) × Int × Int × Int :=
  ((l.tenantId, l.customerId), l.remainingAmountKobo, l.earnedAt, l.expiresAt)

lemma reportTables_createdBy {db : Database} (h : db.registry = registry) :
    (reportTables db h).CreatedBy "tenant" night :=
  ⟨fun _ _ => le_rfl, fun _ _ => le_rfl, fun _ _ => le_rfl⟩

lemma customer_registered {db : Database} (h : db.registry = registry) :
    db.registry.customers "customer" =
      some ⟨"tenant", "branch", "+2340000000000", false, .ACTIVE⟩ := by
  rw [h]
  simp [registry]

end Shop

/-- A purchase, partly redeemed: the balance of the report is what is left. -/
theorem report_balance_is_live_shop : ∃ (t : System) (h : t.db.registry = Shop.registry),
    Shop.opened.runAll Shop.runtime Shop.redeemed = .ok t ∧
      ShowsSpendable (Shop.reportTables t.db h) "tenant" "customer" Shop.night 90 := by
  obtain ⟨t, hrun, ht⟩ := ReachableBy.of_runAll Shop.runtime Shop.registry Shop.night Shop.redeemed
    (by decide +kernel)
    (by simp [Shop.redeemed, Shop.earn, Shop.redeem, Op.Admissible])
    (by simp [Shop.redeemed, Shop.earn, Shop.redeem, Op.readings])
  have hregistry : t.db.registry = Shop.registry :=
    System.runAll_registry (.initial Shop.registry) hrun
      (by simp [Shop.redeemed, Shop.earn, Shop.redeem])
  have hlots : t.db.lots.all (fun l => l.earnedAt ≤ Shop.night) = true :=
    System.of_runAll_map hrun (f := fun t => t.db.lots.all fun l => l.earnedAt ≤ Shop.night)
      (by decide +kernel)
  refine ⟨t, hregistry, hrun, ?_⟩
  refine (report_balance_is_live_iff ht rfl (Shop.reportTables_createdBy hregistry)
    (Shop.customer_registered hregistry) rfl).2 fun l hl _ _ _ _ => ?_
  exact of_decide_eq_true (List.all_eq_true.1 hlots l hl)

/-- A credit that is effective in an hour can be spent, and no report shows it. -/
theorem report_balance_not_live : ∃ (t : System) (h : t.db.registry = Shop.registry),
    Shop.opened.runAll Shop.runtime [Shop.credited (Shop.night + 3600000)] = .ok t ∧
      ReachableBy Shop.runtime Shop.night t ∧
      ¬ ShowsSpendable (Shop.reportTables t.db h) "tenant" "customer" Shop.night 90 := by
  obtain ⟨t, hrun, ht⟩ := ReachableBy.of_runAll Shop.runtime Shop.registry Shop.night
    [Shop.credited (Shop.night + 3600000)] (by decide +kernel)
    (by simp [Shop.credited, Op.Admissible]) (by simp [Shop.credited, Op.readings])
  have hregistry : t.db.registry = Shop.registry :=
    System.runAll_registry (.initial Shop.registry) hrun (by simp [Shop.credited])
  have hlots : t.db.lots.map Shop.lotRow = [(("tenant", "customer"), 80000, Shop.night + 3600000,
      Shop.night + 3600000 + 366 * 86400000)] :=
    System.of_runAll_map hrun (f := fun t => t.db.lots.map Shop.lotRow) (by decide +kernel)
  obtain ⟨l, hl, hrow⟩ := List.mem_map.1 (hlots ▸ List.mem_singleton_self _)
  simp only [Shop.lotRow, Prod.mk.injEq] at hrow
  obtain ⟨⟨hten, hcust⟩, hleft, hearned, hexp⟩ := hrow
  refine ⟨t, hregistry, hrun, ht, fun hshows => ?_⟩
  have hle := (report_balance_is_live_iff ht rfl (Shop.reportTables_createdBy hregistry)
    (Shop.customer_registered hregistry) rfl).1 hshows l hl hten hcust (by omega) (by omega)
  omega

end ShopcityLoyalty
