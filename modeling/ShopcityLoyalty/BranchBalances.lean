import ShopcityLoyalty.CustomerBalances

/-!
Balances in the snapshots of the branches: a branch shows the customers whose home it is, and
of their credit what was earned there, so that credit earned elsewhere is shown nowhere.
-/

namespace ShopcityLoyalty

open ReportMaterializerService

/-! ### Where a lot counts -/

/-- The lot was credited for a receipt of another branch. -/
def EarnedAway (source : SourceData) (home : String) (lot : CreditLotRecord) : Prop :=
  ∃ receipt ∈ source.receipts, lotReceiptId source lot.earnLedgerEntryId = some receipt.id ∧
    receipt.branchId ≠ home

section lots

variable {source : SourceData} {x : CustomerRecord} {lot : CreditLotRecord}

lemma customerBranchId_eq (hn : (source.customers.map (·.id)).Nodup) (hx : x ∈ source.customers) :
    customerBranchId source x.id = some x.branchId := by
  have hfind : source.customers.find? (fun y => y.id = x.id) = some x := find?_key hn hx
  unfold customerBranchId
  rw [hfind, Option.map_some]

lemma receiptBranchId_eq {receipt : ReceiptRecord} (hn : (source.receipts.map (·.id)).Nodup)
    (hr : receipt ∈ source.receipts) :
    receiptBranchId source receipt.id = some receipt.branchId := by
  have hfind : source.receipts.find? (fun y => y.id = receipt.id) = some receipt := find?_key hn hr
  unfold receiptBranchId
  rw [hfind, Option.map_some]

lemma receiptBranchId_none {id : Nat} (hnone : ∀ receipt ∈ source.receipts, receipt.id ≠ id) :
    receiptBranchId source id = none := by
  have hfind : source.receipts.find? (fun y => y.id = id) = none :=
    List.find?_eq_none.2 fun receipt hr => by simpa using hnone receipt hr
  unfold receiptBranchId
  rw [hfind, Option.map_none]

/-- A lot counts at home, unless it was earned away. -/
lemma lotBranchId_home_iff (hcustomers : (source.customers.map (·.id)).Nodup)
    (hreceipts : (source.receipts.map (·.id)).Nodup) (hx : x ∈ source.customers)
    (hlot : lot.customerId = x.id) :
    lotBranchId source lot = some x.branchId ↔ ¬ EarnedAway source x.branchId lot := by
  have hhome := customerBranchId_eq hcustomers hx
  unfold lotBranchId branchOf
  rw [hlot, hhome]
  cases hreceipt : lotReceiptId source lot.earnLedgerEntryId with
  | none =>
      have hnot : ¬ EarnedAway source x.branchId lot := by
        rintro ⟨receipt, -, hid, -⟩
        rw [hreceipt] at hid
        cases hid
      simp [hnot]
  | some id =>
      by_cases hloaded : ∃ receipt ∈ source.receipts, receipt.id = id
      · obtain ⟨receipt, hr, rfl⟩ := hloaded
        have hbranch := receiptBranchId_eq hreceipts hr
        have haway : EarnedAway source x.branchId lot ↔ receipt.branchId ≠ x.branchId := by
          constructor
          · rintro ⟨other, hother, hid, hne⟩
            have hsame : receipt.id = other.id := Option.some.inj (hreceipt.symm.trans hid)
            obtain rfl := List.inj_on_of_nodup_map hreceipts hr hother hsame
            exact hne
          · intro hne
            exact ⟨receipt, hr, hreceipt, hne⟩
        simp [hbranch, haway]
      · have hnone : receiptBranchId source id = none :=
          receiptBranchId_none fun receipt hr hid => hloaded ⟨receipt, hr, hid⟩
        have hnot : ¬ EarnedAway source x.branchId lot := by
          rintro ⟨receipt, hr, hid, -⟩
          exact hloaded ⟨receipt, hr, (Option.some.inj (hreceipt.symm.trans hid)).symm⟩
        simp [hnone, hnot]

end lots

/-! ### The branches together -/

variable {source : SourceData} {x : CustomerRecord} {asOf dormantCustomerDays : Int}
  {customerId : String}

/-- What the branches show of a customer together. -/
def branchBalancesKobo (source : SourceData) (asOf dormantCustomerDays : Int)
    (customerId : String) :
    Int :=
  (source.branches.map fun branch =>
    shownBalanceKobo source (.BRANCH branch.id) asOf dormantCustomerDays customerId).sum

/-- Whether a lot of a customer counts in a snapshot. -/
def countsFor (customerId : String) (asOf : Int) (lot : CreditLotRecord) : Bool :=
  lot.customerId = customerId ∧ lot.expiresAt > asOf

lemma shownBalanceKobo_eq {scope : ReportScope} (hn : (source.customers.map (·.id)).Nodup)
    (hx : x ∈ source.customers) (hshows : scope.Shows x) :
    shownBalanceKobo source scope asOf dormantCustomerDays x.id =
      sumLots ((filterLotsForScope source.creditLots source scope).filter (countsFor x.id asOf))
        (lotBalance source asOf) := by
  unfold shownBalanceKobo
  rw [customerSnapshotOf_some hn hx hshows]
  rfl

lemma shows_home (x : CustomerRecord) : (ReportScope.BRANCH x.branchId).Shows x := rfl

lemma shows_tenant (x : CustomerRecord) : ReportScope.TENANT.Shows x := trivial

lemma branchBalancesKobo_eq (hcustomers : (source.customers.map (·.id)).Nodup)
    (hbranches : (source.branches.map (·.id)).Nodup) (hx : x ∈ source.customers)
    (hhome : x.branchId ∈ source.branches.map (·.id)) :
    branchBalancesKobo source asOf dormantCustomerDays x.id =
      shownBalanceKobo source (.BRANCH x.branchId) asOf dormantCustomerDays x.id := by
  let home := shownBalanceKobo source (.BRANCH x.branchId) asOf dormantCustomerDays x.id
  have heach : (source.branches.map fun branch =>
      shownBalanceKobo source (.BRANCH branch.id) asOf dormantCustomerDays x.id) =
        (source.branches.map (·.id)).map fun id => if x.branchId = id then home else 0 := by
    rw [List.map_map]
    refine List.map_congr_left fun branch _ => ?_
    by_cases hbranch : x.branchId = branch.id
    · simp [home, hbranch]
    · have hzero : shownBalanceKobo source (.BRANCH branch.id) asOf dormantCustomerDays
          x.id = 0 := by
        refine shownBalanceKobo_zero hcustomers fun y hy hid hshows => ?_
        obtain rfl := List.inj_on_of_nodup_map hcustomers hy hx hid
        exact hbranch hshows
      simp [hzero, hbranch]
  unfold branchBalancesKobo
  rw [heach, sum_indicator hbranches hhome]

/-- The balances at home against all of them. -/
lemma home_eq_tenant_iff (hcustomers : (source.customers.map (·.id)).Nodup)
    (hreceipts : (source.receipts.map (·.id)).Nodup) (hx : x ∈ source.customers) :
    sumLots ((filterLotsForScope source.creditLots source (.BRANCH x.branchId)).filter
        (countsFor x.id asOf)) (lotBalance source asOf) =
      sumLots (source.creditLots.filter (countsFor x.id asOf)) (lotBalance source asOf) ↔
    ∀ lot ∈ source.creditLots, lot.customerId = x.id → asOf < lot.expiresAt →
      0 < replayedBalance source asOf lot.id → ¬ EarnedAway source x.branchId lot := by
  have hnonneg : ∀ lot, 0 ≤ lotBalance source asOf lot := by
    intro lot
    unfold lotBalance
    split <;> omega
  unfold sumLots filterLotsForScope
  rw [List.filter_filter, Table.sum_filter, Table.sum_filter,
    Table.tally_eq_iff (fun lot _ h => ((Bool.and_eq_true ..).mp h).1)
      fun lot _ _ => hnonneg lot.id]
  constructor
  · intro hzero lot hlot hcust hexp hpos haway
    have hcounts : countsFor x.id asOf lot = true := decide_eq_true ⟨hcust, hexp⟩
    have hempty := hzero lot hlot hcounts fun h => by
      have hhome := of_decide_eq_true ((Bool.and_eq_true ..).mp h).2
      exact (lotBranchId_home_iff hcustomers hreceipts hx hcust).1 hhome haway
    unfold lotBalance at hempty
    rw [if_neg (by omega)] at hempty
    omega
  · intro hhome lot hlot hcounts hnot
    obtain ⟨hcust, hexp⟩ := of_decide_eq_true hcounts
    unfold lotBalance
    by_cases hpos : 0 < replayedBalance source asOf lot.id
    · have hbranch := (lotBranchId_home_iff hcustomers hreceipts hx hcust).2
        (hhome lot hlot hcust hexp hpos)
      exact absurd ((Bool.and_eq_true ..).mpr ⟨hcounts, decide_eq_true hbranch⟩) hnot
    · by_cases hneg : replayedBalance source asOf lot.id < 0
      · rw [if_pos hneg]
      · rw [if_neg hneg]
        omega

lemma loaded_receipts_nodup (tables : ReportTables) (tenantId : String) (asOf : Int) :
    ((loadSourceData tables tenantId asOf).receipts.map (·.id)).Nodup := by
  have hrows := Table.nodup_select tables.db.receipts fun r => r.tenantId = tenantId
  have hall : (((tables.db.receipts.select fun r => r.tenantId = tenantId).map receiptRecord).map
      (·.id)).Nodup := by
    rw [List.map_map]
    exact hrows
  exact hall.sublist (List.filter_sublist.map _)

/-- **The branches add up to the tenant** exactly if no credit of the customer that still counts
was earned away from home. -/
theorem branch_balances_add_up_iff {tables : ReportTables} {tenantId customerId : String}
    {asOf dormantCustomerDays : Int} (hkeys : tables.db.ForeignKeys) :
    branchBalancesKobo (loadSourceData tables tenantId asOf) asOf dormantCustomerDays customerId =
        shownBalanceKobo (loadSourceData tables tenantId asOf) .TENANT asOf dormantCustomerDays
          customerId ↔
      ∀ x ∈ (loadSourceData tables tenantId asOf).customers, x.id = customerId →
        ∀ lot ∈ (loadSourceData tables tenantId asOf).creditLots, lot.customerId = customerId →
          asOf < lot.expiresAt →
          0 < replayedBalance (loadSourceData tables tenantId asOf) asOf lot.id →
          ¬ EarnedAway (loadSourceData tables tenantId asOf) x.branchId lot := by
  have hcustomers := loaded_customers_nodup tables tenantId asOf
  have hbranches := loaded_branches_nodup tables tenantId asOf
  have hreceipts := loaded_receipts_nodup tables tenantId asOf
  by_cases hloaded : ∃ x ∈ (loadSourceData tables tenantId asOf).customers, x.id = customerId
  · obtain ⟨x, hx, rfl⟩ := hloaded
    have hhome : x.branchId ∈ (loadSourceData tables tenantId asOf).branches.map (·.id) := by
      obtain ⟨c, hc, hten, hbranch⟩ := of_mem_customers hx
      obtain ⟨b, hb, hbten⟩ := hkeys.customer_branch hc
      rw [hbranch]
      exact mem_branches hb (hbten.trans hten)
    rw [branchBalancesKobo_eq hcustomers hbranches hx hhome,
      shownBalanceKobo_eq hcustomers hx (shows_home x),
        shownBalanceKobo_eq hcustomers hx (shows_tenant x)]
    refine (home_eq_tenant_iff hcustomers hreceipts hx).trans ⟨fun h y hy hid => ?_, fun h => ?_⟩
    · obtain rfl := List.inj_on_of_nodup_map hcustomers hy hx hid
      exact h
    · exact h x hx rfl
  · have hzero : ∀ scope, shownBalanceKobo (loadSourceData tables tenantId asOf) scope asOf
        dormantCustomerDays customerId = 0 := fun scope =>
      shownBalanceKobo_zero hcustomers fun y hy hid _ => hloaded ⟨y, hy, hid⟩
    refine iff_of_true ?_ fun x hx hid => absurd ⟨x, hx, hid⟩ hloaded
    unfold branchBalancesKobo
    simp [hzero]

/-! ### A purchase at another branch -/

namespace Shop

/-- A second branch with a till of its own. -/
def twoBranches : Registry where
  branches b := if b = "branch" ∨ b = "market" then some ⟨"tenant", "UTC", 1, .ACTIVE⟩ else none
  devices d :=
    if d = "till" then some ⟨"tenant", "branch", .ACTIVE⟩
    else if d = "stall" then some ⟨"tenant", "market", .ACTIVE⟩ else none
  cards := registry.cards
  customers := registry.customers
  policies := registry.policies

lemma nodup_customers : ["customer"].Nodup := by simp

/-- The tables of these branches, with everything created in one night. -/
def branchTables (db : Database) : ReportTables where
  db := { db with registry := twoBranches }
  branchIds := ["branch", "market"]
  customerIds := ["customer"]
  customerCreatedAt _ := night
  allocationCreatedAt _ := night
  restorationCreatedAt _ := night
  auditCreatedAt _ := night
  fraudFlags := []
  smsMessages _ := []
  branchIds_nodup := by simp
  customerIds_nodup := nodup_customers
  branch_listed id hid := by
    by_contra hne
    exact hid (by simp_all [twoBranches])
  customer_listed id hid := by
    by_contra hne
    exact hid (by simp_all [twoBranches, registry])

/-- A purchase on a till of some branch. -/
def earnAt (branchId till : String) : Op :=
  .earn { purchase "k1" 9000000 with actor :=
    ⟨"cashier", "tenant", some branchId, .CASHIER, some till⟩ }
    ⟨till, none, false, false⟩ night

lemma branchTables_db {t : System} (h : t.db.registry = twoBranches) :
    (branchTables t.db).db = t.db := by
  change { t.db with registry := twoBranches } = t.db
  rw [← h]

lemma branchTables_foreignKeys {t : System} (hreceipts : t.db.receipts.all (fun r =>
      r.tenantId = "tenant" && (r.branchId = "branch" || r.branchId = "market")) = true)
    (hlots : t.db.lots.all (fun l => l.tenantId = "tenant" && l.customerId = "customer") = true) :
    (branchTables t.db).db.ForeignKeys := by
  refine ⟨fun {id c} hc => ?_, fun r hr => ?_, fun l hl => ?_⟩
  · simp only [branchTables, twoBranches, registry] at hc
    split at hc
    · obtain rfl := Option.some.inj hc
      exact ⟨⟨"tenant", "UTC", 1, .ACTIVE⟩, by simp [branchTables, twoBranches], rfl⟩
    · cases hc
  · have hrow := List.all_eq_true.1 hreceipts r hr
    simp only [Bool.and_eq_true, Bool.or_eq_true, decide_eq_true_eq] at hrow
    obtain ⟨hten, hbranch⟩ := hrow
    exact ⟨⟨"tenant", "UTC", 1, .ACTIVE⟩, by simp [branchTables, twoBranches, hbranch], hten.symm⟩
  · have hrow := List.all_eq_true.1 hlots l hl
    simp only [Bool.and_eq_true, decide_eq_true_eq] at hrow
    obtain ⟨hten, hcust⟩ := hrow
    exact ⟨⟨"tenant", "branch", "+2340000000000", false, .ACTIVE⟩,
      by simp [branchTables, twoBranches, registry, hcust], hten.symm⟩

/-- What the branches and the tenant show of the customer, and the rows this rests on. -/
def shownAfter (t : System) : (Int × Int) × Bool × Bool :=
  let source := loadSourceData (branchTables t.db) "tenant" night
  ((branchBalancesKobo source night 90 "customer",
      shownBalanceKobo source .TENANT night 90 "customer"),
    t.db.receipts.all (fun r =>
      r.tenantId = "tenant" && (r.branchId = "branch" || r.branchId = "market")),
    t.db.lots.all fun l => l.tenantId = "tenant" && l.customerId = "customer")

lemma shown_after_earnAt {branchId till : String} {home tenant : Int}
    (hshown : ((System.initial twoBranches).runAll runtime [earnAt branchId till]).map shownAfter =
      .ok ((home, tenant), true, true)) :
    ∃ t, (System.initial twoBranches).runAll runtime [earnAt branchId till] = .ok t ∧
      Reachable runtime t ∧ (branchTables t.db).db = t.db ∧ (branchTables t.db).db.ForeignKeys ∧
      branchBalancesKobo (loadSourceData (branchTables t.db) "tenant" night) night 90 "customer" =
        home ∧
      shownBalanceKobo (loadSourceData (branchTables t.db) "tenant" night) .TENANT night 90
        "customer" = tenant := by
  have hok : ((System.initial twoBranches).runAll runtime [earnAt branchId till]).isOk = true := by
    cases hrun : (System.initial twoBranches).runAll runtime [earnAt branchId till] with
    | error e => rw [hrun] at hshown; cases hshown
    | ok t => rfl
  obtain ⟨t, hrun, ht⟩ := Reachable.of_runAll runtime twoBranches [earnAt branchId till] hok
    (by simp [earnAt, Op.Admissible])
  have hregistry : t.db.registry = twoBranches :=
    System.runAll_registry (.initial twoBranches) hrun (by simp [earnAt])
  have hmap := System.of_runAll_map hrun hshown
  simp only [shownAfter, Prod.mk.injEq] at hmap
  obtain ⟨⟨hhome, htenant⟩, hreceipts, hlots⟩ := hmap
  exact ⟨t, hrun, ht, branchTables_db hregistry, branchTables_foreignKeys hreceipts hlots, hhome,
    htenant⟩

end Shop

/-- A purchase at home. -/
theorem branch_balances_add_up_shop : ∃ t : System,
    (System.initial Shop.twoBranches).runAll Shop.runtime [Shop.earnAt "branch" "till"] = .ok t ∧
      ∀ x ∈ (loadSourceData (Shop.branchTables t.db) "tenant" Shop.night).customers,
        x.id = "customer" →
        ∀ lot ∈ (loadSourceData (Shop.branchTables t.db) "tenant" Shop.night).creditLots,
          lot.customerId = "customer" → Shop.night < lot.expiresAt →
          0 < replayedBalance (loadSourceData (Shop.branchTables t.db) "tenant" Shop.night)
            Shop.night lot.id →
          ¬ EarnedAway (loadSourceData (Shop.branchTables t.db) "tenant" Shop.night) x.branchId
            lot := by
  have hshown : ((System.initial Shop.twoBranches).runAll Shop.runtime
      [Shop.earnAt "branch" "till"]).map Shop.shownAfter = .ok ((180000, 180000), true, true) := by
    decide +kernel
  obtain ⟨t, hrun, -, -, hkeys, hhome, htenant⟩ := Shop.shown_after_earnAt hshown
  exact ⟨t, hrun, (branch_balances_add_up_iff hkeys).1 (hhome.trans htenant.symm)⟩

/-- Credit earned at the market is the customer's, and no branch shows it. -/
theorem branch_balances_fall_short : ∃ t : System,
    (System.initial Shop.twoBranches).runAll Shop.runtime [Shop.earnAt "market" "stall"] = .ok t ∧
      Reachable Shop.runtime t ∧ (Shop.branchTables t.db).db = t.db ∧
      branchBalancesKobo (loadSourceData (Shop.branchTables t.db) "tenant" Shop.night) Shop.night 90
          "customer" ≠
        shownBalanceKobo (loadSourceData (Shop.branchTables t.db) "tenant" Shop.night) .TENANT
          Shop.night 90 "customer" := by
  have hshown : ((System.initial Shop.twoBranches).runAll Shop.runtime
      [Shop.earnAt "market" "stall"]).map Shop.shownAfter = .ok ((0, 180000), true, true) := by
    decide +kernel
  obtain ⟨t, hrun, ht, hdb, -, hhome, htenant⟩ := Shop.shown_after_earnAt hshown
  refine ⟨t, hrun, ht, hdb, ?_⟩
  rw [hhome, htenant]
  decide

end ShopcityLoyalty
