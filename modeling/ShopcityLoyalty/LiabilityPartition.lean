import ShopcityLoyalty.BranchBalances

/-!
The liability of a tenant in the reports: the buckets of the branches, those of the tenant,
the daily summary of the report date, and what remains of the lots.
-/

namespace ShopcityLoyalty

open ReportMaterializerService

/-! ### What the reports show -/

section shown

variable (rt : ReportRuntime) (source : SourceData) (scope : ScopeDefinition) (asOf : Int)

/-- What the buckets of a scope add up to. -/
def bucketsKobo : Int := ((buildLiabilityBuckets rt source scope asOf).map (·.outstandingKobo)).sum

/-- What the buckets of all branches add up to. -/
def branchBucketsKobo : Int :=
  (source.branches.map fun branch => bucketsKobo rt source (branchScope branch) asOf).sum

/-- What the daily summary of the report date shows. -/
def dailyOutstandingKobo : Option Int :=
  ((buildDailyFinancialSummaries rt source scope asOf).find? fun row =>
    row.reportDate = toReportDate rt asOf scope.timezone).map (·.outstandingLiabilityKobo)

/-- What the lots of a scope that are unexpired at an instant held then. -/
def openLotsKobo (at_ : Int) (scope : ReportScope) : Int :=
  sumLots ((filterLotsForScope source.creditLots source scope).filter fun lot =>
    lot.expiresAt > at_)
    (lotBalance source at_)

/-- The end of the report date of `asOf`, not after `asOf`. -/
def reportDateEnd : Int :=
  endOfReportDate rt (toReportDate rt asOf scope.timezone) scope.timezone asOf

variable {rt source scope asOf}

lemma lotBalance_nonneg (lotId : Nat) : 0 ≤ lotBalance source asOf lotId := by
  unfold lotBalance
  split <;> omega

lemma bucketsKobo_eq : bucketsKobo rt source scope asOf = openLotsKobo source asOf scope.scope := by
  have hcover : bucketsKobo rt source scope asOf =
      ((((filterLotsForScope source.creditLots source scope.scope).filter fun lot =>
        lot.expiresAt > asOf).filter fun lot => 0 < lotBalance source asOf lot.id).map
          fun lot => lotBalance source asOf lot.id).sum := by
    unfold bucketsKobo buildLiabilityBuckets
    rw [List.map_map]
    exact sum_sumOn_sorted fun lot hlot => List.mem_map_of_mem hlot
  unfold openLotsKobo sumLots
  rw [hcover, List.filter_filter, Table.sum_filter, Table.sum_filter]
  refine Table.tally_congr fun lot _ => ?_
  have hnonneg : 0 ≤ lotBalance source asOf lot.id := lotBalance_nonneg lot.id
  by_cases hpos : 0 < lotBalance source asOf lot.id
  · simp [hpos]
  · have hzero : lotBalance source asOf lot.id = 0 := by omega
    simp [hzero]

lemma dailyOutstandingKobo_eq : dailyOutstandingKobo rt source scope asOf =
    some (openLotsKobo source (reportDateEnd rt scope asOf) scope.scope) := by
  have hfind : ∀ dates : List Calendar.Date, toReportDate rt asOf scope.timezone ∈ dates →
      dates.find? (fun date => date = toReportDate rt asOf scope.timezone) =
        some (toReportDate rt asOf scope.timezone) := by
    intro dates hmem
    have hsome : (dates.find? fun date => date = toReportDate rt asOf scope.timezone).isSome :=
      List.find?_isSome.2 ⟨_, hmem, decide_eq_true rfl⟩
    obtain ⟨date, hdate⟩ := Option.isSome_iff_exists.1 hsome
    have hp := List.find?_some hdate
    rw [hdate, of_decide_eq_true hp]
  unfold dailyOutstandingKobo buildDailyFinancialSummaries
  simp only [List.find?_map, Function.comp_def, sortedDates]
  rw [hfind _ (by simp)]
  rfl

end shown

/-! ### Lots and branches -/

variable {rt : Runtime} {rrt : ReportRuntime} {s : System} {tables : ReportTables}
  {tenantId : String} {asOf : Int}

lemma of_mem_receipts {receipt : ReceiptRecord}
    (h : receipt ∈ (loadSourceData tables tenantId asOf).receipts) :
    ∃ r ∈ tables.db.receipts, r.tenantId = tenantId ∧ receipt.branchId = r.branchId := by
  obtain ⟨⟨i, r⟩, hrow, rfl⟩ := List.mem_map.1 (List.mem_filter.1 h).1
  obtain ⟨hi, hten⟩ := Table.mem_select.1 hrow
  exact ⟨r, List.mem_of_getElem? hi, of_decide_eq_true hten, rfl⟩

/-- Every loaded lot counts in a branch of the tenant. -/
lemma lotBranchId_loaded (hkeys : tables.db.ForeignKeys) (hcreated : tables.CreatedBy tenantId asOf)
    {lot : CreditLotRecord} (hlot : lot ∈ (loadSourceData tables tenantId asOf).creditLots) :
    ∃ branchId ∈ (loadSourceData tables tenantId asOf).branches.map (·.id),
      lotBranchId (loadSourceData tables tenantId asOf) lot = some branchId := by
  obtain ⟨i, l, hl, hten, -, rfl⟩ := mem_creditLots.1 hlot
  obtain ⟨c, hc, hcten⟩ := hkeys.lot_customer l (List.mem_of_getElem? hl)
  have hcustomer := mem_customers hc (hcten.trans hten)
    (hcreated.customer hc (hcten.trans hten))
  have hhome : customerBranchId (loadSourceData tables tenantId asOf) l.customerId =
      some c.branchId := customerBranchId_eq (loaded_customers_nodup tables tenantId asOf) hcustomer
  have hcbranch : c.branchId ∈ (loadSourceData tables tenantId asOf).branches.map (·.id) := by
    obtain ⟨b, hb, hbten⟩ := hkeys.customer_branch hc
    exact mem_branches hb (hbten.trans (hcten.trans hten))
  unfold lotBranchId branchOf
  cases hreceipt : (lotReceiptId (loadSourceData tables tenantId asOf) l.earnLedgerEntryId).bind
      (receiptBranchId (loadSourceData tables tenantId asOf)) with
  | none =>
      refine ⟨c.branchId, hcbranch, ?_⟩
      simp [creditLotRecord, hreceipt, hhome]
  | some branchId =>
      refine ⟨branchId, ?_, by simp [creditLotRecord, hreceipt]⟩
      obtain ⟨id, -, hid⟩ := Option.bind_eq_some_iff.1 hreceipt
      obtain ⟨receipt, hfind, rfl⟩ := Option.map_eq_some_iff.1 hid
      obtain ⟨r, hr, hrten, hbranch⟩ := of_mem_receipts (List.mem_of_find?_eq_some hfind)
      obtain ⟨b, hb, hbten⟩ := hkeys.receipt_branch r hr
      rw [hbranch]
      exact mem_branches hb (hbten.trans hrten)

/-- The branches have the lots of the tenant among them. -/
lemma branchBucketsKobo_eq (hkeys : tables.db.ForeignKeys)
    (hcreated : tables.CreatedBy tenantId asOf) :
    branchBucketsKobo rrt (loadSourceData tables tenantId asOf) asOf =
      openLotsKobo (loadSourceData tables tenantId asOf) asOf .TENANT := by
  let source := loadSourceData tables tenantId asOf
  let lots := source.creditLots.filter fun lot => lot.expiresAt > asOf
  have heach :
    (source.branches.map fun branch => bucketsKobo rrt source (branchScope branch) asOf) =
      ((source.branches.map (·.id)).map some).map
        (sumOn (lotBranchId source) (fun lot => lotBalance source asOf lot.id) lots) := by
    rw [List.map_map, List.map_map]
    refine List.map_congr_left fun branch _ => ?_
    rw [bucketsKobo_eq]
    unfold openLotsKobo sumOn groupOn sumLots
    simp only [branchScope, filterLotsForScope, lots, List.filter_filter, Function.comp_apply]
    refine congrArg List.sum (congrArg (List.map _) (List.filter_congr fun lot _ => ?_))
    exact Bool.and_comm ..
  have hnodup : ((source.branches.map (·.id)).map some).Nodup :=
    (loaded_branches_nodup tables tenantId asOf).map fun _ _ h => Option.some.inj h
  have hcover : ∀ lot ∈ lots, lotBranchId source lot ∈ (source.branches.map (·.id)).map some := by
    intro lot hlot
    obtain ⟨branchId, hmem, hbranch⟩ := lotBranchId_loaded hkeys hcreated (List.mem_filter.1 hlot).1
    rw [hbranch]
    exact List.mem_map_of_mem hmem
  unfold branchBucketsKobo
  rw [heach, sum_sumOn hnodup hcover]
  rfl

/-! ### The partition -/

/-- The lots of a tenant are parted among its branches, and what the reports show of the liability
is what remains of them. -/
structure LiabilityPartition (rrt : ReportRuntime) (tables : ReportTables) (tenantId : String)
    (asOf : Int) : Prop where
  branch : ∀ {i : Nat} {l : CreditLot}, tables.db.lots[i]? = some l → l.tenantId = tenantId →
    ∃! branch, branch ∈ (loadSourceData tables tenantId asOf).branches ∧
      creditLotRecord (i, l) ∈ filterLotsForScope (loadSourceData tables tenantId asOf).creditLots
        (loadSourceData tables tenantId asOf) (.BRANCH branch.id)
  branches : branchBucketsKobo rrt (loadSourceData tables tenantId asOf) asOf =
    bucketsKobo rrt (loadSourceData tables tenantId asOf) (tenantScope rrt) asOf
  daily : dailyOutstandingKobo rrt (loadSourceData tables tenantId asOf) (tenantScope rrt) asOf =
    some (bucketsKobo rrt (loadSourceData tables tenantId asOf) (tenantScope rrt) asOf)
  remaining : bucketsKobo rrt (loadSourceData tables tenantId asOf) (tenantScope rrt) asOf =
    tables.db.lots.tally (fun l => l.tenantId = tenantId ∧ asOf < l.expiresAt)
      (·.remainingAmountKobo)

/-- The lots held at the end of the report date what they hold at `asOf`. -/
def HeldThroughDate (rrt : ReportRuntime) (tables : ReportTables) (tenantId : String) (asOf : Int) :
    Prop :=
  openLotsKobo (loadSourceData tables tenantId asOf) (reportDateEnd rrt (tenantScope rrt) asOf)
      .TENANT =
    openLotsKobo (loadSourceData tables tenantId asOf) asOf .TENANT

lemma unique_branch (hkeys : tables.db.ForeignKeys) (hcreated : tables.CreatedBy tenantId asOf)
    {lot : CreditLotRecord} (hlot : lot ∈ (loadSourceData tables tenantId asOf).creditLots) :
    ∃! branch, branch ∈ (loadSourceData tables tenantId asOf).branches ∧
      lot ∈ filterLotsForScope (loadSourceData tables tenantId asOf).creditLots
        (loadSourceData tables tenantId asOf) (.BRANCH branch.id) := by
  obtain ⟨branchId, hmem, hbranch⟩ := lotBranchId_loaded hkeys hcreated hlot
  obtain ⟨branch, hin, rfl⟩ := List.mem_map.1 hmem
  refine ⟨branch, ⟨hin, List.mem_filter.2 ⟨hlot, decide_eq_true hbranch⟩⟩, ?_⟩
  rintro other ⟨hother, hscope⟩
  have hsame := of_decide_eq_true (List.mem_filter.1 hscope).2
  have hid : other.id = branch.id := Option.some.inj (hsame.symm.trans hbranch)
  exact List.inj_on_of_nodup_map (loaded_branches_nodup tables tenantId asOf) hother hin hid

/-- **The liability is parted** exactly if no lot of the tenant was earned after `asOf` and the
lots held at the end of its report date what they hold at `asOf`. -/
theorem liability_partition_iff (h : ReachableBy rt asOf s) (hdb : tables.db = s.db)
    (hkeys : s.db.ForeignKeys) (hcreated : tables.CreatedBy tenantId asOf) :
    LiabilityPartition rrt tables tenantId asOf ↔
      (∀ l ∈ s.db.lots, l.tenantId = tenantId → l.earnedAt ≤ asOf) ∧
        HeldThroughDate rrt tables tenantId asOf := by
  have hbooks : tables.db.books.Balanced := hdb ▸ h.reachable.invariants.books
  have hexpired : tables.db.ExpiredBy asOf := hdb ▸ h.expiredBy
  rw [← hdb] at hkeys ⊢
  have htenant : bucketsKobo rrt (loadSourceData tables tenantId asOf) (tenantScope rrt) asOf =
      openLotsKobo (loadSourceData tables tenantId asOf) asOf .TENANT := bucketsKobo_eq
  have hdaily : dailyOutstandingKobo rrt (loadSourceData tables tenantId asOf) (tenantScope rrt)
      asOf = some (openLotsKobo (loadSourceData tables tenantId asOf)
        (reportDateEnd rrt (tenantScope rrt) asOf) .TENANT) := dailyOutstandingKobo_eq
  constructor
  · intro hparted
    constructor
    · intro l hl hten
      obtain ⟨i, hi⟩ := List.getElem?_of_mem hl
      obtain ⟨branch, ⟨-, hscope⟩, -⟩ := hparted.branch hi hten
      obtain ⟨j, l', -, -, hearned, hrow⟩ := mem_creditLots.1 (List.mem_filter.1 hscope).1
      have hsame : l.earnedAt = l'.earnedAt := congrArg CreditLotRecord.earnedAt hrow
      omega
    · have hsame := hparted.daily
      rw [hdaily, htenant, Option.some.injEq] at hsame
      exact hsame
  · rintro ⟨hearned, hheld⟩
    refine ⟨fun {i l} hi hten => ?_, ?_, ?_, ?_⟩
    · have hlot : creditLotRecord (i, l) ∈ (loadSourceData tables tenantId asOf).creditLots :=
        mem_creditLots.2 ⟨i, l, hi, hten, hearned l (List.mem_of_getElem? hi) hten, rfl⟩
      exact unique_branch hkeys hcreated hlot
    · rw [branchBucketsKobo_eq hkeys hcreated, htenant]
    · rw [hdaily, htenant, Option.some.injEq]
      exact hheld
    · have hsum := sumLots_eq hbooks hcreated hexpired (p := fun lot => lot.expiresAt > asOf)
        (q := fun l => asOf < l.expiresAt) fun i l => by simp [creditLotRecord]
      rw [htenant]
      refine hsum.trans (Table.tally_congr_iff fun l hl => ?_)
      constructor
      · exact fun h => ⟨h.1, h.2.2⟩
      · exact fun h => ⟨h.1, hearned l hl h.1, h.2⟩

/-! ### Two branches -/

namespace Shop

/-- What the partition rests on after a purchase: the lots, the day's end and the foreign keys. -/
def partitionAfter (t : System) : (Bool × Bool) × Bool × Bool :=
  let source := loadSourceData (branchTables t.db) "tenant" night
  ((t.db.lots.all fun l => l.earnedAt ≤ night,
      openLotsKobo source (reportDateEnd reportRuntime (tenantScope reportRuntime) night) .TENANT =
        openLotsKobo source night .TENANT),
    t.db.receipts.all (fun r =>
      r.tenantId = "tenant" && (r.branchId = "branch" || r.branchId = "market")),
    t.db.lots.all fun l => l.tenantId = "tenant" && l.customerId = "customer")

lemma branchTables_createdBy (db : Database) : (branchTables db).CreatedBy "tenant" night :=
  ⟨fun _ _ => le_rfl, fun _ _ => le_rfl, fun _ _ => le_rfl⟩

end Shop

/-- A purchase away from home is in the market's bucket and in no other. -/
theorem liability_partition_shop : ∃ t : System,
    (System.initial Shop.twoBranches).runAll Shop.runtime [Shop.earnAt "market" "stall"] = .ok t ∧
      LiabilityPartition Shop.reportRuntime (Shop.branchTables t.db) "tenant" Shop.night := by
  obtain ⟨t, hrun, ht⟩ := ReachableBy.of_runAll Shop.runtime Shop.twoBranches Shop.night
    [Shop.earnAt "market" "stall"] (by decide +kernel) (by simp [Shop.earnAt, Op.Admissible])
    (by simp [Shop.earnAt, Op.readings])
  have hregistry : t.db.registry = Shop.twoBranches :=
    System.runAll_registry (.initial Shop.twoBranches) hrun (by simp [Shop.earnAt])
  have hmap : Shop.partitionAfter t = ((true, true), true, true) :=
    System.of_runAll_map hrun (f := Shop.partitionAfter) (by decide +kernel)
  simp only [Shop.partitionAfter, Prod.mk.injEq, decide_eq_true_eq] at hmap
  obtain ⟨⟨hearned, hheld⟩, hreceipts, hlots⟩ := hmap
  have hdb := Shop.branchTables_db hregistry
  have hkeys := Shop.branchTables_foreignKeys hreceipts hlots
  refine ⟨t, hrun, (liability_partition_iff ht hdb (hdb ▸ hkeys)
    (Shop.branchTables_createdBy t.db)).2 ⟨fun l hl _ => ?_, hheld⟩⟩
  exact of_decide_eq_true (List.all_eq_true.1 hearned l hl)

/-- A credit that is effective in an hour is in no branch. -/
theorem liability_not_parted : ∃ (t : System) (h : t.db.registry = Shop.registry),
    Shop.opened.runAll Shop.runtime [Shop.credited (Shop.night + 3600000)] = .ok t ∧
      ReachableBy Shop.runtime Shop.night t ∧
      (Shop.reportTables t.db h).CreatedBy "tenant" Shop.night ∧
      ¬ LiabilityPartition Shop.reportRuntime (Shop.reportTables t.db h) "tenant" Shop.night := by
  obtain ⟨t, hrun, ht⟩ := ReachableBy.of_runAll Shop.runtime Shop.registry Shop.night
    [Shop.credited (Shop.night + 3600000)] (by decide +kernel)
    (by simp [Shop.credited, Op.Admissible]) (by simp [Shop.credited, Op.readings])
  have hregistry : t.db.registry = Shop.registry :=
    System.runAll_registry (.initial Shop.registry) hrun (by simp [Shop.credited])
  have hlots : t.db.lots.map Shop.lotRow = [(("tenant", "customer"), 80000, Shop.night + 3600000,
      Shop.night + 3600000 + 366 * 86400000)] :=
    System.of_runAll_map hrun (f := fun t => t.db.lots.map Shop.lotRow) (by decide +kernel)
  obtain ⟨l, hl, hrow⟩ := List.mem_map.1 (hlots ▸ List.mem_singleton_self _)
  simp only [Shop.lotRow, Prod.mk.injEq] at hrow
  obtain ⟨⟨hten, -⟩, -, hearned, -⟩ := hrow
  refine ⟨t, hregistry, hrun, ht, Shop.reportTables_createdBy hregistry, fun hparted => ?_⟩
  -- the lot would have been loaded
  obtain ⟨i, hi⟩ := List.getElem?_of_mem hl
  obtain ⟨branch, ⟨-, hscope⟩, -⟩ := hparted.branch hi hten
  obtain ⟨j, l', -, -, hle, hsame⟩ := mem_creditLots.1 (List.mem_filter.1 hscope).1
  have hearned' : l.earnedAt = l'.earnedAt := congrArg CreditLotRecord.earnedAt hsame
  omega

end ShopcityLoyalty
