import ShopcityLoyalty.CreditExpiries
import ShopcityLoyalty.Conservation
import ShopcityLoyalty.ReportSummaries

/-!
What the reports load, against the rows it is loaded from: the customers and branches, and
the balance of a lot, which is rebuilt as what the lot's row says remains of it.
-/

namespace ShopcityLoyalty

open Txn Database ReportMaterializerService

/-! ### Runs up to an instant -/

/-- Reached by a run that reads no clock after an instant. -/
def ReachableBy (rt : Runtime) (asOf : Int) (s : System) : Prop :=
  ∃ registry, StepsUnder rt (fun _ op => ∀ r ∈ op.readings, r ≤ asOf) (System.initial registry) s

/-- Every lot was due when its expiry was written. -/
def Database.ExpiredBy (db : Database) (asOf : Int) : Prop := ∀ x ∈ db.expiries, x.expiredAt ≤ asOf

section runs

variable {rt : Runtime} {asOf now : Int} {s t : System} {op : Op}

lemma ReachableBy.reachable (h : ReachableBy rt asOf s) : Reachable rt s := by
  obtain ⟨registry, hrun⟩ := h
  exact ⟨registry, hrun.mono fun _ _ _ => trivial⟩

namespace CreditExpiryService

variable {systemActor : String → String} {d d' : Database} {u : Unit}

lemma expireLot_expiries {r : LockedCreditLot} (h : expireLot rt systemActor r d = .ok (u, d')) :
    ∃ k i, d'.expiries = d.expiries ++ [expiryRow r k i] := by
  simp only [expireLot, bind_ok, orFault_ok, insertLedgerEntry_ok, insertCreditExpiry_ok, get_ok,
    rejectIf_ok, putRemaining_ok, recordAudit_ok, PositiveKobo.of?_eq_some] at h
  obtain ⟨k, _, ⟨-, rfl⟩, i, _, ⟨-, -, rfl⟩, _, _, ⟨-, -, -, rfl⟩, _, _, ⟨rfl, rfl⟩, _, _,
    ⟨-, rfl⟩, _, _, ⟨-, rfl⟩, _, _, ⟨_, -, rfl⟩, rfl⟩ := h
  exact ⟨k, i, rfl⟩

lemma expireLots_expiredBy {due : List LockedCreditLot} (hdue : ∀ r ∈ due, r.2.expiresAt ≤ asOf)
    (hd : d.ExpiredBy asOf) (h : each (expireLot rt systemActor) due d = .ok (u, d')) :
    d'.ExpiredBy asOf := by
  induction due generalizing d with
  | nil =>
      obtain rfl := each_nil_ok.1 h
      exact hd
  | cons r rest ih =>
      obtain ⟨_, v, hr, hrest⟩ := each_cons_ok.1 h
      obtain ⟨k, i, hv⟩ := expireLot_expiries hr
      refine ih (fun q hq => hdue q (.tail _ hq)) (fun x hx => ?_) hrest
      rw [hv, List.mem_append, List.mem_singleton] at hx
      rcases hx with hx | rfl
      · exact hd x hx
      · exact hdue r List.mem_cons_self

lemma expireDueCredit_expiredBy {batchSize : Nat} {skipped : List Nat} {res : ExpirySweepResult}
    (hle : now ≤ asOf) (hd : d.ExpiredBy asOf)
    (h : expireDueCredit rt systemActor now batchSize skipped d = .ok (res, d')) :
    d'.ExpiredBy asOf := by
  simp only [expireDueCredit, bind_ok, rejectIf_ok, get_ok, pure_ok] at h
  obtain ⟨_, _, ⟨-, rfl⟩, _, _, ⟨rfl, rfl⟩, _, _, heach, -, rfl⟩ := h
  refine expireLots_expiredBy (fun r hr => ?_) hd heach
  have hdue := (mem_lockDueLots hr).2
  simp only [isDue, Bool.and_eq_true, decide_eq_true_eq] at hdue
  exact hdue.1.trans hle

end CreditExpiryService

lemma live_expiries {b c : Books} (hp : Relation.ReflTransGen (LivePosted now) b c) :
    c.expiries = b.expiries := by
  induction hp with
  | refl => rfl
  | tail _ hlast ih => exact (Books.live_rows hlast).1.trans ih

lemma Step.expiredBy (hs : Invariants s.db) (h : Step rt op s t)
    (hop : ∀ r ∈ op.readings, r ≤ asOf) (hx : s.db.ExpiredBy asOf) : t.db.ExpiredBy asOf := by
  have hsame : ∀ now : Int, Relation.ReflTransGen (LivePosted now) s.db.books t.db.books →
      t.db.ExpiredBy asOf := by
    intro now hp x hmem
    have hexp : t.db.expiries = s.db.expiries := live_expiries hp
    rw [hexp] at hmem
    exact hx x hmem
  cases (h.outcome hs.books.sound).booksChanged with
  | plain hp => exact hsame asOf (live_of_plain hp)
  | reversal hp => exact hsame _ hp
  | sweep _ =>
      obtain ⟨r, db, hok, rfl⟩ := System.commit_ok.1 h.runs
      exact CreditExpiryService.expireDueCredit_expiredBy (hop _ (by simp [Op.readings])) hx hok

lemma ReachableBy.expiredBy (h : ReachableBy rt asOf s) : s.db.ExpiredBy asOf := by
  obtain ⟨registry, hrun⟩ := h
  have hinv : Invariants s.db ∧ s.db.ExpiredBy asOf := by
    refine hrun.invariant (I := fun s => Invariants s.db ∧ s.db.ExpiredBy asOf) ?_
      ⟨.initial registry, fun x hx => (by cases hx)⟩
    rintro op s t hop ⟨hs, hx⟩ hstep
    exact ⟨hstep.invariants hs, hstep.expiredBy hs hop hx⟩
  exact hinv.2

lemma ReachableBy.of_runAll (rt : Runtime) (registry : Registry) (asOf : Int) (ops : List Op)
    (hok : ((System.initial registry).runAll rt ops).isOk = true)
    (hadm : ∀ op ∈ ops, ∀ u, op.Admissible u) (hread : ∀ op ∈ ops, ∀ r ∈ op.readings, r ≤ asOf) :
    ∃ t, (System.initial registry).runAll rt ops = .ok t ∧ ReachableBy rt asOf t := by
  cases hrun : (System.initial registry).runAll rt ops with
  | error e => rw [hrun] at hok; cases hok
  | ok t => exact ⟨t, rfl, registry, StepsUnder.of_runAll hrun hadm fun op ho _ => hread op ho⟩

end runs

/-! ### Dates -/

lemma mem_sortedDates {dates : List Calendar.Date} {date : Calendar.Date} :
    date ∈ sortedDates dates ↔ date ∈ dates := by
  unfold sortedDates
  rw [(List.perm_insertionSort reportDateLe _).mem_iff, List.mem_dedup]

lemma nodup_sortedDates (dates : List Calendar.Date) : (sortedDates dates).Nodup :=
  (List.perm_insertionSort reportDateLe _).nodup_iff.2 dates.nodup_dedup

/-! ### What the database promises -/

/-- The foreign keys between branches, customers, receipts and lots. -/
structure Database.ForeignKeys (db : Database) : Prop where
  customer_branch : ∀ {id : String} {c : Customer}, db.registry.customers id = some c →
    ∃ b, db.registry.branches c.branchId = some b ∧ b.tenantId = c.tenantId
  receipt_branch : ∀ r ∈ db.receipts,
    ∃ b, db.registry.branches r.branchId = some b ∧ b.tenantId = r.tenantId
  lot_customer : ∀ l ∈ db.lots,
    ∃ c, db.registry.customers l.customerId = some c ∧ c.tenantId = l.tenantId

/-- No row of a tenant was created after an instant. -/
structure ReportTables.CreatedBy (tables : ReportTables) (tenantId : String) (asOf : Int) :
    Prop where
  customer : ∀ {id : String} {c : Customer}, tables.db.registry.customers id = some c →
    c.tenantId = tenantId → tables.customerCreatedAt id ≤ asOf
  allocation : ∀ {i : Nat} {a : RedemptionAllocation}, tables.db.allocations[i]? = some a →
    a.tenantId = tenantId → tables.allocationCreatedAt i ≤ asOf
  restoration : ∀ {i : Nat} {r : AllocationRestoration}, tables.db.restorations[i]? = some r →
    r.tenantId = tenantId → tables.restorationCreatedAt i ≤ asOf

variable {tables : ReportTables} {tenantId : String} {asOf : Int}

/-! ### Customers and branches -/

section registry

variable {id : String} {c : Customer}

lemma customerRecord_eq (hc : tables.db.registry.customers id = some c)
    (hten : c.tenantId = tenantId) :
    customerRecord tables tenantId id = some ⟨id, c.branchId, tables.customerCreatedAt id⟩ := by
  simp [customerRecord, hc, hten]

lemma customerRecord_id {x : CustomerRecord} (h : customerRecord tables tenantId id = some x) :
    x.id = id := by
  obtain ⟨c, -, rfl⟩ := Option.map_eq_some_iff.1 h
  rfl

lemma branchRecord_id {x : BranchRecord} (h : branchRecord tables tenantId id = some x) :
    x.id = id := by
  obtain ⟨b, -, rfl⟩ := Option.map_eq_some_iff.1 h
  rfl

lemma nodup_records {α : Type} {record : String → Option α} {key : α → String}
    (hkey : ∀ {id x}, record id = some x → key x = id) {ids : List String} (hn : ids.Nodup) :
    ((ids.filterMap record).map key).Nodup := by
  induction ids with
  | nil => simp
  | cons id ids ih =>
      obtain ⟨hnot, hrest⟩ := List.nodup_cons.1 hn
      cases hr : record id with
      | none =>
          rw [List.filterMap_cons_none hr]
          exact ih hrest
      | some x =>
          rw [List.filterMap_cons_some hr, List.map_cons, List.nodup_cons]
          refine ⟨fun hmem => ?_, ih hrest⟩
          obtain ⟨y, hy, heq⟩ := List.mem_map.1 hmem
          obtain ⟨id', hid', hy'⟩ := List.mem_filterMap.1 hy
          rw [hkey hy', hkey hr] at heq
          exact hnot (heq ▸ hid')

lemma loaded_customers_nodup (tables : ReportTables) (tenantId : String) (asOf : Int) :
    ((loadSourceData tables tenantId asOf).customers.map (·.id)).Nodup := by
  have hall : ((tables.customerIds.filterMap (customerRecord tables tenantId)).map (·.id)).Nodup :=
    nodup_records customerRecord_id tables.customerIds_nodup
  exact hall.sublist (List.filter_sublist.map _)

lemma loaded_branches_nodup (tables : ReportTables) (tenantId : String) (asOf : Int) :
    ((loadSourceData tables tenantId asOf).branches.map (·.id)).Nodup :=
  nodup_records branchRecord_id tables.branchIds_nodup

lemma of_mem_customers {x : CustomerRecord}
    (hx : x ∈ (loadSourceData tables tenantId asOf).customers) :
    ∃ c, tables.db.registry.customers x.id = some c ∧ c.tenantId = tenantId ∧
      x.branchId = c.branchId := by
  obtain ⟨id, -, hrec⟩ := List.mem_filterMap.1 (List.mem_filter.1 hx).1
  obtain rfl := customerRecord_id hrec
  obtain ⟨c, hc, hx⟩ := Option.map_eq_some_iff.1 hrec
  obtain ⟨hc, hten⟩ := Option.filter_eq_some_iff.1 hc
  exact ⟨c, hc, of_decide_eq_true hten, by rw [← hx]⟩

lemma mem_customers (hc : tables.db.registry.customers id = some c) (hten : c.tenantId = tenantId)
    (hcreated : tables.customerCreatedAt id ≤ asOf) :
    ⟨id, c.branchId, tables.customerCreatedAt id⟩ ∈
      (loadSourceData tables tenantId asOf).customers := by
  have hlisted : id ∈ tables.customerIds := tables.customer_listed id (by simp [hc])
  refine List.mem_filter.2 ⟨List.mem_filterMap.2 ⟨id, hlisted, customerRecord_eq hc hten⟩, ?_⟩
  exact decide_eq_true hcreated

lemma mem_branches {b : Branch} (hb : tables.db.registry.branches id = some b)
    (hten : b.tenantId = tenantId) :
    id ∈ (loadSourceData tables tenantId asOf).branches.map (·.id) := by
  have hlisted : id ∈ tables.branchIds := tables.branch_listed id (by simp [hb])
  have hrec : branchRecord tables tenantId id = some ⟨id, b.timezone⟩ := by
    simp [branchRecord, hb, hten]
  exact List.mem_map.2 ⟨_, List.mem_filterMap.2 ⟨id, hlisted, hrec⟩, rfl⟩

end registry

/-! ### Lots -/

lemma mem_creditLots {lot : CreditLotRecord} :
    lot ∈ (loadSourceData tables tenantId asOf).creditLots ↔
      ∃ (i : Nat) (l : CreditLot), tables.db.lots[i]? = some l ∧ l.tenantId = tenantId ∧
        l.earnedAt ≤ asOf ∧ lot = creditLotRecord (i, l) := by
  simp only [loadSourceData, List.mem_filter, List.mem_map, decide_eq_true_eq]
  constructor
  · rintro ⟨⟨⟨i, l⟩, hrow, rfl⟩, hearned⟩
    obtain ⟨hl, hten⟩ := Table.mem_select.1 hrow
    exact ⟨i, l, hl, by simpa using hten, hearned, rfl⟩
  · rintro ⟨i, l, hl, hten, hearned, rfl⟩
    exact ⟨⟨(i, l), Table.mem_select.2 ⟨hl, by simpa using hten⟩, rfl⟩, hearned⟩

lemma loaded_creditLots_nodup (tables : ReportTables) (tenantId : String) (asOf : Int) :
    ((loadSourceData tables tenantId asOf).creditLots.map (·.id)).Nodup := by
  have hrows := Table.nodup_select tables.db.lots fun l => l.tenantId = tenantId
  have hall : (((tables.db.lots.select fun l => l.tenantId = tenantId).map creditLotRecord).map
      (·.id)).Nodup := by
    rw [List.map_map]
    exact hrows
  exact hall.sublist (List.filter_sublist.map _)

/-- What a key adds up to over the records of the selected rows. -/
lemma sumOn_select {α β κ : Type} [DecidableEq κ] {key : β → κ} {value : β → Int} {k : κ}
    {t : Table α} {p : α → Bool} {record : Nat × α → β} {q : α → Prop} [DecidablePred q]
    {f : α → Int}
    (hkey : ∀ {i : Nat} {a : α}, t[i]? = some a → p a → (key (record (i, a)) = k ↔ q a))
    (hvalue : ∀ r, value (record r) = f r.2) :
    sumOn key value ((t.select p).map record) k = t.tally (fun a => p a ∧ q a) f := by
  have hrows : groupOn key ((t.select p).map record) k =
      ((t.select p).filter fun r => q r.2).map record := by
    unfold groupOn
    rw [List.filter_map]
    refine congrArg (List.map record) (List.filter_congr ?_)
    rintro ⟨i, a⟩ hr
    obtain ⟨hi, hp⟩ := Table.mem_select.1 hr
    exact decide_eq_decide.2 (hkey hi hp)
  have hfilter : (t.select p).filter (fun r => q r.2) = t.select fun a => p a && decide (q a) := by
    unfold Table.select
    rw [List.filter_map, List.filter_filter]
    refine congrArg (List.map _) (List.filter_congr fun r _ => ?_)
    exact Bool.and_comm ..
  have hmap : (((t.select fun a => p a && decide (q a)).map record).map value) =
      (t.select fun a => p a && decide (q a)).map fun r => f r.2 := by
    rw [List.map_map]
    exact List.map_congr_left fun r _ => hvalue r
  unfold sumOn
  rw [hrows, hfilter, hmap, Table.sum_select]
  exact Table.tally_congr_iff fun a _ => by simp

section balances

variable {i : Nat} {l : CreditLot}

lemma redemptionAllocations_eq (hc : tables.CreatedBy tenantId asOf) :
    (loadSourceData tables tenantId asOf).redemptionAllocations =
      (tables.db.allocations.select fun a => a.tenantId = tenantId).map
        (allocationRecord tables) := by
  refine List.filter_eq_self.2 fun x hx => ?_
  obtain ⟨⟨i, a⟩, hr, rfl⟩ := List.mem_map.1 hx
  obtain ⟨hi, hten⟩ := Table.mem_select.1 hr
  exact decide_eq_true (hc.allocation hi (of_decide_eq_true hten))

lemma allocationRestorations_eq (hc : tables.CreatedBy tenantId asOf) :
    (loadSourceData tables tenantId asOf).allocationRestorations =
      (tables.db.restorations.select fun r => r.tenantId = tenantId).map
        (restorationRecord tables) := by
  refine List.filter_eq_self.2 fun x hx => ?_
  obtain ⟨⟨i, r⟩, hr, rfl⟩ := List.mem_map.1 hx
  obtain ⟨hi, hten⟩ := Table.mem_select.1 hr
  exact decide_eq_true (hc.restoration hi (of_decide_eq_true hten))

lemma creditExpiries_eq (hx : tables.db.ExpiredBy asOf) :
    (loadSourceData tables tenantId asOf).creditExpiries =
      (tables.db.expiries.select fun x => x.tenantId = tenantId).map creditExpiryRecord := by
  refine congrArg (List.map creditExpiryRecord) ?_
  unfold Table.select
  refine congrArg (List.map _) (List.filter_congr fun r hr => ?_)
  have hmem : r.1 ∈ tables.db.expiries :=
    (List.mem_zipIdx_iff_getElem?.1 hr) |> List.mem_of_getElem?
  have hdue := hx r.1 hmem
  simp [hdue]

lemma replayed_drawn (hb : tables.db.books.Sound) (hc : tables.CreatedBy tenantId asOf)
    (hl : tables.db.lots[i]? = some l) (hten : l.tenantId = tenantId) :
    sumOn (·.creditLotId) (·.amountKobo)
      ((loadSourceData tables tenantId asOf).redemptionAllocations.filter
        fun allocation => allocation.createdAt ≤ asOf) i = tables.db.books.drawn i := by
  have hall : (loadSourceData tables tenantId asOf).redemptionAllocations.filter
      (fun allocation => allocation.createdAt ≤ asOf) =
        (loadSourceData tables tenantId asOf).redemptionAllocations := by
    simp [loadSourceData, List.filter_filter]
  have hsum : sumOn (·.creditLotId) (·.amountKobo)
      ((tables.db.allocations.select fun a => a.tenantId = tenantId).map
        (allocationRecord tables)) i =
      tables.db.allocations.tally
        (fun a => decide (a.tenantId = tenantId) = true ∧ a.creditLotId = i)
        (fun a => (a.amountKobo : Int)) :=
    sumOn_select (fun _ _ => Iff.rfl) fun _ => rfl
  rw [hall, redemptionAllocations_eq hc, hsum, ← hb.tenant_drawn hl hten]
  exact Table.tally_congr_iff fun a _ => by simp

lemma allocationLot_eq (hc : tables.CreatedBy tenantId asOf) {k : Nat} {a : RedemptionAllocation}
    (ha : tables.db.allocations[k]? = some a) (hten : a.tenantId = tenantId) :
    allocationLot (loadSourceData tables tenantId asOf) k = some a.creditLotId := by
  have hmem : allocationRecord tables (k, a) ∈
      (loadSourceData tables tenantId asOf).redemptionAllocations := by
    rw [redemptionAllocations_eq hc]
    exact List.mem_map_of_mem (Table.mem_select.2 ⟨ha, decide_eq_true hten⟩)
  have hnodup : ((loadSourceData tables tenantId asOf).redemptionAllocations.map (·.id)).Nodup := by
    rw [redemptionAllocations_eq hc, List.map_map]
    exact Table.nodup_select ..
  have hfind : (loadSourceData tables tenantId asOf).redemptionAllocations.find?
      (fun x => x.id = k) = some (allocationRecord tables (k, a)) := find?_key hnodup hmem
  unfold allocationLot
  rw [hfind]
  rfl

/-- What was restored to a lot. -/
lemma replayed_restored (hb : tables.db.books.Sound) (hc : tables.CreatedBy tenantId asOf)
    (hl : tables.db.lots[i]? = some l) (hten : l.tenantId = tenantId) :
    sumOn (fun restoration => allocationLot (loadSourceData tables tenantId asOf)
        restoration.allocationId) (·.amountKobo)
      ((loadSourceData tables tenantId asOf).allocationRestorations.filter
        fun restoration => restoration.createdAt ≤ asOf) (some i) = tables.db.books.restored i := by
  have hall : (loadSourceData tables tenantId asOf).allocationRestorations.filter
      (fun restoration => restoration.createdAt ≤ asOf) =
        (loadSourceData tables tenantId asOf).allocationRestorations := by
    simp [loadSourceData, List.filter_filter]
  have hkey : ∀ {j : Nat} {r : AllocationRestoration}, tables.db.restorations[j]? = some r →
      decide (r.tenantId = tenantId) = true →
      (allocationLot (loadSourceData tables tenantId asOf) r.allocationId = some i ↔
        tables.db.books.restoresLot i r) := by
    intro j r hj htrue
    obtain ⟨a, -, ha, haten, -, -⟩ := hb.restoration_tenant hj
    have hlot := allocationLot_eq hc ha (haten.trans (of_decide_eq_true htrue))
    have ha' : tables.db.books.allocations[r.allocationId]? = some a := ha
    rw [hlot]
    simp [Books.restoresLot, ha']
  have hsum : sumOn (fun restoration => allocationLot (loadSourceData tables tenantId asOf)
        restoration.allocationId) (·.amountKobo)
      ((tables.db.restorations.select fun r => r.tenantId = tenantId).map
        (restorationRecord tables)) (some i) =
      tables.db.restorations.tally
        (fun r => decide (r.tenantId = tenantId) = true ∧ tables.db.books.restoresLot i r)
        (fun r => (r.amountKobo : Int)) :=
    sumOn_select hkey fun _ => rfl
  rw [hall, allocationRestorations_eq hc, hsum, ← hb.tenant_restored hl hten]
  exact Table.tally_congr_iff fun r _ => by simp

lemma replayed_lapsed (hb : tables.db.books.Sound) (hx : tables.db.ExpiredBy asOf)
    (hl : tables.db.lots[i]? = some l) (hten : l.tenantId = tenantId) :
    sumOn (·.creditLotId) (·.amountKobo)
      ((loadSourceData tables tenantId asOf).creditExpiries.filter
        fun expiry => expiry.expiredAt ≤ asOf) i = tables.db.books.lapsed i := by
  have hall : (loadSourceData tables tenantId asOf).creditExpiries.filter
      (fun expiry => expiry.expiredAt ≤ asOf) =
        (loadSourceData tables tenantId asOf).creditExpiries := by
    rw [creditExpiries_eq hx]
    refine List.filter_eq_self.2 fun y hy => ?_
    obtain ⟨⟨j, x⟩, hr, rfl⟩ := List.mem_map.1 hy
    exact decide_eq_true (hx x (List.mem_of_getElem? (Table.mem_select.1 hr).1))
  have hsum : sumOn (·.creditLotId) (·.amountKobo)
      ((tables.db.expiries.select fun x => x.tenantId = tenantId).map creditExpiryRecord) i =
      tables.db.expiries.tally
        (fun x => decide (x.tenantId = tenantId) = true ∧ x.creditLotId = i)
        (fun x => (x.amountKobo : Int)) :=
    sumOn_select (fun _ _ => Iff.rfl) fun _ => rfl
  rw [hall, creditExpiries_eq hx, hsum, ← hb.tenant_lapsed hl hten]
  exact Table.tally_congr_iff fun x _ => by simp

/-- **A loaded lot is rebuilt as stored**, once all of its rows are created. -/
theorem lotBalance_eq (hb : tables.db.books.Balanced) (hc : tables.CreatedBy tenantId asOf)
    (hx : tables.db.ExpiredBy asOf) (hl : tables.db.lots[i]? = some l)
    (hten : l.tenantId = tenantId)
    (hearned : l.earnedAt ≤ asOf) :
    lotBalance (loadSourceData tables tenantId asOf) asOf i = l.remainingAmountKobo := by
  have hfind : (loadSourceData tables tenantId asOf).creditLots.find?
      (fun lot => lot.id = i ∧ lot.earnedAt ≤ asOf) = some (creditLotRecord (i, l)) := by
    have hmem : creditLotRecord (i, l) ∈ (loadSourceData tables tenantId asOf).creditLots :=
      mem_creditLots.2 ⟨i, l, hl, hten, hearned, rfl⟩
    have hid : (loadSourceData tables tenantId asOf).creditLots.find?
        (fun lot => lot.id = (creditLotRecord (i, l)).id) = some (creditLotRecord (i, l)) :=
      find?_key (loaded_creditLots_nodup tables tenantId asOf) hmem
    refine (List.find?_congr fun lot hlot => ?_).trans hid
    obtain ⟨j, l', -, -, hearned', rfl⟩ := mem_creditLots.1 hlot
    exact decide_eq_decide.2 (by simp [creditLotRecord, hearned'])
  have hreplayed : replayedBalance (loadSourceData tables tenantId asOf) asOf i =
      l.remainingAmountKobo := by
    have hlaw := (hb.conserved.lot (i := i) hl).1
    unfold replayedBalance
    rw [hfind, replayed_drawn hb.sound hc hl hten, replayed_restored hb.sound hc hl hten,
      replayed_lapsed hb.sound hx hl hten, hlaw]
    rfl
  unfold lotBalance
  rw [hreplayed, if_neg (not_lt.2 l.remaining_nonneg)]

/-- What loaded lots add up to. -/
lemma sumLots_eq (hb : tables.db.books.Balanced) (hc : tables.CreatedBy tenantId asOf)
    (hx : tables.db.ExpiredBy asOf) {p : CreditLotRecord → Bool} {q : CreditLot → Prop}
    [DecidablePred q] (hpq : ∀ i l, p (creditLotRecord (i, l)) = true ↔ q l) :
    sumLots ((loadSourceData tables tenantId asOf).creditLots.filter p)
        (lotBalance (loadSourceData tables tenantId asOf) asOf) =
      tables.db.lots.tally (fun l => l.tenantId = tenantId ∧ l.earnedAt ≤ asOf ∧ q l)
        (·.remainingAmountKobo) := by
  have hloaded : (loadSourceData tables tenantId asOf).creditLots.filter p =
      (tables.db.lots.select fun l => l.tenantId = tenantId ∧ l.earnedAt ≤ asOf ∧ q l).map
        creditLotRecord := by
    unfold loadSourceData Table.select
    simp only [List.filter_map, List.filter_filter, List.map_map]
    refine congrArg (List.map _) (List.filter_congr ?_)
    rintro ⟨l, i⟩ -
    have hp : p (creditLotRecord (i, l)) = decide (q l) := by
      rw [Bool.eq_iff_iff, hpq, decide_eq_true_iff]
    have hearned : (creditLotRecord (i, l)).earnedAt = l.earnedAt := rfl
    by_cases hq : q l <;> simp [hp, hq, hearned, Bool.and_comm]
  have hterms : ((tables.db.lots.select fun l =>
      l.tenantId = tenantId ∧ l.earnedAt ≤ asOf ∧ q l).map fun r =>
        lotBalance (loadSourceData tables tenantId asOf) asOf r.1) =
      (tables.db.lots.select fun l => l.tenantId = tenantId ∧ l.earnedAt ≤ asOf ∧ q l).map fun r =>
        r.2.remainingAmountKobo := by
    refine List.map_congr_left ?_
    rintro ⟨i, l⟩ hr
    obtain ⟨hl, hrow⟩ := Table.mem_select.1 hr
    obtain ⟨hten, hearned, -⟩ := of_decide_eq_true hrow
    exact lotBalance_eq hb hc hx hl hten hearned
  unfold sumLots
  rw [hloaded, List.map_map]
  refine (congrArg List.sum hterms).trans ((Table.sum_select ..).trans ?_)
  exact Table.tally_congr_iff fun l _ => by simp

end balances

end ShopcityLoyalty
