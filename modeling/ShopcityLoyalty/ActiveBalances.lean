import ShopcityLoyalty.FefoAllocation
import ShopcityLoyalty.Lib.Grouping

/-!
The active balance of a customer, as a sum over all lots, as a row of a grouped query and as the
lots it lists, and what a debit can be drawn up to.
-/

namespace ShopcityLoyalty

open Txn Database

namespace ActiveBalanceService

/-! ### The queries -/

/-- `creditLot.findMany`, for the customers of a list. -/
def activeLotsAmong (db : Database) (tenantId : String) (customerIds : List String) (now : Int) :
    List CreditLot :=
  db.lots.filter fun l => l.tenantId = tenantId && l.customerId ∈ customerIds &&
    0 < l.remainingAmountKobo && now < l.expiresAt

/-- `groupBy` on the customer, with the sum of what the lots of a group have left. -/
def groupByCustomer (lots : List CreditLot) : List (String × Int) :=
  (lots.map (·.customerId)).dedup.map fun customerId =>
    (customerId, sumOn (·.customerId) (·.remainingAmountKobo) lots customerId)

/-- `balances.set`. -/
def setBalance (balances : String → Option Int) (row : String × Int) : String → Option Int :=
  Function.update balances row.1 (some row.2)

def getActiveBalancesKobo (db : Database) (tenantId : String) (customerIds : List String)
    (now : Int) : String → Option Int :=
  let uniqueCustomerIds := customerIds.dedup
  let balances : String → Option Int := fun customerId =>
    if customerId ∈ uniqueCustomerIds then some 0 else none
  if uniqueCustomerIds.length = 0 then balances
  else
    (groupByCustomer (activeLotsAmong db tenantId uniqueCustomerIds now)).foldl setBalance balances

def getActiveCreditLots (rt : Runtime) (db : Database) (tenantId customerId : String)
    (now : Int) : List LockedCreditLot :=
  (db.lots.select fun l => activeCreditLotWhere tenantId customerId now l).insertionSort
    (LotAllocationService.lotLe rt)

variable {db : Database} {tenantId customerId : String} {customerIds : List String} {now : Int}

/-! ### One balance -/

lemma foldl_setBalance (sums : String → Int) (ks : List String) (balances : String → Option Int)
    (k : String) :
    ((ks.map fun c => (c, sums c)).foldl setBalance balances) k =
      if k ∈ ks then some (sums k) else balances k := by
  induction ks generalizing balances with
  | nil => simp
  | cons c ks ih =>
      rw [List.map_cons, List.foldl_cons, ih]
      by_cases hk : k ∈ ks
      · simp [hk]
      · by_cases hc : k = c
        · subst hc
          simp [hk, setBalance]
        · simp [hk, hc, setBalance]

lemma sum_filter (t : Table CreditLot) (p : CreditLot → Bool) (f : CreditLot → Int) :
    ((t.filter p).map f).sum = t.tally (fun l => p l) f := by
  induction t with
  | nil => rfl
  | cons l t ih =>
      rw [Table.tally_cons, ← ih]
      by_cases hl : p l
      · simp [hl]
      · simp [hl]

lemma sumOn_activeLotsAmong (h : customerId ∈ customerIds) :
    sumOn (·.customerId) (·.remainingAmountKobo)
      (activeLotsAmong db tenantId customerIds now) customerId =
        getActiveBalanceKobo db tenantId customerId now := by
  have hgroup : groupOn (·.customerId) (activeLotsAmong db tenantId customerIds now) customerId =
      db.lots.filter fun l => activeCreditLotWhere tenantId customerId now l := by
    unfold groupOn activeLotsAmong
    rw [List.filter_filter]
    refine List.filter_congr fun l _ => ?_
    unfold activeCreditLotWhere
    by_cases hl : l.customerId = customerId
    · simp [hl, h]
    · simp [hl]
  unfold sumOn getActiveBalanceKobo
  rw [hgroup]
  exact sum_filter _ _ _

lemma getActiveBalancesKobo_eq (h : customerId ∈ customerIds) :
    getActiveBalancesKobo db tenantId customerIds now customerId =
      some (getActiveBalanceKobo db tenantId customerId now) := by
  have hmem : customerId ∈ customerIds.dedup := List.mem_dedup.2 h
  have hlen : customerIds.dedup.length ≠ 0 := by
    have hpos := List.length_pos_of_mem hmem
    omega
  have hsum : sumOn (·.customerId) (·.remainingAmountKobo)
      (activeLotsAmong db tenantId customerIds.dedup now) customerId =
        getActiveBalanceKobo db tenantId customerId now := sumOn_activeLotsAmong hmem
  unfold getActiveBalancesKobo groupByCustomer
  simp only [if_neg hlen]
  rw [foldl_setBalance, hsum]
  by_cases hrow : customerId ∈ ((activeLotsAmong db tenantId customerIds.dedup now).map
      (·.customerId)).dedup
  · rw [if_pos hrow]
  · rw [if_neg hrow, if_pos hmem, ← hsum]
    have hnone : groupOn (·.customerId) (activeLotsAmong db tenantId customerIds.dedup now)
        customerId = [] := by
      refine List.eq_nil_iff_forall_not_mem.2 fun l hl => hrow ?_
      obtain ⟨hin, hkey⟩ := mem_groupOn.1 hl
      exact List.mem_dedup.2 (List.mem_map.2 ⟨l, hin, hkey⟩)
    simp [sumOn, hnone]

lemma sum_getActiveCreditLots (rt : Runtime) :
    ((getActiveCreditLots rt db tenantId customerId now).map (·.2.remainingAmountKobo)).sum =
      getActiveBalanceKobo db tenantId customerId now := by
  have hperm := List.perm_insertionSort (LotAllocationService.lotLe rt)
    (db.lots.select fun l => activeCreditLotWhere tenantId customerId now l)
  unfold getActiveCreditLots
  rw [(hperm.map _).sum_eq]
  exact Table.sum_select _ _ _

end ActiveBalanceService

/-! ### What can be spent -/

/-- Nothing has been drawn for the redemption or the adjustment yet. -/
def Database.Undrawn (db : Database) : DebitTarget → Prop
  | .redemption j => ∀ d, db.redemptions[j]? = some d → d.ledgerEntryId = none
  | .adjustment j => db.adjustments.length ≤ j

open ActiveBalanceService LotAllocationService

/-- A debit that the service accepts at all: all or nothing, by the balance. -/
lemma allocateDebit_iff (rt : Runtime) {input : AllocateDebitInput} {s : Database}
    (hfresh : FreshTarget input s) (hall : input.excludedCreditLotIds = []) :
    (∃ allocations t, allocateDebit rt input s = .ok (allocations, t)) ↔
      0 < input.amountKobo ∧ input.amountKobo ≤
        getActiveBalanceKobo s input.tenantId input.customerId input.now := by
  rw [← eligibleKobo_eq_activeBalance hall]
  by_cases hpos : 0 < input.amountKobo
  · have hcases := allocateDebit_cases rt hpos hfresh
    constructor
    · rintro ⟨allocations, t, hrun⟩
      rcases hcases with ⟨henough, -⟩ | ⟨-, -, hfail⟩
      · exact ⟨hpos, henough⟩
      · rw [hrun] at hfail
        cases hfail
    · rintro ⟨-, henough⟩
      rcases hcases with ⟨-, allocations, t, hrun, -⟩ | ⟨hless, -⟩
      · exact ⟨allocations, t, hrun⟩
      · omega
  · constructor
    · rintro ⟨allocations, t, hrun⟩
      simp only [allocateDebit, validateDebitAllocationTarget, bind_ok, rejectIf_ok] at hrun
      obtain ⟨_, _, ⟨hamount, -⟩, -⟩ := hrun
      omega
    · rintro ⟨hamount, -⟩
      exact absurd hamount hpos

/-- The three balances of a customer are one, and a debit can be drawn up to it. -/
structure BalanceSpendable (rt : Runtime) (s : Database) (tenantId customerId : String)
    (now : Int) : Prop where
  grouped : ∀ customerIds, customerId ∈ customerIds →
    getActiveBalancesKobo s tenantId customerIds now customerId =
      some (getActiveBalanceKobo s tenantId customerId now)
  listed : ((getActiveCreditLots rt s tenantId customerId now).map (·.2.remainingAmountKobo)).sum =
    getActiveBalanceKobo s tenantId customerId now
  /-- In the state itself, or in a transaction that has not changed lots or allocations. -/
  spendable : ∀ (u : Database) (target : DebitTarget) (debitLedgerEntryId : Nat) (amountKobo : Int),
    u.lots = s.lots → u.allocations = s.allocations → s.Undrawn target →
    ((∃ allocations t, allocateDebit rt
        { tenantId, customerId, debitLedgerEntryId, amountKobo, now, target } u =
          .ok (allocations, t)) ↔
      0 < amountKobo ∧ amountKobo ≤ getActiveBalanceKobo s tenantId customerId now)

/-- **The active balance is what can be spent**, in every reachable state. -/
theorem activeBalance_spendable {rt : Runtime} {s : System} (h : Reachable rt s)
    (tenantId customerId : String) (now : Int) :
    BalanceSpendable rt s.db tenantId customerId now where
  grouped _ hmem := getActiveBalancesKobo_eq hmem
  listed := sum_getActiveCreditLots rt
  spendable u target debitLedgerEntryId amountKobo hlots hallocations hundrawn := by
    have hfresh : FreshTarget
        { tenantId, customerId, debitLedgerEntryId, amountKobo, now, target } s.db := by
      cases target with
      | redemption j => exact freshTarget_of_redemption h.linked rfl hundrawn
      | adjustment j => exact freshTarget_of_adjustment h.invariants.books.sound rfl hundrawn
    have hsame : getActiveBalanceKobo u tenantId customerId now =
        getActiveBalanceKobo s.db tenantId customerId now := by
      simp only [getActiveBalanceKobo, hlots]
    rw [← hsame]
    refine allocateDebit_iff rt ?_ rfl
    intro a ha
    rw [hallocations] at ha
    exact hfresh a ha

/-- All of two purchases' credit. -/
theorem activeBalance_spendable_shop : ∃ t : System,
    Shop.opened.runAll Shop.runtime Shop.twoPurchases = .ok t ∧
      BalanceSpendable Shop.runtime t.db "tenant" "customer" Shop.night ∧
      (∃ allocations u, allocateDebit Shop.runtime (Shop.debit 360000) t.db =
        .ok (allocations, u)) ∧
      ¬ ∃ allocations u, allocateDebit Shop.runtime (Shop.debit 360001) t.db =
        .ok (allocations, u) := by
  obtain ⟨t, hrun, ht⟩ := Reachable.of_runAll Shop.runtime Shop.registry Shop.twoPurchases
    (by decide +kernel) (by simp [Shop.twoPurchases, Shop.earn, Op.Admissible])
  have hspendable := activeBalance_spendable ht "tenant" "customer" Shop.night
  have hfacts : (t.db.adjustments.length,
      getActiveBalanceKobo t.db "tenant" "customer" Shop.night) = (0, 360000) :=
    System.of_runAll_map hrun (f := fun t => (t.db.adjustments.length,
      getActiveBalanceKobo t.db "tenant" "customer" Shop.night)) (by decide +kernel)
  obtain ⟨hnone, hkobo⟩ := Prod.mk.inj hfacts
  have hdebit := fun amountKobo =>
    hspendable.spendable t.db (.adjustment 0) 2 amountKobo rfl rfl hnone.le
  rw [hkobo] at hdebit
  exact ⟨t, hrun, hspendable, (hdebit 360000).2 (by decide), fun hmore =>
    absurd ((hdebit 360001).1 hmore).2 (by decide)⟩

end ShopcityLoyalty
