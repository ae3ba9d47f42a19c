import ShopcityLoyalty.Confirmations
import Mathlib.Data.String.Basic

/-!
First expiry first, exactly: when a debit can be drawn, and which lots it takes how much of.

A debit is drawn when the customer's unexpired lots outside the excluded ones have its amount.
Its allocations then walk the lots in the order of their expiry, drain each but the last, and
add up to the amount. Otherwise nothing was written when it fails.
-/

namespace ShopcityLoyalty

open Txn Database

namespace LotAllocationService

/-- What a debit may be drawn from: the customer's unexpired lots, the excluded ones apart. -/
def eligibleLots (db : Database) (input : AllocateDebitInput) : List LockedCreditLot :=
  (db.lots.select fun l => ActiveBalanceService.activeCreditLotWhere input.tenantId
    input.customerId input.now l).filter fun r => r.1 ∉ input.excludedCreditLotIds

/-- What these lots have left. -/
def eligibleKobo (db : Database) (input : AllocateDebitInput) : Int :=
  ((eligibleLots db input).map (·.2.remainingAmountKobo)).sum

lemma eligibleKobo_eq_activeBalance {db : Database} {input : AllocateDebitInput}
    (h : input.excludedCreditLotIds = []) : eligibleKobo db input =
      ActiveBalanceService.getActiveBalanceKobo db input.tenantId input.customerId input.now := by
  have hall : eligibleLots db input = db.lots.select fun l =>
      ActiveBalanceService.activeCreditLotWhere input.tenantId input.customerId input.now l := by
    simp [eligibleLots, h]
  rw [eligibleKobo, hall]
  exact Table.sum_select _ _ _

lemma mem_eligibleLots {db : Database} {input : AllocateDebitInput} {i : Nat} {l : CreditLot} :
    (i, l) ∈ eligibleLots db input ↔ db.lots[i]? = some l ∧ l.tenantId = input.tenantId ∧
      l.customerId = input.customerId ∧ 0 < l.remainingAmountKobo ∧ input.now < l.expiresAt ∧
        i ∉ input.excludedCreditLotIds := by
  simp [eligibleLots, ActiveBalanceService.activeCreditLotWhere, and_assoc]

/-! ### The order of the lots -/

section order

variable {rt : Runtime}

instance : Std.Total (lotLe rt) where
  total a b := by
    unfold lotLe
    rcases lt_trichotomy a.2.expiresAt b.2.expiresAt with h | h | h
    · exact .inl (.inl h)
    · rcases lt_trichotomy a.2.earnedAt b.2.earnedAt with h' | h' | h'
      · exact .inl (.inr ⟨h, .inl h'⟩)
      · rcases le_total (rt.uuid .lots a.1) (rt.uuid .lots b.1) with hu | hu
        · exact .inl (.inr ⟨h, .inr ⟨h', hu⟩⟩)
        · exact .inr (.inr ⟨h.symm, .inr ⟨h'.symm, hu⟩⟩)
      · exact .inr (.inr ⟨h.symm, .inl h'⟩)
    · exact .inr (.inl h)

instance : IsTrans LockedCreditLot (lotLe rt) where
  trans a b c hab hbc := by
    unfold lotLe at *
    rcases hab with hab | ⟨hab, hab'⟩
    · rcases hbc with hbc | ⟨hbc, -⟩
      · exact .inl (by omega)
      · exact .inl (by omega)
    · rcases hbc with hbc | ⟨hbc, hbc'⟩
      · exact .inl (by omega)
      · refine .inr ⟨by omega, ?_⟩
        rcases hab' with hab' | ⟨hab', hu⟩
        · rcases hbc' with hbc' | ⟨hbc', -⟩
          · exact .inl (by omega)
          · exact .inl (by omega)
        · rcases hbc' with hbc' | ⟨hbc', hu'⟩
          · exact .inl (by omega)
          · exact .inr ⟨by omega, hu.trans hu'⟩

end order

/-- The query returns the eligible lots, in the order of their expiry. -/
structure InFefoOrder (rt : Runtime) (db : Database) (input : AllocateDebitInput)
    (lots : List LockedCreditLot) : Prop where
  sorted : lots.Pairwise (lotLe rt)
  perm : lots.Perm (eligibleLots db input)
  nodup : (lots.map Prod.fst).Nodup

lemma lockEligibleLots_inFefoOrder (rt : Runtime) (db : Database) (input : AllocateDebitInput) :
    InFefoOrder rt db input (lockEligibleLots rt db input.tenantId input.customerId input.now
      input.excludedCreditLotIds) where
  sorted := List.pairwise_insertionSort _ _
  perm := List.perm_insertionSort _ _
  nodup := by
    have hperm := (List.perm_insertionSort (lotLe rt) (eligibleLots db input)).map Prod.fst
    refine hperm.nodup_iff.2 ?_
    exact (Table.nodup_select _ _).sublist (List.filter_sublist.map _)

variable {rt : Runtime} {db : Database} {input : AllocateDebitInput} {lots : List LockedCreditLot}

lemma InFefoOrder.mem (h : InFefoOrder rt db input lots) {r : LockedCreditLot} (hr : r ∈ lots) :
    db.lots[r.1]? = some r.2 ∧ r.2.tenantId = input.tenantId ∧
      r.2.customerId = input.customerId ∧ 0 < r.2.remainingAmountKobo := by
  have hmem : (r.1, r.2) ∈ eligibleLots db input := h.perm.mem_iff.1 hr
  obtain ⟨hrow, hten, hcus, hpos, -⟩ := mem_eligibleLots.1 hmem
  exact ⟨hrow, hten, hcus, hpos⟩

lemma InFefoOrder.total (h : InFefoOrder rt db input lots) :
    (lots.map (·.2.remainingAmountKobo)).sum = eligibleKobo db input :=
  (h.perm.map _).sum_eq

/-! ### The loop over the lots -/

/-- A walk along the lots that takes all of each but the last. -/
structure Walk (lots : List LockedCreditLot) (order : Nat)
    (allocations : List PersistedAllocation) : Prop where
  positive : ∀ a ∈ allocations, 0 < a.amountKobo
  along : allocations.map (·.creditLotId) <+: lots.map Prod.fst
  numbered : allocations.map (·.allocationOrder) = List.range' order allocations.length
  within : ∀ a ∈ allocations, ∃ l, (a.creditLotId, l) ∈ lots ∧
    a.amountKobo ≤ l.remainingAmountKobo ∧ a.expiresAt = l.expiresAt
  drained : ∀ a ∈ allocations.dropLast, ∃ l, (a.creditLotId, l) ∈ lots ∧
    a.amountKobo = l.remainingAmountKobo

lemma Walk.nil (lots : List LockedCreditLot) (order : Nat) : Walk lots order [] := by
  constructor <;> simp

lemma Walk.nodup {order : Nat} {allocations : List PersistedAllocation}
    (h : Walk lots order allocations) (hn : (lots.map Prod.fst).Nodup) :
    (allocations.map (·.creditLotId)).Nodup :=
  hn.sublist h.along.sublist

/-- One more lot in front: it is drained, or nothing is left to take from the others. -/
lemma Walk.cons {id order : Nat} {lot : CreditLot} {amountKobo : Int}
    {allocations : List PersistedAllocation} (h : Walk lots (order + 1) allocations)
    (hpos : 0 < amountKobo) (hle : amountKobo ≤ lot.remainingAmountKobo)
    (hlast : allocations = [] ∨ amountKobo = lot.remainingAmountKobo) :
    Walk ((id, lot) :: lots) order (⟨id, amountKobo, order, lot.expiresAt⟩ :: allocations) := by
  constructor
  · intro a ha
    rcases List.mem_cons.1 ha with rfl | ha
    · exact hpos
    · exact h.positive a ha
  · exact List.prefix_cons_inj id |>.2 h.along
  · rw [List.map_cons, h.numbered, List.length_cons, List.range'_succ]
  · intro a ha
    rcases List.mem_cons.1 ha with rfl | ha
    · exact ⟨lot, List.mem_cons_self, hle, rfl⟩
    · obtain ⟨l, hl, hrest⟩ := h.within a ha
      exact ⟨l, .tail _ hl, hrest⟩
  · intro a ha
    rcases hlast with rfl | hall
    · simp at ha
    · by_cases hnil : allocations = []
      · subst hnil
        simp at ha
      · rw [List.dropLast_cons_of_ne_nil hnil] at ha
        rcases List.mem_cons.1 ha with rfl | ha
        · exact ⟨lot, List.mem_cons_self, hall⟩
        · obtain ⟨l, hl, hdrained⟩ := h.drained a ha
          exact ⟨l, .tail _ hl, hdrained⟩

lemma planLoop_zero (lots : List LockedCreditLot) (order : Nat) :
    planLoop lots 0 order = ([], 0) := by
  cases lots <;> simp [planLoop]

lemma planLoop_walk (lots : List LockedCreditLot) {remaining : Int} (order : Nat)
    (hlots : ∀ r ∈ lots, 0 < r.2.remainingAmountKobo) (h : 0 ≤ remaining) :
    Walk lots order (planLoop lots remaining order).1 := by
  induction lots generalizing remaining order with
  | nil => exact .nil _ _
  | cons r rest ih =>
      obtain ⟨id, lot⟩ := r
      have hlot : 0 < lot.remainingAmountKobo := hlots (id, lot) List.mem_cons_self
      unfold planLoop
      by_cases hzero : remaining = 0
      · rw [if_pos hzero]
        exact .nil _ _
      · rw [if_neg hzero]
        by_cases hless : lot.remainingAmountKobo < remaining
        · simp only [if_pos hless]
          have hrest := ih (order + 1) (fun r hr => hlots r (.tail _ hr))
            (show 0 ≤ remaining - lot.remainingAmountKobo by omega)
          exact hrest.cons hlot le_rfl (.inr rfl)
        · simp only [if_neg hless, sub_self, planLoop_zero]
          exact (Walk.nil rest (order + 1)).cons (by omega) (by omega) (.inl rfl)

/-- What is missing is what the lots do not have. -/
lemma planLoop_missing (lots : List LockedCreditLot) {remaining : Int} (order : Nat)
    (hlots : ∀ r ∈ lots, 0 < r.2.remainingAmountKobo) (h : 0 ≤ remaining) :
    (planLoop lots remaining order).2 =
      max 0 (remaining - (lots.map (·.2.remainingAmountKobo)).sum) := by
  induction lots generalizing remaining order with
  | nil => simp [planLoop, h]
  | cons r rest ih =>
      obtain ⟨id, lot⟩ := r
      have hlot : 0 < lot.remainingAmountKobo := hlots (id, lot) List.mem_cons_self
      have hrest : ∀ r ∈ rest, 0 < r.2.remainingAmountKobo := fun r hr => hlots r (.tail _ hr)
      have hsum : 0 ≤ (rest.map (·.2.remainingAmountKobo)).sum := by
        refine List.sum_nonneg fun x hx => ?_
        obtain ⟨r, hr, rfl⟩ := List.mem_map.1 hx
        exact (hrest r hr).le
      unfold planLoop
      simp only [List.map_cons, List.sum_cons]
      by_cases hzero : remaining = 0
      · rw [if_pos hzero]
        simp only
        omega
      · rw [if_neg hzero]
        by_cases hless : lot.remainingAmountKobo < remaining
        · simp only [if_pos hless]
          rw [ih (order + 1) hrest (by omega)]
          omega
        · simp only [if_neg hless, sub_self, planLoop_zero]
          omega

/-! ### Writing a plan -/

/-- The rows can be stored when no lot and no number repeats, among them or with the target's
old ones. -/
lemma createAllocations_runs {s : Database} {allocations : List PersistedAllocation}
    (hpos : ∀ a ∈ allocations, 0 < a.amountKobo)
    (hlots : (allocations.map (·.creditLotId)).Nodup)
    (horders : (allocations.map (·.allocationOrder)).Nodup)
    (hold : ∀ x ∈ s.allocations, x.target = input.target → ∀ a ∈ allocations,
      x.creditLotId ≠ a.creditLotId ∧ x.allocationOrder ≠ a.allocationOrder) :
    ∃ rows, each (createAllocation input) allocations s =
      .ok ((), { s with allocations := s.allocations ++ rows }) := by
  induction allocations generalizing s with
  | nil => exact ⟨[], by simp⟩
  | cons a rest ih =>
      rw [List.map_cons, List.nodup_cons] at hlots horders
      have hk : PositiveKobo.of? a.amountKobo = some ⟨a.amountKobo, hpos a List.mem_cons_self⟩ :=
        PositiveKobo.of?_eq_some.2 rfl
      let row : RedemptionAllocation :=
        { tenantId := input.tenantId, target := input.target
          redemptionLedgerEntryId := input.debitLedgerEntryId, creditLotId := a.creditLotId
          amountKobo := ⟨a.amountKobo, hpos a List.mem_cons_self⟩
          allocationOrder := a.allocationOrder }
      have hrow : createAllocation input a s =
          .ok ((), { s with allocations := s.allocations ++ [row] }) := by
        simp only [createAllocation, bind_ok, orFault_ok, insertAllocation_ok, pure_ok]
        exact ⟨_, s, ⟨hk, rfl⟩, _, _, ⟨fun x hx ht => (hold x hx ht a List.mem_cons_self).1,
          fun x hx ht => (hold x hx ht a List.mem_cons_self).2, rfl, rfl⟩, trivial, rfl⟩
      have hnext : ∀ x ∈ s.allocations ++ [row], x.target = input.target → ∀ b ∈ rest,
          x.creditLotId ≠ b.creditLotId ∧ x.allocationOrder ≠ b.allocationOrder := by
        intro x hx ht b hb
        rcases List.mem_append.1 hx with hx | hx
        · exact hold x hx ht b (.tail _ hb)
        · obtain rfl := List.mem_singleton.1 hx
          refine ⟨fun he => hlots.1 ?_, fun he => horders.1 ?_⟩
          · have hid : a.creditLotId = b.creditLotId := he
            rw [hid]
            exact List.mem_map_of_mem hb
          · have horder : a.allocationOrder = b.allocationOrder := he
            rw [horder]
            exact List.mem_map_of_mem hb
      obtain ⟨rows, hrows⟩ := ih (s := { s with allocations := s.allocations ++ [row] })
        (fun b hb => hpos b (.tail _ hb)) hlots.2 horders.2 hnext
      refine ⟨row :: rows, ?_⟩
      rw [each_cons_ok]
      refine ⟨(), _, hrow, ?_⟩
      rw [hrows]
      simp

/-- The lots can be reduced when each has what is taken from it. -/
lemma decrementLots_run {s : Database} {allocations : List PersistedAllocation} (changed : Fault)
    (hlots : (allocations.map (·.creditLotId)).Nodup)
    (hhas : ∀ a ∈ allocations, 0 < a.amountKobo ∧ ∃ l, s.lots[a.creditLotId]? = some l ∧
      l.tenantId = input.tenantId ∧ l.customerId = input.customerId ∧
        a.amountKobo ≤ l.remainingAmountKobo) :
    ∃ t, each (decrementLot input changed) allocations s = .ok ((), t) := by
  induction allocations generalizing s with
  | nil => exact ⟨s, by simp⟩
  | cons a rest ih =>
      rw [List.map_cons, List.nodup_cons] at hlots
      obtain ⟨hpos, l, hl, hten, hcus, hle⟩ := hhas a List.mem_cons_self
      obtain ⟨l', hl'⟩ : ∃ l', l.withRemaining? (l.remainingAmountKobo - a.amountKobo) =
          some l' := by
        have hk : 0 ≤ l.remainingAmountKobo - a.amountKobo ∧
            l.remainingAmountKobo - a.amountKobo ≤ l.originalAmountKobo := by
          have hmax := l.remaining_le
          omega
        unfold CreditLot.withRemaining?
        rw [dif_pos hk]
        exact ⟨_, rfl⟩
      have hrun : decrementLot input changed a s =
          .ok ((), { s with lots := s.lots.set a.creditLotId l' }) := by
        simp only [decrementLot, bind_ok, get_ok, orFault_ok, rejectIf_ok, putRemaining_ok, not_not]
        exact ⟨s, s, ⟨rfl, rfl⟩, l, s, ⟨hl, rfl⟩, (), s, ⟨⟨hten, hcus, hle⟩, rfl⟩, l', hl', rfl⟩
      obtain ⟨t, ht⟩ := ih (s := { s with lots := s.lots.set a.creditLotId l' }) hlots.2 (by
        intro b hb
        obtain ⟨hposb, m, hm, hrest⟩ := hhas b (.tail _ hb)
        have hne : a.creditLotId ≠ b.creditLotId := fun he =>
          hlots.1 (he ▸ List.mem_map_of_mem (f := (·.creditLotId)) hb)
        exact ⟨hposb, m, Table.getElem?_set_iff.2 (.inr ⟨hne, hm⟩), hrest⟩)
      exact ⟨t, each_cons_ok.2 ⟨(), _, hrun, ht⟩⟩

/-! ### The whole debit -/

def insufficientBalance : Fault :=
  .http 422 "INSUFFICIENT_BALANCE" "Active balance is lower than requested debit amount"

/-- The part of a debit before its first write: the locked lots and the plan over them. -/
def plannedDebit (rt : Runtime) (input : AllocateDebitInput) : Tx (List PersistedAllocation) := do
  validateDebitAllocationTarget input
  let db ← get
  planAllocations (lockEligibleLots rt db input.tenantId input.customerId input.now
    input.excludedCreditLotIds) input.amountKobo

/-- The rows of a debit are the first of its redemption or adjustment. -/
def FreshTarget (input : AllocateDebitInput) (s : Database) : Prop :=
  ∀ a ∈ s.allocations, a.target ≠ input.target

lemma freshTarget_of_redemption {s : Database} (h : Linked s) {j : Nat}
    (htarget : input.target = .redemption j)
    (hnone : ∀ d, s.redemptions[j]? = some d → d.ledgerEntryId = none) : FreshTarget input s := by
  intro a ha he
  obtain ⟨k, hk⟩ := List.getElem?_of_mem ha
  obtain ⟨d, e, hd⟩ := h.allocation hk (he.trans htarget)
  have hsettled := hd.ledgerEntryId
  rw [hnone d hd.redemption] at hsettled
  cases hsettled

lemma freshTarget_of_adjustment {s : Database} (h : s.books.Sound) {j : Nat}
    (htarget : input.target = .adjustment j) (hnew : s.adjustments.length ≤ j) :
    FreshTarget input s := by
  intro a ha he
  obtain ⟨k, hk⟩ := List.getElem?_of_mem ha
  have hrow : s.books.allocations[k]? = some a := hk
  obtain ⟨e, l, hsourced⟩ := h.allocation hrow
  have hserves := hsourced.serves
  simp only [Books.Serves, he, htarget] at hserves
  obtain ⟨-, x, hx, -⟩ := hserves
  have hlt := Table.lt_of_getElem? hx
  have hlen : s.books.adjustments.length = s.adjustments.length := rfl
  omega

/-- What an exact first-expiry-first allocation is. -/
structure Exact (rt : Runtime) (s : Database) (input : AllocateDebitInput)
    (allocations : List PersistedAllocation) : Prop where
  positive : ∀ a ∈ allocations, 0 < a.amountKobo
  distinct : (allocations.map (·.creditLotId)).Nodup
  numbered : allocations.map (·.allocationOrder) = List.range' 1 allocations.length
  total : (allocations.map (·.amountKobo)).sum = input.amountKobo
  fefo : ∃ lots, InFefoOrder rt s input lots ∧
    allocations.map (·.creditLotId) <+: lots.map Prod.fst
  within : ∀ a ∈ allocations, ∃ l, (a.creditLotId, l) ∈ eligibleLots s input ∧
    a.amountKobo ≤ l.remainingAmountKobo
  drained : ∀ a ∈ allocations.dropLast, ∃ l, s.lots[a.creditLotId]? = some l ∧
    a.amountKobo = l.remainingAmountKobo

/-- What it leaves: a row for each allocation, and each lot smaller by its allocation. -/
structure Stored (input : AllocateDebitInput) (allocations : List PersistedAllocation)
    (s t : Database) : Prop where
  drawn : ∃ rows, Drawn input allocations rows s t
  reduced : ∀ a ∈ allocations, ∃ l l', s.lots[a.creditLotId]? = some l ∧
    t.lots[a.creditLotId]? = some l' ∧
      l'.remainingAmountKobo = l.remainingAmountKobo - a.amountKobo
  others : ∀ (i : Nat) l, (∀ a ∈ allocations, a.creditLotId ≠ i) → s.lots[i]? = some l →
    ∃ l', t.lots[i]? = some l' ∧ l'.remainingAmountKobo = l.remainingAmountKobo

section whole

variable {s t : Database} {allocations : List PersistedAllocation}

lemma exact_of_walk (hlots : InFefoOrder rt s input lots) (h : Walk lots 1 allocations)
    (htotal : (allocations.map (·.amountKobo)).sum = input.amountKobo) :
    Exact rt s input allocations where
  positive := h.positive
  distinct := h.nodup hlots.nodup
  numbered := h.numbered
  total := htotal
  fefo := ⟨lots, hlots, h.along⟩
  within a ha := by
    obtain ⟨l, hl, hle, -⟩ := h.within a ha
    exact ⟨l, hlots.perm.mem_iff.1 hl, hle⟩
  drained a ha := by
    obtain ⟨l, hl, hall⟩ := h.drained a ha
    exact ⟨l, (hlots.mem hl).1, hall⟩

/-- The plan: exact when the lots have the amount, and refused otherwise. -/
lemma plannedDebit_eq (rt : Runtime) (s : Database) (hpos : 0 < input.amountKobo) :
    (input.amountKobo ≤ eligibleKobo s input ∧ ∃ allocations,
      plannedDebit rt input s = .ok (allocations, s) ∧ Exact rt s input allocations) ∨
    (eligibleKobo s input < input.amountKobo ∧
      plannedDebit rt input s = .error insufficientBalance) := by
  have hlots := lockEligibleLots_inFefoOrder rt s input
  have hpositive := fun r hr => (hlots.mem (r := r) hr).2.2.2
  have hmissing := planLoop_missing _ 1 hpositive hpos.le
  have hwalk := planLoop_walk _ 1 hpositive hpos.le
  have htotal := planLoop_total (lockEligibleLots rt s input.tenantId input.customerId input.now
    input.excludedCreditLotIds) input.amountKobo 1
  rw [hlots.total] at hmissing
  have hvalid : validateDebitAllocationTarget input s = .ok ((), s) := by
    rw [validateDebitAllocationTarget, rejectIf_ok]
    exact ⟨by omega, rfl⟩
  unfold plannedDebit planAllocations
  rw [bind_of_ok hvalid, bind_of_ok (get_ok.2 ⟨rfl, rfl⟩)]
  by_cases henough : input.amountKobo ≤ eligibleKobo s input
  · refine .inl ⟨henough, _, ?_, exact_of_walk hlots hwalk (by omega)⟩
    rw [bind_of_ok ((rejectIf_ok (u := ())).2 ⟨by omega, rfl⟩)]
    rfl
  · refine .inr ⟨by omega, ?_⟩
    rw [bind_of_error (rejectIf_of (by omega))]
    rfl

lemma plannedDebit_reads {allocations : List PersistedAllocation}
    (h : plannedDebit rt input s = .ok (allocations, t)) : t = s := by
  simp only [plannedDebit, validateDebitAllocationTarget, planAllocations, bind_ok, rejectIf_ok,
    get_ok, pure_ok] at h
  obtain ⟨_, _, ⟨-, rfl⟩, _, _, ⟨rfl, rfl⟩, _, _, ⟨-, rfl⟩, -, rfl⟩ := h
  rfl

lemma persistAllocations_run {changed : Fault} (hfresh : FreshTarget input s)
    (h : Exact rt s input allocations) :
    ∃ t, persistAllocations input changed allocations s = .ok ((), t) := by
  have horders : (allocations.map (·.allocationOrder)).Nodup := by
    rw [h.numbered]
    exact List.nodup_range'
  obtain ⟨rows, hrows⟩ := createAllocations_runs h.positive h.distinct horders
    fun x hx ht => absurd ht (hfresh x hx)
  have hhas : ∀ a ∈ allocations, 0 < a.amountKobo ∧ ∃ l, s.lots[a.creditLotId]? = some l ∧
      l.tenantId = input.tenantId ∧ l.customerId = input.customerId ∧
        a.amountKobo ≤ l.remainingAmountKobo := by
    intro a ha
    obtain ⟨l, hl, hle⟩ := h.within a ha
    obtain ⟨hrow, hten, hcus, -⟩ := mem_eligibleLots.1 hl
    exact ⟨h.positive a ha, l, hrow, hten, hcus, hle⟩
  have hhas' : ∀ a ∈ allocations, 0 < a.amountKobo ∧
      ∃ l, { s with allocations := s.allocations ++ rows }.lots[a.creditLotId]? = some l ∧
        l.tenantId = input.tenantId ∧ l.customerId = input.customerId ∧
          a.amountKobo ≤ l.remainingAmountKobo := hhas
  obtain ⟨t, ht⟩ := decrementLots_run changed h.distinct hhas'
  refine ⟨t, ?_⟩
  rw [persistAllocations, bind_of_ok hrows]
  exact ht

lemma allocateDebit_eq : allocateDebit rt input s = (plannedDebit rt input >>= fun allocations =>
    persistAllocations input
      (.http 503 "REDEMPTION_TRANSACTION_CONFLICT" "Credit lot changed during allocation")
      allocations >>= fun _ => pure allocations) s := by
  unfold allocateDebit plannedDebit
  cases hv : validateDebitAllocationTarget input s with
  | error e =>
      rw [bind_of_error hv, bind_of_error (bind_of_error hv)]
  | ok r =>
      obtain ⟨u, m⟩ := r
      have hget : (get : Tx Database) m = .ok (m, m) := rfl
      rw [bind_of_ok hv, bind_of_ok hget]
      cases hp : planAllocations (lockEligibleLots rt m input.tenantId input.customerId input.now
          input.excludedCreditLotIds) input.amountKobo m with
      | error e =>
          rw [bind_of_error hp, bind_of_error]
          rw [bind_of_ok hv, bind_of_ok hget, hp]
      | ok r =>
          obtain ⟨as, n⟩ := r
          have hplan : plannedDebit rt input s = .ok (as, n) := by
            rw [plannedDebit, bind_of_ok hv, bind_of_ok hget, hp]
          rw [bind_of_ok hp]
          rw [plannedDebit] at hplan
          rw [bind_of_ok hplan]

lemma stored_of_drawn {rows : List RedemptionAllocation} (hdistinct : (allocations.map
    (·.creditLotId)).Nodup) (h : Drawn input allocations rows s t) :
      Stored input allocations s t where
  drawn := ⟨rows, h⟩
  reduced a ha := by
    obtain ⟨r, hr, hrow⟩ := h.returned.exists_right_of_mem ha
    obtain ⟨l, hl, -⟩ := h.onLots r hr
    rw [hrow.creditLotId] at hl
    obtain ⟨l', hl', -, hrem⟩ := h.moved.lot hl
    obtain ⟨i, hi⟩ := List.getElem?_of_mem ha
    have hdrawn : drawnOn allocations a.creditLotId = a.amountKobo :=
      Table.tally_of_nodup_map hdistinct hi
    rw [drawnOn_rows h.returned] at hdrawn
    exact ⟨l, l', hl, hl', by rw [hrem, hdrawn]; omega⟩
  others i l hi hl := by
    obtain ⟨l', hl', -, hrem⟩ := h.moved.lot hl
    have hzero : drawnOn allocations i = 0 := Table.tally_eq_zero fun a ha => hi a ha
    rw [drawnOn_rows h.returned] at hzero
    exact ⟨l', hl', by rw [hrem, hzero]; omega⟩

lemma allocateDebit_cases (rt : Runtime) (hpos : 0 < input.amountKobo)
    (hfresh : FreshTarget input s) :
    (input.amountKobo ≤ eligibleKobo s input ∧ ∃ allocations t,
      allocateDebit rt input s = .ok (allocations, t) ∧ Exact rt s input allocations ∧
        Stored input allocations s t) ∨
    (eligibleKobo s input < input.amountKobo ∧
      plannedDebit rt input s = .error insufficientBalance ∧
        allocateDebit rt input s = .error insufficientBalance) := by
  rcases plannedDebit_eq rt s hpos with ⟨henough, allocations, hplan, hexact⟩ |
    ⟨hless, hplan⟩
  · obtain ⟨t, hwritten⟩ := persistAllocations_run hfresh hexact
    have hrun : allocateDebit rt input s = .ok (allocations, t) := by
      rw [allocateDebit_eq, bind_of_ok hplan, bind_of_ok hwritten]
      rfl
    obtain ⟨rows, hdrawn⟩ := allocateDebit_ok hrun
    exact .inl ⟨henough, allocations, t, hrun, hexact, stored_of_drawn hexact.distinct hdrawn⟩
  · refine .inr ⟨hless, hplan, ?_⟩
    rw [allocateDebit_eq, bind_of_error hplan]

end whole

/-- **FEFO allocation is exact.** A debit is drawn when the customer's unexpired lots outside the
excluded ones have its amount, and then exactly, in the order of expiry, draining each lot but
the last. Otherwise the plan fails with INSUFFICIENT_BALANCE, before anything is written. -/
theorem allocateDebit_exact (rt : Runtime) (input : AllocateDebitInput) (s : Database)
    (hpos : 0 < input.amountKobo) (hfresh : FreshTarget input s) :
    ((∃ allocations t, allocateDebit rt input s = .ok (allocations, t)) ↔
      input.amountKobo ≤ eligibleKobo s input) ∧
    (∀ allocations t, allocateDebit rt input s = .ok (allocations, t) →
      Exact rt s input allocations ∧ Stored input allocations s t) ∧
    (∀ e, allocateDebit rt input s = .error e → e = insufficientBalance ∧
      plannedDebit rt input s = .error e ∧
        ∀ u allocations v, plannedDebit rt input u = .ok (allocations, v) → v = u) := by
  have hcases := allocateDebit_cases rt hpos hfresh
  refine ⟨⟨?_, ?_⟩, ?_, ?_⟩
  · rintro ⟨allocations, t, hrun⟩
    rcases hcases with ⟨henough, -⟩ | ⟨-, -, hfail⟩
    · exact henough
    · rw [hrun] at hfail
      cases hfail
  · intro henough
    rcases hcases with ⟨-, allocations, t, hrun, -⟩ | ⟨hless, -⟩
    · exact ⟨allocations, t, hrun⟩
    · omega
  · intro allocations t hrun
    rcases hcases with ⟨-, as, u, hrun', hexact, hstored⟩ | ⟨-, -, hfail⟩
    · rw [hrun] at hrun'
      obtain ⟨rfl, rfl⟩ := Prod.mk.inj (Except.ok.inj hrun')
      exact ⟨hexact, hstored⟩
    · rw [hrun] at hfail
      cases hfail
  · intro e herror
    rcases hcases with ⟨-, as, u, hrun, -⟩ | ⟨-, hplan, hfail⟩
    · rw [herror] at hrun
      cases hrun
    · obtain rfl := Except.error.inj (herror.symm.trans hfail)
      exact ⟨rfl, hplan, fun u allocations v h => plannedDebit_reads h⟩

end LotAllocationService

/-! ### A shop -/

namespace Shop

/-- Two purchases, of 1800 naira credit each. -/
def twoPurchases : List Op := [earn "k1" 9000000, earn "k2" 9000000]

/-- A debit of the customer for an adjustment. -/
def debit (amountKobo : Int) : AllocateDebitInput where
  tenantId := "tenant"
  customerId := "customer"
  debitLedgerEntryId := 2
  amountKobo := amountKobo
  now := night
  target := .adjustment 0

end Shop

open LotAllocationService in
/-- A debit that needs both lots. -/
theorem allocateDebit_exact_shop : ∃ t, Shop.opened.runAll Shop.runtime Shop.twoPurchases = .ok t ∧
    ∃ allocations u, allocateDebit Shop.runtime (Shop.debit 200000) t.db = .ok (allocations, u) ∧
      Exact Shop.runtime t.db (Shop.debit 200000) allocations := by
  obtain ⟨t, hrun, -⟩ := Reachable.of_runAll Shop.runtime Shop.registry Shop.twoPurchases
    (by decide +kernel) (by simp [Shop.twoPurchases, Shop.earn, Op.Admissible])
  have hnone : t.db.allocations.length = 0 :=
    System.of_runAll_map hrun (f := fun t => t.db.allocations.length) (by decide +kernel)
  have hfresh : FreshTarget (Shop.debit 200000) t.db := by
    intro a ha
    rw [List.eq_nil_of_length_eq_zero hnone] at ha
    cases ha
  have hkobo : eligibleKobo t.db (Shop.debit 200000) = 360000 :=
    System.of_runAll_map hrun (f := fun t => eligibleKobo t.db (Shop.debit 200000))
      (by decide +kernel)
  obtain ⟨hiff, hexact, -⟩ := allocateDebit_exact Shop.runtime (Shop.debit 200000) t.db
    (by decide) hfresh
  obtain ⟨allocations, u, hdebit⟩ := hiff.2 (by rw [hkobo]; decide)
  exact ⟨t, hrun, allocations, u, hdebit, (hexact allocations u hdebit).1⟩

end ShopcityLoyalty
