import ShopcityLoyalty.FefoAllocation
import ShopcityLoyalty.Lib.FirstExpiry

/-!
First expiry first is the best choice of lots: after a debit the customer can spend, at every
later instant, as much as after any other choice, and no debit is refused that another choice of
lots for the earlier ones would have left the credit for.
-/

namespace ShopcityLoyalty

open Txn Database

namespace LotAllocationService

/-- A customer's lots, as holdings. -/
def purse (db : Database) (tenantId customerId : String) : Purse ℕ ℤ where
  holdings := (Finset.range db.lots.length).filter fun i =>
    ∃ l ∈ db.lots[i]?, l.tenantId = tenantId ∧ l.customerId = customerId
  expiry i := (db.lots[i]?.map (·.expiresAt)).getD 0
  held i := (db.lots[i]?.map (·.remainingAmountKobo)).getD 0
  nonneg i _ := by
    cases db.lots[i]? with
    | none => simp
    | some l => exact l.remaining_nonneg

section purses

variable {db s t : Database} {tenantId customerId : String} {i j : ℕ} {l : CreditLot} {τ : ℤ}

lemma mem_purse : i ∈ (purse db tenantId customerId).holdings ↔
    ∃ l, db.lots[i]? = some l ∧ l.tenantId = tenantId ∧ l.customerId = customerId := by
  simp only [purse, Finset.mem_filter, Finset.mem_range, Option.mem_def]
  constructor
  · rintro ⟨-, h⟩
    exact h
  · rintro ⟨l, hl, howner⟩
    exact ⟨Table.lt_of_getElem? hl, l, hl, howner⟩

lemma purse_expiry (hl : db.lots[i]? = some l) :
    (purse db tenantId customerId).expiry i = l.expiresAt := by
  simp [purse, hl]

lemma purse_held (hl : db.lots[i]? = some l) :
    (purse db tenantId customerId).held i = l.remainingAmountKobo := by
  simp [purse, hl]

lemma worth_purse (db : Database) (tenantId customerId : String) (τ : ℤ) :
    (purse db tenantId customerId).worth τ =
      ActiveBalanceService.getActiveBalanceKobo db tenantId customerId τ := by
  unfold Purse.worth ActiveBalanceService.getActiveBalanceKobo
  rw [Table.tally_eq_sum_range]
  unfold purse
  rw [Finset.filter_filter, Finset.sum_filter]
  refine Finset.sum_congr rfl fun i hi => ?_
  obtain ⟨l, hl⟩ : ∃ l, db.lots[i]? = some l :=
    ⟨_, List.getElem?_eq_getElem (Finset.mem_range.1 hi)⟩
  have hnonneg := l.remaining_nonneg
  simp only [hl, Option.mem_def, Option.some.injEq, exists_eq_left', Option.map_some,
    Option.getD_some, ActiveBalanceService.activeCreditLotWhere, Bool.and_eq_true,
    decide_eq_true_eq]
  by_cases hzero : l.remainingAmountKobo = 0
  · simp [hzero]
  · have hpos : 0 < l.remainingAmountKobo := by omega
    simp [hpos, and_assoc]

lemma sum_drawnOn {allocations : List PersistedAllocation} {lots : Finset ℕ}
    (h : ∀ a ∈ allocations, a.creditLotId ∈ lots) :
    ∑ i ∈ lots, drawnOn allocations i = (allocations.map (·.amountKobo)).sum := by
  induction allocations with
  | nil => simp [drawnOn]
  | cons a rest ih =>
      have hrest := ih fun b hb => h b (.tail _ hb)
      have hfirst := h a List.mem_cons_self
      simp only [drawnOn, Table.tally_cons, Finset.sum_add_distrib, List.map_cons,
        List.sum_cons] at hrest ⊢
      rw [hrest, Finset.sum_ite_eq, if_pos hfirst]

end purses

section debits

variable {rt : Runtime} {input : AllocateDebitInput} {s t : Database}
  {allocations : List PersistedAllocation} {rows : List RedemptionAllocation}
  {lots : List LockedCreditLot}

lemma Exact.creditLot (h : Exact rt s input allocations) {a : PersistedAllocation}
    (ha : a ∈ allocations) : ∃ l, s.lots[a.creditLotId]? = some l ∧ l.tenantId = input.tenantId ∧
      l.customerId = input.customerId ∧ input.now < l.expiresAt := by
  obtain ⟨l, hl, -⟩ := h.within a ha
  obtain ⟨hrow, hten, hcus, -, hlive, -⟩ := mem_eligibleLots.1 hl
  exact ⟨l, hrow, hten, hcus, hlive⟩

lemma Exact.drawnOn (h : Exact rt s input allocations) {a : PersistedAllocation}
    (ha : a ∈ allocations) : drawnOn allocations a.creditLotId = a.amountKobo := by
  obtain ⟨k, hk⟩ := List.getElem?_of_mem ha
  exact Table.tally_of_nodup_map h.distinct hk

lemma Exact.drawnOn_nonneg (h : Exact rt s input allocations) (i : ℕ) :
    0 ≤ LotAllocationService.drawnOn allocations i :=
  Table.tally_nonneg fun a ha _ => (h.positive a ha).le

lemma Exact.draws (h : Exact rt s input allocations) (hd : Drawn input allocations rows s t) :
    (purse s input.tenantId input.customerId).Draws input.now input.amountKobo
      (LotAllocationService.drawnOn allocations) where
  nonneg i _ := h.drawnOn_nonneg i
  within i hi := by
    obtain ⟨l, hl, -⟩ := mem_purse.1 hi
    obtain ⟨l', -, -, hrem⟩ := hd.moved.lot hl
    rw [← drawnOn_rows hd.returned] at hrem
    have hnonneg := l'.remaining_nonneg
    rw [purse_held hl]
    omega
  live i hi hexpired := by
    refine Table.tally_eq_zero fun a ha hai => ?_
    obtain ⟨l, hl, -, -, hlive⟩ := h.creditLot ha
    rw [hai] at hl
    rw [purse_expiry hl] at hexpired
    omega
  total := by
    rw [sum_drawnOn fun a ha => ?_, h.total]
    obtain ⟨l, hl, hten, hcus, -⟩ := h.creditLot ha
    exact mem_purse.2 ⟨l, hl, hten, hcus⟩

lemma InFefoOrder.expiresAt_le (h : InFefoOrder rt s input lots) {xs ys : List ℕ}
    (hsplit : lots.map Prod.fst = xs ++ ys) {i j : ℕ} {l m : CreditLot} (hj : j ∈ xs)
    (hi : i ∈ ys) (hl : s.lots[i]? = some l) (hm : s.lots[j]? = some m) :
    m.expiresAt ≤ l.expiresAt := by
  obtain ⟨front, back, hlots, hfront, hback⟩ := List.map_eq_append_iff.1 hsplit
  rw [← hfront] at hj
  rw [← hback] at hi
  obtain ⟨⟨j', m'⟩, hjm, rfl⟩ := List.mem_map.1 hj
  obtain ⟨⟨i', l'⟩, hil, rfl⟩ := List.mem_map.1 hi
  have hm' := (h.mem (hlots ▸ List.mem_append_left _ hjm)).1
  have hl' := (h.mem (hlots ▸ List.mem_append_right _ hil)).1
  obtain rfl : m = m' := Option.some.inj (hm.symm.trans hm')
  obtain rfl : l = l' := Option.some.inj (hl.symm.trans hl')
  have hsorted := h.sorted
  rw [hlots, List.pairwise_append] at hsorted
  rcases hsorted.2.2 _ hjm _ hil with hlt | ⟨heq, -⟩
  · exact hlt.le
  · exact heq.le

/-- It takes first what expires first. -/
lemma Exact.firstExpiry (h : Exact rt s input allocations)
    (hexcluded : input.excludedCreditLotIds = []) (hd : Drawn input allocations rows s t) :
    (purse s input.tenantId input.customerId).FirstExpiry input.now
      (LotAllocationService.drawnOn allocations) := by
  intro i hi j hj hlive hlt hdrawn
  obtain ⟨l, hl, hten, hcus⟩ := mem_purse.1 hi
  obtain ⟨m, hm, -⟩ := mem_purse.1 hj
  have hwithin := (h.draws hd).within i hi
  rw [purse_expiry hl] at hlive hlt
  rw [purse_expiry hm] at hlt
  rw [purse_held hl] at hwithin ⊢
  by_cases hzero : l.remainingAmountKobo = 0
  · have hnonneg := h.drawnOn_nonneg i
    omega
  obtain ⟨lots, horder, hprefix⟩ := h.fefo
  obtain ⟨rest, hrest⟩ := hprefix
  have hpos : 0 < l.remainingAmountKobo := by
    have hnonneg := l.remaining_nonneg
    omega
  have hin : i ∈ lots.map Prod.fst := by
    refine List.mem_map.2 ⟨(i, l), horder.perm.mem_iff.2 ?_, rfl⟩
    exact mem_eligibleLots.2 ⟨hl, hten, hcus, hpos, hlive, by simp [hexcluded]⟩
  have hdrawnLot : ∃ a ∈ allocations, a.creditLotId = j := by
    by_contra hnone
    have hzero : LotAllocationService.drawnOn allocations j = 0 :=
      Table.tally_eq_zero fun a ha haj => hnone ⟨a, ha, haj⟩
    omega
  obtain ⟨b, hb, rfl⟩ := hdrawnLot
  -- the lot is among those that are drawn, and not the last of them
  have hmem : ∃ a ∈ allocations.dropLast, a.creditLotId = i := by
    by_contra hnot
    have hne : allocations ≠ [] := List.ne_nil_of_mem hb
    have hparts := List.dropLast_concat_getLast hne
    have hlater : ∀ c ∈ allocations.dropLast ++ [allocations.getLast hne], c ∈ allocations := by
      rw [hparts]; exact fun _ hc => hc
    have hsplit : lots.map Prod.fst = allocations.dropLast.map (·.creditLotId) ++
        ((allocations.getLast hne).creditLotId :: rest) := by
      rw [← hrest]
      conv_lhs => rw [← hparts]
      simp
    have hi' : i ∈ (allocations.getLast hne).creditLotId :: rest := by
      rw [hsplit] at hin
      rcases List.mem_append.1 hin with hin | hin
      · obtain ⟨a, ha, rfl⟩ := List.mem_map.1 hin
        exact absurd ⟨a, ha, rfl⟩ hnot
      · exact hin
    have hle : m.expiresAt ≤ l.expiresAt := by
      rw [← hparts] at hb
      rcases List.mem_append.1 hb with hb | hb
      · exact horder.expiresAt_le hsplit (List.mem_map_of_mem hb) hi' hl hm
      · rw [List.mem_singleton] at hb
        rcases List.mem_cons.1 hi' with heq | hi'
        · rw [heq, ← hb, hm] at hl
          obtain rfl := Option.some.inj hl
          exact le_rfl
        · refine horder.expiresAt_le hrest.symm (List.mem_map_of_mem ?_) hi' hl hm
          rw [hb]
          exact List.getLast_mem hne
    omega
  obtain ⟨a, ha, rfl⟩ := hmem
  obtain ⟨l', hl', hall⟩ := h.drained a ha
  obtain rfl : l = l' := Option.some.inj (hl.symm.trans hl')
  rw [h.drawnOn (List.dropLast_subset _ ha), hall]

/-- What is left is the purse after the draw. -/
lemma purse_drawn (h : Exact rt s input allocations) (hd : Drawn input allocations rows s t) :
    purse t input.tenantId input.customerId =
      (purse s input.tenantId input.customerId).after (h.draws hd) := by
  have hrow : ∀ i, (t.lots[i]? = none ∧ s.lots[i]? = none ∧
        LotAllocationService.drawnOn allocations i = 0) ∨
      ∃ l l', s.lots[i]? = some l ∧ t.lots[i]? = some l' ∧ SameLot l l' ∧
        l'.remainingAmountKobo =
          l.remainingAmountKobo - LotAllocationService.drawnOn allocations i := by
    intro i
    cases hl : s.lots[i]? with
    | none =>
        have hlen := hd.moved.length_eq
        have hnone : t.lots[i]? = none := by
          rw [List.getElem?_eq_none_iff] at hl ⊢
          omega
        refine .inl ⟨hnone, rfl, Table.tally_eq_zero fun a ha hai => ?_⟩
        obtain ⟨l, hl', -⟩ := h.creditLot ha
        rw [hai, hl] at hl'
        cases hl'
    | some l =>
        obtain ⟨l', hl', hsame, hrem⟩ := hd.moved.lot hl
        rw [← drawnOn_rows hd.returned] at hrem
        exact .inr ⟨l, l', rfl, hl', hsame, by omega⟩
  refine Purse.ext ?_ (funext fun i => ?_) (funext fun i => ?_)
  · ext i
    rw [mem_purse]
    refine Iff.trans ?_ mem_purse.symm
    rcases hrow i with ⟨ht, hs, -⟩ | ⟨l, l', hl, hl', hsame, -⟩
    · simp [ht, hs]
    · simp [hl, hl', hsame.tenantId, hsame.customerId]
  · rcases hrow i with ⟨ht, hs, -⟩ | ⟨l, l', hl, hl', hsame, -⟩
    · simp [purse, Purse.after, ht, hs]
    · simp [purse, Purse.after, hl, hl', hsame.expiresAt]
  · rcases hrow i with ⟨ht, hs, hzero⟩ | ⟨l, l', hl, hl', -, hrem⟩
    · simp [purse, Purse.after, ht, hs, hzero]
    · simp [purse, Purse.after, hl, hl', hrem]

/-- **A debit leaves the most that any choice of lots can leave**: at every later instant the
lesser of what could be spent then and of what is left in all. -/
theorem allocateDebit_leaves_most (hpos : 0 < input.amountKobo) (hfresh : FreshTarget input s)
    (hexcluded : input.excludedCreditLotIds = [])
    (hrun : allocateDebit rt input s = .ok (allocations, t)) {τ : ℤ} (hτ : input.now ≤ τ) :
    ActiveBalanceService.getActiveBalanceKobo t input.tenantId input.customerId τ =
      min (ActiveBalanceService.getActiveBalanceKobo s input.tenantId input.customerId τ)
        (ActiveBalanceService.getActiveBalanceKobo s input.tenantId input.customerId input.now -
          input.amountKobo) ∧
    ∀ (d : ℕ → ℤ) (hd : (purse s input.tenantId input.customerId).Draws input.now
        input.amountKobo d),
      ((purse s input.tenantId input.customerId).after hd).worth τ ≤
        ActiveBalanceService.getActiveBalanceKobo t input.tenantId input.customerId τ := by
  obtain ⟨hexact, -⟩ := (allocateDebit_exact rt input s hpos hfresh).2.1 allocations t hrun
  obtain ⟨rows, hdrawn⟩ := allocateDebit_ok hrun
  have hleft := (hexact.draws hdrawn).after_eq (hexact.firstExpiry hexcluded hdrawn) hτ
  rw [← purse_drawn hexact hdrawn, worth_purse, worth_purse, worth_purse] at hleft
  rw [hleft]
  refine ⟨rfl, fun d hd => ?_⟩
  have hmost := hd.after_le hτ
  rwa [worth_purse, worth_purse] at hmost

end debits

/-! ### One debit after another -/

/-- Debits drawn one after another, all or none. -/
def allocateDebits (rt : Runtime) (inputs : List AllocateDebitInput) : Tx Unit :=
  each (fun input => allocateDebit rt input >>= fun _ => pure ()) inputs

/-- Debits of one customer in the order of time, for redemptions or adjustments of their own. -/
structure Successive (tenantId customerId : String) (s : Database) (now : ℤ)
    (inputs : List AllocateDebitInput) : Prop where
  owner : ∀ input ∈ inputs, input.tenantId = tenantId ∧ input.customerId = customerId
  positive : ∀ input ∈ inputs, 0 < input.amountKobo
  unexcluded : ∀ input ∈ inputs, input.excludedCreditLotIds = []
  fresh : ∀ input ∈ inputs, FreshTarget input s
  distinct : (inputs.map (·.target)).Nodup
  later : ∀ input ∈ inputs, now ≤ input.now
  ordered : inputs.Pairwise fun a b => a.now ≤ b.now

/-- What the debits ask for, and when. -/
def requests (inputs : List AllocateDebitInput) : List (ℤ × ℤ) :=
  inputs.map fun input => (input.now, input.amountKobo)

section sequences

variable {rt : Runtime} {input : AllocateDebitInput} {inputs : List AllocateDebitInput}
  {s t : Database} {tenantId customerId : String} {now : ℤ}

lemma Successive.rest {allocations : List PersistedAllocation} {rows : List RedemptionAllocation}
    (h : Successive tenantId customerId s now (input :: inputs))
    (hd : Drawn input allocations rows s t) :
    Successive tenantId customerId t input.now inputs where
  owner i hi := h.owner i (.tail _ hi)
  positive i hi := h.positive i (.tail _ hi)
  unexcluded i hi := h.unexcluded i (.tail _ hi)
  fresh i hi a ha := by
    rw [hd.frame] at ha
    rcases List.mem_append.1 ha with ha | ha
    · exact h.fresh i (.tail _ hi) a ha
    · obtain ⟨b, -, hrow⟩ := hd.returned.exists_left_of_mem ha
      have hdistinct := (List.nodup_cons.1 h.distinct).1
      rw [hrow.target]
      intro heq
      exact hdistinct (List.mem_map.2 ⟨i, hi, heq.symm⟩)
  distinct := (List.nodup_cons.1 h.distinct).2
  later i hi := (List.pairwise_cons.1 h.ordered).1 i hi
  ordered := (List.pairwise_cons.1 h.ordered).2

lemma Successive.first (h : Successive tenantId customerId s now (input :: inputs))
    {allocations : List PersistedAllocation}
    (hrun : allocateDebit rt input s = .ok (allocations, t)) :
    ∃ (d : ℕ → ℤ) (hd : (purse s tenantId customerId).Draws input.now input.amountKobo d),
      (purse s tenantId customerId).FirstExpiry input.now d ∧
      purse t tenantId customerId = (purse s tenantId customerId).after hd ∧
      Successive tenantId customerId t input.now inputs := by
  obtain ⟨hten, hcus⟩ := h.owner input List.mem_cons_self
  obtain ⟨hexact, -⟩ := (allocateDebit_exact rt input s (h.positive input List.mem_cons_self)
    (h.fresh input List.mem_cons_self)).2.1 allocations t hrun
  obtain ⟨rows, hdrawn⟩ := allocateDebit_ok hrun
  have hrest := h.rest hdrawn
  subst hten hcus
  exact ⟨_, hexact.draws hdrawn, hexact.firstExpiry (h.unexcluded input List.mem_cons_self) hdrawn,
    purse_drawn hexact hdrawn, hrest⟩

lemma serves_of_allocateDebits (h : Successive tenantId customerId s now inputs)
    (hrun : allocateDebits rt inputs s = .ok ((), t)) :
    (purse s tenantId customerId).Serves (requests inputs) := by
  induction inputs generalizing s now with
  | nil => exact .nil
  | cons input inputs ih =>
      obtain ⟨_, m, hfirst, hrest⟩ := each_cons_ok.1 hrun
      obtain ⟨allocations, m', hfirst, hpure⟩ := bind_ok.1 hfirst
      obtain ⟨-, rfl⟩ := pure_ok.1 hpure
      obtain ⟨d, hd, -, hpurse, hsuccessive⟩ := h.first hfirst
      refine .cons hd ?_
      rw [← hpurse]
      exact ih hsuccessive hrest

lemma allocateDebits_of_serves {p : Purse ℕ ℤ} (h : Successive tenantId customerId s now inputs)
    (hserves : p.Serves (requests inputs)) (hcovers : (purse s tenantId customerId).Covers p now) :
    ∃ t, allocateDebits rt inputs s = .ok ((), t) := by
  induction inputs generalizing s now p with
  | nil => exact ⟨s, each_nil_ok.2 rfl⟩
  | cons input inputs ih =>
      cases hserves with
      | cons hp hrest =>
          have hnow := hcovers.mono (h.later input List.mem_cons_self)
          have henough : input.amountKobo ≤ eligibleKobo s input := by
            obtain ⟨hten, hcus⟩ := h.owner input List.mem_cons_self
            rw [eligibleKobo_eq_activeBalance (h.unexcluded input List.mem_cons_self),
              ← worth_purse, hten, hcus]
            exact hp.amount_le.trans (hnow input.now le_rfl)
          obtain ⟨allocations, m, hfirst⟩ := (allocateDebit_exact rt input s
            (h.positive input List.mem_cons_self) (h.fresh input List.mem_cons_self)).1.2 henough
          obtain ⟨d, hd, hfirstExpiry, hpurse, hsuccessive⟩ := h.first hfirst
          obtain ⟨t, hrun⟩ := ih hsuccessive hrest
            (hpurse ▸ hnow.draw hp hd hfirstExpiry)
          refine ⟨t, each_cons_ok.2 ⟨(), m, ?_, hrun⟩⟩
          exact bind_ok.2 ⟨allocations, m, hfirst, pure_ok.2 ⟨rfl, rfl⟩⟩

/-- **No debit is refused that another choice of lots would have left the credit for**: debits of
a customer, one after another, are all drawn exactly when some choice of lots serves them. -/
theorem allocateDebits_iff_serves (h : Successive tenantId customerId s now inputs) :
    (∃ t, allocateDebits rt inputs s = .ok ((), t)) ↔
      (purse s tenantId customerId).Serves (requests inputs) := by
  constructor
  · rintro ⟨t, hrun⟩
    exact serves_of_allocateDebits h hrun
  · intro hserves
    exact allocateDebits_of_serves h hserves (Purse.Covers.refl _ _)

end sequences

end LotAllocationService

/-! ### A shop -/

namespace Shop

/-- Two debits of the customer, one after the other. -/
def twoDebits : List AllocateDebitInput :=
  [debit 200000, { debit 100000 with target := .adjustment 1, now := night + 1 }]

end Shop

section shop

open LotAllocationService

lemma exists_of_isOk {ε α : Type} {x : Except ε α} (h : x.isOk = true) : ∃ a, x = .ok a := by
  cases x with
  | error e => cases h
  | ok a => exact ⟨a, rfl⟩

lemma Shop.twoPurchases_run : ∃ t, Shop.opened.runAll Shop.runtime Shop.twoPurchases = .ok t ∧
    (∀ input, FreshTarget input t.db) ∧
    (∃ r, allocateDebit Shop.runtime (Shop.debit 200000) t.db = .ok r) ∧
    ∃ r, allocateDebits Shop.runtime Shop.twoDebits t.db = .ok r := by
  have hrun : (Shop.opened.runAll Shop.runtime Shop.twoPurchases).map (fun t =>
      (t.db.allocations.length, (allocateDebit Shop.runtime (Shop.debit 200000) t.db).isOk,
        (allocateDebits Shop.runtime Shop.twoDebits t.db).isOk)) = .ok (0, true, true) := by
    decide +kernel
  cases ht : Shop.opened.runAll Shop.runtime Shop.twoPurchases with
  | error e =>
      rw [ht] at hrun
      cases hrun
  | ok t =>
      rw [ht] at hrun
      obtain ⟨hnone, hdraws⟩ := Prod.mk.inj (Except.ok.inj hrun)
      obtain ⟨hfirst, hboth⟩ := Prod.mk.inj hdraws
      refine ⟨t, rfl, fun input a ha => ?_, exists_of_isOk hfirst, exists_of_isOk hboth⟩
      rw [List.eq_nil_of_length_eq_zero hnone] at ha
      cases ha

/-- A debit that needs both lots. -/
theorem allocateDebit_leaves_most_shop :
    ∃ t, Shop.opened.runAll Shop.runtime Shop.twoPurchases = .ok t ∧
      ∃ allocations u, allocateDebit Shop.runtime (Shop.debit 200000) t.db = .ok (allocations, u) ∧
        ActiveBalanceService.getActiveBalanceKobo u "tenant" "customer" Shop.night =
          min (ActiveBalanceService.getActiveBalanceKobo t.db "tenant" "customer" Shop.night)
            (ActiveBalanceService.getActiveBalanceKobo t.db "tenant" "customer" Shop.night -
              200000) := by
  obtain ⟨t, hrun, hfresh, ⟨r, hdebit⟩, -⟩ := Shop.twoPurchases_run
  have hpos : 0 < (Shop.debit 200000).amountKobo := by decide
  have hmost := allocateDebit_leaves_most hpos (hfresh _) rfl hdebit (le_refl Shop.night)
  exact ⟨t, hrun, r.1, r.2, hdebit, hmost.1⟩

/-- Both debits are drawn, so some choice of lots serves them. -/
theorem allocateDebits_iff_serves_shop :
    ∃ t, Shop.opened.runAll Shop.runtime Shop.twoPurchases = .ok t ∧
      (purse t.db "tenant" "customer").Serves (requests Shop.twoDebits) := by
  obtain ⟨t, hrun, hfresh, -, r, hdebits⟩ := Shop.twoPurchases_run
  have hsuccessive : Successive "tenant" "customer" t.db Shop.night Shop.twoDebits :=
    { owner := by simp [Shop.twoDebits, Shop.debit]
      positive := by simp [Shop.twoDebits, Shop.debit]
      unexcluded := by simp [Shop.twoDebits, Shop.debit]
      fresh := fun input _ => hfresh input
      distinct := by simp [Shop.twoDebits, Shop.debit]
      later := by simp [Shop.twoDebits, Shop.debit]
      ordered := by simp [Shop.twoDebits, Shop.debit] }
  exact ⟨t, hrun, (allocateDebits_iff_serves hsuccessive).1 ⟨r.2, hdebits⟩⟩

end shop

end ShopcityLoyalty
