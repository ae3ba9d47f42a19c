import ShopcityLoyalty.LotAllocation

/-!
What drawing a debit and planning a restoration do to the lots: which rows are written,
how much every lot loses, and that the parts add up to the debit.
-/

namespace ShopcityLoyalty

open Txn Database

/-- Two states of one lot: only the remaining amount may differ. -/
structure SameLot (l l' : CreditLot) : Prop where
  tenantId : l'.tenantId = l.tenantId
  customerId : l'.customerId = l.customerId
  earnLedgerEntryId : l'.earnLedgerEntryId = l.earnLedgerEntryId
  originalAmountKobo : l'.originalAmountKobo = l.originalAmountKobo
  earnedAt : l'.earnedAt = l.earnedAt
  expiresAt : l'.expiresAt = l.expiresAt

lemma SameLot.refl (l : CreditLot) : SameLot l l := ⟨rfl, rfl, rfl, rfl, rfl, rfl⟩

lemma SameLot.trans {l m n : CreditLot} (h : SameLot l m) (h' : SameLot m n) : SameLot l n :=
  ⟨h'.1.trans h.1, h'.2.trans h.2, h'.3.trans h.3, h'.4.trans h.4, h'.5.trans h.5,
    h'.6.trans h.6⟩

lemma CreditLot.withRemaining?_eq_some {l l' : CreditLot} {k : Int} :
    l.withRemaining? k = some l' ↔ SameLot l l' ∧ l'.remainingAmountKobo = k := by
  unfold withRemaining?
  constructor
  · intro h
    split at h
    · obtain rfl := Option.some.inj h
      exact ⟨⟨rfl, rfl, rfl, rfl, rfl, rfl⟩, rfl⟩
    · cases h
  · rintro ⟨⟨h1, h2, h3, h4, h5, h6⟩, rfl⟩
    have hk : 0 ≤ l'.remainingAmountKobo ∧ l'.remainingAmountKobo ≤ l.originalAmountKobo :=
      ⟨l'.remaining_nonneg, h4 ▸ l'.remaining_le⟩
    rw [dif_pos hk]
    cases l; cases l'; simp_all

/-- Every lot's remaining amount changes by `δ`, and nothing else about any lot. -/
structure Moved (δ : Nat → Int) (ls ls' : Table CreditLot) : Prop where
  length_eq : ls'.length = ls.length
  lot : ∀ {i l}, ls[i]? = some l → ∃ l', ls'[i]? = some l' ∧ SameLot l l' ∧
    l'.remainingAmountKobo = l.remainingAmountKobo + δ i

namespace Moved

variable {δ ε : Nat → Int} {ls ls' ls'' : Table CreditLot}

lemma refl (ls : Table CreditLot) : Moved (fun _ => 0) ls ls :=
  ⟨rfl, fun h => ⟨_, h, .refl _, by simp⟩⟩

lemma trans (h : Moved δ ls ls') (h' : Moved ε ls' ls'') : Moved (fun i => δ i + ε i) ls ls'' := by
  refine ⟨h'.1.trans h.1, fun {i l} hl => ?_⟩
  obtain ⟨l', hl', hs, hr⟩ := h.lot hl
  obtain ⟨l'', hl'', hs', hr'⟩ := h'.lot hl'
  exact ⟨l'', hl'', hs.trans hs', by rw [hr', hr]; omega⟩

lemma congr (h : Moved δ ls ls') (he : ∀ i, δ i = ε i) : Moved ε ls ls' :=
  ⟨h.1, fun {i l} hl => by rw [← he i]; exact h.lot hl⟩

lemma lot_before (h : Moved δ ls ls') {i : Nat} {l' : CreditLot} (hl : ls'[i]? = some l') :
    ∃ l, ls[i]? = some l ∧ SameLot l l' ∧
      l'.remainingAmountKobo = l.remainingAmountKobo + δ i := by
  obtain ⟨l, hl0⟩ : ∃ l, ls[i]? = some l :=
    ⟨_, List.getElem?_eq_getElem (h.1 ▸ Table.lt_of_getElem? hl)⟩
  obtain ⟨m, hm, hs, hr⟩ := h.lot hl0
  obtain rfl : m = l' := by rw [hl] at hm; exact (Option.some.inj hm).symm
  exact ⟨l, hl0, hs, hr⟩

lemma map_eq {β : Type} {f : CreditLot → β} (h : Moved δ ls ls')
    (hf : ∀ l l', SameLot l l' → f l' = f l) : ls'.map f = ls.map f := by
  refine List.ext_getElem? fun i => ?_
  rw [List.getElem?_map, List.getElem?_map]
  cases hl : ls[i]? with
  | none =>
      have : ls'[i]? = none := by
        rw [List.getElem?_eq_none_iff] at hl ⊢
        exact h.1 ▸ hl
      rw [this]
  | some l =>
      obtain ⟨l', hl', hs, -⟩ := h.lot hl
      rw [hl', Option.map_some, Option.map_some, hf l l' hs]

lemma set {i : Nat} {l l' : CreditLot} (hl : ls[i]? = some l) {k : Int}
    (h : l.withRemaining? (l.remainingAmountKobo + k) = some l') :
    Moved (fun j => if i = j then k else 0) ls (ls.set i l') := by
  obtain ⟨hs, hr⟩ := CreditLot.withRemaining?_eq_some.1 h
  refine ⟨by simp, fun {j m} hm => ?_⟩
  by_cases hij : i = j
  · subst hij
    obtain rfl : l = m := by rw [hl] at hm; exact Option.some.inj hm
    refine ⟨l', ?_, hs, by simp [hr]⟩
    exact Table.getElem?_set_iff.2 (.inl ⟨rfl, Table.lt_of_getElem? hl, rfl⟩)
  · exact ⟨m, Table.getElem?_set_iff.2 (.inr ⟨hij, hm⟩), .refl m, by simp [hij]⟩

end Moved

namespace LotAllocationService

/-! ### Planning a debit -/

lemma planLoop_total (lots : List LockedCreditLot) (remaining : Int) (order : Nat) :
    ((planLoop lots remaining order).1.map (·.amountKobo)).sum + (planLoop lots remaining order).2 =
      remaining := by
  induction lots generalizing remaining order with
  | nil => simp [planLoop]
  | cons r rest ih =>
      obtain ⟨id, lot⟩ := r
      unfold planLoop
      split
      · simp
      · have h := ih (remaining - if lot.remainingAmountKobo < remaining then
          lot.remainingAmountKobo else remaining) (order + 1)
        simp only [List.map_cons, List.sum_cons]
        omega

lemma planLoop_missing_nonneg (lots : List LockedCreditLot) {remaining : Int}
    (h : 0 ≤ remaining) (order : Nat) : 0 ≤ (planLoop lots remaining order).2 := by
  induction lots generalizing remaining order with
  | nil => simpa [planLoop] using h
  | cons r rest ih =>
      obtain ⟨id, lot⟩ := r
      unfold planLoop
      split
      · exact h
      · have := lot.remaining_nonneg
        exact ih (by split <;> omega) (order + 1)

lemma planAllocations_ok {lots : List LockedCreditLot} {amountKobo : Int} (h0 : 0 ≤ amountKobo)
    {allocations : List PersistedAllocation} {s t : Database}
    (h : planAllocations lots amountKobo s = .ok (allocations, t)) :
    t = s ∧ allocations = (planLoop lots amountKobo 1).1 ∧
      (allocations.map (·.amountKobo)).sum = amountKobo := by
  simp only [planAllocations, bind_ok, rejectIf_ok, pure_ok, not_lt] at h
  obtain ⟨_, _, ⟨hm, rfl⟩, rfl, rfl⟩ := h
  have ht := planLoop_total lots amountKobo 1
  have hn := planLoop_missing_nonneg lots h0 1
  exact ⟨rfl, rfl, by omega⟩

/-! ### Writing it -/

/-- The row an allocation is stored as. -/
structure IsRow (input : AllocateDebitInput) (a : PersistedAllocation)
    (row : RedemptionAllocation) : Prop where
  tenantId : row.tenantId = input.tenantId
  target : row.target = input.target
  redemptionLedgerEntryId : row.redemptionLedgerEntryId = input.debitLedgerEntryId
  creditLotId : row.creditLotId = a.creditLotId
  amountKobo : (row.amountKobo : Int) = a.amountKobo
  allocationOrder : row.allocationOrder = a.allocationOrder

variable {input : AllocateDebitInput} {changed : Fault} {s t : Database} {u : Unit}
  {allocations : List PersistedAllocation}

lemma createAllocation_ok {a : PersistedAllocation}
    (h : createAllocation input a s = .ok (u, t)) :
    ∃ row, IsRow input a row ∧ t = { s with allocations := s.allocations ++ [row] } ∧
      ∀ x ∈ s.allocations, x.target = input.target → x.creditLotId ≠ a.creditLotId := by
  simp only [createAllocation, bind_ok, orFault_ok, insertAllocation_ok, pure_ok,
    PositiveKobo.of?_eq_some] at h
  obtain ⟨k, _, ⟨hk, rfl⟩, _, _, ⟨hlot, -, -, rfl⟩, -, rfl⟩ := h
  exact ⟨_, ⟨rfl, rfl, rfl, rfl, hk.symm, rfl⟩, rfl, hlot⟩

lemma createAllocations_ok (h : each (createAllocation input) allocations s = .ok (u, t)) :
    ∃ rows, List.Forall₂ (IsRow input) allocations rows ∧
      t = { s with allocations := s.allocations ++ rows } ∧
      (rows.map (·.creditLotId)).Nodup ∧
      ∀ r ∈ rows, ∀ x ∈ s.allocations, x.target = input.target → x.creditLotId ≠ r.creditLotId := by
  induction allocations generalizing s with
  | nil =>
      obtain rfl := each_nil_ok.1 h
      exact ⟨[], .nil, by simp, by simp, by simp⟩
  | cons a rest ih =>
      obtain ⟨_, s', ha, hrest⟩ := each_cons_ok.1 h
      obtain ⟨row, hrow, rfl, hlot⟩ := createAllocation_ok ha
      obtain ⟨rows, hrows, rfl, hnd, hnew⟩ := ih hrest
      refine ⟨row :: rows, .cons hrow hrows, by simp, ?_, ?_⟩
      · rw [List.map_cons, List.nodup_cons]
        refine ⟨fun hm => ?_, hnd⟩
        obtain ⟨r, hr, he⟩ := List.mem_map.1 hm
        exact hnew r hr row (by simp) hrow.target he.symm
      · intro r hr x hx htx
        rcases List.mem_cons.1 hr with rfl | hr
        · rw [hrow.creditLotId]; exact hlot x hx htx
        · exact hnew r hr x (List.mem_append_left _ hx) htx

/-- What a list of allocations takes from a lot. -/
def drawnOn (allocations : List PersistedAllocation) (i : Nat) : Int :=
  Table.tally allocations (fun a => a.creditLotId = i) (·.amountKobo)

lemma decrementLot_ok {a : PersistedAllocation} (h : decrementLot input changed a s = .ok (u, t)) :
    ∃ l, s.lots[a.creditLotId]? = some l ∧ l.tenantId = input.tenantId ∧
      l.customerId = input.customerId ∧ t = { s with lots := t.lots } ∧
      Moved (fun i => if a.creditLotId = i then -a.amountKobo else 0) s.lots t.lots := by
  simp only [decrementLot, bind_ok, get_ok, orFault_ok, rejectIf_ok, putRemaining_ok, not_not] at h
  obtain ⟨_, _, ⟨rfl, rfl⟩, l, _, ⟨hl, rfl⟩, _, _, ⟨⟨ht, hc, -⟩, rfl⟩, l', hl', rfl⟩ := h
  exact ⟨l, hl, ht, hc, rfl, Moved.set hl (by rw [← sub_eq_add_neg]; exact hl')⟩

lemma decrementLots_ok (h : each (decrementLot input changed) allocations s = .ok (u, t)) :
    t = { s with lots := t.lots } ∧ Moved (fun i => -drawnOn allocations i) s.lots t.lots ∧
      ∀ a ∈ allocations, ∃ l, s.lots[a.creditLotId]? = some l ∧ l.tenantId = input.tenantId ∧
        l.customerId = input.customerId := by
  induction allocations generalizing s with
  | nil =>
      obtain rfl := each_nil_ok.1 h
      exact ⟨rfl, .refl _, by simp⟩
  | cons a rest ih =>
      obtain ⟨_, s', ha, hrest⟩ := each_cons_ok.1 h
      obtain ⟨l, hl, hlt, hlc, hs', hm⟩ := decrementLot_ok ha
      obtain ⟨ht, hm', hon⟩ := ih hrest
      refine ⟨by rw [ht, hs'], (hm.trans hm').congr fun i => ?_, ?_⟩
      · simp only [drawnOn, Table.tally_cons]; split <;> omega
      · intro b hb
        rcases List.mem_cons.1 hb with rfl | hb
        · exact ⟨l, hl, hlt, hlc⟩
        · obtain ⟨m', hm1, hm2, hm3⟩ := hon b hb
          obtain ⟨m, hm0, hs, -⟩ := hm.lot_before hm1
          exact ⟨m, hm0, by rw [← hs.tenantId, hm2], by rw [← hs.customerId, hm3]⟩

/-- What a debit drawn from lots leaves: its rows, and every lot smaller by its rows. -/
structure Drawn (input : AllocateDebitInput) (allocations : List PersistedAllocation)
    (rows : List RedemptionAllocation) (s t : Database) : Prop where
  returned : List.Forall₂ (IsRow input) allocations rows
  frame : t = { s with allocations := s.allocations ++ rows, lots := t.lots }
  moved : Moved (fun i => -Table.tally rows (fun r => r.creditLotId = i) (·.amountKobo))
    s.lots t.lots
  onLots : ∀ r ∈ rows, ∃ l, s.lots[r.creditLotId]? = some l ∧ l.tenantId = input.tenantId ∧
    l.customerId = input.customerId
  nodup : (rows.map (·.creditLotId)).Nodup
  total : (rows.map fun r => (r.amountKobo : Int)).sum = input.amountKobo

lemma drawnOn_rows {rows : List RedemptionAllocation}
    (h : List.Forall₂ (IsRow input) allocations rows) (i : Nat) :
    drawnOn allocations i = Table.tally rows (fun r => r.creditLotId = i) (·.amountKobo) := by
  unfold drawnOn
  induction h with
  | nil => rfl
  | cons h _ ih => rw [Table.tally_cons, Table.tally_cons, h.amountKobo, h.creditLotId, ih]

lemma persistAllocations_ok (h : persistAllocations input changed allocations s = .ok (u, t))
    (htotal : (allocations.map (·.amountKobo)).sum = input.amountKobo) :
    ∃ rows, Drawn input allocations rows s t := by
  simp only [persistAllocations, bind_ok] at h
  obtain ⟨_, s', hc, hd⟩ := h
  obtain ⟨rows, hrows, rfl, hnd, -⟩ := createAllocations_ok hc
  obtain ⟨ht, hm, hon⟩ := decrementLots_ok hd
  refine ⟨rows, hrows, ht, hm.congr fun i => by rw [drawnOn_rows hrows], fun r hr => ?_, hnd, ?_⟩
  · obtain ⟨a, ha, hra⟩ := hrows.exists_left_of_mem hr
    rw [hra.creditLotId]
    exact hon a ha
  · rw [← htotal, hrows.map_eq_map fun a r h => h.amountKobo.symm]

/-- **A debit drawn first expiry first** takes exactly its amount, from the customer's lots. -/
theorem allocateDebit_ok {rt : Runtime} (h : allocateDebit rt input s = .ok (allocations, t)) :
    ∃ rows, Drawn input allocations rows s t := by
  simp only [allocateDebit, validateDebitAllocationTarget, bind_ok, get_ok, rejectIf_ok, pure_ok,
    not_le] at h
  obtain ⟨_, _, ⟨hpos, rfl⟩, _, _, ⟨rfl, rfl⟩, as, _, hp, _, _, hper, rfl, rfl⟩ := h
  obtain ⟨rfl, -, htotal⟩ := planAllocations_ok hpos.le hp
  exact persistAllocations_ok hper htotal

/-- **A debit drawn from one lot** is one allocation of its whole amount. -/
theorem allocateDebitFromExactLot_ok {lotId : Nat}
    (h : allocateDebitFromExactLot input lotId s = .ok (allocations, t)) :
    ∃ l row, s.lots[lotId]? = some l ∧ input.now < l.expiresAt ∧
      allocations = [⟨lotId, input.amountKobo, 1, l.expiresAt⟩] ∧
      Drawn input allocations [row] s t := by
  simp only [allocateDebitFromExactLot, validateDebitAllocationTarget, lockExactLot, bind_ok,
    get_ok, rejectIf_ok, orFault_ok, pure_ok, not_le, not_not] at h
  obtain ⟨_, _, ⟨hpos, rfl⟩, _, _, ⟨_, _, ⟨rfl, rfl⟩, l, _, ⟨hl, rfl⟩, _, _,
    ⟨⟨-, -, hle, hexp⟩, rfl⟩, rfl, rfl⟩, as, _, hp, _, _, hper, rfl, rfl⟩ := h
  obtain ⟨rfl, has, htotal⟩ := planAllocations_ok hpos.le hp
  have hplan : (planLoop [(lotId, l)] input.amountKobo 1).1 =
      [⟨lotId, input.amountKobo, 1, l.expiresAt⟩] := by
    have hne : input.amountKobo ≠ 0 := by omega
    have hge : ¬ l.remainingAmountKobo < input.amountKobo := by omega
    simp [planLoop, hne, hge]
  rw [hplan] at has
  obtain ⟨rows, hd⟩ := persistAllocations_ok hper htotal
  have hone : rows.length = 1 := by rw [← hd.returned.length_eq, has]; rfl
  obtain ⟨row, rfl⟩ := List.length_eq_one_iff.1 hone
  exact ⟨l, row, hl, hexp, has, hd⟩

/-! ### Planning a restoration -/

lemma mem_debitAllocations {tenantId : String} {debitLedgerEntryId i : Nat}
    {a : RedemptionAllocation} :
    (i, a) ∈ debitAllocations s tenantId debitLedgerEntryId ↔ s.allocations[i]? = some a ∧
      a.tenantId = tenantId ∧ a.redemptionLedgerEntryId = debitLedgerEntryId := by
  simp [debitAllocations, List.mem_insertionSort]

lemma nodup_debitAllocations (s : Database) (tenantId : String) (debitLedgerEntryId : Nat) :
    ((debitAllocations s tenantId debitLedgerEntryId).map Prod.fst).Nodup := by
  have hp := (List.perm_insertionSort allocationOrderLe (s.allocations.select fun a =>
    a.tenantId = tenantId && a.redemptionLedgerEntryId = debitLedgerEntryId)).map Prod.fst
  exact hp.nodup_iff.2 (Table.nodup_select _ _)

/-- What is planned for one allocation: what earlier reversals left of it. -/
structure IsPlanned (s : Database) (now : Int) (a : Nat × RedemptionAllocation)
    (p : PlannedRestoration) : Prop where
  allocationId : p.allocationId = a.1
  creditLotId : p.creditLotId = a.2.creditLotId
  amountKobo : p.amountKobo = a.2.amountKobo - restoredAmount s a.1
  nonneg : 0 ≤ p.amountKobo
  lot : ∃ l, s.lots[a.2.creditLotId]? = some l ∧ now < l.expiresAt ∧ p.expiresAt = l.expiresAt

lemma planRestoration_ok {now : Int} {a : Nat × RedemptionAllocation}
    {p : PlannedRestoration} (h : planRestoration now a s = .ok (p, t)) :
    t = s ∧ IsPlanned s now a p := by
  simp only [planRestoration, bind_ok, get_ok, orFault_ok, rejectIf_ok, pure_ok, not_le,
    not_lt] at h
  obtain ⟨_, _, ⟨rfl, rfl⟩, l, _, ⟨hl, rfl⟩, _, _, ⟨hexp, rfl⟩, _, _, ⟨hn, rfl⟩, rfl, rfl⟩ := h
  exact ⟨rfl, rfl, rfl, rfl, hn, l, hl, hexp, rfl⟩

/-- The restorations planned for a debit. -/
structure Planned (s : Database) (tenantId : String) (debitLedgerEntryId : Nat) (now : Int)
    (planned : List PlannedRestoration) : Prop where
  nonempty : planned ≠ []
  sound : ∀ p ∈ planned, 0 < p.amountKobo ∧ ∃ a, s.allocations[p.allocationId]? = some a ∧
    a.tenantId = tenantId ∧ a.redemptionLedgerEntryId = debitLedgerEntryId ∧
    IsPlanned s now (p.allocationId, a) p
  complete : ∀ {i a}, s.allocations[i]? = some a → a.tenantId = tenantId →
    a.redemptionLedgerEntryId = debitLedgerEntryId → 0 < a.amountKobo - restoredAmount s i →
    ∃ p ∈ planned, p.allocationId = i
  nodup : (planned.map (·.allocationId)).Nodup

/-- **The plan of a restoration** has each allocation of the debit that is not yet restored. -/
theorem planRestorations_ok {tenantId : String} {debitLedgerEntryId : Nat} {now : Int}
    {planned : List PlannedRestoration}
    (h : planRestorations tenantId debitLedgerEntryId now s = .ok (planned, t)) :
    s = t ∧ Planned s tenantId debitLedgerEntryId now planned := by
  simp only [planRestorations, bind_ok, get_ok, rejectIf_ok, pure_ok] at h
  obtain ⟨_, _, ⟨rfl, rfl⟩, all, s', hc, _, _, ⟨hne, rfl⟩, rfl, rfl⟩ := h
  obtain ⟨rfl, hall⟩ := collect_ok_of_read (fun a b t hb => (planRestoration_ok hb).1) hc
  have hplan := hall.imp fun a b hb => (planRestoration_ok hb).2
  have hids : (debitAllocations t tenantId debitLedgerEntryId).map Prod.fst =
      all.map (·.allocationId) := hplan.map_eq_map fun a p h => h.allocationId.symm
  refine ⟨rfl, hne, fun p hp => ?_, fun {i a} hi hten hd hpos => ?_, ?_⟩
  · obtain ⟨hp, hpos⟩ := List.mem_filter.1 hp
    obtain ⟨⟨i, a⟩, ha, hpl⟩ := hplan.exists_left_of_mem hp
    obtain ⟨hi, hten, hd⟩ := mem_debitAllocations.1 ha
    obtain rfl : p.allocationId = i := hpl.allocationId
    exact ⟨by simpa using hpos, a, hi, hten, hd, hpl⟩
  · obtain ⟨p, hp, hpl⟩ := hplan.exists_right_of_mem (mem_debitAllocations.2 ⟨hi, hten, hd⟩)
    refine ⟨p, List.mem_filter.2 ⟨hp, ?_⟩, hpl.allocationId⟩
    rw [hpl.amountKobo]
    simpa using hpos
  · refine List.Nodup.sublist (List.filter_sublist.map _) ?_
    rw [← hids]
    exact nodup_debitAllocations _ _ _

end LotAllocationService

end ShopcityLoyalty
