import ShopcityLoyalty.Invariants

/-!
Conservation: what remains of each lot is what its evidence leaves of it, and what a
customer was credited less what was debited is what the customer's lots hold.
-/

namespace ShopcityLoyalty

open Database

/-- What remains of the lots of a customer. -/
def Books.held (b : Books) (a : CustomerRef) : Int :=
  b.lots.tally (fun l => l.customer = a) (·.remainingAmountKobo)

namespace Books.Balanced

variable {b : Books}

lemma holdings_eq (h : b.Balanced) (a : CustomerRef) : b.toLotBook.holdings a = b.held a := by
  rw [held, Table.tally_eq_sum_range, LotBook.holdings, Finset.sum_filter]
  refine Finset.sum_congr rfl fun i hi => ?_
  have hlt : i < b.lots.length := Finset.mem_range.1 hi
  have hl : b.lots[i]? = some b.lots[i] := List.getElem?_eq_getElem hlt
  rw [Books.owner_eq hl, ← h.column hl, hl]
  simp

end Books.Balanced

/-! ### Rows of one tenant -/

namespace Books.Sound

variable {b : Books} {i : Nat} {l : CreditLot} {tenantId : String}

lemma restoration_tenant (h : b.Sound) {j : Nat} {r : AllocationRestoration}
    (hr : b.restorations[j]? = some r) : ∃ (a : RedemptionAllocation) (l : CreditLot),
      b.allocations[r.allocationId]? = some a ∧ a.tenantId = r.tenantId ∧
        b.lots[a.creditLotId]? = some l ∧ l.tenantId = r.tenantId := by
  obtain ⟨e, a, hsrc⟩ := h.restoration hr
  obtain ⟨x, l, hall⟩ := h.allocation hsrc.allocation
  have hrev : x.tenantId = e.tenantId := by
    cases h.entry hsrc.entry with
    | credit _ hnone => rw [hsrc.reverses] at hnone; cases hnone
    | debit _ hback =>
        rcases hback with ⟨hx, -⟩ | ⟨hx, -⟩ <;> rw [hsrc.type] at hx <;> cases hx
    | expiry hx => rw [hsrc.type] at hx; cases hx
    | @restore o y _ _ _ ho hrev =>
        obtain rfl : a.redemptionLedgerEntryId = o := Option.some.inj (hsrc.reverses.symm.trans ho)
        obtain rfl : x = y := Option.some.inj (hall.entry.symm.trans hrev.entry)
        exact hrev.tenantId
  have hten : x.tenantId = r.tenantId := hrev.trans hsrc.tenantId.symm
  exact ⟨a, l, hsrc.allocation, hall.tenantId.trans hten, hall.lot, hall.lot_tenantId.trans hten⟩

lemma tenant_drawn (h : b.Sound) (hl : b.lots[i]? = some l) (hten : l.tenantId = tenantId) :
    b.allocations.tally (fun a => a.tenantId = tenantId ∧ a.creditLotId = i) (·.amountKobo) =
      b.drawn i := by
  refine Table.tally_congr_iff fun a ha => ⟨fun hrow => hrow.2, ?_⟩
  rintro rfl
  obtain ⟨j, hj⟩ := List.getElem?_of_mem ha
  obtain ⟨e, l', hsrc⟩ := h.allocation hj
  obtain rfl : l = l' := Option.some.inj (hl.symm.trans hsrc.lot)
  exact ⟨(hsrc.tenantId.trans hsrc.lot_tenantId.symm).trans hten, rfl⟩

lemma tenant_restored (h : b.Sound) (hl : b.lots[i]? = some l) (hten : l.tenantId = tenantId) :
    b.restorations.tally (fun r => r.tenantId = tenantId ∧ b.restoresLot i r) (·.amountKobo) =
      b.restored i := by
  refine Table.tally_congr_iff fun r hr => ⟨fun hrow => hrow.2, fun hlot => ?_⟩
  obtain ⟨j, hj⟩ := List.getElem?_of_mem hr
  obtain ⟨a, l', ha, -, hl', hlten⟩ := h.restoration_tenant hj
  obtain rfl : a.creditLotId = i := by simpa [restoresLot, ha] using hlot
  obtain rfl : l = l' := Option.some.inj (hl.symm.trans hl')
  exact ⟨hlten.symm.trans hten, hlot⟩

lemma tenant_lapsed (h : b.Sound) (hl : b.lots[i]? = some l) (hten : l.tenantId = tenantId) :
    b.expiries.tally (fun x => x.tenantId = tenantId ∧ x.creditLotId = i) (·.amountKobo) =
      b.lapsed i := by
  refine Table.tally_congr_iff fun x hx => ⟨fun hrow => hrow.2, ?_⟩
  rintro rfl
  obtain ⟨j, hj⟩ := List.getElem?_of_mem hx
  obtain ⟨e, l', hsrc⟩ := h.expiry hj
  obtain rfl : l = l' := Option.some.inj (hl.symm.trans hsrc.lot)
  exact ⟨(hsrc.tenantId.trans hsrc.lot_tenantId.symm).trans hten, rfl⟩

end Books.Sound

/-! ### The laws -/

/-- The two laws, with every term read off the rows. -/
structure Books.Conserved (b : Books) : Prop where
  lot : ∀ {i : Nat} {l}, b.lots[i]? = some l →
    l.remainingAmountKobo = l.originalAmountKobo - b.drawn i + b.restored i - b.lapsed i ∧
      0 ≤ l.remainingAmountKobo ∧ l.remainingAmountKobo ≤ l.originalAmountKobo
  customer : ∀ a : CustomerRef, b.posted .CREDIT a - b.posted .DEBIT a = b.held a

lemma Books.Balanced.conserved {b : Books} (h : b.Balanced) : b.Conserved where
  lot {i l} hl := by
    have hcolumn : l.remainingAmountKobo = b.toLotBook.remaining i := h.column hl
    have hgranted : b.toLotBook.granted i = l.originalAmountKobo := Books.granted_eq hl
    refine ⟨?_, l.remaining_nonneg, l.remaining_le⟩
    rw [hcolumn, LotBook.remaining, hgranted]
    rfl
  customer a := by
    rw [← h.holdings_eq a]
    exact h.laws.balance a

/-- **Conservation**, in every reachable state: lot by lot, and customer by customer. -/
theorem lot_ledger_conservation {rt : Runtime} {s : System} (hs : Reachable rt s) :
    s.db.books.Conserved :=
  hs.invariants.books.conserved

/-- A purchase, a redemption paid from its credit, and the reversal of the redemption. -/
theorem lot_ledger_conservation_shop :
    ∃ t, Shop.opened.runAll Shop.runtime [Shop.earn "k1" 9000000,
        Shop.redeem "k2" ⟨1000000, by decide⟩ ⟨60000, by decide⟩, Shop.reverse "k3" 1] = .ok t ∧
      t.db.books.Conserved := by
  obtain ⟨t, hrun, ht⟩ := Reachable.of_runAll Shop.runtime Shop.registry [Shop.earn "k1" 9000000,
    Shop.redeem "k2" ⟨1000000, by decide⟩ ⟨60000, by decide⟩, Shop.reverse "k3" 1]
    (by decide +kernel) (by simp [Shop.earn, Shop.redeem, Shop.reverse, Op.Admissible])
  exact ⟨t, hrun, lot_ledger_conservation ht⟩

end ShopcityLoyalty
