import ShopcityLoyalty.Invariants

/-!
Reversals: an entry is reversed at most once, an allocation is never restored beyond its
amount, and the entries of one receipt are reversed by one transaction.
-/

namespace ShopcityLoyalty

open Database

namespace Books

/-- No two entries reverse the same entry, and no allocation is restored beyond its amount. -/
structure ReversedOnce (b : Books) : Prop where
  entry : ∀ {i j : Nat} {e x o}, b.ledger[i]? = some e → b.ledger[j]? = some x →
    e.reversesEntryId = some o → x.reversesEntryId = some o → i = j
  allocation : ∀ {k : Nat} {a}, b.allocations[k]? = some a → b.restoredAmount k ≤ a.amountKobo

lemma Sound.reversedOnce {b : Books} (h : b.Sound) : b.ReversedOnce where
  entry hi hj he hx := Table.eq_of_nodup_filterMap h.reversal_once hi hj he hx
  allocation := h.restoredAmount_le

end Books

/-- The entries of one receipt that a transaction reverses: all of them, or none. -/
structure ReversedTogether (s t : Database) : Prop where
  together : ∀ {i j : Nat} {o x k}, s.ledger[i]? = some o → s.ledger[j]? = some x →
    o.receiptId = some k → x.receiptId = some k →
    ¬ s.books.reversed i → t.books.reversed i → ¬ s.books.reversed j ∧ t.books.reversed j

lemma Together.reversedTogether {s t : Database} (hs : Together s) (ht : Together t)
    (hg : Books.Grows s.books t.books) : ReversedTogether s t := by
  constructor
  intro i j o x k ho hx hok hxk hnot hrev
  have hj : t.books.reversed j := ht.together (hg.ledger ho) (hg.ledger hx) hok hxk hrev
  have hnj : ¬ s.books.reversed j := fun hr => hnot (hs.together hx ho hxk hok hr)
  exact ⟨hnj, hj⟩

variable {rt : Runtime} {op : Op} {s t : System}

/-- **Reversals happen once**, and one transaction reverses all entries of a receipt or none. -/
theorem reversal_once (hs : Reachable rt s) :
    s.db.books.ReversedOnce ∧
      ∀ {op : Op} {t : System}, Step rt op s t → ReversedTogether s.db t.db := by
  have h := hs.invariants
  refine ⟨h.books.sound.reversedOnce, fun {op t} hst => ?_⟩
  have ht := hst.invariants h
  exact h.together.reversedTogether ht.together (hst.grows h)

/-- A redemption whose settlement also earned, before its reversal. -/
theorem reversal_once_shop :
    ∃ s, Shop.opened.runAll Shop.runtime [Shop.earn "k1" 9000000,
        Shop.redeem "k2" ⟨1000000, by decide⟩ ⟨60000, by decide⟩] = .ok s ∧
      s.db.books.ReversedOnce ∧
      ∀ {op : Op} {t : System}, Step Shop.runtime op s t → ReversedTogether s.db t.db := by
  obtain ⟨s, hrun, hs⟩ := Reachable.of_runAll Shop.runtime Shop.registry [Shop.earn "k1" 9000000,
    Shop.redeem "k2" ⟨1000000, by decide⟩ ⟨60000, by decide⟩]
    (by decide +kernel) (by simp [Shop.earn, Shop.redeem, Op.Admissible])
  exact ⟨s, hrun, reversal_once hs⟩

end ShopcityLoyalty
