import ShopcityLoyalty.Lib.Table

/-!
Tables whose rows have owners, and changes to the rows of one owner only.
-/

namespace ShopcityLoyalty

namespace Table

variable {α ω : Type} {owner : α → ω} {o : ω} {t u v : Table α} {a b : α} {i : Nat}

/-- Every other owner's rows are the same ones, under the same ids. -/
def OnlyOf (owner : α → ω) (o : ω) (t u : Table α) : Prop :=
  ∀ (i : Nat) (a : α), owner a ≠ o → (u[i]? = some a ↔ t[i]? = some a)

namespace OnlyOf

lemma refl : OnlyOf owner o t t := fun _ _ _ => Iff.rfl

lemma trans (h : OnlyOf owner o t u) (h' : OnlyOf owner o u v) : OnlyOf owner o t v :=
  fun i a ha => (h' i a ha).trans (h i a ha)

lemma append {rows : Table α} (h : ∀ a ∈ rows, owner a = o) : OnlyOf owner o t (t ++ rows) := by
  intro i a ha
  constructor
  · intro hi
    rcases of_getElem?_append hi with hi | ⟨-, hmem⟩
    · exact hi
    · exact absurd (h a hmem) ha
  · exact getElem?_append

lemma insert (h : owner a = o) : OnlyOf owner o t (t ++ [a]) :=
  append fun b hb => by rwa [List.mem_singleton.1 hb]

lemma set (hrow : t[i]? = some a) (ha : owner a = o) (hb : owner b = o) :
    OnlyOf owner o t (t.set i b) := by
  intro j c hc
  rw [getElem?_set_iff]
  constructor
  · rintro (⟨-, -, rfl⟩ | ⟨-, hj⟩)
    · exact absurd hb hc
    · exact hj
  · intro hj
    refine .inr ⟨?_, hj⟩
    rintro rfl
    obtain rfl : a = c := Option.some.inj (hrow.symm.trans hj)
    exact hc ha

lemma filter_eq (h : OnlyOf owner o t u) {p : α → Bool} (hp : ∀ a, p a → owner a ≠ o) (i : Nat) :
    u[i]?.filter p = t[i]?.filter p := by
  ext a
  simp only [Option.filter_eq_some_iff]
  constructor
  · rintro ⟨hi, ha⟩
    exact ⟨(h i a (hp a ha)).1 hi, ha⟩
  · rintro ⟨hi, ha⟩
    exact ⟨(h i a (hp a ha)).2 hi, ha⟩

end OnlyOf

lemma tally_eq_sum_filter {p : α → Prop} [DecidablePred p] {f : α → Int} {n : Nat}
    (h : t.length ≤ n) : tally t p f =
      ∑ i ∈ Finset.range n, ((t[i]?.filter fun a => p a).map f).getD 0 := by
  rw [tally_eq_sum_range]
  refine Eq.trans (Finset.sum_congr rfl fun i _ => ?_)
    (Finset.sum_subset (Finset.range_subset_range.2 h) fun i _ hi => ?_)
  · cases t[i]? with
    | none => rfl
    | some a => by_cases ha : p a <;> simp [ha, Option.filter_some]
  · have hnone : t[i]? = none := List.getElem?_eq_none (not_lt.1 fun hlt => hi (by simpa using hlt))
    simp [hnone]

end Table

end ShopcityLoyalty
