import Mathlib.Logic.Relation
import Mathlib.Tactic

/-!
Rows that link to later rows: chains of links are finite, and end.
-/

namespace ShopcityLoyalty

/-- Every link of a table of `n` rows leads to a later row of the table. -/
def Links.Rising (next : Nat → Option Nat) (n : Nat) : Prop :=
  ∀ i j, next i = some j → i < j ∧ j < n

namespace Links

variable {next : Nat → Option Nat} {n i j k : Nat}

/-- A row reached from another by links. -/
abbrev Reaches (next : Nat → Option Nat) : Nat → Nat → Prop :=
  Relation.ReflTransGen fun i j => next i = some j

/-- **No chain of links goes on forever.** -/
theorem Rising.wellFounded (h : Rising next n) : WellFounded fun j i => next i = some j := by
  refine Subrelation.wf ?_ (measure fun i => n - i).wf
  intro j i hij
  obtain ⟨hlt, hn⟩ := h i j hij
  change n - j < n - i
  omega

/-- **Every chain of links ends.** -/
theorem Rising.ends (h : Rising next n) (i : Nat) : ∃ j, Reaches next i j ∧ next j = none := by
  induction i using h.wellFounded.induction with
  | _ i ih =>
      cases hi : next i with
      | none => exact ⟨i, .refl, hi⟩
      | some j =>
          obtain ⟨k, hk, hend⟩ := ih j hi
          exact ⟨k, .head hi hk, hend⟩

end Links

end ShopcityLoyalty
