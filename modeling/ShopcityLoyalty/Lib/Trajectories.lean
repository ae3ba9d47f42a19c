import Mathlib.Tactic

/-!
Systems that take a step under every label, along an infinite sequence of labels.

What each step keeps holds all along. Where labels of a kind come again and again, a place that
the other labels do not leave is left in the end.
-/

namespace ShopcityLoyalty

variable {σ α : Type*}

/-- The states that a system goes through. -/
def trajectory (next : σ → α → σ) (s : σ) (labels : ℕ → α) : ℕ → σ
  | 0 => s
  | n + 1 => next (trajectory next s labels n) (labels n)

/-- Labels of a kind come again and again. -/
def Recurs (kind : α → Prop) (labels : ℕ → α) : Prop := ∀ n, ∃ m, n ≤ m ∧ kind (labels m)

variable {next : σ → α → σ} {s : σ} {labels : ℕ → α}

/-- An invariant that steps keep. -/
theorem trajectory_invariant {I : σ → Prop} (hs : I s) (hstep : ∀ t a, I t → I (next t a)) (n : ℕ) :
    I (trajectory next s labels n) := by
  induction n with
  | zero => exact hs
  | succ n ih => exact hstep _ _ ih

/-- **Progress**: what holds until a label of the kind comes leads to what that label leaves. -/
theorem Recurs.leaves {kind : α → Prop} (h : Recurs kind labels) (P Q : σ → Prop)
    (hstay : ∀ t a, ¬ kind a → P t → P (next t a)) (hleave : ∀ t a, kind a → P t → Q (next t a))
    {n : ℕ} (hn : P (trajectory next s labels n)) :
    ∃ m, n ≤ m ∧ Q (trajectory next s labels m) := by
  obtain ⟨m, hnm, hm⟩ := h n
  obtain ⟨d, rfl⟩ := Nat.exists_eq_add_of_le hnm
  clear hnm
  induction d generalizing n with
  | zero => exact ⟨n + 1, by omega, hleave _ _ hm hn⟩
  | succ d ih =>
      by_cases hkind : kind (labels n)
      · exact ⟨n + 1, by omega, hleave _ _ hkind hn⟩
      · have hnext : P (trajectory next s labels (n + 1)) := hstay _ _ hkind hn
        obtain ⟨m, hle, hQ⟩ := ih hnext (by rwa [show n + 1 + d = n + (d + 1) by omega])
        exact ⟨m, by omega, hQ⟩

end ShopcityLoyalty
