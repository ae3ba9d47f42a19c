import Mathlib.Tactic

/-!
Numbers written in decimal digits: which characters their texts have, and that no two of them
have one text.
-/

namespace ShopcityLoyalty

lemma isDigit_of_mem_toString {n : Nat} {c : Char} (h : c ∈ (toString n).toList) : c.isDigit := by
  have hc : c ∈ Nat.toDigits 10 n := by simpa [Nat.toList_repr] using h
  exact Nat.isDigit_of_mem_toDigits (by omega) (by omega) hc

lemma toString_nat_ne_empty (n : Nat) : (toString n).toList ≠ [] := by
  have hlen := Nat.length_toDigits_pos (b := 10) (n := n)
  intro hnil
  rw [Nat.toString_eq_repr, Nat.toList_repr] at hnil
  rw [hnil] at hlen
  simp at hlen

/-- **A number is read back** from its digits. -/
theorem toString_nat_inj {m n : Nat} : toString m = toString n ↔ m = n := by
  constructor
  · intro htext
    have hdigits : Nat.toDigits 10 m = Nat.toDigits 10 n := by
      simpa [toString, Nat.repr, String.ofList_inj] using htext
    calc m = Nat.ofDigitChars 10 (Nat.toDigits 10 m) 0 :=
          (Nat.ofDigitChars_toDigits (by decide) (by decide)).symm
      _ = Nat.ofDigitChars 10 (Nat.toDigits 10 n) 0 := by rw [hdigits]
      _ = n := Nat.ofDigitChars_toDigits (by decide) (by decide)
  · rintro rfl
    rfl

lemma mem_toString_int {n : Int} {c : Char} (h : c ∈ (toString n).toList) :
    c.isDigit ∨ c = '-' := by
  cases n with
  | ofNat m => exact .inl (isDigit_of_mem_toString (n := m) h)
  | negSucc m =>
      have htext : (toString (Int.negSucc m)).toList = '-' :: (toString (m + 1)).toList := by
        simp [Int.repr]
      rw [htext, List.mem_cons] at h
      rcases h with rfl | h
      · exact .inr rfl
      · exact .inl (isDigit_of_mem_toString h)

end ShopcityLoyalty
