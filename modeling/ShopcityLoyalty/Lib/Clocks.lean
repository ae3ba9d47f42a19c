import Mathlib.Algebra.Group.Basic
import Mathlib.Logic.Function.Iterate
import Mathlib.Tactic

/-!
A clock read at an instant, and the instant found again from a reading: a guess is taken back by
what its reading is ahead of the target, some times over.

No assumption is made on the clock, so a reading may come at several instants or at none.
-/

namespace ShopcityLoyalty.Clocks

variable {α : Type*} [AddCommGroup α]

/-- What a clock is ahead of the instant it is read at. -/
def ahead (clock : α → α) (t : α) : α := clock t - t

/-- A guess at the instant of a reading, taken back by the error of its own reading. -/
def correct (clock : α → α) (target guess : α) : α := guess - (clock guess - target)

variable {clock : α → α} {target : α}

lemma correct_eq (clock : α → α) (target guess : α) :
    correct clock target guess = target - ahead clock guess := by
  unfold correct ahead
  abel

lemma correct_fixed_iff {t : α} : correct clock target t = t ↔ clock t = target := by
  unfold correct
  rw [sub_eq_self, sub_eq_zero]

/-- A guess leads to an instant of the target in one correction when the clock is as far ahead
at both. -/
lemma correct_eq_iff {t : α} (h : clock t = target) (guess : α) :
    correct clock target guess = t ↔ ahead clock guess = ahead clock t := by
  have ht : t = target - ahead clock t := by
    rw [← correct_eq]
    exact (correct_fixed_iff.2 h).symm
  rw [correct_eq]
  constructor
  · intro hguess
    rw [ht] at hguess
    exact sub_right_injective hguess
  · intro hahead
    rw [hahead]
    exact ht.symm

lemma iterate_of_reached {t : α} (h : clock t = target) {k n : ℕ} (hkn : k ≤ n) {guess : α}
    (hk : (correct clock target)^[k] guess = t) : (correct clock target)^[n] guess = t := by
  obtain ⟨m, rfl⟩ := Nat.exists_eq_add_of_le' hkn
  rw [Function.iterate_add_apply, hk]
  exact Function.iterate_fixed (correct_fixed_iff.2 h) m

/-- **When corrections reach an instant of the target**: exactly when the clock is as far ahead at
one of the guesses before. -/
theorem iterate_correct_iff {t : α} (h : clock t = target) (guess : α) (n : ℕ) :
    (correct clock target)^[n + 1] guess = t ↔
      ∃ k ≤ n, ahead clock ((correct clock target)^[k] guess) = ahead clock t := by
  constructor
  · intro hn
    rw [Function.iterate_succ_apply'] at hn
    exact ⟨n, le_rfl, (correct_eq_iff h _).1 hn⟩
  · intro ⟨k, hkn, hk⟩
    have hnext : (correct clock target)^[k + 1] guess = t := by
      rw [Function.iterate_succ_apply']
      exact (correct_eq_iff h _).2 hk
    exact iterate_of_reached h (by omega) hnext

end ShopcityLoyalty.Clocks
