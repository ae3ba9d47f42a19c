import Mathlib.Algebra.BigOperators.Group.Finset.Basic
import Mathlib.Algebra.Order.BigOperators.Group.Finset
import Mathlib.Logic.Relation
import Mathlib.Tactic

/-!
Credit held in lots: what is granted to an account becomes a lot, a debit is drawn from
lots of its account, a reversal puts back what was drawn, and what is left of a lot may
lapse.

The two laws of such a book hold over every run: no lot goes below nothing or above its
grant, and an account's credits less its debits are what its lots hold.
-/

namespace ShopcityLoyalty

/-- Lots with what was granted to, drawn from, restored to and lapsed from each, and the
totals credited and debited to each account. -/
@[ext]
structure LotBook (Lot Account : Type) where
  lots : Finset Lot
  owner : Lot → Account
  granted : Lot → ℤ
  drawn : Lot → ℤ
  restored : Lot → ℤ
  lapsed : Lot → ℤ
  credited : Account → ℤ
  debited : Account → ℤ

namespace LotBook

variable {Lot Account : Type} [DecidableEq Lot] [DecidableEq Account]

/-- What is left of a lot. -/
def remaining (b : LotBook Lot Account) (l : Lot) : ℤ :=
  b.granted l - b.drawn l + b.restored l - b.lapsed l

/-- What an account's lots hold. -/
def holdings (b : LotBook Lot Account) (a : Account) : ℤ :=
  ∑ l ∈ b.lots with b.owner l = a, b.remaining l

/-- A part `d` of each lot, taken only from lots of one account. -/
structure Parts (b : LotBook Lot Account) (a : Account) (d : Lot → ℤ) : Prop where
  nonneg : ∀ l, 0 ≤ d l
  owned : ∀ l, d l ≠ 0 → l ∈ b.lots ∧ b.owner l = a

/-- A new lot for what is credited. -/
def grant (b : LotBook Lot Account) (l : Lot) (a : Account) (k : ℤ) : LotBook Lot Account :=
  { b with
    lots := insert l b.lots
    owner := Function.update b.owner l a
    granted := Function.update b.granted l k
    credited := Function.update b.credited a (b.credited a + k) }

/-- A debit drawn from lots. -/
def draw (b : LotBook Lot Account) (a : Account) (d : Lot → ℤ) : LotBook Lot Account :=
  { b with
    drawn := fun l => b.drawn l + d l
    debited := Function.update b.debited a (b.debited a + ∑ l ∈ b.lots, d l) }

/-- A credit put back into lots. -/
def restore (b : LotBook Lot Account) (a : Account) (d : Lot → ℤ) : LotBook Lot Account :=
  { b with
    restored := fun l => b.restored l + d l
    credited := Function.update b.credited a (b.credited a + ∑ l ∈ b.lots, d l) }

/-- Part of a lot lost to its account. -/
def lapse (b : LotBook Lot Account) (l : Lot) (k : ℤ) : LotBook Lot Account :=
  { b with
    lapsed := Function.update b.lapsed l (b.lapsed l + k)
    debited := Function.update b.debited (b.owner l) (b.debited (b.owner l) + k) }

inductive Step (b : LotBook Lot Account) : LotBook Lot Account → Prop
  | grant {l : Lot} {a : Account} {k : ℤ} (hl : l ∉ b.lots) (hk : 0 < k)
      (hfresh : b.drawn l = 0 ∧ b.restored l = 0 ∧ b.lapsed l = 0) : Step b (b.grant l a k)
  | draw {a : Account} {d : Lot → ℤ} (hd : b.Parts a d) (hle : ∀ l ∈ b.lots, d l ≤ b.remaining l) :
      Step b (b.draw a d)
  | restore {a : Account} {d : Lot → ℤ} (hd : b.Parts a d)
      (hle : ∀ l ∈ b.lots, b.restored l + d l ≤ b.drawn l) : Step b (b.restore a d)
  | lapse {l : Lot} {k : ℤ} (hl : l ∈ b.lots) (hk : 0 < k) (hle : k ≤ b.remaining l) :
      Step b (b.lapse l k)

/-- The two laws, with what carries them: restored never exceeds drawn. -/
structure Sound (b : LotBook Lot Account) : Prop where
  nonneg : ∀ l ∈ b.lots, 0 ≤ b.remaining l
  restored_le : ∀ l ∈ b.lots, b.restored l ≤ b.drawn l
  lapsed_nonneg : ∀ l ∈ b.lots, 0 ≤ b.lapsed l
  balance : ∀ a, b.credited a - b.debited a = b.holdings a

variable {b c : LotBook Lot Account}

/-! ### Parts and holdings -/

omit [DecidableEq Lot] in
lemma Parts.sum_other {a a' : Account} {d : Lot → ℤ} (hd : b.Parts a d) (h : a' ≠ a) :
    ∑ l ∈ b.lots with b.owner l = a', d l = 0 := by
  refine Finset.sum_eq_zero fun l hl => ?_
  by_contra hne
  have hown := (hd.owned l hne).2
  exact h ((Finset.mem_filter.1 hl).2.symm.trans hown)

omit [DecidableEq Lot] in
lemma Parts.sum_own {a : Account} {d : Lot → ℤ} (hd : b.Parts a d) :
    ∑ l ∈ b.lots with b.owner l = a, d l = ∑ l ∈ b.lots, d l :=
  Finset.sum_filter_of_ne fun l _ hne => (hd.owned l hne).2

omit [DecidableEq Lot] in
lemma holdings_parts {a : Account} {d : Lot → ℤ} (hd : b.Parts a d) (hl : c.lots = b.lots)
    (ho : c.owner = b.owner) {k : ℤ} (hr : ∀ l, c.remaining l = b.remaining l + k * d l)
    (a' : Account) :
    c.holdings a' = b.holdings a' + if a' = a then k * ∑ l ∈ b.lots, d l else 0 := by
  have hsum : c.holdings a' = b.holdings a' + k * ∑ l ∈ b.lots with b.owner l = a', d l := by
    unfold holdings
    rw [hl, ho, Finset.mul_sum, ← Finset.sum_add_distrib]
    exact Finset.sum_congr rfl fun l _ => hr l
  rw [hsum]
  by_cases h : a' = a
  · subst h; rw [if_pos rfl, hd.sum_own]
  · rw [if_neg h, hd.sum_other h, mul_zero]

lemma update_total (f : Account → ℤ) (a a' : Account) (k : ℤ) :
    Function.update f a (f a + k) a' = f a' + if a' = a then k else 0 := by
  rw [Function.update_apply]
  split
  · subst a'; rfl
  · omega

/-! ### The steps -/

lemma remaining_grant {l : Lot} {a : Account} {k : ℤ} {m : Lot} (h : m ≠ l) :
    (b.grant l a k).remaining m = b.remaining m := by
  unfold remaining grant
  simp only [Function.update_of_ne h]

lemma Sound.grant (h : b.Sound) {l : Lot} {a : Account} {k : ℤ} (hl : l ∉ b.lots) (hk : 0 < k)
    (hfresh : b.drawn l = 0 ∧ b.restored l = 0 ∧ b.lapsed l = 0) : (b.grant l a k).Sound := by
  obtain ⟨hd, hr, hla⟩ := hfresh
  have hself : ∀ m ∈ b.lots, m ≠ l := fun m hm he => hl (he ▸ hm)
  have hnew : (b.grant l a k).remaining l = k := by
    simp only [remaining, LotBook.grant, Function.update_self]; omega
  refine ⟨fun m hm => ?_, fun m hm => ?_, fun m hm => ?_, fun a' => ?_⟩
  · rcases Finset.mem_insert.1 hm with rfl | hm
    · rw [hnew]; exact hk.le
    · rw [remaining_grant (hself m hm)]; exact h.nonneg m hm
  · rcases Finset.mem_insert.1 hm with rfl | hm
    · exact (hr.trans hd.symm).le
    · exact h.restored_le m hm
  · rcases Finset.mem_insert.1 hm with rfl | hm
    · exact hla.symm.le
    · exact h.lapsed_nonneg m hm
  · have hold : ∑ m ∈ b.lots with (b.grant l a k).owner m = a', (b.grant l a k).remaining m =
        b.holdings a' := by
      have hf : ∀ m ∈ b.lots, ((b.grant l a k).owner m = a' ↔ b.owner m = a') := by
        intro m hm
        simp only [LotBook.grant, Function.update_of_ne (hself m hm)]
      rw [holdings, Finset.filter_congr hf]
      refine Finset.sum_congr rfl fun m hm => ?_
      exact remaining_grant (hself m (Finset.mem_filter.1 hm).1)
    have howner : (b.grant l a k).owner l = a := Function.update_self ..
    have hhold : (b.grant l a k).holdings a' = b.holdings a' + if a' = a then k else 0 := by
      rw [holdings, show (b.grant l a k).lots = insert l b.lots from rfl, Finset.filter_insert,
        howner]
      by_cases ha : a = a'
      · rw [if_pos ha, Finset.sum_insert (by simp [hl]), hold, hnew, if_pos ha.symm, add_comm]
      · rw [if_neg ha, hold, if_neg (Ne.symm ha), add_zero]
    have hb := h.balance a'
    rw [hhold, show (b.grant l a k).credited a' = _ from update_total b.credited a a' k]
    change _ - b.debited a' = _
    omega

omit [DecidableEq Lot] in
lemma Sound.draw (h : b.Sound) {a : Account} {d : Lot → ℤ} (hd : b.Parts a d)
    (hle : ∀ l ∈ b.lots, d l ≤ b.remaining l) : (b.draw a d).Sound := by
  have hrem : ∀ l, (b.draw a d).remaining l = b.remaining l + -1 * d l := by
    intro l; simp only [remaining, LotBook.draw]; omega
  refine ⟨fun l hl => ?_, fun l hl => ?_, h.lapsed_nonneg, fun a' => ?_⟩
  · have := hle l hl; rw [hrem]; omega
  · have h1 := h.restored_le l hl
    have h2 := hd.nonneg l
    simp only [LotBook.draw]; omega
  · have hb := h.balance a'
    rw [holdings_parts (c := b.draw a d) hd rfl rfl hrem a',
      show (b.draw a d).debited a' = _ from update_total b.debited a a' _]
    change b.credited a' - _ = _
    split <;> omega

omit [DecidableEq Lot] in
lemma Sound.restore (h : b.Sound) {a : Account} {d : Lot → ℤ} (hd : b.Parts a d)
    (hle : ∀ l ∈ b.lots, b.restored l + d l ≤ b.drawn l) : (b.restore a d).Sound := by
  have hrem : ∀ l, (b.restore a d).remaining l = b.remaining l + 1 * d l := by
    intro l; simp only [remaining, LotBook.restore]; omega
  refine ⟨fun l hl => ?_, fun l hl => hle l hl, h.lapsed_nonneg, fun a' => ?_⟩
  · have h1 := h.nonneg l hl
    have h2 := hd.nonneg l
    rw [hrem]; omega
  · have hb := h.balance a'
    rw [holdings_parts (c := b.restore a d) hd rfl rfl hrem a',
      show (b.restore a d).credited a' = _ from update_total b.credited a a' _]
    change _ - b.debited a' = _
    split <;> omega

lemma Sound.lapse (h : b.Sound) {l : Lot} {k : ℤ} (hl : l ∈ b.lots) (hk : 0 < k)
    (hle : k ≤ b.remaining l) : (b.lapse l k).Sound := by
  have hd : b.Parts (b.owner l) (fun m => if m = l then k else 0) := by
    refine ⟨fun m => by split <;> omega, fun m hm => ?_⟩
    obtain rfl : m = l := by by_contra hne; simp [hne] at hm
    exact ⟨hl, rfl⟩
  have hup : ∀ m, (b.lapse l k).lapsed m = b.lapsed m + if m = l then k else 0 := by
    intro m
    simp only [LotBook.lapse, Function.update_apply]
    split
    · subst m; rfl
    · omega
  have hrem : ∀ m, (b.lapse l k).remaining m = b.remaining m + -1 * if m = l then k else 0 := by
    intro m
    rw [remaining, hup]
    simp only [remaining, LotBook.lapse]
    omega
  refine ⟨fun m hm => ?_, h.restored_le, fun m hm => ?_, fun a' => ?_⟩
  · have := h.nonneg m hm
    rw [hrem]
    split
    · subst m; omega
    · omega
  · have := h.lapsed_nonneg m hm
    rw [hup]
    split <;> omega
  · have hb := h.balance a'
    rw [holdings_parts (c := b.lapse l k) hd rfl rfl hrem a',
      Finset.sum_ite_eq' b.lots l, if_pos hl,
      show (b.lapse l k).debited a' = _ from update_total b.debited (b.owner l) a' k]
    change b.credited a' - _ = _
    split <;> omega

/-- **Each step keeps the laws of the book.** -/
theorem Sound.step (h : b.Sound) (hs : b.Step c) : c.Sound := by
  cases hs with
  | grant hl hk hfresh => exact h.grant hl hk hfresh
  | draw hd hle => exact h.draw hd hle
  | restore hd hle => exact h.restore hd hle
  | lapse hl hk hle => exact h.lapse hl hk hle

/-- **Each run keeps the laws of the book.** -/
theorem Sound.run (h : b.Sound) (hs : Relation.ReflTransGen Step b c) : c.Sound := by
  induction hs with
  | refl => exact h
  | tail _ hs ih => exact ih.step hs

end LotBook

end ShopcityLoyalty
