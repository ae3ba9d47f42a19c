import Mathlib.Tactic

/-!
Sums over the elements of a list that share a key, as a map from keys to sums accumulates
them, and how the sums of all keys add up.
-/

namespace ShopcityLoyalty

variable {α κ : Type*} [DecidableEq κ]

/-- The elements of a key, in their order. -/
def groupOn (key : α → κ) (l : List α) (k : κ) : List α := l.filter fun a => key a = k

/-- What the elements of a key add up to. -/
def sumOn (key : α → κ) (value : α → Int) (l : List α) (k : κ) : Int :=
  ((groupOn key l k).map value).sum

variable {key : α → κ} {value : α → Int} {l : List α} {k : κ} {ks : List κ}

@[simp] lemma sumOn_nil : sumOn key value [] k = 0 := rfl

lemma groupOn_cons (a : α) :
    groupOn key (a :: l) k = if key a = k then a :: groupOn key l k else groupOn key l k := by
  unfold groupOn
  by_cases h : key a = k <;> simp [h]

lemma sumOn_cons (a : α) :
    sumOn key value (a :: l) k = (if key a = k then value a else 0) + sumOn key value l k := by
  unfold sumOn
  rw [groupOn_cons]
  by_cases h : key a = k <;> simp [h]

@[simp] lemma mem_groupOn {a : α} : a ∈ groupOn key l k ↔ a ∈ l ∧ key a = k := by
  simp [groupOn]

/-- One key of many. -/
lemma sum_indicator (hn : ks.Nodup) (hk : k ∈ ks) (v : Int) :
    (ks.map fun k' => if k = k' then v else 0).sum = v := by
  induction ks with
  | nil => cases hk
  | cons k' ks ih =>
      obtain ⟨hnot, hrest⟩ := List.nodup_cons.1 hn
      rw [List.map_cons, List.sum_cons]
      by_cases heq : k = k'
      · subst heq
        have hzero : (ks.map fun k' => if k = k' then v else 0) = ks.map fun _ => 0 := by
          refine List.map_congr_left fun k' hk' => ?_
          have hne : k ≠ k' := fun h => hnot (h ▸ hk')
          simp [hne]
        simp [hzero]
      · have hmem : k ∈ ks := (List.mem_cons.1 hk).resolve_left heq
        rw [if_neg heq, ih hrest hmem, zero_add]

/-- **All keys together**: the sums of keys that cover a list add up to the sum of the list. -/
theorem sum_sumOn (hn : ks.Nodup) (hcover : ∀ a ∈ l, key a ∈ ks) :
    (ks.map (sumOn key value l)).sum = (l.map value).sum := by
  induction l with
  | nil =>
      have hzero : sumOn key value [] = fun _ => 0 := rfl
      simp [hzero]
  | cons a l ih =>
      have hrest := ih fun b hb => hcover b (.tail _ hb)
      have hfirst := sum_indicator hn (hcover a List.mem_cons_self) (value a)
      have hsplit : ks.map (sumOn key value (a :: l)) =
          ks.map fun k => (if key a = k then value a else 0) + sumOn key value l k :=
        List.map_congr_left fun k _ => sumOn_cons a
      rw [hsplit, List.sum_map_add, hfirst, hrest, List.map_cons, List.sum_cons]

lemma sum_sumOn_sorted {r : κ → κ → Prop} [DecidableRel r] (hcover : ∀ a ∈ l, key a ∈ ks) :
    ((ks.dedup.insertionSort r).map (sumOn key value l)).sum = (l.map value).sum := by
  have hperm := List.perm_insertionSort r ks.dedup
  refine sum_sumOn (hperm.nodup_iff.2 ks.nodup_dedup) fun a ha => ?_
  exact hperm.mem_iff.2 (List.mem_dedup.2 (hcover a ha))

/-- The same for counts. -/
lemma sum_groupOn_sorted {r : κ → κ → Prop} [DecidableRel r] {f : α → Nat}
    (hcover : ∀ a ∈ l, key a ∈ ks) :
    ((ks.dedup.insertionSort r).map fun k => ((groupOn key l k).map f).sum).sum =
      (l.map f).sum := by
  have h : ((ks.dedup.insertionSort r).map (sumOn key (fun a => (f a : Int)) l)).sum =
      (l.map fun a => (f a : Int)).sum := sum_sumOn_sorted hcover
  have hcast : ∀ m : List α, (m.map fun a => (f a : Int)).sum = ((m.map f).sum : Nat) := by
    intro m
    rw [Nat.cast_list_sum, List.map_map]
    rfl
  have hsums : (ks.dedup.insertionSort r).map (sumOn key (fun a => (f a : Int)) l) =
      ((ks.dedup.insertionSort r).map fun k => ((groupOn key l k).map f).sum).map Nat.cast := by
    rw [List.map_map]
    exact List.map_congr_left fun k _ => hcast _
  rw [hsums, ← Nat.cast_list_sum, hcast] at h
  exact_mod_cast h

/-! ### Counting -/

section counting

variable {β : Type*}

lemma sum_ite (p : α → Bool) : (l.map fun a => if p a then 1 else 0).sum = l.countP p := by
  induction l with
  | nil => rfl
  | cons a l ih => rw [List.map_cons, List.sum_cons, ih, List.countP_cons, Nat.add_comm]

lemma sum_map_filter (p : α → Bool) (f : α → Nat) :
    ((l.filter p).map f).sum = (l.map fun a => if p a then f a else 0).sum := by
  induction l with
  | nil => rfl
  | cons a l ih => by_cases hp : p a <;> simp [hp, ih]

lemma sum_add_countP {f : α → Nat} {p q r : α → Bool}
    (h : ∀ a ∈ l, f a + (if p a then 1 else 0) = (if q a then 1 else 0) + if r a then 1 else 0) :
    (l.map f).sum + l.countP p = l.countP q + l.countP r := by
  rw [← sum_ite p, ← sum_ite q, ← sum_ite r, ← List.sum_map_add, ← List.sum_map_add]
  exact congrArg List.sum (List.map_congr_left h)

/-- Of elements that meet a condition only once, the found one decides. -/
lemma countP_once {p q : α → Bool}
    (once : ∀ {i k : Nat} {x y}, l[i]? = some x → l[k]? = some y → p x → p y → i = k) :
    l.countP (fun a => p a && q a) = if (l.find? p).any q then 1 else 0 := by
  induction l with
  | nil => simp
  | cons a l ih =>
      by_cases hp : p a = true
      · have hrest : l.countP (fun a => p a && q a) = 0 := by
          refine List.countP_eq_zero.2 fun b hb hbp => ?_
          obtain ⟨k, hk⟩ := List.getElem?_of_mem hb
          have hb' : p b = true := (Bool.and_eq_true_iff.1 hbp).1
          have h0 : (0 : Nat) = k + 1 := once (x := a) (y := b) rfl hk hp hb'
          omega
        rw [List.countP_cons, hrest]
        simp [hp]
      · have hrec := ih fun {i k x y} hi hk hx hy => by
          have h := once (i := i + 1) (k := k + 1) (x := x) (y := y) hi hk hx hy
          omega
        rw [List.countP_cons, hrec]
        simp [hp]

lemma sum_countP_swap {m : List β} {p : α → Prop} [DecidablePred p] {r : α → β → Bool}
    (once : ∀ a ∈ l, m.countP (r a) = if p a then 1 else 0) :
    (m.map fun b => l.countP fun a => r a b).sum = l.countP p := by
  induction l with
  | nil => simp
  | cons a l ih =>
      have hrest := ih fun b hb => once b (.tail _ hb)
      have hfirst := once a List.mem_cons_self
      have hsplit : (m.map fun b => (a :: l).countP fun a => r a b) =
          m.map fun b => (l.countP fun a => r a b) + if r a b then 1 else 0 :=
        List.map_congr_left fun b _ => List.countP_cons
      rw [hsplit, List.sum_map_add, hrest, sum_ite, hfirst, List.countP_cons]
      simp

end counting

/-! ### Looking up by a key -/

lemma find?_key {a : α} (hn : (l.map key).Nodup) (ha : a ∈ l) :
    l.find? (fun x => key x = key a) = some a := by
  have hsome : (l.find? fun x => key x = key a).isSome :=
    List.find?_isSome.2 ⟨a, ha, decide_eq_true rfl⟩
  obtain ⟨b, hb⟩ := Option.isSome_iff_exists.1 hsome
  have hkey : key b = key a := by
    have hp := List.find?_some hb
    exact of_decide_eq_true hp
  rw [hb, List.inj_on_of_nodup_map hn (List.mem_of_find?_eq_some hb) ha hkey]

lemma find?_perm {m : List α} (hn : (l.map key).Nodup) (h : l.Perm m) (k : κ) :
    m.find? (fun x => key x = k) = l.find? fun x => key x = k := by
  cases hl : l.find? fun x => key x = k with
  | none =>
      rw [List.find?_eq_none] at hl ⊢
      exact fun x hx => hl x (h.mem_iff.2 hx)
  | some a =>
      have hka : key a = k := by
        have hp := List.find?_some hl
        exact of_decide_eq_true hp
      subst hka
      exact find?_key ((h.map key).nodup_iff.1 hn) (h.mem_iff.1 (List.mem_of_find?_eq_some hl))

end ShopcityLoyalty
