import Mathlib.Algebra.BigOperators.Group.Finset.Basic
import Mathlib.Algebra.BigOperators.Group.List.Basic
import Mathlib.Algebra.Order.BigOperators.Group.List
import Mathlib.Data.List.GetD
import Mathlib.Tactic

/-!
Tables of rows that are inserted, changed in place and never removed, and sums over the
rows that meet a condition.

The id of a row is its position, so that ids are distinct and never used twice, by
construction.
-/

namespace ShopcityLoyalty

/-- Rows in the order of their insertion. -/
abbrev Table (α : Type) := List α

namespace Table

variable {α β : Type}

/-- The id the next inserted row gets. -/
abbrev nextId (t : Table α) : Nat := t.length

/-- The rows that meet a condition, with their ids, in the order of insertion. -/
def select (t : Table α) (p : α → Bool) : List (Nat × α) :=
  (t.zipIdx.filter fun r => p r.1).map fun r => (r.2, r.1)

/-- The first row that meets a condition, with its id. -/
def find (t : Table α) (p : α → Bool) : Option (Nat × α) := (t.select p).head?

@[simp] lemma mem_select {t : Table α} {p : α → Bool} {i : Nat} {a : α} :
    (i, a) ∈ t.select p ↔ t[i]? = some a ∧ p a := by
  simp only [select, List.mem_map, List.mem_filter, Prod.mk.injEq, Prod.exists]
  constructor
  · rintro ⟨b, j, ⟨hj, hp⟩, rfl, rfl⟩
    exact ⟨List.mem_zipIdx_iff_getElem?.1 hj, hp⟩
  · rintro ⟨h, hp⟩
    exact ⟨a, i, ⟨List.mem_zipIdx_iff_getElem?.2 h, hp⟩, rfl, rfl⟩

lemma nodup_select (t : Table α) (p : α → Bool) : ((t.select p).map Prod.fst).Nodup := by
  have h : (t.zipIdx.map Prod.snd).Nodup := by
    rw [List.zipIdx_map_snd]; exact List.nodup_range'
  have hs : (t.select p).map Prod.fst = (t.zipIdx.filter fun r => p r.1).map Prod.snd := by
    simp [select, Function.comp_def]
  rw [hs]
  exact h.sublist (List.filter_sublist.map _)

lemma find_some {t : Table α} {p : α → Bool} {i : Nat} {a : α} (h : t.find p = some (i, a)) :
    t[i]? = some a ∧ p a :=
  mem_select.1 (List.mem_of_head? h)

lemma find_none {t : Table α} {p : α → Bool} : t.find p = none ↔ ∀ a ∈ t, ¬ p a := by
  rw [find, List.head?_eq_none_iff, List.eq_nil_iff_forall_not_mem]
  constructor
  · intro h a ha hp
    obtain ⟨i, hi⟩ := List.getElem?_of_mem ha
    exact h (i, a) (mem_select.2 ⟨hi, hp⟩)
  · rintro h ⟨i, a⟩ ha
    obtain ⟨hi, hp⟩ := mem_select.1 ha
    exact h a (List.mem_of_getElem? hi) hp

lemma find_cons (a : α) (t : Table α) (p : α → Bool) :
    Table.find (a :: t) p =
      if p a then some (0, a) else (t.find p).map fun r => (r.1 + 1, r.2) := by
  have hrest : (t.zipIdx 1).filter (fun r => p r.1) =
      (t.zipIdx.filter fun r => p r.1).map fun r => (r.1, r.2 + 1) := by
    rw [List.zipIdx_succ, List.filter_map]
    rfl
  unfold Table.find select
  simp only [List.zipIdx_cons, List.filter_cons]
  by_cases hp : p a
  · simp [hp]
  · simp [hp, hrest, List.head?_map, Function.comp_def]

lemma find_insert (t : Table α) (a : α) (p : α → Bool) :
    Table.find (t ++ [a]) p = (t.find p).or (if p a then some (t.length, a) else none) := by
  induction t with
  | nil =>
      rw [List.nil_append, find_cons]
      simp [Table.find, select]
  | cons b t ih =>
      rw [List.cons_append, find_cons, find_cons, ih]
      by_cases hb : p b
      · simp [hb]
      · cases Table.find t p <;> by_cases ha : p a <;> simp [hb, ha]

lemma find_set_self {t : Table α} {p : α → Bool} {i : Nat} {a b : α} (h : t.find p = some (i, a))
    (hb : p b) : Table.find (t.set i b) p = some (i, b) := by
  induction t generalizing i with
  | nil => simp [Table.find, select] at h
  | cons c t ih =>
      rw [find_cons] at h
      by_cases hc : p c
      · simp only [hc, if_true, Option.some.injEq, Prod.mk.injEq] at h
        obtain ⟨rfl, -⟩ := h
        simp [find_cons, hb]
      · simp only [hc, Bool.false_eq_true, if_false, Option.map_eq_some_iff, Prod.mk.injEq] at h
        obtain ⟨⟨j, d⟩, hfind, rfl, rfl⟩ := h
        simp [find_cons, hc, ih hfind]

lemma find_set_of_not {t : Table α} {p : α → Bool} {i : Nat} {a b : α} (h : t[i]? = some a)
    (ha : ¬ p a) (hb : ¬ p b) : Table.find (t.set i b) p = t.find p := by
  induction t generalizing i with
  | nil => simp at h
  | cons c t ih =>
      cases i with
      | zero =>
          obtain rfl : c = a := by simpa using h
          simp [find_cons, ha, hb]
      | succ i => simp [find_cons, ih (i := i) (by simpa using h)]

lemma lt_of_getElem? {t : Table α} {i : Nat} {a : α} (h : t[i]? = some a) : i < t.length :=
  (List.getElem?_eq_some_iff.1 h).1

lemma getElem?_append {t u : Table α} {i : Nat} {a : α} (h : t[i]? = some a) :
    (t ++ u)[i]? = some a := by
  rw [List.getElem?_append_left (lt_of_getElem? h)]; exact h

lemma of_getElem?_append {t u : Table α} {i : Nat} {a : α} (h : (t ++ u)[i]? = some a) :
    t[i]? = some a ∨ (t.length ≤ i ∧ a ∈ u) := by
  rcases lt_or_ge i t.length with hi | hi
  · rw [List.getElem?_append_left hi] at h; exact .inl h
  · rw [List.getElem?_append_right hi] at h; exact .inr ⟨hi, List.mem_of_getElem? h⟩

lemma getElem?_insert_iff {t : Table α} {i : Nat} {a b : α} :
    (t ++ [b])[i]? = some a ↔ t[i]? = some a ∨ (i = t.length ∧ b = a) := by
  rcases lt_trichotomy i t.length with h | h | h
  · rw [List.getElem?_append_left h]; simp [h.ne]
  · subst h; simp
  · have h1 : (t ++ [b])[i]? = none := List.getElem?_eq_none (by simp; omega)
    have h2 : t[i]? = none := List.getElem?_eq_none h.le
    simp [h1, h2, h.ne']

@[simp] lemma getElem?_insert_self (t : Table α) (a : α) : (t ++ [a])[t.length]? = some a :=
  getElem?_insert_iff.2 (.inr ⟨rfl, rfl⟩)

lemma set_insert_self (t : Table α) (a b : α) : (t ++ [a]).set t.length b = t ++ [b] := by
  simp

lemma eq_of_nodup_map {f : α → β} {t : Table α} (hn : (t.map f).Nodup) {i j : Nat} {a b : α}
    (hi : t[i]? = some a) (hj : t[j]? = some b) (h : f a = f b) : i = j := by
  have hi' := lt_of_getElem? hi
  refine (List.getElem?_inj (by simpa using hi') hn).1 ?_
  rw [List.getElem?_map, List.getElem?_map, hi, hj, Option.map_some, Option.map_some, h]

/-- Two rows of a list without repetitions give different results, where they give any. -/
lemma eq_of_nodup_filterMap {f : α → Option β} {t : Table α}
    (hn : (t.filterMap f).Nodup) {i j : Nat} {a b : α} {y : β} (hi : t[i]? = some a)
    (hj : t[j]? = some b) (ha : f a = some y) (hb : f b = some y) : i = j := by
  induction t generalizing i j with
  | nil => cases hi
  | cons x r ih =>
      have hmem : ∀ {n : Nat} {c : α}, r[n]? = some c → f c = some y → y ∈ r.filterMap f := by
        intro n c hc hy
        exact List.mem_filterMap.2 ⟨c, List.mem_of_getElem? hc, hy⟩
      have htail : (r.filterMap f).Nodup := by
        cases hx : f x with
        | none => rwa [List.filterMap_cons_none hx] at hn
        | some z =>
            rw [List.filterMap_cons_some hx] at hn
            exact (List.nodup_cons.1 hn).2
      have hhead : f x = some y → y ∉ r.filterMap f := by
        intro hx
        rw [List.filterMap_cons_some hx] at hn
        exact (List.nodup_cons.1 hn).1
      cases i with
      | zero =>
          obtain rfl : x = a := Option.some.inj hi
          cases j with
          | zero => rfl
          | succ j => exact absurd (hmem hj hb) (hhead ha)
      | succ i =>
          cases j with
          | zero =>
              obtain rfl : x = b := Option.some.inj hj
              exact absurd (hmem hi ha) (hhead hb)
          | succ j => exact congrArg Nat.succ (ih htail hi hj)

/-- A column keeps its rows apart when the rows inserted do, from each other and from the
old ones. -/
lemma nodup_map_append {f : α → β} {t u : Table α} (ht : (t.map f).Nodup) (hu : (u.map f).Nodup)
    (h : ∀ a ∈ t, ∀ b ∈ u, f a ≠ f b) : ((t ++ u).map f).Nodup := by
  rw [List.map_append, List.nodup_append]
  refine ⟨ht, hu, fun x hx y hy => ?_⟩
  obtain ⟨a, ha, rfl⟩ := List.mem_map.1 hx
  obtain ⟨b, hb, rfl⟩ := List.mem_map.1 hy
  exact h a ha b hb

lemma getElem?_set_iff {t : Table α} {i j : Nat} {a b : α} :
    (t.set i b)[j]? = some a ↔ (i = j ∧ i < t.length ∧ b = a) ∨ (i ≠ j ∧ t[j]? = some a) := by
  rw [List.getElem?_set]
  by_cases h : i = j
  · subst h; split <;> simp_all
  · simp [h]

/-! ### Rows that stay -/

/-- Every row is still there, changed at most as `R` allows. -/
def Stay (R : α → α → Prop) (t u : Table α) : Prop :=
  ∀ (i : Nat) (a : α), t[i]? = some a → ∃ b, u[i]? = some b ∧ R a b

section stay

variable {R : α → α → Prop} {t u v : Table α}

lemma Stay.same [Std.Refl R] (h : u = t) : Stay R t u := by
  subst h
  exact fun _ a ha => ⟨a, ha, Std.Refl.refl a⟩

lemma Stay.append [Std.Refl R] {rows : Table α} (h : u = t ++ rows) : Stay R t u := by
  subst h
  exact fun _ a ha => ⟨a, getElem?_append ha, Std.Refl.refl a⟩

lemma Stay.set [Std.Refl R] {i : Nat} {a b : α} (hrow : t[i]? = some a) (hab : R a b)
    (h : u = t.set i b) : Stay R t u := by
  subst h
  intro j c hc
  by_cases hij : i = j
  · subst hij
    obtain rfl : a = c := Option.some.inj (hrow.symm.trans hc)
    exact ⟨b, List.getElem?_set_self (lt_of_getElem? hrow), hab⟩
  · exact ⟨c, by rw [List.getElem?_set_ne hij]; exact hc, Std.Refl.refl c⟩

lemma Stay.trans [IsTrans α R] (h : Stay R t u) (h' : Stay R u v) : Stay R t v := by
  intro i a ha
  obtain ⟨b, hb, hab⟩ := h i a ha
  obtain ⟨c, hc, hbc⟩ := h' i b hb
  exact ⟨c, hc, IsTrans.trans a b c hab hbc⟩

end stay

/-! ### Sums over rows -/

/-- The sum of a quantity over the rows that meet a condition. -/
def tally (t : Table α) (p : α → Prop) [DecidablePred p] (f : α → Int) : Int :=
  (t.map fun a => if p a then f a else 0).sum

section tally

variable (p : α → Prop) [DecidablePred p] (f : α → Int)

@[simp] lemma tally_nil : tally ([] : Table α) p f = 0 := rfl

@[simp] lemma tally_cons (a : α) (t : Table α) :
    tally (a :: t) p f = (if p a then f a else 0) + tally t p f := by
  simp [tally]

@[simp] lemma tally_append (t u : Table α) : tally (t ++ u) p f = tally t p f + tally u p f := by
  simp [tally]

variable {p f}

lemma tally_congr {q : α → Prop} [DecidablePred q] {g : α → Int} {t : Table α}
    (h : ∀ a ∈ t, (if p a then f a else 0) = if q a then g a else 0) :
    tally t p f = tally t q g := by
  unfold tally; rw [List.map_congr_left h]

lemma tally_congr_iff {q : α → Prop} [DecidablePred q] {t : Table α} (h : ∀ a ∈ t, p a ↔ q a) :
    tally t p f = tally t q f := by
  refine tally_congr fun a ha => ?_
  simp only [h a ha]

lemma tally_eq_zero {t : Table α} (h : ∀ a ∈ t, ¬ p a) : tally t p f = 0 := by
  induction t with
  | nil => rfl
  | cons a r ih =>
      rw [tally_cons, if_neg (h a List.mem_cons_self), ih fun b hb => h b (.tail _ hb), add_zero]

lemma tally_eq_sum {t : Table α} (h : ∀ a ∈ t, p a) : tally t p f = (t.map f).sum := by
  unfold tally
  rw [List.map_congr_left fun a ha => if_pos (h a ha)]

lemma tally_nonneg {t : Table α} (h : ∀ a ∈ t, p a → 0 ≤ f a) : 0 ≤ tally t p f := by
  refine List.sum_nonneg fun x hx => ?_
  obtain ⟨a, ha, rfl⟩ := List.mem_map.1 hx
  split
  · exact h a ha ‹_›
  · exact le_rfl

lemma le_tally {t : Table α} (h : ∀ a ∈ t, p a → 0 ≤ f a) {a : α} (ha : a ∈ t) (hp : p a) :
    f a ≤ tally t p f := by
  induction t with
  | nil => simp at ha
  | cons b r ih =>
      have hr := tally_nonneg (p := p) (f := f) fun c hc => h c (.tail b hc)
      rcases List.mem_cons.1 ha with rfl | ha
      · simp only [tally_cons, if_pos hp]; omega
      · have := ih (fun c hc => h c (.tail b hc)) ha
        have hb := h b List.mem_cons_self
        simp only [tally_cons]
        split
        · have := hb ‹_›; omega
        · omega

lemma sum_tally_key {t : Table α} {key : α → Nat} {n : Nat} (h : ∀ a ∈ t, key a < n) :
    ∑ k ∈ Finset.range n, tally t (fun a => key a = k ∧ p a) f = tally t p f := by
  induction t with
  | nil => simp
  | cons a r ih =>
      have ha := h a List.mem_cons_self
      have hone : ∑ k ∈ Finset.range n, (if key a = k ∧ p a then f a else 0) =
          if p a then f a else 0 := by
        by_cases hp : p a
        · simp [hp, ha]
        · simp [hp]
      simp only [tally_cons, Finset.sum_add_distrib]
      rw [hone, ih fun b hb => h b (.tail _ hb)]

/-- A sum over the one row of a key. -/
lemma tally_of_nodup_map {key : α → β} [DecidableEq β] {t : Table α} (hn : (t.map key).Nodup)
    {i : Nat} {a : α} (hi : t[i]? = some a) : tally t (fun x => key x = key a) f = f a := by
  induction t generalizing i with
  | nil => simp at hi
  | cons b r ih =>
      obtain ⟨hb, hr⟩ := List.nodup_cons.1 hn
      cases i with
      | zero =>
          obtain rfl : b = a := by simpa using hi
          rw [tally_cons, if_pos rfl, tally_eq_zero, add_zero]
          exact fun c hc he => hb (List.mem_map.2 ⟨c, hc, he⟩)
      | succ i =>
          have ha : r[i]? = some a := by simpa using hi
          have hne : key b ≠ key a := by
            intro he
            exact hb (List.mem_map.2 ⟨a, List.mem_of_getElem? ha, he.symm⟩)
          rw [tally_cons, if_neg hne, zero_add, ih hr ha]

lemma sum_filter (t : Table α) (q : α → Bool) (f : α → Int) :
    ((t.filter q).map f).sum = tally t (fun a => q a) f := by
  induction t with
  | nil => rfl
  | cons a t ih => by_cases ha : q a <;> simp [ha, ih]

lemma map_snd_select (t : Table α) (q : α → Bool) : (t.select q).map Prod.snd = t.filter q := by
  have hall : t.zipIdx.map Prod.fst = t := List.zipIdx_map_fst ..
  conv_rhs => rw [← hall, List.filter_map]
  simp [select, Function.comp_def]

lemma sum_select (t : Table α) (q : α → Bool) (f : α → Int) :
    ((t.select q).map fun r => f r.2).sum = tally t (fun a => q a) f := by
  rw [← sum_filter, ← map_snd_select, List.map_map]
  rfl

/-- The rows of a selection besides those held by their ids. -/
lemma select_perm_held {t : Table α} {q : α → Bool} {held : List (Nat × α)}
    (hn : (held.map Prod.fst).Nodup) (hheld : ∀ r ∈ held, t[r.1]? = some r.2 ∧ q r.2) :
    ∃ rest, (t.select q).Perm (held ++ rest) ∧
      ∀ i a, (i, a) ∈ rest ↔ t[i]? = some a ∧ q a ∧ i ∉ held.map Prod.fst := by
  have hsub : held.Subperm (t.select q) :=
    (List.Nodup.of_map _ hn).subperm fun r hr => mem_select.2 (hheld r hr)
  obtain ⟨l, hl, hsublist⟩ := hsub
  obtain ⟨rest, hrest⟩ := hsublist.exists_perm_append
  have hperm := hrest.trans (hl.append_right rest)
  have hnodup : ((held ++ rest).map Prod.fst).Nodup :=
    (hperm.map Prod.fst).nodup_iff.1 (nodup_select t q)
  rw [List.map_append] at hnodup
  refine ⟨rest, hperm, fun i a => ?_⟩
  constructor
  · intro hr
    obtain ⟨hi, hq⟩ := mem_select.1 (hperm.mem_iff.2 (List.mem_append_right held hr))
    refine ⟨hi, hq, fun hmem => ?_⟩
    exact (List.disjoint_of_nodup_append hnodup) hmem (List.mem_map.2 ⟨(i, a), hr, rfl⟩)
  · rintro ⟨hi, hq, hnot⟩
    rcases List.mem_append.1 (hperm.mem_iff.1 (mem_select.2 ⟨hi, hq⟩)) with hr | hr
    · exact absurd (List.mem_map.2 ⟨(i, a), hr, rfl⟩) hnot
    · exact hr

/-- **Rows held by their ids** make up the sum over the rows of a condition, where the others have
no share in it. -/
theorem sum_held_iff {t : Table α} {q : α → Bool} {held : List (Nat × α)} (f : α → Int)
    (hn : (held.map Prod.fst).Nodup) (hheld : ∀ r ∈ held, t[r.1]? = some r.2 ∧ q r.2)
    (hf : ∀ a ∈ t, q a → 0 ≤ f a) :
    (held.map fun r => f r.2).sum = ((t.filter q).map f).sum ↔
      ∀ i a, t[i]? = some a → q a → i ∉ held.map Prod.fst → f a = 0 := by
  obtain ⟨rest, hperm, hrest⟩ := select_perm_held hn hheld
  have hsum : ((t.filter q).map f).sum =
      (held.map fun r => f r.2).sum + (rest.map fun r => f r.2).sum := by
    have hmap := (hperm.map fun r => f r.2).sum_eq
    rw [List.map_append, List.sum_append, sum_select, ← sum_filter] at hmap
    exact hmap
  have hnonneg : ∀ x ∈ rest.map fun r => f r.2, 0 ≤ x := by
    intro x hx
    obtain ⟨⟨i, a⟩, hr, rfl⟩ := List.mem_map.1 hx
    obtain ⟨hi, hq, -⟩ := (hrest i a).1 hr
    exact hf a (List.mem_of_getElem? hi) hq
  rw [hsum]
  constructor
  · intro heq i a hi hq hnot
    have hzero : (rest.map fun r => f r.2).sum = 0 := by omega
    exact List.all_zero_of_le_zero_le_of_sum_eq_zero hnonneg hzero
      (List.mem_map.2 ⟨(i, a), (hrest i a).2 ⟨hi, hq, hnot⟩, rfl⟩)
  · intro hall
    have hzero : ∀ x ∈ rest.map fun r => f r.2, x = 0 := by
      intro x hx
      obtain ⟨⟨i, a⟩, hr, rfl⟩ := List.mem_map.1 hx
      obtain ⟨hi, hq, hnot⟩ := (hrest i a).1 hr
      exact hall i a hi hq hnot
    rw [List.sum_eq_zero hzero, add_zero]

lemma tally_split {q : α → Prop} [DecidablePred q] {t : Table α} (hpq : ∀ a ∈ t, p a → q a) :
    tally t q f = tally t p f + tally t (fun a => q a ∧ ¬ p a) f := by
  induction t with
  | nil => simp
  | cons a t ih =>
      have hrest := ih fun b hb => hpq b (.tail _ hb)
      have ha := hpq a List.mem_cons_self
      simp only [tally_cons, hrest]
      by_cases hp : p a
      · simp [hp, ha hp, add_assoc]
      · by_cases hq : q a <;> simp [hp, hq, add_left_comm]

/-- **Rows that a sum may leave out**: those without a share. -/
theorem tally_eq_iff {q : α → Prop} [DecidablePred q] {t : Table α}
    (hpq : ∀ a ∈ t, p a → q a) (hf : ∀ a ∈ t, q a → 0 ≤ f a) :
    tally t p f = tally t q f ↔ ∀ a ∈ t, q a → ¬ p a → f a = 0 := by
  rw [tally_split hpq]
  have hnonneg : ∀ a ∈ t, q a ∧ ¬ p a → 0 ≤ f a := fun a ha h => hf a ha h.1
  constructor
  · intro heq a ha hq hp
    have hle := le_tally hnonneg ha ⟨hq, hp⟩
    have h0 := hf a ha hq
    omega
  · intro hzero
    have hrest : tally t (fun a => q a ∧ ¬ p a) f = tally t (fun _ => False) f := by
      refine tally_congr fun a ha => ?_
      by_cases h : q a ∧ ¬ p a
      · simp [h, hzero a ha h.1 h.2]
      · simp [h]
    rw [hrest, tally_eq_zero fun _ _ => id, add_zero]

lemma tally_eq_sum_range (t : Table α) :
    tally t p f = ∑ i ∈ Finset.range t.length,
      (t[i]?.map fun a => if p a then f a else 0).getD 0 := by
  induction t with
  | nil => simp
  | cons a r ih =>
      rw [tally_cons, List.length_cons, Finset.sum_range_succ', ih]
      simp [add_comm]

end tally

end Table

end ShopcityLoyalty
