import Mathlib.Data.List.Sort
import Mathlib.Tactic

/-!
Listings in pages: rows in descending order of a key, read one page at a time, each page
starting where the cursor of the page before it says.
-/

namespace ShopcityLoyalty

namespace Paging

section listing

variable {α κ : Type} [LinearOrder κ] {key : α → κ} {rows : List α} {p q : α → Bool} {a : α}

/-- The rows in descending order. -/
def descending (key : α → κ) (rows : List α) : List α := rows.mergeSort fun a b => key b ≤ key a

lemma descending_perm (key : α → κ) (rows : List α) : (descending key rows).Perm rows :=
  List.mergeSort_perm ..

/-- Rows with distinct keys are listed strictly downwards. -/
lemma descending_strict (hn : (rows.map key).Nodup) :
    (descending key rows).Pairwise fun a b => key b < key a := by
  have hle : (descending key rows).Pairwise fun a b => key b ≤ key a := by
    have hsorted : (descending key rows).Pairwise fun a b => decide (key b ≤ key a) = true := by
      apply List.pairwise_mergeSort
      · intro a b c
        simp only [decide_eq_true_eq]
        exact fun h h' => h'.trans h
      · intro a b
        simp only [Bool.or_eq_true, decide_eq_true_eq]
        exact le_total _ _
    exact hsorted.imp fun hab => of_decide_eq_true hab
  have hne : (descending key rows).Pairwise fun a b => key a ≠ key b := by
    have hnodup := ((descending_perm key rows).map key).nodup_iff.2 hn
    exact List.pairwise_map.1 hnodup
  exact hle.imp₂ (fun _ _ h h' => lt_of_le_of_ne h h'.symm) hne

lemma eq_of_strict {l m : List α} (hl : l.Pairwise fun a b => key b < key a)
    (hm : m.Pairwise fun a b => key b < key a) (h : l.Perm m) : l = m :=
  h.eq_of_pairwise (fun _ _ _ _ hab hba => absurd hba hab.not_gt) hl hm

/-- **Listing a part of the rows** is taking that part of the listing. -/
theorem descending_filter (hn : (rows.map key).Nodup) (p : α → Bool) :
    descending key (rows.filter p) = (descending key rows).filter p := by
  have hsub : ((rows.filter p).map key).Nodup := hn.sublist (List.filter_sublist.map _)
  refine eq_of_strict (descending_strict hsub) ((descending_strict hn).filter p) ?_
  exact (descending_perm key _).trans ((descending_perm key rows).symm.filter p)

lemma filter_lt {l pre post : List α} (hl : l.Pairwise fun a b => key b < key a)
    (h : l = pre ++ a :: post) : l.filter (fun b => key b < key a) = post := by
  subst h
  obtain ⟨-, htail, hcross⟩ := List.pairwise_append.1 hl
  obtain ⟨hbelow, -⟩ := List.pairwise_cons.1 htail
  have hpre : pre.filter (fun b => key b < key a) = [] := by
    rw [List.filter_eq_nil_iff]
    intro b hb
    have hab := hcross b hb a List.mem_cons_self
    simpa using hab.le
  have hpost : post.filter (fun b => key b < key a) = post :=
    List.filter_eq_self.2 fun b hb => by simpa using hbelow b hb
  rw [List.filter_append, hpre, List.filter_cons, if_neg (by simp), hpost, List.nil_append]

lemma filter_le {l pre post : List α} (hl : l.Pairwise fun a b => key b < key a)
    (h : l = pre ++ a :: post) : l.filter (fun b => key b ≤ key a) = a :: post := by
  subst h
  obtain ⟨-, htail, hcross⟩ := List.pairwise_append.1 hl
  obtain ⟨hbelow, -⟩ := List.pairwise_cons.1 htail
  have hpre : pre.filter (fun b => key b ≤ key a) = [] := by
    rw [List.filter_eq_nil_iff]
    intro b hb
    have hab := hcross b hb a List.mem_cons_self
    simpa using hab
  have hpost : post.filter (fun b => key b ≤ key a) = post :=
    List.filter_eq_self.2 fun b hb => by simpa using (hbelow b hb).le
  rw [List.filter_append, hpre, List.filter_cons, if_pos (by simp), hpost, List.nil_append]

end listing

/-! ### Pages -/

/-- A page, with the cursor of the next one. -/
structure Page (α γ : Type) where
  items : List α
  nextCursor : Option γ
  hasMore : Bool

variable {α γ ε : Type} {cursorOf : α → γ} {limit : Nat} {l post : List α} {c : Option γ}

/-- The page of rows of which one more than the limit was read. -/
def pageOf (cursorOf : α → γ) (limit : Nat) (rows : List α) : Page α γ :=
  let items := rows.take limit
  let hasMore := decide (limit < rows.length)
  { items, hasMore, nextCursor := if hasMore then items.getLast?.map cursorOf else none }

lemma pageOf_take (rows : List α) :
    pageOf cursorOf limit (rows.take (limit + 1)) = pageOf cursorOf limit rows := by
  have htake : (rows.take (limit + 1)).take limit = rows.take limit := by
    rw [List.take_take, min_eq_left (Nat.le_succ limit)]
  have hmore : limit < (rows.take (limit + 1)).length ↔ limit < rows.length := by
    rw [List.length_take]
    omega
  simp only [pageOf, htake, hmore]

/-- All the items from a page on, following the cursors for at most so many pages. -/
def follow (fetch : Option γ → Except ε (Page α γ)) : Nat → Option γ → Option (List α)
  | 0, _ => none
  | n + 1, c =>
      match fetch c with
      | .error _ => none
      | .ok page =>
          match page.nextCursor with
          | none => some page.items
          | some d => (follow fetch n (some d)).map (page.items ++ ·)

variable {fetch : Option γ → Except ε (Page α γ)}

lemma follow_last (hc : fetch c = .ok (pageOf cursorOf limit post)) (hend : post.length ≤ limit)
    (n : Nat) : follow fetch (n + 1) c = some post := by
  have hmore : ¬ limit < post.length := not_lt.2 hend
  simp [follow, hc, pageOf, hmore, List.take_of_length_le hend]

lemma exists_last (hlimit : 0 < limit) (hmore : limit < post.length) :
    ∃ pre x, post.take limit = pre ++ [x] ∧ post = pre ++ x :: post.drop limit := by
  have hne : post.take limit ≠ [] := by
    rw [← List.length_pos_iff, List.length_take]
    omega
  obtain ⟨pre, x, hx⟩ := List.eq_nil_or_concat' (post.take limit) |>.resolve_left hne
  refine ⟨pre, x, hx, ?_⟩
  calc post = post.take limit ++ post.drop limit := (List.take_append_drop ..).symm
    _ = pre ++ x :: post.drop limit := by rw [hx]; simp

lemma follow_more {pre : List α} {x : α} (hc : fetch c = .ok (pageOf cursorOf limit post))
    (hmore : limit < post.length) (hlast : post.take limit = pre ++ [x]) (n : Nat) :
    follow fetch (n + 1) c =
      (follow fetch n (some (cursorOf x))).map (post.take limit ++ ·) := by
  have hlastx : (post.take limit).getLast? = some x := by rw [hlast]; simp
  have hnext : (pageOf cursorOf limit post).nextCursor = some (cursorOf x) := by
    simp [pageOf, hmore, hlastx]
  simp only [follow, hc, hnext]
  rfl

/-- The page after a row starts so many rows further than the next. -/
def Skipping (fetch : Option γ → Except ε (Page α γ)) (cursorOf : α → γ) (limit skip : Nat)
    (l : List α) : Prop :=
  fetch none = .ok (pageOf cursorOf limit l) ∧
    ∀ pre x post, l = pre ++ x :: post →
      fetch (some (cursorOf x)) = .ok (pageOf cursorOf limit (post.drop skip))

/-- **Pages without gaps** add up to the list. -/
theorem follow_all (hlimit : 0 < limit) (h : Skipping fetch cursorOf limit 0 l) :
    ∃ n, follow fetch n none = some l := by
  have hrest : ∀ m (done post : List α) c, post.length ≤ m → l = done ++ post →
      fetch c = .ok (pageOf cursorOf limit post) → ∃ n, follow fetch n c = some post := by
    intro m
    induction m with
    | zero =>
        intro done post c hm _ hc
        exact ⟨1, follow_last hc (by omega) 0⟩
    | succ m ih =>
        intro done post c hm hl hc
        by_cases hmore : limit < post.length
        · obtain ⟨pre, x, htake, hpost⟩ := exists_last hlimit hmore
          have hsplit : l = (done ++ pre) ++ x :: post.drop limit := by
            rw [hl, List.append_assoc, ← hpost]
          have hnext := h.2 _ x _ hsplit
          have hlen : (post.drop limit).length ≤ m := by
            rw [List.length_drop]
            omega
          obtain ⟨n, hn⟩ := ih (done ++ pre ++ [x]) _ _ hlen (by rw [hsplit]; simp) hnext
          refine ⟨n + 1, ?_⟩
          rw [follow_more hc hmore htake, hn, Option.map_some, List.take_append_drop]
        · exact ⟨1, follow_last hc (not_lt.1 hmore) 0⟩
  exact hrest l.length [] l none le_rfl rfl h.1

/-- Pages never add up to more rows than there are. -/
lemma follow_length (hlimit : 0 < limit) {skip : Nat} (h : Skipping fetch cursorOf limit skip l)
    (n : Nat) : ∀ (done post : List α) c ys, l = done ++ post →
      fetch c = .ok (pageOf cursorOf limit post) → follow fetch n c = some ys →
      ys.length ≤ post.length := by
  induction n with
  | zero =>
      intro done post c ys _ _ hys
      cases hys
  | succ n ih =>
      intro done post c ys hl hc hys
      by_cases hmore : limit < post.length
      · obtain ⟨pre, x, htake, hpost⟩ := exists_last hlimit hmore
        have hsplit : l = (done ++ pre) ++ x :: post.drop limit := by
          rw [hl, List.append_assoc, ← hpost]
        rw [follow_more hc hmore htake] at hys
        obtain ⟨zs, hzs, rfl⟩ := Option.map_eq_some_iff.1 hys
        have hl' : l = (done ++ pre ++ x :: (post.drop limit).take skip) ++
            (post.drop limit).drop skip := by
          rw [List.append_assoc, List.cons_append, List.take_append_drop, ← hsplit]
        have hlen := ih _ _ _ zs hl' (h.2 _ x _ hsplit) hzs
        simp only [List.length_append, List.length_take, List.length_drop] at hlen ⊢
        omega
      · rw [follow_last hc (not_lt.1 hmore)] at hys
        obtain rfl := Option.some.inj hys
        exact le_rfl

/-- **Pages that skip a row** add up to the list when it fits on the first, and only then. -/
theorem follow_skip_iff (hlimit : 0 < limit) (h : Skipping fetch cursorOf limit 1 l) :
    (∃ n, follow fetch n none = some l) ↔ l.length ≤ limit := by
  constructor
  · rintro ⟨n, hn⟩
    by_contra hmore
    have hmore : limit < l.length := not_le.1 hmore
    obtain ⟨pre, x, htake, hl⟩ := exists_last hlimit hmore
    cases n with
    | zero => cases hn
    | succ n =>
        rw [follow_more h.1 hmore htake] at hn
        obtain ⟨zs, hzs, heq⟩ := Option.map_eq_some_iff.1 hn
        have hl' : l = (pre ++ x :: (l.drop limit).take 1) ++ (l.drop limit).drop 1 := by
          rw [List.append_assoc, List.cons_append, List.take_append_drop, ← hl]
        have hlen := follow_length hlimit h n _ _ _ zs hl' (h.2 _ x _ hl) hzs
        have htotal := congrArg List.length heq
        simp only [List.length_append, List.length_take, List.length_drop] at hlen htotal
        omega
  · intro hfits
    exact ⟨1, follow_last h.1 hfits 0⟩

end Paging

end ShopcityLoyalty
