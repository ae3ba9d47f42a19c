import Mathlib.Data.List.DropRight
import ShopcityLoyalty.Schema

/-!
Texts as the services cut them: what trimming leaves, and the parts of a split text.
-/

namespace ShopcityLoyalty

lemma trim_of_forall {text : String} (h : ∀ c ∈ text.toList, ¬ isWhiteSpace c) :
    trim text = text := by
  have hdrop : ∀ l : List Char, (∀ c ∈ l, ¬ isWhiteSpace c) → l.dropWhile isWhiteSpace = l := by
    intro l hl
    cases l with
    | nil => rfl
    | cons c r => rw [List.dropWhile_cons_of_neg (hl c List.mem_cons_self)]
  have hback : ∀ c ∈ text.toList.reverse, ¬ isWhiteSpace c :=
    fun c hc => h c (List.mem_reverse.1 hc)
  rw [trim, hdrop _ h, hdrop _ hback, List.reverse_reverse, String.ofList_toList]

lemma trim_trim (text : String) : trim (trim text) = trim text := by
  set l := text.toList.dropWhile isWhiteSpace with hl
  set m := (l.reverse.dropWhile isWhiteSpace).reverse with hm
  have htrim : trim text = String.ofList m := rfl
  have hhead : m.dropWhile isWhiteSpace = m := by
    cases hcase : m with
    | nil => rfl
    | cons c r =>
        have hpre : m <+: l := by
          rw [hm, ← List.reverse_suffix, List.reverse_reverse]
          exact List.dropWhile_suffix _
        obtain ⟨rest, hrest⟩ := hpre
        have hfirst : l.head? = some c := by
          rw [← hrest, hcase]
          rfl
        have hno := List.head?_dropWhile_not isWhiteSpace text.toList
        rw [← hl, hfirst] at hno
        rw [List.dropWhile_cons_of_neg]
        simpa using hno
  have hlast : m.reverse.dropWhile isWhiteSpace = m.reverse := by
    rw [hm, List.reverse_reverse, List.dropWhile_idempotent]
  rw [htrim, trim, String.toList_ofList, hhead, hlast, List.reverse_reverse]

lemma not_mem_of_mem_splitOn {separator : Char} {text part : List Char}
    (h : part ∈ text.splitOn separator) : separator ∉ part := by
  induction text generalizing part with
  | nil =>
    rw [List.splitOn_nil, List.mem_singleton] at h
    simp [h]
  | cons c text ih =>
    rw [List.splitOn_cons_eq_if_modifyHead] at h
    by_cases hc : c = separator
    · rw [if_pos (by simpa using hc)] at h
      rcases List.mem_cons.1 h with rfl | h
      · simp
      · exact ih h
    · rw [if_neg (by simpa using hc)] at h
      cases hsplit : text.splitOn separator with
      | nil => simp [hsplit] at h
      | cons first rest =>
        rw [hsplit, List.modifyHead_cons] at h
        rcases List.mem_cons.1 h with rfl | h
        · have hfirst : separator ∉ first := ih (by simp [hsplit])
          simpa using ⟨Ne.symm hc, hfirst⟩
        · exact ih (by simp [hsplit, h])

end ShopcityLoyalty
