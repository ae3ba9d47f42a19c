import ShopcityLoyalty.Lib.JsNumbers
import ShopcityLoyalty.Lib.Json

/-!
JSON values of any depth over any type of numbers, their texts, and the stable text whose
object fields are sorted by an order of the keys.

The stable text is the plain text of the value with its fields sorted. A plain text is read
back from the left, whatever stands after it, so that two values have one stable text exactly
when they are equal up to the order of their fields.
-/

namespace ShopcityLoyalty

/-- How the numbers of a type are printed. -/
class NumberText (ν : Type) where
  text : ν → String

/-- Texts of numbers that stand for one number each and that can be told from what follows. -/
class LawfulNumberText (ν : Type) [NumberText ν] : Prop where
  injective : ∀ {m n : ν}, NumberText.text m = NumberText.text n → m = n
  numeric : ∀ n : ν, ∀ c ∈ (NumberText.text n).toList, Decimal.Numeric c
  head : ∀ n : ν, ∃ c rest, (NumberText.text n).toList = c :: rest ∧ (c.isDigit ∨ c = '-')

instance : NumberText Decimal := ⟨Decimal.text⟩

instance : LawfulNumberText Decimal where
  injective h := Decimal.chars_injective (String.ofList_inj.1 h)
  numeric d := by
    change ∀ c ∈ (String.ofList d.chars).toList, _
    rw [String.toList_ofList]
    exact d.numeric_chars
  head d := by
    change ∃ c rest, (String.ofList d.chars).toList = _ ∧ _
    rw [String.toList_ofList]
    exact d.chars_head

instance : NumberText Int := ⟨toString⟩

lemma toList_toString_negSucc (n : Nat) :
    (toString (Int.negSucc n)).toList = '-' :: (toString (n + 1)).toList := by
  simp [Int.repr]

lemma toString_nat_head (n : Nat) :
    ∃ c rest, (toString n).toList = c :: rest ∧ (c.isDigit ∨ c = '-') := by
  obtain ⟨c, rest, htext⟩ := List.exists_cons_of_ne_nil (toString_nat_ne_empty n)
  exact ⟨c, rest, htext, .inl (isDigit_of_mem_toString (htext ▸ List.mem_cons_self))⟩

lemma toString_nat_ne_minus (n : Nat) (rest : List Char) : (toString n).toList ≠ '-' :: rest := by
  intro htext
  have hdigit : ('-' : Char).isDigit := isDigit_of_mem_toString (htext ▸ List.mem_cons_self)
  simp [Char.isDigit] at hdigit

instance : LawfulNumberText Int where
  injective := by
    intro m n h
    have htext : (toString m).toList = (toString n).toList := congrArg String.toList h
    cases m with
    | ofNat m =>
      cases n with
      | ofNat n => exact congrArg Int.ofNat (toString_nat_inj.1 h)
      | negSucc n =>
          exact absurd (htext.trans (toList_toString_negSucc n)) (toString_nat_ne_minus m _)
    | negSucc m =>
      cases n with
      | ofNat n =>
          exact absurd (htext.symm.trans (toList_toString_negSucc m)) (toString_nat_ne_minus n _)
      | negSucc n =>
        rw [toList_toString_negSucc, toList_toString_negSucc] at htext
        have hsucc := toString_nat_inj.1 (String.toList_inj.1 (List.cons.inj htext).2)
        exact congrArg Int.negSucc (by omega)
  numeric n c hc := by
    rcases mem_toString_int hc with h | h
    · exact .inl h
    · exact .inr (.inl h)
  head n := by
    cases n with
    | ofNat n => exact toString_nat_head n
    | negSucc n => exact ⟨'-', _, toList_toString_negSucc n, .inr rfl⟩

/-- A value with numbers of a type; `undefined` is what an absent optional property holds. -/
inductive JsonValue (ν : Type)
  | undefined
  | null
  | bool (b : Bool)
  | number (n : ν)
  | string (s : String)
  | array (elements : List (JsonValue ν))
  | object (fields : List (String × JsonValue ν))

namespace JsonValue

variable {ν : Type}

/-- Induction on a value: what holds of the parts of arrays and objects holds of these. -/
theorem induction_on_parts {P : JsonValue ν → Prop} (undefined : P undefined) (null : P null)
    (bool : ∀ b, P (bool b)) (number : ∀ n, P (number n)) (string : ∀ s, P (string s))
    (array : ∀ es, (∀ e ∈ es, P e) → P (array es))
    (object : ∀ fs, (∀ f ∈ fs, P f.2) → P (object fs)) (v : JsonValue ν) : P v := by
  refine @JsonValue.rec ν P (fun es => ∀ e ∈ es, P e) (fun fs => ∀ f ∈ fs, P f.2) (fun f => P f.2)
    undefined null bool number string array object ?_ ?_ ?_ ?_ ?_ v
  · simp
  · intro e es he hes
    simpa using ⟨he, hes⟩
  · simp
  · intro f fs hf hfs
    simpa using ⟨hf, fun a b hab => hfs (a, b) hab⟩
  · intro k v hv
    exact hv

/-! ### Values up to the order of their fields -/

mutual

/-- Equal up to the order of the fields of objects, at any depth. -/
def Same : JsonValue ν → JsonValue ν → Prop
  | array es, array es' => SameElements es es'
  | object fs, object gs => fs.length = gs.length ∧ SameFields fs gs
  | v, w => v = w

def SameElements : List (JsonValue ν) → List (JsonValue ν) → Prop
  | [], [] => True
  | e :: es, e' :: es' => Same e e' ∧ SameElements es es'
  | _, _ => False

def SameFields : List (String × JsonValue ν) → List (String × JsonValue ν) → Prop
  | [], _ => True
  | f :: fs, gs => SameField f gs ∧ SameFields fs gs

def SameField : String × JsonValue ν → List (String × JsonValue ν) → Prop
  | (k, v), gs => ∃ w, (k, w) ∈ gs ∧ Same v w

end

mutual

/-- The keys of every object in a value meet a condition. -/
def EachObject (p : List String → Prop) : JsonValue ν → Prop
  | array es => EachElement p es
  | object fs => p (fs.map Prod.fst) ∧ EachField p fs
  | _ => True

def EachElement (p : List String → Prop) : List (JsonValue ν) → Prop
  | [] => True
  | e :: es => EachObject p e ∧ EachElement p es

def EachField (p : List String → Prop) : List (String × JsonValue ν) → Prop
  | [] => True
  | f :: fs => EachValue p f ∧ EachField p fs

def EachValue (p : List String → Prop) : String × JsonValue ν → Prop
  | (_, v) => EachObject p v

end

mutual

/-- No array holds `undefined`, at any depth. -/
def Dense : JsonValue ν → Prop
  | array es => DenseElements es
  | object fs => DenseFields fs
  | _ => True

def DenseElements : List (JsonValue ν) → Prop
  | [] => True
  | e :: es => (e ≠ undefined ∧ Dense e) ∧ DenseElements es

def DenseFields : List (String × JsonValue ν) → Prop
  | [] => True
  | f :: fs => DenseField f ∧ DenseFields fs

def DenseField : String × JsonValue ν → Prop
  | (_, v) => Dense v

end

/-- Objects with distinct keys, at any depth. -/
def DistinctKeys (v : JsonValue ν) : Prop := EachObject List.Nodup v

/-- The keys of an object differ, and the order tells them apart. -/
def KeysApart (le : String → String → Prop) (keys : List String) : Prop :=
  keys.Nodup ∧ ∀ a ∈ keys, ∀ b ∈ keys, le a b → le b a → a = b

/-- The keys of every object in a value are apart. -/
def Keyed (le : String → String → Prop) (v : JsonValue ν) : Prop := EachObject (KeysApart le) v

section Sorted

variable (le : String → String → Prop) [DecidableRel le]

/-- The entries in the order of their keys, which is `left.localeCompare(right)`. -/
def sortByKey {α : Type} (entries : List (String × α)) : List (String × α) :=
  entries.insertionSort fun left right => le left.1 right.1

lemma sortByKey_map {α β : Type} (f : α → β) (entries : List (String × α)) :
    sortByKey le (entries.map fun e => (e.1, f e.2)) =
      (sortByKey le entries).map fun e => (e.1, f e.2) :=
  (List.map_insertionSort (fun left right : String × α => le left.1 right.1)
    (fun left right : String × β => le left.1 right.1) (fun e : String × α => (e.1, f e.2)) entries
    (fun _ _ _ _ => Iff.rfl)).symm

lemma sortByKey_perm {α : Type} (entries : List (String × α)) :
    (sortByKey le entries).Perm entries :=
  List.perm_insertionSort _ entries

lemma mem_sortByKey {α : Type} {entries : List (String × α)} {e : String × α} :
    e ∈ sortByKey le entries ↔ e ∈ entries :=
  List.mem_insertionSort _

mutual

/-- The value with the fields of every object in the order of their keys. -/
def sorted : JsonValue ν → JsonValue ν
  | array es => array (sortedElements es)
  | object fs => object (sortByKey le (sortedFields fs))
  | v => v

def sortedElements : List (JsonValue ν) → List (JsonValue ν)
  | [] => []
  | e :: es => sorted e :: sortedElements es

def sortedFields : List (String × JsonValue ν) → List (String × JsonValue ν)
  | [] => []
  | f :: fs => sortedField f :: sortedFields fs

def sortedField : String × JsonValue ν → String × JsonValue ν
  | (k, v) => (k, sorted v)

end

lemma sortedElements_eq (es : List (JsonValue ν)) : sortedElements le es = es.map (sorted le) := by
  induction es with
  | nil => simp [sortedElements]
  | cons e es ih => simp [sortedElements, ih]

lemma sortedFields_eq (fs : List (String × JsonValue ν)) :
    sortedFields le fs = fs.map fun f => (f.1, sorted le f.2) := by
  induction fs with
  | nil => simp [sortedFields]
  | cons f fs ih =>
    obtain ⟨k, v⟩ := f
    simp [sortedFields, sortedField, ih]

end Sorted

/-! ### Values that are the same -/

lemma sameElements_iff (es es' : List (JsonValue ν)) :
    SameElements es es' ↔ List.Forall₂ Same es es' := by
  induction es generalizing es' with
  | nil => cases es' <;> simp [SameElements]
  | cons e es ih => cases es' <;> simp [SameElements, ih]

lemma sameFields_iff (fs gs : List (String × JsonValue ν)) :
    SameFields fs gs ↔ ∀ f ∈ fs, ∃ w, (f.1, w) ∈ gs ∧ Same f.2 w := by
  induction fs with
  | nil => simp [SameFields]
  | cons f fs ih =>
    obtain ⟨k, v⟩ := f
    simp [SameFields, SameField, ih]

lemma eachElement_iff (p : List String → Prop) (es : List (JsonValue ν)) :
    EachElement p es ↔ ∀ e ∈ es, EachObject p e := by
  induction es with
  | nil => simp [EachElement]
  | cons e es ih => simp [EachElement, ih]

lemma eachField_iff (p : List String → Prop) (fs : List (String × JsonValue ν)) :
    EachField p fs ↔ ∀ f ∈ fs, EachObject p f.2 := by
  induction fs with
  | nil => simp [EachField]
  | cons f fs ih =>
    obtain ⟨k, v⟩ := f
    simp [EachField, EachValue, ih]

lemma denseElements_iff (es : List (JsonValue ν)) :
    DenseElements es ↔ ∀ e ∈ es, e ≠ undefined ∧ Dense e := by
  induction es with
  | nil => simp [DenseElements]
  | cons e es ih => simp [DenseElements, ih]

lemma denseFields_iff (fs : List (String × JsonValue ν)) :
    DenseFields fs ↔ ∀ f ∈ fs, Dense f.2 := by
  induction fs with
  | nil => simp [DenseFields]
  | cons f fs ih =>
    obtain ⟨k, v⟩ := f
    simp [DenseFields, DenseField, ih]

/-- A total order tells all keys apart. -/
lemma DistinctKeys.keyed {le : String → String → Prop}
    (hantisymm : ∀ a b, le a b → le b a → a = b) {v : JsonValue ν} (h : DistinctKeys v) :
    Keyed le v := by
  unfold DistinctKeys at h
  unfold Keyed
  induction v using induction_on_parts with
  | array es ih =>
    rw [EachObject, eachElement_iff] at h ⊢
    exact fun e he => ih e he (h e he)
  | object fs ih =>
    rw [EachObject, eachField_iff] at h ⊢
    exact ⟨⟨h.1, fun a _ b _ hab hba => hantisymm a b hab hba⟩, fun f hf => ih f hf (h.2 f hf)⟩
  | undefined => trivial
  | null => trivial
  | bool b => trivial
  | number n => trivial
  | string s => trivial

section Order

variable {le : String → String → Prop} [DecidableRel le]
  (htotal : ∀ a b, le a b ∨ le b a) (htrans : ∀ a b c, le a b → le b c → le a c)

include htotal htrans

/-- The same entries in any order are sorted into one list. -/
lemma sortByKey_eq_of_perm {α : Type} {fs gs : List (String × α)}
    (hkeys : KeysApart le (fs.map Prod.fst)) (hperm : fs.Perm gs) :
    sortByKey le fs = sortByKey le gs := by
  have : Std.Total fun left right : String × α => le left.1 right.1 := ⟨fun a b => htotal a.1 b.1⟩
  have : IsTrans (String × α) fun left right => le left.1 right.1 :=
    ⟨fun a b c => htrans a.1 b.1 c.1⟩
  have hsorted : ∀ entries : List (String × α),
      (sortByKey le entries).Pairwise fun left right => le left.1 right.1 :=
    fun entries => List.pairwise_insertionSort _ entries
  refine List.Perm.eq_of_pairwise ?_ (hsorted fs) (hsorted gs)
    ((sortByKey_perm le fs).trans (hperm.trans (sortByKey_perm le gs).symm))
  intro a b ha hb hab hba
  have ha' : a ∈ fs := (mem_sortByKey le).1 ha
  have hb' : b ∈ fs := hperm.mem_iff.2 ((mem_sortByKey le).1 hb)
  have hkey : a.1 = b.1 :=
    hkeys.2 a.1 (List.mem_map_of_mem ha') b.1 (List.mem_map_of_mem hb') hab hba
  exact List.inj_on_of_nodup_map hkeys.1 ha' hb' hkey

/-- **Sorting is canonical**: two values are the same exactly when their sorted forms are equal. -/
theorem same_iff_sorted (v w : JsonValue ν) (hv : Keyed le v) (hw : Keyed le w) :
    Same v w ↔ sorted le v = sorted le w := by
  induction v using induction_on_parts generalizing w with
  | array es ih =>
    cases w with
    | array es' =>
      have hes := (eachElement_iff _ es).1 hv
      have hes' := (eachElement_iff _ es').1 hw
      rw [Same, sorted, sorted, array.injEq, sortedElements_eq, sortedElements_eq, sameElements_iff]
      clear hv hw
      induction es generalizing es' with
      | nil => cases es' <;> simp
      | cons e es ihes =>
        cases es' with
        | nil => simp
        | cons e' es' =>
          have hone := ih e (by simp) e' (hes e (by simp)) (hes' e' (by simp))
          have hrest :=
            ihes (fun e he => ih e (by simp [he])) es' (fun e he => hes e (by simp [he]))
            (fun e he => hes' e (by simp [he]))
          simp [hone, hrest]
    | _ => simp [Same, sorted]
  | object fs ih =>
    cases w with
    | object gs =>
      obtain ⟨hfkeys, hf⟩ := hv
      obtain ⟨hgkeys, hg⟩ := hw
      rw [eachField_iff] at hf hg
      rw [Same, sorted, sorted, object.injEq, sortedFields_eq, sortedFields_eq, sameFields_iff]
      have hmem : (∀ f ∈ fs, ∃ w, (f.1, w) ∈ gs ∧ Same f.2 w) ↔
          ∀ f ∈ fs, (f.1, sorted le f.2) ∈ gs.map fun g => (g.1, sorted le g.2) := by
        refine forall₂_congr fun f hfmem => ?_
        constructor
        · rintro ⟨w, hw, hsame⟩
          refine List.mem_map.2 ⟨(f.1, w), hw, ?_⟩
          rw [(ih f hfmem w (hf f hfmem) (hg (f.1, w) hw)).1 hsame]
        · intro hin
          obtain ⟨⟨k, w⟩, hw, heq⟩ := List.mem_map.1 hin
          obtain ⟨rfl, hsorted⟩ := Prod.ext_iff.1 heq
          exact ⟨w, hw, (ih f hfmem w (hf f hfmem) (hg _ hw)).2 hsorted.symm⟩
      have hkeys : ∀ {α : Type} (g : JsonValue ν → α) (fs : List (String × JsonValue ν)),
          (fs.map fun f => (f.1, g f.2)).map Prod.fst = fs.map Prod.fst := by
        intro α g fs
        simp
      rw [hmem]
      constructor
      -- the keys are distinct, so fields of one number that are all found are a permutation
      · rintro ⟨hlength, hsub⟩
        have hnodup : (fs.map fun f => (f.1, sorted le f.2)).Nodup := by
          refine List.Nodup.of_map Prod.fst ?_
          rw [hkeys]
          exact hfkeys.1
        have hsubset : (fs.map fun f => (f.1, sorted le f.2)) ⊆
            gs.map fun g => (g.1, sorted le g.2) := by
          intro e he
          obtain ⟨f, hf, rfl⟩ := List.mem_map.1 he
          exact hsub f hf
        refine sortByKey_eq_of_perm htotal htrans (by rwa [hkeys]) ?_
        exact (List.subperm_of_subset hnodup hsubset).perm_of_length_le (by simp [hlength])
      · intro heq
        have hperm : (fs.map fun f => (f.1, sorted le f.2)).Perm
            (gs.map fun g => (g.1, sorted le g.2)) := by
          have hfs := sortByKey_perm le (fs.map fun f => (f.1, sorted le f.2))
          rw [heq] at hfs
          exact hfs.symm.trans (sortByKey_perm le _)
        refine ⟨by simpa using hperm.length_eq, fun f hf => ?_⟩
        exact hperm.mem_iff.1 (List.mem_map.2 ⟨f, hf, rfl⟩)
    | _ => simp [Same, sorted]
  | undefined => cases w <;> simp [Same, sorted]
  | null => cases w <;> simp [Same, sorted]
  | bool b => cases w <;> simp [Same, sorted]
  | number n => cases w <;> simp [Same, sorted]
  | string s => cases w <;> simp [Same, sorted]

end Order

/-- The kind of a value. -/
def kind : JsonValue ν → Nat
  | undefined => 0
  | null => 1
  | bool true => 2
  | bool false => 3
  | number _ => 4
  | string _ => 5
  | array _ => 6
  | object _ => 7

lemma eq_of_kind {v w : JsonValue ν} (h : kind v = kind w) :
    (∃ es es', v = array es ∧ w = array es') ∨ (∃ fs gs, v = object fs ∧ w = object gs) ∨
      (∃ m n, v = number m ∧ w = number n) ∨ (∃ a b, v = string a ∧ w = string b) ∨ v = w := by
  rcases v with _ | _ | (_ | _) | _ | _ | _ | _ <;>
    rcases w with _ | _ | (_ | _) | _ | _ | _ | _ <;> simp_all [kind]

/-! ### Texts -/

variable [NumberText ν]

/-- `JSON.stringify` of a value that is no object and no array. -/
def scalar : JsonValue ν → String
  | bool true => "true"
  | bool false => "false"
  | number n => NumberText.text n
  | string s => Json.quote s
  | undefined => "undefined"
  | _ => "null"

mutual

/-- `JSON.stringify`: fields in the order they were written, without the undefined ones. -/
def stringify : JsonValue ν → String
  | array es => "[" ++ ",".intercalate (stringifyElements es) ++ "]"
  | object fs => "\x7b" ++ ",".intercalate (stringifyFields fs) ++ "\x7d"
  | v => scalar v

def stringifyElements : List (JsonValue ν) → List String
  | [] => []
  | undefined :: es => "null" :: stringifyElements es
  | e :: es => stringify e :: stringifyElements es

def stringifyFields : List (String × JsonValue ν) → List String
  | [] => []
  | f :: fs => stringifyField f ++ stringifyFields fs

def stringifyField : String × JsonValue ν → List String
  | (_, undefined) => []
  | (k, v) => [Json.quote k ++ ":" ++ stringify v]

end

section Stable

variable (le : String → String → Prop) [DecidableRel le]

def fieldsText (entries : List (String × String)) : String :=
  "\x7b" ++ ",".intercalate ((sortByKey le entries).map fun f => Json.quote f.1 ++ ":" ++ f.2) ++
    "\x7d"

mutual

def stableStringify : JsonValue ν → String
  | array es => "[" ++ ",".intercalate (stableElements es) ++ "]"
  | object fs => fieldsText le (stableEntries fs)
  | v => scalar v

-- `Array.join` writes nothing for an undefined element
def stableElements : List (JsonValue ν) → List String
  | [] => []
  | undefined :: es => "" :: stableElements es
  | e :: es => stableStringify e :: stableElements es

def stableEntries : List (String × JsonValue ν) → List (String × String)
  | [] => []
  | f :: fs => stableEntry f :: stableEntries fs

def stableEntry : String × JsonValue ν → String × String
  | (k, v) => (k, stableStringify v)

end

end Stable

end JsonValue

end ShopcityLoyalty
