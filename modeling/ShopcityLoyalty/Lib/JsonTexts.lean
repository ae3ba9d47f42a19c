import ShopcityLoyalty.Lib.JsonValues

/-!
The texts of JSON values are read back: the plain text from the left, the stable text as the
plain text of the value with its fields sorted.
-/

namespace ShopcityLoyalty

namespace Json

/-! ### Quoted texts -/

def unhex (c : Char) : Nat := if c.isDigit then c.toNat - 48 else c.toNat - 87

/-- The character an escape stands for, and the text after it. -/
def readEscape : List Char → Option (Char × List Char)
  | '\\' :: '"' :: rest => some ('"', rest)
  | '\\' :: '\\' :: rest => some ('\\', rest)
  | '\\' :: 'n' :: rest => some ('\n', rest)
  | '\\' :: 'r' :: rest => some ('\r', rest)
  | '\\' :: 't' :: rest => some ('\t', rest)
  | '\\' :: 'b' :: rest => some (Char.ofNat 8, rest)
  | '\\' :: 'f' :: rest => some (Char.ofNat 12, rest)
  | '\\' :: 'u' :: '0' :: '0' :: high :: low :: rest =>
      some (Char.ofNat (16 * unhex high + unhex low), rest)
  | '"' :: _ => none
  | c :: rest => some (c, rest)
  | [] => none

lemma readEscape_control {n : Nat} (hn : n < 32) (rest : List Char) :
    readEscape ('\\' :: 'u' :: '0' :: '0' :: hexNibble (n / 16) :: hexNibble (n % 16) :: rest) =
      some (Char.ofNat n, rest) := by
  have hall : ∀ n < 32, 16 * unhex (hexNibble (n / 16)) + unhex (hexNibble (n % 16)) = n := by
    decide
  simp [readEscape, hall n hn]

lemma readEscape_plain {c : Char} (hquote : c ≠ '"') (hslash : c ≠ '\\') (rest : List Char) :
    readEscape (c :: rest) = some (c, rest) := by
  unfold readEscape
  split <;> simp_all

/-- An escaped character is read back, whatever follows. -/
lemma readEscape_escape (c : Char) (rest : List Char) :
    readEscape (escape c ++ rest) = some (c, rest) := by
  unfold escape
  by_cases hquote : c = '"'
  · subst hquote; rfl
  by_cases hslash : c = '\\'
  · subst hslash; rfl
  by_cases hline : c = '\n'
  · subst hline; rfl
  by_cases hreturn : c = '\r'
  · subst hreturn; rfl
  by_cases htab : c = '\t'
  · subst htab; rfl
  rw [if_neg hquote, if_neg hslash, if_neg hline, if_neg hreturn, if_neg htab]
  by_cases hback : c.toNat = 8
  · rw [if_pos hback, ← Char.ofNat_toNat c, hback]; rfl
  rw [if_neg hback]
  by_cases hfeed : c.toNat = 12
  · rw [if_pos hfeed, ← Char.ofNat_toNat c, hfeed]; rfl
  rw [if_neg hfeed]
  by_cases hcontrol : c.toNat < 32
  · rw [if_pos hcontrol]
    have hread := readEscape_control hcontrol rest
    rwa [Char.ofNat_toNat] at hread
  · rw [if_neg hcontrol]
    exact readEscape_plain hquote hslash rest

lemma escape_ne_quote (c : Char) (s t : List Char) : escape c ++ s ≠ '"' :: t := by
  intro h
  have hread := readEscape_escape c s
  rw [h] at hread
  simp [readEscape] at hread

/-- Two quoted texts that start alike are one text. -/
lemma escaped_inj {a b s t : List Char}
    (h : a.flatMap escape ++ '"' :: s = b.flatMap escape ++ '"' :: t) : a = b ∧ s = t := by
  induction a generalizing b with
  | nil =>
    cases b with
    | nil => simpa using h
    | cons d b =>
      rw [List.flatMap_nil, List.nil_append, List.flatMap_cons, List.append_assoc] at h
      exact absurd h.symm (escape_ne_quote d _ s)
  | cons c a ih =>
    cases b with
    | nil =>
      rw [List.flatMap_nil, List.nil_append, List.flatMap_cons, List.append_assoc] at h
      exact absurd h (escape_ne_quote c _ t)
    | cons d b =>
      rw [List.flatMap_cons, List.flatMap_cons, List.append_assoc, List.append_assoc] at h
      have hread := readEscape_escape c (a.flatMap escape ++ '"' :: s)
      rw [h, readEscape_escape, Option.some.injEq, Prod.mk.injEq] at hread
      obtain ⟨rfl, hrest⟩ := hread
      obtain ⟨rfl, rfl⟩ := ih hrest.symm
      exact ⟨rfl, rfl⟩

lemma toList_quote (s : String) : (quote s).toList = '"' :: s.toList.flatMap escape ++ ['"'] := by
  simp [quote]

lemma quote_append_inj {a b : String} {s t : List Char}
    (h : (quote a).toList ++ s = (quote b).toList ++ t) : a = b ∧ s = t := by
  rw [toList_quote, toList_quote] at h
  simp only [List.cons_append, List.append_assoc, List.nil_append, List.cons.injEq, true_and] at h
  obtain ⟨hab, hst⟩ := escaped_inj h
  exact ⟨String.toList_inj.1 hab, hst⟩

end Json

namespace JsonValue

variable {ν : Type} [NumberText ν]

/-! ### Plain texts -/

mutual

/-- The text of a value with its fields as they stand. -/
def chars : JsonValue ν → List Char
  | array es => '[' :: elementsChars es
  | object fs => '\x7b' :: fieldsChars fs
  | v => (scalar v).toList

/-- The elements after the opening bracket. -/
def elementsChars : List (JsonValue ν) → List Char
  | [] => [']']
  | e :: es => chars e ++ moreElements es

def moreElements : List (JsonValue ν) → List Char
  | [] => [']']
  | e :: es => ',' :: (chars e ++ moreElements es)

/-- The fields after the opening brace. -/
def fieldsChars : List (String × JsonValue ν) → List Char
  | [] => ['\x7d']
  | f :: fs => fieldChars f ++ moreFields fs

def moreFields : List (String × JsonValue ν) → List Char
  | [] => ['\x7d']
  | f :: fs => ',' :: (fieldChars f ++ moreFields fs)

def fieldChars : String × JsonValue ν → List Char
  | (k, v) => (Json.quote k).toList ++ ':' :: chars v

end

/-- What may stand after a value: nothing, or a comma or a closing bracket. -/
def Ends (rest : List Char) : Prop :=
  rest = [] ∨ ∃ c tail, rest = c :: tail ∧ (c = ',' ∨ c = ']' ∨ c = '\x7d')

lemma ends_moreElements (es : List (JsonValue ν)) (rest : List Char) :
    Ends (moreElements es ++ rest) := by
  cases es with
  | nil => exact .inr ⟨']', rest, rfl, by simp⟩
  | cons e es => exact .inr ⟨',', _, rfl, by simp⟩

lemma ends_moreFields (fs : List (String × JsonValue ν)) (rest : List Char) :
    Ends (moreFields fs ++ rest) := by
  cases fs with
  | nil => exact .inr ⟨'\x7d', rest, rfl, by simp⟩
  | cons f fs => exact .inr ⟨',', _, rfl, by simp⟩

/-- A value that is read back from its text and from what follows. -/
def Readable (v : JsonValue ν) : Prop :=
  ∀ {w : JsonValue ν} {s t : List Char}, Ends s → Ends t → chars v ++ s = chars w ++ t →
    v = w ∧ s = t

lemma moreElements_inj {es : List (JsonValue ν)} (hes : ∀ e ∈ es, Readable e) :
    ∀ {es' : List (JsonValue ν)} {s t : List Char}, Ends s → Ends t →
      moreElements es ++ s = moreElements es' ++ t → es = es' ∧ s = t := by
  induction es with
  | nil =>
    intro es' s t _ _ h
    cases es' with
    | nil => simpa [moreElements] using h
    | cons e' es' => simp [moreElements] at h
  | cons e es ih =>
    intro es' s t hs ht h
    cases es' with
    | nil => simp [moreElements] at h
    | cons e' es' =>
      rw [moreElements, moreElements, List.cons_append, List.cons_append, List.append_assoc,
        List.append_assoc] at h
      obtain ⟨rfl, hrest⟩ := hes e (by simp) (ends_moreElements es s) (ends_moreElements es' t)
        (List.cons.inj h).2
      obtain ⟨rfl, rfl⟩ := ih (fun e he => hes e (by simp [he])) hs ht hrest
      exact ⟨rfl, rfl⟩

lemma fieldChars_inj {f g : String × JsonValue ν} (hf : Readable f.2) {s t : List Char}
    (hs : Ends s) (ht : Ends t) (h : fieldChars f ++ s = fieldChars g ++ t) : f = g ∧ s = t := by
  obtain ⟨k, v⟩ := f
  obtain ⟨k', w⟩ := g
  rw [fieldChars, fieldChars, List.append_assoc, List.append_assoc] at h
  obtain ⟨rfl, hvalue⟩ := Json.quote_append_inj h
  rw [List.cons_append, List.cons_append] at hvalue
  obtain ⟨hvw, rfl⟩ := hf hs ht (List.cons.inj hvalue).2
  exact ⟨Prod.ext rfl hvw, rfl⟩

lemma moreFields_inj {fs : List (String × JsonValue ν)} (hfs : ∀ f ∈ fs, Readable f.2) :
    ∀ {gs : List (String × JsonValue ν)} {s t : List Char}, Ends s → Ends t →
      moreFields fs ++ s = moreFields gs ++ t → fs = gs ∧ s = t := by
  induction fs with
  | nil =>
    intro gs s t _ _ h
    cases gs with
    | nil => simpa [moreFields] using h
    | cons g gs => simp [moreFields] at h
  | cons f fs ih =>
    intro gs s t hs ht h
    cases gs with
    | nil => simp [moreFields] at h
    | cons g gs =>
      rw [moreFields, moreFields, List.cons_append, List.cons_append, List.append_assoc,
        List.append_assoc] at h
      obtain ⟨rfl, hrest⟩ := fieldChars_inj (hfs f (by simp)) (ends_moreFields fs s)
        (ends_moreFields gs t) (List.cons.inj h).2
      obtain ⟨rfl, rfl⟩ := ih (fun f hf => hfs f (by simp [hf])) hs ht hrest
      exact ⟨rfl, rfl⟩

lemma fieldChars_ne_brace (f : String × JsonValue ν) (s t : List Char) :
    fieldChars f ++ s ≠ '\x7d' :: t := by
  obtain ⟨k, v⟩ := f
  simp [fieldChars, Json.toList_quote]

lemma fieldsChars_inj {fs gs : List (String × JsonValue ν)} (hfs : ∀ f ∈ fs, Readable f.2)
    {s t : List Char} (hs : Ends s) (ht : Ends t)
    (h : fieldsChars fs ++ s = fieldsChars gs ++ t) : fs = gs ∧ s = t := by
  cases fs with
  | nil =>
    cases gs with
    | nil => simpa [fieldsChars] using h
    | cons g gs =>
      rw [fieldsChars, fieldsChars, List.append_assoc] at h
      exact absurd h.symm (fieldChars_ne_brace g _ s)
  | cons f fs =>
    cases gs with
    | nil =>
      rw [fieldsChars, fieldsChars, List.append_assoc] at h
      exact absurd h (fieldChars_ne_brace f _ t)
    | cons g gs =>
      rw [fieldsChars, fieldsChars, List.append_assoc, List.append_assoc] at h
      obtain ⟨rfl, hrest⟩ := fieldChars_inj (hfs f (by simp)) (ends_moreFields fs s)
        (ends_moreFields gs t) h
      obtain ⟨rfl, rfl⟩ := moreFields_inj (fun f hf => hfs f (by simp [hf])) hs ht hrest
      exact ⟨rfl, rfl⟩

section Lawful

variable [LawfulNumberText ν]

def kindOf (c : Char) : Nat :=
  if c = 'u' then 0 else if c = 'n' then 1 else if c = 't' then 2 else if c = 'f' then 3
  else if c = '"' then 5 else if c = '[' then 6 else if c = '\x7b' then 7 else 4

lemma kindOf_numeric {c : Char} (h : c.isDigit ∨ c = '-') : kindOf c = 4 := by
  have hne : ∀ d : Char, ¬ d.isDigit → d ≠ '-' → c ≠ d := by
    rintro d hd hm rfl
    rcases h with h | h
    · exact hd h
    · exact hm h
  unfold kindOf
  rw [if_neg (hne _ (by decide) (by decide)), if_neg (hne _ (by decide) (by decide)),
    if_neg (hne _ (by decide) (by decide)), if_neg (hne _ (by decide) (by decide)),
    if_neg (hne _ (by decide) (by decide)), if_neg (hne _ (by decide) (by decide)),
    if_neg (hne _ (by decide) (by decide))]

/-- A text starts with a character of its kind. -/
lemma chars_head (v : JsonValue ν) :
    ∃ c rest, chars v = c :: rest ∧ kindOf c = kind v ∧ c ≠ ']' := by
  cases v with
  | undefined => exact ⟨'u', "ndefined".toList, by simp [chars, scalar], rfl, by decide⟩
  | null => exact ⟨'n', "ull".toList, by simp [chars, scalar], rfl, by decide⟩
  | bool b =>
    cases b with
    | true => exact ⟨'t', "rue".toList, by simp [chars, scalar], rfl, by decide⟩
    | false => exact ⟨'f', "alse".toList, by simp [chars, scalar], rfl, by decide⟩
  | number n =>
    obtain ⟨c, rest, htext, hc⟩ := LawfulNumberText.head n
    refine ⟨c, rest, htext, kindOf_numeric hc, ?_⟩
    rintro rfl
    simp [Char.isDigit] at hc
  | string s => exact ⟨'"', _, Json.toList_quote s, rfl, by decide⟩
  | array es => exact ⟨'[', _, rfl, rfl, by decide⟩
  | object fs => exact ⟨'\x7b', _, rfl, rfl, by decide⟩

lemma kind_eq {v w : JsonValue ν} {s t : List Char} (h : chars v ++ s = chars w ++ t) :
    kind v = kind w := by
  obtain ⟨c, cs, hc, hkind, -⟩ := chars_head v
  obtain ⟨d, ds, hd, hkind', -⟩ := chars_head w
  rw [hc, hd, List.cons_append, List.cons_append] at h
  rw [← hkind, ← hkind', (List.cons.inj h).1]

/-- A number ends where its digits do. -/
lemma number_append_inj {m n : ν} {s t : List Char} (hs : Ends s) (ht : Ends t)
    (h : (NumberText.text m).toList ++ s = (NumberText.text n).toList ++ t) : m = n ∧ s = t := by
  have hread : ∀ (n : ν) (rest : List Char), Ends rest →
      ((NumberText.text n).toList ++ rest).takeWhile
        (fun c => c.isDigit || c = '-' || c = '.' || c = 'e' || c = '+') =
        (NumberText.text n).toList := by
    intro n rest hrest
    rw [List.takeWhile_append_of_pos]
    · rcases hrest with rfl | ⟨c, tail, rfl, rfl | rfl | rfl⟩ <;> simp [Char.isDigit]
    · intro c hc
      have hnumeric := LawfulNumberText.numeric n c hc
      simpa [Decimal.Numeric, or_assoc] using hnumeric
  have htext : (NumberText.text m).toList = (NumberText.text n).toList := by
    rw [← hread m s hs, h, hread n t ht]
  refine ⟨LawfulNumberText.injective (String.toList_inj.1 htext), ?_⟩
  rw [htext] at h
  exact List.append_cancel_left h

lemma chars_ne_bracket (v : JsonValue ν) (s t : List Char) : chars v ++ s ≠ ']' :: t := by
  intro h
  obtain ⟨c, cs, hc, -, hne⟩ := chars_head v
  rw [hc, List.cons_append] at h
  exact hne (List.cons.inj h).1

lemma elementsChars_inj {es es' : List (JsonValue ν)} (hes : ∀ e ∈ es, Readable e) {s t : List Char}
    (hs : Ends s) (ht : Ends t) (h : elementsChars es ++ s = elementsChars es' ++ t) :
    es = es' ∧ s = t := by
  cases es with
  | nil =>
    cases es' with
    | nil => simpa [elementsChars] using h
    | cons e' es' =>
      rw [elementsChars, elementsChars, List.append_assoc] at h
      exact absurd h.symm (chars_ne_bracket e' _ s)
  | cons e es =>
    cases es' with
    | nil =>
      rw [elementsChars, elementsChars, List.append_assoc] at h
      exact absurd h (chars_ne_bracket e _ t)
    | cons e' es' =>
      rw [elementsChars, elementsChars, List.append_assoc, List.append_assoc] at h
      obtain ⟨rfl, hrest⟩ := hes e (by simp) (ends_moreElements es s) (ends_moreElements es' t) h
      obtain ⟨rfl, rfl⟩ := moreElements_inj (fun e he => hes e (by simp [he])) hs ht hrest
      exact ⟨rfl, rfl⟩

/-- **Every value is read back** from its text, whatever follows. -/
theorem readable (v : JsonValue ν) : Readable v := by
  have hsame : ∀ {v w : JsonValue ν} {s t : List Char}, v = w → chars v ++ s = chars w ++ t →
      v = w ∧ s = t := by
    rintro v _ s t rfl h
    exact ⟨rfl, List.append_cancel_left h⟩
  -- the first character tells the kind, and each kind where its text ends
  induction v using induction_on_parts with
  | undefined =>
    intro w s t _ _ h
    obtain ⟨_, _, heq, -⟩ | ⟨_, _, heq, -⟩ | ⟨_, _, heq, -⟩ | ⟨_, _, heq, -⟩ | heq :=
      eq_of_kind (kind_eq h)
    all_goals first | exact hsame heq h | cases heq
  | null =>
    intro w s t _ _ h
    obtain ⟨_, _, heq, -⟩ | ⟨_, _, heq, -⟩ | ⟨_, _, heq, -⟩ | ⟨_, _, heq, -⟩ | heq :=
      eq_of_kind (kind_eq h)
    all_goals first | exact hsame heq h | cases heq
  | bool b =>
    intro w s t _ _ h
    obtain ⟨_, _, heq, -⟩ | ⟨_, _, heq, -⟩ | ⟨_, _, heq, -⟩ | ⟨_, _, heq, -⟩ | heq :=
      eq_of_kind (kind_eq h)
    all_goals first | exact hsame heq h | cases heq
  | number m =>
    intro w s t hs ht h
    obtain ⟨_, _, heq, -⟩ | ⟨_, _, heq, -⟩ | ⟨_, n, heq, rfl⟩ | ⟨_, _, heq, -⟩ | heq :=
      eq_of_kind (kind_eq h)
    case inr.inr.inl =>
      obtain ⟨rfl, rfl⟩ := number_append_inj hs ht h
      exact ⟨rfl, rfl⟩
    all_goals first | exact hsame heq h | cases heq
  | string a =>
    intro w s t hs ht h
    obtain ⟨_, _, heq, -⟩ | ⟨_, _, heq, -⟩ | ⟨_, _, heq, -⟩ | ⟨_, b, heq, rfl⟩ | heq :=
      eq_of_kind (kind_eq h)
    case inr.inr.inr.inl =>
      obtain ⟨rfl, rfl⟩ := Json.quote_append_inj h
      exact ⟨rfl, rfl⟩
    all_goals first | exact hsame heq h | cases heq
  | array es ih =>
    intro w s t hs ht h
    obtain ⟨_, es', heq, rfl⟩ | ⟨_, _, heq, -⟩ | ⟨_, _, heq, -⟩ | ⟨_, _, heq, -⟩ | heq :=
      eq_of_kind (kind_eq h)
    case inl =>
      rw [chars, chars, List.cons_append, List.cons_append] at h
      obtain ⟨rfl, rfl⟩ := elementsChars_inj ih hs ht (List.cons.inj h).2
      exact ⟨rfl, rfl⟩
    all_goals first | exact hsame heq h | cases heq
  | object fs ih =>
    intro w s t hs ht h
    obtain ⟨_, _, heq, -⟩ | ⟨_, gs, heq, rfl⟩ | ⟨_, _, heq, -⟩ | ⟨_, _, heq, -⟩ | heq :=
      eq_of_kind (kind_eq h)
    case inr.inl =>
      rw [chars, chars, List.cons_append, List.cons_append] at h
      obtain ⟨rfl, rfl⟩ := fieldsChars_inj ih hs ht (List.cons.inj h).2
      exact ⟨rfl, rfl⟩
    all_goals first | exact hsame heq h | cases heq

end Lawful

/-! ### Values with their fields sorted -/

section Stable

variable (le : String → String → Prop) [DecidableRel le]

lemma stableElements_eq {es : List (JsonValue ν)} (hes : ∀ e ∈ es, e ≠ undefined) :
    stableElements le es = es.map (stableStringify le) := by
  induction es with
  | nil => simp [stableElements]
  | cons e es ih =>
    have hrest := ih fun e he => hes e (by simp [he])
    rw [stableElements.eq_3 le e es (hes e (by simp)), hrest, List.map_cons]

lemma stableEntries_eq (fs : List (String × JsonValue ν)) :
    stableEntries le fs = fs.map fun f => (f.1, stableStringify le f.2) := by
  induction fs with
  | nil => simp [stableEntries]
  | cons f fs ih =>
    obtain ⟨k, v⟩ := f
    simp [stableEntries, stableEntry, ih]

lemma toList_intercalate_cons (text : String) (texts : List String) :
    (",".intercalate (text :: texts)).toList =
      text.toList ++ (texts.flatMap fun t => ',' :: t.toList) := by
  induction texts generalizing text with
  | nil => simp
  | cons t texts ih =>
    have hcomma : (",".toList) = [','] := rfl
    rw [String.intercalate_cons_cons, String.toList_append, String.toList_append, ih, hcomma]
    simp

lemma elementsText {texts : JsonValue ν → String} {value : JsonValue ν → JsonValue ν}
    {es : List (JsonValue ν)} (h : ∀ e ∈ es, (texts e).toList = chars (value e)) :
    (",".intercalate (es.map texts)).toList ++ [']'] = elementsChars (es.map value) := by
  have hmore : ∀ {es : List (JsonValue ν)}, (∀ e ∈ es, (texts e).toList = chars (value e)) →
      ((es.map texts).flatMap fun t => ',' :: t.toList) ++ [']'] = moreElements (es.map value) := by
    intro es h
    induction es with
    | nil => simp [moreElements]
    | cons e es ih =>
      have hrest := ih fun e he => h e (by simp [he])
      simp only [List.map_cons, List.flatMap_cons, moreElements, List.cons_append,
        List.append_assoc]
      rw [hrest, h e (by simp)]
  cases es with
  | nil => simp [elementsChars]
  | cons e es =>
    rw [List.map_cons, toList_intercalate_cons, List.append_assoc,
      hmore fun e he => h e (by simp [he]), List.map_cons, elementsChars, h e (by simp)]

lemma fieldsText_eq {texts : JsonValue ν → String} {value : JsonValue ν → JsonValue ν}
    {fs : List (String × JsonValue ν)} (h : ∀ f ∈ fs, (texts f.2).toList = chars (value f.2)) :
    (",".intercalate (fs.map fun f => Json.quote f.1 ++ ":" ++ texts f.2)).toList ++ ['\x7d'] =
      fieldsChars (fs.map fun f => (f.1, value f.2)) := by
  have hone : ∀ f ∈ fs, (Json.quote f.1 ++ ":" ++ texts f.2).toList =
      fieldChars (f.1, value f.2) := by
    intro f hf
    have hcolon : (":".toList) = [':'] := rfl
    rw [String.toList_append, String.toList_append, hcolon, h f hf, fieldChars]
    simp
  have hmore : ∀ {fs : List (String × JsonValue ν)},
      (∀ f ∈ fs, (Json.quote f.1 ++ ":" ++ texts f.2).toList = fieldChars (f.1, value f.2)) →
      ((fs.map fun f => Json.quote f.1 ++ ":" ++ texts f.2).flatMap fun t => ',' :: t.toList) ++
        ['\x7d'] =
        moreFields (fs.map fun f => (f.1, value f.2)) := by
    intro fs h
    induction fs with
    | nil => simp [moreFields]
    | cons f fs ih =>
      have hrest := ih fun f hf => h f (by simp [hf])
      simp only [List.map_cons, List.flatMap_cons, moreFields, List.cons_append, List.append_assoc]
      rw [hrest, h f (by simp)]
  cases fs with
  | nil => simp [fieldsChars]
  | cons f fs =>
    rw [List.map_cons, toList_intercalate_cons, List.append_assoc,
      hmore fun f hf => hone f (by simp [hf]), List.map_cons, fieldsChars, hone f (by simp)]

/-- The stable text of a value is the plain text of the sorted one. -/
theorem toList_stableStringify (v : JsonValue ν) (hv : v.Dense) :
    (stableStringify le v).toList = chars (sorted le v) := by
  have hopen : ("[".toList) = ['['] := rfl
  have hclose : ("]".toList) = [']'] := rfl
  have hbrace : ("\x7b".toList) = ['\x7b'] := rfl
  have hend : ("\x7d".toList) = ['\x7d'] := rfl
  induction v using induction_on_parts with
  | array es ih =>
    rw [Dense, denseElements_iff] at hv
    rw [stableStringify, stableElements_eq le fun e he => (hv e he).1, String.toList_append,
      String.toList_append, hopen, hclose, List.append_assoc,
      elementsText fun e he => ih e he (hv e he).2, sorted, sortedElements_eq, chars]
    rfl
  | object fs ih =>
    rw [Dense, denseFields_iff] at hv
    have hsorted : ∀ f ∈ sortByKey le fs,
        (stableStringify le f.2).toList = chars (sorted le f.2) := by
      intro f hf
      have hfs := (mem_sortByKey le).1 hf
      exact ih f hfs (hv f hfs)
    have htext := fieldsText_eq hsorted
    rw [stableStringify, fieldsText, stableEntries_eq, sortByKey_map, List.map_map,
      String.toList_append, String.toList_append, hbrace, hend, List.append_assoc]
    rw [sorted, sortedFields_eq, sortByKey_map, chars, ← htext]
    rfl
  | undefined => simp [stableStringify, sorted, chars]
  | null => simp [stableStringify, sorted, chars]
  | bool b => simp [stableStringify, sorted, chars]
  | number n => simp [stableStringify, sorted, chars]
  | string s => simp [stableStringify, sorted, chars]

/-- Two stable texts are equal exactly when the sorted values are. -/
theorem stableStringify_eq_iff [LawfulNumberText ν] {v w : JsonValue ν} (hv : v.Dense)
    (hw : w.Dense) : stableStringify le v = stableStringify le w ↔ sorted le v = sorted le w := by
  rw [← String.toList_inj, toList_stableStringify le v hv, toList_stableStringify le w hw]
  constructor
  · intro h
    exact (readable (sorted le v) (s := []) (t := []) (.inl rfl) (.inl rfl) (by simpa using h)).1
  · intro h
    rw [h]

end Stable

/-- **The stable text is canonical and injective**: two values have one text exactly when they
are equal up to the order of their fields. -/
theorem stableStringify_eq_iff_same [LawfulNumberText ν]
    {le : String → String → Prop} [DecidableRel le] (htotal : ∀ a b, le a b ∨ le b a)
    (htrans : ∀ a b c, le a b → le b c → le a c) {v w : JsonValue ν} (hv : Keyed le v)
    (hw : Keyed le w) (hdense : v.Dense) (hdense' : w.Dense) :
    stableStringify le v = stableStringify le w ↔ Same v w :=
  (stableStringify_eq_iff le hdense hdense').trans (same_iff_sorted htotal htrans v w hv hw).symm

end JsonValue

end ShopcityLoyalty
