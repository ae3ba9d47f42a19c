import Mathlib.Data.List.TakeWhile
import ShopcityLoyalty.Lib.Decimals

/-!
The numbers of the language and the texts `String` makes of them.

A finite number is its shortest decimal form. The text of a finite number is read back by its
digits, its point and its exponent, so that no two numbers have one text.
-/

namespace ShopcityLoyalty

/-- A finite number: `digits * 10 ^ exponent` with its sign, and no zero at the end of the
digits. Both zeros are one value. -/
structure Decimal where
  negative : Bool
  digits : Nat
  exponent : Int
  shortest : digits % 10 ≠ 0 ∨ (digits = 0 ∧ exponent = 0 ∧ negative = false)
  deriving DecidableEq

/-- A number of the language. -/
inductive JsNumber
  | nan
  | infinite (negative : Bool)
  | finite (d : Decimal)

namespace Decimal

/-- An exponent with its sign. -/
def signed (n : Int) : List Char := (if n < 0 then '-' else '+') :: (toString n.natAbs).toList

/-- `Number::toString` of a positive number with `ds` for its digits and the point before the
digit at `n`. -/
def positional (ds : List Char) (n : Int) : List Char :=
  if ds.length ≤ n ∧ n ≤ 21 then ds ++ List.replicate (n - ds.length).toNat '0'
  else if 0 < n ∧ n ≤ 21 then ds.take n.toNat ++ '.' :: ds.drop n.toNat
  else if -6 < n ∧ n ≤ 0 then '0' :: '.' :: List.replicate (-n).toNat '0' ++ ds
  else
    ds.take 1 ++ (if ds.length = 1 then [] else '.' :: ds.drop 1) ++ 'e' :: signed (n - 1)

def chars (d : Decimal) : List Char :=
  let ds := Nat.toDigits 10 d.digits
  if d.digits = 0 then ['0']
  else (if d.negative then ['-'] else []) ++ positional ds (d.exponent + ds.length)

def text (d : Decimal) : String := String.ofList d.chars

end Decimal

/-- `String(value)` of a number. -/
def JsNumber.text : JsNumber → String
  | nan => "NaN"
  | infinite negative => if negative then "-Infinity" else "Infinity"
  | finite d => d.text

example : (Decimal.mk true 125 (-2) (by decide)).text = "-1.25" := by decide +kernel
example : (Decimal.mk false 15 (-8) (by decide)).text = "1.5e-7" := by decide +kernel

namespace Decimal

/-! ### Reading a text back -/

/-- A signed exponent; no text reads as zero. -/
def readExponent : List Char → Int
  | '-' :: ds => -(Nat.ofDigitChars 10 ds 0 : Nat)
  | _ :: ds => (Nat.ofDigitChars 10 ds 0 : Nat)
  | [] => 0

/-- The value of a text without a sign. -/
def readValue (text : List Char) : ℚ :=
  let mantissa := text.takeWhile (· ≠ 'e')
  let fraction := (mantissa.dropWhile (· ≠ '.')).tail
  Nat.ofDigitChars 10 (mantissa.filter (· ≠ '.')) 0 *
    10 ^ (readExponent (text.dropWhile (· ≠ 'e')).tail - fraction.length)

def AllDigits (ds : List Char) : Prop := ∀ c ∈ ds, c.isDigit

lemma AllDigits.append {as bs : List Char} (ha : AllDigits as) (hb : AllDigits bs) :
    AllDigits (as ++ bs) := by
  intro c hc
  rcases List.mem_append.1 hc with hc | hc
  · exact ha c hc
  · exact hb c hc

lemma allDigits_toDigits (n : Nat) : AllDigits (Nat.toDigits 10 n) :=
  fun _ hc => Nat.isDigit_of_mem_toDigits (by omega) (by omega) hc

lemma allDigits_zeros (n : Nat) : AllDigits (List.replicate n '0') := by
  intro c hc
  rw [(List.mem_replicate.1 hc).2]
  decide

lemma AllDigits.ne {ds : List Char} (h : AllDigits ds) {c : Char} (hc : c ∈ ds) :
    c ≠ 'e' ∧ c ≠ '.' ∧ c ≠ '-' := by
  have hdigit := h c hc
  refine ⟨?_, ?_, ?_⟩ <;> rintro rfl <;> simp [Char.isDigit] at hdigit

/-- The text after the mantissa is none or starts the exponent. -/
def IsExponent (rest : List Char) : Prop := rest = [] ∨ ∃ ds, rest = 'e' :: ds

lemma takeWhile_mantissa {mantissa rest : List Char} (hm : ∀ c ∈ mantissa, c ≠ 'e')
    (hrest : IsExponent rest) : (mantissa ++ rest).takeWhile (· ≠ 'e') = mantissa := by
  rw [List.takeWhile_append_of_pos (by simpa using hm)]
  rcases hrest with rfl | ⟨ds, rfl⟩ <;> simp

lemma dropWhile_mantissa {mantissa rest : List Char} (hm : ∀ c ∈ mantissa, c ≠ 'e')
    (hrest : IsExponent rest) : (mantissa ++ rest).dropWhile (· ≠ 'e') = rest := by
  rw [List.dropWhile_append_of_pos (by simpa using hm)]
  rcases hrest with rfl | ⟨ds, rfl⟩ <;> simp

lemma filter_digits {ds : List Char} (h : AllDigits ds) : ds.filter (· ≠ '.') = ds := by
  apply List.filter_eq_self.2
  intro c hc
  simpa using (h.ne hc).2.1

lemma readValue_whole {ds rest : List Char} (h : AllDigits ds) (hrest : IsExponent rest) :
    readValue (ds ++ rest) = Nat.ofDigitChars 10 ds 0 * 10 ^ readExponent rest.tail := by
  have he : ∀ c ∈ ds, c ≠ 'e' := fun c hc => (h.ne hc).1
  have hfraction : ds.dropWhile (· ≠ '.') = [] := by
    rw [List.dropWhile_eq_nil_iff]
    intro c hc
    simpa using (h.ne hc).2.1
  unfold readValue
  simp only [takeWhile_mantissa he hrest, dropWhile_mantissa he hrest, filter_digits h, hfraction]
  simp

lemma readValue_point {as bs rest : List Char} (ha : AllDigits as) (hb : AllDigits bs)
    (hrest : IsExponent rest) :
    readValue (as ++ '.' :: bs ++ rest) =
      Nat.ofDigitChars 10 (as ++ bs) 0 * 10 ^ (readExponent rest.tail - bs.length) := by
  have he : ∀ c ∈ as ++ '.' :: bs, c ≠ 'e' := by
    intro c hc
    rcases List.mem_append.1 hc with hc | hc
    · exact (ha.ne hc).1
    · rcases List.mem_cons.1 hc with rfl | hc
      · decide
      · exact (hb.ne hc).1
  have hfraction : (as ++ '.' :: bs).dropWhile (· ≠ '.') = '.' :: bs := by
    rw [List.dropWhile_append_of_pos (fun c hc => by simpa using (ha.ne hc).2.1)]
    simp
  have hfilter : (as ++ '.' :: bs).filter (· ≠ '.') = as ++ bs := by
    rw [List.filter_append, filter_digits ha, List.filter_cons]
    simpa using filter_digits hb
  unfold readValue
  simp only [takeWhile_mantissa he hrest, dropWhile_mantissa he hrest, hfraction, hfilter,
    List.tail_cons]

lemma readExponent_signed (n : Int) : readExponent (signed n) = n := by
  have hdigits : Nat.ofDigitChars 10 (toString n.natAbs).toList 0 = n.natAbs := by
    rw [Nat.toString_eq_repr, Nat.toList_repr, Nat.ofDigitChars_ten_toDigits]
  by_cases hn : n < 0
  · rw [signed, if_pos hn]
    change -((Nat.ofDigitChars 10 (toString n.natAbs).toList 0 : Nat) : Int) = n
    rw [hdigits]
    omega
  · rw [signed, if_neg hn]
    change ((Nat.ofDigitChars 10 (toString n.natAbs).toList 0 : Nat) : Int) = n
    rw [hdigits]
    omega

/-- Wherever the point stands, the text has the value of the digits. -/
lemma readValue_positional {ds : List Char} (h : AllDigits ds) (hne : ds ≠ []) (n : Int) :
    readValue (positional ds n) = Nat.ofDigitChars 10 ds 0 * 10 ^ (n - ds.length) := by
  have hlength := List.length_pos_iff.2 hne
  have htake : ∀ k, AllDigits (ds.take k) := fun k c hc => h c (List.mem_of_mem_take hc)
  have hdrop : ∀ k, AllDigits (ds.drop k) := fun k c hc => h c (List.mem_of_mem_drop hc)
  unfold positional
  by_cases hwhole : ds.length ≤ n ∧ n ≤ 21
  · rw [if_pos hwhole]
    have hread := readValue_whole (h.append (allDigits_zeros (n - ds.length).toNat)) (.inl rfl)
    rw [List.append_nil] at hread
    have hpow : (10 : ℚ) ^ (n - ds.length) = 10 ^ (n - ds.length).toNat := by
      rw [← zpow_natCast]
      congr 1
      omega
    rw [hread, Nat.ofDigitChars_append, Nat.ofDigitChars_replicate_zero, hpow]
    simp [readExponent, mul_comm]
  rw [if_neg hwhole]
  by_cases hinside : 0 < n ∧ n ≤ 21
  · rw [if_pos hinside]
    have hread := readValue_point (htake n.toNat) (hdrop n.toNat) (.inl rfl)
    rw [List.append_nil, List.take_append_drop] at hread
    rw [hread, List.length_drop]
    congr 2
    simp only [List.tail_nil, readExponent]
    omega
  rw [if_neg hinside]
  by_cases hbefore : -6 < n ∧ n ≤ 0
  · rw [if_pos hbefore]
    have hzero : AllDigits ['0'] := allDigits_zeros 1
    have hread := readValue_point hzero ((allDigits_zeros (-n).toNat).append h) (.inl rfl)
    have hvalue : Nat.ofDigitChars 10 (['0'] ++ (List.replicate (-n).toNat '0' ++ ds)) 0 =
        Nat.ofDigitChars 10 ds 0 := by
      rw [Nat.ofDigitChars_append, Nat.ofDigitChars_append,
        show Nat.ofDigitChars 10 ['0'] 0 = 0 from rfl, Nat.ofDigitChars_replicate_zero,
          Nat.mul_zero]
    rw [List.append_nil, hvalue] at hread
    refine hread.trans ?_
    congr 2
    simp only [List.tail_nil, readExponent, List.length_append, List.length_replicate]
    omega
  rw [if_neg hbefore]
  by_cases hone : ds.length = 1
  · have hds : ds.take 1 = ds := List.take_of_length_le (by omega)
    rw [if_pos hone, List.append_nil, hds, readValue_whole h (.inr ⟨_, rfl⟩), List.tail_cons,
      readExponent_signed, hone]
    rfl
  · have hread := readValue_point (htake 1) (hdrop 1) (.inr ⟨signed (n - 1), rfl⟩)
    rw [List.take_append_drop, List.tail_cons, readExponent_signed, List.length_drop] at hread
    rw [if_neg hone, hread]
    congr 2
    omega

/-! ### No two numbers have one text -/

/-- The scale of digits that do not end in a zero is theirs alone. -/
lemma scaled_inj {m n : Nat} {e f : Int} (hm : m % 10 ≠ 0) (hn : n % 10 ≠ 0)
    (h : (m : ℚ) * 10 ^ e = n * 10 ^ f) : m = n ∧ e = f := by
  wlog hle : e ≤ f generalizing m n e f
  · obtain ⟨hmn, hef⟩ := this hn hm h.symm (by omega)
    exact ⟨hmn.symm, hef.symm⟩
  have hten : (10 : ℚ) ^ e ≠ 0 := zpow_ne_zero _ (by norm_num)
  have hscaled : (m : ℚ) = n * 10 ^ (f - e).toNat := by
    have hpow : (10 : ℚ) ^ f = 10 ^ e * 10 ^ (f - e).toNat := by
      rw [← zpow_natCast, ← zpow_add₀ (by norm_num)]
      congr 1
      omega
    rw [hpow] at h
    have hcancel : (10 : ℚ) ^ e * m = 10 ^ e * (n * 10 ^ (f - e).toNat) := by linarith
    exact mul_left_cancel₀ hten hcancel
  have hnat : m = n * 10 ^ (f - e).toNat := by exact_mod_cast hscaled
  by_cases hef : e = f
  · subst hef
    exact ⟨by simpa using hnat, rfl⟩
  · obtain ⟨k, hk⟩ : ∃ k, (f - e).toNat = k + 1 := ⟨(f - e).toNat - 1, by omega⟩
    rw [hk, pow_succ, ← mul_assoc] at hnat
    omega

lemma toDigits_ne_nil (n : Nat) : Nat.toDigits 10 n ≠ [] :=
  List.ne_nil_of_length_pos Nat.length_toDigits_pos

/-- A positive number starts with a digit, so its text has no sign. -/
lemma positional_head {ds : List Char} (h : AllDigits ds) (hne : ds ≠ []) (n : Int) :
    ∃ c rest, positional ds n = c :: rest ∧ c.isDigit := by
  obtain ⟨c, ds, rfl⟩ := List.exists_cons_of_ne_nil hne
  have hc : c.isDigit := h c (by simp)
  unfold positional
  by_cases hwhole : (c :: ds).length ≤ n ∧ n ≤ 21
  · exact ⟨c, _, if_pos hwhole, hc⟩
  rw [if_neg hwhole]
  by_cases hinside : 0 < n ∧ n ≤ 21
  · obtain ⟨k, hk⟩ : ∃ k, n.toNat = k + 1 := ⟨n.toNat - 1, by omega⟩
    rw [if_pos hinside, hk]
    exact ⟨c, _, rfl, hc⟩
  rw [if_neg hinside]
  by_cases hbefore : -6 < n ∧ n ≤ 0
  · exact ⟨'0', _, if_pos hbefore, by decide⟩
  · exact ⟨c, _, if_neg hbefore, hc⟩

lemma digits_zero {d : Decimal} (h : d.digits = 0) : d = ⟨false, 0, 0, .inr ⟨rfl, rfl, rfl⟩⟩ := by
  obtain ⟨negative, digits, exponent, hshort⟩ := d
  subst h
  obtain hshort | ⟨-, rfl, rfl⟩ := hshort
  · exact absurd rfl hshort
  · rfl

/-- The value of a text, its sign read off the front. -/
def readSigned : List Char → Bool × ℚ
  | '-' :: text => (true, readValue text)
  | text => (false, readValue text)

lemma readSigned_digit {c : Char} (hc : c.isDigit) (rest : List Char) :
    readSigned (c :: rest) = (false, readValue (c :: rest)) := by
  unfold readSigned
  split
  · next heq =>
    rw [(List.cons.inj heq).1] at hc
    simp [Char.isDigit] at hc
  · rfl

/-- Every number has its own value, and its text reads as this value. -/
lemma readSigned_chars (d : Decimal) :
    readSigned d.chars = (d.negative, (d.digits : ℚ) * 10 ^ d.exponent) := by
  by_cases hzero : d.digits = 0
  · rw [digits_zero hzero]
    rfl
  · have hdigits := allDigits_toDigits d.digits
    have hne := toDigits_ne_nil d.digits
    obtain ⟨c, rest, hpos, hc⟩ :=
      positional_head hdigits hne (d.exponent + (Nat.toDigits 10 d.digits).length)
    have hvalue := readValue_positional hdigits hne (d.exponent + (Nat.toDigits 10 d.digits).length)
    rw [Nat.ofDigitChars_ten_toDigits, add_sub_cancel_right] at hvalue
    unfold chars
    rw [if_neg hzero]
    cases hsign : d.negative with
    | true =>
      rw [if_pos rfl]
      exact Prod.ext rfl hvalue
    | false =>
      have hsigned := readSigned_digit hc rest
      rw [← hpos, hvalue] at hsigned
      simpa using hsigned

/-- **A number is read back** from its text. -/
theorem chars_injective {d e : Decimal} (h : d.chars = e.chars) : d = e := by
  have hread : (d.negative, (d.digits : ℚ) * 10 ^ d.exponent) =
      (e.negative, (e.digits : ℚ) * 10 ^ e.exponent) := by
    rw [← readSigned_chars, ← readSigned_chars, h]
  obtain ⟨hsign, hvalue⟩ := Prod.ext_iff.1 hread
  simp only at hsign hvalue
  have hzero : d.digits = 0 ↔ e.digits = 0 := by
    have hpow : ∀ k : Int, (10 : ℚ) ^ k ≠ 0 := fun k => zpow_ne_zero _ (by norm_num)
    constructor
    · intro hd
      rw [hd, Nat.cast_zero, zero_mul, eq_comm, mul_eq_zero] at hvalue
      exact_mod_cast hvalue.resolve_right (hpow _)
    · intro he
      rw [he, Nat.cast_zero, zero_mul, mul_eq_zero] at hvalue
      exact_mod_cast hvalue.resolve_right (hpow _)
  by_cases hd : d.digits = 0
  · rw [digits_zero hd, digits_zero (hzero.1 hd)]
  · have hdshort : d.digits % 10 ≠ 0 := d.shortest.resolve_right fun hz => hd hz.1
    have heshort : e.digits % 10 ≠ 0 := e.shortest.resolve_right fun hz => hd (hzero.2 hz.1)
    obtain ⟨hdigits, hexponent⟩ := scaled_inj hdshort heshort hvalue
    obtain ⟨_, _, _, _⟩ := d
    obtain ⟨_, _, _, _⟩ := e
    simp_all

/-- The characters of a number's text. -/
def Numeric (c : Char) : Prop := c.isDigit ∨ c = '-' ∨ c = '.' ∨ c = 'e' ∨ c = '+'

lemma AllDigits.numeric {ds : List Char} (h : AllDigits ds) : ∀ c ∈ ds, Numeric c :=
  fun c hc => .inl (h c hc)

lemma numeric_append {as bs : List Char} (ha : ∀ c ∈ as, Numeric c) (hb : ∀ c ∈ bs, Numeric c) :
    ∀ c ∈ as ++ bs, Numeric c := by
  intro c hc
  rcases List.mem_append.1 hc with hc | hc
  · exact ha c hc
  · exact hb c hc

lemma numeric_cons {d : Char} {cs : List Char} (hd : Numeric d) (h : ∀ c ∈ cs, Numeric c) :
    ∀ c ∈ d :: cs, Numeric c := by
  intro c hc
  rcases List.mem_cons.1 hc with rfl | hc
  · exact hd
  · exact h c hc

lemma numeric_signed (n : Int) : ∀ c ∈ signed n, Numeric c := by
  refine numeric_cons ?_ fun c hc => .inl (isDigit_of_mem_toString hc)
  split_ifs <;> simp [Numeric]

lemma numeric_positional {ds : List Char} (h : AllDigits ds) (n : Int) :
    ∀ c ∈ positional ds n, Numeric c := by
  have hpoint : Numeric '.' := by simp [Numeric]
  have htake : ∀ k, ∀ c ∈ ds.take k, Numeric c := fun k c hc => .inl (h c (List.mem_of_mem_take hc))
  have hdrop : ∀ k, ∀ c ∈ ds.drop k, Numeric c := fun k c hc => .inl (h c (List.mem_of_mem_drop hc))
  unfold positional
  split_ifs
  · exact numeric_append h.numeric (allDigits_zeros _).numeric
  · exact numeric_append (htake _) (numeric_cons hpoint (hdrop _))
  · exact numeric_cons (.inl (by decide))
      (numeric_cons hpoint (numeric_append (allDigits_zeros _).numeric h.numeric))
  · rw [List.append_nil]
    exact numeric_append (htake 1) (numeric_cons (by simp [Numeric]) (numeric_signed _))
  · exact numeric_append (numeric_append (htake 1) (numeric_cons hpoint (hdrop 1)))
      (numeric_cons (by simp [Numeric]) (numeric_signed _))

lemma numeric_chars (d : Decimal) : ∀ c ∈ d.chars, Numeric c := by
  unfold chars
  split_ifs
  · exact numeric_cons (.inl (by decide)) (by simp)
  · exact numeric_append (numeric_cons (by simp [Numeric]) (by simp))
      (numeric_positional (allDigits_toDigits _) _)
  · exact numeric_positional (allDigits_toDigits _) _

lemma chars_head (d : Decimal) : ∃ c rest, d.chars = c :: rest ∧ (c.isDigit ∨ c = '-') := by
  unfold chars
  split_ifs
  · exact ⟨'0', [], rfl, .inl (by decide)⟩
  · exact ⟨'-', _, rfl, .inr rfl⟩
  · obtain ⟨c, rest, hpos, hc⟩ := positional_head (allDigits_toDigits d.digits)
      (toDigits_ne_nil d.digits) (d.exponent + (Nat.toDigits 10 d.digits).length)
    exact ⟨c, rest, hpos, .inl hc⟩

/-! ### Values -/

/-- What the digits stand for. -/
def value (d : Decimal) : ℚ := (if d.negative then -1 else 1) * (d.digits * 10 ^ d.exponent)

end Decimal

namespace JsNumber

/-- `n <= number`. -/
def atLeast (n : ℕ) : JsNumber → Bool
  | nan => false
  | infinite negative => !negative
  | finite d => (n : ℚ) ≤ d.value

/-- `n < number`. -/
def exceeds (n : ℕ) : JsNumber → Bool
  | nan => false
  | infinite negative => !negative
  | finite d => (n : ℚ) < d.value

/-- How many of `1, 2, 3, ...` a number is at least. -/
def count : JsNumber → ℕ∞
  | nan => 0
  | infinite negative => if negative then 0 else ⊤
  | finite d => ⌊d.value⌋₊

lemma atLeast_iff {n : ℕ} (hn : 0 < n) (a : JsNumber) : a.atLeast n ↔ (n : ℕ∞) ≤ a.count := by
  cases a with
  | nan =>
      simp only [atLeast, count, nonpos_iff_eq_zero, Nat.cast_eq_zero]
      simp [Nat.ne_of_gt hn]
  | infinite negative =>
      cases negative with
      | false => simp [atLeast, count]
      | true => simp [atLeast, count, Nat.ne_of_gt hn]
  | finite d =>
      simp only [atLeast, count, decide_eq_true_eq, Nat.cast_le]
      exact (Nat.le_floor_iff' (Nat.ne_of_gt hn)).symm

lemma not_atLeast_succ {n : ℕ} {a : JsNumber} (h : a.exceeds n = false) :
    a.atLeast (n + 1) = false := by
  cases a with
  | nan => rfl
  | infinite negative => exact h
  | finite d =>
      simp only [exceeds, atLeast, decide_eq_false_iff_not, not_lt, not_le] at h ⊢
      push_cast
      linarith

lemma count_ne_top {a : JsNumber} (h : a ≠ infinite false) : a.count ≠ ⊤ := by
  cases a with
  | nan => simp [count]
  | infinite negative =>
      cases negative with
      | false => exact absurd rfl h
      | true => simp [count]
  | finite d => exact ENat.natCast_ne_top _

end JsNumber

end ShopcityLoyalty
