import ShopcityLoyalty.Lib.Calendar

/-!
Dates and instants as texts: the digits of a number with zeros before them, the year with its
sign, and the instant that is read back from its text.
-/

namespace ShopcityLoyalty.Calendar

/-! ### Dates -/

def yearText (year : Int) : String :=
  if 0 ≤ year ∧ year ≤ 9999 then padded 4 year.toNat
  else (if year < 0 then "-" else "+") ++ padded 6 year.natAbs

/-- The date of an instant in the text `toISOString` gives it. -/
def dateText (instant : Int) : String :=
  yearText (split instant).1.year ++ "-" ++ padded 2 (split instant).1.month.toNat ++ "-" ++
    padded 2 (split instant).1.day.toNat

lemma toISOString_eq (instant : Int) :
    ∃ time, toISOString instant = dateText instant ++ time := by
  refine ⟨"T" ++ padded 2 ((split instant).2 / 3600000).toNat ++ ":" ++
    padded 2 ((split instant).2 / 60000 % 60).toNat ++ ":" ++
    padded 2 ((split instant).2 / 1000 % 60).toNat ++ "." ++
    padded 3 ((split instant).2 % 1000).toNat ++ "Z", ?_⟩
  simp only [toISOString, dateText, yearText, String.append_assoc]

lemma padded_toList (w n : Nat) : (padded w n).toList =
    List.replicate (w - n.repr.length) '0' ++ n.repr.toList := by
  simp [padded]

lemma padded_length (w n : Nat) : (padded w n).length = max w n.repr.length := by
  rw [← String.length_toList, padded_toList, List.length_append, List.length_replicate,
    String.length_toList]
  omega

lemma padded_length_of_lt {w n : Nat} (hw : 0 < w) (h : n < 10 ^ w) : (padded w n).length = w := by
  have hrepr := (Nat.length_repr_le_iff hw).2 h
  rw [padded_length]
  omega

lemma dateText_length (instant : Int) :
    (dateText instant).length = (yearText (split instant).1.year).length + 6 := by
  obtain ⟨hm1, hm12, hd1, hd31⟩ := dateOf_bounds (instant / msPerDay)
  have hmonth : (padded 2 (split instant).1.month.toNat).length = 2 :=
    padded_length_of_lt (by omega) (by simp only [split]; omega)
  have hday : (padded 2 (split instant).1.day.toNat).length = 2 :=
    padded_length_of_lt (by omega) (by simp only [split]; omega)
  have hdash : "-".length = 1 := rfl
  simp only [dateText, String.length_append, hmonth, hday, hdash]

lemma yearText_length (year : Int) :
    if 0 ≤ year ∧ year ≤ 9999 then (yearText year).length = 4 else 6 < (yearText year).length := by
  unfold yearText
  by_cases hyear : 0 ≤ year ∧ year ≤ 9999
  · rw [if_pos hyear, if_pos hyear]
    exact padded_length_of_lt (by omega) (by omega)
  · rw [if_neg hyear, if_neg hyear, String.length_append, padded_length]
    have hsign : (if year < 0 then "-" else "+").length = 1 := by
      split <;> rfl
    omega

/-! ### Texts read back -/

lemma ofDigitChars_padded (w n : Nat) : Nat.ofDigitChars 10 (padded w n).toList 0 = n := by
  rw [padded_toList, Nat.ofDigitChars_append, Nat.ofDigitChars_replicate_zero, Nat.mul_zero,
    Nat.toList_repr, Nat.ofDigitChars_ten_toDigits]

lemma padded_inj {w m n : Nat} (h : padded w m = padded w n) : m = n := by
  have hdigits := congrArg (fun text => Nat.ofDigitChars 10 text.toList 0) h
  simpa [ofDigitChars_padded] using hdigits

lemma padded_append_inj {w m n : Nat} (hw : 0 < w) (hm : m < 10 ^ w) (hn : n < 10 ^ w)
    {s t : String} (h : padded w m ++ s = padded w n ++ t) : m = n ∧ s = t := by
  have hlist : (padded w m).toList ++ s.toList = (padded w n).toList ++ t.toList := by
    simpa using congrArg String.toList h
  have hlength : (padded w m).toList.length = (padded w n).toList.length := by
    rw [String.length_toList, String.length_toList, padded_length_of_lt hw hm,
      padded_length_of_lt hw hn]
  obtain ⟨hfront, hrest⟩ := List.append_inj hlist hlength
  exact ⟨padded_inj (String.toList_inj.1 hfront), String.toList_inj.1 hrest⟩

lemma yearText_inj {y y' : Int} (h : yearText y = yearText y') : y = y' := by
  have hlen := yearText_length y
  have hlen' := yearText_length y'
  rw [h] at hlen
  unfold yearText at h
  by_cases hy : 0 ≤ y ∧ y ≤ 9999
  · rw [if_pos hy] at hlen h
    by_cases hy' : 0 ≤ y' ∧ y' ≤ 9999
    · rw [if_pos hy'] at h
      have hnat := padded_inj h
      omega
    · rw [if_neg hy'] at hlen'
      omega
  · rw [if_neg hy] at hlen h
    by_cases hy' : 0 ≤ y' ∧ y' ≤ 9999
    · rw [if_pos hy'] at hlen'
      omega
    · rw [if_neg hy'] at h
      have hlist := congrArg String.toList h
      rw [String.toList_append, String.toList_append] at hlist
      have hsign : (if y < 0 then "-" else "+") = (if y' < 0 then "-" else "+") ∧
          padded 6 y.natAbs = padded 6 y'.natAbs := by
        obtain ⟨hfront, hrest⟩ := List.append_inj hlist (by split_ifs <;> rfl)
        exact ⟨String.toList_inj.1 hfront, String.toList_inj.1 hrest⟩
      have hnat := padded_inj hsign.2
      have hneg : y < 0 ↔ y' < 0 := by
        have hne : ("-" : String) ≠ "+" := by decide
        by_cases h0 : y < 0 <;> by_cases h0' : y' < 0
        · exact iff_of_true h0 h0'
        · exact absurd hsign.1 (by simp [h0, h0'])
        · exact absurd hsign.1 (by simp [h0, h0'])
        · exact iff_of_false h0 h0'
      omega

/-- The text after the year. -/
def afterYear (instant : Int) : String :=
  "-" ++ (padded 2 (split instant).1.month.toNat ++ ("-" ++ (padded 2 (split instant).1.day.toNat ++
    ("T" ++ (padded 2 ((split instant).2 / 3600000).toNat ++
    (":" ++ (padded 2 ((split instant).2 / 60000 % 60).toNat ++
    (":" ++ (padded 2 ((split instant).2 / 1000 % 60).toNat ++
    ("." ++ (padded 3 ((split instant).2 % 1000).toNat ++ "Z")))))))))))

lemma toISOString_eq_afterYear (instant : Int) :
    toISOString instant = yearText (split instant).1.year ++ afterYear instant := by
  simp only [toISOString, yearText, afterYear, String.append_assoc]

lemma split_bounds (instant : Int) :
    (split instant).1.month.toNat < 10 ^ 2 ∧ (split instant).1.day.toNat < 10 ^ 2 ∧
      ((split instant).2 / 3600000).toNat < 10 ^ 2 ∧ ((split instant).2 / 60000 % 60).toNat <
        10 ^ 2 ∧
      ((split instant).2 / 1000 % 60).toNat < 10 ^ 2 ∧ ((split instant).2 % 1000).toNat <
        10 ^ 3 := by
  obtain ⟨hm1, hm12, hd1, hd31⟩ := dateOf_bounds (instant / msPerDay)
  have hms : 0 ≤ instant % msPerDay ∧ instant % msPerDay < msPerDay := by
    unfold msPerDay
    omega
  have hday : msPerDay = 86400000 := rfl
  simp only [split]
  refine ⟨?_, ?_, ?_, ?_, ?_, ?_⟩ <;> omega

lemma afterYear_length (instant : Int) : (afterYear instant).length = 20 := by
  obtain ⟨hmonth, hday, hhour, hminute, hsecond, hms⟩ := split_bounds instant
  have hone : ∀ text ∈ ["-", "T", ":", ".", "Z"], text.length = 1 := by decide
  simp only [afterYear, String.length_append, padded_length_of_lt (by omega) hmonth,
    padded_length_of_lt (by omega) hday, padded_length_of_lt (by omega) hhour,
    padded_length_of_lt (by omega) hminute, padded_length_of_lt (by omega) hsecond,
    padded_length_of_lt (by omega) hms]
  rfl

lemma ofDay_eq (ms : Int) : ms = ms / 3600000 * 3600000 + ms / 60000 % 60 * 60000 +
    ms / 1000 % 60 * 1000 + ms % 1000 := by
  have hsecond := Int.mul_ediv_add_emod (ms / 1000) 60
  have hminute := Int.mul_ediv_add_emod (ms / 60000) 60
  have hseconds : ms / 1000 / 60 = ms / 60000 := Int.ediv_ediv_of_nonneg (by decide)
  have hminutes : ms / 60000 / 60 = ms / 3600000 := Int.ediv_ediv_of_nonneg (by decide)
  have hms := Int.mul_ediv_add_emod ms 1000
  omega

lemma ofDay_inj {a b : Int} (ha : 0 ≤ a) (hb : 0 ≤ b)
    (hhour : (a / 3600000).toNat = (b / 3600000).toNat)
    (hminute : (a / 60000 % 60).toNat = (b / 60000 % 60).toNat)
    (hsecond : (a / 1000 % 60).toNat = (b / 1000 % 60).toNat)
    (hms : (a % 1000).toNat = (b % 1000).toNat) : a = b := by
  have nonneg_inj : ∀ {x y : Int}, 0 ≤ x → 0 ≤ y → x.toNat = y.toNat → x = y := by
    intro x y hx hy h
    omega
  rw [ofDay_eq a, ofDay_eq b,
    nonneg_inj (Int.ediv_nonneg ha (by decide)) (Int.ediv_nonneg hb (by decide)) hhour,
    nonneg_inj (Int.emod_nonneg _ (by decide)) (Int.emod_nonneg _ (by decide)) hminute,
    nonneg_inj (Int.emod_nonneg _ (by decide)) (Int.emod_nonneg _ (by decide)) hsecond,
    nonneg_inj (Int.emod_nonneg _ (by decide)) (Int.emod_nonneg _ (by decide)) hms]

lemma append_left_inj {a s t : String} (h : a ++ s = a ++ t) : s = t := by
  have hlist := congrArg String.toList h
  rw [String.toList_append, String.toList_append] at hlist
  exact String.toList_inj.1 (List.append_cancel_left hlist)

/-- **An instant is read back** from its text. -/
theorem toISOString_inj {s t : Int} (h : toISOString s = toISOString t) : s = t := by
  rw [toISOString_eq_afterYear, toISOString_eq_afterYear] at h
  have hlist := congrArg String.toList h
  rw [String.toList_append, String.toList_append] at hlist
  obtain ⟨hyeartext, hafter⟩ := List.append_inj' hlist (by
    rw [String.length_toList, String.length_toList, afterYear_length, afterYear_length])
  have hyear := yearText_inj (String.toList_inj.1 hyeartext)
  have hrest := String.toList_inj.1 hafter
  obtain ⟨hm, hd, hh, hmin, hs, hms⟩ := split_bounds s
  obtain ⟨hm', hd', hh', hmin', hs', hms'⟩ := split_bounds t
  unfold afterYear at hrest
  obtain ⟨hmonth, hrest⟩ := padded_append_inj (by omega) hm hm' (append_left_inj hrest)
  obtain ⟨hday, hrest⟩ := padded_append_inj (by omega) hd hd' (append_left_inj hrest)
  obtain ⟨hhour, hrest⟩ := padded_append_inj (by omega) hh hh' (append_left_inj hrest)
  obtain ⟨hminute, hrest⟩ := padded_append_inj (by omega) hmin hmin' (append_left_inj hrest)
  obtain ⟨hsecond, hrest⟩ := padded_append_inj (by omega) hs hs' (append_left_inj hrest)
  obtain ⟨hmilli, -⟩ := padded_append_inj (by omega) hms hms' (append_left_inj hrest)
  have hdate : (split s).1 = (split t).1 := by
    have hb := dateOf_bounds (s / msPerDay)
    have hb' := dateOf_bounds (t / msPerDay)
    simp only [split] at hyear hmonth hday ⊢
    generalize dateOf (s / msPerDay) = d at *
    generalize dateOf (t / msPerDay) = d' at *
    obtain ⟨y, m, d⟩ := d
    obtain ⟨y', m', d'⟩ := d'
    simp only at hyear hmonth hday hb hb'
    simp only [Date.mk.injEq]
    omega
  have hdaynumber : s / msPerDay = t / msPerDay := by
    have := congrArg dayNumber hdate
    simpa only [split, dayNumber_dateOf] using this
  have hofday : s % msPerDay = t % msPerDay := by
    simp only [split] at hhour hminute hsecond hmilli
    exact ofDay_inj (Int.emod_nonneg _ (by decide)) (Int.emod_nonneg _ (by decide))
      hhour hminute hsecond hmilli
  have hsplit := Int.mul_ediv_add_emod s msPerDay
  have hsplit' := Int.mul_ediv_add_emod t msPerDay
  rw [hdaynumber, hofday] at hsplit
  omega

/-! ### Reading an instant -/

def readYear : List Char → Int
  | '-' :: digits => -Nat.ofDigitChars 10 digits 0
  | '+' :: digits => Nat.ofDigitChars 10 digits 0
  | digits => Nat.ofDigitChars 10 digits 0

/-- The instant in a text of the form that `toISOString` gives. -/
def readInstant (text : String) : Int :=
  let yearLength := text.toList.length - 20
  let after := text.toList.drop yearLength
  let number (i w : Nat) : Int := Nat.ofDigitChars 10 ((after.drop i).take w) 0
  join ⟨readYear (text.toList.take yearLength), number 1 2, number 4 2⟩
    (number 7 2 * 3600000 + number 10 2 * 60000 + number 13 2 * 1000 + number 16 3)

lemma isDigit_of_mem_padded {w n : Nat} {c : Char} (h : c ∈ (padded w n).toList) : c.isDigit := by
  rw [padded_toList] at h
  rcases List.mem_append.1 h with h | h
  · rw [List.eq_of_mem_replicate h]
    rfl
  · rw [Nat.toList_repr] at h
    exact Nat.isDigit_of_mem_toDigits (by omega) (by omega) h

lemma readYear_yearText (year : Int) : readYear (yearText year).toList = year := by
  unfold yearText
  by_cases hyear : 0 ≤ year ∧ year ≤ 9999
  · rw [if_pos hyear]
    have hread := ofDigitChars_padded 4 year.toNat
    have hdigits : ∀ c ∈ (padded 4 year.toNat).toList, c.isDigit := fun _ => isDigit_of_mem_padded
    have hvalue : readYear (padded 4 year.toNat).toList =
        Nat.ofDigitChars 10 (padded 4 year.toNat).toList 0 := by
      unfold readYear
      split
      · rename_i heq
        have hsign := hdigits '-' (by simp [heq])
        cases hsign
      · rename_i heq
        have hsign := hdigits '+' (by simp [heq])
        cases hsign
      · rfl
    rw [hvalue, hread]
    omega
  · rw [if_neg hyear, String.toList_append]
    have hread := ofDigitChars_padded 6 year.natAbs
    by_cases hneg : year < 0
    · rw [if_pos hneg]
      show -((Nat.ofDigitChars 10 (padded 6 year.natAbs).toList 0 : Nat) : Int) = year
      rw [hread]
      omega
    · rw [if_neg hneg]
      show ((Nat.ofDigitChars 10 (padded 6 year.natAbs).toList 0 : Nat) : Int) = year
      rw [hread]
      omega

lemma padded_two {n : Nat} (h : n < 10 ^ 2) : ∃ a b, (padded 2 n).toList = [a, b] ∧
    Nat.ofDigitChars 10 [a, b] 0 = n := by
  have hlength : (padded 2 n).toList.length = 2 := by
    rw [String.length_toList]
    exact padded_length_of_lt (by omega) h
  obtain ⟨a, b, heq⟩ := List.length_eq_two.1 hlength
  exact ⟨a, b, heq, heq ▸ ofDigitChars_padded 2 n⟩

lemma padded_three {n : Nat} (h : n < 10 ^ 3) : ∃ a b c, (padded 3 n).toList = [a, b, c] ∧
    Nat.ofDigitChars 10 [a, b, c] 0 = n := by
  have hlength : (padded 3 n).toList.length = 3 := by
    rw [String.length_toList]
    exact padded_length_of_lt (by omega) h
  obtain ⟨a, b, c, heq⟩ := List.length_eq_three.1 hlength
  exact ⟨a, b, c, heq, heq ▸ ofDigitChars_padded 3 n⟩

/-- **The instant in a text is the one it was written for.** -/
theorem readInstant_toISOString (instant : Int) : readInstant (toISOString instant) = instant := by
  have hlength : (afterYear instant).toList.length = 20 := by
    rw [String.length_toList, afterYear_length]
  have htext : (toISOString instant).toList =
      (yearText (split instant).1.year).toList ++ (afterYear instant).toList := by
    rw [toISOString_eq_afterYear, String.toList_append]
  have hyear : (toISOString instant).toList.length - 20 =
      (yearText (split instant).1.year).toList.length := by
    rw [htext, List.length_append, hlength]
    omega
  obtain ⟨hm, hd, hh, hmin, hs, hms⟩ := split_bounds instant
  obtain ⟨m₁, m₂, hmonth, hreadmonth⟩ := padded_two hm
  obtain ⟨d₁, d₂, hday, hreadday⟩ := padded_two hd
  obtain ⟨h₁, h₂, hhour, hreadhour⟩ := padded_two hh
  obtain ⟨n₁, n₂, hminute, hreadminute⟩ := padded_two hmin
  obtain ⟨s₁, s₂, hsecond, hreadsecond⟩ := padded_two hs
  obtain ⟨f₁, f₂, f₃, hmilli, hreadmilli⟩ := padded_three hms
  have hafter : (afterYear instant).toList = ['-', m₁, m₂, '-', d₁, d₂, 'T', h₁, h₂, ':', n₁, n₂,
      ':', s₁, s₂, '.', f₁, f₂, f₃, 'Z'] := by
    simp only [afterYear, String.toList_append, hmonth, hday, hhour, hminute, hsecond, hmilli]
    rfl
  unfold readInstant
  simp only [hyear]
  rw [htext, List.drop_left, List.take_left, readYear_yearText, hafter]
  simp only [List.drop_succ_cons, List.drop_zero, List.take_succ_cons, List.take_zero, hreadmonth,
    hreadday, hreadhour, hreadminute, hreadsecond, hreadmilli]
  -- what is left is the arithmetic of the parts
  obtain ⟨hm1, -, hd1, -⟩ := dateOf_bounds (instant / msPerDay)
  have hmonthNat : ((split instant).1.month.toNat : Int) = (split instant).1.month := by
    simp only [split]
    omega
  have hdayNat : ((split instant).1.day.toNat : Int) = (split instant).1.day := by
    simp only [split]
    omega
  rw [hmonthNat, hdayNat]
  have hdate : dayNumber (split instant).1 = instant / msPerDay := dayNumber_dateOf _
  have hsame : (⟨(split instant).1.year, (split instant).1.month, (split instant).1.day⟩ : Date) =
      (split instant).1 := rfl
  unfold join
  rw [hsame, hdate]
  have hms : (split instant).2 = instant % msPerDay := rfl
  have hofday : 0 ≤ instant % msPerDay := Int.emod_nonneg _ (by decide)
  rw [hms, Int.toNat_of_nonneg (Int.ediv_nonneg hofday (by decide)),
    Int.toNat_of_nonneg (Int.emod_nonneg _ (by decide)),
    Int.toNat_of_nonneg (Int.emod_nonneg _ (by decide)),
    Int.toNat_of_nonneg (Int.emod_nonneg _ (by decide)), ← ofDay_eq, Int.mul_comm]
  exact Int.mul_ediv_add_emod instant msPerDay

end ShopcityLoyalty.Calendar
