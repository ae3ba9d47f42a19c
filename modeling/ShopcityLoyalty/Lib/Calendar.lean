import Mathlib.Tactic

/-!
The proleptic Gregorian calendar: days counted from 1 January 1970, and instants in
milliseconds UTC.
-/

namespace ShopcityLoyalty.Calendar

def isLeap (year : Int) : Bool := year % 4 = 0 && (year % 100 ≠ 0 || year % 400 = 0)

/-- Months count from one. -/
def daysInMonth (year month : Int) : Int :=
  if month = 2 then if isLeap year then 29 else 28
  else if month = 4 ∨ month = 6 ∨ month = 9 ∨ month = 11 then 30 else 31

structure Date where
  year : Int
  month : Int
  day : Int
  deriving DecidableEq, Repr

/-- The day number of a date; the day of the month may lie outside its month. -/
def dayNumber (d : Date) : Int :=
  let y := if d.month ≤ 2 then d.year - 1 else d.year
  let era := y / 400
  let yoe := y - era * 400
  let doy := (153 * (if d.month > 2 then d.month - 3 else d.month + 9) + 2) / 5 + d.day - 1
  era * 146097 + (yoe * 365 + yoe / 4 - yoe / 100 + doy) - 719468

/-- The date of a day number. -/
def dateOf (dayNumber : Int) : Date :=
  let z := dayNumber + 719468
  let era := z / 146097
  let doe := z - era * 146097
  let yoe := (doe - doe / 1460 + doe / 36524 - doe / 146096) / 365
  let doy := doe - (365 * yoe + yoe / 4 - yoe / 100)
  let mp := (5 * doy + 2) / 153
  let month := if mp < 10 then mp + 3 else mp - 9
  ⟨if month ≤ 2 then yoe + era * 400 + 1 else yoe + era * 400, month, doy - (153 * mp + 2) / 5 + 1⟩

def msPerDay : Int := 86400000

/-- The date of an instant and the milliseconds into its day. -/
def split (instant : Int) : Date × Int :=
  (dateOf (instant / msPerDay), instant % msPerDay)

def join (date : Date) (msOfDay : Int) : Int :=
  dayNumber date * msPerDay + msOfDay

/-- A number in at least `width` decimal digits. -/
def padded (width : Nat) (n : Nat) : String :=
  let digits := toString n
  String.ofList (List.replicate (width - digits.length) '0') ++ digits

/-- `toISOString`: years outside 0 to 9999 have a sign and six digits. -/
def toISOString (instant : Int) : String :=
  let (d, ms) := split instant
  let year :=
    if 0 ≤ d.year ∧ d.year ≤ 9999 then padded 4 d.year.toNat
    else (if d.year < 0 then "-" else "+") ++ padded 6 d.year.natAbs
  year ++ "-" ++ padded 2 d.month.toNat ++ "-" ++ padded 2 d.day.toNat ++ "T" ++
    padded 2 (ms / 3600000).toNat ++ ":" ++ padded 2 (ms / 60000 % 60).toNat ++ ":" ++
    padded 2 (ms / 1000 % 60).toNat ++ "." ++ padded 3 (ms % 1000).toNat ++ "Z"

example : toISOString 951827696789 = "2000-02-29T12:34:56.789Z" := by decide +kernel

/-! ### Months -/

lemma daysInMonth_bounds (year month : Int) :
    28 ≤ daysInMonth year month ∧ daysInMonth year month ≤ 31 := by
  unfold daysInMonth
  repeat' split
  all_goals omega

lemma isLeap_iff {year : Int} : isLeap year ↔ year % 4 = 0 ∧ (year % 100 ≠ 0 ∨ year % 400 = 0) := by
  simp [isLeap]

/-- The day of the year, from the day of its era of four hundred years. -/
lemma dayOfYear_bounds {doe yoe : Int} (h : 0 ≤ doe ∧ doe < 146097)
    (hyoe : (doe - doe / 1460 + doe / 36524 - doe / 146096) / 365 = yoe) :
    0 ≤ doe - (365 * yoe + yoe / 4 - yoe / 100) ∧
      doe - (365 * yoe + yoe / 4 - yoe / 100) ≤ 365 := by
  have hlast : doe / 146096 = 0 ∨ doe = 146096 := by omega
  rcases hlast with hlast | rfl
  · -- the century within the era
    have hc : doe / 36524 = 0 ∨ doe / 36524 = 1 ∨ doe / 36524 = 2 ∨ doe / 36524 = 3 := by omega
    rw [hlast] at hyoe
    rcases hc with hc | hc | hc | hc <;> rw [hc] at hyoe
    · have : yoe / 100 = 0 := by omega
      omega
    · have : yoe / 100 = 1 := by omega
      omega
    · have : yoe / 100 = 2 := by omega
      omega
    · have : yoe / 100 = 3 := by omega
      omega
  · norm_num at hyoe
    subst hyoe
    norm_num

lemma dateOf_bounds (n : Int) : 1 ≤ (dateOf n).month ∧ (dateOf n).month ≤ 12 ∧
    1 ≤ (dateOf n).day ∧ (dateOf n).day ≤ 31 := by
  simp only [dateOf]
  generalize hdoe : n + 719468 - (n + 719468) / 146097 * 146097 = doe
  have hera : 0 ≤ doe ∧ doe < 146097 := by omega
  generalize hyoe : (doe - doe / 1460 + doe / 36524 - doe / 146096) / 365 = yoe
  have hyear := dayOfYear_bounds hera hyoe
  generalize doe - (365 * yoe + yoe / 4 - yoe / 100) = doy at *
  clear hdoe hyoe
  split <;> omega

lemma yearOfEra_bounds {doe : Int} (h : 0 ≤ doe ∧ doe < 146097) :
    0 ≤ (doe - doe / 1460 + doe / 36524 - doe / 146096) / 365 ∧
      (doe - doe / 1460 + doe / 36524 - doe / 146096) / 365 ≤ 399 := by
  omega

/-- The date of a day of a year that begins in March. -/
def dateOfParts (era yoe doy : Int) : Date :=
  let mp := (5 * doy + 2) / 153
  let month := if mp < 10 then mp + 3 else mp - 9
  ⟨if month ≤ 2 then yoe + era * 400 + 1 else yoe + era * 400, month, doy - (153 * mp + 2) / 5 + 1⟩

lemma dayNumber_dateOfParts {yoe doy : Int} (era : Int) (hyoe : 0 ≤ yoe ∧ yoe ≤ 399)
    (hdoy : 0 ≤ doy ∧ doy ≤ 365) : dayNumber (dateOfParts era yoe doy) =
      era * 146097 + (yoe * 365 + yoe / 4 - yoe / 100 + doy) - 719468 := by
  simp only [dateOfParts, dayNumber]
  have hera : (yoe + era * 400) / 400 = era := by omega
  have hrest : yoe + era * 400 - era * 400 = yoe := by omega
  by_cases hm : (5 * doy + 2) / 153 < 10
  · have hmonth : ¬ (5 * doy + 2) / 153 + 3 ≤ 2 := by omega
    have hlate : (5 * doy + 2) / 153 + 3 > 2 := by omega
    simp only [if_pos hm, if_neg hmonth, if_pos hlate, hera, hrest]
    omega
  · have hmonth : (5 * doy + 2) / 153 - 9 ≤ 2 := by omega
    have hlate : ¬ (5 * doy + 2) / 153 - 9 > 2 := by omega
    have hyear : yoe + era * 400 + 1 - 1 = yoe + era * 400 := by omega
    simp only [if_neg hm, if_pos hmonth, if_neg hlate, hyear, hera, hrest]
    omega

/-- **The day of a date** found for a day. -/
theorem dayNumber_dateOf (n : Int) : dayNumber (dateOf n) = n := by
  have hdoe : 0 ≤ n + 719468 - (n + 719468) / 146097 * 146097 ∧
      n + 719468 - (n + 719468) / 146097 * 146097 < 146097 := by omega
  have hyoe := yearOfEra_bounds hdoe
  have hdoy := dayOfYear_bounds hdoe rfl
  have hparts := dayNumber_dateOfParts ((n + 719468) / 146097) hyoe hdoy
  have hdate : dateOf n = dateOfParts ((n + 719468) / 146097) _ _ := rfl
  rw [hdate, hparts]
  omega

lemma dayNumber_day (d : Date) : dayNumber d = dayNumber ⟨d.year, d.month, 1⟩ + (d.day - 1) := by
  simp only [dayNumber]
  omega

/-- The first day of a month, the months counted from January of year 0. -/
def firstOfMonth (k : Int) : Int := dayNumber ⟨k / 12, k % 12 + 1, 1⟩

lemma dayNumber_month (d : Date) (h : 1 ≤ d.month ∧ d.month ≤ 12) :
    dayNumber d = firstOfMonth (12 * d.year + (d.month - 1)) + (d.day - 1) := by
  have hyear : (12 * d.year + (d.month - 1)) / 12 = d.year := by omega
  have hmonth : (12 * d.year + (d.month - 1)) % 12 + 1 = d.month := by omega
  rw [firstOfMonth, hyear, hmonth]
  exact dayNumber_day d

/-- A month is as long as its days. -/
lemma firstOfMonth_succ (k : Int) :
    firstOfMonth (k + 1) = firstOfMonth k + daysInMonth (k / 12) (k % 12 + 1) := by
  have hm : k % 12 = 0 ∨ k % 12 = 1 ∨ k % 12 = 2 ∨ k % 12 = 3 ∨ k % 12 = 4 ∨ k % 12 = 5 ∨
      k % 12 = 6 ∨ k % 12 = 7 ∨ k % 12 = 8 ∨ k % 12 = 9 ∨ k % 12 = 10 ∨ k % 12 = 11 := by omega
  have hy : k % 12 = 11 ∧ (k + 1) / 12 = k / 12 + 1 ∧ (k + 1) % 12 = 0 ∨
      k % 12 ≠ 11 ∧ (k + 1) / 12 = k / 12 ∧ (k + 1) % 12 = k % 12 + 1 := by omega
  unfold firstOfMonth
  generalize k / 12 = y at *
  generalize k % 12 = m at *
  rcases hy with ⟨rfl, hy, hm'⟩ | ⟨-, hy, hm'⟩ <;> rw [hy, hm']
  · simp [dayNumber, daysInMonth]
    omega
  · rcases hm with rfl | rfl | rfl | rfl | rfl | rfl | rfl | rfl | rfl | rfl | rfl | rfl
    case inr.inr.inl =>
      -- March begins a year of the algorithm
      by_cases hleap : isLeap y
      all_goals
        simp only [dayNumber, daysInMonth, hleap]
        rw [isLeap_iff] at hleap
        norm_num
        omega
    all_goals
      simp [dayNumber, daysInMonth]
      try omega

lemma firstOfMonth_add (k : Int) (n : Nat) : firstOfMonth k + 28 * n ≤ firstOfMonth (k + n) := by
  induction n with
  | zero => simp
  | succ n ih =>
      have hsucc := firstOfMonth_succ (k + n)
      have hlen := (daysInMonth_bounds ((k + n) / 12) ((k + n) % 12 + 1)).1
      rw [Nat.cast_succ, ← add_assoc, hsucc]
      omega

lemma dayNumber_lt_of_year_lt {y y' m d : Int} (h : y < y') :
    dayNumber ⟨y, m, d⟩ < dayNumber ⟨y', m, d⟩ := by
  simp only [dayNumber]
  split <;> omega

lemma dayNumber_yearLater {y m d d' : Int} (h : d - 3 ≤ d') :
    dayNumber ⟨y, m, d⟩ + 362 ≤ dayNumber ⟨y + 1, m, d'⟩ := by
  simp only [dayNumber]
  split <;> omega

lemma dayNumber_mem_year {y m d : Int} (hm : 1 ≤ m ∧ m ≤ 12) (hd : 1 ≤ d ∧ d ≤ 31) :
    dayNumber ⟨y, 1, 1⟩ ≤ dayNumber ⟨y, m, d⟩ ∧ dayNumber ⟨y, m, d⟩ < dayNumber ⟨y + 1, 1, 1⟩ := by
  simp only [dayNumber]
  split <;> split <;> omega

/-- The days before a new year have an earlier year. -/
lemma year_dateOf_lt_iff (n y : Int) : (dateOf n).year < y ↔ n < dayNumber ⟨y, 1, 1⟩ := by
  obtain ⟨hm1, hm12, hd1, hd31⟩ := dateOf_bounds n
  have hin := dayNumber_mem_year (y := (dateOf n).year) ⟨hm1, hm12⟩ ⟨hd1, hd31⟩
  have hday : dayNumber ⟨(dateOf n).year, (dateOf n).month, (dateOf n).day⟩ = n :=
    dayNumber_dateOf n
  rw [hday] at hin
  have hmono : ∀ {x z : Int}, x ≤ z → dayNumber ⟨x, 1, 1⟩ ≤ dayNumber ⟨z, 1, 1⟩ := by
    intro x z hxz
    rcases hxz.eq_or_lt with rfl | hlt
    · exact le_rfl
    · exact (dayNumber_lt_of_year_lt hlt).le
  constructor
  · intro hlt
    have hnext := hmono (x := (dateOf n).year + 1) (z := y) (by omega)
    omega
  · intro hlt
    by_contra hge
    have hprev := hmono (x := y) (z := (dateOf n).year) (by omega)
    omega

end ShopcityLoyalty.Calendar
