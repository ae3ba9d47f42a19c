import ShopcityLoyalty.Lib.Calendar

/-!
Months of the calendar, counted from January of year 0: which days each of them has, and dates
found again from their day numbers.
-/

namespace ShopcityLoyalty.Calendar

/-- The month of a date. -/
def monthOf (d : Date) : Int := 12 * d.year + (d.month - 1)

/-! ### The days of a month -/

/-- A day 365 of a year that begins in March is the 29th of February. -/
lemma isLeap_of_lastDay {doe yoe : Int} (h : 0 ≤ doe ∧ doe < 146097)
    (hyoe : (doe - doe / 1460 + doe / 36524 - doe / 146096) / 365 = yoe)
    (hlast : doe - (365 * yoe + yoe / 4 - yoe / 100) = 365) :
    (yoe + 1) % 4 = 0 ∧ ((yoe + 1) % 100 ≠ 0 ∨ (yoe + 1) % 400 = 0) := by
  have hcycle : doe / 146096 = 0 ∨ doe = 146096 := by omega
  rcases hcycle with hcycle | rfl
  · have hc : doe / 36524 = 0 ∨ doe / 36524 = 1 ∨ doe / 36524 = 2 ∨ doe / 36524 = 3 := by omega
    rw [hcycle] at hyoe
    -- only the last year of a cycle of four has that day
    have hj : yoe % 4 = 0 ∨ yoe % 4 = 1 ∨ yoe % 4 = 2 ∨ yoe % 4 = 3 := by omega
    rcases hc with hc | hc | hc | hc <;> rw [hc] at hyoe
    · have hcentury : yoe / 100 = 0 := by omega
      have hlt : yoe / 4 < doe / 1460 := by omega
      rcases hj with hj | hj | hj | hj <;> omega
    · have hcentury : yoe / 100 = 1 := by omega
      have hlt : yoe / 4 < doe / 1460 := by omega
      rcases hj with hj | hj | hj | hj <;> omega
    · have hcentury : yoe / 100 = 2 := by omega
      have hlt : yoe / 4 < doe / 1460 := by omega
      rcases hj with hj | hj | hj | hj <;> omega
    · have hcentury : yoe / 100 = 3 := by omega
      have hlt : yoe / 4 < doe / 1460 := by omega
      rcases hj with hj | hj | hj | hj <;> omega
  · norm_num at hyoe
    subst hyoe
    norm_num

/-- The day of a date lies within its month. -/
lemma dateOf_day_le (n : Int) :
    (dateOf n).day ≤ daysInMonth (dateOf n).year (dateOf n).month := by
  simp only [dateOf]
  generalize hera' : (n + 719468) / 146097 = era
  generalize hdoe : n + 719468 - era * 146097 = doe
  have hera : 0 ≤ doe ∧ doe < 146097 := by omega
  generalize hyoe : (doe - doe / 1460 + doe / 36524 - doe / 146096) / 365 = yoe
  have hdoy := dayOfYear_bounds hera hyoe
  have hleap := isLeap_of_lastDay hera hyoe
  generalize hday : doe - (365 * yoe + yoe / 4 - yoe / 100) = doy at *
  clear hdoe hera' hyoe hday hera
  have hmp : 0 ≤ (5 * doy + 2) / 153 ∧ (5 * doy + 2) / 153 ≤ 11 := by omega
  unfold daysInMonth
  by_cases hfeb : (5 * doy + 2) / 153 = 11
  · -- February is the last month
    by_cases hlast : doy = 365
    · obtain ⟨h4, h100⟩ := hleap hlast
      have hyear : isLeap (yoe + era * 400 + 1) := by
        rw [isLeap_iff]
        omega
      rw [hfeb]
      simp [hyear]
      omega
    · rw [hfeb]
      simp only [show ¬ (11 : Int) < 10 by omega, if_false, show (11 : Int) - 9 = 2 by omega,
        if_true]
      split <;> omega
  · have hcases : ∀ m : Int, (5 * doy + 2) / 153 = m → 0 ≤ m → m ≤ 10 →
        doy - (153 * m + 2) / 5 + 1 ≤
          if (if m < 10 then m + 3 else m - 9) = 4 ∨ (if m < 10 then m + 3 else m - 9) = 6 ∨
            (if m < 10 then m + 3 else m - 9) = 9 ∨ (if m < 10 then m + 3 else m - 9) = 11
          then 30 else 31 := by
      intro m hm h0 h10
      split <;> omega
    have hm := hcases _ rfl hmp.1 (by omega)
    have hnot : ¬ (if (5 * doy + 2) / 153 < 10 then (5 * doy + 2) / 153 + 3
        else (5 * doy + 2) / 153 - 9) = 2 := by
      split <;> omega
    rw [if_neg hnot]
    exact hm

lemma firstOfMonth_mono {k k' : Int} (h : k ≤ k') : firstOfMonth k ≤ firstOfMonth k' := by
  obtain ⟨n, rfl⟩ : ∃ n : Nat, k' = k + n := ⟨(k' - k).toNat, by omega⟩
  have hadd := firstOfMonth_add k n
  omega

/-- A day number lies in the month of its date. -/
lemma mem_month (n : Int) : firstOfMonth (monthOf (dateOf n)) ≤ n ∧
    n < firstOfMonth (monthOf (dateOf n) + 1) := by
  obtain ⟨hm1, hm12, hd1, -⟩ := dateOf_bounds n
  have hday := dayNumber_month (dateOf n) ⟨hm1, hm12⟩
  rw [dayNumber_dateOf] at hday
  have hle := dateOf_day_le n
  have hsucc := firstOfMonth_succ (monthOf (dateOf n))
  have hyear : monthOf (dateOf n) / 12 = (dateOf n).year := by
    unfold monthOf
    omega
  have hmonth : monthOf (dateOf n) % 12 + 1 = (dateOf n).month := by
    unfold monthOf
    omega
  rw [hyear, hmonth] at hsucc
  change n = firstOfMonth (monthOf (dateOf n)) + _ at hday
  omega

/-- **Months in order**: the days from the first of a month on are those of it and later ones. -/
theorem firstOfMonth_le_iff {n k : Int} : firstOfMonth k ≤ n ↔ k ≤ monthOf (dateOf n) := by
  obtain ⟨hfirst, hnext⟩ := mem_month n
  constructor
  · intro hk
    by_contra hlt
    have hmono := firstOfMonth_mono (show monthOf (dateOf n) + 1 ≤ k by omega)
    omega
  · intro hk
    have hmono := firstOfMonth_mono hk
    omega

lemma monthOf_mono {n n' : Int} (h : n ≤ n') : monthOf (dateOf n) ≤ monthOf (dateOf n') :=
  firstOfMonth_le_iff.1 ((firstOfMonth_le_iff.2 le_rfl).trans h)

/-! ### Dates found again -/

/-- A month of the year and a day of the month. -/
structure Date.Valid (d : Date) : Prop where
  month : 1 ≤ d.month ∧ d.month ≤ 12
  day : 1 ≤ d.day ∧ d.day ≤ daysInMonth d.year d.month

lemma dateOf_valid (n : Int) : (dateOf n).Valid where
  month := ⟨(dateOf_bounds n).1, (dateOf_bounds n).2.1⟩
  day := ⟨(dateOf_bounds n).2.2.1, dateOf_day_le n⟩

lemma monthOf_div {d : Date} (h : d.Valid) : monthOf d / 12 = d.year ∧
    monthOf d % 12 + 1 = d.month := by
  have hm := h.month
  unfold monthOf
  omega

/-- **The date of its own day number.** -/
theorem dateOf_dayNumber {d : Date} (h : d.Valid) : dateOf (dayNumber d) = d := by
  have hday := dayNumber_month d h.month
  have hvalid := dateOf_valid (dayNumber d)
  have hlen := firstOfMonth_succ (monthOf d)
  obtain ⟨hyear, hmonth⟩ := monthOf_div h
  rw [hyear, hmonth] at hlen
  change dayNumber d = firstOfMonth (monthOf d) + _ at hday
  have hd := h.day
  have hsame : monthOf (dateOf (dayNumber d)) = monthOf d := by
    have hle : monthOf d ≤ monthOf (dateOf (dayNumber d)) := firstOfMonth_le_iff.1 (by omega)
    have hlt : ¬ monthOf d + 1 ≤ monthOf (dateOf (dayNumber d)) := by
      rw [← firstOfMonth_le_iff]
      omega
    omega
  obtain ⟨hyear', hmonth'⟩ := monthOf_div hvalid
  have hday' := dayNumber_month (dateOf (dayNumber d)) hvalid.month
  rw [dayNumber_dateOf] at hday'
  change dayNumber d = firstOfMonth (monthOf (dateOf (dayNumber d))) + _ at hday'
  rw [hsame] at hday' hyear' hmonth'
  generalize hfound : dateOf (dayNumber d) = e at *
  obtain ⟨y, m, a⟩ := d
  obtain ⟨y', m', a'⟩ := e
  simp only [Date.mk.injEq] at *
  omega

end ShopcityLoyalty.Calendar
