import ShopcityLoyalty.LotLifecycle
import ShopcityLoyalty.Lib.Months

/-!
The expiry of an earned credit as arithmetic on the calendar: so many months later, clamped to
the end of the month. The clamping can bring two earnings of a month to its last day, where the
time of the day decides which of them expires first.
-/

namespace ShopcityLoyalty

open Calendar

/-- So many calendar months later: the same day of the month or the last one, at the same time. -/
structure MonthsLater (earnedAt expiresAt months : Int) : Prop where
  month : monthOf (split expiresAt).1 = monthOf (split earnedAt).1 + months
  day : (split expiresAt).1.day =
    min (split earnedAt).1.day (daysInMonth (split expiresAt).1.year (split expiresAt).1.month)
  time : (split expiresAt).2 = (split earnedAt).2

/-- The year that the expiry lies in. -/
def targetYear (earnedAt months : Int) : Int := (monthOf (split earnedAt).1 + months) / 12

/-- The date that the clamped addition computes. -/
def clampedDate (year monthIndex day : Int) : Date :=
  ⟨year, monthIndex % 12 + 1, min day (daysInMonth year (monthIndex % 12 + 1))⟩

lemma clampedDate_valid {year monthIndex day : Int} (h : 1 ≤ day) :
    (clampedDate year monthIndex day).Valid where
  month := by
    simp only [clampedDate]
    omega
  day := by
    have hlen := daysInMonth_bounds year (monthIndex % 12 + 1)
    simp only [clampedDate]
    omega

lemma monthOf_clampedDate (year monthIndex day : Int) :
    monthOf (clampedDate year monthIndex day) = 12 * year + monthIndex % 12 := by
  simp [monthOf, clampedDate]

/-- What `addUtcMonthsClamped` returns, with the year as `Date.UTC` reads it. -/
lemma addUtcMonthsClamped_eq (earnedAt months : Int) :
    addUtcMonthsClamped earnedAt months =
      join (clampedDate (if twoDigitYear (targetYear earnedAt months)
          then 1900 + targetYear earnedAt months else targetYear earnedAt months)
        (monthOf (split earnedAt).1 + months) (split earnedAt).1.day) (split earnedAt).2 := by
  have hyear : (split earnedAt).1.year + ((split earnedAt).1.month - 1 + months) / 12 =
      targetYear earnedAt months := by
    unfold targetYear monthOf
    omega
  have hmonth : ((split earnedAt).1.month - 1 + months) % 12 =
      (monthOf (split earnedAt).1 + months) % 12 := by
    unfold monthOf
    omega
  unfold addUtcMonthsClamped dateUTC clampedDate twoDigitYear
  simp only [hyear, hmonth]
  rfl

lemma split_join {d : Date} {ms : Int} (hd : d.Valid) (hms : 0 ≤ ms ∧ ms < msPerDay) :
    split (join d ms) = (d, ms) := by
  unfold split join
  have hday : (dayNumber d * msPerDay + ms) / msPerDay = dayNumber d := by
    unfold msPerDay at *
    omega
  have hrest : (dayNumber d * msPerDay + ms) % msPerDay = ms := by
    unfold msPerDay at *
    omega
  rw [hday, hrest, dateOf_dayNumber hd]

lemma split_time (instant : Int) : 0 ≤ (split instant).2 ∧ (split instant).2 < msPerDay := by
  unfold split msPerDay
  simp only
  omega

lemma split_addUtcMonthsClamped (earnedAt months : Int) :
    split (addUtcMonthsClamped earnedAt months) =
      (clampedDate (if twoDigitYear (targetYear earnedAt months)
          then 1900 + targetYear earnedAt months else targetYear earnedAt months)
        (monthOf (split earnedAt).1 + months) (split earnedAt).1.day, (split earnedAt).2) := by
  rw [addUtcMonthsClamped_eq]
  exact split_join (clampedDate_valid (dateOf_bounds _).2.2.1) (split_time earnedAt)

/-- The expiry lies so many months later unless its year is read as one of the twentieth
century. -/
theorem addUtcMonthsClamped_later_iff (earnedAt months : Int) :
    MonthsLater earnedAt (addUtcMonthsClamped earnedAt months) months ↔
      ¬ twoDigitYear (targetYear earnedAt months) := by
  have hsplit := split_addUtcMonthsClamped earnedAt months
  constructor
  · intro hlater htwo
    have hmonth := hlater.month
    rw [hsplit, if_pos htwo, monthOf_clampedDate] at hmonth
    unfold targetYear at hmonth
    omega
  · intro hnot
    rw [if_neg hnot] at hsplit
    constructor
    · rw [hsplit, monthOf_clampedDate]
      unfold targetYear
      omega
    · rw [hsplit]
      rfl
    · rw [hsplit]

lemma clampedExpiryDerived_iff (earnedAt : Int) :
    clampedExpiryDerived earnedAt ↔ ¬ twoDigitYear (targetYear earnedAt 12) := by
  have hm := (dateOf_valid (earnedAt / msPerDay)).month
  have hyear : targetYear earnedAt 12 = (split earnedAt).1.year + 1 := by
    unfold targetYear monthOf split
    simp only
    omega
  rw [clampedExpiryDerived, hyear]

/-! ### The order of the expiries -/

lemma join_month {d : Date} (ms : Int) (hd : d.Valid) :
    join d ms = (firstOfMonth (monthOf d) + (d.day - 1)) * msPerDay + ms := by
  have hday := dayNumber_month d hd.month
  unfold join
  rw [hday]
  rfl

lemma eq_join_split (instant : Int) : instant = join (split instant).1 (split instant).2 := by
  unfold join split msPerDay
  simp only [dayNumber_dateOf]
  omega

/-- Two earnings of one month whose expiries fall on the same last day, the earlier one at a later
time of the day. -/
def ClampedTogether (d₁ d₂ months : Int) : Prop :=
  monthOf (split d₁).1 = monthOf (split d₂).1 ∧
    daysInMonth (targetYear d₁ months) ((monthOf (split d₁).1 + months) % 12 + 1) ≤
      (split d₁).1.day ∧ (split d₂).2 < (split d₁).2

instance (d₁ d₂ months : Int) : Decidable (ClampedTogether d₁ d₂ months) :=
  inferInstanceAs (Decidable (_ ∧ _))

/-- The expiry of a later earning lies on no earlier day, and is earlier only on the same last
day of a month. -/
theorem monthsLater_order {d₁ d₂ e₁ e₂ months : Int} (h : d₁ ≤ d₂) (h₁ : MonthsLater d₁ e₁ months)
    (h₂ : MonthsLater d₂ e₂ months) : e₁ / msPerDay ≤ e₂ / msPerDay ∧
      (e₁ ≤ e₂ ↔ ¬ ClampedTogether d₁ d₂ months) := by
  have hd₁ := eq_join_split d₁
  have hd₂ := eq_join_split d₂
  have he₁ := eq_join_split e₁
  have he₂ := eq_join_split e₂
  have hvalid : ∀ x, (split x).1.Valid := fun x => dateOf_valid _
  rw [join_month _ (hvalid _)] at hd₁ hd₂ he₁ he₂
  have ht₁ := split_time d₁
  have ht₂ := split_time d₂
  rw [h₁.month, h₁.time] at he₁
  rw [h₂.month, h₂.time] at he₂
  have hmonths : monthOf (split d₁).1 ≤ monthOf (split d₂).1 := by
    refine monthOf_mono ?_
    unfold msPerDay
    omega
  have hlength : ∀ {d e : Int}, MonthsLater d e months →
      daysInMonth (split e).1.year (split e).1.month =
        daysInMonth (targetYear d months) ((monthOf (split d).1 + months) % 12 + 1) := by
    intro d e hlater
    obtain ⟨hyear, hmonth⟩ := monthOf_div (hvalid e)
    rw [hlater.month] at hyear hmonth
    rw [← hyear, ← hmonth]
    rfl
  have hday₁ := h₁.day
  have hday₂ := h₂.day
  rw [hlength h₁] at hday₁
  rw [hlength h₂] at hday₂
  unfold ClampedTogether
  by_cases hsame : monthOf (split d₁).1 = monthOf (split d₂).1
  · -- in one month the clamped days keep their order
    have htarget : targetYear d₁ months = targetYear d₂ months := by
      unfold targetYear
      rw [hsame]
    rw [htarget, hsame] at hday₁ ⊢
    rw [hsame] at hd₁ he₁
    generalize daysInMonth (targetYear d₂ months)
      ((monthOf (split d₂).1 + months) % 12 + 1) = last at *
    unfold msPerDay at *
    omega
  · -- otherwise the whole month lies between
    have hsucc := firstOfMonth_succ (monthOf (split d₁).1 + months)
    have hmono := firstOfMonth_mono
      (show monthOf (split d₁).1 + months + 1 ≤ monthOf (split d₂).1 + months by omega)
    have hpositive := (hvalid e₂).day
    unfold targetYear at hday₁
    unfold msPerDay at *
    omega

/-! ### The arithmetic of the expiry -/

/-- Clamped months, and the derived expiry where they are twelve. -/
structure ClampedMonths (earnedAt months : Int) : Prop where
  later : MonthsLater earnedAt (addUtcMonthsClamped earnedAt months) months
  derived : months = 12 →
    derive_credit_lot_expires_at earnedAt = some (addUtcMonthsClamped earnedAt months)

/-- They are, unless `Date.UTC` takes the year for one of the twentieth century. -/
lemma clampedMonths_iff (earnedAt months : Int) :
    ClampedMonths earnedAt months ↔ ¬ twoDigitYear (targetYear earnedAt months) := by
  constructor
  · intro h
    exact (addUtcMonthsClamped_later_iff _ _).1 h.later
  · intro hnot
    refine ⟨(addUtcMonthsClamped_later_iff _ _).2 hnot, ?_⟩
    rintro rfl
    exact (derive_eq_addUtcMonthsClamped earnedAt).2 ((clampedExpiryDerived_iff earnedAt).2 hnot)

namespace Shop

/-- An hour before midnight on 28 February 2024, and an hour after it. -/
def beforeLeapDay : Int := join ⟨2024, 2, 28⟩ 82800000
def onLeapDay : Int := join ⟨2024, 2, 29⟩ 3600000

end Shop

end ShopcityLoyalty
