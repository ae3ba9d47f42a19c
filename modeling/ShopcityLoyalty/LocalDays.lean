import ShopcityLoyalty.CashierMonths
import ShopcityLoyalty.Lib.CalendarTexts
import ShopcityLoyalty.Lib.Clocks
import ShopcityLoyalty.PagedListings
import ShopcityLoyalty.Reports

/-!
The bounds of a local day. The jobs correct a guess at a local midnight up to eight times, the
lists of cards up to three times, and the reports once.

So they agree where the clock reads the midnight and few corrections reach it, which the offsets
at and near the midnights UTC tell.
-/

namespace ShopcityLoyalty

open Calendar Clocks FraudBehaviorRuntime ReportMaterializerService CardsService

/-- The wall clock of a time zone, its fields put together by `Date.UTC`. -/
def wallClock (rt : FraudRuntime) (timeZone : String) (t : Int) : Int :=
  dateUTC (rt.localDateTime timeZone t).1 (rt.localDateTime timeZone t).2

/-- The three services format instants in one time zone. -/
structure SharedZone (jobs : FraudRuntime) (reports : ReportRuntime) (lists : ListingRuntime)
    (timeZone : String) (offset : Int → Int) : Prop where
  zone : TimeZone jobs timeZone offset
  reportClock : reports.localDateTime timeZone = jobs.localDateTime timeZone
  listClock : lists.localAsUtc timeZone = wallClock jobs timeZone

/-! ### What a local day is to be -/

/-- Midnight UTC of a date. -/
def utcMidnight (date : Date) : Int := dayNumber date * msPerDay

def nextDate (date : Date) : Date := dateOf (dayNumber date + 1)

/-- The window of an instant is its local date, the services agree on its bounds, and the loops
stop at the midnights. -/
structure DayBoundaries (jobs : FraudRuntime) (reports : ReportRuntime) (lists : ListingRuntime)
    (timeZone : String) (reference : Int) : Prop where
  exact : ∀ t, ((branchDayWindow jobs reference timeZone).1 ≤ t ∧
    t < (branchDayWindow jobs reference timeZone).2) ↔
      (jobs.localDateTime timeZone t).1 = (jobs.localDateTime timeZone reference).1
  midnight : dateAtShopCityMidnight lists
    (dateText (utcMidnight (jobs.localDateTime timeZone reference).1)) timeZone =
      .ok (branchDayWindow jobs reference timeZone).1
  dayEnd : ∀ asOf, endOfReportDate reports (jobs.localDateTime timeZone reference).1 timeZone asOf =
    min ((branchDayWindow jobs reference timeZone).2 - 1) asOf
  converged : jobs.localDateTime timeZone (branchDayWindow jobs reference timeZone).1 =
      ((jobs.localDateTime timeZone reference).1, 0) ∧
    jobs.localDateTime timeZone (branchDayWindow jobs reference timeZone).2 =
      (nextDate (jobs.localDateTime timeZone reference).1, 0)

/-- A year that `Date.UTC` reads as it is. -/
def PlainYear (date : Date) : Prop := ¬ (0 ≤ date.year ∧ date.year ≤ 99)

/-- The local day from one midnight to the next, each with an offset that is found: at the end the
one at the next midnight UTC, at the start the one at the midnight UTC, or at the guess or the
second guess it leads to. -/
structure SettledDay (rt : FraudRuntime) (timeZone : String) (date : Date) (first next : Int) :
    Prop where
  day : ∀ t, (first ≤ t ∧ t < next) ↔ (rt.localDateTime timeZone t).1 = date
  starts : rt.localDateTime timeZone first = (date, 0)
  ends : rt.localDateTime timeZone next = (nextDate date, 0)
  plain : PlainYear date
  plainNext : PlainYear (nextDate date)
  startOffset : ahead (wallClock rt timeZone) (utcMidnight date) =
      ahead (wallClock rt timeZone) first ∨
    ahead (wallClock rt timeZone)
      (utcMidnight date - ahead (wallClock rt timeZone) (utcMidnight date)) =
        ahead (wallClock rt timeZone) first ∨
    ahead (wallClock rt timeZone) (utcMidnight date - ahead (wallClock rt timeZone)
      (utcMidnight date - ahead (wallClock rt timeZone) (utcMidnight date))) =
        ahead (wallClock rt timeZone) first
  endOffset : ahead (wallClock rt timeZone) (utcMidnight (nextDate date)) =
    ahead (wallClock rt timeZone) next

/-! ### The loops as corrections -/

lemma correct_loop_eq (rt : FraudRuntime) (timeZone : String) (target : Int) (attempts : Nat) :
    ∀ guess, localMidnightUtc.correct rt timeZone target attempts guess =
      (correct (wallClock rt timeZone) target)^[attempts] guess := by
  induction attempts with
  | zero => exact fun _ => rfl
  | succ attempts ih =>
      intro guess
      unfold localMidnightUtc.correct
      by_cases hdelta : wallClock rt timeZone guess - target = 0
      · have hreads : wallClock rt timeZone guess = target := by omega
        have hstays := Function.iterate_fixed (correct_fixed_iff.2 hreads) (attempts + 1)
        unfold wallClock at hdelta
        simp only [hdelta, if_true]
        exact hstays.symm
      · have hnext := ih (guess - (wallClock rt timeZone guess - target))
        unfold wallClock at hdelta hnext
        simp only [hdelta, if_false]
        rw [hnext]
        rfl

lemma localMidnightUtc_eq (rt : FraudRuntime) (timeZone : String) (date : Date) :
    localMidnightUtc rt timeZone date =
      (correct (wallClock rt timeZone) (dateUTC date 0))^[8] (dateUTC date 0) :=
  correct_loop_eq rt timeZone (dateUTC date 0) 8 (dateUTC date 0)

/-- The text of a midnight UTC. -/
lemma toISOString_utcMidnight (date : Date) :
    toISOString (utcMidnight date) = dateText (utcMidnight date) ++ "T00:00:00.000Z" := by
  have hms : utcMidnight date % msPerDay = 0 := Int.mul_emod_left (dayNumber date) msPerDay
  have htime : "T" ++ padded 2 0 ++ ":" ++ padded 2 0 ++ ":" ++ padded 2 0 ++ "." ++
      padded 3 0 ++ "Z" = "T00:00:00.000Z" := by decide +kernel
  unfold toISOString dateText yearText
  simp only [split, hms, ← htime, String.append_assoc]
  rfl

lemma dateAtShopCityMidnight_eq {lists : ListingRuntime} {rt : FraudRuntime} {timeZone : String}
    (hclock : lists.localAsUtc timeZone = wallClock rt timeZone) {value : String} {target : Int}
    (hread : lists.instant (value ++ "T00:00:00.000Z") = some target) :
    dateAtShopCityMidnight lists value timeZone =
      .ok ((correct (wallClock rt timeZone) target)^[3] target) := by
  have hcorrect : ∀ t, t + (target - wallClock rt timeZone t) =
      correct (wallClock rt timeZone) target t := by
    intro t
    unfold correct
    omega
  unfold dateAtShopCityMidnight
  simp only [hread, hclock, hcorrect]
  rfl

lemma endOfReportDate_eq {reports : ReportRuntime} {rt : FraudRuntime} {timeZone : String}
    (hclock : reports.localDateTime timeZone = rt.localDateTime timeZone) (date : Date)
    (asOf : Int) : endOfReportDate reports date timeZone asOf =
      min (correct (wallClock rt timeZone) (dateUTC { date with day := date.day + 1 } 0)
        (dateUTC { date with day := date.day + 1 } 0) - 1) asOf := by
  unfold endOfReportDate correct wallClock
  simp only [hclock]
  split <;> omega

/-! ### Dates that are read as they are -/

lemma dateUTC_plain {date : Date} (h : PlainYear date) (ms : Int) :
    dateUTC date ms = utcMidnight date + ms := by
  unfold PlainYear at h
  unfold dateUTC
  simp only [if_neg h]
  rfl

lemma utcMidnight_nextDate (date : Date) :
    utcMidnight (nextDate date) = utcMidnight date + msPerDay := by
  unfold utcMidnight nextDate
  rw [dayNumber_dateOf]
  ring

lemma dateUTC_dayAfter {date : Date} (h : PlainYear date) :
    dateUTC { date with day := date.day + 1 } 0 = utcMidnight (nextDate date) := by
  have hday := dayNumber_day date
  have hnext := dayNumber_day { date with day := date.day + 1 }
  simp only at hnext
  have hplain : PlainYear { date with day := date.day + 1 } := h
  have hnumber : dayNumber { date with day := date.day + 1 } = dayNumber date + 1 := by omega
  rw [dateUTC_plain hplain, utcMidnight_nextDate, utcMidnight, utcMidnight, hnumber]
  ring

lemma branchDayWindow_eq {rt : FraudRuntime} {timeZone : String} {reference : Int}
    (h : PlainYear (rt.localDateTime timeZone reference).1) :
    branchDayWindow rt reference timeZone =
      (localMidnightUtc rt timeZone (rt.localDateTime timeZone reference).1,
        localMidnightUtc rt timeZone (nextDate (rt.localDateTime timeZone reference).1)) := by
  unfold branchDayWindow
  simp only [dateUTC_dayAfter h, utcMidnight_nextDate]
  have hnumber : (utcMidnight (rt.localDateTime timeZone reference).1 + msPerDay) / msPerDay =
      dayNumber (rt.localDateTime timeZone reference).1 + 1 := by
    unfold utcMidnight msPerDay
    omega
  simp only [split, hnumber, nextDate]

lemma year_le_nextDate {date : Date} (h : date.Valid) : date.year ≤ (nextDate date).year := by
  have hmono := monthOf_mono (show dayNumber date ≤ dayNumber date + 1 by omega)
  rw [dateOf_dayNumber h] at hmono
  have hmonth := (dateOf_valid (dayNumber date + 1)).month
  have hmonth' := h.month
  unfold monthOf at hmono
  unfold nextDate
  omega

/-! ### Years of the twentieth century -/

section zone

variable {rt : FraudRuntime} {timeZone : String} {offset : Int → Int}

lemma TimeZone.late_year (h : TimeZone rt timeZone offset) {t : Int}
    (ht : (dayNumber ⟨1900, 1, 1⟩ - 3) * msPerDay ≤ t) :
    99 < (rt.localDateTime timeZone t).1.year := by
  have hoffset := (h.bounded t).1
  have hnineteen : dayNumber ⟨1900, 1, 1⟩ = -25567 := by decide
  have hone : dayNumber ⟨100, 1, 1⟩ = -683003 := by decide
  have hlate := year_dateOf_lt_iff ((t + offset t) / msPerDay) 100
  rw [h.date]
  rw [hone] at hlate
  rw [hnineteen] at ht
  unfold msPerDay at *
  omega

lemma TimeZone.late_guess (h : TimeZone rt timeZone offset) {target : Int}
    (htarget : dayNumber ⟨1900, 1, 1⟩ * msPerDay ≤ target) (n : Nat) :
    target - 2 * msPerDay ≤ (correct (wallClock rt timeZone) target)^[n] target := by
  induction n with
  | zero =>
      unfold msPerDay
      simp
  | succ n ih =>
      rw [Function.iterate_succ_apply']
      generalize (correct (wallClock rt timeZone) target)^[n] target = guess at ih ⊢
      have hyear := h.late_year (t := guess) (by unfold msPerDay at *; omega)
      have hclock : wallClock rt timeZone guess = (guess + offset guess) / 1000 * 1000 :=
        h.dateUTC (by omega)
      have hoffset := (h.bounded guess).2
      rw [correct, hclock]
      unfold msPerDay at *
      omega

lemma TimeZone.localMidnightUtc_late (h : TimeZone rt timeZone offset) {date : Date}
    (hvalid : date.Valid) (hplain : ¬ PlainYear date) :
    (dayNumber ⟨1900, 1, 1⟩ - 2) * msPerDay ≤ localMidnightUtc rt timeZone date := by
  have htwo : 0 ≤ date.year ∧ date.year ≤ 99 := not_not.1 hplain
  have htarget : dayNumber ⟨1900, 1, 1⟩ * msPerDay ≤ ShopcityLoyalty.dateUTC date 0 := by
    have hlen := daysInMonth_bounds date.year date.month
    have hday := hvalid.day
    have hin := dayNumber_mem_year (y := 1900 + date.year) hvalid.month (d := date.day) (by omega)
    have hyear : dayNumber ⟨1900, 1, 1⟩ ≤ dayNumber ⟨1900 + date.year, 1, 1⟩ := by
      rcases htwo.1.eq_or_lt with hzero | hpos
      · rw [← hzero]
        exact le_rfl
      · exact (dayNumber_lt_of_year_lt (by omega)).le
    unfold ShopcityLoyalty.dateUTC
    simp only [if_pos htwo, join]
    unfold msPerDay
    omega
  have hguess := h.late_guess htarget 8
  rw [localMidnightUtc_eq]
  unfold msPerDay at *
  omega

/-- The window of an instant holds the instant, so its year is read as it is, and the next. -/
lemma TimeZone.plain_of_exact (h : TimeZone rt timeZone offset) {reference : Int}
    (hexact : ∀ t, ((branchDayWindow rt reference timeZone).1 ≤ t ∧
      t < (branchDayWindow rt reference timeZone).2) ↔
        (rt.localDateTime timeZone t).1 = (rt.localDateTime timeZone reference).1) :
    PlainYear (rt.localDateTime timeZone reference).1 ∧
      PlainYear (nextDate (rt.localDateTime timeZone reference).1) := by
  have hvalid : (rt.localDateTime timeZone reference).1.Valid := by
    rw [h.date]
    exact dateOf_valid _
  have hreference := (hexact reference).2 rfl
  have hplain : PlainYear (rt.localDateTime timeZone reference).1 := by
    by_contra hnot
    have hlate := h.localMidnightUtc_late hvalid hnot
    have hfirst := (hexact (branchDayWindow rt reference timeZone).1).1 (by omega)
    have hwindow : (branchDayWindow rt reference timeZone).1 =
        localMidnightUtc rt timeZone (rt.localDateTime timeZone reference).1 := rfl
    have hyear := h.late_year (t := (branchDayWindow rt reference timeZone).1) (by
      rw [hwindow]
      unfold msPerDay at *
      omega)
    rw [hfirst] at hyear
    exact hnot fun htwo => by omega
  refine ⟨hplain, ?_⟩
  by_contra hnot
  have hlate := h.localMidnightUtc_late (dateOf_valid _) hnot
  have hwindow : (branchDayWindow rt reference timeZone).2 =
      localMidnightUtc rt timeZone (nextDate (rt.localDateTime timeZone reference).1) := by
    rw [branchDayWindow_eq hplain]
  have hlast := (hexact ((branchDayWindow rt reference timeZone).2 - 1)).1 (by omega)
  have hyear := h.late_year (t := (branchDayWindow rt reference timeZone).2 - 1) (by
    rw [hwindow]
    unfold nextDate msPerDay at *
    omega)
  rw [hlast] at hyear
  have hmono := year_le_nextDate hvalid
  exact hnot fun htwo => by omega

end zone

/-! ### Where the loops stop -/

section loops

variable {rt : FraudRuntime} {timeZone : String} {date : Date} {first next : Int}

lemma wallClock_midnight (hplain : PlainYear date)
    (hreads : rt.localDateTime timeZone first = (date, 0)) :
    wallClock rt timeZone first = utcMidnight date := by
  unfold wallClock
  rw [hreads, dateUTC_plain hplain, add_zero]

/-- Three corrections reach the start of a day exactly when its offset is found on the way. -/
lemma startReached_iff (h : wallClock rt timeZone first = utcMidnight date) :
    (correct (wallClock rt timeZone) (utcMidnight date))^[3] (utcMidnight date) = first ↔
      ahead (wallClock rt timeZone) (utcMidnight date) = ahead (wallClock rt timeZone) first ∨
      ahead (wallClock rt timeZone)
        (utcMidnight date - ahead (wallClock rt timeZone) (utcMidnight date)) =
          ahead (wallClock rt timeZone) first ∨
      ahead (wallClock rt timeZone) (utcMidnight date - ahead (wallClock rt timeZone)
        (utcMidnight date - ahead (wallClock rt timeZone) (utcMidnight date))) =
          ahead (wallClock rt timeZone) first := by
  have hone : (correct (wallClock rt timeZone) (utcMidnight date))^[1] (utcMidnight date) =
      utcMidnight date - ahead (wallClock rt timeZone) (utcMidnight date) := correct_eq _ _ _
  have htwo : (correct (wallClock rt timeZone) (utcMidnight date))^[2] (utcMidnight date) =
      utcMidnight date - ahead (wallClock rt timeZone)
        (utcMidnight date - ahead (wallClock rt timeZone) (utcMidnight date)) := by
    rw [Function.iterate_succ_apply', hone]
    exact correct_eq _ _ _
  rw [iterate_correct_iff h (utcMidnight date) 2]
  constructor
  · intro ⟨k, hk, hahead⟩
    have hcases : k = 0 ∨ k = 1 ∨ k = 2 := by omega
    rcases hcases with rfl | rfl | rfl
    · exact .inl hahead
    · rw [hone] at hahead
      exact .inr (.inl hahead)
    · rw [htwo] at hahead
      exact .inr (.inr hahead)
  · intro hahead
    rcases hahead with hahead | hahead | hahead
    · exact ⟨0, by omega, hahead⟩
    · exact ⟨1, by omega, by rw [hone]; exact hahead⟩
    · exact ⟨2, by omega, by rw [htwo]; exact hahead⟩

lemma SettledDay.window {reference : Int}
    (h : SettledDay rt timeZone (rt.localDateTime timeZone reference).1 first next) :
    branchDayWindow rt reference timeZone = (first, next) := by
  have hstart := wallClock_midnight h.plain h.starts
  have hend := wallClock_midnight h.plainNext h.ends
  have hfirst := iterate_of_reached hstart (n := 8) (by omega)
    ((startReached_iff hstart).2 h.startOffset)
  have hnext := iterate_of_reached hend (k := 1) (n := 8) (by omega)
    ((correct_eq_iff hend _).2 h.endOffset)
  rw [branchDayWindow_eq h.plain, localMidnightUtc_eq, localMidnightUtc_eq,
    dateUTC_plain h.plain, dateUTC_plain h.plainNext, add_zero, add_zero, hfirst, hnext]

/-- Where the offset stays in force a day before and after, the day is settled. -/
lemma SettledDay.of_steady {offset : Int → Int} (h : TimeZone rt timeZone offset)
    (hvalid : date.Valid) (hyear : 1900 ≤ date.year) {o : Int} (hwhole : 1000 ∣ o)
    (hsteady : ∀ t, utcMidnight date - msPerDay ≤ t → t ≤ utcMidnight (nextDate date) + msPerDay →
      offset t = o) :
    SettledDay rt timeZone date (utcMidnight date - o) (utcMidnight (nextDate date) - o) := by
  have hplain : PlainYear date := fun htwo => by omega
  have hplainNext : PlainYear (nextDate date) := by
    have hmono := year_le_nextDate hvalid
    exact fun htwo => by omega
  have hnext := utcMidnight_nextDate date
  have hsmall : -msPerDay < o ∧ o < msPerDay := by
    have hoffset := h.bounded (utcMidnight date)
    rwa [hsteady _ (by unfold msPerDay; omega) (by unfold msPerDay at *; omega)] at hoffset
  have hlate : dayNumber ⟨1900, 1, 1⟩ * msPerDay ≤ utcMidnight date := by
    have hday := year_dateOf_lt_iff (dayNumber date) 1900
    rw [dateOf_dayNumber hvalid] at hday
    unfold utcMidnight msPerDay
    omega
  -- what the clock reads within the steady days
  have hclock : ∀ t, utcMidnight date - msPerDay ≤ t →
      t ≤ utcMidnight (nextDate date) + msPerDay → t % 1000 = 0 →
      ahead (wallClock rt timeZone) t = o := by
    intro t hfrom hto hsecond
    have hlocal := h.late_year (t := t) (by unfold msPerDay at *; omega)
    have hreads : wallClock rt timeZone t = (t + offset t) / 1000 * 1000 := h.dateUTC (by omega)
    rw [ahead, hreads, hsteady t hfrom hto]
    omega
  have hmidnight : ∀ d : Date, utcMidnight date ≤ utcMidnight d →
      utcMidnight d ≤ utcMidnight (nextDate date) → d.Valid →
      rt.localDateTime timeZone (utcMidnight d - o) = (d, 0) := by
    intro d hfrom hto hd
    have hback : (utcMidnight d - o + o) / 1000 * 1000 = utcMidnight d := by
      unfold utcMidnight msPerDay
      omega
    rw [h.fields, hsteady _ (by omega) (by omega), hback]
    unfold split utcMidnight
    rw [Int.mul_emod_left, Int.mul_ediv_cancel _ (by decide), dateOf_dayNumber hd]
  have hsecond : utcMidnight date % 1000 = 0 := by
    unfold utcMidnight msPerDay
    omega
  refine ⟨fun t => ?_, hmidnight date le_rfl (by unfold msPerDay at *; omega) hvalid,
    hmidnight (nextDate date) (by unfold msPerDay at *; omega) le_rfl (dateOf_valid _), hplain,
    hplainNext, .inl ?_, ?_⟩
  · have hsame : (rt.localDateTime timeZone t).1 = date ↔
        (t + offset t) / msPerDay = dayNumber date := by
      rw [h.date]
      constructor
      · intro hdate
        rw [← hdate, dayNumber_dateOf]
      · intro hnumber
        rw [hnumber, dateOf_dayNumber hvalid]
    have hoffset := h.bounded t
    rw [hsame]
    by_cases hin : utcMidnight date - msPerDay ≤ t ∧ t ≤ utcMidnight (nextDate date) + msPerDay
    · rw [hsteady t hin.1 hin.2]
      unfold utcMidnight msPerDay at *
      omega
    · unfold utcMidnight msPerDay at *
      omega
  · rw [hclock _ (by unfold msPerDay; omega) (by unfold msPerDay at *; omega) hsecond,
      hclock _ (by omega) (by unfold msPerDay at *; omega) (by omega)]
  · rw [hclock _ (by unfold msPerDay at *; omega) (by unfold msPerDay; omega)
        (by unfold msPerDay at *; omega),
      hclock _ (by unfold msPerDay at *; omega) (by omega) (by unfold msPerDay at *; omega)]

end loops

/-- **The bounds of a local day** are exact, and the services agree on them, exactly when the day
goes from midnight to midnight and few corrections find the offsets of both. -/
theorem day_boundaries_iff {jobs : FraudRuntime} {reports : ReportRuntime}
    {lists : ListingRuntime} {timeZone : String} {offset : Int → Int}
    (h : SharedZone jobs reports lists timeZone offset) (reference : Int)
    (hread : lists.instant (toISOString (utcMidnight (jobs.localDateTime timeZone reference).1)) =
      some (utcMidnight (jobs.localDateTime timeZone reference).1)) :
    DayBoundaries jobs reports lists timeZone reference ↔ ∃ first next,
      SettledDay jobs timeZone (jobs.localDateTime timeZone reference).1 first next := by
  rw [toISOString_utcMidnight] at hread
  have hmidnight := dateAtShopCityMidnight_eq h.listClock hread
  constructor
  · intro hdays
    obtain ⟨hplain, hplainNext⟩ := h.zone.plain_of_exact hdays.exact
    have hstart := wallClock_midnight hplain hdays.converged.1
    have hend := wallClock_midnight hplainNext hdays.converged.2
    refine ⟨(branchDayWindow jobs reference timeZone).1,
      (branchDayWindow jobs reference timeZone).2, hdays.exact, hdays.converged.1,
      hdays.converged.2, hplain, hplainNext, ?_, ?_⟩
    · refine (startReached_iff hstart).1 ?_
      have hagree := hdays.midnight
      rw [hmidnight] at hagree
      exact Except.ok.inj hagree
    · refine (correct_eq_iff hend _).1 ?_
      have hagree := hdays.dayEnd (branchDayWindow jobs reference timeZone).2
      rw [endOfReportDate_eq h.reportClock, dateUTC_dayAfter hplain] at hagree
      omega
  · intro ⟨first, next, hday⟩
    have hstart := wallClock_midnight hday.plain hday.starts
    have hend := wallClock_midnight hday.plainNext hday.ends
    have hwindow := hday.window
    refine ⟨?_, ?_, ?_, ?_⟩
    · rw [hwindow]
      exact hday.day
    · rw [hmidnight, hwindow, (startReached_iff hstart).2 hday.startOffset]
    · intro asOf
      rw [endOfReportDate_eq h.reportClock, dateUTC_dayAfter hday.plain, hwindow,
        (correct_eq_iff hend _).2 hday.endOffset]
    · rw [hwindow]
      exact ⟨hday.starts, hday.ends⟩

namespace Shop

/-! ### Zones -/

def jobsIn (offset : Int → Int) : FraudRuntime :=
  { fraudRuntime with localDateTime := fun _ t => split ((t + offset t) / 1000 * 1000) }

def reportsIn (offset : Int → Int) : ReportRuntime :=
  ⟨none, fun _ t => split ((t + offset t) / 1000 * 1000)⟩

/-- The lists, as far as one instant is read from a text. -/
def listsIn (offset : Int → Int) (t : Int) : ListingRuntime :=
  { listing with
    instant := fun text => if text = toISOString t then some t else none
    localAsUtc := wallClock (jobsIn offset) }

lemma sharedZone {offset : Int → Int} (h : ∀ t, -msPerDay < offset t ∧ offset t < msPerDay)
    (t : Int) (timeZone : String) :
    SharedZone (jobsIn offset) (reportsIn offset) (listsIn offset t) timeZone offset where
  zone := ⟨h, fun _ => rfl⟩
  reportClock := rfl
  listClock := rfl

/-- Auckland, where the clocks go forward at two in the morning of 27 September 2026. -/
def auckland (t : Int) : Int := if t < 1790431200000 then 43200000 else 46800000

end Shop

/-- The day of the night in Lagos. -/
theorem day_boundaries_lagos :
    DayBoundaries (Shop.jobsIn fun _ => 3600000) (Shop.reportsIn fun _ => 3600000)
      (Shop.listsIn (fun _ => 3600000) 1699920000000) "Africa/Lagos" Shop.night := by
  have hzone : SharedZone (Shop.jobsIn fun _ => 3600000) (Shop.reportsIn fun _ => 3600000)
      (Shop.listsIn (fun _ => 3600000) 1699920000000) "Africa/Lagos" fun _ => 3600000 :=
    Shop.sharedZone (fun _ => by decide) _ _
  have hday := SettledDay.of_steady hzone.zone
    (show (⟨2023, 11, 14⟩ : Date).Valid from ⟨by decide, by decide⟩) (by decide) (o := 3600000)
    (by decide) fun _ _ _ => rfl
  have hdate : ((Shop.jobsIn fun _ => 3600000).localDateTime "Africa/Lagos" Shop.night).1 =
      ⟨2023, 11, 14⟩ := by decide +kernel
  rw [← hdate] at hday
  exact (day_boundaries_iff hzone Shop.night (by decide +kernel)).2 ⟨_, _, hday⟩

/-- In Auckland a report takes the 26th of September to end an hour early, as the clocks go forward
between the day's end and the midnight UTC after it. -/
theorem day_end_an_hour_early :
    SharedZone (Shop.jobsIn Shop.auckland) (Shop.reportsIn Shop.auckland)
      (Shop.listsIn Shop.auckland 1790380800000) "Pacific/Auckland" Shop.auckland ∧
    (Shop.listsIn Shop.auckland 1790380800000).instant
      (toISOString (utcMidnight ⟨2026, 9, 26⟩)) = some (utcMidnight ⟨2026, 9, 26⟩) ∧
    (Shop.jobsIn Shop.auckland).localDateTime "Pacific/Auckland" 1790380800000 =
      (⟨2026, 9, 26⟩, 43200000) ∧
    endOfReportDate (Shop.reportsIn Shop.auckland) ⟨2026, 9, 26⟩ "Pacific/Auckland" 1790467200000 +
        3600000 =
      (branchDayWindow (Shop.jobsIn Shop.auckland) 1790380800000 "Pacific/Auckland").2 - 1 ∧
    ¬ DayBoundaries (Shop.jobsIn Shop.auckland) (Shop.reportsIn Shop.auckland)
      (Shop.listsIn Shop.auckland 1790380800000) "Pacific/Auckland" 1790380800000 := by
  have hbounded : ∀ t, -msPerDay < Shop.auckland t ∧ Shop.auckland t < msPerDay := by
    intro t
    unfold Shop.auckland msPerDay
    split <;> omega
  refine ⟨Shop.sharedZone hbounded _ _, by decide +kernel, by decide +kernel, by decide +kernel, ?_⟩
  intro hdays
  have hend := hdays.dayEnd 1790467200000
  revert hend
  decide +kernel

end ShopcityLoyalty
