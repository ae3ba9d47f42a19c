import ShopcityLoyalty.FefoAllocation
import ShopcityLoyalty.FraudEvaluation
import ShopcityLoyalty.Lib.Months

/-!
The monthly earn of a cashier's customer: `branchMonthWindow`, and the aggregate over it.

The window is bounded by the local midnights of two days in the middle of a month, found as the
windows of days are. So it never is a calendar month, in no time zone.
-/

namespace ShopcityLoyalty

open Calendar FraudBehaviorRuntime

namespace ReportsService

/-- `branchMonthWindow`. -/
def branchMonthWindow (rt : FraudRuntime) (reference : Int) (timeZone : String) : Int × Int :=
  let (date, _) := rt.localDateTime timeZone reference
  let monthStart := (branchDayWindow rt (dateUTC ⟨date.year, date.month, 15⟩ 0) timeZone).1
  let nextMonthStart := (branchDayWindow rt (dateUTC ⟨date.year, date.month + 1, 15⟩ 0) timeZone).1
  (monthStart, nextMonthStart)

/-- The `EARN` credits of a customer of the branch, effective at an instant of a set. -/
def earnEntries (db : Database) (tenantId customerId branchId : String) (p : Int → Bool) :
    List LoyaltyLedgerEntry :=
  if (db.registry.customers customerId).any fun c => c.branchId = branchId then
    db.ledger.filter fun e => e.tenantId = tenantId ∧ e.customerId = customerId ∧
      e.type = .EARN ∧ e.direction = .CREDIT ∧ p e.effectiveAt
  else []

/-- `_sum.amountKobo` over these credits, which is null where there is none. -/
def earnSumKobo (db : Database) (tenantId customerId branchId : String) (p : Int → Bool) :
    Option Int :=
  let entries := earnEntries db tenantId customerId branchId p
  if entries.isEmpty then none else some (entries.map fun e => (e.amountKobo : Int)).sum

/-- `monthlyEarnKobo` of `listCashierToday`: null without a customer, and where the aggregate
is null or its query fails. -/
def monthlyEarnKobo (rt : FraudRuntime) (db : Database) (tenantId : String)
    (customerId : Option String) (branchId timeZone : String) (reference : Int)
    (failed : Bool) : Option Int :=
  let window := branchMonthWindow rt reference timeZone
  if failed then none
  else (customerId.filter (· ≠ "")).bind fun customerId =>
    (earnSumKobo db tenantId customerId branchId fun t => window.1 ≤ t && t < window.2).filter
      (0 ≤ ·)

end ReportsService

open ReportsService

/-! ### What the window is to be -/

/-- A time zone: its offsets stay below a day, and the fields of an instant are those of its local
time in whole seconds. -/
structure TimeZone (rt : FraudRuntime) (timeZone : String) (offset : Int → Int) : Prop where
  bounded : ∀ t, -msPerDay < offset t ∧ offset t < msPerDay
  fields : ∀ t, rt.localDateTime timeZone t = split ((t + offset t) / 1000 * 1000)

/-- The local year and month of an instant. -/
def localMonth (rt : FraudRuntime) (timeZone : String) (t : Int) : Int × Int :=
  ((rt.localDateTime timeZone t).1.year, (rt.localDateTime timeZone t).1.month)

/-- The window of an instant is its calendar month, the windows of months one after another leave
no gap, and the aggregate is the month's credit. -/
structure MonthWindow (rt : FraudRuntime) (timeZone : String) (reference : Int) : Prop where
  exact : ∀ t, ((branchMonthWindow rt reference timeZone).1 ≤ t ∧
    t < (branchMonthWindow rt reference timeZone).2) ↔
      localMonth rt timeZone t = localMonth rt timeZone reference
  tiles : ∀ next, monthOf (rt.localDateTime timeZone next).1 =
      monthOf (rt.localDateTime timeZone reference).1 + 1 →
    (branchMonthWindow rt reference timeZone).2 = (branchMonthWindow rt next timeZone).1
  sums : ∀ db tenantId customerId branchId, customerId ≠ "" →
    monthlyEarnKobo rt db tenantId (some customerId) branchId timeZone reference false =
      earnSumKobo db tenantId customerId branchId fun t =>
        localMonth rt timeZone t = localMonth rt timeZone reference

/-! ### Days near the middle of a month -/

lemma dateOf_near {y m d e : Int} (hm : 1 ≤ m ∧ m ≤ 12) (h : 1 ≤ d + e ∧ d + e ≤ 28) :
    dateOf (dayNumber ⟨y, m, d⟩ + e) = ⟨y, m, d + e⟩ := by
  have hlen := daysInMonth_bounds y m
  have hvalid : Date.Valid ⟨y, m, d + e⟩ := ⟨hm, by simp only; omega⟩
  have hday := dayNumber_day ⟨y, m, d⟩
  have hday' := dayNumber_day ⟨y, m, d + e⟩
  simp only at hday hday'
  have hsame : dayNumber ⟨y, m, d⟩ + e = dayNumber ⟨y, m, d + e⟩ := by omega
  rw [hsame, dateOf_dayNumber hvalid]

section zone

variable {rt : FraudRuntime} {timeZone : String} {offset : Int → Int}

lemma TimeZone.date (h : TimeZone rt timeZone offset) (t : Int) :
    (rt.localDateTime timeZone t).1 = dateOf ((t + offset t) / msPerDay) := by
  have hfloor : (t + offset t) / 1000 * 1000 / msPerDay = (t + offset t) / msPerDay := by
    unfold msPerDay
    omega
  rw [h.fields, split, hfloor]

lemma TimeZone.dateUTC (h : TimeZone rt timeZone offset) {t : Int}
    (hyear : ¬ (0 ≤ (rt.localDateTime timeZone t).1.year ∧
      (rt.localDateTime timeZone t).1.year ≤ 99)) :
    ShopcityLoyalty.dateUTC (rt.localDateTime timeZone t).1 (rt.localDateTime timeZone t).2 =
      (t + offset t) / 1000 * 1000 := by
  unfold ShopcityLoyalty.dateUTC
  simp only [if_neg hyear]
  rw [h.fields]
  change join (dateOf ((t + offset t) / 1000 * 1000 / msPerDay))
    ((t + offset t) / 1000 * 1000 % msPerDay) = _
  rw [join, dayNumber_dateOf]
  unfold msPerDay
  omega

/-- Each guess of a midnight stays within two days of the date, in the middle of a month whose
year is read as it is. -/
lemma TimeZone.correct_bounds (h : TimeZone rt timeZone offset) {y m d : Int}
    (hy : ¬ (0 ≤ y ∧ y ≤ 99)) (hm : 1 ≤ m ∧ m ≤ 12) (hd : 10 ≤ d ∧ d ≤ 20) (attempts : Nat) :
    ∀ guess : Int, |guess - dayNumber ⟨y, m, d⟩ * msPerDay| ≤ 2 * msPerDay →
      |localMidnightUtc.correct rt timeZone (dayNumber ⟨y, m, d⟩ * msPerDay) attempts guess -
        dayNumber ⟨y, m, d⟩ * msPerDay| ≤ 2 * msPerDay := by
  induction attempts with
  | zero => exact fun guess hguess => hguess
  | succ attempts ih =>
      intro guess hguess
      have hoffset := h.bounded guess
      -- the local day of the guess
      have hdate : ∃ e, -4 ≤ e ∧ e ≤ 4 ∧
          (rt.localDateTime timeZone guess).1 = ⟨y, m, d + e⟩ := by
        refine ⟨(guess + offset guess) / msPerDay - dayNumber ⟨y, m, d⟩, ?_, ?_, ?_⟩
        · rw [abs_le] at hguess
          unfold msPerDay at *
          omega
        · rw [abs_le] at hguess
          unfold msPerDay at *
          omega
        · rw [h.date, ← dateOf_near hm]
          · congr 1
            omega
          · rw [abs_le] at hguess
            unfold msPerDay at *
            omega
      obtain ⟨e, -, -, hlocal⟩ := hdate
      have hutc := h.dateUTC (by rw [hlocal]; exact hy)
      unfold localMidnightUtc.correct
      simp only [hutc]
      split
      · exact hguess
      · refine ih _ ?_
        rw [abs_le] at *
        unfold msPerDay at *
        omega

/-- The window of a day in the middle of a month starts near it. -/
lemma TimeZone.branchDayWindow_start (h : TimeZone rt timeZone offset) {y m : Int}
    (hy : ¬ (0 ≤ y ∧ y ≤ 99)) (hm : 1 ≤ m ∧ m ≤ 12) :
    (dayNumber ⟨y, m, 15⟩ - 3) * msPerDay ≤
      (branchDayWindow rt (dayNumber ⟨y, m, 15⟩ * msPerDay) timeZone).1 := by
  set middle := dayNumber ⟨y, m, 15⟩ with hmiddle
  have hoffset := h.bounded (middle * msPerDay)
  -- the local date is the 15th or the day before
  have hdate : (rt.localDateTime timeZone (middle * msPerDay)).1 =
      ⟨y, m, 15 + ((middle * msPerDay + offset (middle * msPerDay)) / msPerDay - middle)⟩ := by
    rw [h.date, ← dateOf_near hm]
    · congr 1
      omega
    · unfold msPerDay at *
      omega
  generalize he : (middle * msPerDay + offset (middle * msPerDay)) / msPerDay - middle = e at hdate
  have hrange : -1 ≤ e ∧ e ≤ 0 := by
    unfold msPerDay at *
    omega
  have hday : dayNumber ⟨y, m, 15 + e⟩ = middle + e := by
    have hday' := dayNumber_day ⟨y, m, 15⟩
    have hday'' := dayNumber_day ⟨y, m, 15 + e⟩
    simp only at hday' hday''
    omega
  have hmidnight : localMidnightUtc rt timeZone ⟨y, m, 15 + e⟩ =
      localMidnightUtc.correct rt timeZone (dayNumber ⟨y, m, 15 + e⟩ * msPerDay) 8
        (dayNumber ⟨y, m, 15 + e⟩ * msPerDay) := by
    unfold localMidnightUtc ShopcityLoyalty.dateUTC
    simp only [if_neg hy, join, add_zero]
  have hbounds := h.correct_bounds (d := 15 + e) hy hm (by omega) 8
    (dayNumber ⟨y, m, 15 + e⟩ * msPerDay) (by simp [msPerDay])
  unfold branchDayWindow
  simp only [hdate, hmidnight]
  rw [abs_le, hday] at hbounds
  rw [hday]
  unfold msPerDay at *
  omega

/-! ### Never a month -/

lemma TimeZone.localMonth_fifth (h : TimeZone rt timeZone offset) {y m : Int}
    (hm : 1 ≤ m ∧ m ≤ 12) : localMonth rt timeZone (dayNumber ⟨y, m, 5⟩ * msPerDay) = (y, m) := by
  have hoffset := h.bounded (dayNumber ⟨y, m, 5⟩ * msPerDay)
  have hdate : (rt.localDateTime timeZone (dayNumber ⟨y, m, 5⟩ * msPerDay)).1 =
      ⟨y, m, 5 + ((dayNumber ⟨y, m, 5⟩ * msPerDay +
        offset (dayNumber ⟨y, m, 5⟩ * msPerDay)) / msPerDay - dayNumber ⟨y, m, 5⟩)⟩ := by
    rw [h.date, ← dateOf_near hm]
    · congr 1
      omega
    · unfold msPerDay at *
      omega
  simp [localMonth, hdate]

/-- **Never the calendar month**: the fifth of a month lies before the window of the month. -/
theorem monthWindow_never (h : TimeZone rt timeZone offset) (reference : Int) :
    ¬ MonthWindow rt timeZone reference := by
  intro hwindow
  have hm : 1 ≤ (rt.localDateTime timeZone reference).1.month ∧
      (rt.localDateTime timeZone reference).1.month ≤ 12 := by
    rw [h.date]
    exact (dateOf_valid _).month
  generalize hy : (rt.localDateTime timeZone reference).1.year = y
  generalize hmonth : (rt.localDateTime timeZone reference).1.month = m at hm
  have hreference : localMonth rt timeZone reference = (y, m) := by
    simp [localMonth, hy, hmonth]
  -- the year as `Date.UTC` reads it is no earlier
  obtain ⟨z, hz, hyz, hread⟩ : ∃ z, ¬ (0 ≤ z ∧ z ≤ 99) ∧ y ≤ z ∧
      dateUTC ⟨y, m, 15⟩ 0 = dayNumber ⟨z, m, 15⟩ * msPerDay := by
    unfold ShopcityLoyalty.dateUTC
    by_cases htwo : 0 ≤ y ∧ y ≤ 99
    · refine ⟨1900 + y, by omega, by omega, ?_⟩
      simp only [if_pos htwo, join, add_zero]
    · refine ⟨y, htwo, le_rfl, ?_⟩
      simp only [if_neg htwo, join, add_zero]
  have hstart : (branchMonthWindow rt reference timeZone).1 =
      (branchDayWindow rt (dayNumber ⟨z, m, 15⟩ * msPerDay) timeZone).1 := by
    unfold branchMonthWindow
    simp only [hy, hmonth, hread]
  have hlower := h.branchDayWindow_start hz hm
  have hin := (hwindow.exact (dayNumber ⟨y, m, 5⟩ * msPerDay)).2
    ((h.localMonth_fifth hm).trans hreference.symm)
  rw [hstart] at hin
  have hearlier : dayNumber ⟨y, m, 15⟩ ≤ dayNumber ⟨z, m, 15⟩ := by
    rcases hyz.eq_or_lt with rfl | hlt
    · exact le_rfl
    · exact (dayNumber_lt_of_year_lt hlt).le
  have hfifth := dayNumber_day ⟨y, m, 5⟩
  have hfifteenth := dayNumber_day ⟨y, m, 15⟩
  simp only at hfifth hfifteenth
  unfold msPerDay at *
  omega

end zone

namespace Shop

/-- A runtime in Lagos, an hour before UTC. -/
def lagosRuntime : FraudRuntime :=
  { fraudRuntime with localDateTime := fun _ t => split ((t + 3600000) / 1000 * 1000) }

lemma lagos_timeZone : TimeZone lagosRuntime "Africa/Lagos" fun _ => 3600000 where
  bounded _ := by decide
  fields _ := rfl

end Shop

/-- The month of the night. -/
theorem monthWindow_never_lagos : ¬ MonthWindow Shop.lagosRuntime "Africa/Lagos" Shop.night :=
  monthWindow_never Shop.lagos_timeZone Shop.night

/-- Two purchases on the 14th are not in the monthly earn of their month. -/
theorem monthly_earn_missed : ∃ t : System,
    Shop.opened.runAll Shop.runtime Shop.twoPurchases = .ok t ∧
      monthlyEarnKobo Shop.lagosRuntime t.db "tenant" (some "customer") "branch" "Africa/Lagos"
        Shop.night false = none ∧
      (earnSumKobo t.db "tenant" "customer" "branch" fun x =>
        localMonth Shop.lagosRuntime "Africa/Lagos" x =
          localMonth Shop.lagosRuntime "Africa/Lagos" Shop.night) = some 360000 := by
  obtain ⟨t, hrun, -⟩ := Reachable.of_runAll Shop.runtime Shop.registry Shop.twoPurchases
    (by decide +kernel) (by simp [Shop.twoPurchases, Shop.earn, Op.Admissible])
  have hkobo : (monthlyEarnKobo Shop.lagosRuntime t.db "tenant" (some "customer") "branch"
      "Africa/Lagos" Shop.night false, earnSumKobo t.db "tenant" "customer" "branch" fun x =>
        localMonth Shop.lagosRuntime "Africa/Lagos" x =
          localMonth Shop.lagosRuntime "Africa/Lagos" Shop.night) = (none, some 360000) :=
    System.of_runAll_map hrun (f := fun t => (monthlyEarnKobo Shop.lagosRuntime t.db "tenant"
      (some "customer") "branch" "Africa/Lagos" Shop.night false,
        earnSumKobo t.db "tenant" "customer" "branch" fun x =>
          localMonth Shop.lagosRuntime "Africa/Lagos" x =
            localMonth Shop.lagosRuntime "Africa/Lagos" Shop.night)) (by decide +kernel)
  obtain ⟨hmonthly, hearned⟩ := Prod.mk.inj hkobo
  exact ⟨t, hrun, hmonthly, hearned⟩

end ShopcityLoyalty
