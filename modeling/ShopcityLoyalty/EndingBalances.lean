import ShopcityLoyalty.LiabilityPartition
import ShopcityLoyalty.LocalDays

/-!
The ending balance of the redemption summaries and the outstanding liability of the daily
financial summaries.

Both are what the lots of a scope held at the end of a date. The one summary ends its date at
midnight UTC, the other at local midnight and not after the report's own instant. They agree
where what is dated between the two ends comes to nothing.
-/

namespace ShopcityLoyalty

open ReportMaterializerService

section shown

variable (rt : ReportRuntime) (source : SourceData) (scope : ScopeDefinition) (asOf : Int)

/-- On each date that has both rows, the one shows the balance that the other shows. -/
def EndingBalancesAgree : Prop :=
  ∀ summary ∈ buildRedemptionSummaries rt source scope asOf,
    ∀ daily ∈ buildDailyFinancialSummaries rt source scope asOf,
      daily.reportDate = summary.reportDate →
        summary.endingBalanceKobo = daily.outstandingLiabilityKobo

/-- The end of a date in the redemption summaries. -/
def utcDateEnd (reportDate : Calendar.Date) : Int := toDate reportDate + Calendar.msPerDay - 1

/-- What the rows of some dates add to a lot, less what they take from it. -/
def rowsKobo (dated : Int → Bool) (lotId : Nat) : Int :=
  sumOn (·.id) (·.originalAmountKobo) (source.creditLots.filter fun lot => dated lot.earnedAt) lotId
    - sumOn (·.creditLotId) (·.amountKobo)
        (source.redemptionAllocations.filter fun allocation => dated allocation.createdAt) lotId
    + sumOn (fun restoration => allocationLot source restoration.allocationId) (·.amountKobo)
        (source.allocationRestorations.filter fun restoration => dated restoration.createdAt)
        (some lotId)
    - sumOn (·.creditLotId) (·.amountKobo)
        (source.creditExpiries.filter fun expiry => dated expiry.expiredAt) lotId

/-- What the rows dated after one instant and up to a later one make of a lot's balance: a lot
that runs out between the two loses what it had, and no lot has less than nothing. -/
def changeKobo (start stop : Int) (lot : CreditLotRecord) : Int :=
  let before := rowsKobo source (fun date => date ≤ start) lot.id
  let between := rowsKobo source (fun date => start < date ∧ date ≤ stop) lot.id
  if lot.expiresAt ≤ start then 0
  else if lot.expiresAt ≤ stop then -max 0 before
  else max 0 (before + between) - max 0 before

/-- What is dated between two instants comes to nothing over the lots of a scope. -/
def ComesToNothing (scope : ReportScope) (start stop : Int) : Prop :=
  ((filterLotsForScope source.creditLots source scope).map (changeKobo source start stop)).sum = 0

instance (scope : ReportScope) (start stop : Int) :
    Decidable (ComesToNothing source scope start stop) :=
  inferInstanceAs (Decidable (_ = _))

end shown

/-! ### Rows up to an instant -/

variable {rt : ReportRuntime} {source : SourceData} {scope : ScopeDefinition}
    {asOf start stop : Int}

/-- The rows up to the later instant are those up to the earlier one and those between. -/
lemma sumOn_dated {α κ : Type} [DecidableEq κ] {key : α → κ} {value : α → Int} {date : α → Int}
    (l : List α) (hle : start ≤ stop) (k : κ) :
    sumOn key value (l.filter fun a => date a ≤ stop) k =
      sumOn key value (l.filter fun a => date a ≤ start) k +
        sumOn key value (l.filter fun a => decide (start < date a ∧ date a ≤ stop)) k := by
  induction l with
  | nil => simp
  | cons a l ih =>
      have hstop : date a ≤ start → date a ≤ stop := fun h => h.trans hle
      by_cases hbefore : date a ≤ start
      · have hnot : ¬ (start < date a ∧ date a ≤ stop) := fun h => absurd hbefore (not_le.2 h.1)
        rw [List.filter_cons_of_pos (by simpa using hstop hbefore),
          List.filter_cons_of_pos (by simpa using hbefore),
          List.filter_cons_of_neg (by simpa using hnot), sumOn_cons, sumOn_cons, ih]
        omega
      · by_cases hbetween : date a ≤ stop
        · rw [List.filter_cons_of_pos (by simpa using hbetween),
            List.filter_cons_of_neg (by simpa using hbefore),
            List.filter_cons_of_pos (by simpa using ⟨not_le.1 hbefore, hbetween⟩), sumOn_cons,
            sumOn_cons, ih]
          omega
        · rw [List.filter_cons_of_neg (by simpa using hbetween),
            List.filter_cons_of_neg (by simpa using hbefore),
            List.filter_cons_of_neg (by simp [hbetween]), ih]

lemma rowsKobo_add (hle : start ≤ stop) (lotId : Nat) :
    rowsKobo source (fun date => date ≤ stop) lotId =
      rowsKobo source (fun date => date ≤ start) lotId +
        rowsKobo source (fun date => start < date ∧ date ≤ stop) lotId := by
  unfold rowsKobo
  beta_reduce
  rw [sumOn_dated source.creditLots hle, sumOn_dated source.redemptionAllocations hle,
    sumOn_dated source.allocationRestorations hle, sumOn_dated source.creditExpiries hle]
  omega

/-- One lot has an id. -/
lemma sumOn_find? {α κ : Type} [DecidableEq κ] {key : α → κ} {value : α → Int} {l : List α}
    (hn : (l.map key).Nodup) (p : α → Bool) (k : κ) :
    sumOn key value (l.filter p) k = ((l.find? fun a => key a = k ∧ p a).map value).getD 0 := by
  induction l with
  | nil => simp
  | cons a l ih =>
      obtain ⟨hnot, hrest⟩ := List.nodup_cons.1 hn
      have hih := ih hrest
      by_cases hk : key a = k
      · have hnone : sumOn key value (l.filter p) k = 0 := by
          unfold sumOn groupOn
          rw [List.filter_filter, List.filter_eq_nil_iff.2]
          · rfl
          · intro b hb hkb
            have hkb : key b = k := by simpa using (Bool.and_eq_true_iff.1 hkb).1
            exact hnot (hk.trans hkb.symm ▸ List.mem_map_of_mem hb)
        by_cases hp : p a = true
        · simp [hp, hk, sumOn_cons, hnone]
        · have hfind : l.find? (fun a => decide (key a = k ∧ p a)) = none := by
            rw [List.find?_eq_none]
            intro b hb hkb
            have hkb : key b = k := (of_decide_eq_true hkb).1
            exact hnot (hk.trans hkb.symm ▸ List.mem_map_of_mem hb)
          have hhead : ¬ (key a = k ∧ p a = true) := fun h => hp h.2
          rw [List.filter_cons_of_neg hp, hnone, List.find?_cons_of_neg
            (by simpa using hhead), hfind]
          rfl
      · by_cases hp : p a = true
        · simp [hp, hk, sumOn_cons, hih]
        · simp [hp, hk, hih]

lemma replayedBalance_eq (hn : (source.creditLots.map (·.id)).Nodup) (lotId : Nat) :
    replayedBalance source asOf lotId = rowsKobo source (fun date => date ≤ asOf) lotId := by
  unfold replayedBalance rowsKobo
  rw [sumOn_find? hn]
  simp

lemma lotBalance_max (hn : (source.creditLots.map (·.id)).Nodup) (lotId : Nat) :
    lotBalance source asOf lotId = max 0 (rowsKobo source (fun date => date ≤ asOf) lotId) := by
  unfold lotBalance
  rw [replayedBalance_eq hn]
  split <;> omega

lemma openLotsKobo_change (hn : (source.creditLots.map (·.id)).Nodup) (hle : start ≤ stop)
    (scope : ReportScope) : openLotsKobo source stop scope = openLotsKobo source start scope +
      ((filterLotsForScope source.creditLots source scope).map
        (changeKobo source start stop)).sum := by
  unfold openLotsKobo sumLots
  rw [Table.sum_filter, Table.sum_filter]
  unfold Table.tally
  rw [← List.sum_map_add]
  refine congrArg List.sum (List.map_congr_left fun lot _ => ?_)
  unfold changeKobo
  simp only [lotBalance_max hn, rowsKobo_add hle, decide_eq_true_eq]
  by_cases hstart : lot.expiresAt ≤ start
  · have hstop : lot.expiresAt ≤ stop := hstart.trans hle
    rw [if_neg (not_lt.2 hstop), if_neg (not_lt.2 hstart), if_pos hstart, add_zero]
  · rw [if_pos (not_le.1 hstart), if_neg hstart]
    by_cases hstop : lot.expiresAt ≤ stop
    · rw [if_neg (not_lt.2 hstop), if_pos hstop]
      omega
    · rw [if_pos (not_le.1 hstop), if_neg hstop]
      omega

lemma openLotsKobo_eq_iff (hn : (source.creditLots.map (·.id)).Nodup) (scope : ReportScope) :
    openLotsKobo source start scope = openLotsKobo source stop scope ↔
      ComesToNothing source scope (min start stop) (max start stop) := by
  unfold ComesToNothing
  rcases le_total start stop with hle | hle
  · rw [min_eq_left hle, max_eq_right hle, openLotsKobo_change hn hle]
    omega
  · rw [min_eq_right hle, max_eq_left hle, openLotsKobo_change hn hle]
    omega

/-! ### The rows of a date -/

lemma of_mem_redemptionSummaries {summary : RedemptionDailySummary}
    (h : summary ∈ buildRedemptionSummaries rt source scope asOf) :
    (∃ redemption ∈ filterRedemptionsForScope source.redemptions scope.scope,
      summary.reportDate = toReportDate rt redemption.requestedAt scope.timezone) ∧
    summary.endingBalanceKobo = openLotsKobo source (utcDateEnd summary.reportDate)
      scope.scope := by
  obtain ⟨date, hdate, rfl⟩ := List.mem_map.1 h
  obtain ⟨redemption, hmem, hrequested⟩ := List.mem_map.1 (mem_sortedDates.1 hdate)
  exact ⟨⟨redemption, hmem, hrequested.symm⟩, rfl⟩

lemma exists_redemptionSummary {redemption : RedemptionRecord}
    (h : redemption ∈ filterRedemptionsForScope source.redemptions scope.scope) :
    ∃ summary ∈ buildRedemptionSummaries rt source scope asOf,
      summary.reportDate = toReportDate rt redemption.requestedAt scope.timezone :=
  ⟨_, List.mem_map_of_mem (mem_sortedDates.2 (List.mem_map_of_mem h)), rfl⟩

lemma outstandingLiabilityKobo_eq {daily : DailyFinancialSummary}
    (h : daily ∈ buildDailyFinancialSummaries rt source scope asOf) :
    daily.outstandingLiabilityKobo =
      openLotsKobo source (endOfReportDate rt daily.reportDate scope.timezone asOf)
        scope.scope := by
  obtain ⟨date, -, rfl⟩ := List.mem_map.1 h
  rfl

lemma exists_dailySummary {redemption : RedemptionRecord}
    (h : redemption ∈ filterRedemptionsForScope source.redemptions scope.scope) :
    ∃ daily ∈ buildDailyFinancialSummaries rt source scope asOf,
      daily.reportDate = toReportDate rt redemption.requestedAt scope.timezone := by
  refine ⟨_, List.mem_map_of_mem (mem_sortedDates.2 ?_), rfl⟩
  exact List.mem_append_right _ (List.mem_map_of_mem h)

lemma endingBalancesAgree_iff (hn : (source.creditLots.map (·.id)).Nodup) :
    EndingBalancesAgree rt source scope asOf ↔
      ∀ redemption ∈ filterRedemptionsForScope source.redemptions scope.scope,
        let date := toReportDate rt redemption.requestedAt scope.timezone
        let localEnd := endOfReportDate rt date scope.timezone asOf
        ComesToNothing source scope.scope (min (utcDateEnd date) localEnd)
          (max (utcDateEnd date) localEnd) := by
  constructor
  · intro hagree redemption hredemption
    obtain ⟨summary, hsummary, hdate⟩ : ∃ summary ∈ buildRedemptionSummaries rt source scope asOf,
        summary.reportDate = toReportDate rt redemption.requestedAt scope.timezone :=
      exists_redemptionSummary hredemption
    obtain ⟨daily, hdaily, hdate'⟩ : ∃ daily ∈ buildDailyFinancialSummaries rt source scope asOf,
        daily.reportDate = toReportDate rt redemption.requestedAt scope.timezone :=
      exists_dailySummary hredemption
    have hsame := hagree summary hsummary daily hdaily (hdate'.trans hdate.symm)
    rw [(of_mem_redemptionSummaries hsummary).2, outstandingLiabilityKobo_eq hdaily, hdate,
      hdate'] at hsame
    exact (openLotsKobo_eq_iff hn scope.scope).1 hsame
  · intro hnothing summary hsummary daily hdaily hdate
    obtain ⟨⟨redemption, hredemption, hrequested⟩, hending⟩ := of_mem_redemptionSummaries hsummary
    rw [hending, outstandingLiabilityKobo_eq hdaily, hdate, hrequested]
    exact (openLotsKobo_eq_iff hn scope.scope).2 (hnothing redemption hredemption)

/-- Nothing dated between two instants comes to nothing. -/
lemma comesToNothing_of_quiet {scope : ReportScope}
    (hlots : ∀ lot ∈ source.creditLots, ¬ (start < lot.earnedAt ∧ lot.earnedAt ≤ stop) ∧
      ¬ (start < lot.expiresAt ∧ lot.expiresAt ≤ stop))
    (hallocations : ∀ a ∈ source.redemptionAllocations,
      ¬ (start < a.createdAt ∧ a.createdAt ≤ stop))
    (hrestorations : ∀ r ∈ source.allocationRestorations,
      ¬ (start < r.createdAt ∧ r.createdAt ≤ stop))
    (hexpiries : ∀ x ∈ source.creditExpiries, ¬ (start < x.expiredAt ∧ x.expiredAt ≤ stop)) :
    ComesToNothing source scope start stop := by
  have hnone : ∀ {α : Type} {l : List α} {date : α → Int},
      (∀ a ∈ l, ¬ (start < date a ∧ date a ≤ stop)) →
        l.filter (fun a => decide (start < date a ∧ date a ≤ stop)) = [] := by
    intro α l date h
    rw [List.filter_eq_nil_iff]
    intro a ha
    simpa using h a ha
  have hbetween : ∀ lotId, rowsKobo source (fun date => start < date ∧ date ≤ stop) lotId = 0 := by
    intro lotId
    unfold rowsKobo
    beta_reduce
    rw [hnone fun lot hlot => (hlots lot hlot).1, hnone hallocations, hnone hrestorations,
      hnone hexpiries]
    rfl
  have hzero : ∀ lot ∈ filterLotsForScope source.creditLots source scope,
      changeKobo source start stop lot = 0 := by
    intro lot hlot
    have hmem : lot ∈ source.creditLots := by
      cases scope with
      | TENANT => exact hlot
      | BRANCH branchId => exact (List.mem_filter.1 hlot).1
    have hopen := (hlots lot hmem).2
    unfold changeKobo
    simp only [hbetween, add_zero, sub_self]
    by_cases hstart : lot.expiresAt ≤ start
    · rw [if_pos hstart]
    · rw [if_neg hstart, if_neg fun hstop => hopen ⟨not_le.1 hstart, hstop⟩]
  unfold ComesToNothing
  rw [List.map_congr_left hzero]
  simp

/-- **The ending balances agree with the outstanding liability** exactly if on each date of a
redemption of the scope, what is dated between the end of the date in UTC and its local end, which
is not after `asOf`, comes to nothing. -/
theorem ending_balances_agree_iff (rt : ReportRuntime) (tables : ReportTables) (tenantId : String)
    (scope : ScopeDefinition) (asOf : Int) :
    let source := loadSourceData tables tenantId asOf
    EndingBalancesAgree rt source scope asOf ↔
      ∀ redemption ∈ filterRedemptionsForScope source.redemptions scope.scope,
        let date := toReportDate rt redemption.requestedAt scope.timezone
        let localEnd := endOfReportDate rt date scope.timezone asOf
        ComesToNothing source scope.scope (min (utcDateEnd date) localEnd)
          (max (utcDateEnd date) localEnd) :=
  endingBalancesAgree_iff (loaded_creditLots_nodup tables tenantId asOf)

/-! ### The day of a report -/

section reportDate

variable {rrt : ReportRuntime} {tables : ReportTables} {tenantId : String} {asOf offset : Int}

lemma reportDateEnd_le (scope : ScopeDefinition) : reportDateEnd rrt scope asOf ≤ asOf := by
  unfold reportDateEnd endOfReportDate
  dsimp only
  split <;> omega

/-- The daily summary of the report's own date is as of the report, but for what is dated between
the computed end of the date and the report. -/
theorem heldThroughDate_iff : HeldThroughDate rrt tables tenantId asOf ↔
    ComesToNothing (loadSourceData tables tenantId asOf) .TENANT
      (reportDateEnd rrt (tenantScope rrt) asOf) asOf := by
  have hle : reportDateEnd rrt (tenantScope rrt) asOf ≤ asOf := reportDateEnd_le (tenantScope rrt)
  have hsame : HeldThroughDate rrt tables tenantId asOf ↔
      ComesToNothing (loadSourceData tables tenantId asOf) .TENANT
        (min (reportDateEnd rrt (tenantScope rrt) asOf) asOf)
        (max (reportDateEnd rrt (tenantScope rrt) asOf) asOf) :=
    openLotsKobo_eq_iff (loaded_creditLots_nodup tables tenantId asOf) .TENANT
  rwa [min_eq_left hle, max_eq_right hle] at hsame

lemma plainYear_dateOf {n : Int} (h : -2 ≤ n) : PlainYear (Calendar.dateOf n) := by
  have hfirst : Calendar.dayNumber ⟨100, 1, 1⟩ ≤ n := le_trans (by decide) h
  have hyear : ¬ (Calendar.dateOf n).year < 100 :=
    fun hlt => absurd ((Calendar.year_dateOf_lt_iff n 100).1 hlt) (not_lt.2 hfirst)
  unfold PlainYear
  omega

/-- **With one offset throughout**, the report's date ends no earlier than the report. -/
theorem heldThroughDate_of_fixedOffset (hfrom : 0 ≤ asOf)
    (hoffset : -Calendar.msPerDay < offset ∧ offset < Calendar.msPerDay)
    (hclock : ∀ t, rrt.localDateTime rrt.reportTimeZone t =
      Calendar.split ((t + offset) / 1000 * 1000)) : HeldThroughDate rrt tables tenantId asOf := by
  have hend : reportDateEnd rrt (tenantScope rrt) asOf = asOf := by
    let n := (asOf + offset) / 1000 * 1000 / Calendar.msPerDay
    let guess := utcMidnight (nextDate (Calendar.dateOf n))
    have hn : -2 ≤ n := by
      simp only [n, Calendar.msPerDay] at hoffset ⊢
      omega
    have hguess : guess = (n + 1) * Calendar.msPerDay := by
      simp only [guess, utcMidnight_nextDate, utcMidnight, Calendar.dayNumber_dateOf]
      ring
    -- the clock reads the guess with the offset, and the guess is corrected by that
    have hread : dateUTC (rrt.localDateTime rrt.reportTimeZone guess).1
        (rrt.localDateTime rrt.reportTimeZone guess).2 = (guess + offset) / 1000 * 1000 := by
      have hplain : PlainYear
          (Calendar.dateOf ((guess + offset) / 1000 * 1000 / Calendar.msPerDay)) := by
        apply plainYear_dateOf
        rw [hguess]
        simp only [Calendar.msPerDay] at hoffset ⊢
        omega
      rw [hclock]
      unfold Calendar.split
      rw [dateUTC_plain hplain, utcMidnight, Calendar.dayNumber_dateOf]
      simp only [Calendar.msPerDay]
      omega
    have hdate : toReportDate rrt asOf rrt.reportTimeZone = Calendar.dateOf n := by
      unfold toReportDate
      rw [hclock]
      rfl
    have hafter : dateUTC { Calendar.dateOf n with day := (Calendar.dateOf n).day + 1 } 0 = guess :=
      dateUTC_dayAfter (plainYear_dateOf hn)
    have hlater : ¬ guess - ((guess + offset) / 1000 * 1000 - guess) - 1 < asOf := by
      rw [hguess]
      simp only [n, Calendar.msPerDay]
      omega
    unfold reportDateEnd endOfReportDate
    simp only [tenantScope, hdate, hafter, hread, if_neg hlater]
  unfold HeldThroughDate
  rw [hend]

end reportDate
/-! ### A purchase after midnight -/

namespace Shop

/-- Local dates an hour ahead of UTC. -/
def lagos : ReportRuntime := ⟨none, fun _ at_ => Calendar.split (at_ + 3600000)⟩

lemma basket_pos : (0 : Int) < 1100000 := by decide

/-- A purchase and a redemption before local midnight. -/
def beforeMidnight : List Op :=
  [earn "k1" 9000000, redeem "k2" ⟨1100000, basket_pos⟩ ⟨61000, by decide⟩]

/-- A purchase an hour later: after local midnight, and before midnight UTC. -/
def afterMidnight : Op :=
  .earn { purchase "k3" 5000000 with occurredAt := night + 3600000 } ⟨"till", none, false, false⟩
    (night + 3600000)

/-- What the shop's reports are built from, two hours after the night's purchase. -/
def midnightSource (db : Database) : SourceData :=
  loadSourceData (branchTables db) "tenant" (night + 7200000)

/-- What is dated between the two ends of each date comes to nothing. -/
def endsAgree (t : System) : Bool :=
  (midnightSource t.db).redemptions.all fun redemption =>
    let date := toReportDate lagos redemption.requestedAt "Africa/Lagos"
    let localEnd := endOfReportDate lagos date "Africa/Lagos" (night + 7200000)
    ComesToNothing (midnightSource t.db) .TENANT (min (utcDateEnd date) localEnd)
      (max (utcDateEnd date) localEnd)

end Shop

/-- Without a purchase after midnight the rows of the date agree. -/
theorem ending_balances_agree_before_midnight : ∃ t : System,
    (System.initial Shop.twoBranches).runAll Shop.runtime Shop.beforeMidnight = .ok t ∧
      (Shop.midnightSource t.db).redemptions.length = 1 ∧
      EndingBalancesAgree Shop.lagos (Shop.midnightSource t.db) (tenantScope Shop.lagos)
        (Shop.night + 7200000) := by
  have hmap : ((System.initial Shop.twoBranches).runAll Shop.runtime Shop.beforeMidnight).map
      (fun t => ((Shop.midnightSource t.db).redemptions.length, Shop.endsAgree t)) =
        .ok (1, true) := by decide +kernel
  cases hrun : (System.initial Shop.twoBranches).runAll Shop.runtime Shop.beforeMidnight with
  | error e => rw [hrun] at hmap; cases hmap
  | ok t =>
      rw [hrun] at hmap
      obtain ⟨hone, hends⟩ := Prod.mk.inj (Except.ok.inj hmap)
      refine ⟨t, rfl, hone, (ending_balances_agree_iff Shop.lagos (Shop.branchTables t.db) "tenant"
        (tenantScope Shop.lagos) (Shop.night + 7200000)).2 fun redemption hredemption => ?_⟩
      exact of_decide_eq_true (List.all_eq_true.1 hends redemption hredemption)

/-- **A purchase between local midnight and midnight UTC** is in the ending balance of the date
before, and not in its outstanding liability. -/
theorem ending_balances_disagree : ∃ t : System,
    (System.initial Shop.twoBranches).runAll Shop.runtime
        (Shop.beforeMidnight ++ [Shop.afterMidnight]) = .ok t ∧
      ReachableBy Shop.runtime (Shop.night + 7200000) t ∧ (Shop.branchTables t.db).db = t.db ∧
      ¬ EndingBalancesAgree Shop.lagos (Shop.midnightSource t.db) (tenantScope Shop.lagos)
        (Shop.night + 7200000) := by
  obtain ⟨t, hrun, ht⟩ := ReachableBy.of_runAll Shop.runtime Shop.twoBranches (Shop.night + 7200000)
    (Shop.beforeMidnight ++ [Shop.afterMidnight]) (by decide +kernel)
    (by simp [Shop.beforeMidnight, Shop.afterMidnight, Shop.earn, Shop.redeem, Op.Admissible])
    (by simp [Shop.beforeMidnight, Shop.afterMidnight, Shop.earn, Shop.redeem, Op.readings])
  have hregistry : t.db.registry = Shop.twoBranches :=
    System.runAll_registry (.initial Shop.twoBranches) hrun
      (by simp [Shop.beforeMidnight, Shop.afterMidnight, Shop.earn, Shop.redeem])
  have hends : Shop.endsAgree t = false :=
    System.of_runAll_map hrun (f := Shop.endsAgree) (by decide +kernel)
  refine ⟨t, hrun, ht, Shop.branchTables_db hregistry, fun hagree => ?_⟩
  have hall := (endingBalancesAgree_iff (loaded_creditLots_nodup (Shop.branchTables t.db) "tenant"
    (Shop.night + 7200000))).1 hagree
  have htrue : Shop.endsAgree t = true :=
    List.all_eq_true.2 fun redemption hredemption => decide_eq_true (hall redemption hredemption)
  rw [hends] at htrue
  cases htrue

end ShopcityLoyalty
