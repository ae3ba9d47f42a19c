import ShopcityLoyalty.Lib.CalendarTexts
import ShopcityLoyalty.LotLifecycle
import ShopcityLoyalty.OfflineKeys
import ShopcityLoyalty.OfflineSync
import ShopcityLoyalty.Texts

/-!
The week of a receipt, as earning, redeeming, the offline sync and the cashier's browser
derive it.

A day and the first day of its week differ by a remainder modulo seven, so the weeks that
start on one day of the week partition the days. Each derivation counts that remainder from
its own view of the local date, and writes the first day as an instant or as a text.
-/

namespace ShopcityLoyalty

namespace Calendar

/-! ### Weeks of days -/

/-- The day of the week, counted from Sunday; 1 January 1970 was a Thursday. -/
def weekday (n : Int) : Int := (n + 4) % 7

/-- The number of a day's week, where weeks start on a day of the week. -/
def weekOf (startDay n : Int) : Int := (n + 4 - startDay) / 7

/-- The first day of a day's week. -/
def weekStart (startDay n : Int) : Int := n - (n + 4 - startDay) % 7

variable {startDay n : Int}

lemma weekday_weekStart (h : 0 ≤ startDay ∧ startDay ≤ 6) :
    weekday (weekStart startDay n) = startDay := by
  unfold weekday weekStart
  omega

lemma weekStart_le : weekStart startDay n ≤ n ∧ n ≤ weekStart startDay n + 6 := by
  unfold weekStart
  omega

/-- **One partition**: the days of a week, and no others, share its first day. -/
theorem weekStart_eq_iff (n n' : Int) :
    weekStart startDay n = weekStart startDay n' ↔ weekOf startDay n = weekOf startDay n' := by
  unfold weekStart weekOf
  omega

lemma weekStart_eq_sub :
    weekStart startDay n = n - (7 + weekday n - startDay) % 7 := by
  unfold weekStart weekday
  omega

end Calendar

open Calendar Txn

/-- The first ten characters are the date, when its year has four digits. -/
lemma isoDay_eq_dateText_iff (instant : Int) :
    isoDay instant = dateText instant ↔
      0 ≤ (split instant).1.year ∧ (split instant).1.year ≤ 9999 := by
  obtain ⟨time, htime⟩ := toISOString_eq instant
  have hlen := dateText_length instant
  have hyear := yearText_length (split instant).1.year
  constructor
  · intro h
    by_contra hno
    rw [if_neg hno] at hyear
    have hten : (isoDay instant).length ≤ 10 := by
      rw [isoDay, String.length_ofList, List.length_take]
      omega
    rw [h] at hten
    omega
  · intro h
    rw [if_pos h] at hyear
    have hlist : (dateText instant).toList.length = 10 := by
      rw [String.length_toList]
      omega
    have htake : (toISOString instant).toList.take 10 = (dateText instant).toList := by
      rw [htime, String.toList_append, List.take_append_of_le_length (by omega),
        List.take_of_length_le
        (by omega)]
    rw [isoDay, htake, String.ofList_toList]

/-! ### Dates have no blanks -/

lemma padded_notSpace {w n : Nat} : ∀ c ∈ (padded w n).toList, ¬ isWhiteSpace c := by
  intro c hc
  rw [padded_toList, List.mem_append] at hc
  have hdigit : c.isDigit := by
    rcases hc with hc | hc
    · rw [List.eq_of_mem_replicate hc]
      rfl
    · rw [Nat.toList_repr] at hc
      exact Nat.isDigit_of_mem_toDigits (by omega) (by omega) hc
  have hrange : 48 ≤ c.toNat ∧ c.toNat ≤ 57 := Char.isDigit_iff_toNat.1 hdigit
  simp only [isWhiteSpace]
  simp
  omega

lemma dateText_notSpace (instant : Int) : ∀ c ∈ (dateText instant).toList, ¬ isWhiteSpace c := by
  have hdash : ∀ c ∈ "-".toList, ¬ isWhiteSpace c := by
    intro c hc
    have hc' : c = '-' := by simpa using hc
    subst hc'
    decide
  have hplus : ∀ c ∈ "+".toList, ¬ isWhiteSpace c := by
    intro c hc
    have hc' : c = '+' := by simpa using hc
    subst hc'
    decide
  have hyear : ∀ c ∈ (yearText (split instant).1.year).toList, ¬ isWhiteSpace c := by
    intro c hc
    unfold yearText at hc
    split at hc
    · exact padded_notSpace c hc
    · rw [String.toList_append, List.mem_append] at hc
      rcases hc with hc | hc
      · split at hc
        · exact hdash c hc
        · exact hplus c hc
      · exact padded_notSpace c hc
  intro c hc
  simp only [dateText, String.toList_append, List.mem_append] at hc
  rcases hc with (((hc | hc) | hc) | hc) | hc
  · exact hyear c hc
  · exact hdash c hc
  · exact padded_notSpace c hc
  · exact hdash c hc
  · exact padded_notSpace c hc

/-! ### The derivations -/

/-- The day `Date.UTC` finds for a date. -/
def utcDay (date : Date) : Int := dateUTC date 0 / msPerDay

lemma dateUTC_eq (date : Date) : dateUTC date 0 = utcDay date * msPerDay := by
  simp only [utcDay, dateUTC, join, msPerDay]
  omega

lemma utcDay_eq {date : Date} (h : ¬ twoDigitYear date.year) : utcDay date = dayNumber date := by
  obtain ⟨y, m, d⟩ := date
  have hyear : ¬ (0 ≤ y ∧ y ≤ 99) := h
  simp only [utcDay, dateUTC, if_neg hyear, join, msPerDay]
  omega

lemma lt_utcDay {date : Date} (h : twoDigitYear date.year) :
    dayNumber date + 600000 < utcDay date := by
  obtain ⟨y, m, d⟩ := date
  have hyear : 0 ≤ y ∧ y ≤ 99 := h
  simp only [utcDay, dateUTC, if_pos hyear, join, msPerDay, dayNumber]
  split <;> omega

lemma utcDay_sub (date : Date) (k : Int) :
    utcDay { date with day := date.day - k } = utcDay date - k := by
  simp only [utcDay, dateUTC, join, msPerDay, dayNumber]
  omega

lemma dateUTC_weekStart (startDay : Int) (date : Date) :
    dateUTC { date with day := date.day - (7 + (dateUTC date 0 / msPerDay + 4) % 7 - startDay) % 7 }
      0 = weekStart startDay (utcDay date) * msPerDay := by
  rw [dateUTC_eq, utcDay_sub, weekStart_eq_sub]
  rfl

section derivations

variable {rt : Runtime} {browser : Browser} {zone text : String} {startDay t : Int}

lemma deriveReceiptWeekStart_eq (h : 0 ≤ startDay ∧ startDay ≤ 6) (exception : String → Fault)
    (s : Database) : deriveReceiptWeekStart rt exception t zone startDay s =
      .ok (weekStart startDay (utcDay (rt.localDate zone t)) * msPerDay, s) := by
  have hday : ¬ (startDay < 0 ∨ 6 < startDay) := by omega
  have hchecked : rejectIf (startDay < 0 ∨ 6 < startDay)
      (exception "Branch receipt week start day is invalid") s = .ok ((), s) :=
    rejectIf_ok.2 ⟨hday, rfl⟩
  unfold deriveReceiptWeekStart
  rw [bind_of_ok hchecked]
  exact congrArg (fun w => Except.ok (w, s)) (dateUTC_weekStart startDay (rt.localDate zone t))

lemma offlineDerive_eq (h : 0 ≤ startDay ∧ startDay ≤ 6) :
    OfflineSyncService.deriveReceiptWeekStart rt t zone startDay =
      weekStart startDay (utcDay (rt.localDate zone t)) * msPerDay := by
  rw [← dateUTC_weekStart]
  unfold OfflineSyncService.deriveReceiptWeekStart
  have hpos : 0 ≤ 7 + (dateUTC (rt.localDate zone t) 0 / msPerDay + 4) % 7 - startDay := by omega
  simp only [Int.tmod_eq_emod_of_nonneg hpos]

/-- What is assumed of `Intl.DateTimeFormat` at an instant: server and browser get the zone's
date, that of some day, and the browser the short English name of its weekday. -/
structure LocalCalendar (rt : Runtime) (browser : Browser) (zone : String) (t : Int) : Prop where
  date : browser.localDate zone t = rt.localDate zone t
  ofDay : ∃ n, rt.localDate zone t = dateOf n
  weekday : browser.localWeekday zone t =
    weekdayNames.getD (weekday (dayNumber (rt.localDate zone t))).toNat ""

lemma idxOf_weekdayNames {n : Int} (h : 0 ≤ n ∧ n ≤ 6) :
    weekdayNames.idxOf? (weekdayNames.getD n.toNat "") = some n.toNat := by
  have hn : n = 0 ∨ n = 1 ∨ n = 2 ∨ n = 3 ∨ n = 4 ∨ n = 5 ∨ n = 6 := by omega
  rcases hn with rfl | rfl | rfl | rfl | rfl | rfl | rfl <;> decide

/-- The browser counts from the day itself, by the name of its weekday. -/
lemma deriveOfflineReceiptWeekStart_eq (h : 0 ≤ startDay ∧ startDay ≤ 6)
    (hcal : LocalCalendar rt browser zone t) (hparse : browser.parse text = some t)
    (hyear : ¬ twoDigitYear (rt.localDate zone t).year) :
    deriveOfflineReceiptWeekStart browser (some zone) (some startDay) text =
      some (isoDay (weekStart startDay (dayNumber (rt.localDate zone t)) * msPerDay)) := by
  obtain ⟨n, hn⟩ := hcal.ofDay
  obtain ⟨hm1, hm12, hd1, hd31⟩ := dateOf_bounds n
  rw [← hn] at hm1 hd1
  have hweek : 0 ≤ weekday (dayNumber (rt.localDate zone t)) ∧
      weekday (dayNumber (rt.localDate zone t)) ≤ 6 := by
    unfold weekday
    omega
  have hday : ¬ (startDay < 0 ∨ 6 < startDay) := by omega
  have hparts : ¬ ((rt.localDate zone t).year = 0 ∨ (rt.localDate zone t).month = 0 ∨
      (rt.localDate zone t).day = 0) := by
    unfold twoDigitYear at hyear
    omega
  have hstart : dateUTC (rt.localDate zone t) 0 -
      (7 + ((weekday (dayNumber (rt.localDate zone t))).toNat : Int) - startDay) % 7 * msPerDay =
      weekStart startDay (dayNumber (rt.localDate zone t)) * msPerDay := by
    rw [dateUTC_eq, utcDay_eq hyear, Int.toNat_of_nonneg hweek.1, weekStart_eq_sub]
    ring
  simp only [deriveOfflineReceiptWeekStart, hparse, Option.bind_eq_bind, Option.bind_some,
    if_neg hday, Option.getD_some, hcal.weekday, idxOf_weekdayNames hweek, hcal.date,
    if_neg hparts, hstart]
  rfl

end derivations

/-! ### Submissions of a receipt -/

/-- What a transaction looks a receipt up by. -/
structure ReceiptIdentity where
  tenantId : String
  branchId : String
  receiptWeekStart : Int
  normalizedPosReceiptNumber : String
  deriving DecidableEq

def Receipt.identity (r : Receipt) : ReceiptIdentity where
  tenantId := r.tenantId
  branchId := r.branchId
  receiptWeekStart := r.receiptWeekStart
  normalizedPosReceiptNumber := r.normalizedPosReceiptNumber

lemma findReceipt_isSome {s : Database} {id : ReceiptIdentity} :
    (findReceipt s id.tenantId id.branchId id.receiptWeekStart
      id.normalizedPosReceiptNumber).isSome ↔ ∃ r ∈ s.receipts, r.identity = id := by
  have hsome : ∀ o : Option (Nat × Receipt), o.isSome ↔ ¬ o = none := by
    intro o
    cases o <;> simp
  have hid : ∀ r : Receipt, r.identity = id ↔
    (r.tenantId = id.tenantId && r.branchId = id.branchId &&
      r.receiptWeekStart = id.receiptWeekStart &&
      r.normalizedPosReceiptNumber = id.normalizedPosReceiptNumber) = true := by
    intro r
    cases id
    simp [Receipt.identity, and_assoc]
  rw [hsome, findReceipt, Table.find_none]
  simp only [hid]
  push Not
  rfl

/-- A request with what the part before its transaction hands to it. -/
inductive Submission
  | earn (req : EarnRequest) (adm : LoyaltyService.EarnAdmission)
  | redeem (req : RedeemRequest) (adm : RedemptionsService.RedeemAdmission)

namespace Submission

def occurredAt : Submission → Int
  | earn req _ => req.occurredAt
  | redeem req _ => req.occurredAt

def normalizedPosReceiptNumber : Submission → String
  | earn req _ => req.normalizedPosReceiptNumber
  | redeem req _ => req.normalizedPosReceiptNumber

/-- The branch that the transaction finds, and the receipt it is about. -/
def receipt (rt : Runtime) : Submission → Tx (Branch × ReceiptIdentity)
  | earn req adm => do
      let ctx ← LoyaltyService.earnContext rt req adm
      pure (ctx.branch, ⟨req.actor.tenantId, ctx.branchId, ctx.receiptWeekStart,
        req.normalizedPosReceiptNumber⟩)
  | redeem req adm => do
      let ctx ← RedemptionsService.redeemContext rt req adm
      pure (ctx.branch, ⟨req.actor.tenantId, ctx.branchId, ctx.receiptWeekStart,
        req.normalizedPosReceiptNumber⟩)

/-- The transaction, whatever it answers. -/
def run (rt : Runtime) (now : Int) : Submission → Tx Unit
  | earn req adm => do
      let _ ← LoyaltyService.earnTransaction rt req adm now
      pure ()
  | redeem req adm => do
      let _ ← RedemptionsService.redeemTransaction rt req adm now
      pure ()

/-- The ways a receipt with a number is submitted for an instant: online, with a redemption, or
through the offline queue. -/
inductive Presents (rt : OfflineSyncRuntime) (number : String) (t : Int) : Submission → Prop
  | online {actor key dto req adm s s'} (hnumber : dto.posReceiptNumber = number)
      (hinstant : dto.occurredAt = t)
      (hreq : LoyaltyService.earnRequest rt.toRuntime actor key dto s = .ok (req, s')) :
      Presents rt number t (earn req adm)
  | redemption {actor key dto req adm s s'} (hnumber : dto.posReceiptNumber = number)
      (hinstant : dto.occurredAt = t)
      (hreq : RedemptionsService.redeemRequest rt.toRuntime actor key dto s = .ok (req, s')) :
      Presents rt number t (redeem req adm)
  | offline {actor key record dto req adm s s'} (hnumber : record.receiptNumber = number)
      (hinstant : rt.parse record.occurredAtLocal = some t)
      (hdto : OfflineSyncService.earnDto rt record = .ok dto)
      (hreq : LoyaltyService.earnRequest rt.toRuntime actor key dto s = .ok (req, s')) :
      Presents rt number t (earn req adm)

variable {rt : OfflineSyncRuntime} {number : String} {t : Int} {sub : Submission}

lemma earnRequest_ok {rt : Runtime} {actor : AuthContext} {key : Option String}
    {dto : EarnTransactionDto} {req : EarnRequest} {s s' : Database}
    (h : LoyaltyService.earnRequest rt actor key dto s = .ok (req, s')) :
    req.occurredAt = dto.occurredAt ∧
      req.normalizedPosReceiptNumber = rt.toUpperCase (trim dto.posReceiptNumber) := by
  simp only [LoyaltyService.earnRequest, bind_ok, pure_ok, rejectIf_ok] at h
  obtain ⟨_, _, -, _, _, -, _, _, -, rfl, -⟩ := h
  exact ⟨rfl, by simp only [normalizeReceiptIdentity, trim_trim]⟩

/-- Whichever way a receipt is submitted, its request is about the same number and instant. -/
lemma Presents.request (h : Presents rt number t sub) : sub.occurredAt = t ∧
    sub.normalizedPosReceiptNumber = rt.toUpperCase (trim number) := by
  cases h with
  | online hnumber hinstant hreq =>
      obtain ⟨hat, hnormalized⟩ := earnRequest_ok hreq
      rw [hinstant] at hat
      rw [hnumber] at hnormalized
      exact ⟨hat, hnormalized⟩
  | redemption hnumber hinstant hreq =>
      simp only [RedemptionsService.redeemRequest, RedemptionsService.normalizeBoundedText, bind_ok,
        pure_ok, rejectIf_ok] at hreq
      obtain ⟨_, _, -, _, _, ⟨_, _, -, _, _, -, rfl, rfl⟩, _, _, -, rfl, -⟩ := hreq
      refine ⟨hinstant, ?_⟩
      simp only [normalizedPosReceiptNumber, normalizeReceiptIdentity, trim_trim, hnumber]
  | offline hnumber hinstant hdto hreq =>
      obtain ⟨hat, hnormalized⟩ := earnRequest_ok hreq
      simp only [OfflineSyncService.earnDto, OfflineSyncService.normalizeReceiptNumber,
        OfflineSyncService.parseDate, hinstant, Except.bind_ok] at hdto
      obtain ⟨_, hn, _, -, _, hp, hdone⟩ := hdto
      split at hn
      · cases hn
      · cases hn
        cases hp
        cases hdone
        rw [trim_trim, hnumber] at hnormalized
        exact ⟨hat, hnormalized⟩

/-- What the transaction finds of the receipt. -/
lemma receipt_ok {rt : Runtime} {branch : Branch} {id : ReceiptIdentity} {s s' : Database}
    (h : sub.receipt rt s = .ok ((branch, id), s')) :
    id.receiptWeekStart = weekStart branch.receiptWeekStartDay
        (utcDay (rt.localDate branch.timezone sub.occurredAt)) * msPerDay ∧
      id.normalizedPosReceiptNumber = sub.normalizedPosReceiptNumber := by
  have hweek : ∀ {exception : String → Fault} {w : Int} {u u' : Database},
      deriveReceiptWeekStart rt exception sub.occurredAt branch.timezone
        branch.receiptWeekStartDay u =
        .ok (w, u') → w = weekStart branch.receiptWeekStartDay
          (utcDay (rt.localDate branch.timezone sub.occurredAt)) * msPerDay := by
    intro exception w u u' hw
    simp only [deriveReceiptWeekStart, bind_ok, pure_ok, rejectIf_ok] at hw
    obtain ⟨_, _, -, rfl, -⟩ := hw
    exact dateUTC_weekStart _ _
  cases sub with
  | earn req adm =>
      simp only [receipt, LoyaltyService.earnContext, bind_ok, get_ok, pure_ok] at h
      obtain ⟨ctx, _, ⟨_, _, ⟨rfl, rfl⟩, _, _, -, _, _, -, w, _, hw, rfl, rfl⟩, hpair, rfl⟩ := h
      obtain ⟨rfl, rfl⟩ := Prod.mk.inj hpair
      exact ⟨hweek hw, rfl⟩
  | redeem req adm =>
      simp only [receipt, RedemptionsService.redeemContext, bind_ok, get_ok, pure_ok] at h
      obtain ⟨ctx, _, ⟨_, _, ⟨rfl, rfl⟩, _, _, -, _, _, -, w, _, hw, rfl, rfl⟩, hpair, rfl⟩ := h
      obtain ⟨rfl, rfl⟩ := Prod.mk.inj hpair
      exact ⟨hweek hw, rfl⟩

lemma run_refused {rt : Runtime} {branch : Branch} {id : ReceiptIdentity} {s : Database}
    (h : sub.receipt rt s = .ok ((branch, id), s)) (hused : ∃ r ∈ s.receipts, r.identity = id)
    (now : Int) : sub.run rt now s = .error receiptAlreadyUsed := by
  have hfound := findReceipt_isSome.2 hused
  have hget : (get : Tx Database) s = .ok (s, s) := rfl
  cases sub with
  | earn req adm =>
      simp only [receipt, bind_ok, pure_ok] at h
      obtain ⟨ctx, u, hctx, hpair, rfl⟩ := h
      obtain ⟨rfl, rfl⟩ := Prod.mk.inj hpair
      rw [run, bind_of_error]
      rw [LoyaltyService.earnTransaction, bind_of_ok hctx, bind_of_ok hget, bind_of_error]
      exact rejectIf_of hfound
  | redeem req adm =>
      simp only [receipt, bind_ok, pure_ok] at h
      obtain ⟨ctx, u, hctx, hpair, rfl⟩ := h
      obtain ⟨rfl, rfl⟩ := Prod.mk.inj hpair
      rw [run, bind_of_error]
      rw [RedemptionsService.redeemTransaction, bind_of_ok hctx, bind_of_ok hget, bind_of_error]
      exact rejectIf_of hfound

end Submission

/-! ### Offline records -/

namespace OfflineSyncService

open Process

/-- The result that rejects a record for its week. -/
def WeekMismatch (result : OfflineEarnBatchRecordResult) : Prop :=
  result.status = .REJECTED ∧ result.errorCode = some "SYNC_WEEK_MISMATCH"

/-- The row under a key has no such result. -/
def Unmismatched (k : OfflineAttemptKey) (s : SyncState × Unit) : Prop :=
  ∀ row result, s.1.attempts k = some row → row.responseJson = some result → ¬ WeekMismatch result

/-- The device's branch has the settings. -/
def HasSettings (tenantId deviceId zone : String) (startDay : Int) (s : SyncState) : Prop :=
  ∀ device branch, findDevice s.db tenantId deviceId = some (device, branch) →
    branch.timezone = zone ∧ branch.receiptWeekStartDay = startDay

/-- Between the statements of a record the settings stay what they are and no other process
stores a week mismatch in its row; none of its own statements does. -/
def weekContract (actor : AuthContext) (deviceId zone : String) (startDay : Int)
    (k : OfflineAttemptKey) : Contract RequestInput SyncState Unit where
  admits _ _ := True
  rely s t := HasSettings actor.tenantId deviceId zone startDay t.1 ∧
    (Unmismatched k s → Unmismatched k t)
  guarantee s t := Unmismatched k s → Unmismatched k t

/-- A process of a record that meets the contract, and what it returns. -/
def KeepsRow (actor : AuthContext) (deviceId zone : String) (startDay : Int)
    (k : OfflineAttemptKey) {α : Type} (p : SyncProcess α) (J : α → Prop) : Prop :=
  Triple (weekContract actor deviceId zone startDay k) (Unmismatched k) p
    fun r s => Unmismatched k s ∧ ∀ a, r = .ok a → J a

namespace KeepsRow

variable {actor : AuthContext} {deviceId zone : String} {startDay : Int} {k : OfflineAttemptKey}
  {α β : Type} {J J' : α → Prop} {K : β → Prop}

lemma done {a : α} (h : J a) : KeepsRow actor deviceId zone startDay k (.done a) J := by
  refine triple_done fun s hs => ⟨hs, ?_⟩
  rintro b ⟨⟩
  exact h

lemma fail {e : Fault} : KeepsRow actor deviceId zone startDay k (.fail e : SyncProcess α) J := by
  refine triple_fail fun s hs => ⟨hs, ?_⟩
  rintro b ⟨⟩

lemma ofExcept {x : Except Fault α} (h : ∀ a, x = .ok a → J a) :
    KeepsRow actor deviceId zone startDay k (Process.ofExcept x) J := by
  cases x with
  | ok a => exact done (h a rfl)
  | error e => exact fail

lemma bind {p : SyncProcess α} {f : α → SyncProcess β}
    (hp : KeepsRow actor deviceId zone startDay k p J)
    (hf : ∀ a, J a → KeepsRow actor deviceId zone startDay k (f a) K) :
    KeepsRow actor deviceId zone startDay k (p >>= f) K := by
  refine Triple.bind hp (fun a s hs => hf a (hs.2 a rfl) s hs.1) fun e s hs => ⟨hs.1, ?_⟩
  rintro b ⟨⟩

lemma catching {p : SyncProcess α} {handler : Fault → SyncProcess α}
    (hp : KeepsRow actor deviceId zone startDay k p J)
    (hhandler : ∀ e, KeepsRow actor deviceId zone startDay k (handler e) J) :
    KeepsRow actor deviceId zone startDay k (p.catching handler) J :=
  Triple.catching hp (fun _ _ hs => hs) fun e s hs => hhandler e s hs.1

lemma statement {st : RequestInput → SyncState → α × SyncState}
    (h : ∀ s i, HasSettings actor.tenantId deviceId zone startDay s → Unmismatched k (s, ()) →
      Unmismatched k ((st i s).2, ()) ∧ J (st i s).1) :
    KeepsRow actor deviceId zone startDay k (Process.statement st) J := by
  intro s hs u hu i _
  obtain ⟨hkept, hJ⟩ := h u.1 i hu.1 (hu.2 hs)
  refine ⟨(), fun _ => hkept, hkept, ?_⟩
  rintro a ⟨⟩
  exact hJ

lemma read {f : RequestInput → SyncState → α}
    (h : ∀ s i, HasSettings actor.tenantId deviceId zone startDay s → Unmismatched k (s, ()) →
      J (f i s)) :
    KeepsRow actor deviceId zone startDay k (Process.statement fun i s => (f i s, s)) J :=
  statement fun s i hset hs => ⟨hs, h s i hset hs⟩

lemma onDatabase (p : Process RequestInput Database Fault α) :
    KeepsRow actor deviceId zone startDay k (p.within SyncState.db SyncState.withDb)
      fun _ => True := by
  induction p with
  | done a => exact done trivial
  | fail e => exact fail
  | act st next ih =>
      intro s hs u hu i _
      exact ⟨(), id, ih _ _ (hu.2 hs)⟩

end KeepsRow

section record

variable {rt : OfflineSyncRuntime} {browser : Browser} {actor : AuthContext}
  {deviceId zone : String} {startDay t : Int} {policy : OfflineSyncPolicy}
  {record : OfflineEarnBatchRecordInput}

lemma unmismatched_withAttempt {k : OfflineAttemptKey} {s : SyncState} {row : OfflineSyncAttempt}
    (h : ∀ result, row.responseJson = some result → ¬ WeekMismatch result) :
    Unmismatched k (s.withAttempt k row, ()) := by
  intro row' result hrow hresult
  simp only [SyncState.withAttempt, Function.update_self, Option.some.injEq] at hrow
  subst hrow
  exact h result hresult

lemma cardError_ne {card : Option (Card × Customer)} :
    cardError card ≠ some "SYNC_WEEK_MISMATCH" := by
  unfold cardError
  repeat' split
  all_goals decide

/-- A record whose week is the one derived from its instant is valid as to its week. -/
lemma validateRecord_keeps {k : OfflineAttemptKey}
    (hparse : rt.parse record.occurredAtLocal = some t)
    (hweek : trim record.receiptWeekStart =
      isoDay (deriveReceiptWeekStart rt.toRuntime t zone startDay)) :
    KeepsRow actor deviceId zone startDay k (validateRecord rt actor deviceId policy record)
      fun code => code ≠ some "SYNC_WEEK_MISMATCH" := by
  unfold validateRecord
  split
  · exact .done (by decide)
  split
  · exact .done (by decide)
  refine .bind (J := fun occurredAt => occurredAt = t) (.ofExcept ?_) ?_
  · intro a ha
    simp only [parseDate, hparse] at ha
    cases ha
    rfl
  intro occurredAt hat
  rw [hat]
  refine .bind (J := fun _ => True) (.read fun _ _ _ _ => trivial) fun now _ => ?_
  split
  · exact .done (by decide)
  refine .bind (J := fun found : Option (Device × Branch) => ∀ device branch,
    found = some (device, branch) → branch.timezone = zone ∧ branch.receiptWeekStartDay = startDay)
    (.read fun s _ hset _ => hset) fun found hset => ?_
  refine .bind (J := fun submitted => submitted = trim record.receiptWeekStart) (.ofExcept ?_) ?_
  · intro a ha
    unfold normalizeReceiptWeekStart at ha
    split at ha
    · cases ha
    · cases ha
      rfl
  rintro _ rfl
  cases hdevice : deviceError rt.toRuntime record t (trim record.receiptWeekStart) found with
  | some code =>
      refine .done ?_
      rintro ⟨⟩
      cases found with
      | none => simp [deviceError] at hdevice
      | some r =>
          obtain ⟨device, branch⟩ := r
          obtain ⟨rfl, rfl⟩ := hset device branch rfl
          simp only [deviceError, hweek, ne_eq, not_true_eq_false, if_false] at hdevice
          split at hdevice <;> simp at hdevice
  | none =>
      refine .bind (J := fun _ => True) (.ofExcept fun _ _ => trivial) fun barcode _ => ?_
      refine .bind (J := fun _ => True) (.read fun _ _ _ _ => trivial) fun card _ => ?_
      exact .done cardError_ne

lemma earnResult_ne (localId : String) (response : Response) :
    ¬ WeekMismatch (earnResult localId response) := by
  rintro ⟨hstatus, -⟩
  unfold earnResult at hstatus
  split at hstatus
  · split at hstatus <;> simp [pendingResult, confirmedResult] at hstatus
  · simp [confirmedResult] at hstatus

lemma mapEarnFailure_ne (localId : String) (e : Fault) :
    ¬ WeekMismatch (mapEarnFailure localId e) := by
  generalize hresult : mapEarnFailure localId e = result
  rintro ⟨hstatus, herror⟩
  unfold mapEarnFailure at hresult
  simp only at hresult
  repeat' split at hresult
  all_goals
    subst hresult
    simp [buildRetryableResult, buildRejectedResult] at hstatus herror

lemma persistResult_keeps {k : OfflineAttemptKey} {result : OfflineEarnBatchRecordResult}
    (h : ¬ WeekMismatch result) :
    KeepsRow actor deviceId zone startDay k (persistResult k result)
      fun result => ¬ WeekMismatch result := by
  intro s hs u hu i _
  cases hrow : u.1.attempts k with
  | none =>
      simp only [hrow]
      exact ⟨(), id, hu.2 hs, fun a ha => by cases ha⟩
  | some row =>
      simp only [hrow]
      have hkept : Unmismatched k
          (u.1.withAttempt k (OfflineSyncAttempt.withResult row result i.now), ()) :=
        unmismatched_withAttempt fun r hr => by
          cases hr
          exact h
      refine ⟨(), fun _ => hkept, hkept, ?_⟩
      rintro a ⟨⟩
      exact h

lemma waitForOfflineSyncReplay_keeps {k : OfflineAttemptKey} {requestHash : Digest} (n : Nat) :
    KeepsRow actor deviceId zone startDay k (waitForOfflineSyncReplay k requestHash n)
      fun r => ∀ result, r = some result → ¬ WeekMismatch result := by
  induction n with
  | zero => exact .done fun _ h => by cases h
  | succ n ih =>
      unfold waitForOfflineSyncReplay
      refine .bind (J := fun row : Option OfflineSyncAttempt => ∀ r result, row = some r →
        r.responseJson = some result → ¬ WeekMismatch result) (.read fun s _ _ hs => hs)
        fun row hrow => ?_
      cases row with
      | none => exact .done fun _ h => by cases h
      | some r =>
          simp only
          split
          · exact .done fun _ h => by cases h
          cases hresponse : r.responseJson with
          | some response => exact .done fun result h => by cases h; exact hrow r _ rfl hresponse
          | none => exact ih

lemma replayAttempt_keeps {k : OfflineAttemptKey} {requestHash : Digest} {row : OfflineSyncAttempt}
    {localId : String} (hrow : ∀ result, row.responseJson = some result → ¬ WeekMismatch result) :
    KeepsRow actor deviceId zone startDay k (replayAttempt k requestHash localId row)
      fun result => ¬ WeekMismatch result := by
  unfold replayAttempt
  split
  · exact .done fun h => by simp [WeekMismatch, buildRejectedResult] at h
  cases hresponse : row.responseJson with
  | some response => exact .done (hrow _ hresponse)
  | none =>
      refine .bind (waitForOfflineSyncReplay_keeps _) fun replay hreplay => ?_
      cases replay with
      | some response => exact .done (hreplay _ rfl)
      | none => exact .done fun h => by simp [WeekMismatch, buildRetryableResult] at h

lemma submitRecord_keeps {k : OfflineAttemptKey} (hk : k = key actor deviceId record.localId)
    (hparse : rt.parse record.occurredAtLocal = some t)
    (hweek : trim record.receiptWeekStart =
      isoDay (deriveReceiptWeekStart rt.toRuntime t zone startDay)) :
    KeepsRow actor deviceId zone startDay k (submitRecord rt actor deviceId policy record)
      fun result => ¬ WeekMismatch result := by
  unfold submitRecord
  rw [← hk]
  refine .bind (validateRecord_keeps hparse hweek) fun code hcode => ?_
  cases code with
  | some code =>
      refine persistResult_keeps ?_
      rintro ⟨-, herror⟩
      exact hcode herror
  | none =>
      have hearn : KeepsRow actor deviceId zone startDay k (delegatedEarn rt actor record)
          fun _ => True := by
        unfold delegatedEarn
        exact .bind (J := fun _ => True) (.ofExcept fun _ _ => trivial) fun _ _ => .onDatabase _
      have hresult : KeepsRow actor deviceId zone startDay k
          (((do
            let response ← delegatedEarn rt actor record
            pure (earnResult record.localId response)) : SyncProcess _).catching
              fun e => pure (mapEarnFailure record.localId e))
          fun result => ¬ WeekMismatch result :=
        .catching (.bind hearn fun response _ => .done (earnResult_ne _ response))
          fun e => .done (mapEarnFailure_ne _ e)
      generalize (catching _ _ : SyncProcess OfflineEarnBatchRecordResult) = q at hresult ⊢
      exact hresult.bind fun result => persistResult_keeps

/-- **A record of the derived week** is not rejected for its week, whatever others do meanwhile
that leaves its row without such a rejection and its branch with its settings. -/
theorem processRecord_keeps (hparse : rt.parse record.occurredAtLocal = some t)
    (hweek : trim record.receiptWeekStart =
      isoDay (deriveReceiptWeekStart rt.toRuntime t zone startDay)) :
    KeepsRow actor deviceId zone startDay (key actor deviceId record.localId)
      (processRecord rt actor deviceId policy record) fun result => ¬ WeekMismatch result := by
  unfold processRecord
  refine .bind (J := fun _ => True) (.ofExcept fun _ _ => trivial) fun requestHash _ => ?_
  have hfind : KeepsRow actor deviceId zone startDay (key actor deviceId record.localId)
      (findAttempt (key actor deviceId record.localId)) fun row => ∀ r, row = some r →
        ∀ result, r.responseJson = some result → ¬ WeekMismatch result :=
    .read fun s _ _ hs r hr result => hs r result hr
  refine .bind hfind fun row hrow => ?_
  cases row with
  | some r => exact replayAttempt_keeps (hrow r rfl)
  | none =>
      refine .bind (J := fun row => row.responseJson = none) (.ofExcept ?_) fun row hnew => ?_
      · intro row h
        simp only [newAttempt, Except.bind_ok] at h
        obtain ⟨_, -, _, -, _, -, _, -, hdone⟩ := h
        cases hdone
        rfl
      have hcreate : KeepsRow actor deviceId zone startDay (key actor deviceId record.localId)
          (createAttempt (key actor deviceId record.localId) row) fun _ => True := by
        unfold createAttempt
        refine .statement fun s i _ hs => ⟨?_, trivial⟩
        split
        · exact hs
        · exact unmismatched_withAttempt fun result h => by rw [hnew] at h; cases h
      refine .bind hcreate fun created _ => ?_
      split
      · exact submitRecord_keeps rfl hparse hweek
      refine .bind hfind fun row hrow => ?_
      cases row with
      | some r => exact replayAttempt_keeps (hrow r rfl)
      | none => exact .fail

end record

end OfflineSyncService

/-! ### One partition in four places -/

/-- The local day of an instant. -/
def localDay (rt : Runtime) (zone : String) (t : Int) : Int := dayNumber (rt.localDate zone t)

/-- All derivations find one week start for an instant: the date of the day the week starts on, at
most six days before the local date. -/
structure DerivedWeek (rt : OfflineSyncRuntime) (browser : Browser) (zone : String)
    (startDay : Int) (text : String) (t w : Int) : Prop where
  earn : ∀ s, deriveReceiptWeekStart rt.toRuntime badRequest t zone startDay s = .ok (w, s)
  redeem : ∀ s, deriveReceiptWeekStart rt.toRuntime validationError t zone startDay s = .ok (w, s)
  offline : OfflineSyncService.deriveReceiptWeekStart rt.toRuntime t zone startDay = w
  form : deriveOfflineReceiptWeekStart browser (some zone) (some startDay) text = some (dateText w)
  midnight : w % msPerDay = 0
  startsWeek : weekday (w / msPerDay) = startDay
  inWeek : w / msPerDay ≤ localDay rt.toRuntime zone t ∧
    localDay rt.toRuntime zone t ≤ w / msPerDay + 6

/-- An offline record of the form's week start is not rejected for its week. -/
def NeverMismatched (rt : OfflineSyncRuntime) (browser : Browser) (zone : String)
    (startDay : Int) (text : String) : Prop :=
  ∀ (actor : AuthContext) (deviceId : String) (policy : OfflineSyncPolicy)
    (record : OfflineEarnBatchRecordInput), record.occurredAtLocal = text →
    deriveOfflineReceiptWeekStart browser (some zone) (some startDay) text =
      some record.receiptWeekStart →
    OfflineSyncService.KeepsRow actor deviceId zone startDay
      (OfflineSyncService.key actor deviceId record.localId)
      (OfflineSyncService.processRecord rt actor deviceId policy record)
      fun result => ¬ OfflineSyncService.WeekMismatch result

/-- A receipt submitted for two instants, in whichever way, is recognised as the same exactly
when they lie in one local week, and then refused. -/
def Recognised (rt : OfflineSyncRuntime) (zone : String) (startDay t t' : Int) : Prop :=
  ∀ number sub sub', Submission.Presents rt number t sub → Submission.Presents rt number t' sub' →
    ∀ s s' branch branch' id id', sub.receipt rt.toRuntime s = .ok ((branch, id), s) →
    sub'.receipt rt.toRuntime s' = .ok ((branch', id'), s') →
    branch.timezone = zone ∧ branch.receiptWeekStartDay = startDay →
    branch'.timezone = zone ∧ branch'.receiptWeekStartDay = startDay →
    id.tenantId = id'.tenantId → id.branchId = id'.branchId →
      (id = id' ↔ weekOf startDay (localDay rt.toRuntime zone t) =
        weekOf startDay (localDay rt.toRuntime zone t')) ∧
      (id = id' → (∃ r ∈ s'.receipts, r.identity = id) →
        ∀ now, sub'.run rt.toRuntime now s' = .error receiptAlreadyUsed)

/-- What the four derivations are about, for two instants that texts name. -/
structure OnePartition (rt : OfflineSyncRuntime) (browser : Browser) (zone : String)
    (startDay : Int) (text text' : String) (t t' : Int) : Prop where
  derived : ∃ w, DerivedWeek rt browser zone startDay text t w
  derived' : ∃ w, DerivedWeek rt browser zone startDay text' t' w
  weeks : ∀ w w', DerivedWeek rt browser zone startDay text t w →
    DerivedWeek rt browser zone startDay text' t' w' →
    (w = w' ↔ weekOf startDay (localDay rt.toRuntime zone t) =
      weekOf startDay (localDay rt.toRuntime zone t'))
  accepted : NeverMismatched rt browser zone startDay text
  accepted' : NeverMismatched rt browser zone startDay text'
  recognised : Recognised rt zone startDay t t'

/-- The year is not read as one of the twentieth century, and the week begins before the year
10000. -/
def PlainDate (startDay : Int) (date : Date) : Prop :=
  100 ≤ date.year ∧ dayNumber date < dayNumber ⟨10000, 1, 1⟩ + (startDay + 1) % 7

instance (startDay : Int) : DecidablePred (PlainDate startDay) :=
  fun _ => inferInstanceAs (Decidable (_ ∧ _))

section partition

variable {rt : OfflineSyncRuntime} {browser : Browser} {zone text : String} {startDay t : Int}

lemma plainDate_iff {date : Date} (hdate : ∃ n, date = dateOf n) :
    PlainDate startDay date ↔ ¬ twoDigitYear date.year ∧
      0 ≤ (split (weekStart startDay (dayNumber date) * msPerDay)).1.year ∧
      (split (weekStart startDay (dayNumber date) * msPerDay)).1.year ≤ 9999 := by
  obtain ⟨n, rfl⟩ := hdate
  have hfirst : (split (weekStart startDay n * msPerDay)).1 = dateOf (weekStart startDay n) := by
    have hmul : weekStart startDay n * msPerDay / msPerDay = weekStart startDay n := by
      simp [msPerDay]
    simp only [split, hmul]
  rw [dayNumber_dateOf, hfirst]
  have hlow := year_dateOf_lt_iff (weekStart startDay n) 0
  have hhigh := year_dateOf_lt_iff (weekStart startDay n) 10000
  have hlow' := year_dateOf_lt_iff n 0
  have hcentury := year_dateOf_lt_iff n 100
  have hday0 : dayNumber ⟨0, 1, 1⟩ = -719528 := by decide
  have hday100 : dayNumber ⟨100, 1, 1⟩ = -683003 := by decide
  have hday10000 : dayNumber ⟨10000, 1, 1⟩ = 2932897 := by decide
  rw [hday0] at hlow hlow'
  rw [hday100] at hcentury
  rw [hday10000] at hhigh
  unfold PlainDate twoDigitYear
  rw [dayNumber_dateOf, hday10000]
  unfold weekStart at *
  omega

/-- A week start is derived in four places alike exactly for a plain date. -/
lemma derivedWeek_iff (hday : 0 ≤ startDay ∧ startDay ≤ 6)
    (hcal : LocalCalendar rt.toRuntime browser zone t) (hparse : browser.parse text = some t) :
    (∃ w, DerivedWeek rt browser zone startDay text t w) ↔
      PlainDate startDay (rt.localDate zone t) := by
  have hoffline : OfflineSyncService.deriveReceiptWeekStart rt.toRuntime t zone startDay =
      weekStart startDay (utcDay (rt.localDate zone t)) * msPerDay := offlineDerive_eq hday
  have hmul : ∀ n, weekStart startDay n * msPerDay / msPerDay = weekStart startDay n := by
    simp [msPerDay]
  rw [plainDate_iff hcal.ofDay]
  constructor
  · rintro ⟨w, hw⟩
    have hwe := hw.offline
    rw [hoffline] at hwe
    have hplain : ¬ twoDigitYear (rt.localDate zone t).year := by
      intro hyear
      have hlate := lt_utcDay hyear
      have hclose := hw.inWeek.1
      rw [← hwe, hmul, localDay] at hclose
      have hstart : utcDay (rt.localDate zone t) ≤
          weekStart startDay (utcDay (rt.localDate zone t)) + 6 := weekStart_le.2
      omega
    have hform := hw.form
    rw [deriveOfflineReceiptWeekStart_eq hday hcal hparse hplain, ← hwe, utcDay_eq hplain] at hform
    exact ⟨hplain, (isoDay_eq_dateText_iff _).1 (Option.some.inj hform)⟩
  · rintro ⟨hplain, hyears⟩
    rw [utcDay_eq hplain] at hoffline
    refine ⟨weekStart startDay (dayNumber (rt.localDate zone t)) * msPerDay, ?_, ?_,
      hoffline, ?_, ?_,
      ?_, ?_⟩
    · intro s
      rw [deriveReceiptWeekStart_eq hday, utcDay_eq hplain]
    · intro s
      rw [deriveReceiptWeekStart_eq hday, utcDay_eq hplain]
    · rw [deriveOfflineReceiptWeekStart_eq hday hcal hparse hplain,
        (isoDay_eq_dateText_iff _).2 hyears]
    · simp [msPerDay]
    · rw [hmul, weekday_weekStart hday]
    · rw [hmul]
      exact weekStart_le

lemma neverMismatched (hday : 0 ≤ startDay ∧ startDay ≤ 6)
    (hcal : LocalCalendar rt.toRuntime browser zone t) (hparse : browser.parse text = some t)
    (hserver : rt.parse text = some t) (hplain : PlainDate startDay (rt.localDate zone t)) :
    NeverMismatched rt browser zone startDay text := by
  obtain ⟨w, hw⟩ := (derivedWeek_iff hday hcal hparse).2 hplain
  obtain ⟨hyear, hyears⟩ := (plainDate_iff hcal.ofDay).1 hplain
  intro actor deviceId policy record hat hform
  have htext : record.receiptWeekStart = dateText w := by
    rw [hw.form] at hform
    exact (Option.some.inj hform).symm
  have hoffline := hw.offline
  rw [offlineDerive_eq hday, utcDay_eq hyear] at hoffline
  rw [hoffline] at hyears
  rw [← hat] at hserver
  refine OfflineSyncService.processRecord_keeps hserver ?_
  rw [hw.offline, (isoDay_eq_dateText_iff w).2 hyears, htext]
  exact trim_of_forall (dateText_notSpace w)

lemma recognised {t' : Int} (hplain : ¬ twoDigitYear (rt.localDate zone t).year)
    (hplain' : ¬ twoDigitYear (rt.localDate zone t').year) :
    Recognised rt zone startDay t t' := by
  rintro number sub sub' hsub hsub' s s' branch branch' id id' hid hid' ⟨rfl, rfl⟩ ⟨hzone, hstart⟩
    hten hbranch
  obtain ⟨rfl, hnumber⟩ := hsub.request
  obtain ⟨rfl, hnumber'⟩ := hsub'.request
  obtain ⟨hweek, hnormalized⟩ := Submission.receipt_ok hid
  obtain ⟨hweek', hnormalized'⟩ := Submission.receipt_ok hid'
  rw [utcDay_eq hplain] at hweek
  rw [hzone, hstart, utcDay_eq hplain'] at hweek'
  have hsame : id = id' ↔ id.receiptWeekStart = id'.receiptWeekStart := by
    obtain ⟨ten, br, week, num⟩ := id
    obtain ⟨ten', br', week', num'⟩ := id'
    have hnum : num = num' := by
      rw [show num = _ from hnormalized, show num' = _ from hnormalized', hnumber, hnumber']
    simp only [ReceiptIdentity.mk.injEq]
    exact ⟨fun h => h.2.2.1, fun h => ⟨hten, hbranch, h, hnum⟩⟩
  refine ⟨?_, fun heq hused now => Submission.run_refused hid' (heq ▸ hused) now⟩
  rw [hsame, hweek, hweek', mul_left_inj' (by decide : msPerDay ≠ 0), weekStart_eq_iff]
  rfl

/-- **Receipt weeks are one partition in four places**, and only there, between the year 100 and
the last week that begins in the year 9999. Outside, a year is read as one of the twentieth
century, or the form's text loses the day. -/
theorem deriveReceiptWeekStart_onePartition (rt : OfflineSyncRuntime) (browser : Browser)
    (zone : String) (startDay : Int) (hday : 0 ≤ startDay ∧ startDay ≤ 6)
    (text text' : String) (t t' : Int) (hcal : LocalCalendar rt.toRuntime browser zone t)
    (hcal' : LocalCalendar rt.toRuntime browser zone t')
    (hform : browser.parse text = some t) (hform' : browser.parse text' = some t')
    (hserver : rt.parse text = some t) (hserver' : rt.parse text' = some t') :
    OnePartition rt browser zone startDay text text' t t' ↔
      PlainDate startDay (rt.localDate zone t) ∧ PlainDate startDay (rt.localDate zone t') := by
  constructor
  · intro h
    exact ⟨(derivedWeek_iff hday hcal hform).1 h.derived,
      (derivedWeek_iff hday hcal' hform').1 h.derived'⟩
  · rintro ⟨hplain, hplain'⟩
    have hyear := ((plainDate_iff hcal.ofDay).1 hplain).1
    have hyear' := ((plainDate_iff hcal'.ofDay).1 hplain').1
    refine ⟨(derivedWeek_iff hday hcal hform).2 hplain,
      (derivedWeek_iff hday hcal' hform').2 hplain', ?_,
        neverMismatched hday hcal hform hserver hplain,
      neverMismatched hday hcal' hform' hserver' hplain', recognised hyear hyear'⟩
    intro w w' hw hw'
    have hwe := hw.offline
    have hwe' := hw'.offline
    rw [offlineDerive_eq hday, utcDay_eq hyear] at hwe
    rw [offlineDerive_eq hday, utcDay_eq hyear'] at hwe'
    rw [← hwe, ← hwe', mul_left_inj' (by decide : msPerDay ≠ 0), weekStart_eq_iff]
    rfl

end partition

namespace Shop

/-- A purchase on a Tuesday, one on the Monday after, and a late claim whose year was entered
with two digits. -/
def receiptTexts : List (String × Int) :=
  [("2023-11-14T22:13:20.000Z", 1700000000000), ("2023-11-20T00:30:00.000Z", 1700440200000),
    ("0050-06-15T12:00:00.000Z", -60574996800000)]

def receiptRuntime : OfflineSyncRuntime where
  toRuntime := runtime
  OFFLINE_SYNC_MAX_RECORDS := none
  OFFLINE_EARN_MAX_AGE_HOURS := none
  parse text := receiptTexts.lookup text

def receiptBrowser : Browser :=
  { browser with parse := fun text => receiptTexts.lookup text }

lemma receiptCalendar (t : Int) : LocalCalendar receiptRuntime.toRuntime receiptBrowser
    "UTC" t where
  date := rfl
  ofDay := ⟨t / msPerDay, rfl⟩
  weekday := by
    have hdate : receiptRuntime.localDate "UTC" t = dateOf (t / msPerDay) := rfl
    rw [hdate, dayNumber_dateOf]
    rfl

end Shop

theorem deriveReceiptWeekStart_onePartition_shop :
    OnePartition Shop.receiptRuntime Shop.receiptBrowser "UTC" 1 "2023-11-14T22:13:20.000Z"
      "2023-11-20T00:30:00.000Z" 1700000000000 1700440200000 :=
  (deriveReceiptWeekStart_onePartition Shop.receiptRuntime Shop.receiptBrowser "UTC" 1
    (by decide) _ _
    _ _ (Shop.receiptCalendar _) (Shop.receiptCalendar _) (by decide) (by decide) (by decide)
    (by decide)).2 ⟨by decide, by decide⟩

/-- The year 50 is taken for 1950. -/
theorem deriveReceiptWeekStart_twoDigitYear :
    (∀ t, LocalCalendar Shop.receiptRuntime.toRuntime Shop.receiptBrowser "UTC" t) ∧
    Shop.receiptBrowser.parse "0050-06-15T12:00:00.000Z" = some (-60574996800000) ∧
    Shop.receiptRuntime.parse "0050-06-15T12:00:00.000Z" = some (-60574996800000) ∧
    ¬ OnePartition Shop.receiptRuntime Shop.receiptBrowser "UTC" 1 "0050-06-15T12:00:00.000Z"
      "0050-06-15T12:00:00.000Z" (-60574996800000) (-60574996800000) := by
  refine ⟨Shop.receiptCalendar, by decide, by decide, fun h => ?_⟩
  obtain ⟨w, hw⟩ := h.derived
  have hclose := hw.inWeek.1
  rw [← hw.offline] at hclose
  exact absurd hclose (by decide)

end ShopcityLoyalty
