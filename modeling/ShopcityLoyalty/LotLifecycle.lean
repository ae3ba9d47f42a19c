import ShopcityLoyalty.TransactionWrites

/-!
The lifecycle rule of credit lots: the database derives a lot's expiry from its earning and
refuses any other, while the services compute it on their own, in two ways.

Both computations are compared with the derived expiry over all instants, and the four
operations that open lots are shown to be refused by the rule only where they differ.
-/

namespace ShopcityLoyalty

open Txn Database Calendar

/-! ### The three computations of an expiry -/

lemma join_inj {d d' : Date} {ms : Int} : join d ms = join d' ms ↔ dayNumber d = dayNumber d' := by
  unfold join msPerDay
  omega

lemma derive_eq_some {earned_at expires_at : Int} :
    derive_credit_lot_expires_at earned_at = some expires_at ↔ (split earned_at).1.year ≠ 0 ∧
      join ⟨(split earned_at).1.year + 1, (split earned_at).1.month,
        min (split earned_at).1.day
          (daysInMonth ((split earned_at).1.year + 1) (split earned_at).1.month)⟩
        (split earned_at).2 = expires_at := by
  unfold derive_credit_lot_expires_at
  dsimp only
  split
  · simp [*]
  · simp [*]

/-- `Date.UTC` reads the years 0 to 99 as 1900 to 1999. -/
def twoDigitYear (year : Int) : Prop := 0 ≤ year ∧ year ≤ 99

instance : DecidablePred twoDigitYear := fun _ => inferInstanceAs (Decidable (_ ∧ _))

/-- Whether the expiry that the earning operations compute is the derived one. -/
def clampedExpiryDerived (earnedAt : Int) : Prop := ¬ twoDigitYear ((split earnedAt).1.year + 1)

instance : DecidablePred clampedExpiryDerived := fun _ => inferInstanceAs (Decidable (¬ _))

lemma clampedDate_iff {d : Date} {ms : Int}
    (hd : 1 ≤ d.month ∧ d.month ≤ 12 ∧ 1 ≤ d.day ∧ d.day ≤ 31) :
    (d.year ≠ 0 ∧
      join ⟨d.year + 1, d.month, min d.day (daysInMonth (d.year + 1) d.month)⟩ ms =
        dateUTC ⟨d.year + (d.month - 1 + 12) / 12, (d.month - 1 + 12) % 12 + 1,
          min d.day (daysInMonth (if 0 ≤ d.year + (d.month - 1 + 12) / 12 ∧
            d.year + (d.month - 1 + 12) / 12 ≤ 99 then 1900 + (d.year + (d.month - 1 + 12) / 12)
            else d.year + (d.month - 1 + 12) / 12) ((d.month - 1 + 12) % 12 + 1))⟩ ms) ↔
      ¬ twoDigitYear (d.year + 1) := by
  obtain ⟨hm1, hm12, hd1, hd31⟩ := hd
  have hyear : d.year + (d.month - 1 + 12) / 12 = d.year + 1 := by omega
  have hmonth : (d.month - 1 + 12) % 12 + 1 = d.month := by omega
  rw [hyear, hmonth]
  unfold dateUTC twoDigitYear
  by_cases htwo : 0 ≤ d.year + 1 ∧ d.year + 1 ≤ 99
  · simp only [if_pos htwo]
    rw [join_inj]
    have hlen := daysInMonth_bounds (d.year + 1) d.month
    have hlen' := daysInMonth_bounds (1900 + (d.year + 1)) d.month
    refine ⟨fun ⟨_, heq⟩ => ?_, fun hnot => absurd htwo hnot⟩
    simp only [dayNumber] at heq
    split at heq <;> omega
  · simp only [if_neg htwo]
    have hyear0 : d.year ≠ 0 := by omega
    exact ⟨fun _ => htwo, fun _ => ⟨hyear0, trivial⟩⟩

/-- **Twelve clamped months** are the derived expiry, unless `Date.UTC` takes the year for
one of the twentieth century. -/
theorem derive_eq_addUtcMonthsClamped (earnedAt : Int) :
    derive_credit_lot_expires_at earnedAt = some (addUtcMonthsClamped earnedAt 12) ↔
      clampedExpiryDerived earnedAt :=
  derive_eq_some.trans (clampedDate_iff (dateOf_bounds _))

/-- Whether the expiry that an adjustment computes is the derived one: its months are twelve,
and the day of the month exists a year later. -/
def adjustmentExpiryDerived (months effectiveAt : Int) : Prop :=
  let date := (split effectiveAt).1
  months = 12 ∧ date.day ≤ daysInMonth (date.year + 1) date.month ∧ date.year ≠ 0

instance (months : Int) : DecidablePred (adjustmentExpiryDerived months) := fun _ =>
  inferInstanceAs (Decidable (_ ∧ _))

lemma addedDate_iff {d : Date} {ms months : Int}
    (hd : 1 ≤ d.month ∧ d.month ≤ 12 ∧ 1 ≤ d.day ∧ d.day ≤ 31) :
    (d.year ≠ 0 ∧
      join ⟨d.year + 1, d.month, min d.day (daysInMonth (d.year + 1) d.month)⟩ ms =
        join ⟨d.year + (d.month - 1 + months) / 12, (d.month - 1 + months) % 12 + 1, d.day⟩ ms) ↔
      months = 12 ∧ d.day ≤ daysInMonth (d.year + 1) d.month ∧ d.year ≠ 0 := by
  obtain ⟨hm1, hm12, hd1, hd31⟩ := hd
  rw [join_inj]
  -- both are days of a month counted from the year 0
  have hlater : 1 ≤ (d.month - 1 + months) % 12 + 1 ∧ (d.month - 1 + months) % 12 + 1 ≤ 12 := by
    omega
  have hk : 12 * (d.year + (d.month - 1 + months) / 12) + (d.month - 1 + months) % 12 =
      12 * (d.year + 1) + (d.month - 1) + (months - 12) := by omega
  have hderived := dayNumber_month
    ⟨d.year + 1, d.month, min d.day (daysInMonth (d.year + 1) d.month)⟩ ⟨hm1, hm12⟩
  have hadded := dayNumber_month
    ⟨d.year + (d.month - 1 + months) / 12, (d.month - 1 + months) % 12 + 1, d.day⟩ hlater
  simp only [add_sub_cancel_right] at hadded
  rw [hk] at hadded
  rw [hderived, hadded]
  generalize hkk : 12 * (d.year + 1) + (d.month - 1) = k
  have hyear : k / 12 = d.year + 1 := by omega
  have hmonth : k % 12 + 1 = d.month := by omega
  have hlen := daysInMonth_bounds (d.year + 1) d.month
  have hsucc := firstOfMonth_succ k
  rw [hyear, hmonth] at hsucc
  rcases lt_trichotomy months 12 with hlt | rfl | hgt
  · -- an earlier month ends before the derived day
    have hprev := firstOfMonth_succ (k - 1)
    have hplen := daysInMonth_bounds ((k - 1) / 12) ((k - 1) % 12 + 1)
    rw [sub_add_cancel] at hprev
    have hmono := firstOfMonth_add (k + (months - 12)) (11 - months).toNat
    have hto : k + (months - 12) + ((11 - months).toNat : Int) = k - 1 := by omega
    rw [hto] at hmono
    constructor
    · rintro ⟨-, heq⟩
      dsimp only at heq
      omega
    · rintro ⟨heq, -⟩
      omega
  · rw [sub_self, add_zero]
    constructor
    · rintro ⟨hy, heq⟩
      dsimp only at heq
      exact ⟨rfl, by omega, hy⟩
    · rintro ⟨-, hle, hy⟩
      refine ⟨hy, ?_⟩
      rw [min_eq_left hle]
  · -- a later month begins after the derived day
    have hmono := firstOfMonth_add (k + 1) (months - 13).toNat
    have hto : k + 1 + ((months - 13).toNat : Int) = k + (months - 12) := by omega
    rw [hto] at hmono
    constructor
    · rintro ⟨-, heq⟩
      dsimp only at heq
      omega
    · rintro ⟨heq, -⟩
      omega

/-- **Months that overflow** are the derived expiry only when they are twelve and the day of
the month exists a year later, so never from 29 February. -/
theorem derive_eq_addMonths (effectiveAt months : Int) :
    derive_credit_lot_expires_at effectiveAt =
        some (AdjustmentsService.addMonths effectiveAt months) ↔
      adjustmentExpiryDerived months effectiveAt :=
  derive_eq_some.trans (addedDate_iff (dateOf_bounds _))

/-! ### What the rule refuses -/

/-- No lot is opened, unless as `P` says. -/
def LotsKept (P : Prop) (s t : Database) : Prop := t.lots.length = s.lots.length ∨ P

instance (P : Prop) : Std.Refl (LotsKept P) := ⟨fun _ => .inl rfl⟩

instance (P : Prop) : IsTrans Database (LotsKept P) where
  trans _ _ _ h h' := by
    rcases h with h | h
    · exact h'.imp_left fun h' => h'.trans h
    · exact .inr h

/-- A body that opens lots only if `P` holds, and that the lifecycle rule refuses only if it
does not. -/
abbrev Lawful {α : Type} (P : Prop) (m : Tx α) : Prop :=
  Within (LotsKept P) (fun f => f = lifecycleFault → ¬ P) m

section lawful

variable {P : Prop} {α : Type}

/-- **The rule itself**: a lot is opened exactly with the derived expiry. -/
lemma lawful_insertCreditLot {tenantId customerId : String} {i : Nat} {k : PositiveKobo}
    {earnedAt expiresAt : Int} (h : derive_credit_lot_expires_at earnedAt = some expiresAt ↔ P) :
    Lawful P (insertCreditLot tenantId customerId i k earnedAt expiresAt) := by
  unfold insertCreditLot
  refine Within.bind within_get fun _ => within_orFault_bind (fun hnone _ hp => ?_) fun l hl => ?_
  · rw [wholeLot?, dif_pos (h.2 hp)] at hnone
    cases hnone
  · have hwhole := wholeLot?_eq_some.1 hl
    have hp : P := by
      refine h.1 ?_
      rw [← hwhole.earnedAt, ← hwhole.expiresAt]
      exact l.lifecycle
    have hother : ∀ {c : Prop} [Decidable c] {f : Fault}, f ≠ lifecycleFault →
        Lawful P (rejectIf c f) := fun hne => within_rejectIf fun _ he => absurd he hne
    exact Within.bind (hother (by decide)) fun _ => Within.bind (hother (by decide)) fun _ =>
      Within.bind (within_update fun _ => .inr hp) fun _ => within_pure _

lemma lawful_writes (rt : Runtime) :
    Writes rt (LotsKept P) (fun f => f = lifecycleFault → ¬ P) where
  rows _ _ hlots _ _ := .inl hlots
  audit _ _ _ := .inl rfl
  event _ _ _ := .inl rfl
  reversal _ _ _ _ _ _ := .inl rfl
  faults _ hne heq := absurd heq hne

/-! ### The operations that open lots -/

lemma lawful_adjustmentTransaction (rt : Runtime) (req : AdjustmentRequest)
    (startedAt now finishedAt : Int) :
    Lawful (adjustmentExpiryDerived rt.ADJUSTMENT_CREDIT_EXPIRY_MONTHS req.effectiveAt)
      (AdjustmentsService.adjustmentTransaction rt req startedAt now finishedAt) := by
  have hlot := derive_eq_addMonths req.effectiveAt rt.ADJUSTMENT_CREDIT_EXPIRY_MONTHS
  exact (lawful_writes rt).adjustmentTransaction (fun _ _ => lawful_insertCreditLot hlot) _ _ _

lemma lawful_executeRedemptionSettlement (rt : Runtime) (input : RedemptionSettlementInput) :
    Lawful (clampedExpiryDerived input.occurredAt) (executeRedemptionSettlement rt input) := by
  have hlot := derive_eq_addUtcMonthsClamped input.occurredAt
  exact (lawful_writes rt).executeRedemptionSettlement fun _ _ _ _ => lawful_insertCreditLot hlot

lemma lawful_executeEarnApproval (rt : Runtime) (req : DecisionRequest) (receiptId : Nat)
    (receipt : Receipt) (now : Int) : Lawful (clampedExpiryDerived receipt.occurredAt)
      (LoyaltyService.executeEarnApproval rt req receiptId receipt now) := by
  have hlot := derive_eq_addUtcMonthsClamped receipt.occurredAt
  exact (lawful_writes rt).executeEarnApproval fun _ _ _ _ => lawful_insertCreditLot hlot

lemma lawful_earnTransaction (rt : Runtime) (req : EarnRequest) (adm : LoyaltyService.EarnAdmission)
    (now : Int) : Lawful (clampedExpiryDerived req.occurredAt)
      (LoyaltyService.earnTransaction rt req adm now) := by
  have hlot := derive_eq_addUtcMonthsClamped req.occurredAt
  exact (lawful_writes rt).earnTransaction (fun _ _ _ _ => lawful_insertCreditLot hlot)
    fun _ _ _ => within_update fun _ => .inl rfl

end lawful

/-- The rule never refuses the operation under a condition, and without it whatever the
operation commits opens no lot. -/
structure RuledBy {α : Type} (P : Prop) (m : Tx α) : Prop where
  admitted : P → ∀ s, m s ≠ .error lifecycleFault
  refused : ¬ P → ∀ {s a t}, m s = .ok (a, t) → t.lots.length = s.lots.length

lemma RuledBy.of_lawful {α : Type} {P : Prop} {m : Tx α} (h : Lawful P m) : RuledBy P m := by
  refine ⟨fun hp s herr => h.error herr rfl hp, fun hp s a t hok => ?_⟩
  rcases h.ok hok with hsame | habsurd
  · exact hsame
  · exact absurd habsurd hp

/-- **The lifecycle rule and the services**: where each computed expiry is the derived one,
and that the four operations that open lots are refused exactly where it is not. -/
theorem lot_expiry_derived_iff (rt : Runtime) :
    (∀ earnedAt, derive_credit_lot_expires_at earnedAt = some (addUtcMonthsClamped earnedAt 12) ↔
      clampedExpiryDerived earnedAt) ∧
    (∀ effectiveAt, derive_credit_lot_expires_at effectiveAt =
        some (AdjustmentsService.addMonths effectiveAt rt.ADJUSTMENT_CREDIT_EXPIRY_MONTHS) ↔
      adjustmentExpiryDerived rt.ADJUSTMENT_CREDIT_EXPIRY_MONTHS effectiveAt) ∧
    (∀ req adm now, RuledBy (clampedExpiryDerived req.occurredAt)
      (LoyaltyService.earnTransaction rt req adm now)) ∧
    (∀ req receiptId receipt now, RuledBy (clampedExpiryDerived receipt.occurredAt)
      (LoyaltyService.executeEarnApproval rt req receiptId receipt now)) ∧
    (∀ input, RuledBy (clampedExpiryDerived input.occurredAt)
      (executeRedemptionSettlement rt input)) ∧
    ∀ req startedAt now finishedAt,
      RuledBy (adjustmentExpiryDerived rt.ADJUSTMENT_CREDIT_EXPIRY_MONTHS req.effectiveAt)
        (AdjustmentsService.adjustmentTransaction rt req startedAt now finishedAt) :=
  ⟨derive_eq_addUtcMonthsClamped, fun effectiveAt => derive_eq_addMonths effectiveAt _,
    fun req adm now => .of_lawful (lawful_earnTransaction rt req adm now),
    fun req receiptId receipt now =>
      .of_lawful (lawful_executeEarnApproval rt req receiptId receipt now),
    fun input => .of_lawful (lawful_executeRedemptionSettlement rt input),
    fun req startedAt now finishedAt =>
      .of_lawful (lawful_adjustmentTransaction rt req startedAt now finishedAt)⟩

/-! ### A leap day -/

/-- Noon of 29 February 2024. -/
def Shop.leapDay : Int := 1709208000000

def Shop.administrator : AuthContext := ⟨"administrator", "tenant", none, .ADMIN, none⟩

def Shop.goodwill : AdjustmentRequest where
  actor := Shop.administrator
  idempotencyKey := "goodwill"
  customerId := "customer"
  kind := .CREDIT
  amountKobo := ⟨100000, by decide⟩
  reason := "goodwill"
  effectiveAt := Shop.leapDay
  requestHash := sha256 "goodwill"

/-- Twelve months from 29 February run into 1 March, and the rule refuses the adjustment. -/
theorem adjustment_on_leap_day_refused :
    Shop.runtime.ADJUSTMENT_CREDIT_EXPIRY_MONTHS = 12 ∧
      (AdjustmentsService.addMonths Shop.leapDay 12 = 1740830400000 ∧
        derive_credit_lot_expires_at Shop.leapDay = some 1740744000000) ∧
      (AdjustmentsService.adjustmentTransaction Shop.runtime Shop.goodwill Shop.leapDay Shop.leapDay
        Shop.leapDay Shop.opened.db).map Prod.fst = .error lifecycleFault := by
  decide +kernel

end ShopcityLoyalty
