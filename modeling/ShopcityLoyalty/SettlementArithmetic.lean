import ShopcityLoyalty.CapturedRows
import ShopcityLoyalty.EarnRates
import ShopcityLoyalty.FefoAllocation
import ShopcityLoyalty.Registrations

/-!
The arithmetic of settlements, from the capture of a redemption to the balance it leaves.

The capture bounds the redemption by the basket. The settlement takes that amount from the lots
the customer can spend, and earns on the rest of the basket; the lot it opens for that comes
after the debit and lives for nearly a year at least.
-/

namespace ShopcityLoyalty

open Txn Database LotAllocationService

/-! ### Balances -/

lemma Moved.tally {δ : Nat → Int} {ls ls' : Table CreditLot} {P : CreditLot → Prop}
    [DecidablePred P] (h : Moved δ ls ls') (hP : ∀ l l', SameLot l l' → (P l' ↔ P l)) :
    ls'.tally P (·.remainingAmountKobo) = ls.tally P (·.remainingAmountKobo) +
      ∑ i ∈ Finset.range ls.length, (ls[i]?.map fun l => if P l then δ i else 0).getD 0 := by
  rw [Table.tally_eq_sum_range, Table.tally_eq_sum_range, h.length_eq, ← Finset.sum_add_distrib]
  refine Finset.sum_congr rfl fun i hi => ?_
  obtain ⟨l, hl⟩ : ∃ l, ls[i]? = some l :=
    ⟨_, List.getElem?_eq_getElem (Finset.mem_range.1 hi)⟩
  obtain ⟨l', hl', hsame, hrem⟩ := h.lot hl
  rw [hl, hl']
  by_cases hp : P l
  · simp [hp, (hP l l' hsame).2 hp, hrem]
  · have hp' : ¬ P l' := fun h => hp ((hP l l' hsame).1 h)
    simp [hp, hp']

/-- A lot of the customer that has not expired. -/
def UnexpiredLot (tenantId customerId : String) (now : Int) (l : CreditLot) : Prop :=
  l.tenantId = tenantId ∧ l.customerId = customerId ∧ now < l.expiresAt

instance (tenantId customerId : String) (now : Int) :
    DecidablePred (UnexpiredLot tenantId customerId now) := fun _ => by
  unfold UnexpiredLot
  infer_instance

lemma SameLot.unexpired_iff {tenantId customerId : String} {now : Int} {l l' : CreditLot}
    (h : SameLot l l') :
    UnexpiredLot tenantId customerId now l' ↔ UnexpiredLot tenantId customerId now l := by
  rw [UnexpiredLot, UnexpiredLot, h.tenantId, h.customerId, h.expiresAt]

lemma activeBalance_eq (db : Database) (tenantId customerId : String) (now : Int) :
    ActiveBalanceService.getActiveBalanceKobo db tenantId customerId now =
      db.lots.tally (UnexpiredLot tenantId customerId now) (·.remainingAmountKobo) := by
  refine Table.tally_congr fun l _ => ?_
  have hnonneg := l.remaining_nonneg
  simp only [ActiveBalanceService.activeCreditLotWhere, UnexpiredLot, Bool.and_eq_true,
    decide_eq_true_eq]
  by_cases hpos : 0 < l.remainingAmountKobo
  · simp [hpos, and_assoc]
  · have hzero : l.remainingAmountKobo = 0 := by omega
    simp [hzero]

/-- A debit drawn from unexpired lots takes its amount from the balance. -/
lemma LotAllocationService.Drawn.balance {input : AllocateDebitInput}
    {allocations : List PersistedAllocation}
    {rows : List RedemptionAllocation} {s t : Database} (h : Drawn input allocations rows s t)
    (hlive : ∀ r ∈ rows, ∃ l, s.lots[r.creditLotId]? = some l ∧ input.now < l.expiresAt) :
    ActiveBalanceService.getActiveBalanceKobo t input.tenantId input.customerId input.now =
      ActiveBalanceService.getActiveBalanceKobo s input.tenantId input.customerId input.now -
        input.amountKobo := by
  have hrow : ∀ r ∈ rows, ∃ l, s.lots[r.creditLotId]? = some l ∧
      UnexpiredLot input.tenantId input.customerId input.now l := by
    intro r hr
    obtain ⟨l, hl, hten, hcus⟩ := h.onLots r hr
    obtain ⟨l', hl', hexp⟩ := hlive r hr
    obtain rfl : l = l' := Option.some.inj (hl.symm.trans hl')
    exact ⟨l, hl, hten, hcus, hexp⟩
  have hdrawn : ∀ i ∈ Finset.range s.lots.length, (s.lots[i]?.map fun l =>
      if UnexpiredLot input.tenantId input.customerId input.now l then
        -Table.tally rows (fun r => r.creditLotId = i) (·.amountKobo) else 0).getD 0 =
      -Table.tally rows (fun r => r.creditLotId = i ∧ True) (·.amountKobo) := by
    intro i hi
    obtain ⟨l, hl⟩ : ∃ l, s.lots[i]? = some l :=
      ⟨_, List.getElem?_eq_getElem (Finset.mem_range.1 hi)⟩
    rw [hl, Option.map_some, Option.getD_some]
    simp only [and_true]
    by_cases hlot : UnexpiredLot input.tenantId input.customerId input.now l
    · rw [if_pos hlot]
    · rw [if_neg hlot, Table.tally_eq_zero, neg_zero]
      intro r hr hi
      obtain ⟨l', hl', hun⟩ := hrow r hr
      rw [hi, hl] at hl'
      exact hlot (Option.some.inj hl' ▸ hun)
  have hkeys : ∀ r ∈ rows, r.creditLotId < s.lots.length := by
    intro r hr
    obtain ⟨l, hl, -⟩ := hrow r hr
    exact Table.lt_of_getElem? hl
  have hmoved := h.moved.tally (P := UnexpiredLot input.tenantId input.customerId input.now)
    fun _ _ => SameLot.unexpired_iff
  rw [activeBalance_eq, activeBalance_eq, hmoved, Finset.sum_congr rfl hdrawn,
    Finset.sum_neg_distrib, Table.sum_tally_key hkeys, Table.tally_eq_sum fun _ _ =>
      trivial, h.total]
  omega

lemma activeBalance_append (db : Database) {l : CreditLot} {now : Int} (hlive : now < l.expiresAt) :
    ActiveBalanceService.getActiveBalanceKobo { db with lots := db.lots ++ [l] } l.tenantId
        l.customerId now =
      ActiveBalanceService.getActiveBalanceKobo db l.tenantId l.customerId now +
        l.remainingAmountKobo := by
  have hun : UnexpiredLot l.tenantId l.customerId now l := ⟨rfl, rfl, hlive⟩
  rw [activeBalance_eq, activeBalance_eq, Table.tally_append]
  simp [hun]

/-! ### The debit and the credit of a settlement -/

lemma allocateDebit_eligible {rt : Runtime} {input : AllocateDebitInput} {s t : Database}
    {allocations : List PersistedAllocation} (hpos : 0 < input.amountKobo)
    (h : allocateDebit rt input s = .ok (allocations, t)) : Exact rt s input allocations := by
  rcases plannedDebit_eq rt s hpos with ⟨-, as, hplan, hexact⟩ | ⟨-, hplan⟩
  · rw [allocateDebit_eq, bind_of_ok hplan] at h
    simp only [bind_ok, pure_ok] at h
    obtain ⟨_, _, -, rfl, -⟩ := h
    exact hexact
  · rw [allocateDebit_eq, bind_of_error hplan] at h
    cases h

lemma CreditLot.expiry_far (l : CreditLot) :
    l.earnedAt + 362 * Calendar.msPerDay ≤ l.expiresAt := by
  obtain ⟨-, hjoin⟩ := derive_eq_some.1 l.lifecycle
  set d := Calendar.dateOf (l.earnedAt / Calendar.msPerDay)
  have hexpiry : Calendar.join ⟨d.year + 1, d.month, min d.day
      (Calendar.daysInMonth (d.year + 1) d.month)⟩ (l.earnedAt % Calendar.msPerDay) =
        l.expiresAt := hjoin
  have hday : Calendar.dayNumber ⟨d.year, d.month, d.day⟩ = l.earnedAt / Calendar.msPerDay :=
    Calendar.dayNumber_dateOf _
  have hbounds : 1 ≤ d.month ∧ d.month ≤ 12 ∧ 1 ≤ d.day ∧ d.day ≤ 31 := Calendar.dateOf_bounds _
  have hlen := Calendar.daysInMonth_bounds (d.year + 1) d.month
  have hyear : Calendar.dayNumber ⟨d.year, d.month, d.day⟩ + 362 ≤ Calendar.dayNumber
      ⟨d.year + 1, d.month, min d.day (Calendar.daysInMonth (d.year + 1) d.month)⟩ :=
    Calendar.dayNumber_yearLater (by omega)
  rw [← hexpiry, Calendar.join]
  unfold Calendar.msPerDay at *
  omega

section earned

variable {input : RedemptionSettlementInput} {earnedKobo : Int} {s t : Database} {i : Option Nat}

lemma Earned.balance (h : Earned input earnedKobo s t i) (hnonneg : 0 ≤ earnedKobo)
    (hlive : input.now < input.occurredAt + 362 * Calendar.msPerDay) :
    ActiveBalanceService.getActiveBalanceKobo t input.tenantId input.customerId input.now =
      ActiveBalanceService.getActiveBalanceKobo s input.tenantId input.customerId input.now +
        earnedKobo := by
  cases h with
  | nothing hzero frame =>
      rw [frame]
      omega
  | @credit k l amount posting frame =>
      have hlot := posting.lot
      have htenant : l.tenantId = input.tenantId := hlot.tenantId
      have hcustomer : l.customerId = input.customerId := hlot.customerId
      have hamount : l.remainingAmountKobo = k := hlot.remainingAmountKobo
      have hearned : l.earnedAt = input.occurredAt := hlot.earnedAt
      have hfar := l.expiry_far
      have happend : ActiveBalanceService.getActiveBalanceKobo _ l.tenantId l.customerId input.now =
          ActiveBalanceService.getActiveBalanceKobo s l.tenantId l.customerId input.now +
            l.remainingAmountKobo := activeBalance_append s (by omega)
      rw [htenant, hcustomer, hamount, amount] at happend
      rw [← happend, frame]
      rfl

lemma Earned.lot_new (h : Earned input earnedKobo s t i)
    (hlots : ∀ l ∈ s.lots, l.earnLedgerEntryId < s.ledger.length) {j : Nat} {l : CreditLot}
    (hl : t.lots[j]? = some l) (hnew : i = some l.earnLedgerEntryId) : s.lots.length ≤ j := by
  cases h with
  | nothing _ _ => cases hnew
  | credit _ _ frame =>
      rw [frame] at hl
      rcases Table.getElem?_insert_iff.1 hl with hold | ⟨rfl, -⟩
      · have hlt := hlots l (List.mem_of_getElem? hold)
        have heq := Option.some.inj hnew
        omega
      · exact le_rfl

end earned

/-- The amounts of a settlement. -/
structure SettlementLaw (input : RedemptionSettlementInput) (res : RedemptionSettlementResult)
    (s t : Database) : Prop where
  /-- What is left to pay. -/
  netPaid : res.netPaidAmountKobo = input.basketAmountKobo - input.redeemedAmountKobo
  allocated : (res.allocations.map (·.amountKobo)).sum = input.redeemedAmountKobo
  earned : res.earnedKobo =
    creditAt (input.basketAmountKobo - input.redeemedAmountKobo) input.earnRateBps
  /-- The lot of this settlement pays nothing of it. -/
  ownLot : ∀ (i : Nat) l, t.lots[i]? = some l → res.earnLedgerEntryId = some l.earnLedgerEntryId →
    ∀ a ∈ res.allocations, a.creditLotId ≠ i
  balance : ActiveBalanceService.getActiveBalanceKobo t input.tenantId input.customerId input.now =
    ActiveBalanceService.getActiveBalanceKobo s input.tenantId input.customerId input.now -
      input.redeemedAmountKobo + res.earnedKobo
  remaining : res.remainingBalanceKobo =
    ActiveBalanceService.getActiveBalanceKobo t input.tenantId input.customerId input.now

/-- **A settlement** keeps the amounts, when its lot outlives it. -/
theorem executeRedemptionSettlement_law {rt : Runtime} {input : RedemptionSettlementInput}
    {res : RedemptionSettlementResult} {s t : Database} (hsound : s.books.Sound)
    (hrate : 0 ≤ input.earnRateBps) (hlive : input.now < input.occurredAt + 362 * Calendar.msPerDay)
    (h : executeRedemptionSettlement rt input s = .ok (res, t)) : SettlementLaw input res s t := by
  simp only [executeRedemptionSettlement, bind_ok, rejectIf_ok, orFault_ok, insertLedgerEntry_ok,
    modifyRedemption_ok, get_ok, insertOutboxEvent_ok, pure_ok, PositiveKobo.of?_eq_some,
    not_not] at h
  obtain ⟨_, _, ⟨-, rfl⟩, _, _, ⟨hnet, rfl⟩, k, _, ⟨hk, rfl⟩, _, _, ⟨-, rfl, rfl⟩, _, v,
    ⟨r, -, -, hv⟩, as, m, hdraw, _, _, ⟨htotal, rfl⟩, i, u, hearn, _, _, ⟨rfl, rfl⟩, _, _, rfl, rfl,
    rfl⟩ := h
  have hvlots : v.lots = s.lots := by rw [hv]
  have hvledger : v.ledger.length = s.ledger.length + 1 := by
    rw [hv]
    simp
  obtain ⟨rows, hdrawn⟩ := allocateDebit_ok hdraw
  have hpos : 0 < (input.debit s.ledger.length).amountKobo := by
    have hk' : (k : Int) = input.redeemedAmountKobo := hk.symm
    have hkpos := k.2
    change 0 < input.redeemedAmountKobo
    omega
  have hexact := allocateDebit_eligible hpos hdraw
  have hbefore : ∀ a ∈ as, ∃ l, v.lots[a.creditLotId]? = some l ∧ input.now < l.expiresAt := by
    intro a ha
    obtain ⟨l, hl, -⟩ := hexact.within a ha
    obtain ⟨hrow, -, -, -, hexp, -⟩ := mem_eligibleLots.1 hl
    exact ⟨l, hrow, hexp⟩
  have hrows : ∀ x ∈ rows, ∃ l, v.lots[x.creditLotId]? = some l ∧ input.now < l.expiresAt := by
    intro x hx
    obtain ⟨a, ha, hrow⟩ := hdrawn.returned.exists_left_of_mem hx
    rw [hrow.creditLotId]
    exact hbefore a ha
  have hdebit := hdrawn.balance hrows
  have hearned := earnOnNetPaid_ok hearn
  have hcredit := calculateEarnAmountKobo_eq (input.basketAmountKobo - input.redeemedAmountKobo)
    input.earnRateBps
  refine ⟨rfl, htotal, hcredit, ?_, ?_, rfl⟩
  · intro j l hl hnew a ha heq
    -- the lot of the credit comes after the debit, which cannot have drawn on it
    have hold : ∀ l ∈ m.lots, l.earnLedgerEntryId < m.ledger.length := by
      intro l hl
      obtain ⟨i, hi⟩ := List.getElem?_of_mem hl
      obtain ⟨l₀, hl₀, hsame, -⟩ := hdrawn.moved.lot_before hi
      rw [hvlots] at hl₀
      have hlt : l₀.earnLedgerEntryId < s.ledger.length :=
        hsound.lt_of_lot (List.mem_of_getElem? hl₀)
      have hmledger : m.ledger = v.ledger := by rw [hdrawn.frame]
      rw [hsame.earnLedgerEntryId, hmledger]
      omega
    have hnext := hearned.lot_new hold hl hnew
    obtain ⟨l', hl', -⟩ := hbefore a ha
    have hlt := Table.lt_of_getElem? hl'
    have hlen := hdrawn.moved.length_eq
    omega
  · have hnonneg : 0 ≤ calculateEarnAmountKobo (input.basketAmountKobo - input.redeemedAmountKobo)
        input.earnRateBps := by
      have hprod := mul_nonneg (not_lt.1 hnet) hrate
      unfold calculateEarnAmountKobo
      omega
    have hlast := hearned.balance hnonneg hlive
    have hfirst : ActiveBalanceService.getActiveBalanceKobo v input.tenantId input.customerId
        input.now = ActiveBalanceService.getActiveBalanceKobo s input.tenantId input.customerId
          input.now := by
      unfold ActiveBalanceService.getActiveBalanceKobo
      rw [hvlots]
    have hmiddle : ActiveBalanceService.getActiveBalanceKobo m input.tenantId input.customerId
        input.now = ActiveBalanceService.getActiveBalanceKobo v input.tenantId input.customerId
          input.now - input.redeemedAmountKobo := hdebit
    change ActiveBalanceService.getActiveBalanceKobo u _ _ _ = _
    rw [hlast, hmiddle, hfirst]

/-! ### What a capture admits -/

/-- The part of the basket that a policy allows to be redeemed, in percent. -/
def basketPercent (rt : Runtime) (configuredPolicy : Option PolicyConfiguration) : Int :=
  (configuredPolicy.map (·.maxRedemptionBasketPercent)).getD rt.MAX_REDEMPTION_BASKET_PERCENT

lemma basketPercent_bounds (rt : Runtime) (conf : Option PolicyConfiguration) :
    1 ≤ basketPercent rt conf ∧ basketPercent rt conf ≤ 100 := by
  cases conf with
  | none => exact rt.percent_bounds
  | some p => exact p.percent_bounds

lemma resolveEarnRateBps_nonneg (rt : Runtime) (conf : Option PolicyConfiguration) :
    0 ≤ resolveEarnRateBps rt (conf.map (·.earnPolicy)) := by
  cases conf with
  | none => exact rt.rate_bounds.1
  | some p => exact p.rate_bounds.1

/-- The transaction of a request reads its clock within a day of the request's arrival; the
database client gives up long before. -/
def Prompt (receivedAt now : Int) : Prop := now ≤ receivedAt + Calendar.msPerDay

namespace RedemptionsService

variable {rt : Runtime} {req : RedeemRequest} {adm : RedeemAdmission} {ctx : RedeemContext}
  {a : RedeemAssessment} {now : Int}

lemma admitRedeem_occurredAt {receivedAt : Int} {s t : Database}
    (h : admitRedeem req receivedAt s = .ok (adm, t)) :
    receivedAt - MAX_POS_PAST_SKEW_MS ≤ req.occurredAt := by
  simp only [admitRedeem, assertRedemptionTimestampAllowed, bind_ok, orFault_ok, rejectIf_ok,
    pure_ok] at h
  obtain ⟨_, _, -, _, _, -, _, _, -, _, _, ⟨hskew, -⟩, -⟩ := h
  omega

lemma RedeemStarted.capped {s : Database} (h : RedeemStarted rt req adm ctx a now s) :
    adm.requestedAmountKobo ≤ (adm.basketAmountKobo : Int) *
      basketPercent rt (s.registry.policies req.actor.tenantId ctx.branchId) / 100 := by
  have hcap := h.basketCap
  rw [h.assessment] at hcap
  cases hconf : s.registry.policies req.actor.tenantId ctx.branchId with
  | none => simpa [assessRedeem, RedemptionPolicyService.evaluate, basketPercent, hconf] using hcap
  | some p => simpa [assessRedeem, RedemptionPolicyService.evaluate, basketPercent, hconf,
      PolicyConfiguration.redemptionPolicy] using hcap

lemma RedeemStarted.rate {s : Database} (h : RedeemStarted rt req adm ctx a now s) :
    0 ≤ a.earnRateBps := by
  rw [h.assessment]
  exact resolveEarnRateBps_nonneg rt _

lemma assertRedemptionPolicyAllowsRequest_reads {k : Int} {policy : RedemptionPolicyResult}
    {s t : Database} {u : Unit} (h : assertRedemptionPolicyAllowsRequest k policy s = .ok (u, t)) :
    t = s := by
  simp only [assertRedemptionPolicyAllowsRequest, bind_ok, rejectIf_ok] at h
  obtain ⟨_, _, ⟨-, rfl⟩, _, _, ⟨-, rfl⟩, _, _, ⟨-, rfl⟩, -, rfl⟩ := h
  rfl

lemma RedeemStarted.unique {s : Database} {ctx' : RedeemContext} {a' : RedeemAssessment}
    (h : RedeemStarted rt req adm ctx a now s) (h' : RedeemStarted rt req adm ctx' a' now s) :
    ctx' = ctx ∧ a' = a := by
  have hctx : ctx' = ctx := by
    have heq := h'.context.symm.trans h.context
    exact (Prod.mk.inj (Except.ok.inj heq)).1
  subst hctx
  exact ⟨rfl, h'.assessment.trans h.assessment.symm⟩

lemma redeemTransaction_settles {s t : Database} {res : RedeemTransactionResponse}
    (hstart : RedeemStarted rt req adm ctx a now s) (hdirect : a.requiresApproval = false)
    (h : redeemTransaction rt req adm now s = .ok (res, t)) :
    ∃ v x w, v.books = s.books ∧ executeRedemptionSettlement rt
        (requestedSettlement req adm ctx a s.receipts.length s.redemptions.length now) v =
          .ok (x, w) ∧
      t.books = w.books ∧ res.netPaidAmountKobo = some x.netPaidAmountKobo ∧
      res.earnedKobo = some x.earnedKobo ∧
      res.remainingBalanceKobo = some x.remainingBalanceKobo ∧ res.allocations = x.allocations := by
  simp only [redeemTransaction, bind_ok, get_ok, rejectIf_ok, insertReceipt_ok, insertRedemption_ok,
    recordAudit_ok] at h
  obtain ⟨ctx', _, hctx, _, _, ⟨rfl, rfl⟩, _, _, ⟨-, rfl⟩, _, _, ⟨-, rfl⟩, _, _, hallows, _, _,
    ⟨-, rfl, rfl⟩, _, _, ⟨-, -, -, rfl, rfl⟩, _, v, hv, h⟩ := h
  obtain ⟨rfl, rfl⟩ := Prod.mk.inj (Except.ok.inj (hctx.symm.trans hstart.context))
  rw [← hstart.assessment] at hallows hv h
  have hread := assertRedemptionPolicyAllowsRequest_reads hallows
  subst hread
  rw [hdirect, if_neg (by decide)] at h
  simp only [settleRequest, persistCompletedIdempotencyResponse, bind_ok, insertOutboxEvent_ok,
    insertIdempotencyRecord_ok, recordAudit_ok, pure_ok] at h
  obtain ⟨x, w, hset, _, _, rfl, _, _, ⟨-, rfl⟩, _, _, rfl, hres, ht⟩ := h
  refine ⟨v, x, w, by rw [hv]; rfl, hset, by rw [ht]; rfl, ?_⟩
  rw [hres]
  exact ⟨rfl, rfl, rfl, rfl⟩

end RedemptionsService

lemma LoyaltyService.executeRedemptionApproval_settles {rt : Runtime} {req : DecisionRequest}
    {redemptionId : Nat} {d : Redemption} {r : Receipt} {now : Int} {s t : Database}
    {res : DecisionResult}
    (h : executeRedemptionApproval rt req redemptionId d r now s = .ok (res, t)) :
    ∃ v x w, v.books = s.books ∧ executeRedemptionSettlement rt
        (approvedSettlement rt v req redemptionId d r now) v = .ok (x, w) ∧ t.books = w.books := by
  simp only [executeRedemptionApproval, bind_ok, get_ok, modifyReceipt_ok, recordAudit_ok,
    pure_ok] at h
  obtain ⟨_, v, hmove, _, _, ⟨rfl, rfl⟩, x, w, hset, _, _, ⟨r', -, rfl⟩, _, _, hmove', _, _, rfl, -,
    ht⟩ := h
  obtain ⟨a, -, -, -, -, hv⟩ := moveApproval_ok hmove
  obtain ⟨a', -, -, -, -, rfl⟩ := moveApproval_ok hmove'
  exact ⟨_, x, w, by rw [hv]; rfl, hset, by rw [ht]; rfl⟩

open RedemptionsService LoyaltyService

/-- What is settled, and from which state: a redemption right after its capture, or one that an
approval lets through later. -/
inductive SettlementDue (rt : Runtime) (percent : Int) (v : Database) :
    RedemptionSettlementInput → Prop
  | direct {s : System} {db db' : Database} {req adm ctx a receivedAt now}
      (reachable : Reachable rt s)
      (admitted : admitRedeem req receivedAt db = .ok (adm, db')) (prompt : Prompt receivedAt now)
      (started : RedeemStarted rt req adm ctx a now s.db)
      (policy : percent = basketPercent rt (s.db.registry.policies req.actor.tenantId ctx.branchId))
      (books : v.books = s.db.books) :
      SettlementDue rt percent v
        (requestedSettlement req adm ctx a s.db.receipts.length s.db.redemptions.length now)
  | approved {s u t : System} {db db' : Database} {req adm ctx a receivedAt now}
      (reachable : Reachable rt s) (admitted : admitRedeem req receivedAt db = .ok (adm, db'))
      (prompt : Prompt receivedAt now) (started : RedeemStarted rt req adm ctx a now s.db)
      (waits : a.requiresApproval = true)
      (policy : percent = basketPercent rt (s.db.registry.policies req.actor.tenantId ctx.branchId))
      (captured : Step rt (.redeem req adm now) s u) (later : Steps rt u t) {dec : DecisionRequest}
      {x : Approval} {d : Redemption} {r : Receipt} {decidedAt : Int}
      (asked : dec.approvalId = s.db.approvals.length)
      (approval : t.db.approvals[dec.approvalId]? = some x) (pending : x.status = .PENDING)
      (unexpired : decidedAt < x.expiresAt)
      (redemption : t.db.redemptions[s.db.redemptions.length]? = some d)
      (receipt : t.db.receipts[d.receiptId]? = some r) (books : v.books = t.db.books) :
      SettlementDue rt percent v (approvedSettlement rt v dec s.db.redemptions.length d r decidedAt)

/-- What the settlement of a captured redemption starts from. -/
structure Admitted (percent : Int) (input : RedemptionSettlementInput) (v : Database) : Prop where
  capped : input.redeemedAmountKobo ≤ input.basketAmountKobo * percent / 100
  percent : 1 ≤ percent ∧ percent ≤ 100
  basket : 0 ≤ input.basketAmountKobo
  rate : 0 ≤ input.earnRateBps
  live : input.now < input.occurredAt + 362 * Calendar.msPerDay
  sound : v.books.Sound

/-- The rows of a redemption that waits are the ones its approval settles. -/
lemma SettlementDue.admitted {rt : Runtime} {percent : Int} {v : Database}
    {input : RedemptionSettlementInput} (h : SettlementDue rt percent v input) :
    Admitted percent input v := by
  cases h with
  | @direct s db db' req adm ctx a receivedAt now reachable admitted prompt started policy books =>
      have hoccurred := admitRedeem_occurredAt admitted
      have hbasket := adm.basketAmountKobo.2
      refine ⟨policy ▸ started.capped, policy ▸ basketPercent_bounds rt _, hbasket.le, started.rate,
        ?_, books ▸ reachable.invariants.books.sound⟩
      change now < req.occurredAt + 362 * Calendar.msPerDay
      unfold Prompt at prompt
      unfold MAX_POS_PAST_SKEW_MS at hoccurred
      unfold Calendar.msPerDay at *
      omega
  | @approved s u t db db' req adm ctx a receivedAt now reachable admitted prompt started waits
      policy captured later dec x d r decidedAt asked approval pending unexpired redemption receipt
      books =>
      have hu := reachable.step captured
      have hkept := later.rowsKept hu.invariants
      obtain ⟨hredemptions, hreceipts, happrovals⟩ : u.db.redemptions = s.db.redemptions ++
            [redeemRedemption req adm ctx a s.db.receipts.length now] ∧
          u.db.receipts = s.db.receipts ++ [redeemReceipt req adm ctx a now] ∧
          u.db.approvals = s.db.approvals ++
            [redeemApproval req a s.db.redemptions.length
              (rt.insertedAt .approvals s.db.approvals.length) now] := by
        cases captured.outcome reachable.invariants.books.sound with
        | redeem started' committed =>
            obtain ⟨rfl, rfl⟩ := started.unique started'
            cases committed with
            | pending h =>
                rw [h.frame]
                exact ⟨rfl, rfl, rfl⟩
            | settled h =>
                rw [h.requiresApproval] at waits
                cases waits
      obtain ⟨d', hd', hdlater⟩ := hkept.redemptions s.db.redemptions.length
        (redeemRedemption req adm ctx a s.db.receipts.length now) (by rw [hredemptions]; simp)
      obtain rfl : d = d' := Option.some.inj (redemption.symm.trans hd')
      obtain ⟨r', hr', hrlater⟩ := hkept.receipts s.db.receipts.length
        (redeemReceipt req adm ctx a now) (by rw [hreceipts]; simp)
      have hreceiptId : d.receiptId = s.db.receipts.length := hdlater.receiptId
      rw [hreceiptId] at receipt
      obtain rfl : r = r' := Option.some.inj (receipt.symm.trans hr')
      obtain ⟨x', hx', hxlater⟩ := hkept.approvals s.db.approvals.length
        (redeemApproval req a s.db.redemptions.length
          (rt.insertedAt .approvals s.db.approvals.length) now) (by rw [happrovals]; simp)
      rw [asked] at approval
      obtain rfl : x = x' := Option.some.inj (approval.symm.trans hx')
      -- a pending approval is as it was inserted, so it is decided before it lapses
      have hexpires : x.expiresAt = now + APPROVAL_EXPIRY_MS := by
        rcases hxlater with rfl | hnot
        · rfl
        · exact absurd pending hnot
      have hrequested : d.requestedAmountKobo = adm.requestedAmountKobo :=
        hdlater.requestedAmountKobo
      have hbasket : d.basketAmountKobo = adm.basketAmountKobo := hdlater.basketAmountKobo
      have hinstant : r.occurredAt = req.occurredAt := hrlater.occurredAt
      have hoccurred := admitRedeem_occurredAt admitted
      have hpos := adm.basketAmountKobo.2
      refine ⟨?_, policy ▸ basketPercent_bounds rt _, ?_, resolveEarnRateBps_nonneg rt _, ?_,
        books ▸ (hu.steps later).invariants.books.sound⟩
      · change (d.requestedAmountKobo : Int) ≤ d.basketAmountKobo * percent / 100
        rw [hrequested, hbasket, policy]
        exact started.capped
      · change (0 : Int) ≤ d.basketAmountKobo
        rw [hbasket]
        exact hpos.le
      · change decidedAt < r.occurredAt + 362 * Calendar.msPerDay
        unfold Prompt at prompt
        unfold APPROVAL_EXPIRY_MS at hexpires
        unfold MAX_POS_PAST_SKEW_MS at hoccurred
        unfold Calendar.msPerDay at *
        omega

/-- **Settlement arithmetic.** A captured redemption stays below the cap of its policy and so
below its basket, and its settlement keeps the amounts. -/
theorem settlement_arithmetic {rt : Runtime} {percent : Int} {v : Database}
    {input : RedemptionSettlementInput} (h : SettlementDue rt percent v input) :
    input.redeemedAmountKobo ≤ input.basketAmountKobo * percent / 100 ∧
      input.basketAmountKobo * percent / 100 ≤ input.basketAmountKobo ∧
      ¬ input.basketAmountKobo - input.redeemedAmountKobo < 0 ∧
      ∀ res w, executeRedemptionSettlement rt input v = .ok (res, w) →
        SettlementLaw input res v w := by
  have hadm := h.admitted
  obtain ⟨hone, hhundred⟩ := hadm.percent
  have hprod : input.basketAmountKobo * percent ≤ input.basketAmountKobo * 100 :=
    mul_le_mul_of_nonneg_left hhundred hadm.basket
  have hcap := hadm.capped
  have hbasket : input.basketAmountKobo * percent / 100 ≤ input.basketAmountKobo := by omega
  refine ⟨hcap, hbasket, by omega, fun res w hrun => ?_⟩
  exact executeRedemptionSettlement_law hadm.sound hadm.rate hadm.live hrun

/-- A redemption of 600 naira from the credit of a purchase, on a basket of 10,000. -/
theorem settlement_arithmetic_shop : ∃ v input res w,
    SettlementDue Shop.runtime 30 v input ∧ input.basketAmountKobo = 1000000 ∧
      input.redeemedAmountKobo = 60000 ∧
      executeRedemptionSettlement Shop.runtime input v = .ok (res, w) ∧
      SettlementLaw input res v w := by
  obtain ⟨t, hrun, -⟩ := Reachable.of_runAll Shop.runtime Shop.registry
    ([Shop.earn "k1" 9000000] ++ [Shop.redeem "k2" ⟨1000000, by decide⟩ ⟨60000, by decide⟩])
    (by decide +kernel) (by simp [Shop.earn, Shop.redeem, Op.Admissible])
  obtain ⟨s, hfirst, hlast⟩ := System.runAll_snoc hrun
  have hs : Reachable Shop.runtime s :=
    ⟨Shop.registry, .of_runAll hfirst (by simp [Shop.earn, Op.Admissible])⟩
  obtain ⟨r, db, hok, rfl⟩ := System.commit_ok.1 hlast
  obtain ⟨ctx, a, hstart, -⟩ := redeemTransaction_ok hok
  have hpolicies : s.db.registry.policies = fun _ _ => none := by
    have hregistry := System.runAll_registry (.initial Shop.registry) hfirst
      (by simp [Shop.earn])
    rw [hregistry]
    rfl
  have hdirect : a.requiresApproval = false := by
    rw [hstart.assessment, hpolicies]
    rfl
  obtain ⟨v, x, w, hbooks, hset, -⟩ := redeemTransaction_settles hstart hdirect hok
  have hadmit : admitRedeem (Shop.redemption "k2" 1000000 60000) Shop.night s.db =
      .ok (⟨"till", ⟨60000, by decide⟩, ⟨1000000, by decide⟩⟩, s.db) := rfl
  have hdue : SettlementDue Shop.runtime 30 v _ :=
    .direct hs hadmit (by unfold Prompt; decide) hstart (by rw [hpolicies]; rfl) hbooks
  exact ⟨v, _, x, w, hdue, rfl, rfl, hset, (settlement_arithmetic hdue).2.2.2 x w hset⟩

end ShopcityLoyalty
