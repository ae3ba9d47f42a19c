import Mathlib.Algebra.Order.Round
import ShopcityLoyalty.DecisionOutcomes
import ShopcityLoyalty.LotLifecycle

/-!
The credit of a purchase at the rates that a policy may have, zero included.

A direct earn, the execution of an approved one and the settlement of a redemption compute
the same credit. The settlement writes no entry for a credit of zero; the other two write
one whatever the credit, and the ledger refuses an entry without an amount.
-/

namespace ShopcityLoyalty

open Txn Database

/-- The credit of an amount at a rate in basis points, rounded up. -/
def creditAt (amountKobo rateBps : Int) : Int := ⌈(amountKobo * rateBps : ℚ) / 10000⌉

lemma calculateEarnAmountKobo_eq (amountKobo rateBps : Int) :
    calculateEarnAmountKobo amountKobo rateBps = creditAt amountKobo rateBps := by
  have hle : ∀ z : Int, creditAt amountKobo rateBps ≤ z ↔ amountKobo * rateBps ≤ z * 10000 := by
    intro z
    rw [creditAt, Int.ceil_le, div_le_iff₀ (by norm_num)]
    exact_mod_cast Iff.rfl
  have hself := (hle _).1 le_rfl
  have hother := hle (calculateEarnAmountKobo amountKobo rateBps)
  unfold calculateEarnAmountKobo at *
  omega

lemma creditAt_pos_iff {amountKobo rateBps : Int} (hamount : 0 < amountKobo) (hrate : 0 ≤ rateBps) :
    0 < creditAt amountKobo rateBps ↔ 0 < rateBps := by
  rw [← calculateEarnAmountKobo_eq, calculateEarnAmountKobo]
  constructor
  · intro hpos
    rcases hrate.eq_or_lt with rfl | hlt
    · simp at hpos
    · exact hlt
  · intro hpos
    have hprod : 0 < amountKobo * rateBps := mul_pos hamount hpos
    omega

/-- The ledger with the entry of a credit, or as it is where the credit is zero. -/
def withCredit (credit : Int) (entry : PositiveKobo → LoyaltyLedgerEntry)
    (ledger : Table LoyaltyLedgerEntry) : Table LoyaltyLedgerEntry :=
  match PositiveKobo.of? credit with
  | some k => ledger ++ [entry k]
  | none => ledger

/-- What the database asks of an entry that opens a lot, its amount apart. -/
structure CreditAdmitted (s : Database) (e : LoyaltyLedgerEntry) : Prop where
  entry : s.Admits e
  expiry : clampedExpiryDerived e.effectiveAt
  lot : ∀ l ∈ s.lots, l.earnLedgerEntryId ≠ s.ledger.length

lemma CreditAdmitted.lot_run {s : Database} {e : LoyaltyLedgerEntry} (h : CreditAdmitted s e)
    (htype : e.type = .EARN) (hdir : e.direction = .CREDIT) {u : Database}
    (hledger : u.ledger = s.ledger ++ [e]) (hlots : u.lots = s.lots) :
    ∃ l, insertCreditLot e.tenantId e.customerId s.ledger.length e.amountKobo e.effectiveAt
      (addUtcMonthsClamped e.effectiveAt 12) u =
        .ok (s.lots.length, { u with lots := u.lots ++ [l] }) := by
  have hexpiry := (derive_eq_addUtcMonthsClamped e.effectiveAt).2 h.expiry
  obtain ⟨l, hl⟩ : ∃ l, wholeLot? e.tenantId e.customerId s.ledger.length e.amountKobo e.effectiveAt
      (addUtcMonthsClamped e.effectiveAt 12) = some l := by
    unfold wholeLot?
    rw [dif_pos hexpiry]
    exact ⟨_, rfl⟩
  have hwhole := wholeLot?_eq_some.1 hl
  refine ⟨l, insertCreditLot_ok.2 ⟨l, hwhole, ?_, ?_, ?_, rfl⟩⟩
  · refine ⟨e, ?_, hwhole.tenantId.symm, hwhole.customerId.symm, ?_, ?_, hdir, .inl htype⟩
    · rw [hwhole.earnLedgerEntryId, hledger]
      simp
    · exact hwhole.originalAmountKobo.symm
    · exact hwhole.earnedAt.symm
  · rw [hlots]
    exact h.lot
  · rw [hlots]

lemma runs_bind {σ ε α β : Type} {m : Txn σ ε α} {f : α → Txn σ ε β} {a : α} {s t : σ}
    {Q : β × σ → Prop} (hm : m s = .ok (a, t)) (hf : ∃ r, f a t = .ok r ∧ Q r) :
    ∃ r, (m >>= f) s = .ok r ∧ Q r := by
  rw [bind_of_ok hm]
  exact hf

/-! ### Settlements -/

/-- **A settlement commits at every rate**, with an entry where there is a credit. -/
theorem earnOnNetPaid_commits {input : RedemptionSettlementInput} {s : Database}
    (hadm : ∀ k : PositiveKobo, creditAt (input.basketAmountKobo - input.redeemedAmountKobo)
      input.earnRateBps = k → CreditAdmitted s (input.earnEntry k)) :
    ∃ i t, earnOnNetPaid input (calculateEarnAmountKobo
        (input.basketAmountKobo - input.redeemedAmountKobo) input.earnRateBps) s = .ok (i, t) ∧
      t.ledger = withCredit (creditAt (input.basketAmountKobo - input.redeemedAmountKobo)
        input.earnRateBps) input.earnEntry s.ledger := by
  rw [calculateEarnAmountKobo_eq]
  unfold earnOnNetPaid withCredit
  cases hk : PositiveKobo.of? (creditAt (input.basketAmountKobo - input.redeemedAmountKobo)
      input.earnRateBps) with
  | none => exact ⟨none, s, rfl, rfl⟩
  | some k =>
      have hentry := hadm k (PositiveKobo.of?_eq_some.1 hk)
      have hrow : insertLedgerEntry (input.earnEntry k) s =
          .ok (s.ledger.length, { s with ledger := s.ledger ++ [input.earnEntry k] }) :=
        insertLedgerEntry_ok.2 ⟨hentry.entry, rfl, rfl⟩
      obtain ⟨l, hl⟩ := hentry.lot_run (u := { s with ledger := s.ledger ++ [input.earnEntry k] })
        rfl rfl rfl rfl
      refine ⟨some s.ledger.length, { s with
        ledger := s.ledger ++ [input.earnEntry k], lots := s.lots ++ [l] }, ?_, rfl⟩
      exact (bind_of_ok hrow).trans (bind_of_ok hl)

/-! ### Direct earns -/

namespace LoyaltyService

/-- What a direct earn commits for a credit: the receipt, and an entry where there is a credit. -/
structure EarnRecorded (rt : Runtime) (req : EarnRequest) (adm : EarnAdmission) (ctx : EarnContext)
    (amount : PositiveKobo) (now credit : Int) (res : EarnTransactionResponse) (s t : Database) :
    Prop where
  creditKobo : res.creditKobo = some credit
  receipts : t.receipts = s.receipts ++ [earnReceipt rt req adm ctx amount now]
  ledger : t.ledger = withCredit credit (earnLedgerEntry req ctx s.receipts.length) s.ledger

variable {rt : Runtime} {req : EarnRequest} {adm : EarnAdmission} {ctx : EarnContext}
  {amount : PositiveKobo} {now : Int} {s : Database}

/-- An earn with a credit runs to its end. -/
lemma earnTransaction_run (hstart : EarnStarted rt req adm ctx amount now s)
    (hstatus : earnCaptureStatus rt req adm ≠ .PENDING_APPROVAL) {k : PositiveKobo}
    (hk : calculateEarnAmountKobo req.purchaseAmountKobo
      (resolveEarnRateBps rt adm.configuredPolicy) =
      k) (hadm : CreditAdmitted s (earnLedgerEntry req ctx s.receipts.length k)) :
    ∃ r, earnTransaction rt req adm now s = .ok r ∧ r.1.creditKobo = some (k : Int) ∧
      r.2.receipts = s.receipts ++ [earnReceipt rt req adm ctx amount now] ∧
      r.2.ledger = s.ledger ++ [earnLedgerEntry req ctx s.receipts.length k] := by
  obtain ⟨l, hl⟩ := hadm.lot_run (u := { s with
    receipts := s.receipts ++ [earnReceipt rt req adm ctx amount now]
    ledger := s.ledger ++ [earnLedgerEntry req ctx s.receipts.length k] }) rfl rfl rfl rfl
  have hpositive : PositiveKobo.of? req.purchaseAmountKobo = some amount :=
    PositiveKobo.of?_eq_some.2 hstart.purchase.symm
  unfold earnTransaction
  refine runs_bind hstart.context
    (runs_bind rfl (runs_bind ((rejectIf_ok (u := ())).2 ⟨?_, rfl⟩)
      (runs_bind (orFault_ok.2 ⟨hpositive, rfl⟩)
        (runs_bind (insertReceipt_ok.2 ⟨hstart.identity, rfl, rfl⟩) ?_))))
  · simp [hstart.unused]
  rw [if_neg hstatus]
  unfold creditReceipt
  refine runs_bind (orFault_ok.2 ⟨PositiveKobo.of?_eq_some.2 hk, rfl⟩) (runs_bind
    (insertLedgerEntry_ok.2 ⟨⟨hadm.entry.correlationId, hadm.entry.reversesEntryId,
      hadm.entry.receiptEffect⟩, rfl, rfl⟩)
        (runs_bind hl (runs_bind rfl (runs_bind rfl (runs_bind rfl
          (runs_bind ((insertIdempotencyRecord_ok (u := ())).2 ⟨hstart.key, rfl⟩)
            (runs_bind rfl ?_)))))))
  unfold onlyIf
  split
  · exact ⟨_, rfl, congrArg some hk, rfl, rfl⟩
  · exact ⟨_, rfl, congrArg some hk, rfl, rfl⟩

/-- **A direct earn commits** exactly at a positive rate. -/
theorem earnTransaction_commits_iff {conf : Option PolicyConfiguration}
    (hstart : EarnStarted rt req adm ctx amount now s)
    (hstatus : earnCaptureStatus rt req adm ≠ .PENDING_APPROVAL)
    (hconf : adm.configuredPolicy = conf.map (·.earnPolicy))
    (hadm : ∀ k : PositiveKobo, creditAt amount (resolveEarnRateBps rt adm.configuredPolicy) = k →
      CreditAdmitted s (earnLedgerEntry req ctx s.receipts.length k)) :
    (∃ res t, earnTransaction rt req adm now s = .ok (res, t) ∧
      EarnRecorded rt req adm ctx amount now
      (creditAt amount (resolveEarnRateBps rt adm.configuredPolicy)) res s t) ↔
        0 < resolveEarnRateBps rt adm.configuredPolicy := by
  have hrate : 0 ≤ resolveEarnRateBps rt adm.configuredPolicy := by
    rw [hconf]
    cases conf with
    | none => exact rt.rate_bounds.1
    | some p => exact p.rate_bounds.1
  have hcredit : calculateEarnAmountKobo req.purchaseAmountKobo
      (resolveEarnRateBps rt adm.configuredPolicy) =
        creditAt amount (resolveEarnRateBps rt adm.configuredPolicy) := by
    rw [← hstart.purchase, calculateEarnAmountKobo_eq]
  rw [← creditAt_pos_iff amount.2 hrate]
  constructor
  · rintro ⟨res, t, hrun, -⟩
    obtain ⟨ctx', amount', -, hcommitted⟩ := earnTransaction_ok hrun
    cases hcommitted with
    | pending h => exact absurd h.status hstatus
    | @credited k l h =>
        have hk := h.credit
        rw [hcredit] at hk
        have hpos := k.2
        omega
  · intro hpos
    set k : PositiveKobo := ⟨creditAt amount (resolveEarnRateBps rt adm.configuredPolicy), hpos⟩
      with hk
    obtain ⟨⟨res, t⟩, hrun, hres, hreceipts, hledger⟩ :=
      earnTransaction_run hstart hstatus (k := k) hcredit (hadm k rfl)
    refine ⟨res, t, hrun, hres, hreceipts, ?_⟩
    have hof : PositiveKobo.of? (creditAt amount (resolveEarnRateBps rt adm.configuredPolicy)) =
        some k := PositiveKobo.of?_eq_some.2 rfl
    rw [withCredit, hof]
    exact hledger

/-! ### Approved earns -/

/-- An approval of a captured receipt, decided in time and still permitted. -/
structure EarnApproved (rt : Runtime) (req : DecisionRequest) (a : Approval) (receiptId : Nat)
    (receipt : Receipt) (now : Int) (s : Database) : Prop where
  approval : s.approvals[req.approvalId]? = some a
  tenantId : a.tenantId = req.actor.tenantId
  pending : a.status = .PENDING
  stateMachine : a.stateMachineCheck
  unexpired : now < a.expiresAt
  decision : req.decision = .APPROVED
  captured : s.receipts[receiptId]? = some receipt
  permitted : checkEarnApproval rt req a receipt s = .ok ((), s)
  uncredited : ¬ ∃ e ∈ s.ledger, e.tenantId = req.actor.tenantId ∧ e.receiptId = some receiptId ∧
    e.type = .EARN

/-- What an approved earn commits for a credit. -/
structure ApprovalRecorded (req : DecisionRequest) (receiptId : Nat) (receipt : Receipt)
    (now credit : Int) (res : DecisionResult) (s t : Database) : Prop where
  creditKobo : ∃ r, res = .decided r ∧ r.creditKobo = some credit
  receipts : t.receipts = s.receipts.set receiptId (reviewed req .APPROVED now receipt)
  ledger : t.ledger = withCredit credit (approvedLedgerEntry req receiptId receipt) s.ledger

variable {dec : DecisionRequest} {a : Approval} {receiptId : Nat} {receipt : Receipt}

lemma moveApproval_run {i : Nat} {tenantId : String} {from_ : ApprovalStatus} {failed : Fault}
    {f : Approval → Approval} (ha : s.approvals[i]? = some a) (hten : a.tenantId = tenantId)
    (hstatus : a.status = from_) (hcheck : (f a).stateMachineCheck) :
    moveApproval i tenantId from_ failed f s =
      .ok ((), { s with approvals := s.approvals.set i (f a) }) := by
  have hrow : requireRow s.approvals i (fun a => a.tenantId = tenantId ∧ a.status = from_) failed
      s = .ok ((), s) := requireRow_ok.2 ⟨⟨a, ha, hten, hstatus⟩, rfl⟩
  have hget : (get : Tx Database) s = .ok (s, s) := rfl
  rw [moveApproval, bind_of_ok hget, bind_of_ok hrow]
  exact modifyApproval_ok.2 ⟨a, ha, hcheck, rfl⟩

/-- An approved earn with a credit runs to its end. -/
lemma decideEarnApproval_run (happ : EarnApproved rt dec a receiptId receipt now s)
    {k : PositiveKobo} (hk : calculateEarnAmountKobo receipt.purchaseAmountKobo
      (resolveEarnRateBps rt none) = k)
    (hadm : CreditAdmitted s (approvedLedgerEntry dec receiptId receipt k)) :
    ∃ r, decideEarnApproval rt dec a receiptId now s = .ok r ∧
      (∃ d, r.1 = .decided d ∧ d.creditKobo = some (k : Int)) ∧
      r.2.receipts = s.receipts.set receiptId (reviewed dec .APPROVED now receipt) ∧
      r.2.ledger = s.ledger ++ [approvedLedgerEntry dec receiptId receipt k] := by
  have hmachine := happ.stateMachine
  rw [Approval.stateMachineCheck, happ.pending] at hmachine
  obtain ⟨-, -, -, hexecuted⟩ := hmachine
  have hdecided : (decided dec .APPROVED now a).stateMachineCheck := by
    simp [Approval.stateMachineCheck, decided, hexecuted]
  have hdone : (executed now (decided dec .APPROVED now a)).stateMachineCheck := by
    simp [Approval.stateMachineCheck, decided, executed]
  have hlt := Table.lt_of_getElem? happ.approval
  obtain ⟨l, hl⟩ := hadm.lot_run (u := { s with
    approvals := s.approvals.set dec.approvalId (decided dec .APPROVED now a)
    ledger := s.ledger ++ [approvedLedgerEntry dec receiptId receipt k] }) rfl rfl rfl rfl
  have hunexpired : ¬ a.expiresAt ≤ now := by
    have := happ.unexpired
    omega
  have hdecision : ¬ dec.decision = .REJECTED := by
    rw [happ.decision]
    decide
  unfold decideEarnApproval
  refine runs_bind rfl (runs_bind (orFault_ok.2 ⟨happ.captured, rfl⟩) ?_)
  rw [if_neg hunexpired, if_neg hdecision]
  refine runs_bind happ.permitted ?_
  unfold executeEarnApproval
  refine runs_bind (moveApproval_run happ.approval happ.tenantId happ.pending hdecided)
    (runs_bind rfl (runs_bind ((rejectIf_ok (u := ())).2 ⟨happ.uncredited, rfl⟩) (runs_bind
      (orFault_ok.2 ⟨PositiveKobo.of?_eq_some.2 hk, rfl⟩) (runs_bind
        (insertLedgerEntry_ok.2 ⟨⟨hadm.entry.correlationId, hadm.entry.reversesEntryId,
          hadm.entry.receiptEffect⟩, rfl, rfl⟩) (runs_bind hl (runs_bind rfl (runs_bind
            ((modifyReceipt_ok (u := ())).2 ⟨receipt, happ.captured, rfl⟩) (runs_bind
              (moveApproval_run (List.getElem?_set_self hlt) happ.tenantId rfl hdone)
                (runs_bind rfl ?_)))))))))
  exact ⟨_, rfl, ⟨_, rfl, congrArg some hk⟩, rfl, rfl⟩

/-- **An approved earn commits** for a policy exactly when the environment's rate is positive and
gives the purchase the credit of the policy. -/
theorem decideEarnApproval_commits_iff {conf : Option EarnPolicyValues}
    (happ : EarnApproved rt dec a receiptId receipt now s)
    (hadm : ∀ k : PositiveKobo, creditAt receipt.purchaseAmountKobo
      (resolveEarnRateBps rt none) = k →
      CreditAdmitted s (approvedLedgerEntry dec receiptId receipt k)) :
    (∃ res t, decideEarnApproval rt dec a receiptId now s = .ok (res, t) ∧
      ApprovalRecorded dec receiptId receipt now
        (creditAt receipt.purchaseAmountKobo (resolveEarnRateBps rt conf)) res s t) ↔
      0 < resolveEarnRateBps rt none ∧
        creditAt receipt.purchaseAmountKobo (resolveEarnRateBps rt none) =
          creditAt receipt.purchaseAmountKobo (resolveEarnRateBps rt conf) := by
  have hrate : 0 ≤ resolveEarnRateBps rt none := rt.rate_bounds.1
  rw [← creditAt_pos_iff receipt.purchaseAmountKobo.2 hrate]
  have hcredit := calculateEarnAmountKobo_eq receipt.purchaseAmountKobo (resolveEarnRateBps rt none)
  constructor
  · rintro ⟨res, t, hrun, hrecorded⟩
    obtain ⟨r, rfl, hcreditKobo⟩ := hrecorded.creditKobo
    have hout := decideEarnApproval_ok happ.approval hrun
    generalize hres : DecisionResult.decided r = res at hout
    cases hout with
    | expired h => cases hres
    | rejected h =>
        exact absurd (h.decision.symm.trans happ.decision) (by decide)
    | @executed receipt' k l h =>
        obtain rfl : receipt' = receipt := Option.some.inj (h.receipt.symm.trans happ.captured)
        obtain rfl := DecisionResult.decided.inj hres
        have hsame : (k : Int) = creditAt receipt'.purchaseAmountKobo
            (resolveEarnRateBps rt conf) :=
          Option.some.inj hcreditKobo
        have hk := h.credit
        rw [hcredit] at hk
        exact ⟨hk ▸ k.2, hk.symm.trans hsame⟩
  · rintro ⟨hpos, hsame⟩
    rw [← hsame]
    set k : PositiveKobo := ⟨creditAt receipt.purchaseAmountKobo (resolveEarnRateBps rt none), hpos⟩
      with hk
    obtain ⟨⟨res, t⟩, hrun, hres, hreceipts, hledger⟩ :=
      decideEarnApproval_run happ (k := k) hcredit (hadm k rfl)
    refine ⟨res, t, hrun, hres, hreceipts, ?_⟩
    have hof : PositiveKobo.of? (creditAt receipt.purchaseAmountKobo (resolveEarnRateBps rt none)) =
        some k := PositiveKobo.of?_eq_some.2 rfl
    rw [withCredit, hof]
    exact hledger

end LoyaltyService

open LoyaltyService

/-- **The credit of a purchase at every rate.** A direct earn commits exactly at a positive rate;
an approved one exactly when the environment's rate is positive and gives the credit of the
policy; the settlement commits at every rate. -/
theorem earn_commits_at_rate_iff (rt : Runtime) :
    (∀ req adm ctx amount now s (conf : Option PolicyConfiguration),
      EarnStarted rt req adm ctx amount now s → earnCaptureStatus rt req adm ≠ .PENDING_APPROVAL →
      adm.configuredPolicy = conf.map (·.earnPolicy) →
      (∀ k : PositiveKobo, creditAt amount (resolveEarnRateBps rt adm.configuredPolicy) = k →
        CreditAdmitted s (earnLedgerEntry req ctx s.receipts.length k)) →
      ((∃ res t, earnTransaction rt req adm now s = .ok (res, t) ∧
        EarnRecorded rt req adm ctx amount
        now (creditAt amount (resolveEarnRateBps rt adm.configuredPolicy)) res s t) ↔
          0 < resolveEarnRateBps rt adm.configuredPolicy)) ∧
    (∀ req a receiptId receipt now s (conf : Option EarnPolicyValues),
      EarnApproved rt req a receiptId receipt now s →
      (∀ k : PositiveKobo, creditAt receipt.purchaseAmountKobo (resolveEarnRateBps rt none) = k →
        CreditAdmitted s (approvedLedgerEntry req receiptId receipt k)) →
      ((∃ res t, decideEarnApproval rt req a receiptId now s = .ok (res, t) ∧
        ApprovalRecorded req receiptId receipt now
          (creditAt receipt.purchaseAmountKobo (resolveEarnRateBps rt conf)) res s t) ↔
        0 < resolveEarnRateBps rt none ∧
          creditAt receipt.purchaseAmountKobo (resolveEarnRateBps rt none) =
            creditAt receipt.purchaseAmountKobo (resolveEarnRateBps rt conf))) ∧
    ∀ input s, (∀ k : PositiveKobo, creditAt (input.basketAmountKobo - input.redeemedAmountKobo)
        input.earnRateBps = k → CreditAdmitted s (input.earnEntry k)) →
      ∃ i t, earnOnNetPaid input (calculateEarnAmountKobo
          (input.basketAmountKobo - input.redeemedAmountKobo) input.earnRateBps) s = .ok (i, t) ∧
        t.ledger = withCredit (creditAt (input.basketAmountKobo - input.redeemedAmountKobo)
          input.earnRateBps) input.earnEntry s.ledger :=
  ⟨fun _ _ _ _ _ _ _ hstart hstatus hconf => earnTransaction_commits_iff hstart hstatus hconf,
    fun _ _ _ _ _ _ _ => decideEarnApproval_commits_iff, fun _ _ => earnOnNetPaid_commits⟩

/-! ### A branch that gives no credit -/

/-- A policy with a rate of zero. -/
def Shop.noCredit : PolicyConfiguration where
  version := 1
  defaultEarnRateBps := 0
  minRedemptionKobo := 40000
  maxRedemptionBasketPercent := 20
  purchaseFlagThresholdKobo := 10000000
  purchaseApprovalThresholdKobo := 20000000
  purchaseAmountCeilingKobo := 100000000
  redemptionApprovalThresholdKobo := 500000
  rate_bounds := by decide
  percent_bounds := by decide
  min_pos := by decide

def Shop.noCreditAdmission : EarnAdmission := ⟨"till", some Shop.noCredit.earnPolicy, false, false⟩

theorem earn_commits_at_rate_shop : ∃ res t ctx amount,
    earnTransaction Shop.runtime (Shop.purchase "k1" 9000000)
      ⟨"till", none, false, false⟩ Shop.night
      Shop.opened.db = .ok (res, t) ∧
    EarnRecorded Shop.runtime (Shop.purchase "k1" 9000000) ⟨"till", none, false, false⟩ ctx amount
      Shop.night (creditAt 9000000 200) res Shop.opened.db t := by
  have hran : ((earnTransaction Shop.runtime (Shop.purchase "k1" 9000000)
    ⟨"till", none, false, false⟩
      Shop.night Shop.opened.db).map fun _ => ()) = .ok () := by decide +kernel
  obtain ⟨⟨res, t⟩, hrun⟩ : ∃ r, earnTransaction Shop.runtime (Shop.purchase "k1" 9000000)
      ⟨"till", none, false, false⟩ Shop.night Shop.opened.db = .ok r := by
    cases hr : earnTransaction Shop.runtime (Shop.purchase "k1" 9000000)
        ⟨"till", none, false, false⟩ Shop.night Shop.opened.db with
    | error e => rw [hr] at hran; cases hran
    | ok r => exact ⟨r, rfl⟩
  obtain ⟨ctx, amount, hstart, -⟩ := earnTransaction_ok hrun
  have hamount : (amount : Int) = 9000000 := hstart.purchase
  have hexpiry : clampedExpiryDerived Shop.night := by decide
  obtain ⟨res', t', hrun', hrecorded⟩ := ((earn_commits_at_rate_iff Shop.runtime).1 _ _ _ _ _ _ none
    hstart (by decide) rfl fun k _ => ⟨⟨by simp [Shop.opened, System.initial, Database.initial],
      by simp [Shop.opened, System.initial, Database.initial],
      by simp [Shop.opened, System.initial, Database.initial]⟩, hexpiry,
      by simp [Shop.opened, System.initial, Database.initial]⟩).2 (by decide)
  rw [hamount] at hrecorded
  exact ⟨res', t', ctx, amount, hrun', hrecorded⟩

/-- The purchase is refused for the amount of its entry, and not recorded. -/
theorem earn_without_credit_refused :
    (earnCaptureStatus Shop.runtime (Shop.purchase "k1" 9000000)
      Shop.noCreditAdmission = .CAPTURED ∧
      creditAt 9000000 (resolveEarnRateBps Shop.runtime (some Shop.noCredit.earnPolicy)) = 0) ∧
    ((earnTransaction Shop.runtime (Shop.purchase "k1" 9000000) Shop.noCreditAdmission Shop.night
      Shop.opened.db).map fun _ => ()) =
        .error (.check "LoyaltyLedgerEntry_amountKobo_positive_check") ∧
    ¬ ∃ res t ctx amount, earnTransaction Shop.runtime (Shop.purchase "k1" 9000000)
        Shop.noCreditAdmission Shop.night Shop.opened.db = .ok (res, t) ∧
      EarnRecorded Shop.runtime (Shop.purchase "k1" 9000000) Shop.noCreditAdmission ctx amount
        Shop.night 0 res Shop.opened.db t := by
  have hfail : ((earnTransaction Shop.runtime (Shop.purchase "k1" 9000000) Shop.noCreditAdmission
      Shop.night Shop.opened.db).map fun _ => ()) =
        .error (.check "LoyaltyLedgerEntry_amountKobo_positive_check") := by decide +kernel
  refine ⟨⟨by decide, ?_⟩, hfail, ?_⟩
  · have hrate : resolveEarnRateBps Shop.runtime (some Shop.noCredit.earnPolicy) = 0 := rfl
    rw [hrate, ← calculateEarnAmountKobo_eq]
    decide
  · rintro ⟨res, t, ctx, amount, hrun, -⟩
    rw [hrun] at hfail
    cases hfail

end ShopcityLoyalty
