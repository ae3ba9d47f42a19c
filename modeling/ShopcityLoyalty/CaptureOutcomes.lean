import ShopcityLoyalty.Books
import ShopcityLoyalty.Earn
import ShopcityLoyalty.Redemption

/-!
What a committed settlement, earn request or redemption request leaves: the rows it wrote,
the postings it made, and that it touched nothing else but outbox and audit log.
-/

namespace ShopcityLoyalty

open Txn Database LotAllocationService

/-- A drawn debit, with the entry and the adjustment written before it, is a posting. -/
lemma debit_of_drawn {input : AllocateDebitInput} {allocations : List PersistedAllocation}
    {rows : List RedemptionAllocation} {s m t : Database} {e : LoyaltyLedgerEntry}
    {as : List Adjustment} (hm : m.books = { s.books with
      ledger := s.ledger ++ [e], adjustments := s.adjustments ++ as })
    (hd : Drawn input allocations rows m t) (htenant : input.tenantId = e.tenantId)
    (hcustomer : input.customerId = e.customerId)
    (hentry : input.debitLedgerEntryId = s.ledger.length)
    (hamount : input.amountKobo = e.amountKobo)
    (hdir : e.direction = .DEBIT) (hb : Backed .REDEEM s.ledger.length e as)
    (hserves : match input.target with
      | .redemption _ => e.type = .REDEEM
      | .adjustment i => e.type = .ADJUSTMENT ∧ i = s.adjustments.length)
    (hrev : ∀ o, e.reversesEntryId = some o → Compensates s.books e o rows) :
    DebitPosting e rows input.target as s.books t.books := by
  have hlots : m.lots = s.lots := congrArg Books.lots hm
  refine ⟨hdir, hb, hrev, hserves, fun r hr => ?_, fun r hr => ?_, hd.nodup,
    hd.total.trans hamount, ?_, ?_⟩
  · obtain ⟨a, -, hrow⟩ := hd.returned.exists_left_of_mem hr
    exact ⟨hrow.tenantId.trans htenant, hrow.redemptionLedgerEntryId.trans hentry, hrow.target⟩
  · obtain ⟨l, hl, hlt, hlc⟩ := hd.onLots r hr
    rw [hlots] at hl
    exact ⟨l, hl, hlt.trans htenant, hlc.trans hcustomer⟩
  · have hmoved := hd.moved
    rw [hlots] at hmoved
    exact hmoved
  · have ht : t.books = { m.books with lots := t.lots, allocations := m.allocations ++ rows } := by
      rw [hd.frame]; rfl
    have hall : m.allocations = s.allocations := congrArg Books.allocations hm
    rw [ht, hm, hall]
    rfl

/-! ### Settlements -/

/-- What earning on the net amount leaves: nothing, or an EARN entry with its lot. -/
inductive Earned (input : RedemptionSettlementInput) (earnedKobo : Int) (s t : Database) :
    Option Nat → Prop
  | nothing (h : earnedKobo ≤ 0) (frame : t = s) : Earned input earnedKobo s t none
  | credit {k : PositiveKobo} {l : CreditLot} (amount : (k : Int) = earnedKobo)
      (posting : CreditPosting (input.earnEntry k) l [] s.books t.books)
      (frame : t = { s with ledger := s.ledger ++ [input.earnEntry k], lots := s.lots ++ [l] }) :
      Earned input earnedKobo s t (some s.ledger.length)

lemma earnOnNetPaid_ok {input : RedemptionSettlementInput} {earnedKobo : Int} {s t : Database}
    {i : Option Nat} (h : earnOnNetPaid input earnedKobo s = .ok (i, t)) :
    Earned input earnedKobo s t i := by
  unfold earnOnNetPaid at h
  cases hk : PositiveKobo.of? earnedKobo with
  | none =>
      rw [hk, pure_ok] at h
      obtain ⟨rfl, rfl⟩ := h
      refine .nothing ?_ rfl
      unfold PositiveKobo.of? at hk
      split at hk
      · cases hk
      · omega
  | some k =>
      rw [hk] at h
      simp only [bind_ok, insertLedgerEntry_ok, insertCreditLot_ok, pure_ok] at h
      obtain ⟨_, _, ⟨-, rfl, rfl⟩, _, _, ⟨l, hl, -, -, -, rfl⟩, rfl, rfl⟩ := h
      have hexp := hl.expiresAt
      refine .credit (PositiveKobo.of?_eq_some.1 hk).symm ⟨rfl, rfl, ?_, hexp ▸ hl, ?_⟩ rfl
      · exact .receipt rfl (by simp [RedemptionSettlementInput.earnEntry])
      · simp [books]

lemma Earned.frame {input : RedemptionSettlementInput} {earnedKobo : Int} {s t : Database}
    {i : Option Nat} (h : Earned input earnedKobo s t i) :
    t = { s with ledger := t.ledger, lots := t.lots } := by
  cases h with
  | nothing _ hf => rw [hf]
  | credit _ _ hf => rw [hf]

lemma Earned.ledger {input : RedemptionSettlementInput} {earnedKobo : Int} {s t : Database}
    {i : Option Nat} (h : Earned input earnedKobo s t i) :
    t.ledger = s.ledger ∨ ∃ k, t.ledger = s.ledger ++ [input.earnEntry k] := by
  cases h with
  | nothing _ hf => exact .inl (by rw [hf])
  | credit _ _ hf => exact .inr ⟨_, by rw [hf]⟩

structure Settled (input : RedemptionSettlementInput) (k : PositiveKobo) (r : Redemption)
    (rows : List RedemptionAllocation) (m u : Database) (res : RedemptionSettlementResult)
    (s t : Database) : Prop where
  amount : (k : Int) = input.redeemedAmountKobo
  redemption : s.redemptions[input.redemptionId]? = some r
  stateMachine : (input.confirmed s.ledger.length r).stateMachineCheck
  admits : s.Admits (input.redeemEntry k)
  debit : DebitPosting (input.redeemEntry k) rows (.redemption input.redemptionId) []
    s.books m.books
  returned : List.Forall₂ (IsRow (input.debit s.ledger.length)) res.allocations rows
  middle : m = { s with
    ledger := s.ledger ++ [input.redeemEntry k]
    redemptions := s.redemptions.set input.redemptionId (input.confirmed s.ledger.length r)
    allocations := s.allocations ++ rows
    lots := m.lots }
  earned : Earned input res.earnedKobo m u res.earnLedgerEntryId
  frame : t = { u with outbox := t.outbox }
  entryId : res.redemptionLedgerEntryId = s.ledger.length
  netPaid : res.netPaidAmountKobo = input.basketAmountKobo - input.redeemedAmountKobo
  earnedKobo : res.earnedKobo = calculateEarnAmountKobo
    (input.basketAmountKobo - input.redeemedAmountKobo) input.earnRateBps

/-- **A settlement** is a debit posting and, where the net amount earns, a credit posting. -/
theorem executeRedemptionSettlement_ok {rt : Runtime} {input : RedemptionSettlementInput}
    {res : RedemptionSettlementResult} {s t : Database}
    (h : executeRedemptionSettlement rt input s = .ok (res, t)) :
    ∃ k r rows m u, Settled input k r rows m u res s t := by
  simp only [executeRedemptionSettlement, bind_ok, rejectIf_ok, orFault_ok, insertLedgerEntry_ok,
    modifyRedemption_ok, get_ok, insertOutboxEvent_ok, pure_ok, PositiveKobo.of?_eq_some] at h
  obtain ⟨_, _, ⟨-, rfl⟩, _, _, ⟨-, rfl⟩, k, _, ⟨hk, rfl⟩, _, _, ⟨hadm, rfl, rfl⟩, _, _,
    ⟨r, hr, hsm, rfl⟩, as, m, hdraw, _, _, ⟨-, rfl⟩, i, u, hearn, _, _, ⟨rfl, rfl⟩, _, _, rfl, rfl,
    rfl⟩ := h
  obtain ⟨rows, hd⟩ := allocateDebit_ok hdraw
  refine ⟨k, r, rows, _, _, hk.symm, hr, hsm, hadm, ?_, hd.returned, hd.frame,
    earnOnNetPaid_ok hearn, rfl, rfl, rfl, rfl⟩
  refine debit_of_drawn ?_ hd rfl rfl rfl hk rfl ?_ rfl ?_
  · rw [List.append_nil]; rfl
  · exact .receipt rfl (by simp [RedemptionSettlementInput.redeemEntry])
  · intro o ho; cases ho

namespace Settled

variable {input : RedemptionSettlementInput} {k : PositiveKobo} {r : Redemption}
  {rows : List RedemptionAllocation} {m u : Database} {res : RedemptionSettlementResult}
  {s t : Database}

lemma rest (h : Settled input k r rows m u res s t) : t = { s with
    ledger := t.ledger
    lots := t.lots
    allocations := s.allocations ++ rows
    redemptions := s.redemptions.set input.redemptionId (input.confirmed s.ledger.length r)
    outbox := t.outbox } := by
  have hu := h.earned.frame
  rw [h.middle] at hu
  rw [h.frame, hu]

lemma ledger (h : Settled input k r rows m u res s t) : ∃ es, t.ledger = s.ledger ++ es ∧
    (es = [input.redeemEntry k] ∨ ∃ k', es = [input.redeemEntry k, input.earnEntry k']) := by
  have hm : m.ledger = s.ledger ++ [input.redeemEntry k] := by rw [h.middle]
  have ht : t.ledger = u.ledger := by rw [h.frame]
  rcases h.earned.ledger with hu | ⟨k', hu⟩
  · exact ⟨_, by rw [ht, hu, hm], .inl rfl⟩
  · refine ⟨_, ?_, .inr ⟨k', rfl⟩⟩
    rw [ht, hu, hm, List.append_assoc]
    rfl

lemma idempotency (h : Settled input k r rows m u res s t) : t.idempotency = s.idempotency := by
  rw [h.rest]

lemma approvals (h : Settled input k r rows m u res s t) : t.approvals = s.approvals := by
  rw [h.rest]

lemma receipts (h : Settled input k r rows m u res s t) : t.receipts = s.receipts := by
  rw [h.rest]

lemma redemptions (h : Settled input k r rows m u res s t) : t.redemptions =
    s.redemptions.set input.redemptionId (input.confirmed s.ledger.length r) := by
  rw [h.rest]

end Settled

/-! ### Reads that leave the database alone -/

lemma findTransactionDevice_ok {db s t : Database} {actor : AuthContext} {deviceId : String}
    {r : Device × Branch} (h : findTransactionDevice db actor deviceId s = .ok (r, t)) : s = t := by
  simp only [findTransactionDevice, bind_ok, orFault_ok, rejectIf_ok, pure_ok] at h
  obtain ⟨_, _, ⟨-, rfl⟩, _, _, ⟨-, rfl⟩, _, _, ⟨-, rfl⟩, _, _, ⟨-, rfl⟩, -, rfl⟩ := h
  rfl

lemma findTransactionCard_ok {rt : Runtime} {db s t : Database} {tenantId serial : String}
    {r : Card × Customer} (h : findTransactionCard rt db tenantId serial s = .ok (r, t)) :
    s = t ∧ db.registry.customers r.1.customerId = some r.2 ∧ r.2.tenantId = tenantId := by
  simp only [findTransactionCard, bind_ok, orFault_ok, rejectIf_ok, pure_ok] at h
  obtain ⟨card, _, ⟨hcard, rfl⟩, customer, _, ⟨hcus, rfl⟩, _, _, ⟨-, rfl⟩, rfl, rfl⟩ := h
  obtain ⟨hcus, hten⟩ := Option.filter_eq_some_iff.1 hcus
  have hc := List.find?_some hcard
  simp only [Bool.and_eq_true, decide_eq_true_eq] at hc hten
  exact ⟨rfl, hcus, hten.trans hc.1⟩

lemma deriveReceiptWeekStart_ok {rt : Runtime} {exception : String → Fault} {at_ : Int}
    {zone : String} {day w : Int} {s t : Database}
    (h : deriveReceiptWeekStart rt exception at_ zone day s = .ok (w, t)) : s = t := by
  simp only [deriveReceiptWeekStart, bind_ok, rejectIf_ok, pure_ok] at h
  obtain ⟨_, _, ⟨-, rfl⟩, -, rfl⟩ := h
  rfl

namespace LoyaltyService

variable {rt : Runtime} {req : EarnRequest} {adm : EarnAdmission} {now : Int} {s t : Database}
  {res : EarnTransactionResponse}

lemma earnContext_ok {ctx : EarnContext} (h : earnContext rt req adm s = .ok (ctx, t)) :
    s = t ∧ s.registry.customers ctx.card.customerId = some ctx.customer ∧
      ctx.customer.tenantId = req.actor.tenantId := by
  simp only [earnContext, bind_ok, get_ok, pure_ok] at h
  obtain ⟨_, _, ⟨rfl, rfl⟩, db, _, hdev, cc, _, hcard, w, _, hweek, rfl, rfl⟩ := h
  obtain rfl := findTransactionDevice_ok hdev
  obtain ⟨rfl, hcus, hten⟩ := findTransactionCard_ok hcard
  exact ⟨deriveReceiptWeekStart_ok hweek, hcus, hten⟩

/-! ### Earn requests -/

/-- What an earn transaction found before its first write. -/
structure EarnStarted (rt : Runtime) (req : EarnRequest) (adm : EarnAdmission) (ctx : EarnContext)
    (amount : PositiveKobo) (now : Int) (s : Database) : Prop where
  context : earnContext rt req adm s = .ok (ctx, s)
  unused : findReceipt s req.actor.tenantId ctx.branchId ctx.receiptWeekStart
    req.normalizedPosReceiptNumber = none
  purchase : (amount : Int) = req.purchaseAmountKobo
  identity : ∀ x ∈ s.receipts, ¬ sameReceiptIdentity x (earnReceipt rt req adm ctx amount now)
  key : s.idempotency req.key = none

/-- A capture that waits for approval. -/
structure EarnPending (rt : Runtime) (req : EarnRequest) (adm : EarnAdmission) (ctx : EarnContext)
    (amount : PositiveKobo) (now : Int) (res : EarnTransactionResponse) (s t : Database) :
    Prop where
  status : earnCaptureStatus rt req adm = .PENDING_APPROVAL
  target : ∀ x ∈ s.approvals, x.target ≠ .EARN s.receipts.length
  approvalId : res.approvalId = some s.approvals.length
  frame : t = { s with
    receipts := s.receipts ++ [earnReceipt rt req adm ctx amount now]
    approvals := s.approvals ++ [earnApproval rt req adm s.receipts.length
      (rt.insertedAt .approvals s.approvals.length) now]
    idempotency := Function.update s.idempotency req.key
      (some (completedRecord req.requestHash (.earn res) now))
    outbox := t.outbox
    auditLog := t.auditLog }

/-- A capture credited at once. -/
structure EarnCredited (rt : Runtime) (req : EarnRequest) (adm : EarnAdmission) (ctx : EarnContext)
    (amount : PositiveKobo) (now : Int) (k : PositiveKobo) (l : CreditLot)
    (res : EarnTransactionResponse) (s t : Database) : Prop where
  status : earnCaptureStatus rt req adm ≠ .PENDING_APPROVAL
  credit : (k : Int) = calculateEarnAmountKobo req.purchaseAmountKobo
    (resolveEarnRateBps rt adm.configuredPolicy)
  posting : CreditPosting (earnLedgerEntry req ctx s.receipts.length k) l [] s.books t.books
  frame : t = { s with
    receipts := s.receipts ++ [earnReceipt rt req adm ctx amount now]
    ledger := s.ledger ++ [earnLedgerEntry req ctx s.receipts.length k]
    lots := s.lots ++ [l]
    idempotency := Function.update s.idempotency req.key
      (some (completedRecord req.requestHash (.earn res) now))
    outbox := t.outbox
    auditLog := t.auditLog }

inductive EarnCommitted (rt : Runtime) (req : EarnRequest) (adm : EarnAdmission)
    (ctx : EarnContext) (amount : PositiveKobo) (now : Int) (res : EarnTransactionResponse)
    (s t : Database) : Prop
  | pending (h : EarnPending rt req adm ctx amount now res s t)
  | credited {k l} (h : EarnCredited rt req adm ctx amount now k l res s t)

/-- **An earn transaction** captures a receipt, for approval or with its credit. -/
theorem earnTransaction_ok (h : earnTransaction rt req adm now s = .ok (res, t)) :
    ∃ ctx amount, EarnStarted rt req adm ctx amount now s ∧
      EarnCommitted rt req adm ctx amount now res s t := by
  simp only [earnTransaction, bind_ok, get_ok, rejectIf_ok, orFault_ok, insertReceipt_ok,
    PositiveKobo.of?_eq_some, Bool.not_eq_true, Option.isSome_eq_false_iff,
    Option.isNone_iff_eq_none] at h
  obtain ⟨ctx, _, hctx, _, _, ⟨rfl, rfl⟩, _, _, ⟨hnone, rfl⟩, amount, _, ⟨hamt, rfl⟩, _, _,
    ⟨hid, rfl, rfl⟩, h⟩ := h
  obtain ⟨rfl, -⟩ := earnContext_ok hctx
  refine ⟨ctx, amount, ?_⟩
  split at h
  · rename_i hst
    simp only [captureForApproval, bind_ok, get_ok, insertApproval_ok, insertOutboxEvent_ok,
      insertIdempotencyRecord_ok, recordAudit_ok, pure_ok] at h
    obtain ⟨_, _, ⟨rfl, rfl⟩, _, _, ⟨-, htarget, rfl, rfl⟩, _, _, rfl, _, _, ⟨hkey, rfl⟩, _, _, rfl,
      rfl, rfl⟩ := h
    exact ⟨⟨hctx, hnone, hamt.symm, hid, hkey⟩, .pending ⟨hst, htarget, rfl, rfl⟩⟩
  · rename_i hst
    simp only [creditReceipt, bind_ok, orFault_ok, insertLedgerEntry_ok, insertCreditLot_ok,
      insertOutboxEvent_ok, get_ok, insertIdempotencyRecord_ok, recordAudit_ok, onlyIf_ok, pure_ok,
      PositiveKobo.of?_eq_some] at h
    obtain ⟨k, _, ⟨hk, rfl⟩, _, _, ⟨-, rfl, rfl⟩, _, _, ⟨l, hl, -, -, -, rfl⟩, _, _, rfl, _, _, rfl,
      _, _, ⟨rfl, rfl⟩, _, _, ⟨hkey, rfl⟩, _, _, rfl, _, u, hover, rfl, rfl⟩ := h
    have hexp := hl.expiresAt
    refine ⟨⟨hctx, hnone, hamt.symm, hid, hkey⟩, .credited (k := k) (l := l) ⟨hst, hk.symm, ?_, ?_⟩⟩
    · refine ⟨rfl, rfl, .receipt rfl (by simp [earnLedgerEntry]), hexp ▸ hl, ?_⟩
      rcases hover with ⟨-, rfl⟩ | ⟨-, rfl⟩ <;> simp [books]
    · rcases hover with ⟨-, rfl⟩ | ⟨-, rfl⟩ <;> rfl

end LoyaltyService

namespace RedemptionsService

variable {rt : Runtime} {req : RedeemRequest} {adm : RedeemAdmission} {now : Int} {s t : Database}
  {res : RedeemTransactionResponse}

/-! ### Redemption requests -/

lemma redeemContext_ok {ctx : RedeemContext} (h : redeemContext rt req adm s = .ok (ctx, t)) :
    s = t ∧ s.registry.customers ctx.card.customerId = some ctx.customer ∧
      ctx.customer.tenantId = req.actor.tenantId := by
  simp only [redeemContext, bind_ok, get_ok, pure_ok] at h
  obtain ⟨_, _, ⟨rfl, rfl⟩, db, _, hdev, cc, _, hcard, w, _, hweek, rfl, rfl⟩ := h
  obtain rfl := findTransactionDevice_ok hdev
  obtain ⟨rfl, hcus, hten⟩ := findTransactionCard_ok hcard
  exact ⟨deriveReceiptWeekStart_ok hweek, hcus, hten⟩

/-- What a redemption transaction found before its first write. -/
structure RedeemStarted (rt : Runtime) (req : RedeemRequest) (adm : RedeemAdmission)
    (ctx : RedeemContext) (a : RedeemAssessment) (now : Int) (s : Database) : Prop where
  context : redeemContext rt req adm s = .ok (ctx, s)
  unused : findReceipt s req.actor.tenantId ctx.branchId ctx.receiptWeekStart
    req.normalizedPosReceiptNumber = none
  assessment : a = assessRedeem rt adm (s.registry.policies req.actor.tenantId ctx.branchId)
    (ActiveBalanceService.getActiveBalanceKobo s req.actor.tenantId ctx.card.customerId now)
  ceiling : adm.basketAmountKobo ≤ purchaseCeilingKobo rt
    ((s.registry.policies req.actor.tenantId ctx.branchId).map (·.earnPolicy))
  minimum : a.policy.minimumRedemptionKobo ≤ adm.requestedAmountKobo
  basketCap : adm.requestedAmountKobo ≤ a.policy.basketCapKobo
  maximum : adm.requestedAmountKobo ≤ a.policy.maximumAllowedKobo
  identity : ∀ x ∈ s.receipts, ¬ sameReceiptIdentity x (redeemReceipt req adm ctx a now)
  receipt : ∀ x ∈ s.redemptions, x.receiptId ≠ s.receipts.length
  key : s.idempotency req.key = none

/-- A redemption that waits for approval. -/
structure RedeemPending (rt : Runtime) (req : RedeemRequest) (adm : RedeemAdmission)
    (ctx : RedeemContext) (a : RedeemAssessment) (now : Int) (res : RedeemTransactionResponse)
    (s t : Database) : Prop where
  requiresApproval : a.requiresApproval = true
  target : ∀ x ∈ s.approvals, x.target ≠ .REDEEM s.redemptions.length
  approvalId : res.approvalId = some s.approvals.length
  frame : t = { s with
    receipts := s.receipts ++ [redeemReceipt req adm ctx a now]
    redemptions := s.redemptions ++ [redeemRedemption req adm ctx a s.receipts.length now]
    approvals := s.approvals ++ [redeemApproval req a s.redemptions.length
      (rt.insertedAt .approvals s.approvals.length) now]
    idempotency := Function.update s.idempotency req.key
      (some { requestHash := req.requestHash, responseJson := some (.redeem res)
              status := .COMPLETED, expiresAt := now + IDP_EXPIRY_MS })
    outbox := t.outbox
    auditLog := t.auditLog }

/-- A redemption settled at once: captured in `v`, its debit in `m`, all of it in `u`. -/
structure RedeemSettled (req : RedeemRequest) (adm : RedeemAdmission) (ctx : RedeemContext)
    (a : RedeemAssessment) (now : Int) (k : PositiveKobo) (r : Redemption)
    (rows : List RedemptionAllocation) (settled : RedemptionSettlementResult)
    (v m u w : Database) (res : RedeemTransactionResponse) (s t : Database) : Prop where
  requiresApproval : a.requiresApproval = false
  captured : v = { s with
    receipts := s.receipts ++ [redeemReceipt req adm ctx a now]
    redemptions := s.redemptions ++ [redeemRedemption req adm ctx a s.receipts.length now]
    auditLog := v.auditLog }
  settlement :
    Settled (requestedSettlement req adm ctx a s.receipts.length s.redemptions.length now)
    k r rows m u settled v w
  response : res.transactionId = some settled.redemptionLedgerEntryId ∧
    res.redemptionId = s.redemptions.length
  frame : t = { w with
    idempotency := Function.update w.idempotency req.key
      (some { requestHash := req.requestHash, responseJson := some (.redeem res)
              status := .COMPLETED, expiresAt := now + IDP_EXPIRY_MS })
    outbox := t.outbox
    auditLog := t.auditLog }

inductive RedeemCommitted (rt : Runtime) (req : RedeemRequest) (adm : RedeemAdmission)
    (ctx : RedeemContext) (a : RedeemAssessment) (now : Int) (res : RedeemTransactionResponse)
    (s t : Database) : Prop
  | pending (h : RedeemPending rt req adm ctx a now res s t)
  | settled {k r rows x v m u w} (h : RedeemSettled req adm ctx a now k r rows x v m u w res s t)

/-- **A redemption transaction** captures a receipt and a redemption, for approval or settled. -/
theorem redeemTransaction_ok (h : redeemTransaction rt req adm now s = .ok (res, t)) :
    ∃ ctx a, RedeemStarted rt req adm ctx a now s ∧
      RedeemCommitted rt req adm ctx a now res s t := by
  simp only [redeemTransaction, assertRedemptionPolicyAllowsRequest, bind_ok, get_ok, rejectIf_ok,
    insertReceipt_ok, insertRedemption_ok, recordAudit_ok, Bool.not_eq_true,
    Option.isSome_eq_false_iff, Option.isNone_iff_eq_none, not_lt, not_le] at h
  obtain ⟨ctx, _, hctx, _, _, ⟨rfl, rfl⟩, _, _, ⟨hnone, rfl⟩, _, _, ⟨hceil, rfl⟩, _, _,
    ⟨_, _, ⟨hmin, rfl⟩, _, _, ⟨-, rfl⟩, _, _, ⟨hcap, rfl⟩, hmax, rfl⟩, _, _, ⟨hid, rfl, rfl⟩,
    _, _, ⟨-, -, hrec, rfl, rfl⟩, _, v, hv, h⟩ := h
  obtain ⟨rfl, -⟩ := redeemContext_ok hctx
  set a := assessRedeem rt adm (s.registry.policies req.actor.tenantId ctx.branchId)
    (ActiveBalanceService.getActiveBalanceKobo s req.actor.tenantId ctx.card.customerId now) with ha
  refine ⟨ctx, a, ?_⟩
  split at h
  · rename_i hreq
    simp only [requestApproval, persistCompletedIdempotencyResponse, bind_ok, get_ok,
      insertApproval_ok,
      insertOutboxEvent_ok, insertIdempotencyRecord_ok, recordAudit_ok, pure_ok] at h
    obtain ⟨_, _, ⟨rfl, rfl⟩, _, _, ⟨-, htarget, rfl, rfl⟩, _, _, rfl, _, _, ⟨hkey, rfl⟩, _, _, rfl,
      rfl, rfl⟩ := h
    subst hv
    exact ⟨⟨hctx, hnone, ha, hceil, hmin, hcap, hmax, hid, hrec, hkey⟩,
      .pending ⟨hreq, htarget, rfl, rfl⟩⟩
  · rename_i hreq
    simp only [settleRequest, persistCompletedIdempotencyResponse, bind_ok, insertOutboxEvent_ok,
      insertIdempotencyRecord_ok, recordAudit_ok, pure_ok] at h
    obtain ⟨x, w, hset, _, _, rfl, _, _, ⟨hkey, rfl⟩, _, _, rfl, hres, ht⟩ := h
    obtain ⟨k, r, rows, m, u, hs⟩ := executeRedemptionSettlement_ok hset
    have hkey' : w.idempotency req.key = none := hkey
    rw [hs.idempotency, hv] at hkey'
    have hout : RedeemSettled req adm ctx a now k r rows x v m u w res s t :=
      ⟨by simpa using hreq, by rw [hv], hs, by rw [hres]; exact ⟨rfl, rfl⟩, by rw [ht, hres]⟩
    exact ⟨⟨hctx, hnone, ha, hceil, hmin, hcap, hmax, hid, hrec, hkey'⟩, .settled hout⟩

end RedemptionsService

end ShopcityLoyalty
