import ShopcityLoyalty.ApprovalDecision
import ShopcityLoyalty.CaptureOutcomes

/-!
What a committed expiry or decision of an approval leaves.
-/

namespace ShopcityLoyalty

open Txn Database

variable {s t : Database} {u : Unit}

@[simp] lemma requireRow_ok {α : Type} {rows : Table α} {i : Nat} {p : α → Prop} [DecidablePred p]
    {f : Fault} :
    requireRow rows i p f s = .ok (u, t) ↔ (∃ a, rows[i]? = some a ∧ p a) ∧ s = t := by
  simp only [requireRow, bind_ok, orFault_ok, rejectIf_ok, not_not]
  constructor
  · rintro ⟨a, _, ⟨ha, rfl⟩, hp, rfl⟩; exact ⟨⟨a, ha, hp⟩, rfl⟩
  · rintro ⟨⟨a, ha, hp⟩, rfl⟩; exact ⟨a, s, ⟨ha, rfl⟩, hp, rfl⟩

/-! ### Expiry -/

/-- What becomes of the receipt and the redemption of an expired approval. -/
inductive TargetExpired (tenantId : String) (now : Int) (actor : Option StaffRef) (s : Database) :
    ApprovalTarget → Option Nat → Database → Prop
  | earn {receiptId i r} (receipt : s.receipts[receiptId]? = some r)
      (pending : r.tenantId = tenantId ∧ r.captureStatus = .PENDING_APPROVAL ∧
        r.reviewStatus = .PENDING) :
      TargetExpired tenantId now actor s (.EARN receiptId) i
        { s with receipts := s.receipts.set receiptId (rejectedRow now actor r) }
  | redeem {redemptionId receiptId r d} (receipt : s.receipts[receiptId]? = some r)
      (pending : r.tenantId = tenantId ∧ r.captureStatus = .PENDING_APPROVAL ∧
        r.reviewStatus = .PENDING)
      (redemption : s.redemptions[redemptionId]? = some d)
      (waiting : d.tenantId = tenantId ∧ d.status = .PENDING_APPROVAL)
      (stateMachine : (expiredRedemptionRow now d).stateMachineCheck) :
      TargetExpired tenantId now actor s (.REDEEM redemptionId) (some receiptId)
        { s with
          receipts := s.receipts.set receiptId (rejectedRow now actor r)
          redemptions := s.redemptions.set redemptionId (expiredRedemptionRow now d) }
  | alone {redemptionId d} (redemption : s.redemptions[redemptionId]? = some d)
      (waiting : d.tenantId = tenantId ∧ d.status = .PENDING_APPROVAL)
      (stateMachine : (expiredRedemptionRow now d).stateMachineCheck) :
      TargetExpired tenantId now actor s (.REDEEM redemptionId) none
        { s with redemptions := s.redemptions.set redemptionId (expiredRedemptionRow now d) }

lemma expireTarget_ok {tenantId : String} {target : ApprovalTarget} {i : Option Nat} {now : Int}
    {actor : Option StaffRef} (h : expireTarget tenantId target i now actor s = .ok (u, t)) :
    TargetExpired tenantId now actor s target i t := by
  unfold expireTarget at h
  split at h
  · simp only [rejectExpiredReceipt, bind_ok, get_ok, requireRow_ok, modifyReceipt_ok] at h
    obtain ⟨_, _, ⟨rfl, rfl⟩, _, _, ⟨⟨r, hr, hp⟩, rfl⟩, r', hr', rfl⟩ := h
    obtain rfl : r = r' := Option.some.inj (hr.symm.trans hr')
    exact .earn hr hp
  · simp only [rejectExpiredReceipt, expireRedemption, bind_ok, get_ok, requireRow_ok,
      modifyReceipt_ok, modifyRedemption_ok] at h
    obtain ⟨_, _, ⟨_, _, ⟨rfl, rfl⟩, _, _, ⟨⟨r, hr, hp⟩, rfl⟩, r', hr', rfl⟩, _, _,
      ⟨rfl, rfl⟩, _, _,
      ⟨⟨d, hd, hw⟩, rfl⟩, d', hd', hsm, rfl⟩ := h
    obtain rfl : r = r' := Option.some.inj (hr.symm.trans hr')
    obtain rfl : d = d' := Option.some.inj (hd.symm.trans hd')
    exact .redeem hr hp hd hw hsm
  · simp only [expireRedemption, bind_ok, get_ok, requireRow_ok, modifyRedemption_ok] at h
    obtain ⟨_, _, ⟨rfl, rfl⟩, _, _, ⟨⟨d, hd, hw⟩, rfl⟩, d', hd', hsm, rfl⟩ := h
    obtain rfl : d = d' := Option.some.inj (hd.symm.trans hd')
    exact .alone hd hw hsm

/-- An expired approval with its receipt and redemption. -/
structure ApprovalExpired (approvalId : Nat) (a : Approval) (tenantId : String)
    (target : ApprovalTarget) (receiptId : Option Nat) (now : Int) (actor : Option StaffRef)
    (m s t : Database) : Prop where
  approval : s.approvals[approvalId]? = some a
  pending : a.tenantId = tenantId ∧ a.status = .PENDING
  stateMachine : (expiredRow now actor a).stateMachineCheck
  target : TargetExpired tenantId now actor
    { s with approvals := s.approvals.set approvalId (expiredRow now actor a) } target receiptId m
  frame : t = { m with auditLog := t.auditLog }

lemma expireApproval_ok {rt : Runtime} {approvalId : Nat} {tenantId : String}
    {target : ApprovalTarget} {receiptId : Option Nat} {now : Int}
    {actor detectedBy : Option StaffRef}
    (h : expireApproval rt approvalId tenantId target receiptId now actor detectedBy s =
      .ok (u, t)) :
    ∃ a m, ApprovalExpired approvalId a tenantId target receiptId now actor m s t := by
  simp only [expireApproval, expireApprovalRow, bind_ok, get_ok, requireRow_ok, modifyApproval_ok,
    recordAudit_ok] at h
  obtain ⟨_, _, ⟨_, _, ⟨rfl, rfl⟩, _, _, ⟨⟨a, ha, hp⟩, rfl⟩, a', ha', hsm, rfl⟩, _, m,
    htarget, rfl⟩ := h
  obtain rfl : a = a' := Option.some.inj (ha.symm.trans ha')
  exact ⟨a, m, ha, hp, hsm, expireTarget_ok htarget, rfl⟩

namespace LoyaltyService

variable {rt : Runtime} {req : DecisionRequest} {now : Int} {res : DecisionResult}

/-! ### Decisions -/

lemma moveApproval_ok {i : Nat} {tenantId : String} {from_ : ApprovalStatus} {failed : Fault}
    {f : Approval → Approval} (h : moveApproval i tenantId from_ failed f s = .ok (u, t)) :
    ∃ a, s.approvals[i]? = some a ∧ a.tenantId = tenantId ∧ a.status = from_ ∧
      (f a).stateMachineCheck ∧ t = { s with approvals := s.approvals.set i (f a) } := by
  simp only [moveApproval, bind_ok, get_ok, requireRow_ok, modifyApproval_ok] at h
  obtain ⟨_, _, ⟨rfl, rfl⟩, _, _, ⟨⟨a, ha, hten, hst⟩, rfl⟩, a', ha', hsm, rfl⟩ := h
  obtain rfl : a = a' := Option.some.inj (ha.symm.trans ha')
  exact ⟨a, ha, hten, hst, hsm, rfl⟩

/-- The pending approval a decision is about, of the actor's tenant and by another actor, on a
receipt of the branch that limits the actor. -/
structure Decidable (req : DecisionRequest) (a : Approval) (s : Database) : Prop where
  approval : s.approvals[req.approvalId]? = some a
  tenantId : a.tenantId = req.actor.tenantId
  requestedBy : a.requestedBy ≠ req.actor.staff
  pending : a.status = .PENDING
  scope : req.actor.role = .ADMIN ∨
    ∃ r, approvalReceipt s a.target = some r ∧ req.actor.branchId = some r.branchId

lemma requireBranchScope_ok {actor : AuthContext} {scope : Option String}
    (h : requireBranchScope actor s = .ok (scope, t)) :
    s = t ∧ (actor.role = .ADMIN ∨ ∃ b, actor.branchId = some b ∧ scope = some b) := by
  unfold requireBranchScope at h
  split at h
  · rename_i hadmin
    exact ⟨(pure_ok.1 h).2.symm, .inl hadmin⟩
  · cases hb : actor.branchId with
    | none => rw [hb] at h; simp at h
    | some b =>
        rw [hb] at h
        obtain ⟨hscope, rfl⟩ := pure_ok.1 h
        exact ⟨rfl, .inr ⟨b, rfl, hscope⟩⟩

lemma findPendingApproval_ok {a : Approval} (h : findPendingApproval req s = .ok (a, t)) :
    s = t ∧ LoyaltyService.Decidable req a s := by
  simp only [findPendingApproval, bind_ok, get_ok, orFault_ok, rejectIf_ok, pure_ok, not_not] at h
  obtain ⟨scope, _, hscope, _, _, ⟨rfl, rfl⟩, _, _, ⟨ha, rfl⟩, _, _, ⟨hin, rfl⟩, _, _, ⟨hreq, rfl⟩,
    _, _, ⟨hst, rfl⟩, rfl, rfl⟩ := h
  obtain ⟨rfl, hadmin⟩ := requireBranchScope_ok hscope
  obtain ⟨ha, hten⟩ := Option.filter_eq_some_iff.1 ha
  refine ⟨rfl, ha, by simpa using hten, hreq, hst, hadmin.imp_right ?_⟩
  rintro ⟨b, hbranch, rfl⟩
  by_contra hnone
  refine hin ⟨b, rfl, ?_⟩
  rintro ⟨r, hr, hb⟩
  refine hnone ⟨r, hr, ?_⟩
  rw [hbranch, hb]

/-- An approval found overdue by its decision. -/
structure FoundExpired (req : DecisionRequest) (a : Approval) (receiptId : Option Nat) (now : Int)
    (s t : Database) : Prop where
  overdue : a.expiresAt ≤ now
  expired : ∃ m, ApprovalExpired req.approvalId a a.tenantId a.target receiptId now none m s t

/-- A declined approval of a captured receipt. -/
structure EarnRejected (req : DecisionRequest) (a : Approval) (receiptId : Nat) (r : Receipt)
    (now : Int) (s t : Database) : Prop where
  unexpired : now < a.expiresAt
  decision : req.decision = .REJECTED
  receipt : s.receipts[receiptId]? = some r
  frame : t = { s with
    approvals := s.approvals.set req.approvalId (decided req .REJECTED now a)
    receipts := s.receipts.set receiptId (reviewed req .REJECTED now r)
    auditLog := t.auditLog }

/-- An executed approval of a captured receipt. -/
structure EarnExecuted (rt : Runtime) (req : DecisionRequest) (a : Approval) (receiptId : Nat)
    (r : Receipt) (now : Int) (k : PositiveKobo) (l : CreditLot) (s t : Database) : Prop where
  unexpired : now < a.expiresAt
  decision : req.decision = .APPROVED
  receipt : s.receipts[receiptId]? = some r
  pending : r.captureStatus = .PENDING_APPROVAL ∧ r.reviewStatus = .PENDING
  checked : checkEarnApproval rt req a r s = .ok ((), s)
  credit : (k : Int) = calculateEarnAmountKobo r.purchaseAmountKobo (resolveEarnRateBps rt none)
  posting : CreditPosting (approvedLedgerEntry req receiptId r k) l [] s.books t.books
  frame : t = { s with
    approvals := s.approvals.set req.approvalId (executed now (decided req .APPROVED now a))
    receipts := s.receipts.set receiptId (reviewed req .APPROVED now r)
    ledger := s.ledger ++ [approvedLedgerEntry req receiptId r k]
    lots := s.lots ++ [l]
    outbox := t.outbox
    auditLog := t.auditLog }

inductive EarnDecided (rt : Runtime) (req : DecisionRequest) (a : Approval) (receiptId : Nat)
    (now : Int) (s t : Database) : DecisionResult → Prop
  | expired (h : FoundExpired req a none now s t) : EarnDecided rt req a receiptId now s t .expired
  | rejected {r} (h : EarnRejected req a receiptId r now s t) :
      EarnDecided rt req a receiptId now s t
        (.decided (decisionResponse req .REJECTED receiptId now))
  | executed {r k l} (h : EarnExecuted rt req a receiptId r now k l s t) :
      EarnDecided rt req a receiptId now s t (.decided
        { decisionResponse req .EXECUTED receiptId now with
          ledgerEntryId := some s.ledger.length, creditKobo := some k })

lemma assertApprovalPolicyStillPermitsExecution_ok {k : Int} {v : String} {c : Option String}
    (h : assertApprovalPolicyStillPermitsExecution rt k v c s = .ok (u, t)) : s = t := by
  simp only [assertApprovalPolicyStillPermitsExecution, bind_ok, rejectIf_ok] at h
  obtain ⟨_, _, ⟨-, rfl⟩, _, _, ⟨-, rfl⟩, -, rfl⟩ := h
  rfl

lemma checkEarnApproval_ok {a : Approval} {r : Receipt}
    (h : checkEarnApproval rt req a r s = .ok (u, t)) :
    s = t ∧ r.captureStatus = .PENDING_APPROVAL ∧ r.reviewStatus = .PENDING := by
  simp only [checkEarnApproval, bind_ok, get_ok, rejectIf_ok, not_or, not_not] at h
  obtain ⟨_, _, ⟨⟨hcap, hrev⟩, rfl⟩, _, _, ⟨-, rfl⟩, _, _, ⟨rfl, rfl⟩, _, _, ⟨-, rfl⟩, hpol⟩ := h
  exact ⟨assertApprovalPolicyStillPermitsExecution_ok hpol, hcap, hrev⟩

lemma decideEarnApproval_ok {a : Approval} {receiptId : Nat}
    (ha : s.approvals[req.approvalId]? = some a)
    (h : decideEarnApproval rt req a receiptId now s = .ok (res, t)) :
    EarnDecided rt req a receiptId now s t res := by
  simp only [decideEarnApproval, bind_ok, get_ok, orFault_ok] at h
  obtain ⟨_, _, ⟨rfl, rfl⟩, r, _, ⟨hr, rfl⟩, h⟩ := h
  split at h
  · rename_i hover
    simp only [bind_ok, pure_ok] at h
    obtain ⟨_, _, hexp, rfl, rfl⟩ := h
    obtain ⟨a', m, hx⟩ := expireApproval_ok hexp
    obtain rfl : a = a' := Option.some.inj (ha.symm.trans hx.approval)
    exact .expired ⟨hover, m, hx⟩
  rename_i hunexp
  split at h
  · rename_i hdec
    simp only [rejectEarnApproval, bind_ok, modifyReceipt_ok, recordAudit_ok, pure_ok] at h
    obtain ⟨_, _, hmove, _, _, ⟨r', hr', rfl⟩, _, _, rfl, rfl, rfl⟩ := h
    obtain ⟨a', ha', -, -, -, rfl⟩ := moveApproval_ok hmove
    obtain rfl : a = a' := Option.some.inj (ha.symm.trans ha')
    obtain rfl : r = r' := Option.some.inj (hr.symm.trans hr')
    exact .rejected ⟨not_le.1 hunexp, hdec, hr, rfl⟩
  · rename_i hdec
    simp only [bind_ok, executeEarnApproval, get_ok, rejectIf_ok, orFault_ok, insertLedgerEntry_ok,
      insertCreditLot_ok, insertOutboxEvent_ok, modifyReceipt_ok, recordAudit_ok, pure_ok,
      PositiveKobo.of?_eq_some] at h
    obtain ⟨_, _, hcheck, _, _, hmove, _, _, ⟨rfl, rfl⟩, _, _, ⟨-, rfl⟩, k, _, ⟨hk, rfl⟩, _, _,
      ⟨-, rfl, rfl⟩, _, _, ⟨l, hl, -, -, -, rfl⟩, _, _, rfl, _, _, ⟨r', hr', rfl⟩, _, _,
        hmove', _, _,
      rfl, hres, ht⟩ := h
    obtain ⟨rfl, hcap, hrev⟩ := checkEarnApproval_ok hcheck
    obtain ⟨a', ha', -, -, -, rfl⟩ := moveApproval_ok hmove
    obtain rfl : a = a' := Option.some.inj (ha.symm.trans ha')
    obtain ⟨a'', ha'', -, -, -, rfl⟩ := moveApproval_ok hmove'
    obtain rfl : r = r' := Option.some.inj (hr.symm.trans hr')
    obtain rfl : decided req .APPROVED now a = a'' := by
      rw [List.getElem?_set_self (Table.lt_of_getElem? ha)] at ha''
      exact Option.some.inj ha''
    have hexp := hl.expiresAt
    have happ : req.decision = .APPROVED := by
      cases hd : req.decision with
      | APPROVED => rfl
      | REJECTED => exact absurd hd hdec
    simp only [List.set_set] at ht
    have hbooks : t.books = { s.books with
        ledger := s.ledger ++ [approvedLedgerEntry req receiptId r k], lots := s.lots ++ [l] } := by
      rw [ht]; rfl
    have hout : EarnExecuted rt req a receiptId r now k l s t := by
      refine ⟨not_le.1 hunexp, happ, hr, ⟨hcap, hrev⟩, hcheck, hk.symm, ?_, by rw [ht]⟩
      refine ⟨rfl, rfl, .receipt rfl (by simp [approvedLedgerEntry]), hexp ▸ hl, ?_⟩
      rw [hbooks]
      simp [books]
    rw [hres, hk]
    exact .executed hout

/-! ### Decisions on redemptions -/

/-- A declined redemption. -/
structure RedeemRejected (req : DecisionRequest) (a : Approval) (redemptionId : Nat)
    (d : Redemption) (r : Receipt) (now : Int) (s t : Database) : Prop where
  unexpired : now < a.expiresAt
  decision : req.decision = .REJECTED
  receipt : s.receipts[d.receiptId]? = some r
  stateMachine : (rejectedRedemption now d).stateMachineCheck
  frame : t = { s with
    approvals := s.approvals.set req.approvalId (decided req .REJECTED now a)
    redemptions := s.redemptions.set redemptionId (rejectedRedemption now d)
    receipts := s.receipts.set d.receiptId (reviewed req .REJECTED now r)
    auditLog := t.auditLog }

/-- An executed redemption: approved in `v`, its debit in `m`, settled in `w`. -/
structure RedeemExecuted (rt : Runtime) (req : DecisionRequest) (a : Approval) (redemptionId : Nat)
    (d : Redemption) (r : Receipt) (now : Int) (k : PositiveKobo)
    (rows : List RedemptionAllocation) (settled : RedemptionSettlementResult)
    (v m u w s t : Database) : Prop where
  unexpired : now < a.expiresAt
  decision : req.decision = .APPROVED
  receipt : s.receipts[d.receiptId]? = some r
  pending : d.status = .PENDING_APPROVAL ∧ r.captureStatus = .PENDING_APPROVAL ∧
    r.reviewStatus = .PENDING
  checked : checkRedemptionApproval rt req a d r now s = .ok ((), s)
  approved : v = { s with
    approvals := s.approvals.set req.approvalId (decided req .APPROVED now a) }
  settlement : Settled (approvedSettlement rt s req redemptionId d r now) k d rows m u settled v w
  frame : t = { w with
    receipts := w.receipts.set d.receiptId (reviewed req .APPROVED now r)
    approvals := w.approvals.set req.approvalId (executed now (decided req .APPROVED now a))
    auditLog := t.auditLog }

inductive RedeemDecided (rt : Runtime) (req : DecisionRequest) (a : Approval) (redemptionId : Nat)
    (d : Redemption) (now : Int) (s t : Database) : DecisionResult → Prop
  | expired (h : FoundExpired req a (some d.receiptId) now s t) :
      RedeemDecided rt req a redemptionId d now s t .expired
  | rejected {r} (h : RedeemRejected req a redemptionId d r now s t) :
      RedeemDecided rt req a redemptionId d now s t (.decided
        { decisionResponse req .REJECTED d.receiptId now with redemptionId := some redemptionId })
  | executed {r k rows x v m u w}
      (h : RedeemExecuted rt req a redemptionId d r now k rows x v m u w s t) :
      RedeemDecided rt req a redemptionId d now s t (.decided
        { decisionResponse req .EXECUTED d.receiptId now with
          redemptionId := some redemptionId
          ledgerEntryId := some x.redemptionLedgerEntryId
          redeemedAmountKobo := some d.requestedAmountKobo
          netPaidAmountKobo := some x.netPaidAmountKobo
          earnedKobo := some x.earnedKobo
          earnTransactionId := x.earnLedgerEntryId
          remainingBalanceKobo := some x.remainingBalanceKobo })

lemma assertRedemptionApprovalPolicyStillPermitsExecution_ok {x : RedemptionPolicyInput}
    {v : String}
    (h : assertRedemptionApprovalPolicyStillPermitsExecution rt x v s = .ok (u, t)) : s = t := by
  simp only [assertRedemptionApprovalPolicyStillPermitsExecution, bind_ok, rejectIf_ok] at h
  obtain ⟨_, _, ⟨-, rfl⟩, _, _, ⟨-, rfl⟩, _, _, ⟨-, rfl⟩, -, rfl⟩ := h
  rfl

lemma checkRedemptionApproval_ok {a : Approval} {d : Redemption} {r : Receipt}
    (h : checkRedemptionApproval rt req a d r now s = .ok (u, t)) :
    s = t ∧ d.status = .PENDING_APPROVAL ∧ r.captureStatus = .PENDING_APPROVAL ∧
      r.reviewStatus = .PENDING := by
  simp only [checkRedemptionApproval, bind_ok, get_ok, rejectIf_ok, not_or, not_not] at h
  obtain ⟨_, _, ⟨hpend, rfl⟩, _, _, ⟨rfl, rfl⟩, _, _, ⟨-, rfl⟩, _, _, ⟨-, rfl⟩, _, _,
    ⟨-, rfl⟩, _, _,
    ⟨-, rfl⟩, hpol⟩ := h
  exact ⟨assertRedemptionApprovalPolicyStillPermitsExecution_ok hpol, hpend⟩

lemma executeRedemptionApproval_ok {a : Approval} {redemptionId : Nat} {d : Redemption}
    {r : Receipt} (ha : s.approvals[req.approvalId]? = some a)
    (hd : s.redemptions[redemptionId]? = some d) (hr : s.receipts[d.receiptId]? = some r)
    (h : executeRedemptionApproval rt req redemptionId d r now s = .ok (res, t)) :
    ∃ k rows x v m u w, v = { s with
        approvals := s.approvals.set req.approvalId (decided req .APPROVED now a) } ∧
      Settled (approvedSettlement rt s req redemptionId d r now) k d rows m u x v w ∧
      t = { w with
        receipts := w.receipts.set d.receiptId (reviewed req .APPROVED now r)
        approvals := w.approvals.set req.approvalId (executed now (decided req .APPROVED now a))
        auditLog := t.auditLog } ∧
      res = .decided
        { decisionResponse req .EXECUTED d.receiptId now with
          redemptionId := some redemptionId
          ledgerEntryId := some x.redemptionLedgerEntryId
          redeemedAmountKobo := some d.requestedAmountKobo
          netPaidAmountKobo := some x.netPaidAmountKobo
          earnedKobo := some x.earnedKobo
          earnTransactionId := x.earnLedgerEntryId
          remainingBalanceKobo := some x.remainingBalanceKobo } := by
  simp only [executeRedemptionApproval, bind_ok, get_ok, modifyReceipt_ok, recordAudit_ok,
    pure_ok] at h
  obtain ⟨_, v, hmove, _, _, ⟨rfl, rfl⟩, x, w, hset, _, _, ⟨r', hr', rfl⟩, _, _, hmove', _, _, rfl,
    hres, ht⟩ := h
  obtain ⟨a', ha', -, -, -, hv⟩ := moveApproval_ok hmove
  obtain rfl : a = a' := Option.some.inj (ha.symm.trans ha')
  obtain ⟨k, d', rows, m, u, hs⟩ := executeRedemptionSettlement_ok hset
  have happrovals : w.approvals = s.approvals.set req.approvalId (decided req .APPROVED now a) := by
    rw [hs.approvals, hv]
  obtain ⟨a'', ha'', -, -, -, rfl⟩ := moveApproval_ok hmove'
  have hlt : req.approvalId < s.approvals.length := Table.lt_of_getElem? ha
  obtain rfl : decided req .APPROVED now a = a'' := by
    rw [happrovals, List.getElem?_set_self hlt] at ha''
    exact Option.some.inj ha''
  obtain rfl : r = r' := by
    rw [hs.receipts, hv] at hr'
    exact Option.some.inj (hr.symm.trans hr')
  obtain rfl : d = d' := by
    have hd' := hs.redemption
    rw [hv] at hd'
    exact Option.some.inj (hd.symm.trans hd')
  refine ⟨k, rows, x, v, m, u, w, hv, ?_, by rw [ht], hres⟩
  rw [hv] at hs ⊢
  exact hs

lemma decideRedemptionApproval_ok {a : Approval} {redemptionId : Nat}
    (ha : s.approvals[req.approvalId]? = some a)
    (h : decideRedemptionApproval rt req a redemptionId now s = .ok (res, t)) :
    ∃ d, s.redemptions[redemptionId]? = some d ∧ d.tenantId = a.tenantId ∧
      RedeemDecided rt req a redemptionId d now s t res := by
  simp only [decideRedemptionApproval, bind_ok, get_ok, orFault_ok] at h
  obtain ⟨_, _, ⟨rfl, rfl⟩, d, _, ⟨hd, rfl⟩, r, _, ⟨hr, rfl⟩, h⟩ := h
  obtain ⟨hd, hten⟩ := Option.filter_eq_some_iff.1 hd
  refine ⟨d, hd, by simpa using hten, ?_⟩
  split at h
  · rename_i hover
    simp only [bind_ok, pure_ok] at h
    obtain ⟨_, _, hexp, rfl, rfl⟩ := h
    obtain ⟨a', m, hx⟩ := expireApproval_ok hexp
    obtain rfl : a = a' := Option.some.inj (ha.symm.trans hx.approval)
    exact .expired ⟨hover, m, hx⟩
  rename_i hunexp
  split at h
  · rename_i hdec
    simp only [rejectRedemptionApproval, bind_ok, modifyRedemption_ok, modifyReceipt_ok,
      recordAudit_ok, pure_ok] at h
    obtain ⟨_, _, hmove, _, _, ⟨d', hd', hsm, rfl⟩, _, _, ⟨r', hr', rfl⟩, _, _, rfl, _, _, rfl, rfl,
      rfl⟩ := h
    obtain ⟨a', ha', -, -, -, rfl⟩ := moveApproval_ok hmove
    obtain rfl : a = a' := Option.some.inj (ha.symm.trans ha')
    obtain rfl : d = d' := Option.some.inj (hd.symm.trans hd')
    obtain rfl : r = r' := Option.some.inj (hr.symm.trans hr')
    exact .rejected ⟨not_le.1 hunexp, hdec, hr, hsm, rfl⟩
  · rename_i hdec
    rw [bind_ok] at h
    obtain ⟨_, _, hcheck, hexec⟩ := h
    obtain ⟨rfl, hpend⟩ := checkRedemptionApproval_ok hcheck
    obtain ⟨k, rows, x, v, m, u, w, hv, hs, ht, rfl⟩ := executeRedemptionApproval_ok ha hd hr hexec
    have happ : req.decision = .APPROVED := by
      cases hd : req.decision with
      | APPROVED => rfl
      | REJECTED => exact absurd hd hdec
    exact .executed ⟨not_le.1 hunexp, happ, hr, hpend, hcheck, hv, hs, ht⟩

/-- What a decision did with the approval's target. -/
inductive TargetDecided (rt : Runtime) (req : DecisionRequest) (a : Approval) (now : Int)
    (s t : Database) (res : DecisionResult) : Prop
  | earn {receiptId} (target : a.target = .EARN receiptId)
      (h : EarnDecided rt req a receiptId now s t res)
  | redeem {redemptionId d} (target : a.target = .REDEEM redemptionId)
      (redemption : s.redemptions[redemptionId]? = some d) (tenantId : d.tenantId = a.tenantId)
      (h : RedeemDecided rt req a redemptionId d now s t res)

/-- **A decision transaction** starts with a PENDING record and ends with a decided approval. -/
theorem decideTransaction_ok {startedAt : Int}
    (h : decideTransaction rt req startedAt now s = .ok (res, t)) :
    s.idempotency req.key = none ∧ ∃ a v, v = { s with
        idempotency := Function.update s.idempotency req.key
          (some (pendingDecisionRecord req startedAt)) } ∧
      LoyaltyService.Decidable req a v ∧ TargetDecided rt req a now v t res := by
  simp only [decideTransaction, bind_ok, insertIdempotencyRecord_ok] at h
  obtain ⟨_, v, ⟨hkey, hv⟩, a, _, hfind, h⟩ := h
  obtain ⟨rfl, hdec⟩ := findPendingApproval_ok hfind
  refine ⟨hkey, a, v, hv, hdec, ?_⟩
  cases htar : a.target with
  | EARN receiptId =>
      rw [htar] at h
      exact .earn htar (decideEarnApproval_ok hdec.approval h)
  | REDEEM redemptionId =>
      rw [htar] at h
      obtain ⟨d, hd, hten, hout⟩ := decideRedemptionApproval_ok hdec.approval h
      exact .redeem htar hd hten hout

end LoyaltyService

end ShopcityLoyalty
