import ShopcityLoyalty.CapturedRows
import ShopcityLoyalty.EarnRates
import ShopcityLoyalty.Registrations

/-!
Approvals of captured receipts under a policy that stays as it is.

A capture remembers the version of its branch's policy. The decision looks at the environment's
policy, whatever is configured for the branch: the version, the ceiling, the threshold and the rate.
-/

namespace ShopcityLoyalty

open Txn Database

/-! ### Entries named after an approval -/

/-- The approval that an entry is named after. -/
def CorrelationId.approvalId? : CorrelationId → Option Nat
  | .approval i => some i
  | .redemptionApproval i => some i
  | .earn c => c.approvalId?
  | _ => none

/-- An approval is decided before an entry is named after it. -/
def NamedDecided (s : Database) : Prop :=
  ∀ e ∈ s.ledger, ∀ i, e.correlationId.approvalId? = some i →
    ∃ a, s.approvals[i]? = some a ∧ a.status ≠ .PENDING

section names

variable {rt : Runtime} {op : Op} {s t : Database} {now : Int}

/-- The new entries are named after no approval. -/
def NamesNone (s t : Database) : Prop :=
  ∃ es, t.ledger = s.ledger ++ es ∧ ∀ e ∈ es, e.correlationId.approvalId? = none

lemma NamesNone.same (hl : t.ledger = s.ledger) : NamesNone s t := by
  refine ⟨[], ?_, fun e he => ?_⟩
  · rw [hl, List.append_nil]
  · cases he

lemma NamesNone.one {e : LoyaltyLedgerEntry} (hl : t.ledger = s.ledger ++ [e])
    (he : e.correlationId.approvalId? = none) : NamesNone s t := by
  refine ⟨[e], hl, fun x hx => ?_⟩
  rw [List.mem_singleton.1 hx]
  exact he

lemma NamesNone.trans {u : Database} (h : NamesNone s t) (h' : NamesNone t u) : NamesNone s u := by
  obtain ⟨es, hl, hes⟩ := h
  obtain ⟨es', hl', hes'⟩ := h'
  refine ⟨es ++ es', ?_, fun e he => ?_⟩
  · rw [hl', hl, List.append_assoc]
  · rcases List.mem_append.1 he with he | he
    · exact hes e he
    · exact hes' e he

/-- The entries of a step are named after no approval, or after one that it decides. -/
def NamedBy (s t : Database) : Prop :=
  ∃ es, t.ledger = s.ledger ++ es ∧ ∀ e ∈ es, ∀ i, e.correlationId.approvalId? = some i →
    ∃ a, t.approvals[i]? = some a ∧ a.status ≠ .PENDING

lemma NamesNone.namedBy (h : NamesNone s t) : NamedBy s t := by
  obtain ⟨es, hl, hes⟩ := h
  refine ⟨es, hl, fun e he i hi => ?_⟩
  rw [hes e he] at hi
  cases hi

lemma NamedDecided.step (h : NamedDecided s) (hrows : RowsKept s t) (hnew : NamedBy s t) :
    NamedDecided t := by
  obtain ⟨es, hl, hes⟩ := hnew
  intro e he i hi
  rw [hl] at he
  rcases List.mem_append.1 he with hold | hadded
  · obtain ⟨a, ha, hstatus⟩ := h e hold i hi
    obtain ⟨b, hb, hlater⟩ := hrows.approvals i a ha
    refine ⟨b, hb, ?_⟩
    rcases hlater with rfl | hdecided
    · exact hstatus
    · exact hdecided
  · exact hes e hadded i hi

lemma Settled.named {input : RedemptionSettlementInput} {k : PositiveKobo} {r : Redemption}
    {rows : List RedemptionAllocation} {m u : Database} {res : RedemptionSettlementResult}
    (h : Settled input k r rows m u res s t) : ∃ es, t.ledger = s.ledger ++ es ∧
      ∀ e ∈ es, e.correlationId.approvalId? = input.correlationId.approvalId? := by
  obtain ⟨es, hl, hes⟩ := h.ledger
  refine ⟨es, hl, fun e he => ?_⟩
  rcases hes with rfl | ⟨k', rfl⟩
  · rw [List.mem_singleton.1 he]
    rfl
  · rcases List.mem_cons.1 he with rfl | he
    · rfl
    · rw [List.mem_singleton.1 he]
      rfl

lemma LoyaltyService.TargetDecided.named {req : DecisionRequest} {a : Approval}
    {res : DecisionResult} (hdec : LoyaltyService.Decidable req a s)
    (h : TargetDecided rt req a now s t res) : NamedBy s t := by
  have hlt := Table.lt_of_getElem? hdec.approval
  cases h with
  | earn _ h =>
      cases h with
      | expired h =>
          exact (NamesNone.same (congrArg (·.ledger) h.books)).namedBy
      | rejected h => exact (NamesNone.same (by rw [h.frame])).namedBy
      | @executed r k l h =>
          refine ⟨[approvedLedgerEntry req _ r k], by rw [h.frame], fun e he i hi => ?_⟩
          rw [List.mem_singleton.1 he] at hi
          obtain rfl : req.approvalId = i := Option.some.inj hi
          refine ⟨executed now (decided req .APPROVED now a), ?_, by simp [executed]⟩
          rw [h.frame]
          exact List.getElem?_set_self hlt
  | redeem _ _ _ h =>
      cases h with
      | expired h =>
          exact (NamesNone.same (congrArg (·.ledger) h.books)).namedBy
      | rejected h => exact (NamesNone.same (by rw [h.frame])).namedBy
      | @executed r k rows x v m u w h =>
          obtain ⟨es, hl, hes⟩ := h.settlement.named
          have hledger : v.ledger = s.ledger := by rw [h.approved]
          refine ⟨es, ?_, fun e he i hi => ?_⟩
          · rw [h.frame]
            change w.ledger = _
            rw [hl, hledger]
          · rw [hes e he] at hi
            obtain rfl : req.approvalId = i := Option.some.inj hi
            have happrovals : w.approvals =
                s.approvals.set req.approvalId (decided req .APPROVED now a) := by
              rw [h.settlement.approvals, h.approved]
            refine ⟨executed now (decided req .APPROVED now a), ?_, by simp [executed]⟩
            rw [h.frame]
            change (w.approvals.set _ _)[_]? = _
            rw [happrovals, List.set_set]
            exact List.getElem?_set_self hlt

open ReversalsService in
lemma ReversalsService.ReverseCommitted.namesNone {input : ReversalInput} {o : LoyaltyLedgerEntry}
    {finishedAt : Int} {existing : Option Response} {res : Response}
    (h : ReverseCommitted input o now finishedAt existing s t res) : NamesNone s t := by
  cases h with
  | @credit lotId k l row res m _ _ _ h =>
      have hm : m.ledger = _ := congrArg (·.ledger) h.compensated.frame
      have hl : t.ledger = m.ledger := by rw [h.completed]
      exact .one (hl.trans hm) rfl
  | @debit k planned rows res m w _ _ _ h =>
      have hm : m.ledger = _ := congrArg (·.ledger) h.restored.frame
      have hw : w.ledger = m.ledger := by rw [h.marked.frame]
      have hl : t.ledger = w.ledger := by rw [h.completed]
      exact .one ((hl.trans hw).trans hm) rfl
  | pair _ _ _ h =>
      cases h with
      | @reversed lotId l row planned rows m u w _ h =>
          have hm : m.ledger = _ := congrArg (·.ledger) h.compensated.frame
          have hu : u.ledger = _ := congrArg (·.ledger) h.restored.frame
          have hw : w.ledger = u.ledger := by rw [h.marked.frame]
          have hl : t.ledger = w.ledger := by rw [h.completed]
          exact (NamesNone.one hm rfl).trans (.one ((hl.trans hw).trans hu) rfl)
      | replayed hs _ _ => exact .same (by rw [hs])
  | replayed _ _ hs => exact .same (by rw [hs])

lemma CreditExpiryService.expireLot_namesNone {systemActor : String → String} {r : LockedCreditLot}
    {u : Unit} (h : expireLot rt systemActor r s = .ok (u, t)) : NamesNone s t := by
  simp only [expireLot, bind_ok, orFault_ok, insertLedgerEntry_ok, insertCreditExpiry_ok, get_ok,
    rejectIf_ok, putRemaining_ok, recordAudit_ok] at h
  obtain ⟨k, _, ⟨-, rfl⟩, _, _, ⟨-, rfl, rfl⟩, _, _, ⟨-, -, -, rfl⟩, _, _, ⟨rfl, rfl⟩, x, _,
    ⟨-, rfl⟩, _, _, ⟨-, rfl⟩, _, _, ⟨l, -, rfl⟩, rfl⟩ := h
  exact .one (e := expiryEntry systemActor r k) rfl rfl

lemma CreditExpiryService.expireDueCredit_namesNone {systemActor : String → String}
    {batchSize : Nat} {skipped : List Nat} {res : ExpirySweepResult}
    (h : expireDueCredit rt systemActor now batchSize skipped s = .ok (res, t)) :
    NamesNone s t := by
  have hloop : ∀ (due : List LockedCreditLot) (u v : Database) (x : Unit),
      each (expireLot rt systemActor) due u = .ok (x, v) → NamesNone u v := by
    intro due
    induction due with
    | nil =>
        intro u v x h
        exact .same (by rw [each_nil_ok.1 h])
    | cons r rest ih =>
        intro u v x h
        obtain ⟨_, w, hr, hrest⟩ := each_cons_ok.1 h
        exact (expireLot_namesNone hr).trans (ih w v x hrest)
  simp only [expireDueCredit, bind_ok, rejectIf_ok, get_ok, pure_ok] at h
  obtain ⟨_, _, ⟨-, rfl⟩, _, _, ⟨rfl, rfl⟩, _, _, heach, -, rfl⟩ := h
  exact hloop _ _ _ _ heach

/-- **Every operation** names entries after no approval, or after the one that it decides. -/
theorem Outcome.namedBy (h : Outcome rt s t op)
    (hop : ∀ systemActor now batchSize skipped,
      op ≠ .expireCredit systemActor now batchSize skipped) :
    NamedBy s t := by
  cases h with
  | earn _ h => cases h with
      | pending h => exact (NamesNone.same (by rw [h.frame])).namedBy
      | credited h => exact (NamesNone.one (by rw [h.frame]) rfl).namedBy
  | redeem _ h => cases h with
      | pending h => exact (NamesNone.same (by rw [h.frame])).namedBy
      | @settled k r rows x v m u w h =>
          obtain ⟨es, hl, hes⟩ := h.settlement.named
          have hv : v.ledger = s.ledger := by rw [h.captured]
          have ht : t.ledger = w.ledger := by rw [h.frame]
          have hnone : NamesNone s t := ⟨es, by rw [ht, hl, hv], hes⟩
          exact hnone.namedBy
  | @decide _ _ _ _ _ v _ hv hdec h =>
      obtain ⟨es, hl, hes⟩ := h.named hdec
      have hledger : v.ledger = s.ledger := by rw [hv]
      exact ⟨es, by rw [hl, hledger], hes⟩
  | @reverse _ _ _ _ _ v _ _ hopen _ h =>
      have hsv : NamesNone s v := by cases hopen <;> exact .same rfl
      exact (hsv.trans h.namesNone).namedBy
  | adjust _ h => cases h with
      | credit h => exact (NamesNone.one (by rw [h.frame]) rfl).namedBy
      | debit h => exact (NamesNone.one (by rw [h.frame]) rfl).namedBy
  | expireCredit h => exact absurd rfl (hop _ _ _ _)
  | expireApprovals h => exact (NamesNone.same (congrArg (·.ledger) (Lapsed.books h))).namedBy
  | completeDecision h | cleanup h | cleanupAnyEndpoint h | recordDuplicate h | administer h =>
      exact (NamesNone.same (by rw [h.frame])).namedBy

lemma Step.namedBy {u v : System} (hu : Reachable rt u) (h : Step rt op u v) :
    NamedBy u.db v.db := by
  by_cases hop : ∃ systemActor now batchSize skipped,
      op = .expireCredit systemActor now batchSize skipped
  · obtain ⟨systemActor, now, batchSize, skipped, rfl⟩ := hop
    obtain ⟨res, db, hok, rfl⟩ := System.commit_ok.1 h.runs
    exact (CreditExpiryService.expireDueCredit_namesNone hok).namedBy
  · exact (h.outcome hu.invariants.books.sound).namedBy fun systemActor now batchSize skipped heq =>
      hop ⟨systemActor, now, batchSize, skipped, heq⟩

/-- **An entry is named after an approval** only once that is decided. -/
theorem Reachable.namedDecided {u : System} (hu : Reachable rt u) : NamedDecided u.db := by
  obtain ⟨registry, hrun⟩ := hu
  have hstep : ∀ {op : Op} {v w : System}, Reachable rt v ∧ NamedDecided v.db →
      Step rt op v w → Reachable rt w ∧ NamedDecided w.db := by
    intro op v w ⟨hv, hnamed⟩ h
    exact ⟨hv.step h, hnamed.step (h.outcome hv.invariants.books.sound).rowsKept (h.namedBy hv)⟩
  have hinitial : NamedDecided (System.initial registry).db := by
    intro e he
    cases he
  exact (hrun.invariant (I := fun v => Reachable rt v ∧ NamedDecided v.db)
    (fun _ hv h => hstep hv h) ⟨⟨registry, .refl _⟩, hinitial⟩).2

end names

/-! ### Decisions that may be made -/

namespace LoyaltyService

section decisions

variable {rt : Runtime} {dec : DecisionRequest} {a : Approval} {s : Database} {now startedAt : Int}

/-- The state after the first statement of a decision's transaction. -/
def begun (dec : DecisionRequest) (startedAt : Int) (s : Database) : Database :=
  { s with
    idempotency := Function.update s.idempotency dec.key
      (some (pendingDecisionRecord dec startedAt)) }

lemma findPendingApproval_run (h : LoyaltyService.Decidable dec a s) :
    findPendingApproval dec s = .ok (a, s) := by
  have hget : (get : Tx Database) s = .ok (s, s) := rfl
  have hrow : (s.approvals[dec.approvalId]?.filter fun a => a.tenantId = dec.actor.tenantId) =
      some a := by
    rw [h.approval, Option.filter_some, if_pos (by simpa using h.tenantId)]
  obtain ⟨scope, hscope, hin⟩ : ∃ scope, requireBranchScope dec.actor s = .ok (scope, s) ∧
      ¬ ∃ b ∈ scope, ¬ ∃ r ∈ approvalReceipt s a.target, r.branchId = b := by
    unfold requireBranchScope
    by_cases hadmin : dec.actor.role = .ADMIN
    · rw [if_pos hadmin]
      exact ⟨none, rfl, by simp⟩
    · rw [if_neg hadmin]
      obtain ⟨r, hr, hbranch⟩ := h.scope.resolve_left hadmin
      rw [hbranch]
      exact ⟨some r.branchId, rfl, by simp [hr]⟩
  unfold findPendingApproval
  rw [bind_of_ok hscope, bind_of_ok hget, bind_of_ok (orFault_ok.2 ⟨hrow, rfl⟩),
    bind_of_ok ((rejectIf_ok (u := ())).2 ⟨hin, rfl⟩),
    bind_of_ok ((rejectIf_ok (u := ())).2 ⟨h.requestedBy, rfl⟩),
    bind_of_ok ((rejectIf_ok (u := ())).2 ⟨not_not.2 h.pending, rfl⟩)]
  rfl

lemma Decidable.begun (h : LoyaltyService.Decidable dec a s) :
    LoyaltyService.Decidable dec a (begun dec startedAt s) := by
  have hreceipt : approvalReceipt (LoyaltyService.begun dec startedAt s) a.target =
      approvalReceipt s a.target := by
    cases a.target <;> rfl
  obtain ⟨happroval, hten, hrequested, hpending, hscope⟩ := h
  rw [← hreceipt] at hscope
  exact ⟨happroval, hten, hrequested, hpending, hscope⟩

lemma decideTransaction_begun (hkey : s.idempotency dec.key = none)
    (h : LoyaltyService.Decidable dec a s) :
    decideTransaction rt dec startedAt now s = (match a.target with
      | .EARN receiptId => decideEarnApproval rt dec a receiptId now (begun dec startedAt s)
      | .REDEEM redemptionId =>
          decideRedemptionApproval rt dec a redemptionId now (begun dec startedAt s)) := by
  have hrecord : insertIdempotencyRecord dec.key (pendingDecisionRecord dec startedAt) s =
      .ok ((), begun dec startedAt s) := insertIdempotencyRecord_ok.2 ⟨hkey, rfl⟩
  have hfind : findPendingApproval dec (begun dec startedAt s) = .ok (a, begun dec startedAt s) :=
    findPendingApproval_run h.begun
  unfold decideTransaction
  rw [bind_of_ok hrecord, bind_of_ok hfind]
  cases a.target <;> rfl

end decisions

/-! ### The environment's policy -/

/-- What a decision asks of the environment's policy, for a purchase captured under a policy. -/
structure EnvironmentPermits (rt : Runtime) (policy : Option EarnPolicyValues) (late : Bool)
    (purchaseAmountKobo : Int) : Prop where
  ceiling : purchaseAmountKobo ≤ purchaseCeilingKobo rt none
  version : getEarnApprovalPolicyVersion rt policy = getEarnApprovalPolicyVersion rt none
  threshold : late ∨ resolveEarnCaptureStatus purchaseAmountKobo rt none = .PENDING_APPROVAL

/-- What the decision reads of a capture that waits for approval. -/
structure EarnAwaits (rt : Runtime) (req : EarnRequest) (adm : EarnAdmission) (receiptId : Nat)
    (a : Approval) (r : Receipt) : Prop where
  target : a.target = .EARN receiptId
  requestedBy : a.requestedBy = req.actor.staff
  reasonCode : a.reasonCode = earnApprovalReasonCode rt req adm
  policyVersion : a.policyVersion = getEarnApprovalPolicyVersion rt adm.configuredPolicy
  purchase : (r.purchaseAmountKobo : Int) = req.purchaseAmountKobo
  occurredAt : r.occurredAt = req.occurredAt
  capturedBy : r.capturedBy = req.actor.staff
  captureStatus : r.captureStatus = .PENDING_APPROVAL
  reviewStatus : r.reviewStatus = .PENDING

section permitted

variable {rt : Runtime} {req : EarnRequest} {adm : EarnAdmission} {receiptId : Nat} {a : Approval}
  {r : Receipt} {dec : DecisionRequest} {s : Database} {now startedAt : Int}

/-- **The checks of a decision** pass exactly when the environment's policy permits it. -/
lemma checkEarnApproval_iff (h : EarnAwaits rt req adm receiptId a r)
    (hother : a.requestedBy ≠ dec.actor.staff) (heligible : stillEligible s r) :
    checkEarnApproval rt dec a r s = .ok ((), s) ↔
      EnvironmentPermits rt adm.configuredPolicy adm.isLateReceiptClaim req.purchaseAmountKobo := by
  have hlegacy : getEarnApprovalPolicyVersion rt adm.configuredPolicy ≠
      LEGACY_APPROVAL_POLICY_VERSION := by
    intro heq
    have hchars := congrArg (fun v : String => v.toList.length) heq
    simp only [getEarnApprovalPolicyVersion, Digest.text, String.toList_ofList,
      Digest.length_eq] at hchars
    exact absurd hchars (by decide)
  have hreason :
      a.reasonCode = some LATE_RECEIPT_APPROVAL_REASON_CODE ↔ adm.isLateReceiptClaim := by
    rw [h.reasonCode]
    unfold earnApprovalReasonCode
    by_cases hlate : adm.isLateReceiptClaim
    · simp [hlate]
    · have hne : some APPROVAL_REASON_CODE ≠ some LATE_RECEIPT_APPROVAL_REASON_CODE := by decide
      rw [if_neg hlate]
      split
      · simp [hne, hlate]
      · simp [hlate]
  have hcaptured : r.capturedBy ≠ dec.actor.staff := by
    rw [h.capturedBy, ← h.requestedBy]
    exact hother
  simp only [checkEarnApproval, assertApprovalPolicyStillPermitsExecution, bind_ok, get_ok,
    rejectIf_ok, h.purchase, h.policyVersion, h.captureStatus, h.reviewStatus]
  constructor
  · rintro ⟨_, _, ⟨-, rfl⟩, _, _, ⟨-, rfl⟩, _, _, ⟨rfl, rfl⟩, _, _, ⟨-, rfl⟩, _, _, ⟨hceiling, rfl⟩,
      _, _, ⟨hversion, rfl⟩, hthreshold, -⟩
    refine ⟨?_, ?_, ?_⟩
    · omega
    · by_contra hne
      exact hversion ⟨hlegacy, hne⟩
    · by_contra hnot
      obtain ⟨hlate, hstatus⟩ := not_or.1 hnot
      exact hthreshold ⟨fun heq => hlate (hreason.1 heq), hstatus⟩
  · intro hpermits
    have hceiling := hpermits.ceiling
    refine ⟨(), s, ⟨by simp, rfl⟩, (), s, ⟨hcaptured, rfl⟩, s, s, ⟨rfl, rfl⟩, (), s,
      ⟨not_not.2 heligible, rfl⟩, (), s, ⟨by omega, rfl⟩, (), s, ⟨?_, rfl⟩, ?_, rfl⟩
    · rintro ⟨-, hne⟩
      exact hne hpermits.version
    · rintro ⟨hne, hstatus⟩
      rcases hpermits.threshold with hlate | hpending
      · exact hne (hreason.2 hlate)
      · exact hstatus hpending

end permitted

end LoyaltyService

open LoyaltyService

section runs

variable {rt : Runtime} {req : EarnRequest} {adm : EarnAdmission} {capturedAt : Int}
  {s s' u : System} {a : Approval}

lemma Desk.no_entry {db : Database} (hd : Desk db) {i k : Nat} (ha : db.approvals[i]? = some a)
    (hpending : a.status = .PENDING) (hk : db.receiptIdOf a.target = some k) :
    ∀ e ∈ db.ledger, e.receiptId ≠ some k := by
  intro e he hek
  obtain ⟨k', x, hfile⟩ := hd.file ha
  obtain rfl : k' = k := Option.some.inj (hfile.subject.symm.trans hk)
  have hfiled := hfile.filed
  rw [hpending] at hfiled
  have hnone : (db.ledger.filter fun e => e.receiptId = some k').map (·.type) = [] :=
    hfiled.of_pending.2.1
  have hmem : e ∈ db.ledger.filter fun e => e.receiptId = some k' := by simpa using ⟨he, hek⟩
  rw [List.map_eq_nil_iff.1 hnone] at hmem
  cases hmem

/-- **A pending approval** is as the capture wrote it, however the shop has run on. -/
theorem earn_awaits (hs : Reachable rt s) (hcapture : Step rt (.earn req adm capturedAt) s s')
    (hwaits : earnCaptureStatus rt req adm = .PENDING_APPROVAL) (hrun : Steps rt s' u)
    (ha : u.db.approvals[s.db.approvals.length]? = some a) (hpending : a.status = .PENDING) :
    ∃ r, u.db.receipts[s.db.receipts.length]? = some r ∧
      EarnAwaits rt req adm s.db.receipts.length a r := by
  have hs' : Reachable rt s' := hs.step hcapture
  have hu : Reachable rt u := hs'.steps hrun
  have hkept := Steps.rowsKept hs'.invariants hrun
  cases hcapture.outcome hs.invariants.books.sound with
  | @earn _ _ _ ctx amount _ hstarted hcommitted =>
      cases hcommitted with
      | credited h => exact absurd hwaits h.status
      | pending h =>
          have happroval : s'.db.approvals[s.db.approvals.length]? =
              some (earnApproval rt req adm s.db.receipts.length
                (rt.insertedAt .approvals s.db.approvals.length) capturedAt) := by
            rw [h.frame]
            simp
          have hreceipt : s'.db.receipts[s.db.receipts.length]? =
              some (earnReceipt rt req adm ctx amount capturedAt) := by
            rw [h.frame]
            simp
          obtain ⟨b, hb, hlater⟩ := hkept.approvals _ _ happroval
          obtain rfl : b = a := Option.some.inj (hb.symm.trans ha)
          have hsame := hlater.resolve_right (not_not.2 hpending)
          obtain ⟨r, hr, hrlater⟩ := hkept.receipts _ _ hreceipt
          obtain ⟨k, x, hfile⟩ := hu.invariants.desk.file ha
          have hk : k = s.db.receipts.length := by
            have hsubject := hfile.subject
            rw [hsame] at hsubject
            exact (Option.some.inj hsubject).symm
          subst hk
          obtain rfl : x = r := Option.some.inj (hfile.receipt.symm.trans hr)
          have hfiled := hfile.filed
          rw [hpending] at hfiled
          refine ⟨x, hr, ?_⟩
          unfold Receipt.Later at hrlater
          refine ⟨by rw [hsame]; rfl, by rw [hsame]; rfl, by rw [hsame]; rfl, by rw [hsame]; rfl,
            ?_, ?_, ?_, hfile.captureStatus, hfiled.of_pending.1⟩
          · rw [hrlater]
            exact hstarted.purchase
          · rw [hrlater]
            rfl
          · rw [hrlater]
            rfl

lemma admitEarn_policy {receivedAt : Int} {db db' : Database}
    (h : admitEarn rt req receivedAt db = .ok (adm, db')) :
    adm.configuredPolicy = configuredEarnPolicy db req.actor := by
  simp only [admitEarn, bind_ok, orFault_ok, get_ok, pure_ok] at h
  obtain ⟨_, _, ⟨-, rfl⟩, _, _, ⟨rfl, rfl⟩, _, _, -, _, _, -, rfl, -⟩ := h
  rfl

lemma approved_creditAdmitted {dec : DecisionRequest} {receiptId : Nat} {r : Receipt}
    (hu : Reachable rt u) (ha : u.db.approvals[dec.approvalId]? = some a)
    (hpending : a.status = .PENDING) (htarget : a.target = .EARN receiptId)
    (hexpiry : clampedExpiryDerived r.occurredAt) (k : PositiveKobo) :
    CreditAdmitted u.db (approvedLedgerEntry dec receiptId r k) where
  entry := by
    refine ⟨fun x hx hname => ?_, fun hreverses => absurd rfl hreverses, fun x hx heffect => ?_⟩
    · obtain ⟨b, hb, hdecided⟩ := hu.namedDecided x hx dec.approvalId (by rw [hname]; rfl)
      obtain rfl : a = b := Option.some.inj (ha.symm.trans hb)
      exact hdecided hpending
    · have hreceipt : u.db.receiptIdOf a.target = some receiptId := by rw [htarget]; rfl
      exact hu.invariants.desk.no_entry ha hpending hreceipt x hx heffect.2.2.1
  expiry := hexpiry
  lot := by
    intro l hl hid
    have hlt := hu.invariants.books.sound.lt_of_lot (show l ∈ u.db.books.lots from hl)
    have hlength : u.db.books.ledger.length = u.db.ledger.length := rfl
    omega

lemma decideEarnApproval_expiry {dec : DecisionRequest} {receiptId : Nat} {r : Receipt} {now : Int}
    {s t : Database} {res : DecisionResult} (hreceipt : s.receipts[receiptId]? = some r)
    (hunexpired : now < a.expiresAt) (hdecision : dec.decision = .APPROVED)
    (h : decideEarnApproval rt dec a receiptId now s = .ok (res, t))
    (hlots : t.lots.length ≠ s.lots.length) : clampedExpiryDerived r.occurredAt := by
  have hlate : ¬ a.expiresAt ≤ now := by omega
  have hreject : ¬ dec.decision = .REJECTED := by
    rw [hdecision]
    decide
  simp only [decideEarnApproval, bind_ok, get_ok, orFault_ok, if_neg hlate, if_neg hreject] at h
  obtain ⟨_, _, ⟨rfl, rfl⟩, r', _, ⟨hr', rfl⟩, _, _, hcheck, hexecute⟩ := h
  obtain rfl : r = r' := Option.some.inj (hreceipt.symm.trans hr')
  obtain ⟨rfl, -⟩ := checkEarnApproval_ok hcheck
  exact ((lawful_executeEarnApproval rt dec receiptId r now).ok hexecute).resolve_left hlots

/-- **An earn approval executes under an unchanged policy** exactly when the environment's policy
permits it and gives the same credit. -/
theorem earn_approval_executes_iff {receivedAt startedAt now : Int} {db : Database}
    {dec : DecisionRequest} {r : Receipt} (hs : Reachable rt s)
    (hadmitted : admitEarn rt req receivedAt db = .ok (adm, db))
    (hcapture : Step rt (.earn req adm capturedAt) s s')
    (hwaits : earnCaptureStatus rt req adm = .PENDING_APPROVAL) (hrun : Steps rt s' u)
    (hpolicy : configuredEarnPolicy u.db req.actor = configuredEarnPolicy db req.actor)
    (hid : dec.approvalId = s.db.approvals.length) (hdecision : dec.decision = .APPROVED)
    (hkey : u.db.idempotency dec.key = none) (hdecidable : LoyaltyService.Decidable dec a u.db)
    (hunexpired : now < a.expiresAt) (hreceipt : u.db.receipts[s.db.receipts.length]? = some r)
    (heligible : stillEligible u.db r) :
    (∃ res t, decideTransaction rt dec startedAt now u.db = .ok (res, t) ∧
      ApprovalRecorded dec s.db.receipts.length r now (creditAt req.purchaseAmountKobo
        (resolveEarnRateBps rt (configuredEarnPolicy u.db req.actor))) res u.db t) ↔
    EnvironmentPermits rt (configuredEarnPolicy u.db req.actor) adm.isLateReceiptClaim
        req.purchaseAmountKobo ∧
      0 < resolveEarnRateBps rt none ∧
      creditAt req.purchaseAmountKobo (resolveEarnRateBps rt none) =
        creditAt req.purchaseAmountKobo
          (resolveEarnRateBps rt (configuredEarnPolicy u.db req.actor)) ∧
      clampedExpiryDerived req.occurredAt := by
  have hs' : Reachable rt s' := hs.step hcapture
  have hu : Reachable rt u := hs'.steps hrun
  have ha : u.db.approvals[s.db.approvals.length]? = some a := hid ▸ hdecidable.approval
  obtain ⟨r', hr', hawaits⟩ := earn_awaits hs hcapture hwaits hrun ha hdecidable.pending
  obtain rfl : r' = r := Option.some.inj (hr'.symm.trans hreceipt)
  have hconfigured : adm.configuredPolicy = configuredEarnPolicy u.db req.actor :=
    (admitEarn_policy hadmitted).trans hpolicy.symm
  rw [decideTransaction_begun hkey hdecidable, hawaits.target, ← hawaits.purchase, ← hconfigured,
    ← hawaits.occurredAt]
  have hchecks := checkEarnApproval_iff (s := begun dec startedAt u.db) hawaits
    hdecidable.requestedBy heligible
  rw [← hawaits.purchase] at hchecks
  -- a pending approval has no entry on its receipt, so its credit is the first one
  have huncredited : ¬ ∃ e ∈ (begun dec startedAt u.db).ledger, e.tenantId = dec.actor.tenantId ∧
      e.receiptId = some s.db.receipts.length ∧ e.type = .EARN := by
    rintro ⟨e, he, -, hon, -⟩
    exact hu.invariants.desk.no_entry ha hdecidable.pending (by rw [hawaits.target]; rfl) e he hon
  have hmachine : a.stateMachineCheck :=
    hu.invariants.desk.approval a (List.mem_of_getElem? ha)
  have happroved : EnvironmentPermits rt adm.configuredPolicy adm.isLateReceiptClaim
      r'.purchaseAmountKobo → EarnApproved rt dec a s.db.receipts.length r' now
        (begun dec startedAt u.db) := fun hpermits =>
    ⟨hdecidable.approval, hdecidable.tenantId, hdecidable.pending, hmachine, hunexpired, hdecision,
      hreceipt, hchecks.2 hpermits, huncredited⟩
  -- the credit is admitted whatever its amount, as long as the expiry can be written
  have hadmits : clampedExpiryDerived r'.occurredAt → ∀ k : PositiveKobo,
      creditAt r'.purchaseAmountKobo (resolveEarnRateBps rt none) = k →
        CreditAdmitted (begun dec startedAt u.db)
          (approvedLedgerEntry dec s.db.receipts.length r' k) := by
    intro hexpiry k _
    have hentry := approved_creditAdmitted hu hdecidable.approval hdecidable.pending hawaits.target
      hexpiry k
    exact ⟨⟨hentry.entry.correlationId, hentry.entry.reversesEntryId, hentry.entry.receiptEffect⟩,
      hentry.expiry, hentry.lot⟩
  constructor
  · rintro ⟨res, t, hruns, hrecorded⟩
    have hout := decideEarnApproval_ok (s := begun dec startedAt u.db) hdecidable.approval hruns
    cases hout with
    | expired h =>
        have hover := h.overdue
        omega
    | rejected h => exact absurd (h.decision.symm.trans hdecision) (by decide)
    | @executed x k l h =>
        obtain rfl : x = r' := Option.some.inj (h.receipt.symm.trans hreceipt)
        have hlots : t.lots.length ≠ (begun dec startedAt u.db).lots.length := by
          rw [h.frame]
          simp
        have hexpiry := decideEarnApproval_expiry (s := begun dec startedAt u.db) hreceipt
          hunexpired hdecision hruns hlots
        have hpermits := hchecks.1 h.checked
        obtain ⟨hpos, hsame⟩ := (decideEarnApproval_commits_iff (happroved hpermits)
          (hadmits hexpiry)).1 ⟨_, t, hruns, hrecorded.creditKobo, hrecorded.receipts,
            hrecorded.ledger⟩
        exact ⟨hpermits, hpos, hsame, hexpiry⟩
  · rintro ⟨hpermits, hpos, hsame, hexpiry⟩
    obtain ⟨res, t, hruns, hrecorded⟩ := (decideEarnApproval_commits_iff (happroved hpermits)
      (hadmits hexpiry)).2 ⟨hpos, hsame⟩
    exact ⟨res, t, hruns, hrecorded.creditKobo, hrecorded.receipts, hrecorded.ledger⟩

end runs

/-! ### A branch with a policy of its own -/

namespace Shop

/-- The supervisor's approval of the first capture. -/
def approval (key : String) : DecisionRequest :=
  ⟨supervisor, key, 0, .APPROVED, "checked the basket", sha256 key⟩

/-- The shop with a policy of its own, which says what the environment does. -/
def ownPolicy : PolicyConfiguration where
  version := 1
  defaultEarnRateBps := 200
  minRedemptionKobo := 50000
  maxRedemptionBasketPercent := 30
  purchaseFlagThresholdKobo := 10000000
  purchaseApprovalThresholdKobo := 20000000
  purchaseAmountCeilingKobo := 100000000
  redemptionApprovalThresholdKobo := 500000
  rate_bounds := runtime.rate_bounds
  percent_bounds := runtime.percent_bounds
  min_pos := runtime.min_pos

def ownRegistry : Registry := { registry with policies := fun _ _ => some ownPolicy }

def ownEarn (key : String) (amountKobo : Int) : Op :=
  .earn (purchase key amountKobo) ⟨"till", some ownPolicy.earnPolicy, false, false⟩ night

/-- Whether the first capture waits for a decision that may be made. -/
def waiting (dec : DecisionRequest) (now : Int) (db : Database) : Bool :=
  (db.approvals[0]?).any fun a => (db.receipts[0]?).any fun r =>
    decide (a.tenantId = dec.actor.tenantId ∧ a.requestedBy ≠ dec.actor.staff ∧
      a.status = .PENDING ∧ a.target = .EARN 0 ∧ dec.actor.branchId = some r.branchId ∧
      now < a.expiresAt ∧ stillEligible db r) && (db.idempotency dec.key).isNone

lemma of_waiting {dec : DecisionRequest} {now : Int} {db : Database} (hid : dec.approvalId = 0)
    (h : waiting dec now db = true) : ∃ a r, LoyaltyService.Decidable dec a db ∧
      now < a.expiresAt ∧ db.receipts[0]? = some r ∧ stillEligible db r ∧
      db.idempotency dec.key = none := by
  unfold waiting at h
  obtain ⟨a, ha, h⟩ := (Option.any_eq_true _ _).1 h
  obtain ⟨r, hr, h⟩ := (Option.any_eq_true _ _).1 h
  obtain ⟨hrows, hkey⟩ := Bool.and_eq_true_iff.1 h
  obtain ⟨hten, hother, hpending, htarget, hbranch, hexpires, heligible⟩ := of_decide_eq_true hrows
  refine ⟨a, r, ⟨by rwa [hid], hten, hother, hpending, .inr ⟨r, ?_, hbranch⟩⟩, hexpires, hr,
    heligible, Option.isNone_iff_eq_none.1 hkey⟩
  rw [htarget]
  exact hr

end Shop

/-- A large purchase in a branch without a policy, approved and credited. -/
theorem earn_approval_executes_shop : ∃ s' r res t,
    Step Shop.runtime (Shop.earn "k1" 30000000) Shop.opened s' ∧
      decideTransaction Shop.runtime (Shop.approval "d1") Shop.night Shop.night s'.db =
        .ok (res, t) ∧
      ApprovalRecorded (Shop.approval "d1") 0 r Shop.night (creditAt 30000000 200) res s'.db t := by
  obtain ⟨s', hrun, -, hwaiting⟩ := Reachable.of_runAll_map Shop.runtime Shop.registry
    [Shop.earn "k1" 30000000]
    (f := fun s => Shop.waiting (Shop.approval "d1") Shop.night s.db) (a := true)
    (by decide +kernel) (by simp [Shop.earn, Op.Admissible])
  obtain ⟨s, hstart, hran⟩ := System.runAll_snoc
    (show Shop.opened.runAll Shop.runtime ([] ++ [Shop.earn "k1" 30000000]) = .ok s' from hrun)
  obtain rfl : Shop.opened = s := Except.ok.inj hstart
  have hcapture : Step Shop.runtime (Shop.earn "k1" 30000000) Shop.opened s' :=
    ⟨hran, by simp [Shop.earn, Op.Admissible]⟩
  have hregistry : s'.db.registry = Shop.registry :=
    System.runAll_registry (.initial Shop.registry) hrun (by simp [Shop.earn])
  obtain ⟨a, r, hdecidable, hunexpired, hreceipt, heligible, hkey⟩ := Shop.of_waiting rfl hwaiting
  have hpolicy : configuredEarnPolicy s'.db (Shop.purchase "k1" 30000000).actor = none := by
    unfold configuredEarnPolicy
    rw [hregistry]
    rfl
  have hadmitted : admitEarn Shop.runtime (Shop.purchase "k1" 30000000) Shop.night Shop.opened.db =
      .ok (⟨"till", none, false, false⟩, Shop.opened.db) := rfl
  have hiff : (∃ res t, decideTransaction Shop.runtime (Shop.approval "d1") Shop.night Shop.night
      s'.db = .ok (res, t) ∧ ApprovalRecorded (Shop.approval "d1") 0 r Shop.night
        (creditAt 30000000 (resolveEarnRateBps Shop.runtime
          (configuredEarnPolicy s'.db (Shop.purchase "k1" 30000000).actor))) res s'.db t) ↔ _ :=
    earn_approval_executes_iff ⟨Shop.registry, .refl _⟩ hadmitted hcapture (by decide) (.refl _)
      hpolicy rfl rfl hkey hdecidable hunexpired hreceipt heligible
  rw [hpolicy] at hiff
  obtain ⟨res, t, hruns, hrecorded⟩ := hiff.2
    ⟨⟨by decide, rfl, .inr (by decide)⟩, by decide, rfl, by decide⟩
  exact ⟨s', r, res, t, hcapture, hruns, hrecorded⟩

/-- The same purchase in a branch whose policy is set to what the environment's is: the decision
takes the policy for changed. -/
theorem configured_earn_approval_refused : ∃ s' a r,
    Step Shop.runtime (Shop.ownEarn "k1" 30000000) (.initial Shop.ownRegistry) s' ∧
      s'.db.registry = Shop.ownRegistry ∧
      LoyaltyService.Decidable (Shop.approval "d1") a s'.db ∧ Shop.night < a.expiresAt ∧
      s'.db.receipts[0]? = some r ∧ stillEligible s'.db r ∧
      s'.db.idempotency (Shop.approval "d1").key = none ∧
      ((decideTransaction Shop.runtime (Shop.approval "d1") Shop.night Shop.night s'.db).map
        fun _ => ()) = .error (.http 422 "APPROVAL_POLICY_CHANGED"
          "Approval policy changed after the request was captured") ∧
      ¬ ∃ res t, decideTransaction Shop.runtime (Shop.approval "d1") Shop.night Shop.night s'.db =
          .ok (res, t) ∧
        ApprovalRecorded (Shop.approval "d1") 0 r Shop.night (creditAt 30000000 200) res s'.db
          t := by
  obtain ⟨s', hrun, -, hfacts⟩ := Reachable.of_runAll_map Shop.runtime Shop.ownRegistry
    [Shop.ownEarn "k1" 30000000]
    (f := fun s => (Shop.waiting (Shop.approval "d1") Shop.night s.db,
      (decideTransaction Shop.runtime (Shop.approval "d1") Shop.night Shop.night s.db).map
        fun _ => ()))
    (a := (true, .error (.http 422 "APPROVAL_POLICY_CHANGED"
      "Approval policy changed after the request was captured")))
    (by decide +kernel) (by simp [Shop.ownEarn, Op.Admissible])
  obtain ⟨s, hstart, hran⟩ := System.runAll_snoc
    (show (System.initial Shop.ownRegistry).runAll Shop.runtime
      ([] ++ [Shop.ownEarn "k1" 30000000]) = .ok s' from hrun)
  obtain rfl : System.initial Shop.ownRegistry = s := Except.ok.inj hstart
  have hwaiting : Shop.waiting (Shop.approval "d1") Shop.night s'.db = true :=
    (Prod.mk.inj hfacts).1
  obtain ⟨a, r, hdecidable, hunexpired, hreceipt, heligible, hkey⟩ := Shop.of_waiting rfl hwaiting
  have hrefused : ((decideTransaction Shop.runtime (Shop.approval "d1") Shop.night Shop.night
      s'.db).map fun _ => ()) = .error (.http 422 "APPROVAL_POLICY_CHANGED"
        "Approval policy changed after the request was captured") :=
    (Prod.mk.inj hfacts).2
  have hregistry : s'.db.registry = Shop.ownRegistry :=
    System.runAll_registry (.initial Shop.ownRegistry) hrun (by simp [Shop.ownEarn])
  refine ⟨s', a, r, ⟨hran, by simp [Shop.ownEarn, Op.Admissible]⟩, hregistry,
    hdecidable, hunexpired, hreceipt, heligible, hkey, hrefused, ?_⟩
  rintro ⟨res, t, hruns, -⟩
  rw [hruns] at hrefused
  cases hrefused

end ShopcityLoyalty
