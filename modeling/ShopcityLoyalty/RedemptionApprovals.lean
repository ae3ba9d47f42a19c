import ShopcityLoyalty.EarnApprovals
import ShopcityLoyalty.SettlementArithmetic

/-!
Approvals of redemptions under a policy that stays as it is.

A capture asks the policy of its branch about the redemption and about the purchase it is taken
on, and the decision asks it about both again. Then it looks at the redemption once more, under
the environment's policy, and as if that alone had called for an approval.
-/

namespace ShopcityLoyalty

open Txn Database LotAllocationService

/-! ### Settlements that run -/

/-- What a settlement asks of the state. -/
structure SettlementAdmitted (input : RedemptionSettlementInput) (d : Redemption)
    (k : PositiveKobo) (s : Database) : Prop where
  amount : (k : Int) = input.redeemedAmountKobo
  basket : input.redeemedAmountKobo ≤ input.basketAmountKobo
  sound : s.books.Sound
  unnamed : ∀ e ∈ s.ledger, e.correlationId ≠ input.correlationId ∧
    e.correlationId ≠ .earn input.correlationId
  untouched : ∀ e ∈ s.ledger, e.receiptId ≠ some input.receiptId
  redemption : s.redemptions[input.redemptionId]? = some d
  confirmed : (input.confirmed s.ledger.length d).stateMachineCheck
  fresh : FreshTarget (input.debit s.ledger.length) s
  balance : input.redeemedAmountKobo ≤
    ActiveBalanceService.getActiveBalanceKobo s input.tenantId input.customerId input.now
  expiry : 0 < creditAt (input.basketAmountKobo - input.redeemedAmountKobo) input.earnRateBps →
    clampedExpiryDerived input.occurredAt

/-- The entries of a settlement: its debit, and the credit on what is left to pay. -/
def RedemptionSettlementInput.entries (input : RedemptionSettlementInput) (k : PositiveKobo)
    (ledger : Table LoyaltyLedgerEntry) : Table LoyaltyLedgerEntry :=
  withCredit (creditAt (input.basketAmountKobo - input.redeemedAmountKobo) input.earnRateBps)
    input.earnEntry (ledger ++ [input.redeemEntry k])

lemma CorrelationId.earn_ne (c : CorrelationId) : CorrelationId.earn c ≠ c := by
  intro h
  have hsize := congrArg sizeOf h
  simp at hsize

section settlements

variable {rt : Runtime} {input : RedemptionSettlementInput} {d : Redemption} {k : PositiveKobo}
  {s t : Database}

/-- **An admitted settlement runs** to its end. -/
lemma executeRedemptionSettlement_run (rt : Runtime) (h : SettlementAdmitted input d k s) :
    ∃ res t, executeRedemptionSettlement rt input s = .ok (res, t) := by
  have hpos : 0 < input.redeemedAmountKobo := by
    have hk := k.2
    rw [← h.amount]
    exact hk
  have hbasket := h.basket
  set v : Database := { s with
    ledger := s.ledger ++ [input.redeemEntry k]
    redemptions := s.redemptions.set input.redemptionId (input.confirmed s.ledger.length d) }
  have hentry : insertLedgerEntry (input.redeemEntry k) s =
      .ok (s.ledger.length, { s with ledger := s.ledger ++ [input.redeemEntry k] }) := by
    refine insertLedgerEntry_ok.2 ⟨⟨fun e he => (h.unnamed e he).1, fun hr => absurd rfl hr, ?_⟩,
      rfl, rfl⟩
    exact fun e he heffect => h.untouched e he heffect.2.2.1
  have hmodify : modifyRedemption input.redemptionId (input.confirmed s.ledger.length)
      { s with ledger := s.ledger ++ [input.redeemEntry k] } = .ok ((), v) :=
    modifyRedemption_ok.2 ⟨d, h.redemption, h.confirmed, rfl⟩
  have hfresh : FreshTarget (input.debit s.ledger.length) v := h.fresh
  have henough : (input.debit s.ledger.length).amountKobo ≤
      eligibleKobo v (input.debit s.ledger.length) := by
    rw [eligibleKobo_eq_activeBalance rfl]
    exact h.balance
  obtain ⟨hiff, hexact, -⟩ := allocateDebit_exact rt (input.debit s.ledger.length) v hpos hfresh
  obtain ⟨allocations, m, hdraw⟩ := hiff.2 henough
  have htotal : (allocations.map (·.amountKobo)).sum = input.redeemedAmountKobo :=
    (hexact allocations m hdraw).1.total
  obtain ⟨rows, hdrawn⟩ := allocateDebit_ok hdraw
  have hledger : m.ledger = s.ledger ++ [input.redeemEntry k] := by rw [hdrawn.frame]
  have hadmits : ∀ k' : PositiveKobo, creditAt (input.basketAmountKobo - input.redeemedAmountKobo)
      input.earnRateBps = k' → CreditAdmitted m (input.earnEntry k') := by
    intro k' hk'
    refine ⟨⟨fun e he => ?_, fun hr => absurd rfl hr, fun e he heffect => ?_⟩,
      h.expiry (hk' ▸ k'.2), fun l hl hid => ?_⟩
    · rw [hledger] at he
      rcases List.mem_append.1 he with he | he
      · exact (h.unnamed e he).2
      · rw [List.mem_singleton.1 he]
        exact (CorrelationId.earn_ne _).symm
    · rw [hledger] at he
      rcases List.mem_append.1 he with he | he
      · exact h.untouched e he heffect.2.2.1
      · have htype := heffect.2.2.2
        rw [List.mem_singleton.1 he] at htype
        cases htype
    · obtain ⟨i, hi⟩ := List.getElem?_of_mem hl
      obtain ⟨l₀, hl₀, hsame, -⟩ := hdrawn.moved.lot_before hi
      have hlt : l₀.earnLedgerEntryId < s.ledger.length :=
        h.sound.lt_of_lot (List.mem_of_getElem? hl₀)
      rw [hledger, List.length_append, hsame.earnLedgerEntryId] at hid
      omega
  obtain ⟨i, w, hearn, -⟩ := earnOnNetPaid_commits hadmits
  have hpositive : PositiveKobo.of? input.redeemedAmountKobo = some k :=
    PositiveKobo.of?_eq_some.2 h.amount.symm
  have hruns : ∃ r, executeRedemptionSettlement rt input s = .ok r ∧ True := by
    unfold executeRedemptionSettlement
    refine runs_bind ((rejectIf_ok (u := ())).2 ⟨by omega, rfl⟩) (runs_bind
      ((rejectIf_ok (u := ())).2 ⟨by omega, rfl⟩) (runs_bind (orFault_ok.2 ⟨hpositive, rfl⟩)
        (runs_bind hentry (runs_bind hmodify (runs_bind hdraw (runs_bind
          ((rejectIf_ok (u := ())).2 ⟨not_not.2 htotal, rfl⟩) (runs_bind hearn (runs_bind rfl
            (runs_bind rfl ?_)))))))))
    exact ⟨_, rfl, trivial⟩
  obtain ⟨⟨res, t⟩, hrun, -⟩ := hruns
  exact ⟨res, t, hrun⟩

lemma Settled.entries {rows : List RedemptionAllocation} {m u : Database}
    {res : RedemptionSettlementResult} (h : Settled input k d rows m u res s t) :
    t.ledger = input.entries k s.ledger := by
  have hm : m.ledger = s.ledger ++ [input.redeemEntry k] := by rw [h.middle]
  have ht : t.ledger = u.ledger := by rw [h.frame]
  have hcredit : res.earnedKobo =
      creditAt (input.basketAmountKobo - input.redeemedAmountKobo) input.earnRateBps := by
    rw [h.earnedKobo, calculateEarnAmountKobo_eq]
  have hearned := h.earned
  rw [hcredit] at hearned
  generalize res.earnLedgerEntryId = i at hearned
  unfold RedemptionSettlementInput.entries withCredit
  cases hearned with
  | nothing hzero hframe =>
      have hnone : PositiveKobo.of? (creditAt (input.basketAmountKobo - input.redeemedAmountKobo)
          input.earnRateBps) = none := by
        unfold PositiveKobo.of?
        rw [dif_neg (by omega)]
      rw [ht, hframe, hm, hnone]
  | credit hamount _ hframe =>
      rw [ht, hframe, hm, PositiveKobo.of?_eq_some.2 hamount.symm]

end settlements

/-! ### The environment's policy -/

/-- What a decision asks of the environment's policy, for a redemption captured under a policy. -/
structure EnvironmentSettles (rt : Runtime) (policy : Option RedemptionPolicyValues)
    (requestedAmountKobo basketAmountKobo : Int) : Prop where
  version : RedemptionPolicyService.policyVersion rt policy =
    RedemptionPolicyService.policyVersion rt none
  minimum : rt.MIN_REDEMPTION_KOBO ≤ requestedAmountKobo
  basketCap : requestedAmountKobo ≤ basketAmountKobo * rt.MAX_REDEMPTION_BASKET_PERCENT / 100
  threshold : rt.REDEMPTION_APPROVAL_THRESHOLD_KOBO < requestedAmountKobo

open RedemptionsService LoyaltyService

/-- What the decision reads of a redemption that waits for approval. -/
structure RedeemAwaits (req : RedeemRequest) (adm : RedeemAdmission) (ctx : RedeemContext)
    (x : RedeemAssessment) (receiptId redemptionId : Nat) (capturedAt : Int) (a : Approval)
    (d : Redemption) (r : Receipt) : Prop where
  requiresApproval : x.requiresApproval = true
  approval : ∃ requestedAt, a = redeemApproval req x redemptionId requestedAt capturedAt
  redemption : d = redeemRedemption req adm ctx x receiptId capturedAt
  captureStatus : r.captureStatus = .PENDING_APPROVAL
  reviewStatus : r.reviewStatus = .PENDING
  occurredAt : r.occurredAt = req.occurredAt

lemma isSettlementPolicyVersion_build (v w : String) :
    isSettlementPolicyVersion (buildSettlementPolicyVersion v w) = true := by
  unfold isSettlementPolicyVersion buildSettlementPolicyVersion
  rw [String.toList_append, List.isPrefixOf_iff_prefix]
  exact List.prefix_append _ _

/-- **The second evaluation** permits what the environment's policy permits, where the balance
covers it. -/
lemma assertRedemptionApprovalPolicyStillPermitsExecution_iff (rt : Runtime)
    (input : RedemptionPolicyInput) (version : String) (s : Database)
    (hbalance : input.requestedAmountKobo ≤ input.activeBalanceKobo) :
    assertRedemptionApprovalPolicyStillPermitsExecution rt input version s = .ok ((), s) ↔
      version = RedemptionPolicyService.policyVersion rt none ∧
        rt.MIN_REDEMPTION_KOBO ≤ input.requestedAmountKobo ∧
        input.requestedAmountKobo ≤
          input.basketAmountKobo * rt.MAX_REDEMPTION_BASKET_PERCENT / 100 ∧
        rt.REDEMPTION_APPROVAL_THRESHOLD_KOBO < input.requestedAmountKobo := by
  set cap := input.basketAmountKobo * rt.MAX_REDEMPTION_BASKET_PERCENT / 100
  have hmaximum : (if input.activeBalanceKobo < cap then input.activeBalanceKobo else cap) <
      input.requestedAmountKobo ↔ cap < input.requestedAmountKobo := by
    split <;> omega
  simp only [assertRedemptionApprovalPolicyStillPermitsExecution, bind_ok, rejectIf_ok]
  simp only [RedemptionPolicyService.evaluate, Option.map_none, Option.getD_none]
  rw [hmaximum]
  constructor
  · rintro ⟨_, _, ⟨hversion, rfl⟩, _, _, ⟨hmin, rfl⟩, _, _, ⟨hcap, rfl⟩, hthreshold, -⟩
    exact ⟨not_not.1 hversion, not_lt.1 hmin, not_lt.1 hcap, not_le.1 hthreshold⟩
  · rintro ⟨hversion, hmin, hcap, hthreshold⟩
    exact ⟨(), s, ⟨not_not.2 hversion, rfl⟩, (), s, ⟨not_lt.2 hmin, rfl⟩, (), s,
      ⟨not_lt.2 hcap, rfl⟩, not_le.2 hthreshold, rfl⟩

section checks

variable {rt : Runtime} {req : RedeemRequest} {adm : RedeemAdmission} {ctx : RedeemContext}
  {x : RedeemAssessment} {receiptId redemptionId : Nat} {capturedAt now : Int} {a : Approval}
  {d : Redemption} {r : Receipt} {dec : DecisionRequest} {db s : Database}

lemma RedemptionsService.RedeemStarted.settlementPolicyVersion
    (h : RedeemStarted rt req adm ctx x capturedAt db) :
    x.settlementPolicyVersion = buildSettlementPolicyVersion
      (RedemptionPolicyService.policyVersion rt
        ((db.registry.policies req.actor.tenantId ctx.branchId).map (·.redemptionPolicy)))
      (getEarnApprovalPolicyVersion rt
        ((db.registry.policies req.actor.tenantId ctx.branchId).map (·.earnPolicy))) := by
  rw [h.assessment]
  rfl

/-- A redemption that waits for its purchase waits because the branch's policy asks for it. -/
lemma RedemptionsService.RedeemStarted.purchase_waits
    (h : RedeemStarted rt req adm ctx x capturedAt db)
    (hrequires : x.requiresApproval = true) (hcode : x.approvalReasonCode = APPROVAL_REASON_CODE) :
    resolveEarnCaptureStatus adm.basketAmountKobo rt
      ((db.registry.policies req.actor.tenantId ctx.branchId).map (·.earnPolicy)) =
        .PENDING_APPROVAL := by
  have hdirect : x.policy.requiresApproval = false := by
    by_contra hpol
    rw [RedeemAssessment.approvalReasonCode, if_pos (by simpa using hpol)] at hcode
    exact absurd hcode (by decide)
  rw [RedeemAssessment.requiresApproval, hdirect, Bool.false_or, decide_eq_true_eq,
    h.assessment] at hrequires
  exact hrequires

/-- **The checks of a decision** under an unchanged policy pass exactly when the environment's
policy permits the redemption too. -/
lemma checkRedemptionApproval_iff (dec : DecisionRequest) (now : Int)
    (hstart : RedeemStarted rt req adm ctx x capturedAt db)
    (h : RedeemAwaits req adm ctx x receiptId redemptionId capturedAt a d r)
    (htenant : dec.actor.tenantId = req.actor.tenantId)
    (hpolicy : s.registry.policies req.actor.tenantId ctx.branchId =
      db.registry.policies req.actor.tenantId ctx.branchId) (heligible : stillEligible s r)
    (hbalance : d.requestedAmountKobo ≤
      ActiveBalanceService.getActiveBalanceKobo s req.actor.tenantId d.customerId now) :
    checkRedemptionApproval rt dec a d r now s = .ok ((), s) ↔
      EnvironmentSettles rt ((s.registry.policies req.actor.tenantId ctx.branchId).map
        (·.redemptionPolicy)) d.requestedAmountKobo d.basketAmountKobo := by
  have hassert := assertRedemptionApprovalPolicyStillPermitsExecution_iff rt
    ⟨d.requestedAmountKobo, d.basketAmountKobo,
      ActiveBalanceService.getActiveBalanceKobo s req.actor.tenantId d.customerId now⟩
    d.policyVersion s hbalance
  have hversion := hstart.settlementPolicyVersion
  have hpurchase := hstart.purchase_waits h.requiresApproval
  have hceiling := hstart.ceiling
  have hpolicyVersion : d.policyVersion = RedemptionPolicyService.policyVersion rt
      ((s.registry.policies req.actor.tenantId ctx.branchId).map (·.redemptionPolicy)) := by
    rw [hpolicy, h.redemption]
    change x.policy.policyVersion = _
    rw [hstart.assessment]
    rfl
  rw [← hpolicy] at hversion hpurchase hceiling
  rw [hpolicyVersion] at hassert
  have hstatus : d.status = .PENDING_APPROVAL := by rw [h.redemption]; rfl
  have hbranch : d.branchId = ctx.branchId := by rw [h.redemption]; rfl
  obtain ⟨requestedAt, happroval⟩ := h.approval
  have hbasket : d.basketAmountKobo = adm.basketAmountKobo := by rw [h.redemption]; rfl
  constructor
  · intro hok
    simp only [checkRedemptionApproval, bind_ok, get_ok, rejectIf_ok] at hok
    obtain ⟨_, _, ⟨-, rfl⟩, _, _, ⟨rfl, rfl⟩, _, _, ⟨-, rfl⟩, _, _, ⟨-, rfl⟩, _, _, ⟨-, rfl⟩, _, _,
      ⟨-, rfl⟩, hpermitted⟩ := hok
    rw [htenant, hpolicyVersion] at hpermitted
    obtain ⟨hsame, hmin, hcap, hthreshold⟩ := hassert.1 hpermitted
    exact ⟨hsame, hmin, hcap, hthreshold⟩
  · intro hsettles
    have hpermitted := hassert.2
      ⟨hsettles.version, hsettles.minimum, hsettles.basketCap, hsettles.threshold⟩
    simp only [checkRedemptionApproval, bind_ok, get_ok, rejectIf_ok]
    refine ⟨(), s, ⟨?_, rfl⟩, s, s, ⟨rfl, rfl⟩, (), s, ⟨not_not.2 heligible, rfl⟩, (), s,
      ⟨?_, rfl⟩, (), s, ⟨?_, rfl⟩, (), s, ⟨?_, rfl⟩, ?_⟩
    · rintro (hbad | hbad | hbad)
      · exact hbad hstatus
      · exact hbad h.captureStatus
      · exact hbad h.reviewStatus
    · have happrovedVersion : a.policyVersion = x.settlementPolicyVersion := by rw [happroval]; rfl
      rw [happrovedVersion, hversion, isSettlementPolicyVersion_build, if_pos rfl, htenant, hbranch]
      exact not_not.2 rfl
    · rw [htenant, hbranch, hbasket]
      exact not_lt.2 hceiling
    · rintro ⟨hcode, hcaptured⟩
      rw [htenant, hbranch, hbasket] at hcaptured
      rw [happroval] at hcode
      exact hcaptured (hpurchase (Option.some.inj hcode))
    · rw [htenant, hpolicyVersion]
      exact hpermitted

end checks

/-! ### Decisions -/

section runs

variable {rt : Runtime} {req : RedeemRequest} {adm : RedeemAdmission} {capturedAt : Int}
  {s s' u : System} {a : Approval} {d : Redemption} {r : Receipt}

/-- **A pending approval** of a redemption is as the capture wrote it, and so is the redemption. -/
theorem redeem_awaits (hs : Reachable rt s) (hcapture : Step rt (.redeem req adm capturedAt) s s')
    (hwaits : s.db.approvals.length < s'.db.approvals.length) (hrun : Steps rt s' u)
    (ha : u.db.approvals[s.db.approvals.length]? = some a) (hpending : a.status = .PENDING)
    (hd : u.db.redemptions[s.db.redemptions.length]? = some d)
    (hr : u.db.receipts[d.receiptId]? = some r) :
    ∃ ctx x, RedeemStarted rt req adm ctx x capturedAt s.db ∧ d.receiptId = s.db.receipts.length ∧
      RedeemAwaits req adm ctx x s.db.receipts.length s.db.redemptions.length capturedAt a d r := by
  have hs' : Reachable rt s' := hs.step hcapture
  have hu : Reachable rt u := hs'.steps hrun
  have hkept := Steps.rowsKept hs'.invariants hrun
  cases hcapture.outcome hs.invariants.books.sound with
  | @redeem _ _ _ ctx x _ hstarted hcommitted =>
      cases hcommitted with
      | settled h =>
          have happrovals : s'.db.approvals = s.db.approvals := by
            rw [h.frame]
            rw [h.settlement.approvals, h.captured]
          rw [happrovals] at hwaits
          omega
      | pending h =>
          have happroval : s'.db.approvals[s.db.approvals.length]? =
              some (redeemApproval req x s.db.redemptions.length
                (rt.insertedAt .approvals s.db.approvals.length) capturedAt) := by
            rw [h.frame]
            simp
          have hredemption : s'.db.redemptions[s.db.redemptions.length]? =
              some (redeemRedemption req adm ctx x s.db.receipts.length capturedAt) := by
            rw [h.frame]
            simp
          have hreceipt : s'.db.receipts[s.db.receipts.length]? =
              some (redeemReceipt req adm ctx x capturedAt) := by
            rw [h.frame]
            simp
          obtain ⟨b, hb, hblater⟩ := hkept.approvals _ _ happroval
          obtain rfl : b = a := Option.some.inj (hb.symm.trans ha)
          have hsame := hblater.resolve_right (not_not.2 hpending)
          obtain ⟨e, he, helater⟩ := hkept.redemptions _ _ hredemption
          obtain rfl : e = d := Option.some.inj (he.symm.trans hd)
          have hreceiptId : e.receiptId = s.db.receipts.length := helater.receiptId
          rw [hreceiptId] at hr
          obtain ⟨r', hr', hrlater⟩ := hkept.receipts _ _ hreceipt
          obtain rfl : r' = r := Option.some.inj (hr'.symm.trans hr)
          have htarget : b.target = .REDEEM s.db.redemptions.length := by rw [hsame]; rfl
          obtain ⟨k, y, hfile⟩ := hu.invariants.desk.file ha
          -- the file of a pending approval says that receipt and redemption still wait
          have hsubject := hfile.subject
          rw [htarget, Database.receiptIdOf, hd, Option.map_some, hreceiptId] at hsubject
          obtain rfl := Option.some.inj hsubject
          obtain rfl : y = r' := Option.some.inj (hfile.receipt.symm.trans hr)
          have hfiled := hfile.filed
          rw [hpending, htarget, Database.redemptionOf, hd, Option.map_some] at hfiled
          obtain ⟨hreview, -, hstatus⟩ := hfiled.of_pending
          have hwaiting : e.status = .PENDING_APPROVAL := by simpa using hstatus
          have hcheck := (hu.invariants.desk.redemption e (List.mem_of_getElem? hd)).1
          rw [Redemption.stateMachineCheck, hwaiting] at hcheck
          obtain ⟨hentry, hconfirmed, hconfirmedAt, hrejectedAt, hreversedAt⟩ := hcheck
          refine ⟨ctx, x, hstarted, hreceiptId, h.requiresApproval, ⟨_, hsame⟩, ?_,
            hfile.captureStatus,
            hreview, hrlater.occurredAt⟩
          unfold Redemption.Later at helater
          rw [helater, hentry, hconfirmed, hconfirmedAt, hrejectedAt, hreversedAt, hwaiting]
          rfl

end runs

/-- What an executed redemption leaves: its approval executed and its receipt approved, the
redemption confirmed, and the entries of its settlement. -/
structure SettlementRecorded (rt : Runtime) (dec : DecisionRequest) (a : Approval)
    (redemptionId : Nat) (d : Redemption) (r : Receipt) (now : Int) (res : DecisionResult)
    (s t : Database) : Prop where
  response : ∃ x, res = .decided x ∧ x.status = .EXECUTED ∧
    x.redeemedAmountKobo = some (d.requestedAmountKobo : Int)
  approval : t.approvals[dec.approvalId]? = some (executed now (decided dec .APPROVED now a))
  receipt : t.receipts[d.receiptId]? = some (reviewed dec .APPROVED now r)
  redemption : t.redemptions[redemptionId]? = some
    ((approvedSettlement rt s dec redemptionId d r now).confirmed s.ledger.length d)
  ledger : t.ledger = (approvedSettlement rt s dec redemptionId d r now).entries
    d.requestedAmountKobo s.ledger

/-- An approval of a redemption, decided in time and still permitted. -/
structure RedemptionApproved (rt : Runtime) (dec : DecisionRequest) (a : Approval)
    (redemptionId : Nat) (d : Redemption) (r : Receipt) (now : Int) (s : Database) : Prop where
  approval : s.approvals[dec.approvalId]? = some a
  tenantId : a.tenantId = dec.actor.tenantId
  pending : a.status = .PENDING
  stateMachine : a.stateMachineCheck
  unexpired : now < a.expiresAt
  decision : dec.decision = .APPROVED
  redemption : s.redemptions[redemptionId]? = some d
  redemption_tenantId : d.tenantId = a.tenantId
  receipt : s.receipts[d.receiptId]? = some r
  permitted : checkRedemptionApproval rt dec a d r now s = .ok ((), s)
  settlement : SettlementAdmitted (approvedSettlement rt s dec redemptionId d r now) d
    d.requestedAmountKobo s

section decisions

variable {rt : Runtime} {dec : DecisionRequest} {a : Approval} {redemptionId : Nat}
  {d : Redemption} {r : Receipt} {now : Int} {s t : Database} {res : DecisionResult}

/-- **A permitted redemption runs** to the end of its settlement. -/
lemma decideRedemptionApproval_run (h : RedemptionApproved rt dec a redemptionId d r now s) :
    ∃ res t, decideRedemptionApproval rt dec a redemptionId now s = .ok (res, t) := by
  have hmachine := h.stateMachine
  rw [Approval.stateMachineCheck, h.pending] at hmachine
  obtain ⟨-, -, -, hexecuted⟩ := hmachine
  have hdecided : (decided dec .APPROVED now a).stateMachineCheck := by
    simp [Approval.stateMachineCheck, decided, hexecuted]
  have hdone : (executed now (decided dec .APPROVED now a)).stateMachineCheck := by
    simp [Approval.stateMachineCheck, decided, executed]
  have hunexpired : ¬ a.expiresAt ≤ now := by
    have := h.unexpired
    omega
  have hdecision : ¬ dec.decision = .REJECTED := by
    rw [h.decision]
    decide
  have hlt := Table.lt_of_getElem? h.approval
  set v : Database := { s with
    approvals := s.approvals.set dec.approvalId (decided dec .APPROVED now a) } with hv
  have hmove : moveApproval dec.approvalId dec.actor.tenantId .PENDING approvalAlreadyDecided
      (decided dec .APPROVED now) s = .ok ((), v) :=
    moveApproval_run h.approval h.tenantId h.pending hdecided
  have hadmitted : SettlementAdmitted (approvedSettlement rt v dec redemptionId d r now) d
      d.requestedAmountKobo v := by
    obtain ⟨hamount, hbasket, hsound, hunnamed, huntouched, hrow, hconfirmed, hfresh, hbalance,
      hexpiry⟩ := h.settlement
    exact ⟨hamount, hbasket, hsound, hunnamed, huntouched, hrow, hconfirmed, hfresh, hbalance,
      hexpiry⟩
  obtain ⟨x, w, hset⟩ := executeRedemptionSettlement_run rt hadmitted
  obtain ⟨k, d', rows, m, u, hsettled⟩ := executeRedemptionSettlement_ok hset
  have hreceipt : w.receipts[d.receiptId]? = some r := by
    rw [hsettled.receipts]
    exact h.receipt
  have happroval : w.approvals[dec.approvalId]? = some (decided dec .APPROVED now a) := by
    rw [hsettled.approvals]
    exact List.getElem?_set_self hlt
  have hfound : (s.redemptions[redemptionId]?.filter fun x => x.tenantId = a.tenantId) =
      some d := by
    rw [h.redemption, Option.filter_some, if_pos (by simpa using h.redemption_tenantId)]
  have hruns : ∃ r, decideRedemptionApproval rt dec a redemptionId now s = .ok r ∧ True := by
    unfold decideRedemptionApproval
    refine runs_bind rfl (runs_bind (orFault_ok.2 ⟨hfound, rfl⟩) (runs_bind
      (orFault_ok.2 ⟨h.receipt, rfl⟩) ?_))
    rw [if_neg hunexpired, if_neg hdecision]
    refine runs_bind h.permitted ?_
    unfold executeRedemptionApproval
    refine runs_bind hmove (runs_bind rfl (runs_bind hset (runs_bind
      ((modifyReceipt_ok (u := ())).2 ⟨r, hreceipt, rfl⟩) (runs_bind
        (moveApproval_run happroval h.tenantId rfl hdone) (runs_bind rfl ?_)))))
    exact ⟨_, rfl, trivial⟩
  obtain ⟨⟨res, t⟩, hrun, -⟩ := hruns
  exact ⟨res, t, hrun⟩

lemma LoyaltyService.RedeemDecided.of_approved
    (h : RedeemDecided rt dec a redemptionId d now s t res) (hunexpired : now < a.expiresAt)
    (hdecision : dec.decision = .APPROVED) (hr : s.receipts[d.receiptId]? = some r) :
    ∃ k rows x v m u w, RedeemExecuted rt dec a redemptionId d r now k rows x v m u w s t ∧
      ∃ y, res = .decided y ∧ y.status = .EXECUTED ∧
        y.redeemedAmountKobo = some (d.requestedAmountKobo : Int) := by
  cases h with
  | expired h =>
      have hover := h.overdue
      omega
  | rejected h => exact absurd (h.decision.symm.trans hdecision) (by decide)
  | @executed r' k rows x v m u w h =>
      obtain rfl : r' = r := Option.some.inj (h.receipt.symm.trans hr)
      exact ⟨k, rows, x, v, m, u, w, h, _, rfl, rfl, rfl⟩

/-- An executed redemption is recorded. -/
lemma LoyaltyService.RedeemExecuted.recorded {k : PositiveKobo} {rows : List RedemptionAllocation}
    {x : RedemptionSettlementResult} {v m u w : Database}
    (h : RedeemExecuted rt dec a redemptionId d r now k rows x v m u w s t)
    (ha : s.approvals[dec.approvalId]? = some a) (hd : s.redemptions[redemptionId]? = some d)
    (hres : ∃ y, res = .decided y ∧ y.status = .EXECUTED ∧
      y.redeemedAmountKobo = some (d.requestedAmountKobo : Int)) :
    SettlementRecorded rt dec a redemptionId d r now res s t := by
  have hset := h.settlement
  have hk : k = d.requestedAmountKobo := Subtype.ext hset.amount
  have hreceipts : w.receipts = s.receipts := by rw [hset.receipts, h.approved]
  have happrovals : w.approvals = s.approvals.set dec.approvalId (decided dec .APPROVED now a) := by
    rw [hset.approvals, h.approved]
  have hledger : w.ledger = (approvedSettlement rt s dec redemptionId d r now).entries
      d.requestedAmountKobo s.ledger := by
    rw [hset.entries, h.approved, hk]
  have hredemptions : w.redemptions = s.redemptions.set redemptionId
      ((approvedSettlement rt s dec redemptionId d r now).confirmed s.ledger.length d) := by
    rw [hset.redemptions, h.approved]
    rfl
  refine ⟨hres, ?_, ?_, ?_, ?_⟩
  · rw [h.frame]
    change (w.approvals.set _ _)[_]? = _
    rw [happrovals, List.set_set]
    exact List.getElem?_set_self (Table.lt_of_getElem? ha)
  · rw [h.frame]
    change (w.receipts.set _ _)[_]? = _
    rw [hreceipts]
    exact List.getElem?_set_self (Table.lt_of_getElem? h.receipt)
  · rw [h.frame]
    change w.redemptions[_]? = _
    rw [hredemptions]
    exact List.getElem?_set_self (Table.lt_of_getElem? hd)
  · rw [h.frame]
    exact hledger

lemma LoyaltyService.RedeemExecuted.lots {k : PositiveKobo} {rows : List RedemptionAllocation}
    {x : RedemptionSettlementResult} {v m u w : Database}
    (h : RedeemExecuted rt dec a redemptionId d r now k rows x v m u w s t)
    (hcredit : 0 < creditAt ((d.basketAmountKobo : Int) - d.requestedAmountKobo)
      (approvedSettlement rt s dec redemptionId d r now).earnRateBps) :
    t.lots.length ≠ s.lots.length := by
  have hset := h.settlement
  have hv : v.lots = s.lots := by rw [h.approved]
  have hm : m.lots.length = v.lots.length := hset.debit.moved.length_eq
  have hw : w.lots = u.lots := by rw [hset.frame]
  have ht : t.lots = w.lots := by rw [h.frame]
  have hearnedKobo : x.earnedKobo = creditAt ((d.basketAmountKobo : Int) - d.requestedAmountKobo)
      (approvedSettlement rt s dec redemptionId d r now).earnRateBps := by
    rw [hset.earnedKobo, calculateEarnAmountKobo_eq]
    rfl
  have hearned := hset.earned
  generalize x.earnLedgerEntryId = i at hearned
  cases hearned with
  | nothing hzero _ => omega
  | @credit _ l _ _ hframe =>
      have hu : u.lots = m.lots ++ [l] := by rw [hframe]
      rw [ht, hw, hu, List.length_append, hm, hv]
      simp

lemma decideRedemptionApproval_expiry (hd : s.redemptions[redemptionId]? = some d)
    (hr : s.receipts[d.receiptId]? = some r) (hunexpired : now < a.expiresAt)
    (hdecision : dec.decision = .APPROVED)
    (h : decideRedemptionApproval rt dec a redemptionId now s = .ok (res, t))
    (hlots : t.lots.length ≠ s.lots.length) : clampedExpiryDerived r.occurredAt := by
  have hlate : ¬ a.expiresAt ≤ now := by omega
  have hreject : ¬ dec.decision = .REJECTED := by
    rw [hdecision]
    decide
  simp only [decideRedemptionApproval, bind_ok, get_ok, orFault_ok, if_neg hlate,
    if_neg hreject] at h
  obtain ⟨_, _, ⟨rfl, rfl⟩, d', _, ⟨hd', rfl⟩, r', _, ⟨hr', rfl⟩, _, _, hcheck, hexecute⟩ := h
  obtain rfl : d = d' := Option.some.inj (hd.symm.trans (Option.filter_eq_some_iff.1 hd').1)
  obtain rfl : r = r' := Option.some.inj (hr.symm.trans hr')
  obtain ⟨rfl, -⟩ := checkRedemptionApproval_ok hcheck
  obtain ⟨v, x, w, hv, hset, ht⟩ := executeRedemptionApproval_settles hexecute
  have hlotsv : v.lots = s.lots := congrArg Books.lots hv
  have hlotst : t.lots = w.lots := congrArg Books.lots ht
  rw [hlotst, ← hlotsv] at hlots
  exact ((lawful_executeRedemptionSettlement rt _).ok hset).resolve_left hlots

end decisions

section runs

variable {rt : Runtime} {req : RedeemRequest} {adm : RedeemAdmission} {capturedAt : Int}
  {s s' u : System} {a : Approval} {d : Redemption} {r : Receipt} {dec : DecisionRequest}

/-- The settlement of a pending approval is admitted, where its credit has an expiry. -/
lemma RedeemAwaits.settlementAdmitted {ctx : RedeemContext} {x : RedeemAssessment}
    {receiptId redemptionId : Nat} {now : Int} {db : Database}
    (h : RedeemAwaits req adm ctx x receiptId redemptionId capturedAt a d r)
    (hstart : RedeemStarted rt req adm ctx x capturedAt db) (hu : Reachable rt u)
    (ha : u.db.approvals[dec.approvalId]? = some a) (hpending : a.status = .PENDING)
    (hd : u.db.redemptions[redemptionId]? = some d)
    (hbalance : d.requestedAmountKobo ≤ ActiveBalanceService.getActiveBalanceKobo u.db
      dec.actor.tenantId d.customerId now)
    (hexpiry : 0 < creditAt ((d.basketAmountKobo : Int) - d.requestedAmountKobo)
        (approvedSettlement rt u.db dec redemptionId d r now).earnRateBps →
      clampedExpiryDerived r.occurredAt) :
    SettlementAdmitted (approvedSettlement rt u.db dec redemptionId d r now) d
      d.requestedAmountKobo u.db where
  amount := rfl
  basket := by
    have hcapped := hstart.capped
    obtain ⟨hone, hhundred⟩ :=
      basketPercent_bounds rt (db.registry.policies req.actor.tenantId ctx.branchId)
    have hpos := adm.basketAmountKobo.2
    have hprod : (adm.basketAmountKobo : Int) *
        basketPercent rt (db.registry.policies req.actor.tenantId ctx.branchId) ≤
          adm.basketAmountKobo * 100 := mul_le_mul_of_nonneg_left hhundred hpos.le
    rw [h.redemption]
    change (adm.requestedAmountKobo : Int) ≤ adm.basketAmountKobo
    omega
  sound := hu.invariants.books.sound
  unnamed := by
    intro e he
    have hne : e.correlationId.approvalId? ≠ some dec.approvalId := by
      intro hname
      obtain ⟨b, hb, hdecided⟩ := hu.namedDecided e he _ hname
      obtain rfl : a = b := Option.some.inj (ha.symm.trans hb)
      exact hdecided hpending
    exact ⟨fun heq => hne (by rw [heq]; rfl), fun heq => hne (by rw [heq]; rfl)⟩
  untouched := by
    obtain ⟨requestedAt, happroval⟩ := h.approval
    refine hu.invariants.desk.no_entry ha hpending ?_
    rw [happroval]
    change u.db.redemptions[redemptionId]?.map (·.receiptId) = _
    rw [hd]
    rfl
  redemption := hd
  confirmed := by
    rw [h.redemption]
    simp [Redemption.stateMachineCheck, RedemptionSettlementInput.confirmed, redeemRedemption,
      approvedSettlement]
  fresh := by
    refine freshTarget_of_redemption hu.linked rfl fun d' hd' => ?_
    obtain rfl : d = d' := Option.some.inj (hd.symm.trans hd')
    rw [h.redemption]
    rfl
  balance := hbalance
  expiry := hexpiry

/-- **A redemption approval executes under an unchanged policy** exactly when the environment's
policy permits the redemption too, and the credit on what is left to pay has an expiry. -/
theorem redemption_approval_executes_iff {startedAt now : Int} (hs : Reachable rt s)
    (hcapture : Step rt (.redeem req adm capturedAt) s s')
    (hwaits : s.db.approvals.length < s'.db.approvals.length) (hrun : Steps rt s' u)
    (hid : dec.approvalId = s.db.approvals.length) (hdecision : dec.decision = .APPROVED)
    (hkey : u.db.idempotency dec.key = none) (hdecidable : LoyaltyService.Decidable dec a u.db)
    (hunexpired : now < a.expiresAt)
    (hredemption : u.db.redemptions[s.db.redemptions.length]? = some d)
    (hreceipt : u.db.receipts[d.receiptId]? = some r)
    (hpolicy : u.db.registry.policies dec.actor.tenantId d.branchId =
      s.db.registry.policies dec.actor.tenantId d.branchId) (heligible : stillEligible u.db r)
    (hbalance : d.requestedAmountKobo ≤ ActiveBalanceService.getActiveBalanceKobo u.db
      dec.actor.tenantId d.customerId now) :
    (∃ res t, decideTransaction rt dec startedAt now u.db = .ok (res, t) ∧
      SettlementRecorded rt dec a s.db.redemptions.length d r now res u.db t) ↔
    EnvironmentSettles rt ((u.db.registry.policies dec.actor.tenantId d.branchId).map
        (·.redemptionPolicy)) d.requestedAmountKobo d.basketAmountKobo ∧
      (0 < creditAt ((d.basketAmountKobo : Int) - d.requestedAmountKobo) (resolveEarnRateBps rt
          ((u.db.registry.policies dec.actor.tenantId d.branchId).map (·.earnPolicy))) →
        clampedExpiryDerived r.occurredAt) := by
  have hu : Reachable rt u := (hs.step hcapture).steps hrun
  have ha : u.db.approvals[s.db.approvals.length]? = some a := hid ▸ hdecidable.approval
  obtain ⟨ctx, x, hstart, -, hawaits⟩ :=
    redeem_awaits hs hcapture hwaits hrun ha hdecidable.pending hredemption hreceipt
  obtain ⟨requestedAt, happroval⟩ := hawaits.approval
  have htenant : dec.actor.tenantId = req.actor.tenantId := by
    rw [← hdecidable.tenantId, happroval]
    rfl
  have hbranch : d.branchId = ctx.branchId := by rw [hawaits.redemption]; rfl
  have htarget : a.target = .REDEEM s.db.redemptions.length := by rw [happroval]; rfl
  have hchecks := checkRedemptionApproval_iff (s := begun dec startedAt u.db) dec now hstart
    hawaits htenant (by rw [← htenant, ← hbranch]; exact hpolicy) heligible
    (by rw [← htenant]; exact hbalance)
  rw [← htenant, ← hbranch] at hchecks
  have hmachine : a.stateMachineCheck :=
    hu.invariants.desk.approval a (List.mem_of_getElem? ha)
  rw [decideTransaction_begun hkey hdecidable, htarget]
  constructor
  · rintro ⟨res, t, hruns, hrecorded⟩
    obtain ⟨d', hd', -, hout⟩ :=
      decideRedemptionApproval_ok (s := begun dec startedAt u.db) hdecidable.approval hruns
    obtain rfl : d = d' := Option.some.inj (hredemption.symm.trans hd')
    obtain ⟨k, rows, y, v, m, w, z, h, -⟩ := hout.of_approved hunexpired hdecision hreceipt
    refine ⟨hchecks.1 h.checked, fun hcredit => ?_⟩
    exact decideRedemptionApproval_expiry (s := begun dec startedAt u.db) hredemption hreceipt
      hunexpired hdecision hruns (h.lots hcredit)
  · rintro ⟨hsettles, hexpiry⟩
    -- the capture and the desk give what the settlement needs, the policy and the balance apart
    have hadmitted : SettlementAdmitted
        (approvedSettlement rt u.db dec s.db.redemptions.length d r now) d d.requestedAmountKobo
          u.db :=
      hawaits.settlementAdmitted hstart hu hdecidable.approval hdecidable.pending hredemption
        hbalance hexpiry
    have happroved : RedemptionApproved rt dec a s.db.redemptions.length d r now
        (begun dec startedAt u.db) := by
      refine ⟨hdecidable.approval, hdecidable.tenantId, hdecidable.pending, hmachine, hunexpired,
        hdecision, hredemption, ?_, hreceipt, hchecks.2 hsettles, ?_⟩
      · rw [hawaits.redemption, happroval]
        rfl
      · exact ⟨hadmitted.amount, hadmitted.basket, hadmitted.sound, hadmitted.unnamed,
          hadmitted.untouched, hadmitted.redemption, hadmitted.confirmed, hadmitted.fresh,
          hadmitted.balance, hadmitted.expiry⟩
    obtain ⟨res, t, hruns⟩ := decideRedemptionApproval_run happroved
    refine ⟨res, t, hruns, ?_⟩
    obtain ⟨d', hd', -, hout⟩ :=
      decideRedemptionApproval_ok (s := begun dec startedAt u.db) hdecidable.approval hruns
    obtain rfl : d = d' := Option.some.inj (hredemption.symm.trans hd')
    obtain ⟨k, rows, y, v, m, w, z, h, hresponse⟩ :=
      hout.of_approved hunexpired hdecision hreceipt
    have hrecorded := h.recorded hdecidable.approval hredemption hresponse
    exact ⟨hrecorded.response, hrecorded.approval, hrecorded.receipt, hrecorded.redemption,
      hrecorded.ledger⟩

end runs

/-! ### A branch without a policy of its own -/

namespace Shop

/-- Whether the first redemption, of this amount on this basket, waits for a decision that may be
made, and the balance covers it. -/
def waitingRedemption (basketAmountKobo requestedKobo : Int) (dec : DecisionRequest) (now : Int)
    (db : Database) : Bool :=
  (db.approvals[0]?).any fun a => (db.redemptions[0]?).any fun d => (db.receipts[d.receiptId]?).any
    fun r => decide (a.tenantId = dec.actor.tenantId ∧ a.requestedBy ≠ dec.actor.staff ∧
      a.status = .PENDING ∧ a.target = .REDEEM 0 ∧ dec.actor.branchId = some r.branchId ∧
      now < a.expiresAt ∧ stillEligible db r ∧ (d.basketAmountKobo : Int) = basketAmountKobo ∧
      (d.requestedAmountKobo : Int) = requestedKobo ∧
      requestedKobo ≤ ActiveBalanceService.getActiveBalanceKobo db dec.actor.tenantId d.customerId
        now ∧ r.occurredAt = night) && (db.idempotency dec.key).isNone

/-- The rows of a redemption that waits. -/
structure Waiting (basketAmountKobo requestedKobo : Int) (dec : DecisionRequest) (now : Int)
    (a : Approval) (d : Redemption) (r : Receipt) (db : Database) : Prop where
  decidable : LoyaltyService.Decidable dec a db
  unexpired : now < a.expiresAt
  redemption : db.redemptions[0]? = some d
  receipt : db.receipts[d.receiptId]? = some r
  eligible : stillEligible db r
  basket : (d.basketAmountKobo : Int) = basketAmountKobo
  requested : (d.requestedAmountKobo : Int) = requestedKobo
  balance : (d.requestedAmountKobo : Int) ≤ ActiveBalanceService.getActiveBalanceKobo db
    dec.actor.tenantId d.customerId now
  occurredAt : r.occurredAt = night
  key : db.idempotency dec.key = none

lemma of_waitingRedemption {basketAmountKobo requestedKobo : Int} {dec : DecisionRequest}
    {now : Int} {db : Database} (hid : dec.approvalId = 0)
    (h : waitingRedemption basketAmountKobo requestedKobo dec now db = true) :
    ∃ a d r, Waiting basketAmountKobo requestedKobo dec now a d r db := by
  unfold waitingRedemption at h
  obtain ⟨a, ha, h⟩ := (Option.any_eq_true _ _).1 h
  obtain ⟨d, hd, h⟩ := (Option.any_eq_true _ _).1 h
  obtain ⟨r, hr, h⟩ := (Option.any_eq_true _ _).1 h
  obtain ⟨hrows, hkey⟩ := Bool.and_eq_true_iff.1 h
  obtain ⟨hten, hother, hpending, htarget, hbranch, hexpires, heligible, hbasket, hrequested,
    hbalance, hoccurred⟩ := of_decide_eq_true hrows
  refine ⟨a, d, r, ⟨by rwa [hid], hten, hother, hpending, .inr ⟨r, ?_, hbranch⟩⟩, hexpires, hd, hr,
    heligible, hbasket, hrequested, hrequested ▸ hbalance, hoccurred,
    Option.isNone_iff_eq_none.1 hkey⟩
  rw [htarget]
  change (db.redemptions[0]?).bind _ = _
  rw [hd]
  exact hr

end Shop

/-- A redemption of 6000 naira, above the threshold, from the credit of two purchases. -/
theorem redemption_approval_executes_shop : ∃ s s' a d r res t,
    Step Shop.runtime (Shop.redeem "k3" ⟨10000000, by decide⟩ ⟨600000, by decide⟩) s s' ∧
      decideTransaction Shop.runtime (Shop.approval "d1") Shop.night Shop.night s'.db =
        .ok (res, t) ∧
      SettlementRecorded Shop.runtime (Shop.approval "d1") a 0 d r Shop.night res s'.db t := by
  obtain ⟨s', hrun, -, hfacts⟩ := Reachable.of_runAll_map Shop.runtime Shop.registry
    ([Shop.earn "k1" 19000000, Shop.earn "k2" 19000000] ++
      [Shop.redeem "k3" ⟨10000000, by decide⟩ ⟨600000, by decide⟩])
    (f := fun s => (s.db.approvals.length,
      Shop.waitingRedemption 10000000 600000 (Shop.approval "d1") Shop.night s.db)) (a := (1, true))
    (by decide +kernel) (by simp [Shop.earn, Shop.redeem, Op.Admissible])
  obtain ⟨s, hfirst, hlast⟩ := System.runAll_snoc hrun
  have hs : Reachable Shop.runtime s :=
    ⟨Shop.registry, .of_runAll hfirst (by simp [Shop.earn, Op.Admissible])⟩
  have hcapture : Step Shop.runtime (Shop.redeem "k3" ⟨10000000, by decide⟩ ⟨600000, by decide⟩) s
      s' := ⟨hlast, by simp [Shop.redeem, Op.Admissible]⟩
  have hbefore : (s.db.approvals.length, s.db.redemptions.length) = (0, 0) :=
    System.of_runAll_map hfirst (f := fun s => (s.db.approvals.length, s.db.redemptions.length))
      (by decide +kernel)
  obtain ⟨happrovals, hredemptions⟩ := Prod.mk.inj hbefore
  have hafter : s'.db.approvals.length = 1 := (Prod.mk.inj hfacts).1
  have hwaiting : Shop.waitingRedemption 10000000 600000 (Shop.approval "d1") Shop.night s'.db =
      true := (Prod.mk.inj hfacts).2
  have hregistry : s'.db.registry = Shop.registry :=
    System.runAll_registry (.initial Shop.registry) hrun (by simp [Shop.earn, Shop.redeem])
  have hregistry₀ : s.db.registry = Shop.registry :=
    System.runAll_registry (.initial Shop.registry) hfirst (by simp [Shop.earn])
  obtain ⟨a, d, r, h⟩ := Shop.of_waitingRedemption rfl hwaiting
  have hnone : s'.db.registry.policies (Shop.approval "d1").actor.tenantId d.branchId = none := by
    rw [hregistry]
    rfl
  have hiff : (∃ res t, decideTransaction Shop.runtime (Shop.approval "d1") Shop.night Shop.night
      s'.db = .ok (res, t) ∧ SettlementRecorded Shop.runtime (Shop.approval "d1") a
        s.db.redemptions.length d r Shop.night res s'.db t) ↔ _ :=
    redemption_approval_executes_iff hs hcapture (by omega) (.refl s')
      (by rw [happrovals]; rfl) rfl h.key h.decidable h.unexpired
      (by rw [hredemptions]; exact h.redemption) h.receipt (by rw [hnone, hregistry₀]; rfl)
      h.eligible h.balance
  rw [hnone, h.basket, h.requested, h.occurredAt, hredemptions] at hiff
  obtain ⟨res, t, hruns, hrecorded⟩ := hiff.2
    ⟨⟨rfl, by decide, by decide, by decide⟩, fun _ => by decide⟩
  exact ⟨s, s', a, d, r, res, t, hcapture, hruns, hrecorded⟩

/-- A redemption of 600 naira, below the threshold, that waits for its large purchase: the decision
asks what the redemption alone calls for. -/
theorem purchase_redemption_approval_refused : ∃ s s' a d r,
    Step Shop.runtime (Shop.redeem "k2" ⟨30000000, by decide⟩ ⟨60000, by decide⟩) s s' ∧
      s.db.registry = Shop.registry ∧ s'.db.registry = Shop.registry ∧
      Shop.Waiting 30000000 60000 (Shop.approval "d1") Shop.night a d r s'.db ∧
      a.reasonCode = some APPROVAL_REASON_CODE ∧
      ((decideTransaction Shop.runtime (Shop.approval "d1") Shop.night Shop.night s'.db).map
        fun _ => ()) = .error (.http 422 "APPROVAL_POLICY_CHANGED"
          "Approval is no longer required under the current redemption policy") ∧
      ¬ ∃ res t, decideTransaction Shop.runtime (Shop.approval "d1") Shop.night Shop.night s'.db =
          .ok (res, t) ∧
        SettlementRecorded Shop.runtime (Shop.approval "d1") a 0 d r Shop.night res s'.db t := by
  obtain ⟨s', hrun, -, hfacts⟩ := Reachable.of_runAll_map Shop.runtime Shop.registry
    ([Shop.earn "k1" 9000000] ++ [Shop.redeem "k2" ⟨30000000, by decide⟩ ⟨60000, by decide⟩])
    (f := fun s => (Shop.waitingRedemption 30000000 60000 (Shop.approval "d1") Shop.night s.db,
      (s.db.approvals[0]?).bind (·.reasonCode),
      (decideTransaction Shop.runtime (Shop.approval "d1") Shop.night Shop.night s.db).map
        fun _ => ()))
    (a := (true, some APPROVAL_REASON_CODE, .error (.http 422 "APPROVAL_POLICY_CHANGED"
      "Approval is no longer required under the current redemption policy")))
    (by decide +kernel) (by simp [Shop.earn, Shop.redeem, Op.Admissible])
  obtain ⟨s, hfirst, hlast⟩ := System.runAll_snoc hrun
  obtain ⟨hwaiting, hrest⟩ := Prod.mk.inj hfacts
  have hregistry : s'.db.registry = Shop.registry :=
    System.runAll_registry (.initial Shop.registry) hrun (by simp [Shop.earn, Shop.redeem])
  have hregistry₀ : s.db.registry = Shop.registry :=
    System.runAll_registry (.initial Shop.registry) hfirst (by simp [Shop.earn])
  have hreason : ((s'.db.approvals[0]?).bind (·.reasonCode)) = some APPROVAL_REASON_CODE :=
    (Prod.mk.inj hrest).1
  have hrefused : ((decideTransaction Shop.runtime (Shop.approval "d1") Shop.night Shop.night
      s'.db).map fun _ => ()) = .error (.http 422 "APPROVAL_POLICY_CHANGED"
        "Approval is no longer required under the current redemption policy") :=
    (Prod.mk.inj hrest).2
  obtain ⟨a, d, r, h⟩ := Shop.of_waitingRedemption rfl hwaiting
  have ha : s'.db.approvals[0]? = some a := h.decidable.approval
  rw [ha] at hreason
  refine ⟨s, s', a, d, r, ⟨hlast, by simp [Shop.redeem, Op.Admissible]⟩, hregistry₀, hregistry, h,
    hreason, hrefused, ?_⟩
  rintro ⟨res, t, hruns, -⟩
  rw [hruns] at hrefused
  cases hrefused

end ShopcityLoyalty
