import ShopcityLoyalty.Invariants

/-!
What a run leaves of the rows that a capture has written, and the correlation ids that an
operation gives to its entries.
-/

namespace ShopcityLoyalty

open Txn Database

variable {rt : Runtime} {op : Op} {now finishedAt : Int}

/-! ### Rows -/

/-- An approval that is still pending is as it was. -/
def Approval.Later (a b : Approval) : Prop := b = a ∨ b.status ≠ .PENDING

instance : Std.Refl Approval.Later := ⟨fun _ => .inl rfl⟩

instance : IsTrans Approval Approval.Later where
  trans a b c hab hbc := by
    rcases hbc with rfl | hc
    · exact hab
    · exact .inr hc

/-- Only the review of a receipt changes. -/
def Receipt.Later (r x : Receipt) : Prop :=
  x = { r with
    reviewStatus := x.reviewStatus, reviewedBy := x.reviewedBy, reviewedAt := x.reviewedAt
    approvedBy := x.approvedBy, approvedAt := x.approvedAt }

instance : Std.Refl Receipt.Later := ⟨fun _ => rfl⟩

instance : IsTrans Receipt Receipt.Later where
  trans r x y hrx hxy := by
    have h := congrArg (fun z : Receipt => { z with
      reviewStatus := y.reviewStatus, reviewedBy := y.reviewedBy, reviewedAt := y.reviewedAt
      approvedBy := y.approvedBy, approvedAt := y.approvedAt }) hrx
    exact hxy.trans h

lemma Receipt.Later.captureStatus {r x : Receipt} (h : r.Later x) :
    x.captureStatus = r.captureStatus := by
  unfold Receipt.Later at h
  rw [h]

lemma Receipt.Later.occurredAt {r x : Receipt} (h : r.Later x) : x.occurredAt = r.occurredAt := by
  unfold Receipt.Later at h
  rw [h]

/-- Only the settlement of a redemption changes. -/
def Redemption.Later (d x : Redemption) : Prop :=
  x = { d with
    confirmedAmountKobo := x.confirmedAmountKobo, status := x.status
    ledgerEntryId := x.ledgerEntryId, confirmedAt := x.confirmedAt, rejectedAt := x.rejectedAt
    reversedAt := x.reversedAt }

instance : Std.Refl Redemption.Later := ⟨fun _ => rfl⟩

instance : IsTrans Redemption Redemption.Later where
  trans d x y hdx hxy := by
    have h := congrArg (fun z : Redemption => { z with
      confirmedAmountKobo := y.confirmedAmountKobo, status := y.status
      ledgerEntryId := y.ledgerEntryId, confirmedAt := y.confirmedAt, rejectedAt := y.rejectedAt
      reversedAt := y.reversedAt }) hdx
    exact hxy.trans h

lemma Redemption.Later.requestedAmountKobo {d x : Redemption} (h : d.Later x) :
    x.requestedAmountKobo = d.requestedAmountKobo := by
  unfold Redemption.Later at h
  rw [h]

lemma Redemption.Later.basketAmountKobo {d x : Redemption} (h : d.Later x) :
    x.basketAmountKobo = d.basketAmountKobo := by
  unfold Redemption.Later at h
  rw [h]

lemma Redemption.Later.receiptId {d x : Redemption} (h : d.Later x) :
    x.receiptId = d.receiptId := by
  unfold Redemption.Later at h
  rw [h]

/-! Each change of a row that the services make is one of these. -/

lemma Approval.later_decided (req : DecisionRequest) {status : ApprovalStatus} (a : Approval)
    (h : status ≠ .PENDING) : a.Later (LoyaltyService.decided req status now a) := .inr h

lemma Approval.later_executed (a b : Approval) : a.Later (LoyaltyService.executed now b) :=
  .inr (by simp [LoyaltyService.executed])

lemma Approval.later_expiredRow (actor : Option StaffRef) (a : Approval) :
    a.Later (expiredRow now actor a) := .inr (by simp [expiredRow])

lemma Receipt.later_reviewed (req : DecisionRequest) (status : ReceiptReviewStatus) (r : Receipt) :
    r.Later (LoyaltyService.reviewed req status now r) := by
  unfold Receipt.Later LoyaltyService.reviewed
  rfl

lemma Receipt.later_rejectedRow (actor : Option StaffRef) (r : Receipt) :
    r.Later (rejectedRow now actor r) := by
  unfold Receipt.Later rejectedRow
  rfl

lemma Redemption.later_confirmed (input : RedemptionSettlementInput) (entryId : Nat)
    (d : Redemption) : d.Later (input.confirmed entryId d) := by
  unfold Redemption.Later RedemptionSettlementInput.confirmed
  rfl

lemma Redemption.later_rejected (d : Redemption) :
    d.Later (LoyaltyService.rejectedRedemption now d) := by
  unfold Redemption.Later LoyaltyService.rejectedRedemption
  rfl

lemma Redemption.later_expired (d : Redemption) : d.Later (expiredRedemptionRow now d) := by
  unfold Redemption.Later expiredRedemptionRow
  rfl

lemma Redemption.later_reversed (d : Redemption) :
    d.Later (ReversalsService.reversedRedemption now d) := by
  unfold Redemption.Later ReversalsService.reversedRedemption
  rfl

/-- The captured rows are still there. -/
structure RowsKept (s t : Database) : Prop where
  approvals : Table.Stay Approval.Later s.approvals t.approvals
  receipts : Table.Stay Receipt.Later s.receipts t.receipts
  redemptions : Table.Stay Redemption.Later s.redemptions t.redemptions

namespace RowsKept

variable {s t u : Database}

lemma same (ha : t.approvals = s.approvals) (hr : t.receipts = s.receipts)
    (hd : t.redemptions = s.redemptions) : RowsKept s t :=
  ⟨.same ha, .same hr, .same hd⟩

lemma trans (h : RowsKept s t) (h' : RowsKept t u) : RowsKept s u :=
  ⟨h.approvals.trans h'.approvals, h.receipts.trans h'.receipts, h.redemptions.trans h'.redemptions⟩

end RowsKept

section rows

variable {s t : Database}

lemma Settled.rowsKept {input : RedemptionSettlementInput} {k : PositiveKobo} {r : Redemption}
    {rows : List RedemptionAllocation} {m u : Database} {res : RedemptionSettlementResult}
    (h : Settled input k r rows m u res s t) : RowsKept s t :=
  ⟨.same h.approvals, .same h.receipts,
    .set h.redemption (Redemption.later_confirmed _ _ _) h.redemptions⟩

lemma TargetExpired.rowsKept {tenantId : String} {actor : Option StaffRef} {target : ApprovalTarget}
    {receiptId : Option Nat} (h : TargetExpired tenantId now actor s target receiptId t) :
    RowsKept s t := by
  cases h with
  | earn hreceipt =>
      exact ⟨.same rfl, .set hreceipt (Receipt.later_rejectedRow _ _) rfl, .same rfl⟩
  | redeem hreceipt _ hredemption =>
      exact ⟨.same rfl, .set hreceipt (Receipt.later_rejectedRow _ _) rfl,
        .set hredemption (Redemption.later_expired _) rfl⟩
  | alone hredemption =>
      exact ⟨.same rfl, .same rfl, .set hredemption (Redemption.later_expired _) rfl⟩

lemma ApprovalExpired.rowsKept {i : Nat} {a : Approval} {tenantId : String}
    {target : ApprovalTarget}
    {receiptId : Option Nat} {actor : Option StaffRef} {m : Database}
    (h : ApprovalExpired i a tenantId target receiptId now actor m s t) : RowsKept s t := by
  have hlater : a.Later (expiredRow now actor a) := a.later_expiredRow actor
  have hrow : RowsKept s { s with approvals := s.approvals.set i (expiredRow now actor a) } :=
    ⟨.set h.approval hlater rfl, .same rfl, .same rfl⟩
  have hlast : RowsKept m t := .same (by rw [h.frame]) (by rw [h.frame]) (by rw [h.frame])
  exact (hrow.trans h.target.rowsKept).trans hlast

lemma Lapsed.rowsKept (h : Relation.ReflTransGen (Lapsed now) s t) : RowsKept s t := by
  induction h with
  | refl => exact .same rfl rfl rfl
  | tail _ hlast ih =>
      obtain ⟨i, a, m, hx⟩ := hlast
      exact ih.trans hx.rowsKept

namespace LoyaltyService

lemma EarnCommitted.rowsKept {req : EarnRequest} {adm : EarnAdmission} {ctx : EarnContext}
    {amount : PositiveKobo} {res : EarnTransactionResponse}
    (h : EarnCommitted rt req adm ctx amount now res s t) : RowsKept s t := by
  cases h with
  | pending h =>
      exact ⟨.append (by rw [h.frame]), .append (by rw [h.frame]), .same (by rw [h.frame])⟩
  | credited h =>
      exact ⟨.same (by rw [h.frame]), .append (by rw [h.frame]), .same (by rw [h.frame])⟩

lemma TargetDecided.rowsKept {req : DecisionRequest} {a : Approval} {res : DecisionResult}
    (hdec : LoyaltyService.Decidable req a s) (h : TargetDecided rt req a now s t res) :
    RowsKept s t := by
  have hrow := hdec.approval
  have hrejected : a.Later (decided req .REJECTED now a) :=
    Approval.later_decided req a (by decide)
  cases h with
  | earn _ h =>
      cases h with
      | expired h =>
          obtain ⟨m, hx⟩ := h.expired
          exact hx.rowsKept
      | rejected h =>
          exact ⟨.set hrow hrejected (by rw [h.frame]),
            .set h.receipt (Receipt.later_reviewed _ _ _) (by rw [h.frame]),
              .same (by rw [h.frame])⟩
      | executed h =>
          exact ⟨.set hrow (Approval.later_executed a _) (by rw [h.frame]),
            .set h.receipt (Receipt.later_reviewed _ _ _) (by rw [h.frame]),
              .same (by rw [h.frame])⟩
  | redeem _ hredemption _ h =>
      cases h with
      | expired h =>
          obtain ⟨m, hx⟩ := h.expired
          exact hx.rowsKept
      | rejected h =>
          exact ⟨.set hrow hrejected (by rw [h.frame]),
            .set h.receipt (Receipt.later_reviewed _ _ _) (by rw [h.frame]),
            .set hredemption (Redemption.later_rejected _) (by rw [h.frame])⟩
      | @executed r k rows x v m u w h =>
          have happrovals : w.approvals =
              s.approvals.set req.approvalId (decided req .APPROVED now a) := by
            rw [h.settlement.approvals, h.approved]
          have hreceipts : w.receipts = s.receipts := by rw [h.settlement.receipts, h.approved]
          have hreviewed : r.Later (reviewed req .APPROVED now r) :=
            Receipt.later_reviewed req .APPROVED r
          have hexecuted : a.Later (executed now (decided req .APPROVED now a)) :=
            Approval.later_executed a _
          refine ⟨.set hrow hexecuted ?_, .set h.receipt hreviewed ?_, ?_⟩
          · rw [h.frame]
            change w.approvals.set _ _ = _
            rw [happrovals, List.set_set]
          · rw [h.frame]
            change w.receipts.set _ _ = _
            rw [hreceipts]
          · have hsettled := h.settlement.rowsKept.redemptions
            have hv : v.redemptions = s.redemptions := by rw [h.approved]
            have ht : t.redemptions = w.redemptions := by rw [h.frame]
            rw [ht, ← hv]
            exact hsettled

end LoyaltyService

lemma RedemptionsService.RedeemCommitted.rowsKept {req : RedeemRequest} {adm : RedeemAdmission}
    {ctx : RedeemContext} {a : RedeemAssessment} {res : RedeemTransactionResponse}
    (h : RedeemCommitted rt req adm ctx a now res s t) : RowsKept s t := by
  cases h with
  | pending h =>
      exact ⟨.append (by rw [h.frame]), .append (by rw [h.frame]), .append (by rw [h.frame])⟩
  | @settled k r rows x v m u w h =>
      have hv : RowsKept s v :=
        ⟨.same (by rw [h.captured]), .append (by rw [h.captured]), .append (by rw [h.captured])⟩
      have hlast : RowsKept w t := .same (by rw [h.frame]) (by rw [h.frame]) (by rw [h.frame])
      exact (hv.trans h.settlement.rowsKept).trans hlast

namespace ReversalsService

lemma Marked.rowsKept {tenantId : String} {entryId : Nat} (h : Marked tenantId entryId now s t) :
    RowsKept s t := by
  cases h with
  | nothing => exact .same rfl rfl rfl
  | redemption hrow => exact ⟨.same rfl, .same rfl, .set hrow (Redemption.later_reversed _) rfl⟩

lemma ReverseCommitted.rowsKept {input : ReversalInput} {o : LoyaltyLedgerEntry}
    {existing : Option Response} {res : Response}
    (h : ReverseCommitted input o now finishedAt existing s t res) : RowsKept s t := by
  cases h with
  | credit _ _ _ h =>
      rw [h.completed, h.compensated.frame]
      exact .same rfl rfl rfl
  | @debit k planned rows res m w _ _ _ h =>
      have hm : RowsKept s m := by
        rw [h.restored.frame]
        exact .same rfl rfl rfl
      have ht : RowsKept w t := by
        rw [h.completed]
        exact .same rfl rfl rfl
      exact (hm.trans h.marked.rowsKept).trans ht
  | pair _ _ _ h =>
      cases h with
      | @reversed lotId l row planned rows m u w _ h =>
          have hu : RowsKept s u := by
            rw [h.restored.frame, h.compensated.frame]
            exact .same rfl rfl rfl
          have ht : RowsKept w t := by
            rw [h.completed]
            exact .same rfl rfl rfl
          exact (hu.trans h.marked.rowsKept).trans ht
      | replayed hs _ _ =>
          rw [hs]
          exact .same rfl rfl rfl
  | replayed _ _ hs =>
      rw [hs]
      exact .same rfl rfl rfl

end ReversalsService

lemma RecordsOnly.rowsKept (h : RecordsOnly s t) : RowsKept s t := by
  rw [h.frame]
  exact .same rfl rfl rfl

/-- **Every operation** keeps the captured rows. -/
theorem Outcome.rowsKept (h : Outcome rt s t op) : RowsKept s t := by
  cases h with
  | earn _ h => exact h.rowsKept
  | redeem _ h => exact h.rowsKept
  | @decide _ _ _ _ _ v _ hv hdec h =>
      have hsv : RowsKept s v := .same (by rw [hv]) (by rw [hv]) (by rw [hv])
      exact hsv.trans (h.rowsKept hdec)
  | @reverse _ _ _ _ _ v _ _ hopen _ h =>
      have hsv : RowsKept s v := by cases hopen <;> exact .same rfl rfl rfl
      exact hsv.trans h.rowsKept
  | adjust _ h => cases h with
      | credit h => exact .same (by rw [h.frame]) (by rw [h.frame]) (by rw [h.frame])
      | debit h => exact .same (by rw [h.frame]) (by rw [h.frame]) (by rw [h.frame])
  | expireCredit h => exact .same (by rw [h.frame]) (by rw [h.frame]) (by rw [h.frame])
  | expireApprovals h => exact Lapsed.rowsKept h
  | completeDecision h | cleanup h | cleanupAnyEndpoint h | recordDuplicate h | administer h =>
      exact h.rowsKept

end rows

/-- **A run** keeps the captured rows. -/
theorem Steps.rowsKept {s t : System} (hs : Invariants s.db) (h : Steps rt s t) :
    RowsKept s.db t.db := by
  have hkeep : ∀ {u v : System} {op : Op}, Invariants u.db ∧ RowsKept s.db u.db →
      Step rt op u v → Invariants v.db ∧ RowsKept s.db v.db := by
    intro u v op ⟨hu, hrows⟩ hstep
    have hout := hstep.outcome hu.books.sound
    exact ⟨hu.outcome hout, hrows.trans hout.rowsKept⟩
  exact (h.invariant (I := fun u => Invariants u.db ∧ RowsKept s.db u.db)
    (fun _ hu hstep => hkeep hu hstep) ⟨hs, .same rfl rfl rfl⟩).2

end ShopcityLoyalty
