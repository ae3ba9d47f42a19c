import ShopcityLoyalty.Desk

/-!
Every committed operation is a sequence of moves at the desk.
-/

namespace ShopcityLoyalty

open Txn Database

variable {s t : Database} {rt : Runtime} {now : Int}

lemma Move.same (hr : t.receipts = s.receipts) (ha : t.approvals = s.approvals)
    (hd : t.redemptions = s.redemptions) (hl : t.ledger = s.ledger) : Move s t := by
  have hu : Unreceipted [] [] s t :=
    ⟨hr, ha, .inl hd, by rw [hl, List.append_nil], by simp, by simp, by simp, by simp⟩
  exact .unreceipted hu

lemma settlement_entries {input : RedemptionSettlementInput} {k : PositiveKobo}
    {es : List LoyaltyLedgerEntry}
    (h : es = [input.redeemEntry k] ∨ ∃ k', es = [input.redeemEntry k, input.earnEntry k']) :
    (∀ e ∈ es, e.receiptId = some input.receiptId ∧ e.reversesEntryId = none) ∧
      (es.map (·.type) = [.REDEEM] ∨ es.map (·.type) = [.REDEEM, .EARN]) := by
  rcases h with rfl | ⟨k', rfl⟩
  · exact ⟨by simp [RedemptionSettlementInput.redeemEntry], .inl rfl⟩
  · exact ⟨by simp [RedemptionSettlementInput.redeemEntry, RedemptionSettlementInput.earnEntry],
      .inr rfl⟩

/-! ### Captures -/

namespace LoyaltyService

variable {req : EarnRequest} {adm : EarnAdmission} {ctx : EarnContext} {amount : PositiveKobo}
  {res : EarnTransactionResponse}

lemma EarnCommitted.move (h : EarnCommitted rt req adm ctx amount now res s t) : Move s t := by
  cases h with
  | pending h =>
      have hc : Captured (earnReceipt rt req adm ctx amount now) []
          [earnApproval rt req adm s.receipts.length
            (rt.insertedAt .approvals s.approvals.length) now] [] s t := by
        refine ⟨?_, ?_, ?_, ?_, by simp, by simp, ?_, fun _ => ?_, .earn rfl rfl rfl⟩
        · rw [h.frame]
        · rw [h.frame, List.append_nil]
        · rw [h.frame]
        · rw [h.frame, List.append_nil]
        · simp [Approval.stateMachineCheck, earnApproval]
        · simp [earnReceipt, h.status]
      exact .captured hc
  | @credited k _ h =>
      have hc : Captured (earnReceipt rt req adm ctx amount now) [] []
          [earnLedgerEntry req ctx s.receipts.length k] s t := by
        refine ⟨?_, ?_, ?_, ?_, ?_, by simp, by simp, by simp, .direct⟩
        · rw [h.frame]
        · rw [h.frame, List.append_nil]
        · rw [h.frame, List.append_nil]
        · rw [h.frame]
        · simp [earnLedgerEntry]
      exact .captured hc

end LoyaltyService

namespace RedemptionsService

variable {req : RedeemRequest} {adm : RedeemAdmission} {ctx : RedeemContext} {a : RedeemAssessment}
  {res : RedeemTransactionResponse}

lemma RedeemCommitted.move (h : RedeemCommitted rt req adm ctx a now res s t) : Move s t := by
  cases h with
  | pending h =>
      have hc : Captured (redeemReceipt req adm ctx a now)
          [redeemRedemption req adm ctx a s.receipts.length now]
          [redeemApproval req a s.redemptions.length
            (rt.insertedAt .approvals s.approvals.length) now] [] s t := by
        refine ⟨?_, ?_, ?_, ?_, by simp, ?_, ?_, fun _ => ?_, .redeem rfl rfl rfl rfl rfl⟩
        · rw [h.frame]
        · rw [h.frame]
        · rw [h.frame]
        · rw [h.frame, List.append_nil]
        · simp [redeemRedemption, Redemption.stateMachineCheck]
        · simp [Approval.stateMachineCheck, redeemApproval]
        · simp [redeemReceipt, h.requiresApproval]
      exact .captured hc
  | @settled k x rows y v m u w h =>
      obtain ⟨es, hes, hkinds⟩ := h.settlement.ledger
      have hx : x = redeemRedemption req adm ctx a s.receipts.length now := by
        have hrow := h.settlement.redemption
        rw [h.captured] at hrow
        exact (Option.some.inj ((Table.getElem?_insert_self ..).symm.trans hrow)).symm
      set input := requestedSettlement req adm ctx a s.receipts.length s.redemptions.length now
        with hinput
      have hc : Captured (redeemReceipt req adm ctx a now) [input.confirmed v.ledger.length x] []
          es s t := by
        refine ⟨?_, ?_, ?_, ?_, (settlement_entries hkinds).1, ?_, by simp, by simp, .direct⟩
        · rw [h.frame]
          change w.receipts = _
          rw [h.settlement.receipts, h.captured]
        · rw [h.frame]
          change w.redemptions = _
          rw [h.settlement.redemptions, h.captured]
          exact Table.set_insert_self ..
        · rw [h.frame, List.append_nil]
          change w.approvals = _
          rw [h.settlement.approvals, h.captured]
        · rw [h.frame]
          change w.ledger = _
          rw [hes, h.captured]
        · intro d hd
          obtain rfl := List.mem_singleton.1 hd
          refine ⟨?_, h.settlement.stateMachine⟩
          rw [hx]
          rfl
      exact .captured hc

end RedemptionsService

/-! ### Decisions and expiries -/

lemma decided_check {req : DecisionRequest} {status : ApprovalStatus} {a : Approval}
    (ha : a.status = .PENDING) (hc : a.stateMachineCheck) (hs : status = .REJECTED) :
    (LoyaltyService.decided req status now a).stateMachineCheck := by
  simp only [Approval.stateMachineCheck, ha] at hc
  simp [Approval.stateMachineCheck, LoyaltyService.decided, hs, hc.2.2.2]

lemma executed_check {req : DecisionRequest} {a : Approval} :
    (LoyaltyService.executed now
      (LoyaltyService.decided req .APPROVED now a)).stateMachineCheck := by
  simp [Approval.stateMachineCheck, LoyaltyService.executed, LoyaltyService.decided]

/-- An approval that lapses is decided, with nothing on its receipt. -/
lemma Lapsed.move (h : Lapsed now s t) : Move s t := by
  obtain ⟨i, a, m, hx⟩ := h
  obtain ⟨ha, ⟨-, hp⟩, hcheck, htar, hframe⟩ := hx
  have hrest : t.approvals = m.approvals ∧ t.receipts = m.receipts ∧
      t.redemptions = m.redemptions ∧ t.ledger = m.ledger := by rw [hframe]; simp
  generalize hr : redemptionReceiptId s a.tenantId a.target = rid at htar
  generalize htg : a.target = target at htar
  cases htar with
  | @earn receiptId _ r hrec hpend =>
      have hc : Decided i a (expiredRow now none a) receiptId r (rejectedRow now none r)
          [] s t := by
        refine ⟨ha, hp, ⟨rfl, rfl⟩,
          hcheck, by rw [htg]; rfl, hrec, ⟨rfl, rfl, rfl⟩, hrest.1, hrest.2.1, ?_,
          by rw [hrest.2.2.2, List.append_nil], by simp, ?_⟩
        · rw [htg]
          exact .earn hrest.2.2.1
        · rw [htg]
          exact .expiredEarn
      exact .decided hc
  | @redeem redemptionId receiptId r d hrec hpend hd hwait hsm =>
      rw [htg] at hr
      obtain ⟨d', hd', hrid⟩ := Option.map_eq_some_iff.1 hr
      obtain rfl : d = d' := Option.some.inj (hd.symm.trans (Option.filter_eq_some_iff.1 hd').1)
      have hset : t.redemptions = s.redemptions.set redemptionId (expiredRedemptionRow now d) :=
        hrest.2.2.1
      have hc : Decided i a (expiredRow now none a) receiptId r (rejectedRow now none r)
          [] s t := by
        refine ⟨ha, hp, ⟨rfl, rfl⟩, hcheck, ?_, hrec, ⟨rfl, rfl, rfl⟩, hrest.1, hrest.2.1, ?_,
          by rw [hrest.2.2.2, List.append_nil], by simp, ?_⟩
        · rw [htg, receiptIdOf, show s.redemptions[redemptionId]? = some d from hd, Option.map_some,
            hrid]
        · rw [htg]
          exact .redeem hd hset hsm ⟨rfl, rfl⟩
        · rw [htg, Database.redemptionOf, hset,
            List.getElem?_set_self (Table.lt_of_getElem? hd)]
          exact .expiredRedeem
      exact .decided hc
  | @alone redemptionId d hd hwait hsm =>
      rw [htg] at hr
      have hnone : (s.redemptions[redemptionId]?.filter fun r => r.tenantId = a.tenantId) = none :=
        Option.map_eq_none_iff.1 hr
      rw [show s.redemptions[redemptionId]? = some d from hd, Option.filter_some] at hnone
      simp [hwait.1] at hnone

lemma Lapsed.moves (h : Relation.ReflTransGen (Lapsed now) s t) :
    Relation.ReflTransGen Move s t :=
  Relation.ReflTransGen.mono (fun _ _ => Lapsed.move) _ _ h

namespace LoyaltyService

variable {req : DecisionRequest} {a : Approval} {res : DecisionResult}

lemma EarnDecided.move (hd : Desk s) (h0 : LoyaltyService.Decidable req a s) {receiptId : Nat}
    (htar : a.target = .EARN receiptId) (h : EarnDecided rt req a receiptId now s t res) :
    Move s t := by
  have hcheck := hd.approval a (List.mem_of_getElem? h0.approval)
  cases h with
  | expired h => exact (h.lapsed (by rw [htar]; rfl)).move
  | @rejected r h =>
      have hc : Decided req.approvalId a (decided req .REJECTED now a) receiptId r
          (reviewed req .REJECTED now r) [] s t := by
        refine ⟨h0.approval, h0.pending, ⟨rfl, rfl⟩, decided_check h0.pending hcheck rfl,
          by rw [htar]; rfl, h.receipt, ⟨rfl, rfl, rfl⟩, ?_, ?_, ?_, ?_, by simp, ?_⟩
        · rw [h.frame]
        · rw [h.frame]
        · rw [htar]
          exact .earn (by rw [h.frame])
        · rw [h.frame, List.append_nil]
        · rw [htar]
          exact .rejectedEarn
      exact .decided hc
  | @executed r k l h =>
      have hc : Decided req.approvalId a (LoyaltyService.executed now (decided req .APPROVED now a))
          receiptId r
          (reviewed req .APPROVED now r) [approvedLedgerEntry req receiptId r k] s t := by
        refine ⟨h0.approval, h0.pending, ⟨rfl, rfl⟩, executed_check, by rw [htar]; rfl, h.receipt,
          ⟨rfl, rfl, rfl⟩, ?_, ?_, ?_, ?_, by simp [approvedLedgerEntry], ?_⟩
        · rw [h.frame]
        · rw [h.frame]
        · rw [htar]
          exact .earn (by rw [h.frame])
        · rw [h.frame]
        · rw [htar]
          exact .executedEarn
      exact .decided hc

lemma RedeemDecided.move (hd : Desk s) (h0 : LoyaltyService.Decidable req a s) {redemptionId : Nat}
    {d : Redemption} (htar : a.target = .REDEEM redemptionId)
    (hrow : s.redemptions[redemptionId]? = some d) (hten : d.tenantId = a.tenantId)
    (h : RedeemDecided rt req a redemptionId d now s t res) : Move s t := by
  have hcheck := hd.approval a (List.mem_of_getElem? h0.approval)
  have hsub : s.receiptIdOf a.target = some d.receiptId := by
    rw [htar, receiptIdOf, hrow, Option.map_some]
  have hlt := Table.lt_of_getElem? hrow
  cases h with
  | expired h =>
      refine (h.lapsed ?_).move
      rw [htar, redemptionReceiptId, hrow, Option.filter_some, if_pos (by simpa using hten),
        Option.map_some]
  | @rejected r h =>
      have hset : t.redemptions = s.redemptions.set redemptionId (rejectedRedemption now d) := by
        rw [h.frame]
      have hc : Decided req.approvalId a (decided req .REJECTED now a) d.receiptId r
          (reviewed req .REJECTED now r) [] s t := by
        refine ⟨h0.approval, h0.pending, ⟨rfl, rfl⟩, decided_check h0.pending hcheck rfl, hsub,
          h.receipt, ⟨rfl, rfl, rfl⟩, ?_, ?_, ?_, ?_, by simp, ?_⟩
        · rw [h.frame]
        · rw [h.frame]
        · rw [htar]
          exact .redeem hrow hset h.stateMachine ⟨rfl, rfl⟩
        · rw [h.frame, List.append_nil]
        · rw [htar, Database.redemptionOf, hset, List.getElem?_set_self hlt]
          exact .rejectedRedeem
      exact .decided hc
  | @executed r k rows x v m u w h =>
      obtain ⟨es, hes, hkinds⟩ := h.settlement.ledger
      obtain ⟨hentries, htypes⟩ := settlement_entries hkinds
      set input := approvedSettlement rt s req redemptionId d r now with hinput
      have hset : t.redemptions =
          s.redemptions.set redemptionId (input.confirmed v.ledger.length d) := by
        rw [h.frame]
        change w.redemptions = _
        rw [h.settlement.redemptions, h.approved]
        rfl
      have hc : Decided req.approvalId a (LoyaltyService.executed now (decided req .APPROVED now a))
          d.receiptId r (reviewed req .APPROVED now r) es s t := by
        refine ⟨h0.approval, h0.pending, ⟨rfl, rfl⟩, executed_check, hsub, h.receipt,
          ⟨rfl, rfl, rfl⟩, ?_, ?_, ?_, ?_, hentries, ?_⟩
        · rw [h.frame]
          change w.approvals.set _ _ = _
          rw [h.settlement.approvals, h.approved, List.set_set]
        · rw [h.frame]
          change w.receipts.set _ _ = _
          rw [h.settlement.receipts, h.approved]
        · rw [htar]
          exact .redeem hrow hset h.settlement.stateMachine ⟨rfl, rfl⟩
        · rw [h.frame]
          change w.ledger = _
          rw [hes, h.approved]
        · rw [htar, Database.redemptionOf, hset, List.getElem?_set_self hlt]
          exact .executedRedeem (.inl rfl) htypes
      exact .decided hc

/-- **A decision** is one move of the approval it decides. -/
lemma TargetDecided.move (hd : Desk s) (h0 : LoyaltyService.Decidable req a s)
    (h : TargetDecided rt req a now s t res) : Move s t := by
  cases h with
  | earn htar h => exact h.move hd h0 htar
  | redeem htar hrow hten h => exact h.move hd h0 htar hrow hten

end LoyaltyService

/-! ### Reversals -/

namespace ReversalsService

variable {input : ReversalInput} {o : LoyaltyLedgerEntry} {finishedAt : Int}

lemma Marked.redemptions {tenantId : String} {entryId : Nat} (h : Marked tenantId entryId now s t) :
    t.redemptions = s.redemptions ∨ ∃ (j : Nat) (d d' : Redemption), s.redemptions[j]? = some d ∧
      d.ledgerEntryId ≠ none ∧ d'.status = .REVERSED ∧ d'.tenantId = d.tenantId ∧
      d'.receiptId = d.receiptId ∧ d'.stateMachineCheck ∧
      t.redemptions = s.redemptions.set j d' := by
  cases h with
  | nothing => exact .inl rfl
  | @redemption j d hrow hent _ hsm =>
      exact .inr ⟨j, d, reversedRedemption now d, hrow, by rw [hent]; simp, rfl, rfl, rfl, hsm, rfl⟩

lemma Alone.closed (h : Alone input o s) (ho : s.ledger[input.transactionId]? = some o) :
    ∀ i ∈ [input.transactionId], ∀ x k, s.ledger[i]? = some x → x.receiptId = some k →
      ∀ (j : Nat) y, s.ledger[j]? = some y → y.receiptId = some k → j ∈ [input.transactionId] := by
  intro i hi x k hx hk j y hy hyk
  obtain rfl := List.mem_singleton.1 hi
  obtain rfl : o = x := Option.some.inj (ho.symm.trans hx)
  rw [List.mem_singleton]
  by_contra hne
  exact h k (by simp [receiptOf, hk]) ⟨(j, y), mem_receiptEffects.2 ⟨hy, hyk⟩, hne⟩

lemma CreditReversed.move {lotId : Nat} {k : PositiveKobo} {l : CreditLot}
    {row : RedemptionAllocation} {res : ReversalResponse} {m : Database}
    (ho : s.ledger[input.transactionId]? = some o) (halone : Alone input o s)
    (h : CreditReversed input o lotId k l row now finishedAt res m s t) : Move s t := by
  have hc : Unreceipted [input.transactionId] [compensatingEntry input o.customerId
      input.transactionId k (.request input.requestHash) now] s t := by
    have hframe := h.completed
    rw [Completed, h.compensated.frame] at hframe
    refine ⟨?_, ?_, .inl ?_, ?_, by simp [compensatingEntry], ?_, ?_, halone.closed ho⟩
    · rw [hframe]
    · rw [hframe]
    · rw [hframe]
    · rw [hframe]
    · simp [compensatingEntry, eq_comm]
    · simpa using Table.lt_of_getElem? ho
  exact .unreceipted hc

lemma DebitReversed.move {k : PositiveKobo} {planned : List PlannedRestoration}
    {rows : List AllocationRestoration} {res : ReversalResponse} {m w : Database}
    (ho : s.ledger[input.transactionId]? = some o) (halone : Alone input o s)
    (h : DebitReversed input o k planned rows now finishedAt res m w s t) : Move s t := by
  have hframe := h.completed
  rw [Completed, h.marked.frame] at hframe
  have hm := h.restored.frame
  have hc : Unreceipted [input.transactionId] [restoringEntry input o.customerId
      input.transactionId k (.request input.requestHash) now] s t := by
    refine ⟨?_, ?_, ?_, ?_, by simp [restoringEntry], ?_, ?_, halone.closed ho⟩
    · rw [hframe, hm]
    · rw [hframe, hm]
    · have hmarked := h.marked.redemptions
      rw [hm] at hmarked
      rw [hframe]
      exact hmarked
    · rw [hframe, hm]
    · simp [restoringEntry, eq_comm]
    · simpa using Table.lt_of_getElem? ho
  exact .unreceipted hc

lemma mem_of_length_two {α : Type} {l : List α} {a b c : α} (hl : l.length = 2) (ha : a ∈ l)
    (hb : b ∈ l) (hab : a ≠ b) (hc : c ∈ l) : c = a ∨ c = b := by
  obtain ⟨x, y, rfl⟩ := List.length_eq_two.1 hl
  simp only [List.mem_cons, List.not_mem_nil, or_false] at ha hb hc
  grind

lemma FoundPair.entries {receiptId : Nat} {p : SettlementPair} (h : FoundPair input receiptId p s)
    {j : Nat} {x : LoyaltyLedgerEntry} (hx : s.ledger[j]? = some x)
    (hr : x.receiptId = some receiptId) : j = p.earnId ∨ j = p.redeemId := by
  have he := mem_receiptEffects.2 h.earn
  have hd := mem_receiptEffects.2 h.redeem
  have hne : (p.earnId, p.earn) ≠ (p.redeemId, p.redeem) := by
    intro heq
    have hearn := h.earn_kind.1
    rw [(Prod.mk.inj heq).2, h.redeem_kind.1] at hearn
    cases hearn
  rcases mem_of_length_two h.pair.1 he hd hne (mem_receiptEffects.2 ⟨hx, hr⟩) with heq | heq
  · exact .inl (Prod.mk.inj heq).1
  · exact .inr (Prod.mk.inj heq).1

lemma PairReversed.move {receiptId : Nat} {p : SettlementPair} {lotId : Nat} {l : CreditLot}
    {row : RedemptionAllocation} {planned : List PlannedRestoration}
    {rows : List AllocationRestoration} {res : ReversalResponse} {m u w : Database}
    (hp : FoundPair input receiptId p s)
    (h : PairReversed input p lotId l row planned rows now finishedAt res m u w s t) :
    Move s t := by
  have hframe := h.completed
  rw [Completed, h.marked.frame] at hframe
  have hm := h.compensated.frame
  have hu := h.restored.frame
  have hc : Unreceipted [p.earnId, p.redeemId] [compensatingEntry input p.earn.customerId p.earnId
      p.earn.amountKobo (.earnReversal input.requestHash) now, restoringEntry input
      p.redeem.customerId p.redeemId p.redeem.amountKobo (.redeemReversal input.requestHash) now]
      s t := by
    refine ⟨?_, ?_, ?_, ?_, by simp [compensatingEntry, restoringEntry], fun i => ?_, ?_,
      fun i hi o k ho hk j x hx hxk => ?_⟩
    · rw [hframe, hu, hm]
    · rw [hframe, hu, hm]
    · have hmarked := h.marked.redemptions
      rw [hu, hm] at hmarked
      rw [hframe]
      exact hmarked
    · rw [hframe, hu, hm]
      simp
    · simp [compensatingEntry, restoringEntry, eq_comm]
    · simpa using ⟨Table.lt_of_getElem? hp.earn.1, Table.lt_of_getElem? hp.redeem.1⟩
    · have hrec : k = receiptId := by
        simp only [List.mem_cons, List.not_mem_nil, or_false] at hi
        rcases hi with rfl | rfl
        · obtain rfl := Option.some.inj (hp.earn.1.symm.trans ho)
          exact Option.some.inj (hk.symm.trans hp.earn.2)
        · obtain rfl := Option.some.inj (hp.redeem.1.symm.trans ho)
          exact Option.some.inj (hk.symm.trans hp.redeem.2)
      simpa using hp.entries hx (hrec ▸ hxk)
  exact .unreceipted hc

/-- **A reversal** is one move. -/
lemma ReverseCommitted.move {existing : Option Response} {res : Response}
    (ho : s.ledger[input.transactionId]? = some o)
    (h : ReverseCommitted input o now finishedAt existing s t res) : Move s t := by
  cases h with
  | credit _ halone _ h => exact h.move ho halone
  | debit _ halone _ h => exact h.move ho halone
  | pair _ _ hp h =>
      cases h with
      | reversed _ h => exact h.move hp
      | replayed hs _ _ => exact .same (by rw [hs]) (by rw [hs]) (by rw [hs]) (by rw [hs])
  | replayed _ _ hs => exact .same (by rw [hs]) (by rw [hs]) (by rw [hs]) (by rw [hs])

end ReversalsService

/-! ### Adjustments and expired credit -/

lemma AdjustmentsService.AdjustmentCommitted.move {req : AdjustmentRequest} {finishedAt : Int}
    {res : AdjustmentResponse}
    (h : AdjustmentsService.AdjustmentCommitted req finishedAt res s t) : Move s t := by
  have hc : Unreceipted [] [adjustmentEntry req] s t := by
    cases h with
    | credit h => rw [h.frame]; exact ⟨rfl, rfl, .inl rfl, rfl, by simp [adjustmentEntry],
        by simp [adjustmentEntry], by simp, by simp⟩
    | debit h => rw [h.frame]; exact ⟨rfl, rfl, .inl rfl, rfl, by simp [adjustmentEntry],
        by simp [adjustmentEntry], by simp, by simp⟩
  exact .unreceipted hc

namespace CreditExpiryService

lemma ledger_of_expired {b c : Books} (h : Relation.ReflTransGen ExpiryPosted b c) :
    ∃ es, c.ledger = b.ledger ++ es ∧
      ∀ e ∈ es, e.type = .EXPIRY ∧ e.receiptId = none ∧ e.reversesEntryId = none := by
  induction h with
  | refl => exact ⟨[], by simp, by simp⟩
  | tail _ hp ih =>
      obtain ⟨es, hes, hall⟩ := ih
      obtain ⟨e, x, hp⟩ := hp
      refine ⟨es ++ [e], by rw [hp.books, hes, List.append_assoc], fun e' he' => ?_⟩
      rcases List.mem_append.1 he' with he' | he'
      · exact hall e' he'
      · obtain rfl := List.mem_singleton.1 he'
        exact ⟨hp.type, hp.receiptId, hp.reversesEntryId⟩

lemma Expired.move (h : Expired s t) : Move s t := by
  obtain ⟨es, hes, hall⟩ := ledger_of_expired h.postings
  have hc : Unreceipted [] es s t := by
    refine ⟨by rw [h.frame], by rw [h.frame], .inl (by rw [h.frame]), hes,
      fun e he => (hall e he).2.1, fun i => ?_, by simp, by simp⟩
    simp only [List.not_mem_nil, iff_false, not_exists, not_and]
    intro e he hr
    rw [(hall e he).2.2] at hr
    cases hr
  exact .unreceipted hc

end CreditExpiryService

end ShopcityLoyalty
