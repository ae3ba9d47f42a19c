import ShopcityLoyalty.Invariants
import ShopcityLoyalty.Lib.Owners

/-!
Tenants in a run: what one tenant's staff commit leaves the rows of every other tenant as they
were.
-/

namespace ShopcityLoyalty

open Txn Database

/-- Only a tenant's rows of the books change. -/
structure Books.Touches (tenantId : String) (b c : Books) : Prop where
  ledger : Table.OnlyOf (·.tenantId) tenantId b.ledger c.ledger
  lots : Table.OnlyOf (·.tenantId) tenantId b.lots c.lots
  expiries : Table.OnlyOf (·.tenantId) tenantId b.expiries c.expiries
  allocations : Table.OnlyOf (·.tenantId) tenantId b.allocations c.allocations
  restorations : Table.OnlyOf (·.tenantId) tenantId b.restorations c.restorations
  adjustments : Table.OnlyOf (·.tenantId) tenantId b.adjustments c.adjustments

/-- Only a tenant's rows and records change. -/
structure Touches (tenantId : String) (s t : Database) : Prop where
  books : s.books.Touches tenantId t.books
  receipts : Table.OnlyOf (·.tenantId) tenantId s.receipts t.receipts
  redemptions : Table.OnlyOf (·.tenantId) tenantId s.redemptions t.redemptions
  approvals : Table.OnlyOf (·.tenantId) tenantId s.approvals t.approvals
  idempotency : ∀ key : IdempotencyKey, key.tenantId ≠ tenantId →
    t.idempotency key = s.idempotency key

/-! ### The books -/

section books

variable {b c d : Books} {e : LoyaltyLedgerEntry} {tenantId : String}

lemma Books.Touches.refl (b : Books) : b.Touches tenantId b :=
  ⟨.refl, .refl, .refl, .refl, .refl, .refl⟩

lemma Books.Touches.trans (h : b.Touches tenantId c) (h' : c.Touches tenantId d) :
    b.Touches tenantId d :=
  ⟨h.1.trans h'.1, h.2.trans h'.2, h.3.trans h'.3, h.4.trans h'.4, h.5.trans h'.5,
    h.6.trans h'.6⟩

lemma SameLot.eq {l l' : CreditLot} (h : SameLot l l')
    (hrem : l'.remainingAmountKobo = l.remainingAmountKobo) : l' = l := by
  obtain ⟨h1, h2, h3, h4, h5, h6⟩ := h
  cases l
  cases l'
  simp_all

lemma Moved.onlyOf {δ : Nat → Int} {ls ls' : Table CreditLot} (h : Moved δ ls ls')
    (hδ : ∀ {i l}, ls[i]? = some l → l.tenantId ≠ tenantId → δ i = 0) :
    Table.OnlyOf (·.tenantId) tenantId ls ls' := by
  intro i l hl
  constructor
  · intro hi
    obtain ⟨m, hm, hsame, hrem⟩ := h.lot_before hi
    rw [hδ hm (hsame.tenantId ▸ hl), add_zero] at hrem
    rwa [hsame.eq hrem]
  · intro hi
    obtain ⟨m, hm, hsame, hrem⟩ := h.lot hi
    rw [hδ hi hl, add_zero] at hrem
    rwa [hsame.eq hrem] at hm

lemma Backed.owned {onReceipt : LedgerEntryType} {entryId : Nat} {as : List Adjustment}
    (h : Backed onReceipt entryId e as) : ∀ a ∈ as, a.tenantId = e.tenantId := by
  cases h with
  | receipt => simp
  | adjustment _ _ hrow => simpa using hrow.tenantId

lemma CreditPosting.touches {l : CreditLot} {as : List Adjustment}
    (h : CreditPosting e l as b c) : b.Touches e.tenantId c := by
  rw [h.books]
  exact ⟨.insert rfl, .insert h.lot.tenantId, .refl, .refl, .refl,
    .append h.backed.owned⟩

lemma DebitPosting.touches {rows : List RedemptionAllocation} {target : DebitTarget}
    {as : List Adjustment} (h : DebitPosting e rows target as b c) : b.Touches e.tenantId c := by
  have hlots : Table.OnlyOf (·.tenantId) e.tenantId b.lots c.lots := by
    refine h.moved.onlyOf fun {i l} hl hother => ?_
    rw [neg_eq_zero]
    refine Table.tally_eq_zero fun r hr hri => hother ?_
    obtain ⟨m, hm, hten, -⟩ := h.onLots r hr
    rw [hri, hl] at hm
    rwa [Option.some.inj hm]
  rw [h.books]
  exact ⟨.insert rfl, hlots, .refl, .append fun r hr => (h.each r hr).1, .refl,
    .append h.backed.owned⟩

lemma RestorePosting.touches {debitEntryId : Nat} {rows : List AllocationRestoration}
    (h : RestorePosting e debitEntryId rows b c) (hs : b.Sound) : b.Touches e.tenantId c := by
  obtain ⟨o, ho, -, -, hten, -⟩ := h.debit
  have hlots : Table.OnlyOf (·.tenantId) e.tenantId b.lots c.lots := by
    refine h.moved.onlyOf fun {i l} hl hother => ?_
    refine Table.tally_eq_zero fun r hr hri => hother ?_
    obtain ⟨-, -, a, ha, hdebit, -⟩ := h.each r hr
    obtain ⟨a', ha', rfl⟩ := hri
    obtain rfl : a = a' := Option.some.inj (ha.symm.trans ha')
    obtain ⟨x, m, hx⟩ := hs.allocation ha
    have hentry := hx.entry
    have hlot := hx.lot
    rw [hdebit, ho] at hentry
    rw [hl] at hlot
    rw [Option.some.inj hlot, hx.lot_tenantId, ← Option.some.inj hentry, hten]
  rw [h.books]
  exact ⟨.insert rfl, hlots, .refl, .refl, .append fun r hr => (h.each r hr).1, .refl⟩

end books

/-! ### Composition -/

section touches

variable {s t u v : Database} {tenantId : String}

lemma Touches.refl (s : Database) : Touches tenantId s s :=
  ⟨.refl _, .refl, .refl, .refl, fun _ _ => rfl⟩

lemma Touches.trans (h : Touches tenantId s t) (h' : Touches tenantId t u) :
    Touches tenantId s u :=
  ⟨h.books.trans h'.books, h.receipts.trans h'.receipts, h.redemptions.trans h'.redemptions,
    h.approvals.trans h'.approvals,
    fun key hkey => (h'.idempotency key hkey).trans (h.idempotency key hkey)⟩

lemma Touches.posted (h : s.books.Touches tenantId t.books) (hr : t.receipts = s.receipts)
    (hd : t.redemptions = s.redemptions) (ha : t.approvals = s.approvals)
    (hi : t.idempotency = s.idempotency) : Touches tenantId s t :=
  ⟨h, hr ▸ .refl, hd ▸ .refl, ha ▸ .refl, fun _ _ => by rw [hi]⟩

lemma update_other {key other : IdempotencyKey}
    {f : IdempotencyKey → Option (IdempotencyRecord Response)}
    {r : Option (IdempotencyRecord Response)} (hkey : key.tenantId = tenantId)
    (hother : other.tenantId ≠ tenantId) : Function.update f key r other = f other :=
  by
  refine Function.update_of_ne ?_ _ _
  rintro rfl
  exact hother hkey

lemma Earned.touches {input : RedemptionSettlementInput} {earnedKobo : Int} {i : Option Nat}
    (h : Earned input earnedKobo s t i) : s.books.Touches input.tenantId t.books := by
  cases h with
  | nothing _ hf => rw [hf]; exact .refl _
  | credit _ hp _ => exact hp.touches

lemma Settled.touches {input : RedemptionSettlementInput} {k : PositiveKobo} {r : Redemption}
    {rows : List RedemptionAllocation} {m : Database} {res : RedemptionSettlementResult}
    (h : Settled input k r rows m u res s t) (hten : r.tenantId = input.tenantId) :
    Touches input.tenantId s t := by
  have hbooks : t.books = u.books := by rw [h.frame]; rfl
  refine ⟨hbooks ▸ h.debit.touches.trans h.earned.touches, ?_, ?_, ?_, ?_⟩
  · rw [h.receipts]; exact .refl
  · rw [h.redemptions]; exact .set h.redemption hten hten
  · rw [h.approvals]; exact .refl
  · intro key _; rw [h.idempotency]

end touches

/-! ### What a request touches -/

section requests

variable {rt : Runtime} {now finishedAt : Int} {s t : Database}

open LoyaltyService in
lemma LoyaltyService.EarnCommitted.touches {req : EarnRequest} {adm : EarnAdmission}
    {ctx : EarnContext} {amount : PositiveKobo} {res : EarnTransactionResponse}
    (h : EarnCommitted rt req adm ctx amount now res s t) :
    Touches req.actor.tenantId s t := by
  cases h with
  | pending h =>
      have hbooks : t.books = s.books := by rw [h.frame]; rfl
      refine ⟨hbooks ▸ .refl _, ?_, ?_, ?_, fun key hkey => ?_⟩ <;> rw [h.frame]
      · exact .insert rfl
      · exact .refl
      · exact .insert rfl
      · exact update_other rfl hkey
  | credited h =>
      refine ⟨h.posting.touches, ?_, ?_, ?_, fun key hkey => ?_⟩ <;> rw [h.frame]
      · exact .insert rfl
      · exact .refl
      · exact .refl
      · exact update_other rfl hkey

open RedemptionsService in
lemma RedemptionsService.RedeemCommitted.touches {req : RedeemRequest} {adm : RedeemAdmission}
    {ctx : RedeemContext} {a : RedeemAssessment} {res : RedeemTransactionResponse}
    (h : RedeemCommitted rt req adm ctx a now res s t) : Touches req.actor.tenantId s t := by
  cases h with
  | pending h =>
      have hbooks : t.books = s.books := by rw [h.frame]; rfl
      refine ⟨hbooks ▸ .refl _, ?_, ?_, ?_, fun key hkey => ?_⟩ <;> rw [h.frame]
      · exact .insert rfl
      · exact .insert rfl
      · exact .insert rfl
      · exact update_other rfl hkey
  | @settled k r rows x v m u w h =>
      have hcaptured : Touches req.actor.tenantId s v := by
        have hbooks : v.books = s.books := by rw [h.captured]; rfl
        refine ⟨hbooks ▸ .refl _, ?_, ?_, ?_, fun key _ => ?_⟩ <;> rw [h.captured]
        · exact .insert rfl
        · exact .insert rfl
        · exact .refl
      have hrow : r.tenantId = req.actor.tenantId := by
        have hr := h.settlement.redemption
        rw [h.captured] at hr
        have hself := (Table.getElem?_insert_self ..).symm.trans hr
        rw [← Option.some.inj hself]
        rfl
      have hsettled : Touches req.actor.tenantId v w := h.settlement.touches hrow
      refine (hcaptured.trans hsettled).trans ?_
      have hbooks : t.books = w.books := by rw [h.frame]; rfl
      refine ⟨hbooks ▸ .refl _, ?_, ?_, ?_, fun key hkey => ?_⟩ <;> rw [h.frame]
      · exact .refl
      · exact .refl
      · exact .refl
      · exact update_other rfl hkey

open AdjustmentsService in
lemma AdjustmentsService.AdjustmentCommitted.touches {req : AdjustmentRequest}
    {res : AdjustmentResponse} (h : AdjustmentCommitted req finishedAt res s t) :
    Touches req.actor.tenantId s t := by
  cases h with
  | credit h =>
      refine ⟨h.posting.touches, ?_, ?_, ?_, fun key hkey => ?_⟩ <;> rw [h.frame]
      · exact .refl
      · exact .refl
      · exact .refl
      · exact update_other rfl hkey
  | debit h =>
      refine ⟨h.posting.touches, ?_, ?_, ?_, fun key hkey => ?_⟩ <;> rw [h.frame]
      · exact .refl
      · exact .refl
      · exact .refl
      · exact update_other rfl hkey

/-! ### Decisions and expiries of approvals -/

lemma TargetExpired.touches {tenantId : String} {actor : Option StaffRef} {target : ApprovalTarget}
    {receiptId : Option Nat} (h : TargetExpired tenantId now actor s target receiptId t) :
    Touches tenantId s t := by
  cases h with
  | earn hr hp => exact ⟨.refl _, .set hr hp.1 hp.1, .refl, .refl, fun _ _ => rfl⟩
  | redeem hr hp hd hw _ =>
      exact ⟨.refl _, .set hr hp.1 hp.1, .set hd hw.1 hw.1, .refl, fun _ _ => rfl⟩
  | alone hd hw _ => exact ⟨.refl _, .refl, .set hd hw.1 hw.1, .refl, fun _ _ => rfl⟩

lemma ApprovalExpired.touches {i : Nat} {a : Approval} {tenantId : String} {target : ApprovalTarget}
    {receiptId : Option Nat} {actor : Option StaffRef} {m : Database}
    (h : ApprovalExpired i a tenantId target receiptId now actor m s t) :
    Touches tenantId s t := by
  have hrow : Touches tenantId s
      { s with approvals := s.approvals.set i (expiredRow now actor a) } :=
    ⟨.refl _, .refl, .refl, .set h.approval h.pending.1 h.pending.1, fun _ _ => rfl⟩
  have hlast : Touches tenantId m t := by
    rw [h.frame]
    exact ⟨.refl _, .refl, .refl, .refl, fun _ _ => rfl⟩
  exact (hrow.trans h.target.touches).trans hlast

namespace LoyaltyService

variable {req : DecisionRequest} {a : Approval} {res : DecisionResult}

lemma FoundExpired.touches {receiptId : Option Nat} (h : FoundExpired req a receiptId now s t) :
    Touches a.tenantId s t := by
  obtain ⟨m, hexpired⟩ := h.expired
  exact hexpired.touches

lemma receipt_tenantId (hdesk : Desk s) (hdec : LoyaltyService.Decidable req a s) {k : Nat}
    {r : Receipt} (hsubject : s.receiptIdOf a.target = some k) (hr : s.receipts[k]? = some r) :
    r.tenantId = a.tenantId := by
  obtain ⟨j, x, hfile⟩ := hdesk.file hdec.approval
  obtain rfl : j = k := Option.some.inj (hfile.subject.symm.trans hsubject)
  obtain rfl : x = r := Option.some.inj (hfile.receipt.symm.trans hr)
  exact hfile.tenantId

lemma EarnDecided.touches {receiptId : Nat} (h : EarnDecided rt req a receiptId now s t res)
    (hdesk : Desk s) (hdec : LoyaltyService.Decidable req a s)
    (htarget : a.target = .EARN receiptId) : Touches req.actor.tenantId s t := by
  have hten := hdec.tenantId
  have hsubject : s.receiptIdOf a.target = some receiptId := by rw [htarget]; rfl
  cases h with
  | expired h => exact hten ▸ h.touches
  | @rejected r h =>
      have hrow := (receipt_tenantId hdesk hdec hsubject h.receipt).trans hten
      rw [h.frame]
      exact ⟨.refl _, .set h.receipt hrow hrow, .refl, .set hdec.approval hten hten, fun _ _ => rfl⟩
  | @executed r k l h =>
      have hrow := (receipt_tenantId hdesk hdec hsubject h.receipt).trans hten
      refine ⟨h.posting.touches, ?_, ?_, ?_, fun _ _ => ?_⟩ <;> rw [h.frame]
      · exact .set h.receipt hrow hrow
      · exact .refl
      · exact .set hdec.approval hten hten

lemma RedeemDecided.touches {redemptionId : Nat} {d : Redemption}
    (h : RedeemDecided rt req a redemptionId d now s t res) (hdesk : Desk s)
    (hdec : LoyaltyService.Decidable req a s) (htarget : a.target = .REDEEM redemptionId)
    (hd : s.redemptions[redemptionId]? = some d) (hdten : d.tenantId = a.tenantId) :
    Touches req.actor.tenantId s t := by
  have hten := hdec.tenantId
  have hown := hdten.trans hten
  have hsubject : s.receiptIdOf a.target = some d.receiptId := by
    rw [htarget]
    simp [Database.receiptIdOf, hd]
  cases h with
  | expired h => exact hten ▸ h.touches
  | @rejected r h =>
      have hrow := (receipt_tenantId hdesk hdec hsubject h.receipt).trans hten
      rw [h.frame]
      exact ⟨.refl _, .set h.receipt hrow hrow, .set hd hown hown, .set hdec.approval hten hten,
        fun _ _ => rfl⟩
  | @executed r k rows x v m u w h =>
      have hrow := (receipt_tenantId hdesk hdec hsubject h.receipt).trans hten
      have happroved : Touches req.actor.tenantId s v := by
        rw [h.approved]
        exact ⟨.refl _, .refl, .refl, .set hdec.approval hten hten, fun _ _ => rfl⟩
      have hsettled : Touches req.actor.tenantId v w := h.settlement.touches hown
      refine (happroved.trans hsettled).trans ?_
      have hreceipt : w.receipts[d.receiptId]? = some r := by
        rw [h.settlement.receipts, h.approved]
        exact h.receipt
      have happroval : w.approvals[req.approvalId]? = some (decided req .APPROVED now a) := by
        rw [h.settlement.approvals, h.approved]
        exact List.getElem?_set_self (Table.lt_of_getElem? hdec.approval)
      rw [h.frame]
      exact ⟨.refl _, .set hreceipt hrow hrow, .refl, .set happroval hten hten, fun _ _ => rfl⟩

lemma TargetDecided.touches (h : TargetDecided rt req a now s t res) (hdesk : Desk s)
    (hdec : LoyaltyService.Decidable req a s) : Touches req.actor.tenantId s t := by
  cases h with
  | earn htarget h => exact h.touches hdesk hdec htarget
  | redeem htarget hd hten h => exact h.touches hdesk hdec htarget hd hten

end LoyaltyService

/-! ### Reversals -/

namespace ReversalsService

variable {input : ReversalInput} {tenantId : String}

lemma Opened.touches {startedAt : Int} {existing : Option Response}
    (h : Opened input startedAt s existing t) : Touches input.actor.tenantId s t := by
  cases h with
  | fresh => exact ⟨.refl _, .refl, .refl, .refl, fun _ hkey => update_other rfl hkey⟩
  | found => exact .refl _

lemma Completed.touches {res : ReversalResponse} (h : Completed input res finishedAt s t) :
    Touches input.actor.tenantId s t := by
  rw [h]
  exact ⟨.refl _, .refl, .refl, .refl, fun _ hkey => update_other rfl hkey⟩

lemma Compensated.touches {customerId : String} {creditEntryId lotId : Nat} {k : PositiveKobo}
    {c : CorrelationId} {l : CreditLot} {row : RedemptionAllocation}
    (h : Compensated input customerId creditEntryId lotId k c now l row s t) :
    Touches input.actor.tenantId s t := by
  refine .posted h.posting.touches ?_ ?_ ?_ ?_ <;> rw [h.frame]

lemma Restored.touches {customerId : String} {debitEntryId : Nat} {k : PositiveKobo}
    {c : CorrelationId} {planned : List PlannedRestoration} {rows : List AllocationRestoration}
    (h : Restored input customerId debitEntryId k c now planned rows s t) (hs : s.books.Sound) :
    Touches input.actor.tenantId s t := by
  refine .posted (h.posting.touches hs) ?_ ?_ ?_ ?_ <;> rw [h.frame]

lemma Marked.touches {entryId : Nat} (h : Marked tenantId entryId now s t) :
    Touches tenantId s t := by
  cases h with
  | nothing => exact .refl _
  | redemption hrow _ hten _ => exact ⟨.refl _, .refl, .set hrow hten hten, .refl, fun _ _ => rfl⟩

lemma ReverseCommitted.touches {o : LoyaltyLedgerEntry} {existing : Option Response}
    {res : Response} (h : ReverseCommitted input o now finishedAt existing s t res)
    (hs : s.books.Sound) : Touches input.actor.tenantId s t := by
  cases h with
  | credit _ _ _ h => exact h.compensated.touches.trans h.completed.touches
  | debit _ _ _ h =>
      exact ((h.restored.touches hs).trans h.marked.touches).trans h.completed.touches
  | pair _ _ _ h =>
      cases h with
      | reversed _ h =>
          have hsound := hs.posted (.debit h.compensated.posting)
          exact ((h.compensated.touches.trans (h.restored.touches hsound)).trans
            h.marked.touches).trans h.completed.touches
      | replayed hsame _ _ => exact hsame ▸ .refl _
  | replayed _ _ hsame => exact hsame ▸ .refl _

end ReversalsService

end requests

/-! ### Runs -/

/-- An operation of another tenant's staff, or one on no tenant's rows. -/
def Op.spares (tenantId : String) : Op → Prop
  | .earn req _ _ => req.actor.tenantId ≠ tenantId
  | .redeem req _ _ => req.actor.tenantId ≠ tenantId
  | .decide req _ _ => req.actor.tenantId ≠ tenantId
  | .completeDecision key _ => key.tenantId ≠ tenantId
  | .reverse input _ _ _ => input.actor.tenantId ≠ tenantId
  | .adjust req _ _ _ => req.actor.tenantId ≠ tenantId
  | .expireCredit .. => False
  | .expireApprovals .. => False
  | .cleanup key _ => key.tenantId ≠ tenantId
  | .cleanupAnyEndpoint key _ => key.tenantId ≠ tenantId
  | .recordDuplicate _ => True
  | .administer _ => True

/-- A tenant's rows by their ids, and its records by their keys. -/
structure TenantRows where
  ledger : Nat → Option LoyaltyLedgerEntry
  lots : Nat → Option CreditLot
  expiries : Nat → Option CreditExpiry
  allocations : Nat → Option RedemptionAllocation
  restorations : Nat → Option AllocationRestoration
  adjustments : Nat → Option Adjustment
  receipts : Nat → Option Receipt
  redemptions : Nat → Option Redemption
  approvals : Nat → Option Approval
  idempotency : String → Endpoint → String → Option (IdempotencyRecord Response)

def Database.ofTenant (s : Database) (tenantId : String) : TenantRows where
  ledger i := s.ledger[i]?.filter fun r => r.tenantId = tenantId
  lots i := s.lots[i]?.filter fun r => r.tenantId = tenantId
  expiries i := s.expiries[i]?.filter fun r => r.tenantId = tenantId
  allocations i := s.allocations[i]?.filter fun r => r.tenantId = tenantId
  restorations i := s.restorations[i]?.filter fun r => r.tenantId = tenantId
  adjustments i := s.adjustments[i]?.filter fun r => r.tenantId = tenantId
  receipts i := s.receipts[i]?.filter fun r => r.tenantId = tenantId
  redemptions i := s.redemptions[i]?.filter fun r => r.tenantId = tenantId
  approvals i := s.approvals[i]?.filter fun r => r.tenantId = tenantId
  idempotency actorId endpoint key := s.idempotency ⟨tenantId, actorId, endpoint, key⟩

section views

variable {s t : Database} {tenantId other : String}

/-- Another tenant sees its rows unchanged. -/
lemma Touches.ofTenant (h : Touches other s t) (hne : other ≠ tenantId) :
    t.ofTenant tenantId = s.ofTenant tenantId := by
  have hfilter : ∀ {α : Type} {owner : α → String} {xs ys : Table α},
      Table.OnlyOf owner other xs ys → ∀ i : Nat,
        ys[i]?.filter (fun a => owner a = tenantId) =
          xs[i]?.filter fun a => owner a = tenantId := by
    intro α owner xs ys honly i
    refine honly.filter_eq (fun a ha => ?_) i
    rw [of_decide_eq_true ha]
    exact hne.symm
  unfold Database.ofTenant
  congr 1 <;> ext1
  · exact hfilter h.books.ledger _
  · exact hfilter h.books.lots _
  · exact hfilter h.books.expiries _
  · exact hfilter h.books.allocations _
  · exact hfilter h.books.restorations _
  · exact hfilter h.books.adjustments _
  · exact hfilter h.receipts _
  · exact hfilter h.redemptions _
  · exact hfilter h.approvals _
  · ext1 endpoint
    ext1 key
    exact h.idempotency _ hne.symm

lemma RecordsOnly.ofTenant (h : RecordsOnly s t)
    (hkeys : ∀ key : IdempotencyKey, key.tenantId = tenantId →
      t.idempotency key = s.idempotency key) : t.ofTenant tenantId = s.ofTenant tenantId := by
  have hrecords : (fun actorId endpoint key => t.idempotency ⟨tenantId, actorId, endpoint, key⟩) =
      fun actorId endpoint key => s.idempotency ⟨tenantId, actorId, endpoint, key⟩ := by
    ext1 actorId
    ext1 endpoint
    ext1 key
    exact hkeys _ rfl
  unfold Database.ofTenant
  rw [hrecords, h.frame]

/-- The balance of a tenant's customer is read off the tenant's lots. -/
lemma activeBalance_of_ofTenant (h : t.ofTenant tenantId = s.ofTenant tenantId)
    (customerId : String) (now : Int) :
    ActiveBalanceService.getActiveBalanceKobo t tenantId customerId now =
      ActiveBalanceService.getActiveBalanceKobo s tenantId customerId now := by
  have hlots : ∀ i : Nat, t.lots[i]?.filter (fun l => l.tenantId = tenantId) =
      s.lots[i]?.filter fun l => l.tenantId = tenantId :=
    fun i => congrFun (congrArg TenantRows.lots h) i
  have hactive : ∀ o : Option CreditLot,
      o.filter (fun l => ActiveBalanceService.activeCreditLotWhere tenantId customerId now l) =
        (o.filter fun l => l.tenantId = tenantId).filter
          fun l => ActiveBalanceService.activeCreditLotWhere tenantId customerId now l := by
    intro o
    cases o with
    | none => rfl
    | some l =>
        by_cases hten : l.tenantId = tenantId
        · simp [Option.filter_some, hten]
        · simp [Option.filter_some, hten, ActiveBalanceService.activeCreditLotWhere]
  unfold ActiveBalanceService.getActiveBalanceKobo
  rw [Table.tally_eq_sum_filter (t := t.lots) (le_max_right s.lots.length t.lots.length),
    Table.tally_eq_sum_filter (t := s.lots) (le_max_left s.lots.length t.lots.length)]
  refine Finset.sum_congr rfl fun i _ => ?_
  simp only [Bool.decide_eq_true]
  rw [hactive, hlots, ← hactive]

end views

section runs

variable {rt : Runtime} {op : Op} {s t : System} {tenantId : String}

lemma Step.completes_own {key other : IdempotencyKey} {response : ApprovalDecisionResponse}
    (h : Step rt (.completeDecision key response) s t) (hne : other ≠ key) :
    t.db.idempotency other = s.db.idempotency other := by
  have hrun := h.runs
  simp only [System.run] at hrun
  split at hrun
  · cases hc : s.commit (LoyaltyService.completeDecision key response) with
    | error e => rw [hc] at hrun; cases hrun
    | ok u =>
        rw [hc] at hrun
        obtain rfl := Except.ok.inj hrun
        obtain ⟨_, db, hok, rfl⟩ := System.commit_ok.1 hc
        simp only [LoyaltyService.completeDecision, bind_ok, get_ok, orFault_ok,
          updateIdempotencyRecord_ok] at hok
        obtain ⟨_, _, ⟨rfl, rfl⟩, r, _, ⟨-, rfl⟩, -, rfl⟩ := hok
        exact Function.update_of_ne hne _ _
  · cases hrun

/-- What a step leaves to a tenant that it spares. -/
lemma Step.ofTenant (hs : Invariants s.db) (h : Step rt op s t) (hspares : op.spares tenantId) :
    t.db.ofTenant tenantId = s.db.ofTenant tenantId := by
  have hout := h.outcome hs.books.sound
  cases hout with
  | earn _ hc => exact hc.touches.ofTenant hspares
  | redeem _ hc => exact hc.touches.ofTenant hspares
  | adjust _ hc => exact hc.touches.ofTenant hspares
  | @decide req startedAt now _ a v _ hv hdec hc =>
      have hmove : Move s.db v := .same (by rw [hv]) (by rw [hv]) (by rw [hv]) (by rw [hv])
      have hrecord : Touches req.actor.tenantId s.db v := by
        rw [hv]
        exact ⟨.refl _, .refl, .refl, .refl, fun _ hkey => update_other rfl hkey⟩
      exact (hrecord.trans (hc.touches (hs.desk.move hmove) hdec)).ofTenant hspares
  | @reverse input _ _ _ _ v _ _ hopen _ hc =>
      have hbooks : v.books = s.db.books := by cases hopen <;> rfl
      have hsound : v.books.Sound := hbooks ▸ hs.books.sound
      exact (hopen.touches.trans (hc.touches hsound)).ofTenant hspares
  | expireCredit | expireApprovals => exact hspares.elim
  | completeDecision hc _ =>
      refine hc.ofTenant fun other hother => h.completes_own ?_
      rintro rfl
      exact hspares hother
  | @cleanup key now hc _ =>
      obtain ⟨_, db, hok, rfl⟩ := System.commit_ok.1 h.runs
      obtain rfl := update_ok.1 hok
      refine hc.ofTenant fun other hother => ?_
      refine Database.dropExpired_other fun hm => ?_
      obtain rfl := of_decide_eq_true hm
      exact hspares hother
  | @cleanupAnyEndpoint key now hc _ =>
      obtain ⟨_, db, hok, rfl⟩ := System.commit_ok.1 h.runs
      obtain rfl := update_ok.1 hok
      refine hc.ofTenant fun other hother => ?_
      have hne : other.tenantId ≠ key.tenantId := fun he => hspares (he ▸ hother)
      exact Database.dropExpired_other (by simp [hne])
  | recordDuplicate hc _ =>
      obtain ⟨_, db, hok, rfl⟩ := System.commit_ok.1 h.runs
      simp only [recordDuplicateReceiptAttempt, bind_ok, recordAudit_ok,
        insertOutboxEvent_ok] at hok
      obtain ⟨_, _, rfl, rfl⟩ := hok
      exact hc.ofTenant fun _ _ => rfl
  | administer hc _ =>
      obtain ⟨_, db, hok, rfl⟩ := System.commit_ok.1 h.runs
      obtain rfl := update_ok.1 hok
      exact hc.ofTenant fun _ _ => rfl

/-- **Tenants are apart.** Whatever the staff of other tenants commit, and however the registry
is administered, a tenant's rows and records stay as they are, and so does every balance of its
customers. -/
theorem tenants_apart (hs : Reachable rt s)
    (h : StepsUnder rt (fun _ op => op.spares tenantId) s t) :
    t.db.ofTenant tenantId = s.db.ofTenant tenantId ∧ ∀ customerId now,
      ActiveBalanceService.getActiveBalanceKobo t.db tenantId customerId now =
        ActiveBalanceService.getActiveBalanceKobo s.db tenantId customerId now := by
  have hkept := h.invariant
    (I := fun u => Invariants u.db ∧ u.db.ofTenant tenantId = s.db.ofTenant tenantId)
    (fun hspares hu hstep =>
      ⟨hstep.invariants hu.1, (hstep.ofTenant hu.1 hspares).trans hu.2⟩) ⟨hs.invariants, rfl⟩
  have hrows := hkept.2
  exact ⟨hrows, activeBalance_of_ofTenant hrows⟩

end runs

/-! ### Two shops -/

namespace Shop

/-- The shop and its neighbour, each with one till, one customer and one card. -/
def neighbours : Registry where
  branches b :=
    if b = "branch" then some ⟨"tenant", "UTC", 1, .ACTIVE⟩
    else if b = "next door" then some ⟨"neighbour", "UTC", 1, .ACTIVE⟩ else none
  devices d :=
    if d = "till" then some ⟨"tenant", "branch", .ACTIVE⟩
    else if d = "other till" then some ⟨"neighbour", "next door", .ACTIVE⟩ else none
  cards := [⟨"card", "tenant", "customer", "CARD", .ACTIVE⟩,
    ⟨"other card", "neighbour", "guest", "CARD", .ACTIVE⟩]
  customers c :=
    if c = "customer" then some ⟨"tenant", "branch", "+2340000000000", false, .ACTIVE⟩
    else if c = "guest" then some ⟨"neighbour", "next door", "+2340000000000", false, .ACTIVE⟩
    else none
  policies _ _ := none

/-- A purchase next door. -/
def earnNextDoor (key : String) (amountKobo : Int) : Op :=
  .earn { purchase key amountKobo with
      actor := ⟨"cashier", "neighbour", some "next door", .CASHIER, some "other till"⟩ }
    ⟨"other till", none, false, false⟩ night

end Shop

/-- A purchase next door leaves the credit of one in the shop. -/
theorem tenants_apart_shop : ∃ s t,
    (System.initial Shop.neighbours).runAll Shop.runtime [Shop.earn "k1" 9000000] = .ok s ∧
    s.runAll Shop.runtime [Shop.earnNextDoor "k2" 9000000] = .ok t ∧
    ActiveBalanceService.getActiveBalanceKobo t.db "tenant" "customer" Shop.night =
      ActiveBalanceService.getActiveBalanceKobo s.db "tenant" "customer" Shop.night := by
  have hok : ((System.initial Shop.neighbours).runAll Shop.runtime
      ([Shop.earn "k1" 9000000] ++ [Shop.earnNextDoor "k2" 9000000])).isOk = true := by
    decide +kernel
  cases hboth : (System.initial Shop.neighbours).runAll Shop.runtime
      ([Shop.earn "k1" 9000000] ++ [Shop.earnNextDoor "k2" 9000000]) with
  | error e =>
      rw [hboth] at hok
      cases hok
  | ok t =>
      obtain ⟨s, hrun, hlast⟩ := System.runAll_snoc hboth
      have hs : Reachable Shop.runtime s :=
        ⟨Shop.neighbours, .of_runAll hrun (by simp [Shop.earn, Op.Admissible])⟩
      have hnext : s.runAll Shop.runtime [Shop.earnNextDoor "k2" 9000000] = .ok t := by
        simp only [System.runAll, List.foldlM_cons, hlast]
        rfl
      have hsteps := StepsUnder.of_runAll (P := fun _ op => op.spares "tenant") hnext
        (by simp [Shop.earnNextDoor, Op.Admissible]) (by simp [Shop.earnNextDoor, Op.spares])
      exact ⟨s, t, hrun, hnext, (tenants_apart hs hsteps).2 "customer" Shop.night⟩

end ShopcityLoyalty
