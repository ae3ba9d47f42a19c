import ShopcityLoyalty.Adjustment
import ShopcityLoyalty.CreditExpirySweep
import ShopcityLoyalty.DecisionOutcomes

/-!
What a committed adjustment leaves, and what the two sweeps leave: a chain of expired lots,
a chain of expired approvals.
-/

namespace ShopcityLoyalty

open Txn Database

variable {s t : Database} {u : Unit} {rt : Runtime} {now : Int}

/-! ### Adjustments -/

namespace AdjustmentsService

variable {req : AdjustmentRequest} {finishedAt : Int} {res : AdjustmentResponse}

/-- What an adjustment found before its first write. -/
structure AdjustmentStarted (req : AdjustmentRequest) (s : Database) : Prop where
  key : s.idempotency req.key = none
  customer : ∃ c, s.registry.customers req.customerId = some c ∧ c.tenantId = req.actor.tenantId

/-- The record an adjustment leaves under its key. -/
def completedAdjustment (req : AdjustmentRequest) (res : AdjustmentResponse) (finishedAt : Int) :
    IdempotencyRecord Response where
  requestHash := req.requestHash
  responseJson := some (.adjustment res)
  status := .COMPLETED
  expiresAt := finishedAt + IDP_EXPIRY_MS

/-- A credit adjustment with its lot. -/
structure CreditAdjusted (req : AdjustmentRequest) (finishedAt : Int) (l : CreditLot)
    (res : AdjustmentResponse) (s t : Database) : Prop where
  kind : req.kind = .CREDIT
  posting : CreditPosting (adjustmentEntry req) l [adjustmentRow req s.ledger.length]
    s.books t.books
  frame : t = { s with
    ledger := s.ledger ++ [adjustmentEntry req]
    lots := s.lots ++ [l]
    adjustments := s.adjustments ++ [adjustmentRow req s.ledger.length]
    idempotency := Function.update s.idempotency req.key
      (some (completedAdjustment req res finishedAt))
    outbox := t.outbox
    auditLog := t.auditLog }

/-- A debit adjustment with its allocations. -/
structure DebitAdjusted (req : AdjustmentRequest) (finishedAt : Int)
    (rows : List RedemptionAllocation) (res : AdjustmentResponse) (s t : Database) : Prop where
  kind : req.kind = .DEBIT
  posting : DebitPosting (adjustmentEntry req) rows (.adjustment s.adjustments.length)
    [adjustmentRow req s.ledger.length] s.books t.books
  frame : t = { s with
    ledger := s.ledger ++ [adjustmentEntry req]
    lots := t.lots
    allocations := s.allocations ++ rows
    adjustments := s.adjustments ++ [adjustmentRow req s.ledger.length]
    idempotency := Function.update s.idempotency req.key
      (some (completedAdjustment req res finishedAt))
    outbox := t.outbox
    auditLog := t.auditLog }

inductive AdjustmentCommitted (req : AdjustmentRequest) (finishedAt : Int)
    (res : AdjustmentResponse) (s t : Database) : Prop
  | credit {l} (h : CreditAdjusted req finishedAt l res s t)
  | debit {rows} (h : DebitAdjusted req finishedAt rows res s t)

lemma finishAdjustment_ok {phoneE164 : String} {i j : Nat} {allocations : List PersistedAllocation}
    {creditLot : Option (Nat × Int)}
    (h : finishAdjustment rt req phoneE164 i j allocations creditLot now finishedAt s =
      .ok (res, t)) :
    t = { s with
      idempotency := Function.update s.idempotency req.key
        (some (completedAdjustment req res finishedAt))
      outbox := t.outbox
      auditLog := t.auditLog } := by
  simp only [finishAdjustment, bind_ok, get_ok, insertOutboxEvent_ok, recordAudit_ok,
    updateIdempotencyRecord_ok, pure_ok] at h
  obtain ⟨_, _, ⟨rfl, rfl⟩, _, _, rfl, _, _, rfl, _, _, ⟨-, rfl⟩, rfl, rfl⟩ := h
  rfl

/-- **An adjustment transaction** writes one entry with its adjustment and its evidence. -/
theorem adjustmentTransaction_ok {startedAt : Int}
    (h : adjustmentTransaction rt req startedAt now finishedAt s = .ok (res, t)) :
    AdjustmentStarted req s ∧ AdjustmentCommitted req finishedAt res s t := by
  simp only [adjustmentTransaction, bind_ok, insertIdempotencyRecord_ok, get_ok, orFault_ok,
    rejectIf_ok] at h
  obtain ⟨_, v, ⟨hkey, hv⟩, _, _, ⟨rfl, rfl⟩, c, _, ⟨hc, rfl⟩, _, _, ⟨-, rfl⟩, h⟩ := h
  obtain ⟨hc, hten⟩ := Option.filter_eq_some_iff.1 hc
  refine ⟨⟨hkey, c, by rw [hv] at hc; exact hc, by simpa using hten⟩, ?_⟩
  cases hkind : req.kind with
  | CREDIT =>
      rw [hkind] at h
      simp only [creditAdjustment, bind_ok, insertLedgerEntry_ok, insertAdjustment_ok,
        insertCreditLot_ok] at h
      obtain ⟨_, _, ⟨-, rfl, rfl⟩, _, _, ⟨-, -, -, rfl, rfl⟩, _, w, ⟨l, hl, -, -, -, hw⟩, hfin⟩ := h
      have ht := finishAdjustment_ok hfin
      rw [hw, hv] at ht
      rw [hv] at hl
      have hexp := hl.expiresAt
      simp only [Function.update_idem] at ht
      have hbooks : t.books = { s.books with
          ledger := s.ledger ++ [adjustmentEntry req], lots := s.lots ++ [l]
          adjustments := s.adjustments ++ [adjustmentRow req s.ledger.length] } := by
        rw [ht]; rfl
      refine .credit (l := l) ⟨hkind, ⟨hkind, rfl, ?_, hexp ▸ hl, hbooks⟩, ht⟩
      exact .adjustment rfl rfl ⟨rfl, rfl, rfl, rfl, rfl, rfl⟩
  | DEBIT =>
      rw [hkind] at h
      simp only [debitAdjustment, bind_ok, insertLedgerEntry_ok, insertAdjustment_ok] at h
      obtain ⟨_, _, ⟨-, rfl, rfl⟩, _, m, ⟨-, -, -, rfl, hm⟩, as, w, hdraw, hfin⟩ := h
      have ht := finishAdjustment_ok hfin
      obtain ⟨rows, hd⟩ := LotAllocationService.allocateDebit_ok hdraw
      rw [hv] at hm
      have hposting : DebitPosting (adjustmentEntry req) rows (.adjustment s.adjustments.length)
          [adjustmentRow req s.ledger.length] s.books w.books := by
        rw [hv] at hd
        refine debit_of_drawn (by rw [hm]; rfl) hd rfl rfl rfl rfl hkind ?_ ⟨rfl, rfl⟩ ?_
        · exact .adjustment rfl rfl ⟨rfl, rfl, rfl, rfl, rfl, rfl⟩
        · intro o ho; cases ho
      rw [hd.frame, hm] at ht
      simp only [Function.update_idem] at ht
      have hbooks : t.books = w.books := by
        rw [ht, hd.frame, hm]; rfl
      have hout : DebitAdjusted req finishedAt rows res s t :=
        ⟨hkind, hbooks ▸ hposting, by rw [ht]⟩
      exact .debit hout

end AdjustmentsService

/-! ### Overdue lots -/

namespace CreditExpiryService

variable {systemActor : String → String}

/-- One lot expired. -/
def ExpiryPosted (b c : Books) : Prop := ∃ e x, ExpiryPosting e x b c

/-- What a sweep wrote: entries, expiries, lots and audit log. -/
structure Expired (s t : Database) : Prop where
  postings : Relation.ReflTransGen ExpiryPosted s.books t.books
  frame : t = { s with
    ledger := t.ledger, expiries := t.expiries, lots := t.lots, auditLog := t.auditLog }

lemma expireLot_ok {r : LockedCreditLot} {l : CreditLot} (hl : s.lots[r.1]? = some l)
    (hsame : SameLot r.2 l) (h : expireLot rt systemActor r s = .ok (u, t)) :
    ExpiryPosted s.books t.books ∧
      t = { s with
        ledger := t.ledger, expiries := t.expiries, lots := t.lots, auditLog := t.auditLog } ∧
      ∃ δ, Moved δ s.lots t.lots := by
  simp only [expireLot, bind_ok, orFault_ok, insertLedgerEntry_ok, insertCreditExpiry_ok, get_ok,
    rejectIf_ok, putRemaining_ok, recordAudit_ok, PositiveKobo.of?_eq_some] at h
  obtain ⟨k, _, ⟨hk, rfl⟩, _, _, ⟨-, rfl, rfl⟩, _, _, ⟨hlapse, -, -, rfl⟩, _, _, ⟨rfl, rfl⟩, l', _,
    ⟨hl', rfl⟩, _, _, ⟨-, rfl⟩, _, _, ⟨m, hm, rfl⟩, rfl⟩ := h
  obtain rfl : l = l' := Option.some.inj (hl.symm.trans hl')
  have hmoved : Moved (fun i => if r.1 = i then -(k : Int) else 0) s.lots (s.lots.set r.1 m) :=
    Moved.set hl (by rw [← sub_eq_add_neg]; exact hm)
  refine ⟨⟨expiryEntry systemActor r k, expiryRow r k s.ledger.length, ?_⟩, rfl, _, hmoved⟩
  exact ⟨rfl, rfl, rfl, rfl, ⟨l, hl, hsame.tenantId, hsame.customerId, hsame.expiresAt⟩,
    ⟨rfl, rfl, rfl, rfl, rfl⟩, hlapse, hmoved, rfl⟩

lemma expireLots_ok {due : List LockedCreditLot}
    (hdue : ∀ r ∈ due, ∃ l, s.lots[r.1]? = some l ∧ SameLot r.2 l)
    (h : each (expireLot rt systemActor) due s = .ok (u, t)) : Expired s t := by
  induction due generalizing s with
  | nil =>
      obtain rfl := each_nil_ok.1 h
      exact ⟨.refl, rfl⟩
  | cons r rest ih =>
      obtain ⟨_, v, hr, hrest⟩ := each_cons_ok.1 h
      obtain ⟨l, hl, hsame⟩ := hdue r List.mem_cons_self
      obtain ⟨hp, hv, δ, hm⟩ := expireLot_ok hl hsame hr
      have hx := ih (s := v) (fun q hq => ?_) hrest
      · exact ⟨.head hp hx.postings, by rw [hx.frame, hv]⟩
      · obtain ⟨l, hl, hsame⟩ := hdue q (.tail _ hq)
        obtain ⟨l', hl', hs, -⟩ := hm.lot hl
        exact ⟨l', hl', hsame.trans hs⟩

/-- **A credit expiry sweep** is a chain of expiries. -/
theorem expireDueCredit_ok {batchSize : Nat} {skipped : List Nat} {res : ExpirySweepResult}
    (h : expireDueCredit rt systemActor now batchSize skipped s = .ok (res, t)) :
    Expired s t := by
  simp only [expireDueCredit, bind_ok, rejectIf_ok, get_ok, pure_ok] at h
  obtain ⟨_, _, ⟨-, rfl⟩, _, _, ⟨rfl, rfl⟩, _, _, heach, -, rfl⟩ := h
  refine expireLots_ok (fun r hr => ⟨r.2, ?_, .refl _⟩) heach
  have hmem := List.mem_of_mem_take hr
  rw [List.mem_insertionSort] at hmem
  exact (Table.mem_select.1 (List.mem_filter.1 hmem).1).1

end CreditExpiryService

/-! ### Overdue approvals -/

/-- One approval expired with its own receipt and redemption. -/
def Lapsed (now : Int) (s t : Database) : Prop :=
  ∃ i a m, ApprovalExpired i a a.tenantId a.target (redemptionReceiptId s a.tenantId a.target) now
    none m s t

/-- Rows keep what an expiry is called with. -/
structure SameTargets (s t : Database) : Prop where
  approval : ∀ {i : Nat} {a}, s.approvals[i]? = some a → ∃ a', t.approvals[i]? = some a' ∧
    a'.tenantId = a.tenantId ∧ a'.target = a.target
  receipt : ∀ tenantId target,
    redemptionReceiptId t tenantId target = redemptionReceiptId s tenantId target

lemma redemptionReceiptId_set {i : Nat} {d d' : Redemption} (hd : s.redemptions[i]? = some d)
    (hsame : d'.tenantId = d.tenantId ∧ d'.receiptId = d.receiptId)
    (hset : t.redemptions = s.redemptions.set i d') (tenantId : String) (target : ApprovalTarget) :
    redemptionReceiptId t tenantId target = redemptionReceiptId s tenantId target := by
  cases target with
  | EARN => rfl
  | REDEEM j =>
      simp only [redemptionReceiptId, hset]
      by_cases hij : i = j
      · subst hij
        rw [List.getElem?_set_self (Table.lt_of_getElem? hd), hd]
        simp only [Option.filter_some, hsame.1]
        split
        · rw [Option.map_some, Option.map_some, hsame.2]
        · rfl
      · rw [List.getElem?_set_ne hij]

lemma ApprovalExpired.sameTargets {i : Nat} {a : Approval} {tenantId : String}
    {target : ApprovalTarget} {receiptId : Option Nat} {actor : Option StaffRef} {m : Database}
    (h : ApprovalExpired i a tenantId target receiptId now actor m s t) : SameTargets s t := by
  have happrovals : m.approvals = s.approvals.set i (expiredRow now actor a) := by
    cases h.target <;> rfl
  refine ⟨fun {j b} hb => ?_, fun ten tar => ?_⟩
  · rw [h.frame]
    change ∃ a', m.approvals[j]? = some a' ∧ _
    rw [happrovals]
    by_cases hij : i = j
    · subst hij
      obtain rfl : a = b := Option.some.inj (h.approval.symm.trans hb)
      exact ⟨expiredRow now actor a, List.getElem?_set_self (Table.lt_of_getElem? hb), rfl, rfl⟩
    · exact ⟨b, by rw [List.getElem?_set_ne hij]; exact hb, rfl, rfl⟩
  · have hm : redemptionReceiptId t ten tar = redemptionReceiptId m ten tar := by
      rw [h.frame]; rfl
    have hrow : ∀ d : Redemption, (expiredRedemptionRow now d).tenantId = d.tenantId ∧
        (expiredRedemptionRow now d).receiptId = d.receiptId := fun _ => ⟨rfl, rfl⟩
    rw [hm]
    cases h.target with
    | earn => rfl
    | @redeem _ _ _ d _ _ hd => exact redemptionReceiptId_set (s := s) hd (hrow d) rfl ten tar
    | @alone _ d hd => exact redemptionReceiptId_set (s := s) hd (hrow d) rfl ten tar

lemma expireApprovals_ok {db : Database} {detectedBy : Nat × Approval → Option StaffRef}
    {overdue : List (Nat × Approval)}
    (hover : ∀ r ∈ overdue, ∃ a, s.approvals[r.1]? = some a ∧ a.tenantId = r.2.tenantId ∧
      a.target = r.2.target)
    (hdb : ∀ tenantId target,
      redemptionReceiptId s tenantId target = redemptionReceiptId db tenantId target)
    (h : each (fun a => expireApproval rt a.1 a.2.tenantId a.2.target
      (redemptionReceiptId db a.2.tenantId a.2.target) now none (detectedBy a)) overdue s =
        .ok (u, t)) :
    Relation.ReflTransGen (Lapsed now) s t := by
  induction overdue generalizing s with
  | nil =>
      obtain rfl := each_nil_ok.1 h
      exact .refl
  | cons r rest ih =>
      obtain ⟨_, v, hr, hrest⟩ := each_cons_ok.1 h
      obtain ⟨b, hb, hten, htar⟩ := hover r List.mem_cons_self
      obtain ⟨a, m, hx⟩ := expireApproval_ok hr
      obtain rfl : a = b := Option.some.inj (hx.approval.symm.trans hb)
      have hsame := hx.sameTargets
      refine .head ⟨r.1, a, m, ?_⟩ (ih (fun q hq => ?_) (fun ten tar => ?_) hrest)
      · rw [hten, htar, hdb]
        exact hx
      · obtain ⟨c, hc, hct, hctar⟩ := hover q (.tail _ hq)
        obtain ⟨c', hc', ht, htar'⟩ := hsame.approval hc
        exact ⟨c', hc', ht.trans hct, htar'.trans hctar⟩
      · rw [hsame.receipt, hdb]

/-- **An approval expiry sweep** is a chain of expired approvals. -/
theorem expireOverdueApprovals_ok {batchSize n : Nat} {skipped : List Nat}
    (h : expireOverdueApprovals rt now batchSize skipped s = .ok (n, t)) :
    Relation.ReflTransGen (Lapsed now) s t := by
  simp only [expireOverdueApprovals, bind_ok, get_ok, pure_ok] at h
  obtain ⟨_, _, ⟨rfl, rfl⟩, _, _, heach, -, rfl⟩ := h
  refine expireApprovals_ok (fun r hr => ⟨r.2, ?_, rfl, rfl⟩) (fun _ _ => rfl) heach
  have hmem := List.mem_of_mem_take hr
  rw [List.mem_insertionSort] at hmem
  exact (Table.mem_select.1 (List.mem_filter.1 hmem).1).1

lemma LoyaltyService.FoundExpired.lapsed {req : DecisionRequest} {a : Approval}
    {receiptId : Option Nat} (h : LoyaltyService.FoundExpired req a receiptId now s t)
    (hrec : redemptionReceiptId s a.tenantId a.target = receiptId) : Lapsed now s t := by
  obtain ⟨m, hx⟩ := h.expired
  exact ⟨req.approvalId, a, m, hrec ▸ hx⟩

end ShopcityLoyalty
