import ShopcityLoyalty.System

/-!
What the transactions write, for relations that look at the number of lots, at the outbox and
at the audit log.

Each body is followed once, write by write. A relation that admits the writes admits the
transactions; an operation that opens a lot asks for that write to be admitted too, and an earn
with an accepted override for its audit entry.
-/

namespace ShopcityLoyalty

open Txn Database

/-- What the trigger `validate_credit_lot_lifecycle` raises. -/
def lifecycleFault : Fault := .check "validate_credit_lot_lifecycle"

/-- The event that a reversal leaves for the fraud rules. -/
def ReversalsService.reversedEvent (rt : Runtime) (tenantId : String) (reversalLedgerEntryId : Nat)
    (originalTransactionId : Nat) (receiptId : Option Nat) (occurredAt : Int) : OutboxEvent where
  tenantId := tenantId
  aggregateType := "reversal"
  aggregateId := rt.uuid .ledger reversalLedgerEntryId
  eventType := "fraud.evaluate"
  payload := .object [("kind", .string "transaction.reversed"),
    ("reversalLedgerEntryId", .string (rt.uuid .ledger reversalLedgerEntryId)),
    ("originalTransactionId", .string (rt.uuid .ledger originalTransactionId)),
    ("receiptId", (receiptId.map fun r => Json.string (rt.uuid .receipts r)).getD .null),
    ("occurredAt", .string (Calendar.toISOString occurredAt))]

/-- What a direct earn records of an accepted timestamp override. -/
def LoyaltyService.timestampOverrideAudit (rt : Runtime) (req : EarnRequest) (receiptId : Nat) :
    AuditLog where
  tenantId := req.actor.tenantId
  actorId := some req.actor.id
  action := "earn.timestamp_override"
  entityType := "receipt"
  entityId := rt.uuid .receipts receiptId
  metadata := .object [("overrideReason", (req.overrideReason.map Json.string).getD .undefined),
    ("occurredAt", .string (Calendar.toISOString req.occurredAt))]

/-- The relation admits every write but a new lot and an override's audit entry, and no fault but
the lifecycle rule's is left out. -/
structure Writes (rt : Runtime) (R : Database → Database → Prop) (E : Fault → Prop) : Prop where
  rows : ∀ s t : Database, t.lots.length = s.lots.length → t.outbox = s.outbox →
    t.auditLog = s.auditLog → R s t
  audit : ∀ (s : Database) (a : AuditLog), a.action ≠ "earn.timestamp_override" →
    R s { s with auditLog := s.auditLog ++ [a] }
  event : ∀ (s : Database) (e : OutboxEvent), e.aggregateType ≠ "reversal" →
    R s { s with outbox := s.outbox ++ [e] }
  reversal : ∀ (s : Database) tenantId i j receiptId occurredAt,
    R s { s with outbox :=
      s.outbox ++ [ReversalsService.reversedEvent rt tenantId i j receiptId occurredAt] }
  faults : ∀ f, f ≠ lifecycleFault → E f

lemma within_onlyIf {R : Database → Database → Prop} {E : Fault → Prop} [Std.Refl R] {c : Prop}
    [Decidable c] {m : Tx Unit} (h : c → Within R E m) : Within R E (onlyIf c m) := by
  unfold Txn.onlyIf
  exact Within.ite h fun _ => within_pure _

namespace Writes

variable {rt : Runtime} {R : Database → Database → Prop} {E : Fault → Prop} (w : Writes rt R E)

include w

/-! ### Single writes -/

lemma rejectIf [Std.Refl R] {c : Prop} [Decidable c] {f : Fault} (h : f ≠ lifecycleFault) :
    Within R E (rejectIf c f) :=
  within_rejectIf fun _ => w.faults f h

lemma orFault [Std.Refl R] {α : Type} {o : Option α} {f : Fault} (h : f ≠ lifecycleFault) :
    Within R E (orFault o f) :=
  within_orFault fun _ => w.faults f h

lemma fault {α : Type} {f : Fault} (h : f ≠ lifecycleFault) : Within R E (fault f : Tx α) :=
  within_fault (w.faults f h)

lemma update {f : Database → Database} (hlots : ∀ s, (f s).lots.length = s.lots.length)
    (houtbox : ∀ s, (f s).outbox = s.outbox) (haudit : ∀ s, (f s).auditLog = s.auditLog) :
    Within R E (update f) :=
  within_update fun s => w.rows s (f s) (hlots s) (houtbox s) (haudit s)

lemma insertOutboxEvent {e : OutboxEvent} (h : e.aggregateType ≠ "reversal") :
    Within R E (insertOutboxEvent e) := by
  unfold Database.insertOutboxEvent
  exact within_update fun s => w.event s e h

lemma recordAudit {a : AuditLog} (h : a.action ≠ "earn.timestamp_override") :
    Within R E (recordAudit a) := by
  unfold Database.recordAudit
  exact within_update fun s => w.audit s a h

variable [Std.Refl R] [IsTrans Database R]

lemma insertReceipt (r : Receipt) : Within R E (insertReceipt r) := by
  unfold Database.insertReceipt
  exact Within.bind within_get fun _ => Within.bind (w.rejectIf (by decide)) fun _ =>
    Within.bind (w.update (fun _ => rfl) (fun _ => rfl) fun _ => rfl) fun _ => within_pure _

lemma insertRedemption (r : Redemption) : Within R E (insertRedemption r) := by
  unfold Database.insertRedemption
  exact Within.bind within_get fun _ => Within.bind (w.rejectIf (by decide)) fun _ =>
    Within.bind (w.rejectIf (by decide)) fun _ => Within.bind (w.rejectIf (by decide)) fun _ =>
    Within.bind (w.update (fun _ => rfl) (fun _ => rfl) fun _ => rfl) fun _ => within_pure _

lemma insertApproval (a : Approval) : Within R E (insertApproval a) := by
  unfold Database.insertApproval
  exact Within.bind within_get fun _ => Within.bind (w.rejectIf (by decide)) fun _ =>
    Within.bind (w.rejectIf (by decide)) fun _ =>
    Within.bind (w.update (fun _ => rfl) (fun _ => rfl) fun _ => rfl) fun _ => within_pure _

lemma insertLedgerEntry (e : LoyaltyLedgerEntry) : Within R E (insertLedgerEntry e) := by
  unfold Database.insertLedgerEntry
  exact Within.bind within_get fun _ => Within.bind (w.rejectIf (by decide)) fun _ =>
    Within.bind (w.rejectIf (by decide)) fun _ => Within.bind (w.rejectIf (by decide)) fun _ =>
    Within.bind (w.update (fun _ => rfl) (fun _ => rfl) fun _ => rfl) fun _ => within_pure _

lemma insertAdjustment (a : Adjustment) : Within R E (insertAdjustment a) := by
  unfold Database.insertAdjustment
  exact Within.bind within_get fun _ => Within.bind (w.rejectIf (by decide)) fun _ =>
    Within.bind (w.rejectIf (by decide)) fun _ => Within.bind (w.rejectIf (by decide)) fun _ =>
    Within.bind (w.update (fun _ => rfl) (fun _ => rfl) fun _ => rfl) fun _ => within_pure _

lemma insertAllocation (a : RedemptionAllocation) : Within R E (insertAllocation a) := by
  unfold Database.insertAllocation
  exact Within.bind within_get fun _ => Within.bind (w.rejectIf (by decide)) fun _ =>
    Within.bind (w.rejectIf (by decide)) fun _ =>
    Within.bind (w.update (fun _ => rfl) (fun _ => rfl) fun _ => rfl) fun _ => within_pure _

lemma insertRestoration (r : AllocationRestoration) : Within R E (insertRestoration r) := by
  unfold Database.insertRestoration
  exact Within.bind within_get fun _ => Within.bind (w.rejectIf (by decide)) fun _ =>
    Within.bind (w.update (fun _ => rfl) (fun _ => rfl) fun _ => rfl) fun _ => within_pure _

lemma insertCreditExpiry (x : CreditExpiry) : Within R E (insertCreditExpiry x) := by
  unfold Database.insertCreditExpiry
  exact Within.bind within_get fun _ => Within.bind (w.rejectIf (by decide)) fun _ =>
    Within.bind (w.rejectIf (by decide)) fun _ =>
    Within.bind (w.update (fun _ => rfl) (fun _ => rfl) fun _ => rfl) fun _ => within_pure _

lemma insertIdempotencyRecord (k : IdempotencyKey) (r : IdempotencyRecord Response) :
    Within R E (insertIdempotencyRecord k r) := by
  unfold Database.insertIdempotencyRecord
  exact Within.bind within_get fun _ => Within.bind (w.rejectIf (by decide)) fun _ =>
    w.update (fun _ => rfl) (fun _ => rfl) fun _ => rfl

lemma updateIdempotencyRecord (k : IdempotencyKey) (r : IdempotencyRecord Response) :
    Within R E (updateIdempotencyRecord k r) := by
  unfold Database.updateIdempotencyRecord
  exact Within.bind within_get fun _ => Within.bind (w.rejectIf (by decide)) fun _ =>
    w.update (fun _ => rfl) (fun _ => rfl) fun _ => rfl

lemma modifyReceipt (i : Nat) (f : Receipt → Receipt) : Within R E (modifyReceipt i f) := by
  unfold Database.modifyReceipt
  exact Within.bind within_get fun _ => Within.bind (w.orFault (by decide)) fun _ =>
    w.update (fun _ => rfl) (fun _ => rfl) fun _ => rfl

lemma modifyApproval (i : Nat) (f : Approval → Approval) : Within R E (modifyApproval i f) := by
  unfold Database.modifyApproval
  exact Within.bind within_get fun _ => Within.bind (w.orFault (by decide)) fun _ =>
    Within.bind (w.rejectIf (by decide)) fun _ => w.update (fun _ => rfl) (fun _ => rfl)
      fun _ => rfl

lemma modifyRedemption (i : Nat) (f : Redemption → Redemption) :
    Within R E (modifyRedemption i f) := by
  unfold Database.modifyRedemption
  exact Within.bind within_get fun _ => Within.bind (w.orFault (by decide)) fun _ =>
    Within.bind (w.rejectIf (by decide)) fun _ => w.update (fun _ => rfl) (fun _ => rfl)
      fun _ => rfl

lemma putRemaining (i : Nat) (l : CreditLot) (k : Int) : Within R E (putRemaining i l k) := by
  unfold Database.putRemaining
  exact Within.bind (w.orFault (by decide)) fun _ =>
    w.update (fun _ => List.length_set) (fun _ => rfl) fun _ => rfl

lemma requireRow {β : Type} (t : Table β) (i : Nat) (p : β → Prop) [DecidablePred p]
    {f : Fault} (h : f ≠ lifecycleFault) : Within R E (requireRow t i p f) := by
  unfold ShopcityLoyalty.requireRow
  exact Within.bind (w.orFault h) fun _ => w.rejectIf h

/-! ### Drawing a debit, and putting it back -/

section

open LotAllocationService

lemma persistAllocations (input : AllocateDebitInput) {changed : Fault}
    (hne : changed ≠ lifecycleFault) (allocations : List PersistedAllocation) :
    Within R E (persistAllocations input changed allocations) := by
  have hcreate : ∀ a, Within R E (createAllocation input a) := by
    intro a
    unfold createAllocation
    exact Within.bind (w.orFault (by decide)) fun _ =>
      Within.bind (w.insertAllocation _) fun _ => within_pure _
  have hdecrement : ∀ a, Within R E (decrementLot input changed a) := by
    intro a
    unfold decrementLot
    exact Within.bind within_get fun _ => Within.bind (w.orFault hne) fun _ =>
      Within.bind (w.rejectIf hne) fun _ => w.putRemaining _ _ _
  unfold LotAllocationService.persistAllocations
  exact Within.bind (Within.each hcreate _) fun _ => Within.each hdecrement _

lemma planAllocations (lots : List LockedCreditLot) (amountKobo : Int) :
    Within R E (planAllocations lots amountKobo) := by
  unfold LotAllocationService.planAllocations
  exact Within.bind (w.rejectIf (by decide)) fun _ => within_pure _

lemma allocateDebit (input : AllocateDebitInput) : Within R E (allocateDebit rt input) := by
  unfold LotAllocationService.allocateDebit validateDebitAllocationTarget
  exact Within.bind (w.rejectIf (by decide)) fun _ => Within.bind within_get fun _ =>
    Within.bind (w.planAllocations _ _) fun _ =>
    Within.bind (w.persistAllocations _ (by decide) _) fun _ => within_pure _

lemma allocateDebitFromExactLot (input : AllocateDebitInput) (lotId : Nat) :
    Within R E (allocateDebitFromExactLot input lotId) := by
  unfold LotAllocationService.allocateDebitFromExactLot validateDebitAllocationTarget lockExactLot
  exact Within.bind (w.rejectIf (by decide)) fun _ =>
    Within.bind (Within.bind within_get fun _ => Within.bind (w.orFault (by decide)) fun _ =>
      Within.bind (w.rejectIf (by decide)) fun _ => within_pure _) fun _ =>
    Within.bind (w.planAllocations _ _) fun _ =>
    Within.bind (w.persistAllocations _ (by decide) _) fun _ => within_pure _

lemma planRestorations (tenantId : String) (debitLedgerEntryId : Nat) (now : Int) :
    Within R E (planRestorations tenantId debitLedgerEntryId now) := by
  have hplan : ∀ a, Within R E (planRestoration now a) := by
    intro a
    unfold planRestoration
    exact Within.bind within_get fun _ => Within.bind (w.orFault (by decide)) fun _ =>
      Within.bind (w.rejectIf (by decide)) fun _ =>
      Within.bind (w.rejectIf (by decide)) fun _ => within_pure _
  unfold LotAllocationService.planRestorations
  exact Within.bind within_get fun _ => Within.bind (Within.collect hplan _) fun _ =>
    Within.bind (w.rejectIf (by decide)) fun _ => within_pure _

end

/-! ### Adjustments and settlements -/

lemma finishAdjustment (req : AdjustmentRequest) (phoneE164 : String) (i j : Nat)
    (allocations : List PersistedAllocation) (creditLot : Option (Nat × Int))
    (now finishedAt : Int) : Within R E (AdjustmentsService.finishAdjustment rt req phoneE164 i j
      allocations creditLot now finishedAt) := by
  unfold AdjustmentsService.finishAdjustment
  exact Within.bind within_get fun _ => Within.bind (w.insertOutboxEvent (by simp)) fun _ =>
    Within.bind (w.recordAudit (by dsimp only; split <;> simp)) fun _ =>
    Within.bind (w.updateIdempotencyRecord _ _) fun _ => within_pure _

open AdjustmentsService in
lemma adjustmentTransaction {req : AdjustmentRequest}
    (hlot : ∀ i k, Within R E (insertCreditLot req.actor.tenantId req.customerId i k
      req.effectiveAt (addMonths req.effectiveAt rt.ADJUSTMENT_CREDIT_EXPIRY_MONTHS)))
    (startedAt now finishedAt : Int) :
    Within R E (adjustmentTransaction rt req startedAt now finishedAt) := by
  unfold AdjustmentsService.adjustmentTransaction
  refine Within.bind (w.insertIdempotencyRecord _ _) fun _ => Within.bind within_get fun _ =>
    Within.bind (w.orFault (by decide)) fun _ =>
    Within.bind (w.rejectIf (by decide)) fun _ => ?_
  cases req.kind with
  | CREDIT =>
      unfold creditAdjustment
      exact Within.bind (w.insertLedgerEntry _) fun _ =>
        Within.bind (w.insertAdjustment _) fun _ => Within.bind (hlot _ _) fun _ =>
        w.finishAdjustment _ _ _ _ _ _ _ _
  | DEBIT =>
      unfold debitAdjustment
      exact Within.bind (w.insertLedgerEntry _) fun _ =>
        Within.bind (w.insertAdjustment _) fun _ => Within.bind (w.allocateDebit _) fun _ =>
        w.finishAdjustment _ _ _ _ _ _ _ _

lemma executeRedemptionSettlement {input : RedemptionSettlementInput}
    (hlot : ∀ tenantId customerId i k, Within R E (insertCreditLot tenantId customerId i k
      input.occurredAt (addUtcMonthsClamped input.occurredAt 12))) :
    Within R E (executeRedemptionSettlement rt input) := by
  have hearn : ∀ k, Within R E (earnOnNetPaid input k) := by
    intro k
    unfold earnOnNetPaid
    cases PositiveKobo.of? k with
    | none => exact within_pure _
    | some k =>
        exact Within.bind (w.insertLedgerEntry _) fun _ =>
          Within.bind (hlot _ _ _ _) fun _ => within_pure _
  unfold ShopcityLoyalty.executeRedemptionSettlement
  exact Within.bind (w.rejectIf (by decide)) fun _ => Within.bind (w.rejectIf (by decide)) fun _ =>
    Within.bind (w.orFault (by decide)) fun _ => Within.bind (w.insertLedgerEntry _) fun _ =>
    Within.bind (w.modifyRedemption _ _) fun _ => Within.bind (w.allocateDebit _) fun _ =>
    Within.bind (w.rejectIf (by decide)) fun _ => Within.bind (hearn _) fun _ =>
    Within.bind within_get fun _ => Within.bind (w.insertOutboxEvent (by simp)) fun _ =>
    within_pure _

/-! ### Captures -/

lemma findTransactionDevice (db : Database) (actor : AuthContext) (sessionDeviceId : String) :
    Within R E (findTransactionDevice db actor sessionDeviceId) := by
  unfold ShopcityLoyalty.findTransactionDevice
  exact Within.bind (w.orFault (by decide)) fun _ => Within.bind (w.orFault (by decide)) fun _ =>
    Within.bind (w.rejectIf (by decide)) fun _ =>
    Within.bind (w.rejectIf (by decide)) fun _ => within_pure _

lemma findTransactionCard (db : Database) (tenantId cardSerialNumber : String) :
    Within R E (findTransactionCard rt db tenantId cardSerialNumber) := by
  unfold ShopcityLoyalty.findTransactionCard
  exact Within.bind (w.orFault (by decide)) fun _ => Within.bind (w.orFault (by decide)) fun _ =>
    Within.bind (w.rejectIf (by decide)) fun _ => within_pure _

open LoyaltyService in
lemma earnContext (req : EarnRequest) (adm : EarnAdmission) :
    Within R E (earnContext rt req adm) := by
  unfold LoyaltyService.earnContext deriveReceiptWeekStart
  exact Within.bind within_get fun _ => Within.bind (w.findTransactionDevice _ _ _) fun _ =>
    Within.bind (w.findTransactionCard _ _ _) fun _ =>
    Within.bind (Within.bind (w.rejectIf (by decide)) fun _ => within_pure _) fun _ =>
    within_pure _

open LoyaltyService in
lemma earnTransaction {req : EarnRequest}
    (hlot : ∀ tenantId customerId i k, Within R E (insertCreditLot tenantId customerId i k
      req.occurredAt (addUtcMonthsClamped req.occurredAt 12))) {adm : EarnAdmission} {now : Int}
    (hoverride : earnCaptureStatus rt req adm ≠ .PENDING_APPROVAL → adm.overrideApplied →
      ∀ i, Within R E (Database.recordAudit (timestampOverrideAudit rt req i))) :
    Within R E (earnTransaction rt req adm now) := by
  unfold LoyaltyService.earnTransaction
  refine Within.bind (w.earnContext _ _) fun _ => Within.bind within_get fun _ =>
    Within.bind (w.rejectIf (by decide)) fun _ => Within.bind (w.orFault (by decide)) fun _ =>
    Within.bind (w.insertReceipt _) fun _ => Within.ite (fun _ => ?_) fun hpending => ?_
  · unfold captureForApproval
    exact Within.bind within_get fun _ => Within.bind (w.insertApproval _) fun _ =>
      Within.bind (w.insertOutboxEvent (by simp)) fun _ =>
      Within.bind (w.insertIdempotencyRecord _ _) fun _ =>
      Within.bind (w.recordAudit (by simp)) fun _ => within_pure _
  · unfold creditReceipt
    exact Within.bind (w.orFault (by decide)) fun _ => Within.bind (w.insertLedgerEntry _) fun _ =>
      Within.bind (hlot _ _ _ _) fun _ => Within.bind (w.insertOutboxEvent (by simp)) fun _ =>
      Within.bind (w.insertOutboxEvent (by simp)) fun _ => Within.bind within_get fun _ =>
      Within.bind (w.insertIdempotencyRecord _ _) fun _ =>
        Within.bind (w.recordAudit (by simp)) fun _ =>
      Within.bind (within_onlyIf fun h => hoverride hpending h _)
        fun _ => within_pure _

open RedemptionsService in
lemma redeemContext (req : RedeemRequest) (adm : RedeemAdmission) :
    Within R E (redeemContext rt req adm) := by
  unfold RedemptionsService.redeemContext deriveReceiptWeekStart
  exact Within.bind within_get fun _ => Within.bind (w.findTransactionDevice _ _ _) fun _ =>
    Within.bind (w.findTransactionCard _ _ _) fun _ =>
    Within.bind (Within.bind (w.rejectIf (by decide)) fun _ => within_pure _) fun _ =>
    within_pure _

open RedemptionsService in
lemma redeemTransaction {req : RedeemRequest}
    (hlot : ∀ tenantId customerId i k, Within R E (insertCreditLot tenantId customerId i k
      req.occurredAt (addUtcMonthsClamped req.occurredAt 12))) {adm : RedeemAdmission}
    {now : Int} : Within R E (redeemTransaction rt req adm now) := by
  unfold RedemptionsService.redeemTransaction assertRedemptionPolicyAllowsRequest
  refine Within.bind (w.redeemContext _ _) fun _ => Within.bind within_get fun _ =>
    Within.bind (w.rejectIf (by decide)) fun _ => Within.bind (w.rejectIf (by decide)) fun _ =>
    Within.bind ?_ fun _ => Within.bind (w.insertReceipt _) fun _ =>
    Within.bind (w.insertRedemption _) fun _ => Within.bind (w.recordAudit (by simp)) fun _ =>
    Within.ite (fun _ => ?_) fun _ => ?_
  · exact Within.bind (w.rejectIf (by decide)) fun _ =>
      Within.bind (w.rejectIf (by decide)) fun _ =>
      Within.bind (w.rejectIf (by decide)) fun _ => w.rejectIf (by decide)
  · unfold requestApproval persistCompletedIdempotencyResponse
    exact Within.bind within_get fun _ => Within.bind (w.insertApproval _) fun _ =>
      Within.bind (w.insertOutboxEvent (by simp)) fun _ =>
      Within.bind (w.insertIdempotencyRecord _ _) fun _ =>
      Within.bind (w.recordAudit (by simp)) fun _ => within_pure _
  · unfold settleRequest persistCompletedIdempotencyResponse
    exact Within.bind (w.executeRedemptionSettlement hlot) fun _ =>
      Within.bind (w.insertOutboxEvent (by simp)) fun _ =>
      Within.bind (w.insertIdempotencyRecord _ _) fun _ =>
      Within.bind (w.recordAudit (by simp)) fun _ => within_pure _

/-! ### Decisions and expiries of approvals -/

open LoyaltyService in
lemma moveApproval {i : Nat} {tenantId : String} {from_ : ApprovalStatus} {f : Fault}
    {g : Approval → Approval} (h : f ≠ lifecycleFault) :
    Within R E (moveApproval i tenantId from_ f g) := by
  unfold LoyaltyService.moveApproval
  exact Within.bind within_get fun _ => Within.bind (w.requireRow _ _ _ h) fun _ =>
    w.modifyApproval _ _

lemma expireApproval (i : Nat) (tenantId : String) (target : ApprovalTarget)
    (receiptId : Option Nat) (now : Int) (actor detectedBy : Option StaffRef) :
    Within R E (expireApproval rt i tenantId target receiptId now actor detectedBy) := by
  have hreceipt : ∀ r, Within R E (rejectExpiredReceipt r tenantId now actor) := by
    intro r
    unfold rejectExpiredReceipt
    exact Within.bind within_get fun _ => Within.bind (w.requireRow _ _ _ (by decide)) fun _ =>
      w.modifyReceipt _ _
  have hredemption : ∀ r, Within R E (expireRedemption r tenantId now) := by
    intro r
    unfold expireRedemption
    exact Within.bind within_get fun _ => Within.bind (w.requireRow _ _ _ (by decide)) fun _ =>
      w.modifyRedemption _ _
  have htarget : Within R E (expireTarget tenantId target receiptId now actor) := by
    unfold expireTarget
    split
    · exact hreceipt _
    · exact Within.bind (hreceipt _) fun _ => hredemption _
    · exact hredemption _
  unfold ShopcityLoyalty.expireApproval expireApprovalRow
  exact Within.bind (Within.bind within_get fun _ =>
      Within.bind (w.requireRow _ _ _ (by decide)) fun _ => w.modifyApproval _ _) fun _ =>
    Within.bind htarget fun _ => w.recordAudit (by simp)

lemma expireOverdueApprovals (now : Int) (batchSize : Nat) (skipped : List Nat) :
    Within R E (expireOverdueApprovals rt now batchSize skipped) := by
  unfold ShopcityLoyalty.expireOverdueApprovals
  exact Within.bind within_get fun _ =>
    Within.bind (Within.each (fun a => w.expireApproval _ _ _ _ _ _ _) _) fun _ => within_pure _

open LoyaltyService in
lemma executeEarnApproval {req : DecisionRequest} {receiptId : Nat} {receipt : Receipt}
    (hlot : ∀ tenantId customerId i k, Within R E (insertCreditLot tenantId customerId i k
      receipt.occurredAt (addUtcMonthsClamped receipt.occurredAt 12))) {now : Int} :
    Within R E (executeEarnApproval rt req receiptId receipt now) := by
  unfold LoyaltyService.executeEarnApproval
  exact Within.bind (w.moveApproval (by decide)) fun _ => Within.bind within_get fun _ =>
    Within.bind (w.rejectIf (by decide)) fun _ => Within.bind (w.orFault (by decide)) fun _ =>
    Within.bind (w.insertLedgerEntry _) fun _ => Within.bind (hlot _ _ _ _) fun _ =>
    Within.bind (w.insertOutboxEvent (by simp)) fun _ => Within.bind (w.modifyReceipt _ _) fun _ =>
    Within.bind (w.moveApproval (by decide)) fun _ =>
    Within.bind (w.recordAudit (by simp [decisionAudit])) fun _ => within_pure _

open LoyaltyService in
lemma decideEarnApproval (hlot : ∀ tenantId customerId i k earnedAt expiresAt,
      Within R E (insertCreditLot tenantId customerId i k earnedAt expiresAt))
    (req : DecisionRequest) (approval : Approval) (receiptId : Nat) (now : Int) :
    Within R E (decideEarnApproval rt req approval receiptId now) := by
  unfold LoyaltyService.decideEarnApproval
  refine Within.bind within_get fun _ => Within.bind (w.orFault (by decide)) fun _ =>
    Within.ite (fun _ => ?_) fun _ => Within.ite (fun _ => ?_) fun _ => ?_
  · exact Within.bind (w.expireApproval _ _ _ _ _ _ _) fun _ => within_pure _
  · unfold rejectEarnApproval
    exact Within.bind (w.moveApproval (by decide)) fun _ =>
      Within.bind (w.modifyReceipt _ _) fun _ =>
      Within.bind (w.recordAudit (by simp [decisionAudit])) fun _ => within_pure _
  · unfold checkEarnApproval assertApprovalPolicyStillPermitsExecution
    exact Within.bind (Within.bind (w.rejectIf (by decide)) fun _ =>
        Within.bind (w.rejectIf (by decide)) fun _ => Within.bind within_get fun _ =>
        Within.bind (w.rejectIf (by decide)) fun _ => Within.bind (w.rejectIf (by decide)) fun _ =>
        Within.bind (w.rejectIf (by decide)) fun _ => w.rejectIf (by decide)) fun _ =>
      w.executeEarnApproval fun _ _ _ _ => hlot _ _ _ _ _ _

open LoyaltyService in
lemma checkRedemptionApproval (req : DecisionRequest) (approval : Approval)
    (redemption : Redemption) (receipt : Receipt) (now : Int) :
    Within R E (checkRedemptionApproval rt req approval redemption receipt now) := by
  unfold LoyaltyService.checkRedemptionApproval assertRedemptionApprovalPolicyStillPermitsExecution
  exact Within.bind (w.rejectIf (by decide)) fun _ => Within.bind within_get fun _ =>
    Within.bind (w.rejectIf (by decide)) fun _ => Within.bind (w.rejectIf (by decide)) fun _ =>
    Within.bind (w.rejectIf (by decide)) fun _ => Within.bind (w.rejectIf (by decide)) fun _ =>
    Within.bind (w.rejectIf (by decide)) fun _ => Within.bind (w.rejectIf (by decide)) fun _ =>
    Within.bind (w.rejectIf (by decide)) fun _ => w.rejectIf (by decide)

open LoyaltyService in
lemma decideRedemptionApproval (hlot : ∀ tenantId customerId i k earnedAt expiresAt,
      Within R E (insertCreditLot tenantId customerId i k earnedAt expiresAt))
    (req : DecisionRequest) (approval : Approval) (redemptionId : Nat) (now : Int) :
    Within R E (decideRedemptionApproval rt req approval redemptionId now) := by
  unfold LoyaltyService.decideRedemptionApproval
  refine Within.bind within_get fun _ => Within.bind (w.orFault (by decide)) fun _ =>
    Within.bind (w.orFault (by decide)) fun _ =>
    Within.ite (fun _ => ?_) fun _ => Within.ite (fun _ => ?_) fun _ => ?_
  · exact Within.bind (w.expireApproval _ _ _ _ _ _ _) fun _ => within_pure _
  · unfold rejectRedemptionApproval
    exact Within.bind (w.moveApproval (by decide)) fun _ =>
      Within.bind (w.modifyRedemption _ _) fun _ => Within.bind (w.modifyReceipt _ _) fun _ =>
      Within.bind (w.recordAudit (by simp [decisionAudit])) fun _ =>
      Within.bind (w.recordAudit (by simp [decisionAudit])) fun _ => within_pure _
  · unfold executeRedemptionApproval
    exact Within.bind (w.checkRedemptionApproval _ _ _ _ _) fun _ =>
      Within.bind (w.moveApproval (by decide)) fun _ => Within.bind within_get fun _ =>
      Within.bind (w.executeRedemptionSettlement fun _ _ _ _ => hlot _ _ _ _ _ _) fun _ =>
      Within.bind (w.modifyReceipt _ _) fun _ => Within.bind (w.moveApproval (by decide)) fun _ =>
      Within.bind (w.recordAudit (by simp [decisionAudit])) fun _ => within_pure _

open LoyaltyService in
lemma decideTransaction (hlot : ∀ tenantId customerId i k earnedAt expiresAt,
      Within R E (insertCreditLot tenantId customerId i k earnedAt expiresAt))
    (req : DecisionRequest) (startedAt now : Int) :
    Within R E (decideTransaction rt req startedAt now) := by
  have hscope : Within R E (requireBranchScope req.actor) := by
    unfold requireBranchScope
    split
    · exact within_pure _
    · split
      · exact within_pure _
      · exact w.fault (by decide)
  unfold LoyaltyService.decideTransaction findPendingApproval
  refine Within.bind (w.insertIdempotencyRecord _ _) fun _ =>
    Within.bind (Within.bind hscope fun _ => Within.bind within_get fun _ =>
      Within.bind (w.orFault (by decide)) fun _ => Within.bind (w.rejectIf (by decide)) fun _ =>
      Within.bind (w.rejectIf (by decide)) fun _ => Within.bind (w.rejectIf (by decide)) fun _ =>
      within_pure _) fun _ => ?_
  split
  · exact w.decideEarnApproval hlot _ _ _ _
  · exact w.decideRedemptionApproval hlot _ _ _ _

open LoyaltyService in
lemma completeDecision (key : IdempotencyKey) (response : ApprovalDecisionResponse) :
    Within R E (completeDecision key response) := by
  unfold LoyaltyService.completeDecision
  exact Within.bind within_get fun _ => Within.bind (w.orFault (by decide)) fun _ =>
    w.updateIdempotencyRecord _ _

/-! ### Reversals -/

section

open ReversalsService

omit [Std.Refl R] in
lemma persistReverseNotification (input : ReversalInput) (i j : Nat) (receiptId : Option Nat)
    (phoneE164 : String) (occurredAt : Int) :
    Within R E (persistReverseNotification rt input i j receiptId phoneE164 occurredAt) := by
  unfold ReversalsService.persistReverseNotification
  refine Within.bind ?_ fun _ => w.insertOutboxEvent (by simp)
  exact within_update fun s => w.reversal s input.actor.tenantId i j receiptId occurredAt

lemma compensateCredit (input : ReversalInput) (customerId : String) (i lotId : Nat)
    (k : PositiveKobo) (c : CorrelationId) (now : Int) :
    Within R E (compensateCredit input customerId i lotId k c now) := by
  unfold ReversalsService.compensateCredit
  exact Within.bind (w.insertLedgerEntry _) fun _ => Within.bind (w.insertAdjustment _) fun _ =>
    Within.bind (w.allocateDebitFromExactLot _ _) fun _ => within_pure _

lemma restoreDebit (input : ReversalInput) (customerId : String) (i : Nat) (k : PositiveKobo)
    (c : CorrelationId) {changed : Fault} (hne : changed ≠ lifecycleFault)
    (planned : List PlannedRestoration) (now : Int) :
    Within R E (restoreDebit input customerId i k c changed planned now) := by
  have hrestore : ∀ j r, Within R E (restore input customerId j changed r) := by
    intro j r
    unfold restore
    exact Within.bind within_get fun _ => Within.bind (w.orFault hne) fun _ =>
      Within.bind (w.putRemaining _ _ _) fun _ => Within.bind (w.orFault (by decide)) fun _ =>
      Within.bind (w.insertRestoration _) fun _ => within_pure _
  unfold ReversalsService.restoreDebit
  exact Within.bind (w.insertLedgerEntry _) fun _ =>
    Within.bind (Within.each (hrestore _) _) fun _ => within_pure _

lemma markRedemptionReversed (tenantId : String) (i : Nat) (now : Int) :
    Within R E (markRedemptionReversed tenantId i now) := by
  unfold ReversalsService.markRedemptionReversed
  refine Within.bind within_get fun _ => ?_
  split
  · exact within_pure _
  · exact w.modifyRedemption _ _

lemma finishUngrouped (input : ReversalInput) (original : LoyaltyLedgerEntry) (phoneE164 : String)
    (receiptId : Option Nat) (i : Nat) (k : Int) (allocations : List PersistedAllocation)
    (restorations : List RestoredAmount) (now finishedAt : Int) :
    Within R E (finishUngrouped rt input original phoneE164 receiptId i k allocations restorations
      now finishedAt) := by
  unfold ReversalsService.finishUngrouped persistReverseIdempotency
  exact Within.bind within_get fun _ =>
    Within.bind (w.persistReverseNotification _ _ _ _ _ _) fun _ =>
    Within.bind (w.recordAudit (by simp [reversalAudit])) fun _ =>
    Within.bind (w.updateIdempotencyRecord _ _) fun _ => within_pure _

lemma reverseCredit (input : ReversalInput) (original : LoyaltyLedgerEntry) (phoneE164 : String)
    (now finishedAt : Int) :
    Within R E (reverseCredit rt input original phoneE164 now finishedAt) := by
  unfold ReversalsService.reverseCredit creditAmount
  exact Within.bind within_get fun _ =>
    Within.bind (Within.bind (w.rejectIf (by decide)) fun _ =>
      Within.bind (w.orFault (by decide)) fun _ => within_pure _) fun _ =>
    Within.bind (w.rejectIf (by decide)) fun _ => Within.bind (w.rejectIf (by decide)) fun _ =>
    Within.bind (w.compensateCredit _ _ _ _ _ _ _) fun _ => w.finishUngrouped _ _ _ _ _ _ _ _ _ _

lemma reverseDebit (input : ReversalInput) (original : LoyaltyLedgerEntry) (phoneE164 : String)
    (now finishedAt : Int) :
    Within R E (reverseDebit rt input original phoneE164 now finishedAt) := by
  unfold ReversalsService.reverseDebit
  exact Within.bind (w.planRestorations _ _ _) fun _ => Within.bind (w.orFault (by decide)) fun _ =>
    Within.bind (w.restoreDebit _ _ _ _ _ (by decide) _ _) fun _ =>
    Within.bind (w.markRedemptionReversed _ _ _).onlyIf fun _ => Within.bind within_get fun _ =>
    w.finishUngrouped _ _ _ _ _ _ _ _ _ _

lemma reverseOne (input : ReversalInput) (original : LoyaltyLedgerEntry) (phoneE164 : String)
    (now finishedAt : Int) :
      Within R E (reverseOne rt input original phoneE164 now finishedAt) := by
  unfold ReversalsService.reverseOne
  split
  · exact w.reverseCredit _ _ _ _ _
  · exact w.reverseCredit _ _ _ _ _
  · exact w.reverseDebit _ _ _ _ _
  · exact w.reverseDebit _ _ _ _ _
  · exact w.fault (by decide)

lemma findPair (db : Database) (input : ReversalInput) (receiptId : Nat) :
    Within R E (findPair db input receiptId) := by
  unfold ReversalsService.findPair
  exact Within.bind (w.rejectIf (by decide)) fun _ => Within.bind (w.orFault (by decide)) fun _ =>
    Within.bind (w.orFault (by decide)) fun _ => Within.bind (w.orFault (by decide)) fun _ =>
    Within.bind (w.rejectIf (by decide)) fun _ => within_pure _

lemma replayPair (db : Database) (p : SettlementPair)
    (earnReversals redeemReversals : List (Nat × LoyaltyLedgerEntry))
    (existingResponse : Option Response) :
    Within R E (replayPair db p earnReversals redeemReversals existingResponse) := by
  unfold ReversalsService.replayPair
  refine Within.bind (w.rejectIf (by decide)) fun _ => Within.bind (w.orFault (by decide)) fun _ =>
    Within.bind (w.orFault (by decide)) fun _ => Within.bind (w.orFault (by decide)) fun _ =>
    Within.bind (w.orFault (by decide)) fun _ => Within.bind (w.rejectIf (by decide)) fun _ => ?_
  split
  · exact Within.bind (w.rejectIf (by decide)) fun _ => within_pure _
  · exact w.fault (by decide)
  · exact w.fault (by decide)

lemma reverseFreshPair (input : ReversalInput) (p : SettlementPair) (phoneE164 : String)
    (now finishedAt : Int) :
    Within R E (reverseFreshPair rt input p phoneE164 now finishedAt) := by
  have hlot : ∀ db, Within R E (checkEarnLot db input p now) := by
    intro db
    unfold checkEarnLot
    exact Within.bind (w.orFault (by decide)) fun _ =>
      Within.bind (w.rejectIf (by decide)) fun _ => within_pure _
  unfold ReversalsService.reverseFreshPair checkAllocations persistReverseIdempotency
  exact Within.bind within_get fun _ => Within.bind (hlot _) fun _ =>
    Within.bind (w.rejectIf (by decide)) fun _ => Within.bind (w.planRestorations _ _ _) fun _ =>
    Within.bind (w.rejectIf (by decide)) fun _ =>
    Within.bind (w.compensateCredit _ _ _ _ _ _ _) fun _ =>
    Within.bind (w.rejectIf (by decide)) fun _ =>
    Within.bind (w.restoreDebit _ _ _ _ _ (by decide) _ _) fun _ =>
    Within.bind (w.markRedemptionReversed _ _ _) fun _ => Within.bind within_get fun _ =>
    Within.bind (w.persistReverseNotification _ _ _ _ _ _) fun _ =>
    Within.bind (w.recordAudit (by simp [reversalAudit])) fun _ =>
    Within.bind (w.updateIdempotencyRecord _ _) fun _ => within_pure _

lemma reverseTransaction (input : ReversalInput) (startedAt now finishedAt : Int) :
    Within R E (reverseTransaction rt input startedAt now finishedAt) := by
  have hopen : Within R E (openRecord input startedAt) := by
    unfold openRecord
    refine Within.bind within_get fun _ => ?_
    split
    · exact Within.bind (w.insertIdempotencyRecord _ _) fun _ => within_pure _
    · exact Within.bind (w.rejectIf (by decide)) fun _ =>
        Within.bind (w.orFault (by decide)) fun _ => within_pure _
  have hpair : ∀ receiptId phoneE164 existing, Within R E
      (reversePairedSettlement rt input receiptId phoneE164 existing now finishedAt) := by
    intro receiptId phoneE164 existing
    unfold reversePairedSettlement
    exact Within.bind within_get fun _ => Within.bind (w.findPair _ _ _) fun _ =>
      Within.bind (w.rejectIf (by decide)) fun _ => Within.bind (w.rejectIf (by decide)) fun _ =>
      Within.ite (fun _ => w.reverseFreshPair _ _ _ _ _) fun _ => w.replayPair _ _ _ _ _
  unfold ReversalsService.reverseTransaction
  refine Within.bind hopen fun _ => Within.bind within_get fun _ =>
    Within.bind (w.orFault (by decide)) fun _ => Within.bind (w.orFault (by decide)) fun _ =>
    Within.bind (w.rejectIf (by decide)) fun _ => ?_
  dsimp only
  split
  · exact Within.bind (hpair _ _ _) fun _ => within_pure _
  · split
    · exact within_pure _
    · exact Within.bind (w.rejectIf (by decide)) fun _ =>
        Within.bind (w.reverseOne _ _ _ _ _) fun _ => within_pure _

end

/-! ### The sweep, and what else is committed -/

open CreditExpiryService in
lemma expireDueCredit (systemActor : String → String) (now : Int) (batchSize : Nat)
    (skipped : List Nat) : Within R E (expireDueCredit rt systemActor now batchSize skipped) := by
  have hlot : ∀ r, Within R E (expireLot rt systemActor r) := by
    intro r
    unfold expireLot
    exact Within.bind (w.orFault (by decide)) fun _ => Within.bind (w.insertLedgerEntry _) fun _ =>
      Within.bind (w.insertCreditExpiry _) fun _ => Within.bind within_get fun _ =>
      Within.bind (w.orFault (by decide)) fun _ => Within.bind (w.rejectIf (by decide)) fun _ =>
      Within.bind (w.putRemaining _ _ _) fun _ => w.recordAudit (by simp)
  unfold CreditExpiryService.expireDueCredit
  exact Within.bind (w.rejectIf (by decide)) fun _ => Within.bind within_get fun _ =>
    Within.bind (Within.each hlot _) fun _ => within_pure _

omit [Std.Refl R] in
lemma recordDuplicateReceiptAttempt (a : DuplicateReceiptAttempt) :
    Within R E (recordDuplicateReceiptAttempt rt a) := by
  unfold ShopcityLoyalty.recordDuplicateReceiptAttempt
  exact Within.bind (w.recordAudit (by simp)) fun _ => w.insertOutboxEvent (by simp)

/-- **Every step** of the system stays within the relation. -/
theorem run {op : Op} {s t : System} (hlot : ∀ tenantId customerId i k earnedAt expiresAt,
      Within R E (insertCreditLot tenantId customerId i k earnedAt expiresAt))
    (hoverride : ∀ req adm now, op = .earn req adm now →
      LoyaltyService.earnCaptureStatus rt req adm ≠ .PENDING_APPROVAL → adm.overrideApplied →
      ∀ i, Within R E (Database.recordAudit (LoyaltyService.timestampOverrideAudit rt req i)))
    (h : s.run rt op = .ok t) : R s.db t.db := by
  have hcommit : ∀ {α : Type} {body : Tx α} {u : System}, Within R E body →
      s.commit body = .ok u → R s.db u.db := by
    intro α body u hbody hrun
    obtain ⟨a, db, hok, rfl⟩ := System.commit_ok.1 hrun
    exact hbody.ok hok
  cases op with
  | earn req adm now =>
      exact hcommit (w.earnTransaction (fun _ _ _ _ => hlot _ _ _ _ _ _)
        (hoverride req adm now rfl)) h
  | redeem req adm now => exact hcommit (w.redeemTransaction fun _ _ _ _ => hlot _ _ _ _ _ _) h
  | decide req startedAt now =>
      obtain ⟨res, hok, -⟩ := System.commitDecision_ok.1 h
      exact (w.decideTransaction hlot req startedAt now).ok hok
  | completeDecision key response =>
      simp only [System.run] at h
      split at h
      · cases hc : s.commit (LoyaltyService.completeDecision key response) with
        | error e => rw [hc] at h; cases h
        | ok u =>
            rw [hc] at h
            have hdb : u.db = t.db := by rw [← Except.ok.inj h]
            exact hdb ▸ hcommit (w.completeDecision key response) hc
      · cases h
  | reverse input startedAt now finishedAt => exact hcommit (w.reverseTransaction _ _ _ _) h
  | adjust req startedAt now finishedAt =>
      exact hcommit (w.adjustmentTransaction (fun _ _ => hlot _ _ _ _ _ _) _ _ _) h
  | expireCredit systemActor now batchSize skipped => exact hcommit (w.expireDueCredit _ _ _ _) h
  | expireApprovals now batchSize skipped => exact hcommit (w.expireOverdueApprovals _ _ _) h
  | cleanup key now =>
      have hbody : Within R E (cleanupExpiredIdempotencyRecords key now) :=
        w.update (fun _ => rfl) (fun _ => rfl) fun _ => rfl
      exact hcommit hbody h
  | cleanupAnyEndpoint key now =>
      have hbody : Within R E (cleanupExpiredRecordsOfAnyEndpoint key now) :=
        w.update (fun _ => rfl) (fun _ => rfl) fun _ => rfl
      exact hcommit hbody h
  | recordDuplicate attempt => exact hcommit (w.recordDuplicateReceiptAttempt _) h
  | administer registry =>
      have hbody : Within R E (Txn.update fun db : Database => { db with registry }) :=
        w.update (fun _ => rfl) (fun _ => rfl) fun _ => rfl
      exact hcommit hbody h

end Writes

end ShopcityLoyalty
