import ShopcityLoyalty.Database

/-!
The writes, with the constraints PostgreSQL checks at once, and when each succeeds.

A write that a unique index or a CHECK refuses rolls the transaction back. The constraint
triggers that PostgreSQL defers to the commit are not part of a write; they are stated
over the committed states.
-/

namespace ShopcityLoyalty

/-- The constraint `Redemption_financial_state_machine_check`. -/
def Redemption.stateMachineCheck (r : Redemption) : Prop :=
  match r.status with
  | .PENDING_APPROVAL =>
      r.ledgerEntryId = none ∧ r.confirmedAmountKobo = none ∧ r.confirmedAt = none ∧
        r.rejectedAt = none ∧ r.reversedAt = none
  | .CONFIRMED =>
      r.ledgerEntryId ≠ none ∧ r.confirmedAmountKobo = some r.requestedAmountKobo ∧
        r.confirmedAt ≠ none ∧ r.rejectedAt = none
  | .REJECTED => r.ledgerEntryId = none ∧ r.confirmedAmountKobo = none ∧ r.rejectedAt ≠ none
  | .EXPIRED => r.ledgerEntryId = none ∧ r.confirmedAmountKobo = none
  | .REVERSED => r.ledgerEntryId ≠ none ∧ r.confirmedAmountKobo ≠ none ∧ r.reversedAt ≠ none

instance : DecidablePred Redemption.stateMachineCheck := fun r => by
  unfold Redemption.stateMachineCheck; cases r.status <;> infer_instance

/-- The constraint `Approval_financial_state_machine_check`. -/
def Approval.stateMachineCheck (a : Approval) : Prop :=
  match a.status with
  | .PENDING =>
      a.decisionBy = none ∧ a.decisionReason = none ∧ a.decidedAt = none ∧ a.executedAt = none
  | .APPROVED | .REJECTED =>
      a.decisionBy ≠ none ∧ a.decisionReason ≠ none ∧ a.decidedAt ≠ none ∧ a.executedAt = none
  | .EXECUTED =>
      a.decisionBy ≠ none ∧ a.decisionReason ≠ none ∧ a.decidedAt ≠ none ∧ a.executedAt ≠ none
  | .EXPIRED => a.decisionReason ≠ none ∧ a.decidedAt ≠ none ∧ a.executedAt = none

instance : DecidablePred Approval.stateMachineCheck := fun a => by
  unfold Approval.stateMachineCheck; cases a.status <;> infer_instance

namespace Database

open Txn

def sameReceiptIdentity (r r' : Receipt) : Prop :=
  r.tenantId = r'.tenantId ∧ r.branchId = r'.branchId ∧
    r.receiptWeekStart = r'.receiptWeekStart ∧
    r.normalizedPosReceiptNumber = r'.normalizedPosReceiptNumber

instance (r r' : Receipt) : Decidable (sameReceiptIdentity r r') :=
  inferInstanceAs (Decidable (_ ∧ _))

def insertReceipt (r : Receipt) : Tx Nat := do
  let db ← get
  rejectIf (∃ x ∈ db.receipts, sameReceiptIdentity x r) (.unique .receiptIdentity)
  update fun s => { s with receipts := s.receipts ++ [r] }
  pure db.receipts.nextId

def modifyReceipt (i : Nat) (f : Receipt → Receipt) : Tx Unit := do
  let db ← get
  let r ← orFault db.receipts[i]? .missing
  update fun s => { s with receipts := s.receipts.set i (f r) }

def insertRedemption (r : Redemption) : Tx Nat := do
  let db ← get
  rejectIf (r.maximumAllowedKobo < 0) (.check "Redemption_maximumAllowedKobo_nonnegative_check")
  rejectIf (¬ r.stateMachineCheck) (.check "Redemption_financial_state_machine_check")
  rejectIf (∃ x ∈ db.redemptions, x.receiptId = r.receiptId) (.unique .redemptionReceiptId)
  update fun s => { s with redemptions := s.redemptions ++ [r] }
  pure db.redemptions.nextId

def modifyRedemption (i : Nat) (f : Redemption → Redemption) : Tx Unit := do
  let db ← get
  let r ← orFault db.redemptions[i]? .missing
  rejectIf (¬ (f r).stateMachineCheck) (.check "Redemption_financial_state_machine_check")
  update fun s => { s with redemptions := s.redemptions.set i (f r) }

def insertApproval (a : Approval) : Tx Nat := do
  let db ← get
  rejectIf (¬ a.stateMachineCheck) (.check "Approval_financial_state_machine_check")
  rejectIf (∃ x ∈ db.approvals, x.target = a.target) (.unique .approvalTarget)
  update fun s => { s with approvals := s.approvals ++ [a] }
  pure db.approvals.nextId

def modifyApproval (i : Nat) (f : Approval → Approval) : Tx Unit := do
  let db ← get
  let a ← orFault db.approvals[i]? .missing
  rejectIf (¬ (f a).stateMachineCheck) (.check "Approval_financial_state_machine_check")
  update fun s => { s with approvals := s.approvals.set i (f a) }

/-- Whether an entry is already the EARN, or the REDEEM, effect of a receipt. -/
def isReceiptEffect (receiptId : Option Nat) (type : LedgerEntryType) (e : LoyaltyLedgerEntry) :
    Prop :=
  receiptId ≠ none ∧ (type = .EARN ∨ type = .REDEEM) ∧ e.receiptId = receiptId ∧ e.type = type

instance (r : Option Nat) (ty : LedgerEntryType) : DecidablePred (isReceiptEffect r ty) :=
  fun _ => inferInstanceAs (Decidable (_ ∧ _))

def insertLedgerEntry (e : LoyaltyLedgerEntry) : Tx Nat := do
  let db ← get
  rejectIf (∃ x ∈ db.ledger, x.correlationId = e.correlationId) (.unique .ledgerCorrelationId)
  rejectIf (e.reversesEntryId ≠ none ∧ ∃ x ∈ db.ledger, x.reversesEntryId = e.reversesEntryId)
    (.unique .ledgerReversesEntryId)
  rejectIf (∃ x ∈ db.ledger, isReceiptEffect e.receiptId e.type x) (.unique .ledgerReceiptEffect)
  update fun s => { s with ledger := s.ledger ++ [e] }
  pure db.ledger.nextId

/-- The trigger `validate_credit_lot_source`. -/
def validate_credit_lot_source (db : Database) (l : CreditLot) : Prop :=
  ∃ e ∈ db.ledger[l.earnLedgerEntryId]?, e.tenantId = l.tenantId ∧ e.customerId = l.customerId ∧
    e.amountKobo = l.originalAmountKobo ∧ e.effectiveAt = l.earnedAt ∧ e.direction = .CREDIT ∧
    (e.type = .EARN ∨ e.type = .ADJUSTMENT)

instance (db : Database) : DecidablePred (validate_credit_lot_source db) := fun l => by
  unfold validate_credit_lot_source; infer_instance

/-- A new lot that is still whole. The trigger `validate_credit_lot_lifecycle` refuses an
expiry other than the derived one. -/
def wholeLot? (tenantId customerId : String) (earnLedgerEntryId : Nat) (amountKobo : PositiveKobo)
    (earnedAt expiresAt : Int) : Option CreditLot :=
  if h : derive_credit_lot_expires_at earnedAt = some expiresAt then
    some { tenantId, customerId, earnLedgerEntryId, originalAmountKobo := amountKobo,
           remainingAmountKobo := amountKobo, earnedAt, expiresAt,
           remaining_nonneg := amountKobo.2.le, remaining_le := le_rfl, lifecycle := h }
  else none

def insertCreditLot (tenantId customerId : String) (earnLedgerEntryId : Nat)
    (amountKobo : PositiveKobo) (earnedAt expiresAt : Int) : Tx Nat := do
  let db ← get
  let lot ← orFault (wholeLot? tenantId customerId earnLedgerEntryId amountKobo earnedAt expiresAt)
    (.check "validate_credit_lot_lifecycle")
  rejectIf (¬ validate_credit_lot_source db lot) (.check "validate_credit_lot_source")
  rejectIf (∃ x ∈ db.lots, x.earnLedgerEntryId = earnLedgerEntryId)
    (.unique .creditLotEarnLedgerEntryId)
  update fun s => { s with lots := s.lots ++ [lot] }
  pure db.lots.nextId

/-- Set a lot's remaining amount. -/
def putRemaining (i : Nat) (l : CreditLot) (k : Int) : Tx Unit := do
  let l' ← orFault (l.withRemaining? k) (.check "CreditLot_remainingAmountKobo_check")
  update fun s => { s with lots := s.lots.set i l' }

def insertCreditExpiry (x : CreditExpiry) : Tx Nat := do
  let db ← get
  rejectIf (∃ y ∈ db.expiries, y.creditLotId = x.creditLotId) (.unique .creditExpiryCreditLotId)
  rejectIf (∃ y ∈ db.expiries, y.ledgerEntryId = x.ledgerEntryId)
    (.unique .creditExpiryLedgerEntryId)
  update fun s => { s with expiries := s.expiries ++ [x] }
  pure db.expiries.nextId

def insertAllocation (a : RedemptionAllocation) : Tx Nat := do
  let db ← get
  rejectIf (∃ x ∈ db.allocations, x.target = a.target ∧ x.creditLotId = a.creditLotId)
    (.unique .allocationTargetLot)
  rejectIf (∃ x ∈ db.allocations, x.target = a.target ∧ x.allocationOrder = a.allocationOrder)
    (.unique .allocationTargetOrder)
  update fun s => { s with allocations := s.allocations ++ [a] }
  pure db.allocations.nextId

def insertRestoration (r : AllocationRestoration) : Tx Nat := do
  let db ← get
  rejectIf (∃ x ∈ db.restorations, x.allocationId = r.allocationId ∧
    x.reversalLedgerEntryId = r.reversalLedgerEntryId) (.unique .restorationAllocationReversal)
  update fun s => { s with restorations := s.restorations ++ [r] }
  pure db.restorations.nextId

/-- The trigger `validate_adjustment_ledger_source`. -/
def validate_adjustment_ledger_source (db : Database) (a : Adjustment) : Prop :=
  ∃ e ∈ db.ledger[a.ledgerEntryId]?, e.tenantId = a.tenantId ∧ e.customerId = a.customerId ∧
    e.amountKobo = a.amountKobo ∧ e.effectiveAt = a.effectiveAt ∧ e.direction = a.kind ∧
    e.type = .ADJUSTMENT

instance (db : Database) : DecidablePred (validate_adjustment_ledger_source db) := fun a => by
  unfold validate_adjustment_ledger_source; infer_instance

def insertAdjustment (a : Adjustment) : Tx Nat := do
  let db ← get
  rejectIf (a.reason.toList.all fun c => c = ' ') (.check "Adjustment_reason_nonempty_check")
  rejectIf (¬ validate_adjustment_ledger_source db a) (.check "validate_adjustment_ledger_source")
  rejectIf (∃ x ∈ db.adjustments, x.ledgerEntryId = a.ledgerEntryId)
    (.unique .adjustmentLedgerEntryId)
  update fun s => { s with adjustments := s.adjustments ++ [a] }
  pure db.adjustments.nextId

def insertOutboxEvent (e : OutboxEvent) : Tx Unit :=
  update fun s => { s with outbox := s.outbox ++ [e] }

/-- `auditService.recordWithClient`. -/
def recordAudit (a : AuditLog) : Tx Unit :=
  update fun s => { s with auditLog := s.auditLog ++ [a] }

def insertIdempotencyRecord (k : IdempotencyKey) (r : IdempotencyRecord Response) : Tx Unit := do
  let db ← get
  rejectIf (db.idempotency k).isSome (.unique .idempotencyKey)
  update fun s => { s with idempotency := Function.update s.idempotency k (some r) }

def updateIdempotencyRecord (k : IdempotencyKey) (r : IdempotencyRecord Response) : Tx Unit := do
  let db ← get
  rejectIf (db.idempotency k).isNone .missing
  update fun s => { s with idempotency := Function.update s.idempotency k (some r) }

/-! ### When a write succeeds, and what it leaves -/

variable {s t : Database} {i : Nat} {u : Unit}

@[simp] lemma insertReceipt_ok {r : Receipt} :
    insertReceipt r s = .ok (i, t) ↔
      (∀ x ∈ s.receipts, ¬ sameReceiptIdentity x r) ∧ i = s.receipts.length ∧
        t = { s with receipts := s.receipts ++ [r] } := by
  simp [insertReceipt]

@[simp] lemma modifyReceipt_ok {f : Receipt → Receipt} :
    modifyReceipt i f s = .ok (u, t) ↔
      ∃ r, s.receipts[i]? = some r ∧ t = { s with receipts := s.receipts.set i (f r) } := by
  simp [modifyReceipt]

@[simp] lemma insertRedemption_ok {r : Redemption} :
    insertRedemption r s = .ok (i, t) ↔
      0 ≤ r.maximumAllowedKobo ∧ r.stateMachineCheck ∧
        (∀ x ∈ s.redemptions, x.receiptId ≠ r.receiptId) ∧ i = s.redemptions.length ∧
        t = { s with redemptions := s.redemptions ++ [r] } := by
  simp [insertRedemption]

@[simp] lemma modifyRedemption_ok {f : Redemption → Redemption} :
    modifyRedemption i f s = .ok (u, t) ↔
      ∃ r, s.redemptions[i]? = some r ∧ (f r).stateMachineCheck ∧
        t = { s with redemptions := s.redemptions.set i (f r) } := by
  simp [modifyRedemption]

@[simp] lemma insertApproval_ok {a : Approval} :
    insertApproval a s = .ok (i, t) ↔
      a.stateMachineCheck ∧ (∀ x ∈ s.approvals, x.target ≠ a.target) ∧ i = s.approvals.length ∧
        t = { s with approvals := s.approvals ++ [a] } := by
  simp [insertApproval]

@[simp] lemma modifyApproval_ok {f : Approval → Approval} :
    modifyApproval i f s = .ok (u, t) ↔
      ∃ a, s.approvals[i]? = some a ∧ (f a).stateMachineCheck ∧
        t = { s with approvals := s.approvals.set i (f a) } := by
  simp [modifyApproval]

/-- What the unique indexes of the ledger ask of a new entry. -/
structure Admits (s : Database) (e : LoyaltyLedgerEntry) : Prop where
  correlationId : ∀ x ∈ s.ledger, x.correlationId ≠ e.correlationId
  reversesEntryId : e.reversesEntryId ≠ none → ∀ x ∈ s.ledger, x.reversesEntryId ≠ e.reversesEntryId
  receiptEffect : ∀ x ∈ s.ledger, ¬ isReceiptEffect e.receiptId e.type x

@[simp] lemma insertLedgerEntry_ok {e : LoyaltyLedgerEntry} :
    insertLedgerEntry e s = .ok (i, t) ↔
      s.Admits e ∧ i = s.ledger.length ∧ t = { s with ledger := s.ledger ++ [e] } := by
  have h : s.Admits e ↔ (∀ x ∈ s.ledger, x.correlationId ≠ e.correlationId) ∧
      (e.reversesEntryId ≠ none → ∀ x ∈ s.ledger, x.reversesEntryId ≠ e.reversesEntryId) ∧
      ∀ x ∈ s.ledger, ¬ isReceiptEffect e.receiptId e.type x :=
    ⟨fun ⟨a, b, c⟩ => ⟨a, b, c⟩, fun ⟨a, b, c⟩ => ⟨a, b, c⟩⟩
  simp [insertLedgerEntry, h, and_assoc]

/-- What a new lot starts with. -/
structure Whole (tenantId customerId : String) (earnLedgerEntryId : Nat)
    (amountKobo : PositiveKobo) (earnedAt expiresAt : Int) (l : CreditLot) : Prop where
  tenantId : l.tenantId = tenantId
  customerId : l.customerId = customerId
  earnLedgerEntryId : l.earnLedgerEntryId = earnLedgerEntryId
  originalAmountKobo : l.originalAmountKobo = amountKobo
  remainingAmountKobo : l.remainingAmountKobo = amountKobo
  earnedAt : l.earnedAt = earnedAt
  expiresAt : l.expiresAt = expiresAt

lemma wholeLot?_eq_some {tenantId customerId : String} {earnLedgerEntryId : Nat}
    {amountKobo : PositiveKobo} {earnedAt expiresAt : Int} {l : CreditLot} :
    wholeLot? tenantId customerId earnLedgerEntryId amountKobo earnedAt expiresAt = some l ↔
      Whole tenantId customerId earnLedgerEntryId amountKobo earnedAt expiresAt l := by
  unfold wholeLot?
  constructor
  · intro h
    split at h
    · obtain rfl := Option.some.inj h
      exact ⟨rfl, rfl, rfl, rfl, rfl, rfl, rfl⟩
    · cases h
  · rintro ⟨rfl, rfl, rfl, rfl, h, rfl, rfl⟩
    rw [dif_pos l.lifecycle]
    cases l; simp_all

lemma insertCreditLot_ok {tenantId customerId : String} {earnLedgerEntryId : Nat}
    {amountKobo : PositiveKobo} {earnedAt expiresAt : Int} :
    insertCreditLot tenantId customerId earnLedgerEntryId amountKobo earnedAt expiresAt s =
        .ok (i, t) ↔
      ∃ l, Whole tenantId customerId earnLedgerEntryId amountKobo earnedAt expiresAt l ∧
        validate_credit_lot_source s l ∧
        (∀ x ∈ s.lots, x.earnLedgerEntryId ≠ earnLedgerEntryId) ∧ i = s.lots.length ∧
        t = { s with lots := s.lots ++ [l] } := by
  simp [insertCreditLot, wholeLot?_eq_some]

@[simp] lemma putRemaining_ok {l : CreditLot} {k : Int} :
    putRemaining i l k s = .ok (u, t) ↔
      ∃ l', l.withRemaining? k = some l' ∧ t = { s with lots := s.lots.set i l' } := by
  simp [putRemaining]

@[simp] lemma insertCreditExpiry_ok {x : CreditExpiry} :
    insertCreditExpiry x s = .ok (i, t) ↔
      (∀ y ∈ s.expiries, y.creditLotId ≠ x.creditLotId) ∧
        (∀ y ∈ s.expiries, y.ledgerEntryId ≠ x.ledgerEntryId) ∧ i = s.expiries.length ∧
        t = { s with expiries := s.expiries ++ [x] } := by
  simp [insertCreditExpiry]

@[simp] lemma insertAllocation_ok {a : RedemptionAllocation} :
    insertAllocation a s = .ok (i, t) ↔
      (∀ x ∈ s.allocations, x.target = a.target → x.creditLotId ≠ a.creditLotId) ∧
        (∀ x ∈ s.allocations, x.target = a.target → x.allocationOrder ≠ a.allocationOrder) ∧
        i = s.allocations.length ∧ t = { s with allocations := s.allocations ++ [a] } := by
  simp [insertAllocation]

@[simp] lemma insertRestoration_ok {r : AllocationRestoration} :
    insertRestoration r s = .ok (i, t) ↔
      (∀ x ∈ s.restorations, x.allocationId = r.allocationId →
          x.reversalLedgerEntryId ≠ r.reversalLedgerEntryId) ∧
        i = s.restorations.length ∧ t = { s with restorations := s.restorations ++ [r] } := by
  simp [insertRestoration]

@[simp] lemma insertAdjustment_ok {a : Adjustment} :
    insertAdjustment a s = .ok (i, t) ↔
      (∃ c ∈ a.reason.toList, c ≠ ' ') ∧ validate_adjustment_ledger_source s a ∧
        (∀ x ∈ s.adjustments, x.ledgerEntryId ≠ a.ledgerEntryId) ∧ i = s.adjustments.length ∧
        t = { s with adjustments := s.adjustments ++ [a] } := by
  simp [insertAdjustment]

@[simp] lemma insertOutboxEvent_ok {e : OutboxEvent} :
    insertOutboxEvent e s = .ok (u, t) ↔ t = { s with outbox := s.outbox ++ [e] } := by
  simp [insertOutboxEvent]

@[simp] lemma recordAudit_ok {a : AuditLog} :
    recordAudit a s = .ok (u, t) ↔ t = { s with auditLog := s.auditLog ++ [a] } := by
  simp [recordAudit]

@[simp] lemma insertIdempotencyRecord_ok {k : IdempotencyKey} {r : IdempotencyRecord Response} :
    insertIdempotencyRecord k r s = .ok (u, t) ↔
      s.idempotency k = none ∧
        t = { s with idempotency := Function.update s.idempotency k (some r) } := by
  simp [insertIdempotencyRecord]

@[simp] lemma updateIdempotencyRecord_ok {k : IdempotencyKey} {r : IdempotencyRecord Response} :
    updateIdempotencyRecord k r s = .ok (u, t) ↔
      s.idempotency k ≠ none ∧
        t = { s with idempotency := Function.update s.idempotency k (some r) } := by
  simp [updateIdempotencyRecord]

end Database

end ShopcityLoyalty
