import ShopcityLoyalty.Idempotency
import ShopcityLoyalty.LotAllocation

/-!
Reversing a ledger entry: `ReversalsService.reverse`.

A credit is reversed by a debit of its whole lot, a debit by putting back what is left to
restore of its allocations. A receipt with an EARN and a REDEEM entry is reversed as a
pair, whichever of the two the request names.
-/

namespace ShopcityLoyalty

open Txn Database

structure ReversalRequest where
  actor : AuthContext
  idempotencyKey : String
  transactionId : Nat
  reason : String

def ReversalRequest.key (req : ReversalRequest) : IdempotencyKey :=
  ⟨req.actor.tenantId, req.actor.id, .reverse, req.idempotencyKey⟩

/-- What `runReverseTransaction` is given: the request and the hash it was looked up with. -/
structure ReversalInput extends ReversalRequest where
  requestHash : Digest

namespace ReversalsService

def normalizeIdempotencyKey (value : Option String) : Tx String := do
  let normalized := trim (value.getD "")
  rejectIf (normalized = "") (.http 400 "VALIDATION_ERROR" "Idempotency-Key header is required")
  pure normalized

def normalizeReason (value : String) : Tx String := do
  let normalized := trim value
  rejectIf (normalized = "") (.http 400 "VALIDATION_ERROR" "Reversal reason is required")
  rejectIf (500 < utf16Length normalized)
    (.http 400 "VALIDATION_ERROR" "Reversal reason must be at most 500 characters")
  pure normalized

def reversalRequest (actor : AuthContext) (transactionId : Nat) (idempotencyKey : Option String)
    (reason : String) : Tx ReversalRequest := do
  let normalizedKey ← normalizeIdempotencyKey idempotencyKey
  let reason ← normalizeReason reason
  pure { actor, idempotencyKey := normalizedKey, transactionId, reason }

def hashRequest (actor : AuthContext) (transactionId reason : String) : Digest :=
  sha256 (Json.stringify (.object [("tenantId", .string actor.tenantId),
    ("actorId", .string actor.id), ("transactionId", .string transactionId),
    ("reason", .string reason)]))

/-- The ledger entries of a receipt, with their ids. -/
def receiptEffects (db : Database) (receiptId : Nat) : List (Nat × LoyaltyLedgerEntry) :=
  db.ledger.select fun e => e.receiptId = some receiptId

/-- The redemption that names a ledger entry. -/
def redemptionOf (db : Database) (ledgerEntryId : Nat) : Option (Nat × Redemption) :=
  db.redemptions.find fun r => r.ledgerEntryId = some ledgerEntryId

/-- The receipt of an entry, its own or that of its redemption. -/
def receiptOf (db : Database) (entryId : Nat) (e : LoyaltyLedgerEntry) : Option Nat :=
  e.receiptId <|> (redemptionOf db entryId).map (·.2.receiptId)

/-- Whether a receipt has two effects, one EARN and one REDEEM. -/
def isPair (effects : List (Nat × LoyaltyLedgerEntry)) : Prop :=
  effects.length = 2 ∧ (∃ e ∈ effects, e.2.type = .EARN) ∧ ∃ e ∈ effects, e.2.type = .REDEEM

instance : DecidablePred isPair := fun _ => inferInstanceAs (Decidable (_ ∧ _))

/-- What is read before the transaction about the receipt of the selected entry. -/
structure Selection where
  candidateReceiptId : Option Nat
  pairedReceiptId : Option Nat

def select (db : Database) (tenantId : String) (transactionId : Nat) : Selection :=
  match db.ledger[transactionId]?.filter fun e => e.tenantId = tenantId with
  | none => ⟨none, none⟩
  | some e =>
      let candidate := receiptOf db transactionId e
      ⟨candidate, candidate.filter fun r => isPair (receiptEffects db r)⟩

/-- The hash of the settlement pair of a receipt. -/
def groupedRequestHash (rt : Runtime) (req : ReversalRequest) (receiptId : Nat) : Digest :=
  hashRequest req.actor (rt.uuid .receipts receiptId) req.reason

/-- The hash a request is looked up with: by its receipt when that has a pair. -/
def requestHashOf (rt : Runtime) (req : ReversalRequest) (sel : Selection) : Digest :=
  match sel.pairedReceiptId with
  | some r => groupedRequestHash rt req r
  | none => hashRequest req.actor (rt.uuid .ledger req.transactionId) req.reason

/-- What `reverse` reads before it cleans up under the key. -/
def startReverse (actor : AuthContext) (transactionId : Nat) (idempotencyKey : Option String)
    (reason : String) : Tx (ReversalRequest × Selection) := do
  let req ← reversalRequest actor transactionId idempotencyKey reason
  let db ← get
  pure (req, select db actor.tenantId transactionId)

/-- The record was made for a pair that the receipt does not have any more. -/
def LostPair (rt : Runtime) (req : ReversalRequest) (sel : Selection) (requestHash : Digest) :
    Prop :=
  sel.pairedReceiptId = none ∧
    ∃ r ∈ sel.candidateReceiptId, requestHash = groupedRequestHash rt req r

instance (rt : Runtime) (req : ReversalRequest) (sel : Selection) (requestHash : Digest) :
    Decidable (LostPair rt req sel requestHash) :=
  inferInstanceAs (Decidable (_ ∧ _))

def lostPair : Fault :=
  reviewRequired "Previously grouped receipt no longer has its exact settlement pair"

/-- The lookup of the key. A pair is replayed inside the transaction. -/
def lookUpReverse (rt : Runtime) (req : ReversalRequest) (sel : Selection) : Tx Precheck := do
  let db ← get
  match db.idempotency req.key with
  | none => pure .proceed
  | some existing => do
      rejectIf (LostPair rt req sel existing.requestHash) lostPair
      rejectIf (existing.requestHash ≠ requestHashOf rt req sel) idempotencyConflict
      match existing.responseJson, sel.pairedReceiptId with
      | some response, none => pure (.replay response)
      | _, _ => pure .proceed

/-! ### What a reversal reads and writes -/

def alreadyReversed : Fault :=
  .http 409 "TRANSACTION_ALREADY_REVERSED" "Transaction already has a reversal"

def transactionNotFound : Fault := .http 404 "TRANSACTION_NOT_FOUND" "Transaction not found"

/-- The entries whose `reversesEntryId` names an entry. -/
def reversedByEntries (db : Database) (entryId : Nat) : List (Nat × LoyaltyLedgerEntry) :=
  db.ledger.select fun e => e.reversesEntryId = some entryId

/-- The lot of a credit entry. -/
def creditLotOf (db : Database) (entryId : Nat) : Option (Nat × CreditLot) :=
  db.lots.find fun l => l.earnLedgerEntryId = entryId

/-- The adjustment of an entry. -/
def adjustmentOf (db : Database) (entryId : Nat) : Option (Nat × Adjustment) :=
  db.adjustments.find fun a => a.ledgerEntryId = entryId

/-- The PENDING record a reversal starts with. -/
def pendingRecord (requestHash : Digest) (startedAt : Int) : IdempotencyRecord Response where
  requestHash := requestHash
  responseJson := none
  status := .PENDING
  expiresAt := startedAt + IDP_EXPIRY_MS

/-- `persistReverseIdempotency`: the record is completed in the same transaction. -/
def persistReverseIdempotency (input : ReversalInput) (response : ReversalResponse)
    (finishedAt : Int) : Tx Unit :=
  updateIdempotencyRecord input.key
    { requestHash := input.requestHash, responseJson := some (.reversal response)
      status := .COMPLETED, expiresAt := finishedAt + IDP_EXPIRY_MS }

/-- `persistReverseNotification`. -/
def persistReverseNotification (rt : Runtime) (input : ReversalInput) (reversalLedgerEntryId : Nat)
    (originalTransactionId : Nat) (receiptId : Option Nat) (phoneE164 : String)
    (occurredAt : Int) : Tx Unit := do
  let receiptId := (receiptId.map fun r => Json.string (rt.uuid .receipts r)).getD .null
  insertOutboxEvent
    { tenantId := input.actor.tenantId, aggregateType := "reversal"
      aggregateId := rt.uuid .ledger reversalLedgerEntryId, eventType := "fraud.evaluate"
      payload := .object [("kind", .string "transaction.reversed"),
        ("reversalLedgerEntryId", .string (rt.uuid .ledger reversalLedgerEntryId)),
        ("originalTransactionId", .string (rt.uuid .ledger originalTransactionId)),
        ("receiptId", receiptId), ("occurredAt", .string (Calendar.toISOString occurredAt))] }
  insertOutboxEvent
    { tenantId := input.actor.tenantId, aggregateType := "ledger-entry"
      aggregateId := rt.uuid .ledger reversalLedgerEntryId, eventType := "sms.send"
      payload := .object [("version", .number 1),
        ("transactionId", .string (rt.uuid .ledger originalTransactionId)),
          ("receiptId", receiptId),
        ("phoneE164", .string phoneE164), ("template", .string "transaction-reversed")] }

def reversalAudit (input : ReversalInput) (entityType entityId : String)
    (details : List (String × Json)) : AuditLog where
  tenantId := input.actor.tenantId
  actorId := some input.actor.id
  action := "transaction.reversed"
  entityType := entityType
  entityId := entityId
  metadata := .object (("reason", .string input.reason) :: details)

def compensatingEntry (input : ReversalInput) (customerId : String) (creditEntryId : Nat)
    (amountKobo : PositiveKobo) (correlationId : CorrelationId) (now : Int) :
    LoyaltyLedgerEntry where
  tenantId := input.actor.tenantId
  customerId := customerId
  receiptId := none
  type := .ADJUSTMENT
  direction := .DEBIT
  amountKobo := amountKobo
  correlationId := correlationId
  reversesEntryId := some creditEntryId
  createdBy := input.actor.staff
  effectiveAt := now

def compensatingAdjustment (input : ReversalInput) (customerId : String)
    (amountKobo : PositiveKobo) (reversalLedgerEntryId : Nat) (now : Int) : Adjustment where
  tenantId := input.actor.tenantId
  customerId := customerId
  kind := .DEBIT
  amountKobo := amountKobo
  reason := input.reason
  createdBy := input.actor.staff
  ledgerEntryId := reversalLedgerEntryId
  effectiveAt := now

/-- The debit that takes a credit's whole lot back, with its adjustment and allocation. -/
def compensateCredit (input : ReversalInput) (customerId : String) (creditEntryId lotId : Nat)
    (amountKobo : PositiveKobo) (correlationId : CorrelationId) (now : Int) :
    Tx (Nat × List PersistedAllocation) := do
  let reversalLedgerEntryId ← insertLedgerEntry
    (compensatingEntry input customerId creditEntryId amountKobo correlationId now)
  let adjustmentId ← insertAdjustment
    (compensatingAdjustment input customerId amountKobo reversalLedgerEntryId now)
  let allocations ← LotAllocationService.allocateDebitFromExactLot
    { tenantId := input.actor.tenantId, customerId, debitLedgerEntryId := reversalLedgerEntryId
      amountKobo, now, target := .adjustment adjustmentId } lotId
  pure (reversalLedgerEntryId, allocations)

def restoringEntry (input : ReversalInput) (customerId : String) (debitEntryId : Nat)
    (amountKobo : PositiveKobo) (correlationId : CorrelationId) (now : Int) :
    LoyaltyLedgerEntry where
  tenantId := input.actor.tenantId
  customerId := customerId
  receiptId := none
  type := .REVERSAL
  direction := .CREDIT
  amountKobo := amountKobo
  correlationId := correlationId
  reversesEntryId := some debitEntryId
  createdBy := input.actor.staff
  effectiveAt := now

/-- One planned restoration: the lot grows and the restoration is recorded. -/
def restore (input : ReversalInput) (customerId : String) (reversalLedgerEntryId : Nat)
    (changed : Fault) (r : PlannedRestoration) : Tx Unit := do
  let db ← get
  let lot ← orFault (db.lots[r.creditLotId]?.filter fun l =>
    l.tenantId = input.actor.tenantId ∧ l.customerId = customerId) changed
  putRemaining r.creditLotId lot (lot.remainingAmountKobo + r.amountKobo)
  let amountKobo ← orFault (PositiveKobo.of? r.amountKobo)
    (.check "AllocationRestoration_amountKobo_positive_check")
  let _ ← insertRestoration
    { tenantId := input.actor.tenantId, allocationId := r.allocationId, reversalLedgerEntryId
      amountKobo }

/-- The credit that puts a debit back, with its restorations. -/
def restoreDebit (input : ReversalInput) (customerId : String) (debitEntryId : Nat)
    (amountKobo : PositiveKobo) (correlationId : CorrelationId) (changed : Fault)
    (planned : List PlannedRestoration) (now : Int) : Tx Nat := do
  let reversalLedgerEntryId ← insertLedgerEntry
    (restoringEntry input customerId debitEntryId amountKobo correlationId now)
  each (restore input customerId reversalLedgerEntryId changed) planned
  pure reversalLedgerEntryId

def reversedRedemption (now : Int) (r : Redemption) : Redemption :=
  { r with status := .REVERSED, reversedAt := some now }

/-- `redemption.updateMany` on the redemption of an entry; there may be none. -/
def markRedemptionReversed (tenantId : String) (entryId : Nat) (now : Int) : Tx Unit := do
  let db ← get
  match (redemptionOf db entryId).filter fun r => r.2.tenantId = tenantId with
  | none => pure ()
  | some (redemptionId, _) =>
      modifyRedemption redemptionId (reversedRedemption now)

def restoredAmounts (planned : List PlannedRestoration) : List RestoredAmount :=
  planned.map fun r => ⟨r.allocationId, r.creditLotId, r.amountKobo⟩

def totalPlanned (planned : List PlannedRestoration) : Int := (planned.map (·.amountKobo)).sum

/-- The ungrouped response, once everything is written. -/
def ungroupedResponse (db : Database) (input : ReversalInput) (original : LoyaltyLedgerEntry)
    (reversalLedgerEntryId : Nat) (reversedAmountKobo : Int)
    (allocations : List PersistedAllocation) (restorations : List RestoredAmount)
    (now : Int) : ReversalResponse where
  grouped := none
  id := reversalLedgerEntryId
  transactionId := reversalLedgerEntryId
  originalTransactionId := input.transactionId
  originalTransactionType := original.type
  reversedAmountKobo := reversedAmountKobo
  newActiveBalanceKobo := ActiveBalanceService.getActiveBalanceKobo db input.actor.tenantId
    original.customerId now
  allocations := allocations
  restorations := restorations
  smsStatus := some .QUEUED
  occurredAt := now
  requestedAt := now

/-- What follows a reversal of one entry: balance, notification, audit and the response. -/
def finishUngrouped (rt : Runtime) (input : ReversalInput) (original : LoyaltyLedgerEntry)
    (phoneE164 : String) (receiptId : Option Nat) (reversalLedgerEntryId : Nat)
    (reversedAmountKobo : Int) (allocations : List PersistedAllocation)
    (restorations : List RestoredAmount) (now finishedAt : Int) : Tx ReversalResponse := do
  let db ← get
  let response := ungroupedResponse db input original reversalLedgerEntryId reversedAmountKobo
    allocations restorations now
  persistReverseNotification rt input reversalLedgerEntryId input.transactionId receiptId phoneE164
    now
  recordAudit (reversalAudit input "ledger-entry" (rt.uuid .ledger input.transactionId)
    [("reversalLedgerEntryId", .string (rt.uuid .ledger reversalLedgerEntryId)),
      ("reversedAmountKobo", .number reversedAmountKobo)])
  persistReverseIdempotency input response finishedAt
  pure response

/-! ### One entry -/

/-- The amount a credit's reversal takes back: the lot's for an EARN entry, the adjustment's
for an ADJUSTMENT. -/
def creditAmount (db : Database) (entryId : Nat) (original : LoyaltyLedgerEntry) :
    Tx (Nat × CreditLot × PositiveKobo) := do
  let adjusted : Option PositiveKobo := (adjustmentOf db entryId).map (·.2.amountKobo)
  rejectIf (original.type = .ADJUSTMENT ∧ adjusted = none)
    (reviewRequired "Original adjustment is missing")
  let (lotId, lot) ← orFault (creditLotOf db entryId)
    (reviewRequired "Original credit lot is missing")
  pure (lotId, lot,
    if original.type = .ADJUSTMENT then adjusted.getD lot.originalAmountKobo
    else lot.originalAmountKobo)

/-- The EARN and ADJUSTMENT CREDIT branches. -/
def reverseCredit (rt : Runtime) (input : ReversalInput) (original : LoyaltyLedgerEntry)
    (phoneE164 : String) (now finishedAt : Int) : Tx ReversalResponse := do
  let db ← get
  let (lotId, lot, amountKobo) ← creditAmount db input.transactionId original
  rejectIf (lot.expiresAt ≤ now) (reviewRequired "Original credit lot is expired")
  rejectIf (lot.remainingAmountKobo ≠ lot.originalAmountKobo)
    (reviewRequired "Original credit lot has already been consumed")
  let (reversalLedgerEntryId, allocations) ← compensateCredit input original.customerId
    input.transactionId lotId amountKobo (.request input.requestHash) now
  finishUngrouped rt input original phoneE164
    (if original.type = .EARN then original.receiptId else none)
    reversalLedgerEntryId amountKobo allocations [] now finishedAt

/-- The REDEEM and ADJUSTMENT DEBIT branches. -/
def reverseDebit (rt : Runtime) (input : ReversalInput) (original : LoyaltyLedgerEntry)
    (phoneE164 : String) (now finishedAt : Int) : Tx ReversalResponse := do
  let planned ← LotAllocationService.planRestorations input.actor.tenantId input.transactionId now
  let amountKobo ← orFault (PositiveKobo.of? (totalPlanned planned))
    (.check "LoyaltyLedgerEntry_amountKobo_positive_check")
  let reversalLedgerEntryId ← restoreDebit input original.customerId input.transactionId amountKobo
    (.request input.requestHash)
    (reviewRequired "Original credit lot changed during reversal") planned now
  onlyIf (original.type = .REDEEM) <|
    markRedemptionReversed input.actor.tenantId input.transactionId now
  let db ← get
  finishUngrouped rt input original phoneE164
    (if original.type = .REDEEM then receiptOf db input.transactionId original else none)
    reversalLedgerEntryId amountKobo [] (restoredAmounts planned) now finishedAt

/-! ### A settlement pair -/

/-- The two entries of a receipt with what `reversePairedSettlement` includes. -/
structure SettlementPair where
  receiptId : Nat
  earnId : Nat
  earn : LoyaltyLedgerEntry
  redeemId : Nat
  redeem : LoyaltyLedgerEntry
  redemptionId : Nat
  redemption : Redemption

/-- The pair of a receipt, if it is one settlement's. -/
def findPair (db : Database) (input : ReversalInput) (receiptId : Nat) : Tx SettlementPair := do
  let effects := receiptEffects db receiptId
  rejectIf (¬ isPair effects)
    (reviewRequired "Receipt settlement effects are incomplete or inconsistent")
  let malformed :=
    reviewRequired "Receipt settlement pair is malformed or already partially reversed"
  let (earnId, earn) ← orFault (effects.find? fun e => e.2.type = .EARN) malformed
  let (redeemId, redeem) ← orFault (effects.find? fun e => e.2.type = .REDEEM) malformed
  let (redemptionId, redemption) ← orFault (redemptionOf db redeemId) malformed
  rejectIf (¬ (earn.tenantId = input.actor.tenantId ∧ redeem.tenantId = input.actor.tenantId ∧
      earn.direction = .CREDIT ∧ redeem.direction = .DEBIT ∧ earn.customerId = redeem.customerId ∧
      earn.correlationId = .earn redeem.correlationId ∧
      redemption.tenantId = input.actor.tenantId ∧ redemption.customerId = redeem.customerId ∧
      redemption.receiptId = receiptId ∧
      (redemption.status = .CONFIRMED ∨ redemption.status = .REVERSED) ∧
      redemption.confirmedAmountKobo = some redeem.amountKobo)) malformed
  pure { receiptId, earnId, earn, redeemId, redeem, redemptionId, redemption }

/-- The digest a group's correlation ids start with. -/
def groupCorrelation : CorrelationId → Option Digest
  | .earnReversal h => some h
  | _ => none

/-- Whether the debit that compensates the EARN entry is what a grouped reversal writes. -/
def earnCompensationConsistent (db : Database) (p : SettlementPair) (lotId : Nat)
    (c : Nat × LoyaltyLedgerEntry) : Prop :=
  c.2.type = .ADJUSTMENT ∧ c.2.direction = .DEBIT ∧ c.2.amountKobo = p.earn.amountKobo ∧
    c.2.tenantId = p.earn.tenantId ∧ c.2.customerId = p.earn.customerId ∧ c.2.receiptId = none ∧
    ∃ a ∈ adjustmentOf db c.1, a.2.tenantId = p.earn.tenantId ∧
      a.2.customerId = p.earn.customerId ∧ a.2.kind = .DEBIT ∧
      a.2.amountKobo = p.earn.amountKobo ∧
      (db.allocations.select fun x => x.target = .adjustment a.1).map (fun x => x.2) =
        [{ tenantId := p.earn.tenantId, target := .adjustment a.1, redemptionLedgerEntryId := c.1
           creditLotId := lotId, amountKobo := p.earn.amountKobo, allocationOrder := 1 }]

instance (db : Database) (p : SettlementPair) (lotId : Nat) :
    DecidablePred (earnCompensationConsistent db p lotId) := fun c => by
  unfold earnCompensationConsistent; infer_instance

/-- Whether each allocation of the debit is restored once, in full, by the credit. -/
def redeemCompensationConsistent (db : Database) (p : SettlementPair) (h : Digest)
    (c : Nat × LoyaltyLedgerEntry) : Prop :=
  let allocations := LotAllocationService.debitAllocations db p.redeem.tenantId p.redeemId
  let restored := db.restorations.select fun r => r.reversalLedgerEntryId = c.1
  c.2.type = .REVERSAL ∧ c.2.direction = .CREDIT ∧ c.2.amountKobo = p.redeem.amountKobo ∧
    c.2.tenantId = p.redeem.tenantId ∧ c.2.customerId = p.redeem.customerId ∧
    c.2.receiptId = none ∧ c.2.correlationId = .redeemReversal h ∧ adjustmentOf db c.1 = none ∧
    LotAllocationService.debitAllocations db p.redeem.tenantId c.1 = [] ∧
    p.redemption.status = .REVERSED ∧
    restored.length = allocations.length ∧
    (∀ r ∈ restored, ∃ a ∈ allocations.find? (fun a => a.1 = r.2.allocationId),
      r.2.amountKobo = a.2.amountKobo) ∧
    ∀ a ∈ allocations, (db.restorations.select fun r => r.allocationId = a.1).map
      (fun r => (r.2.reversalLedgerEntryId, r.2.amountKobo)) = [(c.1, a.2.amountKobo)]

instance (db : Database) (p : SettlementPair) (h : Digest) :
    DecidablePred (redeemCompensationConsistent db p h) := fun c => by
  unfold redeemCompensationConsistent; infer_instance

/-- Whether a stored response is the one this history was answered with. -/
def replayConsistent (db : Database) (p : SettlementPair) (lotId earnCompId redeemCompId : Nat)
    (replay : ReversalResponse) : Prop :=
  let allocations := LotAllocationService.debitAllocations db p.redeem.tenantId p.redeemId
  replay.grouped = some
      { receiptId := p.receiptId, originalRedemptionTransactionId := p.redeemId
        originalEarnTransactionId := p.earnId, redemptionReversalTransactionId := redeemCompId
        earnReversalTransactionId := earnCompId, earnRemovedAmountKobo := p.earn.amountKobo
        redeemedRestoredAmountKobo := p.redeem.amountKobo } ∧
    replay.reversedAmountKobo = p.earn.amountKobo + p.redeem.amountKobo ∧
    ((replay.originalTransactionId = p.earnId ∧ replay.id = earnCompId ∧
        replay.transactionId = earnCompId ∧ replay.originalTransactionType = p.earn.type) ∨
      (replay.originalTransactionId ≠ p.earnId ∧ replay.originalTransactionId = p.redeemId ∧
        replay.id = redeemCompId ∧ replay.transactionId = redeemCompId ∧
        replay.originalTransactionType = p.redeem.type)) ∧
    replay.restorations.length = allocations.length ∧
    (∀ r ∈ replay.restorations, ∃ a ∈ allocations.find? (fun a => a.1 = r.allocationId),
      r.creditLotId = a.2.creditLotId ∧ r.amountKobo = a.2.amountKobo) ∧
    ∃ a, replay.allocations = [a] ∧ a.creditLotId = lotId ∧ a.amountKobo = p.earn.amountKobo

instance (db : Database) (p : SettlementPair) (l e r : Nat) :
    DecidablePred (replayConsistent db p l e r) := fun x => by
  unfold replayConsistent
  have : Decidable
      (∃ a, x.allocations = [a] ∧ a.creditLotId = l ∧ a.amountKobo = p.earn.amountKobo) :=
    match x.allocations with
    | [] => isFalse (by simp)
    | [a] => decidable_of_iff (a.creditLotId = l ∧ a.amountKobo = p.earn.amountKobo) (by simp)
    | _ :: _ :: _ => isFalse (by simp)
  infer_instance

/-- A pair with reversals: the recorded response if the history is whole, else a refusal. -/
def replayPair (db : Database) (p : SettlementPair)
    (earnReversals redeemReversals : List (Nat × LoyaltyLedgerEntry))
    (existingResponse : Option Response) : Tx ReversalResponse := do
  rejectIf (earnReversals.length ≠ 1 ∨ redeemReversals.length ≠ 1)
    (reviewRequired "Settlement reversal history is partial")
  let inconsistent := reviewRequired "Completed settlement reversal history is inconsistent"
  let earnCompensation ← orFault earnReversals.head? inconsistent
  let redeemCompensation ← orFault redeemReversals.head? inconsistent
  let h ← orFault (groupCorrelation earnCompensation.2.correlationId) inconsistent
  let (lotId, lot) ← orFault (creditLotOf db p.earnId) inconsistent
  rejectIf (¬ (earnCompensationConsistent db p lotId earnCompensation ∧
      redeemCompensationConsistent db p h redeemCompensation ∧
      lot.originalAmountKobo = p.earn.amountKobo ∧ lot.remainingAmountKobo = 0)) inconsistent
  match existingResponse with
  | some (.reversal replay) => do
      rejectIf (¬ replayConsistent db p lotId earnCompensation.1 redeemCompensation.1 replay)
        (reviewRequired "Stored grouped response does not match completed reversal history")
      pure replay
  | some _ =>
      fault (reviewRequired "Stored grouped response does not match completed reversal history")
  | none => fault alreadyReversed

/-- The earned lot, whole and unexpired. -/
def checkEarnLot (db : Database) (input : ReversalInput) (p : SettlementPair) (now : Int) :
    Tx (Nat × CreditLot) := do
  let broken := reviewRequired "Settlement Earn lot is missing, consumed, or inconsistent"
  let (lotId, lot) ← orFault (creditLotOf db p.earnId) broken
  rejectIf (¬ (lot.tenantId = input.actor.tenantId ∧ lot.customerId = p.earn.customerId ∧
      lot.originalAmountKobo = p.earn.amountKobo ∧
      lot.remainingAmountKobo = lot.originalAmountKobo ∧ now < lot.expiresAt)) broken
  pure (lotId, lot)

/-- Whether an allocation of the debit may be given back in full. -/
def allocationRestorable (db : Database) (input : ReversalInput) (p : SettlementPair)
    (earnLotId : Nat) (a : Nat × RedemptionAllocation) : Prop :=
  a.2.tenantId = input.actor.tenantId ∧ a.2.target = .redemption p.redemptionId ∧
    a.2.creditLotId ≠ earnLotId ∧
    (∃ l ∈ db.lots[a.2.creditLotId]?, l.tenantId = input.actor.tenantId ∧
      l.customerId = p.redeem.customerId ∧
      l.remainingAmountKobo + a.2.amountKobo ≤ l.originalAmountKobo) ∧
    ∀ r ∈ db.restorations, r.allocationId ≠ a.1

instance (db : Database) (input : ReversalInput) (p : SettlementPair) (earnLotId : Nat) :
    DecidablePred (allocationRestorable db input p earnLotId) := fun a => by
  unfold allocationRestorable; infer_instance

def checkAllocations (db : Database) (input : ReversalInput) (p : SettlementPair)
    (earnLotId : Nat) : Tx Unit :=
  let allocations := LotAllocationService.debitAllocations db p.redeem.tenantId p.redeemId
  rejectIf (allocations = [] ∨ (∃ a ∈ allocations, ¬ allocationRestorable db input p earnLotId a) ∨
      (allocations.map fun a => (a.2.amountKobo : Int)).sum ≠ p.redeem.amountKobo)
    (reviewRequired "Redemption allocation history is inconsistent or partially restored")

def groupedResponse (db : Database) (input : ReversalInput) (p : SettlementPair)
    (earnReversalId redeemReversalId : Nat) (allocations : List PersistedAllocation)
    (planned : List PlannedRestoration) (now : Int) : ReversalResponse :=
  let selected := if input.transactionId = p.earnId then earnReversalId else redeemReversalId
  { grouped := some
      { receiptId := p.receiptId, originalRedemptionTransactionId := p.redeemId
        originalEarnTransactionId := p.earnId, redemptionReversalTransactionId := redeemReversalId
        earnReversalTransactionId := earnReversalId, earnRemovedAmountKobo := p.earn.amountKobo
        redeemedRestoredAmountKobo := p.redeem.amountKobo }
    id := selected
    transactionId := selected
    originalTransactionId := input.transactionId
    originalTransactionType :=
      if input.transactionId = p.earnId then p.earn.type else p.redeem.type
    reversedAmountKobo := p.earn.amountKobo + p.redeem.amountKobo
    newActiveBalanceKobo := ActiveBalanceService.getActiveBalanceKobo db input.actor.tenantId
      p.redeem.customerId now
    allocations
    restorations := restoredAmounts planned
    smsStatus := some .QUEUED
    occurredAt := now
    requestedAt := now }

/-- Both halves of a pair that has no reversal yet. -/
def reverseFreshPair (rt : Runtime) (input : ReversalInput) (p : SettlementPair)
    (phoneE164 : String) (now finishedAt : Int) : Tx ReversalResponse := do
  let db ← get
  let (earnLotId, _) ← checkEarnLot db input p now
  checkAllocations db input p earnLotId
  let planned ← LotAllocationService.planRestorations input.actor.tenantId p.redeemId now
  rejectIf (totalPlanned planned ≠ p.redeem.amountKobo)
    (reviewRequired "Redemption allocations are not fully restorable")
  let (earnReversalId, allocations) ← compensateCredit input p.earn.customerId p.earnId earnLotId
    p.earn.amountKobo (.earnReversal input.requestHash) now
  rejectIf (allocations.map (fun a => (a.creditLotId, a.amountKobo)) ≠
      [(earnLotId, (p.earn.amountKobo : Int))])
    (reviewRequired "Earn reversal allocation did not use the exact lot")
  let redeemReversalId ← restoreDebit input p.redeem.customerId p.redeemId p.redeem.amountKobo
    (.redeemReversal input.requestHash)
    (reviewRequired "Original credit lot changed during grouped reversal") planned now
  markRedemptionReversed input.actor.tenantId p.redeemId now
  let db ← get
  let response := groupedResponse db input p earnReversalId redeemReversalId allocations planned now
  persistReverseNotification rt input earnReversalId input.transactionId (some p.receiptId)
    phoneE164 now
  recordAudit (reversalAudit input "receipt" (rt.uuid .receipts p.receiptId)
    [("originalEarnTransactionId", .string (rt.uuid .ledger p.earnId)),
      ("originalRedemptionTransactionId", .string (rt.uuid .ledger p.redeemId)),
      ("earnReversalTransactionId", .string (rt.uuid .ledger earnReversalId)),
      ("redemptionReversalTransactionId", .string (rt.uuid .ledger redeemReversalId)),
      ("earnRemovedAmountKobo", .number p.earn.amountKobo),
      ("redeemedRestoredAmountKobo", .number p.redeem.amountKobo)])
  persistReverseIdempotency input response finishedAt
  pure response

def reversePairedSettlement (rt : Runtime) (input : ReversalInput) (receiptId : Nat)
    (phoneE164 : String) (existingResponse : Option Response) (now finishedAt : Int) :
    Tx ReversalResponse := do
  let db ← get
  let p ← findPair db input receiptId
  let earnReversals := reversedByEntries db p.earnId
  let redeemReversals := reversedByEntries db p.redeemId
  rejectIf (p.redemption.status = .REVERSED ∧ earnReversals = [] ∧ redeemReversals = [])
    (reviewRequired "Redemption status is reversed without reversal evidence")
  rejectIf (existingResponse.isSome ∧ earnReversals = [] ∧ redeemReversals = [])
    (reviewRequired "Completed idempotency response has no matching reversal evidence")
  if earnReversals = [] ∧ redeemReversals = [] then
    reverseFreshPair rt input p phoneE164 now finishedAt
  else
    replayPair db p earnReversals redeemReversals existingResponse

/-! ### The transaction -/

/-- Whether a receipt has an effect other than the selected entry. -/
def hasOtherEffect (db : Database) (receiptId transactionId : Nat) : Prop :=
  ∃ e ∈ receiptEffects db receiptId, e.1 ≠ transactionId

instance (db : Database) (r t : Nat) : Decidable (hasOtherEffect db r t) :=
  inferInstanceAs (Decidable (∃ e ∈ receiptEffects db r, e.1 ≠ t))

/-- The dispatch on what the entry is. -/
def reverseOne (rt : Runtime) (input : ReversalInput) (original : LoyaltyLedgerEntry)
    (phoneE164 : String) (now finishedAt : Int) : Tx ReversalResponse :=
  match original.type, original.direction with
  | .EARN, .CREDIT | .ADJUSTMENT, .CREDIT =>
      reverseCredit rt input original phoneE164 now finishedAt
  | .REDEEM, .DEBIT | .ADJUSTMENT, .DEBIT =>
      reverseDebit rt input original phoneE164 now finishedAt
  | _, _ => fault (reviewRequired "Transaction type cannot be reversed automatically")

/-- The record the transaction finds under its key, or the PENDING one it creates. -/
def openRecord (input : ReversalInput) (startedAt : Int) : Tx (Option Response) := do
  let db ← get
  match db.idempotency input.key with
  | none => do
      insertIdempotencyRecord input.key (pendingRecord input.requestHash startedAt)
      pure none
  | some existing => do
      rejectIf (existing.requestHash ≠ input.requestHash) idempotencyConflict
      let response ← orFault existing.responseJson
        (.http 409 "IDEMPOTENCY_IN_PROGRESS" "Idempotency key is still being processed")
      pure (some response)

/-- The callback of `runReverseTransaction`, in one attempt. -/
def reverseTransaction (rt : Runtime) (input : ReversalInput)
    (startedAt now finishedAt : Int) : Tx Response := do
  let existingResponse ← openRecord input startedAt
  let db ← get
  let original ← orFault (db.ledger[input.transactionId]?.filter fun e =>
    e.tenantId = input.actor.tenantId) transactionNotFound
  let customer ← orFault (db.registry.customers original.customerId) transactionNotFound
  rejectIf (input.actor.branchId.any fun b => b ≠ customer.branchId) transactionNotFound
  let receiptId := receiptOf db input.transactionId original
  match receiptId.filter fun r => hasOtherEffect db r input.transactionId with
  | some receiptId => do
      let r ← reversePairedSettlement rt input receiptId customer.phoneE164 existingResponse now
        finishedAt
      pure (.reversal r)
  | none =>
      match existingResponse with
      | some response => pure response
      | none => do
          rejectIf (reversedByEntries db input.transactionId ≠ []) alreadyReversed
          let r ← reverseOne rt input original customer.phoneE164 now finishedAt
          pure (.reversal r)

end ReversalsService

end ShopcityLoyalty
