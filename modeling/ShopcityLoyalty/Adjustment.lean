import ShopcityLoyalty.Idempotency
import ShopcityLoyalty.LotAllocation

/-!
Credit and debit adjustments: `AdjustmentsService.createAdjustment` up to the commit of its
transaction.
-/

namespace ShopcityLoyalty

open Txn Database

structure CreateAdjustmentDto where
  customerId : String
  kind : LedgerEntryDirection
  amountKobo : Int
  reason : String
  effectiveAt : Int

/-- A request with its texts normalized, its amount checked and its hash taken. -/
structure AdjustmentRequest where
  actor : AuthContext
  idempotencyKey : String
  customerId : String
  kind : LedgerEntryDirection
  amountKobo : PositiveKobo
  reason : String
  effectiveAt : Int
  requestHash : Digest

def AdjustmentRequest.key (req : AdjustmentRequest) : IdempotencyKey :=
  ⟨req.actor.tenantId, req.actor.id, .adjustment, req.idempotencyKey⟩

namespace AdjustmentsService

def kindText : LedgerEntryDirection → String
  | .CREDIT => "CREDIT"
  | .DEBIT => "DEBIT"

def adjustmentRequestText (actor : AuthContext) (dto : CreateAdjustmentDto) (reason : String) :
    String :=
  Json.stringify <| .object [("tenantId", .string actor.tenantId), ("actorId", .string actor.id),
    ("customerId", .string dto.customerId), ("kind", .string (kindText dto.kind)),
    ("amountKobo", .number dto.amountKobo), ("reason", .string reason),
    ("effectiveAt", .string (Calendar.toISOString dto.effectiveAt))]

def adjustmentRequest (rt : Runtime) (actor : AuthContext) (idempotencyKey : Option String)
    (dto : CreateAdjustmentDto) : Tx AdjustmentRequest := do
  rejectIf (actor.role ≠ .ADMIN) (.http 403 "ADJUSTMENT_FORBIDDEN" "Admin role is required")
  let normalizedKey := trim (idempotencyKey.getD "")
  rejectIf (normalizedKey = "") (.http 400 "VALIDATION_ERROR" "Idempotency-Key header is required")
  let reason := trim dto.reason
  rejectIf (reason = "") (.http 400 "VALIDATION_ERROR" "Reason is required")
  rejectIf (500 < utf16Length reason)
    (.http 400 "VALIDATION_ERROR" "Reason must be at most 500 characters")
  let amountKobo ← orFault (PositiveKobo.of? dto.amountKobo)
    (.http 400 "VALIDATION_ERROR" "amountKobo must be a positive integer")
  rejectIf (rt.ADJUSTMENT_AMOUNT_CEILING_KOBO < amountKobo)
    (.http 400 "VALIDATION_ERROR" "Adjustment amount exceeds the configured ceiling")
  pure
    { actor, idempotencyKey := normalizedKey, customerId := dto.customerId
      kind := dto.kind, amountKobo, reason
      effectiveAt := dto.effectiveAt, requestHash :=
        sha256 (adjustmentRequestText actor dto reason) }

/-- `setUTCMonth`: a day beyond the end of the month runs into the next one. -/
def addMonths (date : Int) (months : Int) : Int :=
  let (d, ms) := Calendar.split date
  let monthIndex := d.month - 1 + months
  Calendar.join ⟨d.year + monthIndex / 12, monthIndex % 12 + 1, d.day⟩ ms

/-- The ledger entry both kinds start with. -/
def adjustmentEntry (req : AdjustmentRequest) : LoyaltyLedgerEntry where
  tenantId := req.actor.tenantId
  customerId := req.customerId
  receiptId := none
  type := .ADJUSTMENT
  direction := req.kind
  amountKobo := req.amountKobo
  correlationId := .request req.requestHash
  reversesEntryId := none
  createdBy := req.actor.staff
  effectiveAt := req.effectiveAt

def adjustmentRow (req : AdjustmentRequest) (ledgerEntryId : Nat) : Adjustment where
  tenantId := req.actor.tenantId
  customerId := req.customerId
  kind := req.kind
  amountKobo := req.amountKobo
  reason := req.reason
  createdBy := req.actor.staff
  ledgerEntryId := ledgerEntryId
  effectiveAt := req.effectiveAt

/-- The notification, the audit entry and the completed record both kinds end with. -/
def finishAdjustment (rt : Runtime) (req : AdjustmentRequest) (phoneE164 : String)
    (ledgerEntryId adjustmentId : Nat) (allocations : List PersistedAllocation)
    (creditLot : Option (Nat × Int)) (now finishedAt : Int) : Tx AdjustmentResponse := do
  let db ← get
  let remainingBalanceKobo := ActiveBalanceService.getActiveBalanceKobo db req.actor.tenantId
    req.customerId now
  insertOutboxEvent
    { tenantId := req.actor.tenantId, aggregateType := "adjustment"
      aggregateId := rt.uuid .adjustments adjustmentId, eventType := "sms.send"
      payload := .object [("version", .number 1),
        ("transactionId", .string (rt.uuid .ledger ledgerEntryId)),
        ("adjustmentId", .string (rt.uuid .adjustments adjustmentId)),
        ("kind", .string (kindText req.kind)), ("phoneE164", .string phoneE164),
        ("template", .string "balance-adjusted"),
        ("amountKobo", .string (toString (req.amountKobo : Int))),
        ("remainingBalanceKobo", .string (toString remainingBalanceKobo))] }
  recordAudit
    { tenantId := req.actor.tenantId, actorId := some req.actor.id
      action := if req.kind = .CREDIT then "adjustment.credit" else "adjustment.debit"
      entityType := "adjustment", entityId := rt.uuid .adjustments adjustmentId
      metadata := .object [("reason", .string req.reason), ("amountKobo", .number req.amountKobo),
        ("effectiveAt", .string (Calendar.toISOString req.effectiveAt))] }
  let response : AdjustmentResponse :=
    { id := adjustmentId, transactionId := ledgerEntryId, adjustmentId, customerId := req.customerId
      kind := req.kind, amountKobo := req.amountKobo, newActiveBalanceKobo := remainingBalanceKobo
      allocations, creditLot, smsStatus := some .QUEUED, occurredAt := req.effectiveAt }
  updateIdempotencyRecord req.key
    { requestHash := req.requestHash, responseJson := some (.adjustment response)
      status := .COMPLETED, expiresAt := finishedAt + IDP_EXPIRY_MS }
  pure response

def creditAdjustment (rt : Runtime) (req : AdjustmentRequest) (phoneE164 : String)
    (now finishedAt : Int) : Tx AdjustmentResponse := do
  let ledgerEntryId ← insertLedgerEntry (adjustmentEntry req)
  let adjustmentId ← insertAdjustment (adjustmentRow req ledgerEntryId)
  let expiresAt := addMonths req.effectiveAt rt.ADJUSTMENT_CREDIT_EXPIRY_MONTHS
  let creditLotId ← insertCreditLot req.actor.tenantId req.customerId ledgerEntryId req.amountKobo
    req.effectiveAt expiresAt
  finishAdjustment rt req phoneE164 ledgerEntryId adjustmentId []
    (some (creditLotId, expiresAt)) now
    finishedAt

def debitAdjustment (rt : Runtime) (req : AdjustmentRequest) (phoneE164 : String)
    (now finishedAt : Int) : Tx AdjustmentResponse := do
  let ledgerEntryId ← insertLedgerEntry (adjustmentEntry req)
  let adjustmentId ← insertAdjustment (adjustmentRow req ledgerEntryId)
  let allocations ← LotAllocationService.allocateDebit rt
    { tenantId := req.actor.tenantId, customerId := req.customerId
      debitLedgerEntryId := ledgerEntryId, amountKobo := req.amountKobo, now
      target := .adjustment adjustmentId }
  finishAdjustment rt req phoneE164 ledgerEntryId adjustmentId allocations none now finishedAt

/-- The callback of the transaction, in one attempt. -/
def adjustmentTransaction (rt : Runtime) (req : AdjustmentRequest)
    (startedAt now finishedAt : Int) : Tx AdjustmentResponse := do
  insertIdempotencyRecord req.key
    { requestHash := req.requestHash, responseJson := none, status := .PENDING
      expiresAt := startedAt + IDP_EXPIRY_MS }
  let db ← get
  let notFound : Fault := .http 404 "CUSTOMER_NOT_FOUND" "Customer not found"
  let customer ← orFault ((db.registry.customers req.customerId).filter fun c =>
    c.tenantId = req.actor.tenantId) notFound
  rejectIf (customer.status ≠ .ACTIVE ∨ customer.isStaff) notFound
  match req.kind with
  | .CREDIT => creditAdjustment rt req customer.phoneE164 now finishedAt
  | .DEBIT => debitAdjustment rt req customer.phoneE164 now finishedAt

end AdjustmentsService

end ShopcityLoyalty
