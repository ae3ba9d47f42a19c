import ShopcityLoyalty.LotAllocation

/-!
The sweep that expires what is left of overdue lots: `CreditExpiryService.expireDueCredit`.
-/

namespace ShopcityLoyalty

open Txn Database

structure ExpirySweepResult where
  examined : Nat
  expiredLots : Nat
  expiredAmountKobo : Int
  deriving DecidableEq

namespace CreditExpiryService

/-- The lots one sweep locks; `skipped` are those another transaction has locked. -/
def lockDueLots (rt : Runtime) (db : Database) (now : Int) (batchSize : Nat)
    (skipped : List Nat) : List LockedCreditLot :=
  (((db.lots.select fun l => l.expiresAt ≤ now && 0 < l.remainingAmountKobo).filter
    fun r => r.1 ∉ skipped).insertionSort (LotAllocationService.lotLe rt)).take batchSize

/-- The system actor of a tenant is `systemActor`. -/
def expiryEntry (systemActor : String → String) (r : LockedCreditLot) (amountKobo : PositiveKobo) :
    LoyaltyLedgerEntry where
  tenantId := r.2.tenantId
  customerId := r.2.customerId
  receiptId := none
  type := .EXPIRY
  direction := .DEBIT
  amountKobo := amountKobo
  correlationId := .creditExpiry r.1
  reversesEntryId := none
  createdBy := ⟨r.2.tenantId, systemActor r.2.tenantId⟩
  effectiveAt := r.2.expiresAt

def expiryRow (r : LockedCreditLot) (amountKobo : PositiveKobo) (ledgerEntryId : Nat) :
    CreditExpiry where
  tenantId := r.2.tenantId
  customerId := r.2.customerId
  creditLotId := r.1
  ledgerEntryId := ledgerEntryId
  amountKobo := amountKobo
  expiredAt := r.2.expiresAt

/-- What is left of one lot goes: the EXPIRY entry, its evidence and the decrement. -/
def expireLot (rt : Runtime) (systemActor : String → String) (r : LockedCreditLot) : Tx Unit := do
  let lot := r.2
  let amountKobo ← orFault (PositiveKobo.of? lot.remainingAmountKobo)
    (.check "LoyaltyLedgerEntry_amountKobo_positive_check")
  let ledgerEntryId ← insertLedgerEntry (expiryEntry systemActor r amountKobo)
  let _ ← insertCreditExpiry (expiryRow r amountKobo ledgerEntryId)
  let db ← get
  let current ← orFault db.lots[r.1]? .serialization
  rejectIf (¬ (current.tenantId = lot.tenantId ∧ current.customerId = lot.customerId ∧
    (amountKobo : Int) ≤ current.remainingAmountKobo)) .serialization
  putRemaining r.1 current (current.remainingAmountKobo - amountKobo)
  recordAudit
    { tenantId := lot.tenantId, actorId := some (systemActor lot.tenantId),
      action := "credit.expire"
      entityType := "credit_lot", entityId := rt.uuid .lots r.1
      metadata := .object [("ledgerEntryId", .string (rt.uuid .ledger ledgerEntryId)),
        ("amountKobo", .string (toString lot.remainingAmountKobo)),
        ("expiredAt", .string (Calendar.toISOString lot.expiresAt))] }

def expireDueCredit (rt : Runtime) (systemActor : String → String) (now : Int)
    (batchSize : Nat) (skipped : List Nat) : Tx ExpirySweepResult := do
  rejectIf (batchSize = 0) (badRequest "batchSize must be a positive integer")
  let db ← get
  let dueLots := lockDueLots rt db now batchSize skipped
  each (expireLot rt systemActor) dueLots
  pure { examined := dueLots.length, expiredLots := dueLots.length
         expiredAmountKobo := (dueLots.map (·.2.remainingAmountKobo)).sum }

end CreditExpiryService

end ShopcityLoyalty
