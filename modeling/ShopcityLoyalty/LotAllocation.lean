import ShopcityLoyalty.Writes

/-!
Drawing a debit from a customer's credit lots, first expiry first, and planning what a
reversal puts back.
-/

namespace ShopcityLoyalty

open Txn Database

def reviewRequired (message : String) : Fault := .http 422 "REVERSAL_REVIEW_REQUIRED" message

namespace ActiveBalanceService

/-- The lots a customer can spend at an instant. -/
def activeCreditLotWhere (tenantId customerId : String) (now : Int) (l : CreditLot) : Bool :=
  l.tenantId = tenantId && l.customerId = customerId && 0 < l.remainingAmountKobo &&
    now < l.expiresAt

def getActiveBalanceKobo (db : Database) (tenantId customerId : String) (now : Int) : Int :=
  db.lots.tally (fun l => activeCreditLotWhere tenantId customerId now l) (·.remainingAmountKobo)

end ActiveBalanceService

/-- What an allocation charges, and to whom. -/
structure AllocateDebitInput where
  tenantId : String
  customerId : String
  debitLedgerEntryId : Nat
  amountKobo : Int
  now : Int
  target : DebitTarget
  excludedCreditLotIds : List Nat := []

/-- A lot as a query returns it, with its id. -/
abbrev LockedCreditLot := Nat × CreditLot

structure PlannedRestoration where
  allocationId : Nat
  creditLotId : Nat
  amountKobo : Int
  expiresAt : Int
  deriving DecidableEq

namespace LotAllocationService

/-- `ORDER BY "expiresAt" ASC, "earnedAt" ASC, "id" ASC`. -/
def lotLe (rt : Runtime) (a b : LockedCreditLot) : Prop :=
  a.2.expiresAt < b.2.expiresAt ∨ (a.2.expiresAt = b.2.expiresAt ∧
    (a.2.earnedAt < b.2.earnedAt ∨ (a.2.earnedAt = b.2.earnedAt ∧
      rt.uuid .lots a.1 ≤ rt.uuid .lots b.1)))

instance (rt : Runtime) : DecidableRel (lotLe rt) := fun _ _ =>
  inferInstanceAs (Decidable (_ ∨ _))

def lockEligibleLots (rt : Runtime) (db : Database) (tenantId customerId : String)
    (now : Int) (excludedCreditLotIds : List Nat) : List LockedCreditLot :=
  ((db.lots.select fun l =>
      ActiveBalanceService.activeCreditLotWhere tenantId customerId now l).filter
    fun r => r.1 ∉ excludedCreditLotIds).insertionSort (lotLe rt)

/-- Take from each lot what it has or what is still missing, until nothing is missing. -/
def planLoop : List LockedCreditLot → (remaining : Int) → (allocationOrder : Nat) →
    List PersistedAllocation × Int
  | [], remaining, _ => ([], remaining)
  | (id, lot) :: rest, remaining, order =>
      if remaining = 0 then ([], remaining)
      else
        let amountKobo :=
          if lot.remainingAmountKobo < remaining then lot.remainingAmountKobo else remaining
        let (allocations, missing) := planLoop rest (remaining - amountKobo) (order + 1)
        (⟨id, amountKobo, order, lot.expiresAt⟩ :: allocations, missing)

def planAllocations (lots : List LockedCreditLot) (amountKobo : Int) :
    Tx (List PersistedAllocation) := do
  rejectIf (0 < (planLoop lots amountKobo 1).2)
    (.http 422 "INSUFFICIENT_BALANCE" "Active balance is lower than requested debit amount")
  pure (planLoop lots amountKobo 1).1

/-- One row of `redemptionAllocation.createMany`. -/
def createAllocation (input : AllocateDebitInput) (a : PersistedAllocation) : Tx Unit := do
  let amountKobo ← orFault (PositiveKobo.of? a.amountKobo)
    (.check "RedemptionAllocation_amountKobo_positive_check")
  let _ ← insertAllocation
    { tenantId := input.tenantId, target := input.target
      redemptionLedgerEntryId := input.debitLedgerEntryId, creditLotId := a.creditLotId
      amountKobo, allocationOrder := a.allocationOrder }
  pure ()

/-- The conditional decrement of one lot; a count other than one fails with `changed`. -/
def decrementLot (input : AllocateDebitInput) (changed : Fault) (a : PersistedAllocation) :
    Tx Unit := do
  let db ← get
  let lot ← orFault db.lots[a.creditLotId]? changed
  rejectIf (¬ (lot.tenantId = input.tenantId ∧ lot.customerId = input.customerId ∧
    a.amountKobo ≤ lot.remainingAmountKobo)) changed
  putRemaining a.creditLotId lot (lot.remainingAmountKobo - a.amountKobo)

def persistAllocations (input : AllocateDebitInput) (changed : Fault)
    (allocations : List PersistedAllocation) : Tx Unit := do
  each (createAllocation input) allocations
  each (decrementLot input changed) allocations

/-- `validateDebitAllocationTarget`; that there is exactly one target is in its type. -/
def validateDebitAllocationTarget (input : AllocateDebitInput) : Tx Unit :=
  rejectIf (input.amountKobo ≤ 0)
    (.http 400 "VALIDATION_ERROR" "Debit allocation amount must be positive")

def allocateDebit (rt : Runtime) (input : AllocateDebitInput) : Tx (List PersistedAllocation) := do
  validateDebitAllocationTarget input
  let db ← get
  let lots := lockEligibleLots rt db input.tenantId input.customerId input.now
    input.excludedCreditLotIds
  let allocations ← planAllocations lots input.amountKobo
  persistAllocations input
    (.http 503 "REDEMPTION_TRANSACTION_CONFLICT" "Credit lot changed during allocation")
    allocations
  pure allocations

/-- `lockExactLot`: the lot, unless it is too small, expired or another customer's. -/
def lockExactLot (input : AllocateDebitInput) (creditLotId : Nat) : Tx LockedCreditLot := do
  let db ← get
  let lot ← orFault db.lots[creditLotId]?
    (reviewRequired "Original credit lot changed during reversal")
  rejectIf (¬ (lot.tenantId = input.tenantId ∧ lot.customerId = input.customerId ∧
      input.amountKobo ≤ lot.remainingAmountKobo ∧ input.now < lot.expiresAt))
    (reviewRequired "Original credit lot changed during reversal")
  pure (creditLotId, lot)

def allocateDebitFromExactLot (input : AllocateDebitInput) (creditLotId : Nat) :
    Tx (List PersistedAllocation) := do
  validateDebitAllocationTarget input
  let lot ← lockExactLot input creditLotId
  let allocations ← planAllocations [lot] input.amountKobo
  persistAllocations input (reviewRequired "Original credit lot changed during reversal")
    allocations
  pure allocations

/-- What earlier reversals restored of an allocation. -/
def restoredAmount (db : Database) (allocationId : Nat) : Int :=
  db.restorations.tally (fun r => r.allocationId = allocationId) (·.amountKobo)

def allocationOrderLe (a b : Nat × RedemptionAllocation) : Prop :=
  a.2.allocationOrder ≤ b.2.allocationOrder

instance : DecidableRel allocationOrderLe := fun _ _ => inferInstanceAs (Decidable (_ ≤ _))

/-- The allocations of a debit, in their order. -/
def debitAllocations (db : Database) (tenantId : String) (debitLedgerEntryId : Nat) :
    List (Nat × RedemptionAllocation) :=
  (db.allocations.select fun a =>
    a.tenantId = tenantId && a.redemptionLedgerEntryId = debitLedgerEntryId).insertionSort
      allocationOrderLe

/-- What is left to restore of one allocation. -/
def planRestoration (now : Int) (a : Nat × RedemptionAllocation) : Tx PlannedRestoration := do
  let db ← get
  let lot ← orFault db.lots[a.2.creditLotId]? .missing
  rejectIf (lot.expiresAt ≤ now) (reviewRequired "Original credit lot is expired")
  let amountKobo := a.2.amountKobo - restoredAmount db a.1
  rejectIf (amountKobo < 0) (reviewRequired "Restoration evidence exceeds allocation amount")
  pure ⟨a.1, a.2.creditLotId, amountKobo, lot.expiresAt⟩

def planRestorations (tenantId : String) (debitLedgerEntryId : Nat) (now : Int) :
    Tx (List PlannedRestoration) := do
  let db ← get
  let planned ← collect (planRestoration now) (debitAllocations db tenantId debitLedgerEntryId)
  let restorations := planned.filter fun r => 0 < r.amountKobo
  rejectIf (restorations = []) (reviewRequired "No restorable allocation balance remains")
  pure restorations

end LotAllocationService

end ShopcityLoyalty
