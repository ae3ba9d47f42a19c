import ShopcityLoyalty.LotAllocation
import ShopcityLoyalty.Policy

/-!
The settlement of a redemption: the debit, its allocations, and the credit earned on what
is left to pay. A confirmed request and an approved one both settle here.
-/

namespace ShopcityLoyalty

open Txn Database

structure RedemptionSettlementInput where
  tenantId : String
  customerId : String
  receiptId : Nat
  redemptionId : Nat
  basketAmountKobo : Int
  redeemedAmountKobo : Int
  occurredAt : Int
  now : Int
  actor : StaffRef
  correlationId : CorrelationId
  phoneE164 : String
  earnRateBps : Int

structure RedemptionSettlementResult where
  redemptionLedgerEntryId : Nat
  earnLedgerEntryId : Option Nat
  earnedKobo : Int
  netPaidAmountKobo : Int
  remainingBalanceKobo : Int
  allocations : List PersistedAllocation
  smsStatus : SmsMessageStatus

def buildRedemptionConfirmedSmsPayload (rt : Runtime) (input : RedemptionSettlementInput)
    (transactionId : Nat) (netPaidKobo earnedKobo : Int) (earnTransactionId : Option Nat)
    (remainingBalanceKobo : Int) : Json :=
  .object [("version", .number 1), ("receiptId", .string (rt.uuid .receipts input.receiptId)),
    ("transactionId", .string (rt.uuid .ledger transactionId)),
    ("redemptionId", .string (rt.uuid .redemptions input.redemptionId)),
    ("customerId", .string input.customerId), ("phoneE164", .string input.phoneE164),
    ("template", .string "redemption-confirmed"),
    ("redeemedKobo", .string (toString input.redeemedAmountKobo)),
    ("netPaidKobo", .string (toString netPaidKobo)),
    ("earnedKobo", .string (toString earnedKobo)),
    ("earnTransactionId", (earnTransactionId.map fun i => Json.string (rt.uuid .ledger i)).getD
      .null),
    ("remainingBalanceKobo", .string (toString remainingBalanceKobo))]

def RedemptionSettlementInput.redeemEntry (input : RedemptionSettlementInput)
    (amountKobo : PositiveKobo) : LoyaltyLedgerEntry where
  tenantId := input.tenantId
  customerId := input.customerId
  receiptId := some input.receiptId
  type := .REDEEM
  direction := .DEBIT
  amountKobo := amountKobo
  correlationId := input.correlationId
  reversesEntryId := none
  createdBy := input.actor
  effectiveAt := input.occurredAt

def RedemptionSettlementInput.earnEntry (input : RedemptionSettlementInput)
    (amountKobo : PositiveKobo) : LoyaltyLedgerEntry where
  tenantId := input.tenantId
  customerId := input.customerId
  receiptId := some input.receiptId
  type := .EARN
  direction := .CREDIT
  amountKobo := amountKobo
  correlationId := .earn input.correlationId
  reversesEntryId := none
  createdBy := input.actor
  effectiveAt := input.occurredAt

/-- The redemption once its debit is in the ledger. -/
def RedemptionSettlementInput.confirmed (input : RedemptionSettlementInput)
    (redemptionLedgerEntryId : Nat) (r : Redemption) : Redemption :=
  { r with ledgerEntryId := some redemptionLedgerEntryId
           confirmedAmountKobo := some input.redeemedAmountKobo
           confirmedAt := some input.now
           status := .CONFIRMED }

def RedemptionSettlementInput.debit (input : RedemptionSettlementInput)
    (redemptionLedgerEntryId : Nat) : AllocateDebitInput where
  tenantId := input.tenantId
  customerId := input.customerId
  debitLedgerEntryId := redemptionLedgerEntryId
  amountKobo := input.redeemedAmountKobo
  now := input.now
  target := .redemption input.redemptionId

/-- The EARN entry and its lot, when the credit is positive. -/
def earnOnNetPaid (input : RedemptionSettlementInput) (earnedKobo : Int) : Tx (Option Nat) :=
  match PositiveKobo.of? earnedKobo with
  | none => pure none
  | some amountKobo => do
      let entryId ← insertLedgerEntry (input.earnEntry amountKobo)
      let _ ← insertCreditLot input.tenantId input.customerId entryId amountKobo input.occurredAt
        (addUtcMonthsClamped input.occurredAt 12)
      pure (some entryId)

def executeRedemptionSettlement (rt : Runtime) (input : RedemptionSettlementInput) :
    Tx RedemptionSettlementResult := do
  rejectIf (input.basketAmountKobo < 0 ∨ input.redeemedAmountKobo < 0)
    (.http 500 "ERROR" "Settlement amounts cannot be negative")
  let netPaidAmountKobo := input.basketAmountKobo - input.redeemedAmountKobo
  rejectIf (netPaidAmountKobo < 0)
    (.http 500 "ERROR" "Redemption amount cannot exceed the basket amount")
  let amountKobo ← orFault (PositiveKobo.of? input.redeemedAmountKobo)
    (.check "LoyaltyLedgerEntry_amountKobo_positive_check")
  let redemptionLedgerEntryId ← insertLedgerEntry (input.redeemEntry amountKobo)
  modifyRedemption input.redemptionId (input.confirmed redemptionLedgerEntryId)
  let allocations ← LotAllocationService.allocateDebit rt (input.debit redemptionLedgerEntryId)
  rejectIf ((allocations.map (·.amountKobo)).sum ≠ input.redeemedAmountKobo)
    (.http 500 "ERROR" "Redemption allocations do not match the debit amount")
  let earnedKobo := calculateEarnAmountKobo netPaidAmountKobo input.earnRateBps
  let earnLedgerEntryId ← earnOnNetPaid input earnedKobo
  let db ← get
  let remainingBalanceKobo := ActiveBalanceService.getActiveBalanceKobo db input.tenantId
    input.customerId input.now
  insertOutboxEvent
    { tenantId := input.tenantId, aggregateType := "redemption"
      aggregateId := rt.uuid .redemptions input.redemptionId, eventType := "sms.send"
      payload := buildRedemptionConfirmedSmsPayload rt input redemptionLedgerEntryId
        netPaidAmountKobo earnedKobo earnLedgerEntryId remainingBalanceKobo }
  pure { redemptionLedgerEntryId, earnLedgerEntryId, earnedKobo, netPaidAmountKobo
         remainingBalanceKobo, allocations, smsStatus := .QUEUED }

end ShopcityLoyalty
