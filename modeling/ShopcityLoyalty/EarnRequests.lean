import ShopcityLoyalty.Earn
import ShopcityLoyalty.Lib.Executions

/-!
A whole earn request: `LoyaltyService.earn` as a process.

A transaction is serializable. It starts on a snapshot, on which its body may fail; at its
end the database takes it as if it had run then, or refuses it, or reports a row committed
since the snapshot that has a key of one it inserts.
-/

namespace ShopcityLoyalty

open Process

/-- How the database answers at the end of a transaction. -/
inductive CommitAnswer
  | accepted
  | refused
  | clash (index : UniqueIndex)
  deriving DecidableEq

/-- What the surroundings supply to a statement of a request. -/
structure RequestInput where
  now : Int
  commit : CommitAnswer

abbrev RequestProcess (α : Type) := Process RequestInput Database Fault α

namespace LoyaltyService

def EARN_SERIALIZATION_RETRY_ATTEMPTS : Nat := 3

def earnTransactionConflict : Fault :=
  .http 503 "EARN_TRANSACTION_CONFLICT" "Earn transaction conflicted; retry the request"

/-- What the callback leaves in the variables around it, on the snapshot of an attempt. -/
structure EarnBegun where
  now : Int
  ctx : Option EarnContext
  duplicateReceiptAttempt : Option DuplicateReceiptAttempt
  failure : Option Fault

def beginEarn (rt : Runtime) (dto : EarnTransactionDto) (req : EarnRequest) (adm : EarnAdmission)
    (now : Int) (db : Database) : EarnBegun :=
  let ctx := match earnContext rt req adm db with
    | .ok (ctx, _) => some ctx
    | .error _ => none
  { now, ctx
    duplicateReceiptAttempt := ctx.bind fun ctx =>
      (findReceipt db req.actor.tenantId ctx.branchId ctx.receiptWeekStart
        req.normalizedPosReceiptNumber).map fun receipt =>
        earnDuplicateAttempt req adm ctx dto.posReceiptNumber receipt.1
    failure := match earnTransaction rt req adm now db with
      | .ok _ => none
      | .error e => some e }

/-- Whether a committed row has a key of one the transaction inserts. -/
def earnClash (req : EarnRequest) (ctx : EarnContext) (db : Database) : UniqueIndex → Bool
  | .receiptIdentity => (findReceipt db req.actor.tenantId ctx.branchId ctx.receiptWeekStart
      req.normalizedPosReceiptNumber).isSome
  | .ledgerCorrelationId => db.ledger.any fun e => e.correlationId = .request req.requestHash
  | .idempotencyKey => (db.idempotency req.key).isSome
  | _ => false

def commitEarn (rt : Runtime) (req : EarnRequest) (adm : EarnAdmission) (begun : EarnBegun)
    (env : RequestInput) (db : Database) : Except Fault EarnTransactionResponse × Database :=
  let commit := match earnTransaction rt req adm begun.now db with
    | .ok (response, t) => (.ok response, t)
    | .error _ => (.error .serialization, db)
  match env.commit with
  | .accepted => commit
  | .refused => (.error .serialization, db)
  | .clash index =>
      if begun.ctx.any fun ctx => earnClash req ctx db index then (.error (.unique index), db)
      else commit

/-- `findCompletedEarnReplay`. -/
def findCompletedEarnReplay (req : EarnRequest) : RequestProcess (Option Response) :=
  statement fun _ db => (findCompletedReplay db req.key req.requestHash, db)

/-- The catch block of an attempt; `retry` is the next one. -/
def catchEarn (rt : Runtime) (req : EarnRequest) (adm : EarnAdmission) (begun : EarnBegun)
    (e : Fault) (retry : RequestProcess Response) : RequestProcess Response :=
  match begun.duplicateReceiptAttempt with
  | some attempt => do
      transaction fun _ => recordDuplicateReceiptAttempt rt attempt
      fail e
  | none =>
      match e with
      | .unique .idempotencyKey => do
          let replay ← findCompletedEarnReplay req
          match replay with
          | some response => pure response
          | none => fail idempotencyConflict
      | .unique .receiptIdentity => do
          let replay ← findCompletedEarnReplay req
          match replay, begun.ctx with
          | some response, _ => pure response
          | none, none => fail receiptAlreadyUsed
          | none, some ctx => do
              let duplicate ← statement fun _ db =>
                (findReceipt db req.actor.tenantId ctx.branchId ctx.receiptWeekStart
                  req.normalizedPosReceiptNumber, db)
              match duplicate with
              | some receipt => do
                  transaction fun _ => recordDuplicateReceiptAttempt rt
                    (earnDuplicateAttempt req adm ctx req.posReceiptNumber receipt.1)
                  fail receiptAlreadyUsed
              | none => fail receiptAlreadyUsed
      | .serialization => do
          let replay ← findCompletedEarnReplay req
          match replay with
          | some response => pure response
          | none => retry
      | _ => fail e

/-- The attempts that are left. -/
def earnAttempts (rt : Runtime) (dto : EarnTransactionDto) (req : EarnRequest)
    (adm : EarnAdmission) : Nat → RequestProcess Response
  | 0 => fail earnTransactionConflict
  | attempts + 1 => do
      let begun ← statement fun env db => (beginEarn rt dto req adm env.now db, db)
      match begun.failure with
      | some e => catchEarn rt req adm begun e (earnAttempts rt dto req adm attempts)
      | none => do
          let committed ← statement (commitEarn rt req adm begun)
          match committed with
          | .ok response => pure (.earn response)
          | .error e => catchEarn rt req adm begun e (earnAttempts rt dto req adm attempts)

/-- The request is read, and the expired record under its key is dropped. -/
def startEarn (rt : Runtime) (actor : AuthContext) (idempotencyKey : Option String)
    (dto : EarnTransactionDto) (now : Int) : Tx EarnRequest := do
  let req ← earnRequest rt actor idempotencyKey dto
  cleanupExpiredIdempotencyRecords req.key now
  pure req

/-- The record under the key of the request is looked up. -/
def lookUpEarn (req : EarnRequest) : Tx Precheck := do
  let db ← Txn.get
  precheckRecord (db.idempotency req.key) req.requestHash earnInProgress

def earn (rt : Runtime) (actor : AuthContext) (idempotencyKey : Option String)
    (dto : EarnTransactionDto) : RequestProcess Response := do
  let req ← transaction fun env => startEarn rt actor idempotencyKey dto env.now
  let found ← transaction fun _ => lookUpEarn req
  match found with
  | .replay response => pure response
  | .proceed => do
      let adm ← transaction fun env => admitEarn rt req env.now
      earnAttempts rt dto req adm EARN_SERIALIZATION_RETRY_ATTEMPTS

end LoyaltyService

end ShopcityLoyalty
