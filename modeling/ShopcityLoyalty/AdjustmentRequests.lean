import ShopcityLoyalty.Adjustment
import ShopcityLoyalty.EarnRequests

/-!
A whole adjustment: `AdjustmentsService.createAdjustment` as a process, with its attempts and
the replay it waits for after each of them that fails.
-/

namespace ShopcityLoyalty

open Process

/-- What the surroundings supply to a statement of an adjustment: three readings of the clock,
in order, and how a transaction is answered. -/
structure AdjustmentInput where
  startedAt : Int
  now : Int
  finishedAt : Int
  commit : CommitAnswer

abbrev AdjustmentProcess (α : Type) := Process AdjustmentInput Database Fault α

namespace AdjustmentsService

def ADJUSTMENT_RETRY_ATTEMPTS : Nat := 3

def adjustmentTransactionConflict : Fault :=
  .http 503 "ADJUSTMENT_TRANSACTION_CONFLICT" "Adjustment transaction conflicted; retry the request"

def adjustmentInProgress : Fault :=
  .http 409 "IDEMPOTENCY_IN_PROGRESS" "Idempotency key is still being processed"

/-- Whether a committed row has a key of one the transaction inserts. -/
def adjustmentClash (req : AdjustmentRequest) (db : Database) : UniqueIndex → Bool
  | .idempotencyKey => (db.idempotency req.key).isSome
  | .ledgerCorrelationId => db.ledger.any fun e => e.correlationId = .request req.requestHash
  | _ => false

/-- The transaction of an attempt, as the database answers it. -/
def commitAdjustment (rt : Runtime) (req : AdjustmentRequest) (env : AdjustmentInput)
    (db : Database) : Except Fault AdjustmentResponse × Database :=
  let commit := match adjustmentTransaction rt req env.startedAt env.now env.finishedAt db with
    | .ok (response, t) => (.ok response, t)
    | .error e => (.error e, db)
  match env.commit with
  | .accepted => commit
  | .refused => (.error .serialization, db)
  | .clash index => if adjustmentClash req db index then (.error (.unique index), db) else commit

/-- `isTransactionConflict(error) || isIdempotencyConflict(error)`: every `P2002` counts. -/
def isConflict : Fault → Bool
  | .serialization => true
  | .unique _ => true
  | _ => false

/-- The reads of `waitForAdjustmentReplay` that are left. A record that is missing is treated
as one of another payload. -/
def waitForAdjustmentReplay (req : AdjustmentRequest) : Nat → AdjustmentProcess (Option Response)
  | 0 => pure none
  | attempts + 1 => do
      let record ← statement fun _ db => (db.idempotency req.key, db)
      match record.filter fun r => r.requestHash = req.requestHash with
      | none => fail idempotencyConflict
      | some r =>
          match r.responseJson with
          | some response => pure (some response)
          | none => waitForAdjustmentReplay req attempts

/-- The attempts that are left. -/
def adjustmentAttempts (rt : Runtime) (req : AdjustmentRequest) : Nat → AdjustmentProcess Response
  | 0 => fail adjustmentTransactionConflict
  | attempts + 1 => do
      let committed ← statement (commitAdjustment rt req)
      match committed with
      | .ok response => pure (.adjustment response)
      | .error e =>
          if isConflict e then do
            let replay ← waitForAdjustmentReplay req ADJUSTMENT_RETRY_ATTEMPTS
            match replay with
            | some response => pure response
            | none => adjustmentAttempts rt req attempts
          else fail e

/-- The request is read, and expired records under its key are dropped. -/
def startAdjustment (rt : Runtime) (actor : AuthContext) (idempotencyKey : Option String)
    (dto : CreateAdjustmentDto) (now : Int) : Tx AdjustmentRequest := do
  let req ← adjustmentRequest rt actor idempotencyKey dto
  cleanupExpiredRecordsOfAnyEndpoint req.key now
  pure req

/-- What follows a record found under the key. -/
def replayAdjustment (req : AdjustmentRequest) (existing : IdempotencyRecord Response) :
    AdjustmentProcess Response :=
  if existing.requestHash ≠ req.requestHash then fail idempotencyConflict
  else match existing.responseJson with
    | some response => pure response
    | none => do
        let replay ← waitForAdjustmentReplay req ADJUSTMENT_RETRY_ATTEMPTS
        match replay with
        | some response => pure response
        | none => fail adjustmentInProgress

def createAdjustment (rt : Runtime) (actor : AuthContext) (idempotencyKey : Option String)
    (dto : CreateAdjustmentDto) : AdjustmentProcess Response := do
  let req ← transaction fun env => startAdjustment rt actor idempotencyKey dto env.startedAt
  let existing ← statement fun _ db => (db.idempotency req.key, db)
  match existing with
  | some record => replayAdjustment req record
  | none => adjustmentAttempts rt req ADJUSTMENT_RETRY_ATTEMPTS

end AdjustmentsService

end ShopcityLoyalty
