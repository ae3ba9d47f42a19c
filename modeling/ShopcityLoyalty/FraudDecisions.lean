import ShopcityLoyalty.Listings
import ShopcityLoyalty.Lib.Machines

/-!
Decisions on fraud flags: `FraudReviewService.decideFraudFlag`, as a machine that stands before one
statement after another. There is no transaction around its three writes.
-/

namespace ShopcityLoyalty

inductive FraudFlagDecision | ACKNOWLEDGED | RESOLVED
  deriving DecidableEq

def FraudFlagDecision.text : FraudFlagDecision → String
  | ACKNOWLEDGED => "ACKNOWLEDGED"
  | RESOLVED => "RESOLVED"

def FraudFlagDecision.status : FraudFlagDecision → FraudFlagStatus
  | ACKNOWLEDGED => .ACKNOWLEDGED
  | RESOLVED => .RESOLVED

/-- A row of the flag table, with what a decision writes. -/
structure ReviewedFlag extends FraudFlag where
  decisionReason : Option String
  decisionActorId : Option String
  decidedAt : Option Int

/-- `toFraudFlagListItem`: the row under its id. -/
structure FraudFlagItem where
  id : Nat
  flag : ReviewedFlag

/-- The tenant is the session's. -/
structure FraudDecisionRequest where
  actor : AuthContext
  flagId : Nat
  decision : FraudFlagDecision
  reason : String
  idempotencyKey : Option String
  deriving DecidableEq

/-- The unique key of a record of the endpoint `fraud.decide`. -/
structure FraudDecisionKey where
  tenantId : String
  actorId : String
  idempotencyKey : String
  deriving DecidableEq

/-- An entry `FRAUD_FLAG_DECISION_RECORDED` of a fraud flag. -/
structure FraudDecisionAudit where
  tenantId : String
  actorId : String
  entityId : Nat
  decision : FraudFlagDecision
  status : FraudFlagStatus
  deriving DecidableEq

structure FraudReviewStore where
  flags : Table ReviewedFlag
  records : FraudDecisionKey → Option (IdempotencyRecord FraudFlagItem)
  audits : List FraudDecisionAudit
  /-- How many flag updates and audit entries the requests of a key made: the history, which no
  table keeps. -/
  updated : FraudDecisionKey → Nat
  audited : FraudDecisionKey → Nat

/-- What a statement meets. -/
structure FraudReviewSurroundings where
  now : Int
  branches : String → Option Branch

namespace FraudDecisionRequest

def normalizedKey (req : FraudDecisionRequest) : String := trim (req.idempotencyKey.getD "")

def key (req : FraudDecisionRequest) : FraudDecisionKey :=
  ⟨req.actor.tenantId, req.actor.id, req.normalizedKey⟩

/-- What is hashed of a request. -/
def payload (uuid : Nat → String) (req : FraudDecisionRequest) : Json :=
  .object [("tenantId", .string req.actor.tenantId), ("actorId", .string req.actor.id),
    ("flagId", .string (uuid req.flagId)), ("decision", .string req.decision.text),
    ("reason", .string req.reason)]

def requestHash (uuid : Nat → String) (req : FraudDecisionRequest) : Digest :=
  sha256 (Json.stringify (req.payload uuid))

end FraudDecisionRequest

namespace FraudReviewService

/-- Where a request stands: before the statement named, or at its end. -/
inductive DecisionPlace
  | findingRecord
  | resolvingScope
  | findingFlag (branchId : Option String)
  | updatingFlag (flag : FraudFlagItem)
  | creatingRecord (updated : FraudFlagItem)
  | recordingAudit (updated : FraudFlagItem)
  | answered (result : Except Fault FraudFlagItem)

open DecisionPlace

def refused (status : Nat) (code message : String) : DecisionPlace :=
  answered (.error (.http status code message))

/-- What is done without a record under the key. -/
def begin (req : FraudDecisionRequest) : DecisionPlace :=
  if trim req.reason = "" then
    answered (.error (badRequest "Decision reason is required"))
  else resolvingScope

/-- What a record under the key makes of a request. -/
def replay (uuid : Nat → String) (req : FraudDecisionRequest)
    (existing : IdempotencyRecord FraudFlagItem) : DecisionPlace :=
  if existing.requestHash ≠ req.requestHash uuid then
    refused 409 "IDEMPOTENCY_CONFLICT" "Idempotency key reused with different payload"
  else
    match existing.responseJson with
    | some response => answered (.ok response)
    | none => refused 409 "CONFLICT" "Idempotency key is still being processed"

/-- The row after a decision. -/
def decidedFlag (req : FraudDecisionRequest) (decidedAt : Int) (flag : ReviewedFlag) :
    ReviewedFlag :=
  { flag with
    status := req.decision.status
    decisionReason := some (trim req.reason)
    decisionActorId := some req.actor.id
    decidedAt := some decidedAt }

/-- The flag of a scope. -/
def findFlag (req : FraudDecisionRequest) (branchId : Option String) (s : FraudReviewStore) :
    Option ReviewedFlag :=
  s.flags[req.flagId]?.filter fun flag =>
    flag.tenantId = req.actor.tenantId ∧ ∀ b ∈ branchId, flag.branchId = some b

/-- The statement of a place, and the place after it. -/
def next (uuid : Nat → String) (req : FraudDecisionRequest) (env : FraudReviewSurroundings) :
    DecisionPlace → FraudReviewStore → Option (DecisionPlace × FraudReviewStore)
  | findingRecord, s =>
      match s.records req.key with
      | some existing => some (replay uuid req existing, s)
      | none => some (begin req, s)
  | resolvingScope, s =>
      match resolveScope env.branches req.actor none with
      | .error fault => some (answered (.error fault), s)
      | .ok branchId => some (findingFlag branchId, s)
  | findingFlag branchId, s =>
      match findFlag req branchId s with
      | none => some (refused 404 "NOT_FOUND" "Fraud flag not found", s)
      | some flag =>
          if flag.status = req.decision.status then some (answered (.ok ⟨req.flagId, flag⟩), s)
          else some (updatingFlag ⟨req.flagId, flag⟩, s)
  | updatingFlag flag, s =>
      match s.flags[flag.id]? with
      | none => some (answered (.error .missing), s)
      | some row =>
          let updated := decidedFlag req env.now row
          some (creatingRecord ⟨flag.id, updated⟩,
            { s with
              flags := s.flags.set flag.id updated
              updated := Function.update s.updated req.key (s.updated req.key + 1) })
  | creatingRecord updated, s =>
      match s.records req.key with
      | some _ => some (answered (.error (.unique .idempotencyKey)), s)
      | none => some (recordingAudit updated,
          { s with
            records := Function.update s.records req.key (some
              { requestHash := req.requestHash uuid
                responseJson := some updated
                status := .COMPLETED
                expiresAt := env.now + 24 * 60 * 60 * 1000 }) })
  | recordingAudit updated, s =>
      some (answered (.ok updated),
        { s with
          audits := s.audits ++ [⟨req.actor.tenantId, req.actor.id, updated.id, req.decision,
            updated.flag.status⟩]
          audited := Function.update s.audited req.key (s.audited req.key + 1) })
  | answered _, _ => none

/-- A blank key is refused before the first statement. -/
def start (req : FraudDecisionRequest) : DecisionPlace :=
  if req.normalizedKey = "" then
    answered (.error (badRequest "Idempotency-Key header is required"))
  else findingRecord

def decideFraudFlag (uuid : Nat → String) :
    Machine FraudDecisionRequest FraudReviewSurroundings FraudReviewStore DecisionPlace where
  start := start
  next := next uuid

end FraudReviewService

/-- Decisions in flight on one store. -/
abbrev FraudDecisionRequests :=
  Crew FraudDecisionRequest FraudReviewStore FraudReviewService.DecisionPlace

/-- Flags on which nothing was decided yet. -/
def FraudReviewStore.undecided (flags : Table ReviewedFlag) : FraudReviewStore :=
  ⟨flags, fun _ => none, [], fun _ => 0, fun _ => 0⟩

end ShopcityLoyalty
