import ShopcityLoyalty.Database
import ShopcityLoyalty.Lib.JsNumbers
import ShopcityLoyalty.Lib.Json
import ShopcityLoyalty.Lib.Rollbacks
import ShopcityLoyalty.Lib.Trajectories

/-!
The bounded retries of a financial operation: `runWithBoundedFinancialRetries`.

The operation and the lookup of a replay are processes on a state that others change at any
time. A call of the runner goes from place to place: it awaits the operation, the lookup or the
timer, or it has settled. Its trace notes what it did; nothing reads it.
-/

namespace ShopcityLoyalty

open Process

/-! ### What is thrown -/

/-- What is read of a `Prisma.PrismaClientKnownRequestError`: its `code` and its `meta`, which
may be `undefined`. -/
structure PrismaClientKnownRequestError where
  code : String
  errorMeta : Json

/-- The values that are thrown: which of them are errors of the database client, and the one
that `new DomainHttpException` makes. -/
class ThrownValue (ε : Type) where
  asKnownRequestError : ε → Option PrismaClientKnownRequestError
  domainHttpException (status : Nat) (code message : String) : ε

instance : ThrownValue Fault where
  asKnownRequestError
    | .serialization => some ⟨"P2034", .undefined⟩
    | .unique _ => some ⟨"P2002", .undefined⟩
    | .missing => some ⟨"P2025", .undefined⟩
    | .check _ => none
    | .http _ _ _ => none
  domainHttpException := .http

/-- The values that a condition takes for true. -/
class Truthiness (T : Type) where
  truthy : T → Bool

variable {ι σ ε T : Type}

/-- `'code' in meta && meta.code === '40001'`, of an object. -/
def hasPostgresSerializationCode : Json → Bool
  | .object fields =>
      match fields.lookup "code" with
      | some (.string code) => code = "40001"
      | _ => false
  | _ => false

def isFinancialTransactionConflict [ThrownValue ε] (error : ε) : Bool :=
  match ThrownValue.asKnownRequestError error with
  | some known =>
      known.code = "P2034" || known.code = "40001" ||
        (known.code = "P2010" && hasPostgresSerializationCode known.errorMeta)
  | none => false

/-! ### A call of the runner -/

/-- The lookup resolves to none for `null` and `undefined`. -/
structure FinancialRetryOptions (ι σ ε T : Type) where
  attempts : JsNumber
  conflictCode : String
  conflictMessage : String
  jitterMs : Option JsNumber
  onConflict : Option (Process ι σ ε (Option T))

/-- The delay of `waitForFinancialRetryJitter` for a drawn number; none is no finite number. -/
def financialRetryDelayMs (maxJitterMs : JsNumber) (random : Set.Ico (0 : ℚ) 1) : Option Int :=
  match maxJitterMs with
  | .finite d => some ⌊random.1 * (d.value + 1)⌋
  | _ => none

def defaultJitterMs : JsNumber := .finite ⟨false, 25, 0, by decide⟩

/-- Where a call stands. -/
inductive RetryPlace (ι σ ε T : Type)
  | operating (attempt : Nat) (rest : Process ι σ ε T)
  | lookingUp (attempt : Nat) (rest : Process ι σ ε (Option T))
  | waiting (attempt : Nat)
  | settled (result : Except ε T)

/-- What a call has done. -/
inductive RetryNote (σ ε T : Type)
  | called (attempt : Nat)
  /-- A statement of the operation, called for this attempt, found and left these states. -/
  | ran (attempt : Nat) (found left : σ)
  | succeeded (value : T)
  | failed (error : ε)
  | lookedUp (replay : Option T)
  | lookupFailed (error : ε)
  | waited (delayMs : Option Int)

structure RetryCall (ι σ ε T : Type) where
  place : RetryPlace ι σ ε T
  state : σ
  trace : List (RetryNote σ ε T)

/-- The call goes on with what the surroundings supply, or others change the state. -/
inductive RetryEvent (ι σ : Type)
  | advance (input : ι) (random : Set.Ico (0 : ℚ) 1)
  | others (state : σ)

def RetryEvent.IsAdvance : RetryEvent ι σ → Prop
  | advance _ _ => True
  | others _ => False

variable [ThrownValue ε] [Truthiness T]

/-- The 503 of the runner. -/
def FinancialRetryOptions.conflict (options : FinancialRetryOptions ι σ ε T) : ε :=
  ThrownValue.domainHttpException 503 options.conflictCode options.conflictMessage

namespace RetryCall

/-- The head of the loop, with the counter at `attempt`. -/
def enter (operation : Process ι σ ε T) (options : FinancialRetryOptions ι σ ε T) (attempt : Nat) :
    RetryPlace ι σ ε T × List (RetryNote σ ε T) :=
  if options.attempts.atLeast attempt then (.operating attempt operation, [.called attempt])
  else (.settled (.error options.conflict), [])

/-- What follows the lookup of a replay. -/
def afterLookup (options : FinancialRetryOptions ι σ ε T) (random : Set.Ico (0 : ℚ) 1)
    (attempt : Nat) (replay : Option T) : RetryPlace ι σ ε T × List (RetryNote σ ε T) :=
  match replay.filter Truthiness.truthy with
  | some value => (.settled (.ok value), [])
  | none =>
      if options.attempts.exceeds attempt then
        (.waiting attempt,
          [.waited (financialRetryDelayMs (options.jitterMs.getD defaultJitterMs) random)])
      else (.settled (.error options.conflict), [])

/-- The catch block, up to the lookup where there is one. -/
def afterFailure (options : FinancialRetryOptions ι σ ε T) (random : Set.Ico (0 : ℚ) 1)
    (attempt : Nat) (error : ε) : RetryPlace ι σ ε T × List (RetryNote σ ε T) :=
  if isFinancialTransactionConflict error then
    match options.onConflict with
    | some lookup => (.lookingUp attempt lookup, [])
    | none => afterLookup options random attempt none
  else (.settled (.error error), [])

/-- The call goes to a place and notes what it did. -/
def goTo (w : RetryCall ι σ ε T) (notes : List (RetryNote σ ε T))
    (next : RetryPlace ι σ ε T × List (RetryNote σ ε T)) : RetryCall ι σ ε T :=
  { w with place := next.1, trace := w.trace ++ notes ++ next.2 }

def step (operation : Process ι σ ε T) (options : FinancialRetryOptions ι σ ε T)
    (w : RetryCall ι σ ε T) : RetryEvent ι σ → RetryCall ι σ ε T
  | .others state => { w with state }
  | .advance input random =>
      match w.place with
      | .operating attempt (.act st next) =>
          { place := .operating attempt (next (st input w.state).1)
            state := (st input w.state).2
            trace := w.trace ++ [.ran attempt w.state (st input w.state).2] }
      | .operating _ (.done value) => w.goTo [.succeeded value] (.settled (.ok value), [])
      | .operating attempt (.fail error) =>
          w.goTo [.failed error] (afterFailure options random attempt error)
      | .lookingUp attempt (.act st next) =>
          { w with
            place := .lookingUp attempt (next (st input w.state).1)
            state := (st input w.state).2 }
      | .lookingUp attempt (.done replay) =>
          w.goTo [.lookedUp replay] (afterLookup options random attempt replay)
      | .lookingUp _ (.fail error) => w.goTo [.lookupFailed error] (.settled (.error error), [])
      | .waiting attempt => w.goTo [] (enter operation options (attempt + 1))
      | .settled _ => w

def start (operation : Process ι σ ε T) (options : FinancialRetryOptions ι σ ε T) (s : σ) :
    RetryCall ι σ ε T :=
  { place := (enter operation options 1).1, state := s, trace := (enter operation options 1).2 }

end RetryCall

/-- The call after so many events. -/
def runWithBoundedFinancialRetries (operation : Process ι σ ε T)
    (options : FinancialRetryOptions ι σ ε T) (s : σ) (events : ℕ → RetryEvent ι σ) :
    ℕ → RetryCall ι σ ε T :=
  trajectory (RetryCall.step operation options) (RetryCall.start operation options s) events

end ShopcityLoyalty
