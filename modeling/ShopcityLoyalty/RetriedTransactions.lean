import ShopcityLoyalty.CreditExpirySweep
import ShopcityLoyalty.EarnRequests
import ShopcityLoyalty.FinancialRetryRuns
import ShopcityLoyalty.Redemption

/-!
The two services that run their transactions with bounded retries: a redemption and the sweep
of overdue credit.

Whatever others commit meanwhile, a call changes the database by one committed transaction at
most, and then returns its response.
-/

namespace ShopcityLoyalty

open Process

/-! ### Operations with one effect -/

section effects

variable {ι σ ε T : Type}

def RetryNote.change : RetryNote σ ε T → Option (σ × σ)
  | ran _ found left => some (found, left)
  | _ => none

/-- The states that the statements of the operation found and left, over all attempts. -/
def RetryCall.changes (w : RetryCall ι σ ε T) : List (σ × σ) := w.trace.filterMap RetryNote.change

/-- The operation has only read, or its last statement took the effect that the call returns. -/
def OneEffect (effect : σ → T → σ → Prop) (w : RetryCall ι σ ε T) : Prop :=
  (∀ c ∈ w.changes, c.2 = c.1) ∨
    ∃ before found value left, w.changes = before ++ [(found, left)] ∧
      (∀ c ∈ before, c.2 = c.1) ∧ effect found value left ∧
      ∀ result, w.place = .settled result → result = .ok value

namespace RetryCall

/-- The attempts before the one that goes on have only read. -/
def ReadSoFar (operation : Process ι σ ε T) (effect : σ → T → σ → Prop) (w : RetryCall ι σ ε T) :
    Prop :=
  match w.place with
  | .operating _ rest => ∃ before met, operation.remaining met = rest ∧
      w.changes = before ++ operation.changes met ∧ ∀ c ∈ before, c.2 = c.1
  | .settled _ => OneEffect effect w
  | _ => ∀ c ∈ w.changes, c.2 = c.1

variable [ThrownValue ε] [Truthiness T] {operation : Process ι σ ε T}
  {options : FinancialRetryOptions ι σ ε T} {w : RetryCall ι σ ε T} {s : σ}
  {effect : σ → T → σ → Prop}

omit [ThrownValue ε] [Truthiness T] in
lemma Resolves.change {place : RetryPlace ι σ ε T} {k : Nat} {note : RetryNote σ ε T}
    (h : Resolves place k note) : note.change = none := by
  cases h <;> rfl

omit [Truthiness T] in
lemma Pauses.change {k : Nat} {next : RetryPlace ι σ ε T × List (RetryNote σ ε T)}
    (h : Pauses options k next) : next.2.filterMap RetryNote.change = [] := by
  cases h <;> rfl

omit [ThrownValue ε] [Truthiness T] in
lemma ReadSoFar.failed (hw : ReadSoFar operation effect w) (hlast : operation.EffectLast effect)
    {k : Nat} {note : RetryNote σ ε T} (h : Resolves w.place k note)
    (hnote : ∀ value, note ≠ .succeeded value) : ∀ c ∈ w.changes, c.2 = c.1 := by
  obtain ⟨place, state, trace⟩ := w
  cases h with
  | succeeded => exact absurd rfl (hnote _)
  | failed =>
      obtain ⟨before, met, hmet, hchanges, hbefore⟩ := hw
      rcases hlast.done_or_reads met with ⟨-, hreads⟩ | ⟨a, -, -, -, hdone, -⟩
      · rw [hchanges]
        exact List.forall_mem_append.2 ⟨hbefore, hreads⟩
      · rw [hmet] at hdone
        cases hdone
  | lookedUp => exact hw
  | lookupFailed => exact hw

lemma ReadSoFar.advanced {w' : RetryCall ι σ ε T} (hw : ReadSoFar operation effect w)
    (hlast : operation.EffectLast effect) (h : Advanced operation options w w') :
    ReadSoFar operation effect w' := by
  obtain ⟨place, state, trace⟩ := w
  cases h with
  | @ran k β st next i hplace =>
      obtain rfl := hplace
      obtain ⟨before, met, hmet, hchanges, hbefore⟩ := hw
      obtain ⟨hremaining, hmore⟩ := remaining_snoc hmet i state
      refine ⟨before, met ++ [(i, state)], hremaining, ?_, hbefore⟩
      rw [hmore, ← List.append_assoc, ← hchanges]
      simp [changes, RetryNote.change]
  | looked i hplace =>
      obtain rfl := hplace
      exact hw
  | @answered k note result hplace hanswer =>
      have hsame : changes (⟨.settled result, state, trace ++ [note]⟩ : RetryCall ι σ ε T) =
          changes ⟨place, state, trace⟩ := by
        simp [changes, hplace.change]
      by_cases hnote : ∃ value, note = .succeeded value
      · obtain ⟨value, rfl⟩ := hnote
        obtain rfl : Except.ok value = result := Option.some.inj hanswer
        cases hplace with
        | succeeded =>
            obtain ⟨before, met, hmet, hchanges, hbefore⟩ := hw
            -- an attempt that returns has made its effect, and made it last
            rcases hlast.done_or_reads met with
              ⟨hlast', -⟩ | ⟨a, reads, found, left, hdone, hsplit, hreads, heffect⟩
            · rw [hmet] at hlast'
              cases hlast'
            · rw [hmet] at hdone
              obtain rfl := Process.done.inj hdone
              refine .inr ⟨before ++ reads, found, value, left, ?_,
                List.forall_mem_append.2 ⟨hbefore, hreads⟩, heffect, fun result hresult => ?_⟩
              · rw [hsame, hchanges, hsplit, List.append_assoc]
              · exact (RetryPlace.settled.inj hresult).symm
      · refine .inl ?_
        rw [hsame]
        exact hw.failed hlast hplace fun value hvalue => hnote ⟨value, hvalue⟩
  | @paused k note next hplace hanswer hnext =>
      have hreads := hw.failed hlast hplace (by rintro value rfl; cases hanswer)
      have hsame : changes (⟨next.1, state, trace ++ [note] ++ next.2⟩ : RetryCall ι σ ε T) =
          changes ⟨place, state, trace⟩ := by
        simp [changes, hplace.change, hnext.change]
      rw [← hsame] at hreads
      cases hnext with
      | lookingUp => exact hreads
      | waiting => exact hreads
      | exhausted hk => exact .inl hreads
  | entered hplace hk =>
      obtain rfl := hplace
      refine ⟨trace.filterMap RetryNote.change, [], by cases operation <;> rfl, ?_, hw⟩
      cases operation <;> simp [changes, Process.changes, RetryNote.change]
  | exhausted hplace hk =>
      obtain rfl := hplace
      exact .inl hw
  | settled hsettled => exact hw

omit [Truthiness T] in
lemma start_readSoFar : ReadSoFar operation effect (start operation options s) := by
  unfold start enter
  by_cases h : options.attempts.atLeast 1
  · rw [if_pos h]
    refine ⟨[], [], by cases operation <;> rfl, ?_, by simp⟩
    cases operation <;> simp [changes, Process.changes, RetryNote.change]
  · rw [if_neg h]
    exact .inl (by simp [changes])

end RetryCall

open RetryCall

variable [ThrownValue ε] [Truthiness T] {operation : Process ι σ ε T}
  {options : FinancialRetryOptions ι σ ε T} {s : σ} {effect : σ → T → σ → Prop}
  {events : ℕ → RetryEvent ι σ}

/-- **An operation with one effect takes it once**, whatever others do to the state. -/
theorem retries_one_effect (hlast : operation.EffectLast effect) (n : ℕ) :
    OneEffect effect (runWithBoundedFinancialRetries operation options s events n) := by
  have hrun : ReadSoFar operation effect
      (runWithBoundedFinancialRetries operation options s events n) :=
    run_invariant start_readSoFar (fun _ _ h hw => hw.advanced hlast h) (fun _ _ hw => hw) n
  unfold ReadSoFar at hrun
  split at hrun
  · rename_i k rest hplace
    obtain ⟨before, met, -, hchanges, hbefore⟩ := hrun
    rcases hlast.done_or_reads met with
      ⟨-, hreads⟩ | ⟨value, reads, found, left, -, hsplit, hreads, heffect⟩
    · refine .inl ?_
      rw [hchanges]
      exact List.forall_mem_append.2 ⟨hbefore, hreads⟩
    · refine .inr ⟨before ++ reads, found, value, left, ?_,
        List.forall_mem_append.2 ⟨hbefore, hreads⟩, heffect, fun result hresult => ?_⟩
      · rw [hchanges, hsplit, List.append_assoc]
      · rw [hplace] at hresult
        cases hresult
  · exact hrun
  · exact .inl hrun

end effects

/-! ### The transactions of the two services -/

/-- Responses are objects. -/
instance : Truthiness Response := ⟨fun _ => true⟩

instance : Truthiness ExpirySweepResult := ⟨fun _ => true⟩

section answers

variable {ι α : Type}

/-- A serializable transaction, as the database answers it at its end. -/
def answerTransaction (commit : CommitAnswer) (clash : UniqueIndex → Bool)
    (result : Except Fault (α × Database)) (db : Database) : Except Fault α × Database :=
  let committed := match result with
    | .ok (a, t) => (.ok a, t)
    | .error e => (.error e, db)
  match commit with
  | .accepted => committed
  | .refused => (.error .serialization, db)
  | .clash index => if clash index then (.error (.unique index), db) else committed

lemma answerTransaction_cases (commit : CommitAnswer) (clash : UniqueIndex → Bool)
    (result : Except Fault (α × Database)) (db : Database) :
    (∃ a t, result = .ok (a, t) ∧ answerTransaction commit clash result db = (.ok a, t)) ∨
      ∃ e, answerTransaction commit clash result db = (.error e, db) := by
  unfold answerTransaction
  cases commit with
  | refused => exact .inr ⟨_, rfl⟩
  | accepted =>
      cases result with
      | ok r => exact .inl ⟨r.1, r.2, rfl, rfl⟩
      | error e => exact .inr ⟨e, rfl⟩
  | clash index =>
      by_cases hclash : clash index
      · exact .inr ⟨.unique index, by simp [hclash]⟩
      · cases result with
        | ok r => exact .inl ⟨r.1, r.2, rfl, by simp [hclash]⟩
        | error e => exact .inr ⟨e, by simp [hclash]⟩

lemma effectLast_answerTransaction {commit : ι → CommitAnswer}
    {clash : Database → UniqueIndex → Bool} {m : ι → Tx α} :
    (attempt fun i db => answerTransaction (commit i) (clash db) (m i db) db).EffectLast
      fun found a left => ∃ i, m i found = .ok (a, left) := by
  intro i db
  rcases answerTransaction_cases (commit i) (clash db) (m i db) db with
    ⟨a, t, hm, hanswer⟩ | ⟨e, hanswer⟩
  · exact .inr ⟨a, by simp only [hanswer], i, by simpa only [hanswer] using hm⟩
  · refine .inl ⟨by simp only [hanswer], ?_⟩
    simp only [hanswer]
    trivial

end answers

namespace RedemptionsService

variable {rt : Runtime} {req : RedeemRequest} {adm : RedeemAdmission} {s : Database}
  {events : ℕ → RetryEvent RequestInput Database}

/-- Whether a committed row has a key of one the transaction inserts. -/
def redeemClash (rt : Runtime) (req : RedeemRequest) (adm : RedeemAdmission) (db : Database) :
    UniqueIndex → Bool
  | .receiptIdentity =>
      match redeemContext rt req adm db with
      | .ok (ctx, _) => (findReceipt db req.actor.tenantId ctx.branchId ctx.receiptWeekStart
          req.normalizedPosReceiptNumber).isSome
      | .error _ => false
  | .ledgerCorrelationId => db.ledger.any fun e => e.correlationId = .request req.requestHash
  | .idempotencyKey => (db.idempotency req.key).isSome
  | _ => false

def redeemOperation (rt : Runtime) (req : RedeemRequest) (adm : RedeemAdmission) :
    RequestProcess Response :=
  attempt fun env db => answerTransaction env.commit (redeemClash rt req adm db)
    ((redeemTransaction rt req adm env.now db).map fun r => (.redeem r.1, r.2)) db

def findCompletedRedeemReplay (req : RedeemRequest) : RequestProcess (Option Response) :=
  statement fun _ db => (findCompletedReplay db req.key req.requestHash, db)

def redeemRetryOptions (req : RedeemRequest) :
    FinancialRetryOptions RequestInput Database Fault Response where
  attempts := .finite ⟨false, 3, 0, by decide⟩
  conflictCode := "REDEMPTION_TRANSACTION_CONFLICT"
  conflictMessage := "Redemption transaction conflicted; retry the request"
  jitterMs := none
  onConflict := some (findCompletedRedeemReplay req)

/-- The attempts of `redeem`, after so many events. -/
def redeemAttempts (rt : Runtime) (req : RedeemRequest) (adm : RedeemAdmission) :
    Database → (ℕ → RetryEvent RequestInput Database) → ℕ →
      RetryCall RequestInput Database Fault Response :=
  runWithBoundedFinancialRetries (redeemOperation rt req adm) (redeemRetryOptions req)

/-- The redemption that a response answers was committed in one transaction. -/
def RedeemTransacted (rt : Runtime) (req : RedeemRequest) (adm : RedeemAdmission) (found : Database)
    (response : Response) (left : Database) : Prop :=
  ∃ now r, redeemTransaction rt req adm now found = .ok (r, left) ∧ response = .redeem r

/-- **A redemption is committed once at most**, and then its response is returned. -/
theorem redeemAttempts_one_effect (n : ℕ) :
    OneEffect (RedeemTransacted rt req adm) (redeemAttempts rt req adm s events n) := by
  refine retries_one_effect (effectLast_answerTransaction.mono ?_) n
  rintro found response left ⟨env, henv⟩
  cases hrun : redeemTransaction rt req adm env.now found with
  | ok r =>
      rw [hrun] at henv
      obtain ⟨rfl, rfl⟩ := Prod.mk.inj (Except.ok.inj henv)
      exact ⟨env.now, r.1, hrun, rfl⟩
  | error e =>
      rw [hrun] at henv
      cases henv

theorem redeemAttempts_settles (hgoes : Recurs RetryEvent.IsAdvance events) :
    ∃ n, (redeemAttempts rt req adm s events n).Settled :=
  RetryCall.run_settles hgoes nofun

end RedemptionsService

namespace CreditExpiryService

variable {rt : Runtime} {systemActor : String → String} {now : Int} {batchSize : Nat} {s : Database}

/-- What a sweep meets: the lots that others have locked, and how its transaction is answered. -/
structure SweepInput where
  skipped : List Nat
  commit : CommitAnswer

def sweepOperation (rt : Runtime) (systemActor : String → String) (now : Int) (batchSize : Nat) :
    Process SweepInput Database Fault ExpirySweepResult :=
  attempt fun env db => answerTransaction env.commit (fun _ => false)
    (expireDueCredit rt systemActor now batchSize env.skipped db) db

def sweepRetryOptions : FinancialRetryOptions SweepInput Database Fault ExpirySweepResult where
  attempts := .finite ⟨false, 5, 0, by decide⟩
  conflictCode := "CREDIT_EXPIRY_TRANSACTION_CONFLICT"
  conflictMessage := "Credit expiry sweep conflicted; retry the sweep"
  jitterMs := none
  onConflict := none

/-- **A sweep is committed once at most**, and then its result is returned. -/
theorem sweepAttempts_one_effect (events : ℕ → RetryEvent SweepInput Database) (n : ℕ) :
    OneEffect (fun found result left => ∃ env : SweepInput,
        expireDueCredit rt systemActor now batchSize env.skipped found = .ok (result, left))
      (runWithBoundedFinancialRetries (sweepOperation rt systemActor now batchSize)
        sweepRetryOptions s events n) :=
  retries_one_effect effectLast_answerTransaction n

end CreditExpiryService

end ShopcityLoyalty
