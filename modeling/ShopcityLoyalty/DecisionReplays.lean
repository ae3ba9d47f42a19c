import ShopcityLoyalty.ApprovalStates
import ShopcityLoyalty.Lib.Traces
import ShopcityLoyalty.TwoPersonRule

/-!
Decisions that are requested again.

The transaction of a decision leaves its record PENDING, and a later update stores the response
in it; where the approval had expired, the request leaves by an exception before that update. A
request that finds a record without a response takes it for one of another payload.
-/

namespace ShopcityLoyalty

open Txn Database

/-! ### Answers -/

/-- The request comes again under its key, with the same payload. -/
structure DecisionRequest.Repeats (later req : DecisionRequest) : Prop where
  key : later.key = req.key
  approvalId : later.approvalId = req.approvalId
  decision : later.decision = req.decision
  reason : later.reason = req.reason
  requestHash : later.requestHash = req.requestHash

namespace LoyaltyService

def approvalExpired : Fault := .http 422 "APPROVAL_EXPIRED" "Approval has expired"

/-- The clock readings of one call, and whether the database gives its transaction up. -/
structure DecisionInput where
  receivedAt : Int
  startedAt : Int
  now : Int
  failedAt : Int
  conflicts : Bool

/-- The `try` block of `decideApproval`: the transaction, then the update of its record. -/
def tryDecision (rt : Runtime) (req : DecisionRequest) (env : DecisionInput)
    (began ended : Database) : Except Fault Response :=
  if env.conflicts then .error .serialization
  else match decideTransaction rt req env.startedAt env.now began with
    | .error e => .error e
    | .ok (.expired, _) => .error approvalExpired
    | .ok (.decided response, _) =>
        (completeDecision req.key response ended).map fun _ => .decision response

/-- Its `catch` block. -/
def catchDecision (req : DecisionRequest) (failedAt : Int) (ended : Database) :
    Fault → Except Fault Response
  | .unique .idempotencyKey =>
      match findCompletedReplay (ended.dropExpired (fun k => k = req.key) failedAt) req.key
        req.requestHash with
      | some response => .ok response
      | none => .error idempotencyConflict
  | .serialization => .error approvalAlreadyDecided
  | e => .error e

/-- What `decideApproval` answers where its look-up, its transaction and what follows that find
these states. -/
def decideApproval (rt : Runtime) (req : DecisionRequest) (env : DecisionInput)
    (looked began ended : Database) : Except Fault Response :=
  match decisionPrecheck req env.receivedAt looked with
  | .error e => .error e
  | .ok (.replay response, _) => .ok response
  | .ok (.proceed, _) =>
      match tryDecision rt req env began ended with
      | .ok response => .ok response
      | .error e => catchDecision req env.failedAt ended e

/-- The answer that tells what a decision came to. -/
def answer : DecisionResult → Except Fault Response
  | .decided response => .ok (.decision response)
  | .expired => .error approvalExpired

/-- The record of a decision, with the response that was stored in it last. -/
def decisionRecord (req : DecisionRequest) (startedAt : Int)
    (last : Option ApprovalDecisionResponse) : IdempotencyRecord Response where
  requestHash := req.requestHash
  responseJson := last.map .decision
  status := if last.isSome then .COMPLETED else .PENDING
  expiresAt := startedAt + IDP_EXPIRY_MS

lemma decisionRequest_repeats {rt : Runtime} {actor actor' : AuthContext} {approvalId : Nat}
    {decision : Decision} {reason reason' : String} {key : Option String} {s s' t t' : Database}
    {req later : DecisionRequest}
    (h : decisionRequest rt actor approvalId decision reason key s = .ok (req, t))
    (h' : decisionRequest rt actor' approvalId decision reason' key s' = .ok (later, t'))
    (htenant : actor'.tenantId = actor.tenantId) (hid : actor'.id = actor.id)
    (hreason : trim reason' = trim reason) : later.Repeats req := by
  simp only [decisionRequest, normalizeIdempotencyKey, bind_ok, rejectIf_ok, pure_ok] at h h'
  obtain ⟨_, _, ⟨_, _, -, rfl, -⟩, rfl, -⟩ := h
  obtain ⟨_, _, ⟨_, _, -, rfl, -⟩, rfl, -⟩ := h'
  refine ⟨?_, rfl, rfl, hreason, ?_⟩
  · simp only [DecisionRequest.key, htenant, hid]
  · simp only [decisionRequestText, htenant, hid, hreason]

/-! ### What a request finds -/

section answers

variable {rt : Runtime} {req : DecisionRequest} {env : DecisionInput}
  {looked began ended : Database} {r : IdempotencyRecord Response}

lemma dropExpired_live {key : IdempotencyKey} {matches_ : IdempotencyKey → Bool} {now : Int}
    (hrecord : looked.idempotency key = some r) (hlive : matches_ key → now < r.expiresAt) :
    (looked.dropExpired matches_ now).idempotency key = some r := by
  simp only [Database.dropExpired, hrecord, Option.filter_some]
  rw [if_pos]
  cases hmatches : matches_ key with
  | false => simp
  | true => simpa using hlive hmatches

lemma dropExpired_expired {key : IdempotencyKey} {matches_ : IdempotencyKey → Bool} {now : Int}
    (hrecord : looked.idempotency key = some r) (hmatches : matches_ key)
    (hexpired : r.expiresAt ≤ now) : (looked.dropExpired matches_ now).idempotency key = none := by
  simp [Database.dropExpired, hrecord, hmatches, hexpired]

lemma decisionPrecheck_found (hrecord : looked.idempotency req.key = some r)
    (hhash : r.requestHash = req.requestHash) (hlive : env.receivedAt < r.expiresAt) :
    decisionPrecheck req env.receivedAt looked =
      r.responseJson.elim (.error idempotencyConflict) fun response =>
        .ok (.replay response, looked.dropExpired (fun k => k = req.key) env.receivedAt) := by
  have hfound : (looked.dropExpired (fun k => k = req.key) env.receivedAt).idempotency req.key =
      some r := dropExpired_live hrecord fun _ => hlive
  have hcleaned : cleanupExpiredIdempotencyRecords req.key env.receivedAt looked =
      .ok ((), looked.dropExpired (fun k => k = req.key) env.receivedAt) := rfl
  unfold decisionPrecheck
  rw [bind_of_ok hcleaned, bind_of_ok (get_ok.2 ⟨rfl, rfl⟩)]
  simp only [hfound, if_pos hhash]
  cases r.responseJson <;> rfl

lemma decideApproval_completed {response : Response}
    (hrecord : looked.idempotency req.key = some r) (hhash : r.requestHash = req.requestHash)
    (hlive : env.receivedAt < r.expiresAt) (hresponse : r.responseJson = some response) :
    decideApproval rt req env looked began ended = .ok response := by
  unfold decideApproval
  rw [decisionPrecheck_found hrecord hhash hlive, hresponse]
  rfl

lemma decideApproval_pending (hrecord : looked.idempotency req.key = some r)
    (hhash : r.requestHash = req.requestHash) (hlive : env.receivedAt < r.expiresAt)
    (hresponse : r.responseJson = none) :
    decideApproval rt req env looked began ended = .error idempotencyConflict := by
  unfold decideApproval
  rw [decisionPrecheck_found hrecord hhash hlive, hresponse]
  rfl

/-- A record under the key, if there is one, is another payload's. -/
def Foreign (key : IdempotencyKey) (requestHash : Digest) (s : Database) : Prop :=
  ∀ r, s.idempotency key = some r → r.requestHash ≠ requestHash

lemma Foreign.dropExpired {key : IdempotencyKey} {requestHash : Digest} {s : Database}
    (h : Foreign key requestHash s) (matches_ : IdempotencyKey → Bool) (now : Int) :
    Foreign key requestHash (s.dropExpired matches_ now) := by
  intro r hr
  simp only [Database.dropExpired, Option.filter_eq_some_iff] at hr
  exact h r hr.1

lemma Foreign.no_replay {key : IdempotencyKey} {requestHash : Digest} {s : Database}
    (h : Foreign key requestHash s) : findCompletedReplay s key requestHash = none := by
  unfold findCompletedReplay
  cases hr : s.idempotency key with
  | none => rfl
  | some r => exact if_neg (h r hr)

/-- The approval of the request is decided. -/
def Closed (approvalId : Nat) (s : Database) : Prop :=
  ∃ a, s.approvals[approvalId]? = some a ∧ a.status ≠ .PENDING

/-- A body that does not find an approval expired. -/
abbrev NotExpired {α : Type} (m : Tx α) : Prop :=
  Within (fun _ _ => True) (· ≠ approvalExpired) m

lemma insertIdempotencyRecord_faults {key : IdempotencyKey} :
    NotExpired (insertIdempotencyRecord key r) := by
  have : Std.Refl fun _ _ : Database => True := ⟨fun _ => trivial⟩
  have : IsTrans Database fun _ _ => True := ⟨fun _ _ _ _ _ => trivial⟩
  refine within_get.bind fun db => (within_rejectIf fun _ => by decide).bind fun _ => ?_
  exact within_update fun _ => trivial

lemma findPendingApproval_faults (req : DecisionRequest) :
    NotExpired (findPendingApproval req) := by
  have : Std.Refl fun _ _ : Database => True := ⟨fun _ => trivial⟩
  have : IsTrans Database fun _ _ => True := ⟨fun _ _ _ _ _ => trivial⟩
  have hscope : NotExpired (requireBranchScope req.actor) := by
    unfold requireBranchScope
    split
    · exact within_pure _
    split
    · exact within_pure _
    · exact within_fault (by decide)
  refine hscope.bind fun scope => within_get.bind fun db => ?_
  refine (within_orFault fun _ => by decide).bind fun a => ?_
  refine (within_rejectIf fun _ => by decide).bind fun _ => ?_
  refine (within_rejectIf fun _ => by decide).bind fun _ => ?_
  exact (within_rejectIf fun _ => by decide).bind fun _ => within_pure _

/-- **A decided approval** is not decided again, and is not found expired. -/
lemma decideTransaction_closed (rt : Runtime) (startedAt now : Int)
    (h : Closed req.approvalId began) :
    ∃ e, decideTransaction rt req startedAt now began = .error e ∧ e ≠ approvalExpired := by
  obtain ⟨a, ha, hclosed⟩ := h
  unfold decideTransaction
  cases hrecord : insertIdempotencyRecord req.key (pendingDecisionRecord req startedAt) began with
  | error e =>
      exact ⟨e, bind_of_error hrecord, insertIdempotencyRecord_faults.error hrecord⟩
  | ok r =>
      obtain ⟨_, v⟩ := r
      rw [bind_of_ok hrecord]
      obtain ⟨-, rfl⟩ := insertIdempotencyRecord_ok.1 hrecord
      cases hfind : findPendingApproval req _ with
      | error e =>
          exact ⟨e, bind_of_error hfind, (findPendingApproval_faults req).error hfind⟩
      | ok r =>
          obtain ⟨b, w⟩ := r
          obtain ⟨rfl, hdec⟩ := findPendingApproval_ok hfind
          obtain rfl : a = b := Option.some.inj (ha.symm.trans hdec.approval)
          exact absurd hdec.pending hclosed

lemma tryDecision_closed (rt : Runtime) (env : DecisionInput) (ended : Database)
    (h : Closed req.approvalId began) :
    ∃ e, tryDecision rt req env began ended = .error e ∧ e ≠ approvalExpired := by
  unfold tryDecision
  split
  · exact ⟨_, rfl, by decide⟩
  · obtain ⟨e, herror, hne⟩ := decideTransaction_closed rt env.startedAt env.now h
    rw [herror]
    exact ⟨e, rfl, hne⟩

lemma decisionPrecheck_foreign
    (h : Foreign req.key req.requestHash
      (looked.dropExpired (fun k => k = req.key) env.receivedAt)) :
    (∃ e, decisionPrecheck req env.receivedAt looked = .error e ∧ e ≠ approvalExpired) ∨
      ∃ v, decisionPrecheck req env.receivedAt looked = .ok (.proceed, v) := by
  have hcleaned : cleanupExpiredIdempotencyRecords req.key env.receivedAt looked =
      .ok ((), looked.dropExpired (fun k => k = req.key) env.receivedAt) := rfl
  unfold decisionPrecheck
  rw [bind_of_ok hcleaned, bind_of_ok (get_ok.2 ⟨rfl, rfl⟩)]
  cases hfound : (looked.dropExpired (fun k => k = req.key) env.receivedAt).idempotency req.key with
  | some r =>
      simp only [if_neg (h r hfound)]
      exact .inl ⟨_, rfl, by decide⟩
  | none =>
      dsimp only
      by_cases hreason : req.reason = ""
      · rw [bind_of_error (rejectIf_of hreason)]
        exact .inl ⟨_, rfl, by decide⟩
      · rw [bind_of_ok ((rejectIf_ok (u := ())).2 ⟨hreason, rfl⟩)]
        exact .inr ⟨_, rfl⟩

lemma catchDecision_foreign {e : Fault} (h : Foreign req.key req.requestHash ended)
    (hne : e ≠ approvalExpired) :
    ∃ e', catchDecision req env.failedAt ended e = .error e' ∧ e' ≠ approvalExpired := by
  unfold catchDecision
  split
  · rw [(h.dropExpired _ _).no_replay]
    exact ⟨_, rfl, by decide⟩
  · exact ⟨_, rfl, by decide⟩
  · exact ⟨_, rfl, hne⟩

/-- Where no record of the payload is left, the request fails, and not as one on an expired
approval. -/
lemma decideApproval_foreign
    (hlooked : Foreign req.key req.requestHash
      (looked.dropExpired (fun k => k = req.key) env.receivedAt))
    (hbegan : Closed req.approvalId began) (hended : Foreign req.key req.requestHash ended) :
    ∃ e, decideApproval rt req env looked began ended = .error e ∧ e ≠ approvalExpired := by
  unfold decideApproval
  rcases decisionPrecheck_foreign hlooked with ⟨e, herror, hne⟩ | ⟨v, hproceeds⟩
  · rw [herror]
    exact ⟨e, rfl, hne⟩
  · obtain ⟨e, herror, hne⟩ := tryDecision_closed rt env ended hbegan
    simp only [hproceeds, herror]
    exact catchDecision_foreign hended hne

end answers

end LoyaltyService

open LoyaltyService

/-! ### The records of decisions -/

/-- The records of decisions stay as they are. -/
def SameDecisions (s t : Database) : Prop :=
  ∀ k : IdempotencyKey, k.endpoint = .approvalDecision → t.idempotency k = s.idempotency k

section records

variable {rt : Runtime} {s t u : Database} {now : Int} {op : Op}

lemma SameDecisions.of_eq (h : t.idempotency = s.idempotency) : SameDecisions s t :=
  fun k _ => congrFun h k

lemma SameDecisions.of_update {key : IdempotencyKey} {r : Option (IdempotencyRecord Response)}
    (hkey : key.endpoint ≠ .approvalDecision)
    (h : t.idempotency = Function.update s.idempotency key r) : SameDecisions s t := by
  intro k hk
  rw [h, Function.update_of_ne]
  rintro rfl
  exact hkey hk

lemma SameDecisions.trans (h : SameDecisions s t) (h' : SameDecisions t u) : SameDecisions s u :=
  fun k hk => (h' k hk).trans (h k hk)

lemma ApprovalExpired.idempotency {i : Nat} {a : Approval} {tenantId : String}
    {target : ApprovalTarget} {receiptId : Option Nat} {actor : Option StaffRef} {m : Database}
    (h : ApprovalExpired i a tenantId target receiptId now actor m s t) :
    t.idempotency = s.idempotency := by
  have hm : m.idempotency = s.idempotency := by
    cases h.target <;> rfl
  rw [h.frame]
  exact hm

lemma Lapsed.idempotency (h : Relation.ReflTransGen (Lapsed now) s t) :
    t.idempotency = s.idempotency := by
  induction h with
  | refl => rfl
  | tail _ hlast ih =>
      obtain ⟨i, a, m, hx⟩ := hlast
      exact hx.idempotency.trans ih

lemma LoyaltyService.TargetDecided.idempotency {req : DecisionRequest} {a : Approval}
    {res : DecisionResult} (h : TargetDecided rt req a now s t res) :
    t.idempotency = s.idempotency := by
  cases h with
  | earn _ h =>
      cases h with
      | expired h =>
          obtain ⟨m, hm⟩ := h.expired
          exact hm.idempotency
      | rejected h => rw [h.frame]
      | executed h => rw [h.frame]
  | redeem _ _ _ h =>
      cases h with
      | expired h =>
          obtain ⟨m, hm⟩ := h.expired
          exact hm.idempotency
      | rejected h => rw [h.frame]
      | @executed r k rows x v m u w h =>
          have ht : t.idempotency = w.idempotency := by rw [h.frame]
          have hv : v.idempotency = s.idempotency := by rw [h.approved]
          exact ht.trans (h.settlement.idempotency.trans hv)

/-- It leaves its approval decided. -/
lemma LoyaltyService.TargetDecided.closed {req : DecisionRequest} {a : Approval}
    {res : DecisionResult} (ha : s.approvals[req.approvalId]? = some a)
    (h : TargetDecided rt req a now s t res) : Closed req.approvalId t := by
  have hset : ∀ x : Approval, t.approvals = s.approvals.set req.approvalId x →
      x.status ≠ .PENDING → Closed req.approvalId t := by
    intro x hrows hx
    refine ⟨x, ?_, hx⟩
    rw [hrows]
    exact List.getElem?_set_self (Table.lt_of_getElem? ha)
  cases h with
  | earn _ h =>
      cases h with
      | expired h =>
          obtain ⟨m, hx⟩ := h.expired
          exact hset _ hx.approvals (by simp [expiredRow])
      | rejected h => exact hset (decided req .REJECTED now a) (by rw [h.frame]) (by simp [decided])
      | executed h =>
          exact hset (executed now (decided req .APPROVED now a)) (by rw [h.frame])
            (by simp [executed])
  | redeem _ _ _ h =>
      cases h with
      | expired h =>
          obtain ⟨m, hx⟩ := h.expired
          exact hset _ hx.approvals (by simp [expiredRow])
      | rejected h => exact hset (decided req .REJECTED now a) (by rw [h.frame]) (by simp [decided])
      | @executed r k rows x v m u w h =>
          refine hset (executed now (decided req .APPROVED now a)) ?_ (by simp [executed])
          rw [h.frame]
          change w.approvals.set _ _ = _
          rw [h.settlement.approvals, h.approved, List.set_set]

lemma ReversalsService.Marked.idempotency {tenantId : String} {entryId : Nat}
    (h : ReversalsService.Marked tenantId entryId now s t) : t.idempotency = s.idempotency := by
  cases h <;> rfl

open ReversalsService in
lemma ReversalsService.ReverseCommitted.sameDecisions {input : ReversalInput}
    {o : LoyaltyLedgerEntry} {finishedAt : Int} {existing : Option Response} {res : Response}
    (h : ReverseCommitted input o now finishedAt existing s t res) : SameDecisions s t := by
  have hkey : input.key.endpoint ≠ .approvalDecision := by
    intro hreverse
    cases hreverse
  cases h with
  | @credit lotId k l row res m _ _ _ h =>
      have hm : m.idempotency = s.idempotency := by rw [h.compensated.frame]
      exact .trans (.of_eq hm) (.of_update hkey (by rw [h.completed]))
  | @debit k planned rows res m w _ _ _ h =>
      have hm : m.idempotency = s.idempotency := by rw [h.restored.frame]
      exact .trans (.of_eq (h.marked.idempotency.trans hm)) (.of_update hkey (by rw [h.completed]))
  | pair _ _ _ h =>
      cases h with
      | @reversed lotId l row planned rows m u w _ h =>
          have hm : m.idempotency = s.idempotency := by rw [h.compensated.frame]
          have hu : u.idempotency = m.idempotency := by rw [h.restored.frame]
          exact .trans (.of_eq (h.marked.idempotency.trans (hu.trans hm)))
            (.of_update hkey (by rw [h.completed]))
      | replayed hs _ _ => exact .of_eq (by rw [hs])
  | replayed _ _ hs => exact .of_eq (by rw [hs])

/-- The operations that may change the record under the key of a decision. -/
def Op.Uses (k : IdempotencyKey) : Op → Prop
  | .decide req _ _ => req.key = k
  | .completeDecision key _ => key = k
  | .cleanup key _ => k = key
  | .cleanupAnyEndpoint key _ =>
      k.tenantId = key.tenantId ∧ k.actorId = key.actorId ∧ k.idempotencyKey = key.idempotencyKey
  | _ => False

lemma Step.completeDecision_ok {v w : System} {key : IdempotencyKey}
    {response : ApprovalDecisionResponse} (h : Step rt (.completeDecision key response) v w) :
    ∃ r, v.db.idempotency key = some r ∧ w.db.idempotency = Function.update v.db.idempotency key
      (some { r with status := .COMPLETED, responseJson := some (.decision response) }) := by
  have hrun := h.runs
  simp only [System.run] at hrun
  split at hrun
  · cases hcommit : v.commit (LoyaltyService.completeDecision key response) with
    | error e => rw [hcommit] at hrun; cases hrun
    | ok x =>
        rw [hcommit] at hrun
        obtain rfl := Except.ok.inj hrun
        obtain ⟨_, db, hok, rfl⟩ := System.commit_ok.1 hcommit
        simp only [LoyaltyService.completeDecision, bind_ok, get_ok, orFault_ok,
          updateIdempotencyRecord_ok] at hok
        obtain ⟨_, _, ⟨rfl, rfl⟩, r, _, ⟨hr, rfl⟩, -, rfl⟩ := hok
        exact ⟨r, hr, rfl⟩
  · cases hrun

lemma Step.completes {v : System} {key : IdempotencyKey} {response : ApprovalDecisionResponse}
    {r : IdempotencyRecord Response} (hmem : (key, response) ∈ v.completing)
    (hrecord : v.db.idempotency key = some r) :
    ∃ w, Step rt (.completeDecision key response) v w := by
  obtain ⟨db, hok⟩ : ∃ db, LoyaltyService.completeDecision key response v.db = .ok ((), db) := by
    simp only [LoyaltyService.completeDecision, bind_ok, get_ok, orFault_ok,
      updateIdempotencyRecord_ok]
    exact ⟨_, v.db, v.db, ⟨rfl, rfl⟩, r, v.db, ⟨hrecord, rfl⟩, by simp [hrecord], rfl⟩
  have hcommit : v.commit (LoyaltyService.completeDecision key response) = .ok { v with db } :=
    System.commit_ok.2 ⟨(), db, hok, rfl⟩
  refine ⟨{ v with db, completing := v.completing.erase (key, response) }, ?_, trivial⟩
  simp only [System.run, if_pos hmem, hcommit]
  rfl

lemma Step.cleanup_ok {v w : System} {key : IdempotencyKey} (h : Step rt (.cleanup key now) v w) :
    w.db = v.db.dropExpired (fun k => k = key) now := by
  obtain ⟨_, db, hok, rfl⟩ := System.commit_ok.1 h.runs
  exact update_ok.1 hok

lemma Step.cleanupAnyEndpoint_ok {v w : System} {key : IdempotencyKey}
    (h : Step rt (.cleanupAnyEndpoint key now) v w) :
    w.db = v.db.dropExpired (fun k => k.tenantId = key.tenantId && k.actorId = key.actorId &&
      k.idempotencyKey = key.idempotencyKey) now := by
  obtain ⟨_, db, hok, rfl⟩ := System.commit_ok.1 h.runs
  exact update_ok.1 hok

/-- **Other operations** leave the record of a decision as it is. -/
lemma Step.record_kept {v w : System} {k : IdempotencyKey} (hk : k.endpoint = .approvalDecision)
    (hv : v.db.books.Sound) (hstep : Step rt op v w) (hop : ¬ op.Uses k) :
    w.db.idempotency k = v.db.idempotency k := by
  have hout := hstep.outcome hv
  cases hout with
  | earn _ h =>
      have hkey : ∀ req : EarnRequest, req.key.endpoint ≠ .approvalDecision := fun _ h => by cases h
      cases h with
      | pending h => exact SameDecisions.of_update (hkey _) (by rw [h.frame]) k hk
      | credited h => exact SameDecisions.of_update (hkey _) (by rw [h.frame]) k hk
  | redeem _ h =>
      have hkey : ∀ req : RedeemRequest, req.key.endpoint ≠ .approvalDecision :=
        fun _ h => by cases h
      cases h with
      | pending h => exact SameDecisions.of_update (hkey _) (by rw [h.frame]) k hk
      | @settled k' r rows x v' m u w' h =>
          have hv' : v'.idempotency = v.db.idempotency := by rw [h.captured]
          have hw' := h.settlement.idempotency.trans hv'
          exact (SameDecisions.of_eq hw').trans
            (.of_update (hkey _) (by rw [h.frame])) k hk
  | @decide req _ _ _ _ v' _ recorded _ h =>
      rw [h.idempotency, recorded]
      exact Function.update_of_ne (fun heq => hop heq.symm) _ _
  -- a reversal writes twice, and never under a key of a decision
  | @reverse _ _ _ _ _ v' _ _ hopen _ h =>
      have hsame : SameDecisions v.db v' := by
        cases hopen with
        | fresh => exact .of_update (fun h => by cases h) rfl
        | found => exact .of_eq rfl
      exact hsame.trans h.sameDecisions k hk
  | adjust _ h =>
      have hkey : ∀ req : AdjustmentRequest, req.key.endpoint ≠ .approvalDecision :=
        fun _ h => by cases h
      cases h with
      | credit h => exact SameDecisions.of_update (hkey _) (by rw [h.frame]) k hk
      | debit h => exact SameDecisions.of_update (hkey _) (by rw [h.frame]) k hk
  | expireCredit h => rw [h.frame]
  | expireApprovals h =>
      rw [Lapsed.idempotency h]
  | completeDecision _ _ =>
      obtain ⟨r, -, hrecords⟩ := hstep.completeDecision_ok
      rw [hrecords]
      exact Function.update_of_ne (fun heq => hop heq.symm) _ _
  | cleanup _ _ =>
      rw [hstep.cleanup_ok]
      exact Database.dropExpired_other (by simpa [Op.Uses] using hop)
  | cleanupAnyEndpoint _ _ =>
      rw [hstep.cleanupAnyEndpoint_ok]
      refine Database.dropExpired_other fun hmatch => hop ?_
      simpa [Op.Uses, and_assoc] using hmatch
  | recordDuplicate _ =>
      obtain ⟨_, db, hok, rfl⟩ := System.commit_ok.1 hstep.runs
      simp only [recordDuplicateReceiptAttempt, bind_ok, recordAudit_ok,
        insertOutboxEvent_ok] at hok
      obtain ⟨_, _, rfl, rfl⟩ := hok
      rfl
  | administer _ _ =>
      obtain ⟨_, db, hok, rfl⟩ := System.commit_ok.1 hstep.runs
      rw [update_ok.1 hok]

end records

/-! ### What becomes of a record -/

/-- The response that an operation stores in the record under a key. -/
def Op.completion? (k : IdempotencyKey) : Op → Option ApprovalDecisionResponse
  | .completeDecision key response => if key = k then some response else none
  | _ => none

/-- The response that was stored last. -/
def lastCompletion (k : IdempotencyKey) (ops : List Op) : Option ApprovalDecisionResponse :=
  (ops.filterMap (Op.completion? k)).getLast?

lemma lastCompletion_snoc (k : IdempotencyKey) (ops : List Op) (op : Op) :
    lastCompletion k (ops ++ [op]) = (op.completion? k).or (lastCompletion k ops) := by
  unfold lastCompletion
  rw [List.filterMap_append]
  cases h : op.completion? k <;> simp [h]

/-- The operation removes the record under a key where that has expired. -/
def Op.Drops (k : IdempotencyKey) (expiresAt : Int) : Op → Prop
  | .cleanup key now => k = key ∧ expiresAt ≤ now
  | .cleanupAnyEndpoint key now =>
      (k.tenantId = key.tenantId ∧ k.actorId = key.actorId ∧
        k.idempotencyKey = key.idempotencyKey) ∧ expiresAt ≤ now
  | _ => False

/-- No other decision under the key has the hash of the request by accident. -/
def Op.Distinct (req : DecisionRequest) : Op → Prop
  | .decide other _ _ =>
      other.key = req.key → other.requestHash = req.requestHash → other.approvalId = req.approvalId
  | _ => True

section fates

variable {rt : Runtime} {req : DecisionRequest} {v w : System} {op : Op} {startedAt : Int}
  {last : Option ApprovalDecisionResponse}

/-- What a step makes of the record, unless it removes it. -/
lemma Step.record_next (hv : v.db.books.Sound) (h : Step rt op v w)
    (hrecord : v.db.idempotency req.key = some (decisionRecord req startedAt last))
    (hop : ¬ op.Drops req.key (startedAt + IDP_EXPIRY_MS)) :
    w.db.idempotency req.key =
      some (decisionRecord req startedAt ((op.completion? req.key).or last)) := by
  have hkept : ¬ op.Uses req.key → op.completion? req.key = none →
      w.db.idempotency req.key =
        some (decisionRecord req startedAt ((op.completion? req.key).or last)) := by
    intro huses hnone
    rw [hnone, Option.none_or, h.record_kept rfl hv huses, hrecord]
  cases op with
  | decide other _ _ =>
      refine hkept (fun hkey => ?_) rfl
      cases h.outcome hv with
      | decide hfree =>
          have hkey' : other.key = req.key := hkey
          rw [hkey', hrecord] at hfree
          cases hfree
  | completeDecision key response =>
      by_cases hkey : key = req.key
      · subst hkey
        obtain ⟨r, hr, hrecords⟩ := h.completeDecision_ok
        obtain rfl := Option.some.inj (hr.symm.trans hrecord)
        rw [hrecords, Function.update_self]
        simp [Op.completion?, decisionRecord]
      · exact hkept hkey (if_neg hkey)
  | cleanup key now =>
      rw [h.cleanup_ok]
      refine dropExpired_live hrecord fun hmatch => ?_
      have hkey : req.key = key := by simpa using hmatch
      exact not_le.1 fun hle => hop ⟨hkey, hle⟩
  | cleanupAnyEndpoint key now =>
      rw [h.cleanupAnyEndpoint_ok]
      refine dropExpired_live hrecord fun hmatch => ?_
      exact not_le.1 fun hle => hop ⟨by simpa [and_assoc] using hmatch, hle⟩
  | earn | redeem | reverse | adjust | expireCredit | expireApprovals | recordDuplicate
  | administer => exact hkept id rfl

lemma Step.record_dropped (h : Step rt op v w)
    (hrecord : v.db.idempotency req.key = some (decisionRecord req startedAt last))
    (hop : op.Drops req.key (startedAt + IDP_EXPIRY_MS)) : w.db.idempotency req.key = none := by
  cases op with
  | cleanup key now =>
      rw [h.cleanup_ok]
      exact dropExpired_expired hrecord (by simpa using hop.1) hop.2
  | cleanupAnyEndpoint key now =>
      rw [h.cleanupAnyEndpoint_ok]
      exact dropExpired_expired hrecord (by simpa [and_assoc] using hop.1) hop.2
  | earn | redeem | decide | completeDecision | reverse | adjust | expireCredit | expireApprovals
  | recordDuplicate | administer => exact hop.elim

lemma Step.closed {i : Nat} (hv : Invariants v.db) (h : Step rt op v w) (hclosed : Closed i v.db) :
    Closed i w.db := by
  obtain ⟨a, ha, hp⟩ := hclosed
  exact ⟨a, moves_decided_kept ((h.outcome hv.books.sound).moves hv.desk) ha hp, hp⟩

/-- **A key whose record is gone** is not taken for the payload again. -/
lemma Step.foreign (hv : Invariants v.db) (h : Step rt op v w) (hop : op.Distinct req)
    (hclosed : Closed req.approvalId v.db) (hforeign : Foreign req.key req.requestHash v.db) :
    Foreign req.key req.requestHash w.db := by
  have hkept : ¬ op.Uses req.key → Foreign req.key req.requestHash w.db := by
    intro huses r hr
    rw [h.record_kept rfl hv.books.sound huses] at hr
    exact hforeign r hr
  cases op with
  | decide other startedAt' now =>
      by_cases hkey : other.key = req.key
      · obtain ⟨res, hok, -⟩ := System.commitDecision_ok.1 h.runs
        obtain ⟨-, a, m, hm, hdec, hout⟩ := decideTransaction_ok hok
        intro r hr hhash
        rw [hout.idempotency, hm] at hr
        obtain rfl : pendingDecisionRecord other startedAt' = r := by
          simpa [hkey] using hr
        obtain ⟨b, hb, hp⟩ := hclosed
        have ha := hdec.approval
        rw [hop hkey hhash, hm] at ha
        obtain rfl : b = a := Option.some.inj (hb.symm.trans ha)
        exact hp hdec.pending
      · exact hkept hkey
  | completeDecision key response =>
      by_cases hkey : key = req.key
      · subst hkey
        obtain ⟨r, hr, hrecords⟩ := h.completeDecision_ok
        intro r' hr'
        rw [hrecords, Function.update_self] at hr'
        obtain rfl := Option.some.inj hr'
        exact hforeign r hr
      · exact hkept hkey
  | cleanup key now =>
      rw [h.cleanup_ok]
      exact hforeign.dropExpired _ _
  | cleanupAnyEndpoint key now =>
      rw [h.cleanupAnyEndpoint_ok]
      exact hforeign.dropExpired _ _
  | earn | redeem | reverse | adjust | expireCredit | expireApprovals | recordDuplicate
  | administer => exact hkept id

/-- After the decision, and after the operations so far. -/
structure RecordSince (req : DecisionRequest) (startedAt : Int) (ops : List Op) (s : System) :
    Prop where
  invariants : Invariants s.db
  closed : Closed req.approvalId s.db
  kept : (∀ op ∈ ops, ¬ op.Drops req.key (startedAt + IDP_EXPIRY_MS)) →
    s.db.idempotency req.key =
      some (decisionRecord req startedAt (lastCompletion req.key ops))
  dropped : (∃ op ∈ ops, op.Drops req.key (startedAt + IDP_EXPIRY_MS)) →
    Foreign req.key req.requestHash s.db

lemma RecordSince.decision {s s' : System} {now : Int} (hs : Invariants s.db)
    (h : Step rt (.decide req startedAt now) s s') : RecordSince req startedAt [] s' := by
  obtain ⟨res, hok, -⟩ := System.commitDecision_ok.1 h.runs
  obtain ⟨-, a, m, hm, hdec, hout⟩ := decideTransaction_ok hok
  refine ⟨hs.outcome (h.outcome hs.books.sound), hout.closed hdec.approval, fun _ => ?_, by simp⟩
  rw [hout.idempotency, hm]
  exact Function.update_self _ _ _

lemma RecordSince.step {ops : List Op} (hv : RecordSince req startedAt ops v)
    (hop : op.Distinct req) (h : Step rt op v w) : RecordSince req startedAt (ops ++ [op]) w := by
  have hout := h.outcome hv.invariants.books.sound
  refine ⟨hv.invariants.outcome hout, h.closed hv.invariants hv.closed, fun hall => ?_, ?_⟩
  · have hbefore := hv.kept fun o ho => hall o (List.mem_append_left _ ho)
    rw [lastCompletion_snoc]
    exact h.record_next hv.invariants.books.sound hbefore (hall op (by simp))
  · rintro ⟨o, ho, hdrops⟩
    by_cases hearlier : ∃ o ∈ ops, o.Drops req.key (startedAt + IDP_EXPIRY_MS)
    · exact h.foreign hv.invariants hop hv.closed (hv.dropped hearlier)
    · have hbefore := hv.kept fun o ho hd => hearlier ⟨o, ho, hd⟩
      rcases List.mem_append.1 ho with ho | ho
      · exact absurd ⟨o, ho, hdrops⟩ hearlier
      · obtain rfl := List.mem_singleton.1 ho
        intro r hr
        rw [h.record_dropped hbefore hdrops] at hr
        cases hr

/-- **Every run** after a decision. -/
lemma RecordSince.trace {s s' t : System} {now : Int} {ops : List Op} (hs : Reachable rt s)
    (h : Step rt (.decide req startedAt now) s s')
    (hrun : Trace (Step rt) (fun _ op => op.Distinct req) s' ops t) :
    RecordSince req startedAt ops t :=
  hrun.invariant (I := RecordSince req startedAt) (.decision hs.invariants h)
    fun hop hv hlast => hv.step hop hlast

lemma foreign_kept (hv : Invariants v.db) (hclosed : Closed req.approvalId v.db)
    (hforeign : Foreign req.key req.requestHash v.db)
    (hrun : StepsUnder rt (fun _ op => op.Distinct req) v w) :
    Invariants w.db ∧ Closed req.approvalId w.db ∧ Foreign req.key req.requestHash w.db :=
  hrun.invariant (I := fun u => Invariants u.db ∧ Closed req.approvalId u.db ∧
      Foreign req.key req.requestHash u.db)
    (fun hop ⟨hi, hc, hf⟩ hstep => ⟨hi.outcome (hstep.outcome hi.books.sound),
      hstep.closed hi hc, hstep.foreign hi hop hc hf⟩) ⟨hv, hclosed, hforeign⟩

end fates

/-! ### Replays -/

/-- The answer is what the decision came to, and the conflict is another payload's. -/
structure DecisionReplayed (req later : DecisionRequest) (res : DecisionResult)
    (answered : Except Fault Response) : Prop where
  outcome : answered = answer res
  conflict : answered = .error idempotencyConflict → later.requestHash ≠ req.requestHash

/-- The decision's process went on to store its response, and the record was still there when
the request came. -/
structure DecisionRecorded (req : DecisionRequest) (startedAt : Int) (res : DecisionResult)
    (ops : List Op) (receivedAt : Int) : Prop where
  completed : ∃ response, res = .decided response ∧ lastCompletion req.key ops = some response
  stood : ∀ op ∈ ops, ¬ op.Drops req.key (startedAt + IDP_EXPIRY_MS)
  received : receivedAt < startedAt + IDP_EXPIRY_MS

section replays

variable {rt : Runtime} {req later : DecisionRequest} {env : DecisionInput} {startedAt now : Int}
  {s s' t looked began ended : System} {ops : List Op} {res : DecisionResult}

lemma answer_ne_conflict (res : DecisionResult) : answer res ≠ .error idempotencyConflict := by
  cases res with
  | decided response => exact fun h => by cases h
  | expired => exact fun h => absurd h (by decide)

lemma DecisionReplayed.of_answer : DecisionReplayed req later res (answer res) :=
  ⟨rfl, fun h => absurd h (answer_ne_conflict res)⟩

lemma not_replayed_error {e : Fault} (hne : e ≠ approvalExpired) :
    ¬ DecisionReplayed req later res (.error e) := by
  rintro ⟨houtcome, -⟩
  cases res with
  | decided response => cases houtcome
  | expired => exact hne (Except.error.inj houtcome)

lemma RecordSince.gone (hrecords : RecordSince req startedAt ops t) (hlater : later.Repeats req)
    (hlooked : Step rt (.cleanup later.key env.receivedAt) t looked)
    (hbegan : StepsUnder rt (fun _ op => op.Distinct req) looked began)
    (hended : StepsUnder rt (fun _ op => op.Distinct req) began ended)
    (hforeign : Foreign req.key req.requestHash looked.db) :
    ¬ DecisionReplayed req later res (decideApproval rt later env t.db began.db ended.db) := by
  have hinv := hrecords.invariants.outcome (hlooked.outcome hrecords.invariants.books.sound)
  have hclosed := hlooked.closed hrecords.invariants hrecords.closed
  obtain ⟨hinv, hclosed, hforeign'⟩ := foreign_kept hinv hclosed hforeign hbegan
  obtain ⟨-, -, hended'⟩ := foreign_kept hinv hclosed hforeign' hended
  rw [← hlater.key, ← hlater.requestHash] at hforeign hended'
  rw [hlooked.cleanup_ok] at hforeign
  rw [← hlater.approvalId] at hclosed
  obtain ⟨e, herror, hne⟩ := decideApproval_foreign hforeign hclosed hended'
  rw [herror]
  exact not_replayed_error hne

/-- A request that comes again, by what the run before it made of the record. -/
lemma RecordSince.replayed_iff (hrecords : RecordSince req startedAt ops t)
    (hlater : later.Repeats req) (hlooked : Step rt (.cleanup later.key env.receivedAt) t looked)
    (hbegan : StepsUnder rt (fun _ op => op.Distinct req) looked began)
    (hended : StepsUnder rt (fun _ op => op.Distinct req) began ended) :
    DecisionReplayed req later res (decideApproval rt later env t.db began.db ended.db) ↔
      DecisionRecorded req startedAt res ops env.receivedAt := by
  have hgone : Foreign req.key req.requestHash looked.db →
      ¬ DecisionReplayed req later res (decideApproval rt later env t.db began.db ended.db) :=
    hrecords.gone hlater hlooked hbegan hended
  rw [hlooked.cleanup_ok] at hgone
  by_cases hstood : ∀ op ∈ ops, ¬ op.Drops req.key (startedAt + IDP_EXPIRY_MS)
  · have hrecord : t.db.idempotency later.key =
        some (decisionRecord req startedAt (lastCompletion req.key ops)) := by
      rw [hlater.key]
      exact hrecords.kept hstood
    by_cases hlive : env.receivedAt < startedAt + IDP_EXPIRY_MS
    · cases hlast : lastCompletion req.key ops with
      | none =>
          -- the process stopped before it stored its response
          rw [hlast] at hrecord
          rw [decideApproval_pending hrecord hlater.requestHash.symm hlive rfl]
          refine iff_of_false (not_replayed_error (by decide)) ?_
          rintro ⟨⟨response, -, hresponse⟩, -, -⟩
          rw [hlast] at hresponse
          cases hresponse
      | some response =>
          rw [hlast] at hrecord
          rw [decideApproval_completed hrecord hlater.requestHash.symm hlive rfl]
          constructor
          · rintro ⟨houtcome, -⟩
            cases res with
            | decided response' =>
                cases houtcome
                exact ⟨⟨response, rfl, hlast⟩, hstood, hlive⟩
            | expired => cases houtcome
          · rintro ⟨⟨response', rfl, hresponse⟩, -, -⟩
            obtain rfl := Option.some.inj (hlast.symm.trans hresponse)
            exact .of_answer
    · -- the look-up itself removes the record
      refine iff_of_false (hgone fun r hr => ?_) fun h => hlive h.received
      rw [← hlater.key, dropExpired_expired hrecord (by simp) (not_lt.1 hlive)] at hr
      cases hr
  · refine iff_of_false (hgone ?_) fun h => hstood h.stood
    have hdropped : ∃ op ∈ ops, op.Drops req.key (startedAt + IDP_EXPIRY_MS) := by
      simpa using hstood
    exact (hrecords.dropped hdropped).dropExpired _ _

/-- **A decision is replayed** exactly where its response was stored in time and is still on
record, whatever else commits before and during the request. -/
theorem decision_replayed_iff (hs : Reachable rt s)
    (hdecide : Step rt (.decide req startedAt now) s s')
    (_hres : decideTransaction rt req startedAt now s.db = .ok (res, s'.db))
    (hrun : Trace (Step rt) (fun _ op => op.Distinct req) s' ops t) (hlater : later.Repeats req)
    (hlooked : Step rt (.cleanup later.key env.receivedAt) t looked)
    (hbegan : StepsUnder rt (fun _ op => op.Distinct req) looked began)
    (hended : StepsUnder rt (fun _ op => op.Distinct req) began ended) :
    DecisionReplayed req later res (decideApproval rt later env t.db began.db ended.db) ↔
      DecisionRecorded req startedAt res ops env.receivedAt :=
  (RecordSince.trace hs hdecide hrun).replayed_iff hlater hlooked hbegan hended

/-- **Whoever asks again** for a decision, with the same reason but for blanks around it: the
request is replayed on the same terms. -/
theorem decision_asked_again {actor actor' : AuthContext} {approvalId : Nat}
    {decision : Decision} {reason reason' : String} {key : Option String} {u u' v v' : Database}
    (hreq : decisionRequest rt actor approvalId decision reason key u = .ok (req, u'))
    (hagain : decisionRequest rt actor' approvalId decision reason' key v = .ok (later, v'))
    (htenant : actor'.tenantId = actor.tenantId) (hid : actor'.id = actor.id)
    (hreason : trim reason' = trim reason) (hs : Reachable rt s)
    (hdecide : Step rt (.decide req startedAt now) s s')
    (hrun : Trace (Step rt) (fun _ op => op.Distinct req) s' ops t)
    (hlooked : Step rt (.cleanup later.key env.receivedAt) t looked)
    (hbegan : StepsUnder rt (fun _ op => op.Distinct req) looked began)
    (hended : StepsUnder rt (fun _ op => op.Distinct req) began ended) :
    DecisionReplayed req later res (decideApproval rt later env t.db began.db ended.db) ↔
      DecisionRecorded req startedAt res ops env.receivedAt :=
  (RecordSince.trace hs hdecide hrun).replayed_iff
    (decisionRequest_repeats hreq hagain htenant hid hreason) hlooked hbegan hended

end replays

/-! ### A purchase that is approved -/

namespace Shop

/-- The supervisor's approval of the first purchase. -/
def basketChecked : DecisionRequest :=
  ⟨supervisor, "d1", 0, .APPROVED, "checked the basket", sha256 "d1"⟩

/-- The approval is requested again a minute later. -/
def oneMinuteLater : DecisionInput := ⟨night + 60000, night, night, night, false⟩

lemma basketChecked_decided : ∃ s s' response, Reachable runtime s ∧
    Step runtime (approve "d1") s s' ∧
    decideTransaction runtime basketChecked night night s.db = .ok (.decided response, s'.db) ∧
    (basketChecked.key, response) ∈ s'.completing := by
  have hlength : ((opened.runAll runtime [earn "k1" 30000000]).bind fun s =>
      (s.run runtime (approve "d1")).map fun s' => s'.completing.length) = .ok 1 := by
    decide +kernel
  cases hearlier : opened.runAll runtime ([] ++ [earn "k1" 30000000]) with
  | error e =>
      rw [← List.nil_append [earn "k1" 30000000], hearlier] at hlength
      cases hlength
  | ok s =>
  rw [← List.nil_append [earn "k1" 30000000], hearlier] at hlength
  change (s.run runtime (approve "d1")).map _ = _ at hlength
  cases hlast : s.run runtime (approve "d1") with
  | error e =>
      rw [hlast] at hlength
      cases hlength
  | ok s' =>
  rw [hlast] at hlength
  have hlater : s'.completing.length = 1 := Except.ok.inj hlength
  have hreach : Reachable runtime s :=
    ⟨registry, .of_runAll hearlier (by simp [earn, Op.Admissible])⟩
  -- the purchase completes no decision
  obtain ⟨u, hnil, hearn⟩ := System.runAll_snoc hearlier
  obtain rfl : opened = u := Except.ok.inj hnil
  obtain ⟨a, db, -, rfl⟩ := System.commit_ok.1 hearn
  obtain ⟨res, hok, hcompleting⟩ := System.commitDecision_ok.1 hlast
  cases res with
  | expired =>
      dsimp only at hcompleting
      rw [hcompleting] at hlater
      cases hlater
  | decided response =>
      dsimp only at hcompleting
      refine ⟨_, s', response, hreach, ⟨hlast, trivial⟩, hok, ?_⟩
      rw [hcompleting]
      exact List.mem_cons_self

/-- What the look-up of the second request leaves. -/
def lookedUp (s : System) : System :=
  { s with db := s.db.dropExpired (fun k => k = basketChecked.key) oneMinuteLater.receivedAt }

lemma lookedUp_step (s : System) :
    Step runtime (.cleanup basketChecked.key oneMinuteLater.receivedAt) s (lookedUp s) :=
  ⟨rfl, trivial⟩

end Shop

/-- The decision's process stores its response, and the request is answered from it. -/
theorem decision_replayed_iff_shop : ∃ s s' t response, Reachable Shop.runtime s ∧
    Step Shop.runtime (Shop.approve "d1") s s' ∧
    Step Shop.runtime (.completeDecision Shop.basketChecked.key response) s' t ∧
    decideApproval Shop.runtime Shop.basketChecked Shop.oneMinuteLater t.db (Shop.lookedUp t).db
      (Shop.lookedUp t).db = .ok (.decision response) := by
  obtain ⟨s, s', response, hs, hdecide, hres, hmem⟩ := Shop.basketChecked_decided
  have hrecord := (RecordSince.decision hs.invariants hdecide).kept (by simp)
  obtain ⟨t, hcomplete⟩ : ∃ t, Step Shop.runtime
      (.completeDecision Shop.basketChecked.key response) s' t := Step.completes hmem hrecord
  have hrun : Trace (Step Shop.runtime) (fun _ op => op.Distinct Shop.basketChecked) s'
      [.completeDecision Shop.basketChecked.key response] t := .snoc .nil trivial hcomplete
  have hlast : lastCompletion Shop.basketChecked.key
      [.completeDecision Shop.basketChecked.key response] = some response := by
    simp [lastCompletion, Op.completion?]
  have hreplayed := (decision_replayed_iff hs hdecide hres hrun ⟨rfl, rfl, rfl, rfl, rfl⟩
    (Shop.lookedUp_step t) (.refl _) (.refl _)).2
    ⟨⟨response, rfl, hlast⟩, by simp [Op.Drops], by decide⟩
  exact ⟨s, s', t, response, hs, hdecide, hcomplete, hreplayed.outcome⟩

/-- **A process that stops** after its decision has committed leaves a record that the same
request is refused for, as if it were another one. -/
theorem stopped_decision_refused : ∃ s s' response, Reachable Shop.runtime s ∧
    Step Shop.runtime (Shop.approve "d1") s s' ∧
    decideTransaction Shop.runtime Shop.basketChecked Shop.night Shop.night s.db =
      .ok (.decided response, s'.db) ∧
    decideApproval Shop.runtime Shop.basketChecked Shop.oneMinuteLater s'.db (Shop.lookedUp s').db
      (Shop.lookedUp s').db = .error idempotencyConflict ∧
    ¬ DecisionReplayed Shop.basketChecked Shop.basketChecked (.decided response)
      (.error idempotencyConflict) := by
  obtain ⟨s, s', response, hs, hdecide, hres, -⟩ := Shop.basketChecked_decided
  have hrecord := (RecordSince.decision hs.invariants hdecide).kept (by simp)
  exact ⟨s, s', response, hs, hdecide, hres,
    decideApproval_pending hrecord rfl (by decide) rfl, not_replayed_error (by decide)⟩

end ShopcityLoyalty
