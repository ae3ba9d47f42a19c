import ShopcityLoyalty.AdjustmentRetries
import ShopcityLoyalty.DecisionReplays
import ShopcityLoyalty.EarnRequests
import ShopcityLoyalty.RetriedTransactions

/-!
Financial requests that come again.

The transaction of an earn, a redemption, a reversal or an adjustment leaves the completed record
of its key. Until that record is cleaned up, nothing else that is committed changes it, and
whatever comes under the key is answered from it.
-/

namespace ShopcityLoyalty

open Txn Database Process

/-- The key and the hash of the financial request that an operation carries out. -/
def Op.request? : Op → Option (IdempotencyKey × Digest)
  | .earn req _ _ => some (req.key, req.requestHash)
  | .redeem req _ _ => some (req.key, req.requestHash)
  | .reverse input _ _ _ => some (input.key, input.requestHash)
  | .adjust req _ _ _ => some (req.key, req.requestHash)
  | _ => none

/-- What the transaction of a financial request returns, where it succeeds. -/
def Op.returns? (rt : Runtime) (s : Database) : Op → Option Response
  | .earn req adm now =>
      (LoyaltyService.earnTransaction rt req adm now s).toOption.map fun r => .earn r.1
  | .redeem req adm now =>
      (RedemptionsService.redeemTransaction rt req adm now s).toOption.map fun r => .redeem r.1
  | .reverse input startedAt now finishedAt =>
      (ReversalsService.reverseTransaction rt input startedAt now finishedAt s).toOption.map (·.1)
  | .adjust req startedAt now finishedAt =>
      (AdjustmentsService.adjustmentTransaction rt req startedAt now finishedAt s).toOption.map
        fun r => .adjustment r.1
  | _ => none

/-- The record of a request that was answered. -/
structure IdempotencyRecord.Answers (r : IdempotencyRecord Response) (requestHash : Digest)
    (response : Response) : Prop where
  requestHash : r.requestHash = requestHash
  responseJson : r.responseJson = some response

/-- A transaction takes its key and leaves the record of its answer, or it finds that record. -/
inductive AnsweredUnder (key : IdempotencyKey) (requestHash : Digest) (response : Response)
    (s t : Database) : Prop
  | first {r} (unused : s.idempotency key = none) (answers : r.Answers requestHash response)
      (recorded : t.idempotency = Function.update s.idempotency key (some r))
  | again {r} (found : s.idempotency key = some r) (answers : r.Answers requestHash response)
      (same : t = s)

/-! ### What the transactions leave under their keys -/

section transactions

variable {rt : Runtime} {s t : Database} {now : Int}

lemma LoyaltyService.earnTransaction_answered {req : EarnRequest} {adm : EarnAdmission}
    {res : EarnTransactionResponse} (h : earnTransaction rt req adm now s = .ok (res, t)) :
    AnsweredUnder req.key req.requestHash (.earn res) s t := by
  obtain ⟨ctx, amount, hstart, hout⟩ := earnTransaction_ok h
  have hrecorded : t.idempotency = Function.update s.idempotency req.key
      (some (completedRecord req.requestHash (.earn res) now)) := by
    cases hout with
    | pending h => rw [h.frame]
    | credited h => rw [h.frame]
  exact .first hstart.key ⟨rfl, rfl⟩ hrecorded

lemma RedemptionsService.redeemTransaction_answered {req : RedeemRequest} {adm : RedeemAdmission}
    {res : RedeemTransactionResponse} (h : redeemTransaction rt req adm now s = .ok (res, t)) :
    AnsweredUnder req.key req.requestHash (.redeem res) s t := by
  obtain ⟨ctx, a, hstart, hout⟩ := redeemTransaction_ok h
  have hrecorded : t.idempotency = Function.update s.idempotency req.key
      (some { requestHash := req.requestHash, responseJson := some (.redeem res)
              status := .COMPLETED, expiresAt := now + IDP_EXPIRY_MS }) := by
    cases hout with
    | pending h => rw [h.frame]
    | @settled k r rows x v m u w h =>
        have hw : w.idempotency = s.idempotency := by
          rw [h.settlement.idempotency, h.captured]
        rw [h.frame, ← hw]
  exact .first hstart.key ⟨rfl, rfl⟩ hrecorded

lemma AdjustmentsService.adjustmentTransaction_answered {req : AdjustmentRequest}
    {startedAt finishedAt : Int} {res : AdjustmentResponse}
    (h : adjustmentTransaction rt req startedAt now finishedAt s = .ok (res, t)) :
    AnsweredUnder req.key req.requestHash (.adjustment res) s t := by
  obtain ⟨hstart, hout⟩ := adjustmentTransaction_ok h
  have hrecorded : t.idempotency = Function.update s.idempotency req.key
      (some (completedAdjustment req res finishedAt)) := by
    cases hout with
    | credit h => rw [h.frame]
    | debit h => rw [h.frame]
  exact .first hstart.key ⟨rfl, rfl⟩ hrecorded

lemma ReversalsService.ReverseCommitted.completes {input : ReversalInput} {o : LoyaltyLedgerEntry}
    {finishedAt : Int} {res : Response}
    (h : ReverseCommitted input o now finishedAt none s t res) :
    ∃ x, res = .reversal x ∧ t.idempotency =
      Function.update s.idempotency input.key (some (completedReversal input x finishedAt)) := by
  cases h with
  | @credit lotId k l row res m _ _ _ h =>
      have hm : m.idempotency = s.idempotency := by rw [h.compensated.frame]
      exact ⟨res, rfl, by rw [h.completed, hm]⟩
  | @debit k planned rows res m w _ _ _ h =>
      have hm : m.idempotency = s.idempotency := by rw [h.restored.frame]
      exact ⟨res, rfl, by rw [h.completed, h.marked.idempotency, hm]⟩
  | @pair _ _ res _ _ _ h =>
      cases h with
      | @reversed lotId l row planned rows m u w _ h =>
          have hm : m.idempotency = s.idempotency := by rw [h.compensated.frame]
          have hu : u.idempotency = m.idempotency := by rw [h.restored.frame]
          exact ⟨res, rfl, by rw [h.completed, h.marked.idempotency, hu, hm]⟩
      | replayed _ recorded _ => cases recorded
  | replayed recorded _ _ => cases recorded

lemma ReversalsService.ReverseCommitted.replays {input : ReversalInput} {o : LoyaltyLedgerEntry}
    {finishedAt : Int} {x res : Response}
    (h : ReverseCommitted input o now finishedAt (some x) s t res) : res = x ∧ t = s := by
  cases h with
  | credit fresh => cases fresh
  | debit fresh => cases fresh
  | pair _ _ _ h =>
      cases h with
      | reversed fresh => cases fresh
      | replayed same recorded => exact ⟨(Option.some.inj recorded).symm, same.symm⟩
  | replayed recorded _ same => exact ⟨(Option.some.inj recorded).symm, same.symm⟩

lemma ReversalsService.reverseTransaction_answered {input : ReversalInput}
    {startedAt finishedAt : Int} {res : Response} (hs : s.books.Sound)
    (h : reverseTransaction rt input startedAt now finishedAt s = .ok (res, t)) :
    AnsweredUnder input.key input.requestHash res s t := by
  obtain ⟨existing, v, o, hopen, -, hout⟩ := reverseTransaction_ok hs h
  cases hopen with
  | fresh hkey =>
      obtain ⟨x, rfl, hrecorded⟩ := hout.completes
      refine .first hkey ⟨rfl, rfl⟩ (r := completedReversal input x finishedAt) ?_
      rw [hrecorded]
      exact Function.update_idem _ _ _
  | found hkey hhash hresponse =>
      obtain ⟨rfl, rfl⟩ := hout.replays
      exact .again hkey ⟨hhash, hresponse⟩ rfl

end transactions

section steps

variable {rt : Runtime} {op : Op} {v w : System} {key : IdempotencyKey} {requestHash : Digest}
  {response : Response} {r : IdempotencyRecord Response}

/-- **The transaction of a financial request** answers it under its key. -/
lemma Step.answered (hv : v.db.books.Sound) (h : Step rt op v w)
    (hreq : op.request? = some (key, requestHash)) :
    ∃ response, op.returns? rt v.db = some response ∧
      AnsweredUnder key requestHash response v.db w.db := by
  have hrun := h.runs
  cases op with
  | earn req adm now =>
      obtain ⟨rfl, rfl⟩ := Prod.mk.inj (Option.some.inj hreq)
      obtain ⟨res, db, hok, rfl⟩ := System.commit_ok.1 hrun
      exact ⟨.earn res, by simp [Op.returns?, hok, Except.toOption],
        LoyaltyService.earnTransaction_answered hok⟩
  | redeem req adm now =>
      obtain ⟨rfl, rfl⟩ := Prod.mk.inj (Option.some.inj hreq)
      obtain ⟨res, db, hok, rfl⟩ := System.commit_ok.1 hrun
      exact ⟨.redeem res, by simp [Op.returns?, hok, Except.toOption],
        RedemptionsService.redeemTransaction_answered hok⟩
  | reverse input startedAt now finishedAt =>
      obtain ⟨rfl, rfl⟩ := Prod.mk.inj (Option.some.inj hreq)
      obtain ⟨res, db, hok, rfl⟩ := System.commit_ok.1 hrun
      exact ⟨res, by simp [Op.returns?, hok, Except.toOption],
        ReversalsService.reverseTransaction_answered hv hok⟩
  | adjust req startedAt now finishedAt =>
      obtain ⟨rfl, rfl⟩ := Prod.mk.inj (Option.some.inj hreq)
      obtain ⟨res, db, hok, rfl⟩ := System.commit_ok.1 hrun
      exact ⟨.adjustment res, by simp [Op.returns?, hok, Except.toOption],
        AdjustmentsService.adjustmentTransaction_answered hok⟩
  | decide | completeDecision | expireCredit | expireApprovals | cleanup | cleanupAnyEndpoint
  | recordDuplicate | administer => cases hreq

lemma Step.answered_again (hv : v.db.books.Sound) (h : Step rt op v w)
    (hreq : op.request? = some (key, requestHash)) (hrecord : v.db.idempotency key = some r) :
    r.requestHash = requestHash ∧ op.returns? rt v.db = r.responseJson ∧ w.db = v.db := by
  obtain ⟨response, hreturns, hanswered⟩ := h.answered hv hreq
  cases hanswered with
  | first unused =>
      rw [unused] at hrecord
      cases hrecord
  | again found answers same =>
      obtain rfl := Option.some.inj (found.symm.trans hrecord)
      exact ⟨answers.requestHash, hreturns.trans answers.responseJson.symm, same⟩

/-- The decisions whose records are not completed yet have keys of decisions. -/
def System.CompletesDecisions (v : System) : Prop :=
  ∀ x ∈ v.completing, x.1.endpoint = .approvalDecision

lemma Step.completesDecisions (hv : v.CompletesDecisions) (h : Step rt op v w) :
    w.CompletesDecisions := by
  have hrun := h.runs
  cases op with
  | decide req startedAt now =>
      obtain ⟨res, -, hcompleting⟩ := System.commitDecision_ok.1 hrun
      intro x hx
      cases res with
      | expired =>
          dsimp only at hcompleting
          exact hv x (hcompleting ▸ hx)
      | decided response =>
          dsimp only at hcompleting
          rw [hcompleting] at hx
          rcases List.mem_cons.1 hx with rfl | hx
          · rfl
          · exact hv x hx
  | completeDecision other response =>
      simp only [System.run] at hrun
      split at hrun
      · cases hc : v.commit (LoyaltyService.completeDecision other response) with
        | error e => rw [hc] at hrun; cases hrun
        | ok u =>
            rw [hc] at hrun
            obtain rfl := Except.ok.inj hrun
            obtain ⟨_, db, -, rfl⟩ := System.commit_ok.1 hc
            exact fun x hx => hv x (List.mem_of_mem_erase hx)
      · cases hrun
  | earn | redeem | reverse | adjust | expireCredit | expireApprovals | cleanup
  | cleanupAnyEndpoint | recordDuplicate | administer =>
      obtain ⟨_, db, -, rfl⟩ := System.commit_ok.1 hrun
      exact hv

lemma Step.completing_mem {other : IdempotencyKey} {response : ApprovalDecisionResponse}
    (h : Step rt (.completeDecision other response) v w) : (other, response) ∈ v.completing := by
  have hrun := h.runs
  simp only [System.run] at hrun
  split at hrun
  · assumption
  · cases hrun

/-- **Whatever is committed** leaves the record of a financial request, unless it cleans up. -/
lemma Step.answer_stands (hv : v.db.books.Sound) (hcompletes : v.CompletesDecisions)
    (h : Step rt op v w) (hkey : key.endpoint ≠ .approvalDecision)
    (hrecord : v.db.idempotency key = some r) (hop : ¬ op.Drops key r.expiresAt) :
    w.db.idempotency key = some r := by
  have hrequest : ∀ k hash, op.request? = some (k, hash) → w.db.idempotency key = some r := by
    intro k hash hreq
    obtain ⟨response, -, hanswered⟩ := h.answered hv hreq
    cases hanswered with
    | first unused _ recorded =>
        rw [recorded, Function.update_of_ne, hrecord]
        rintro rfl
        rw [unused] at hrecord
        cases hrecord
    | again _ _ same => rw [same, hrecord]
  cases op with
  | earn req | redeem req | adjust req => exact hrequest req.key req.requestHash rfl
  | reverse input => exact hrequest input.key input.requestHash rfl
  | decide req startedAt now =>
      cases h.outcome hv with
      | decide _ recorded _ hout =>
          rw [hout.idempotency, recorded]
          refine (Function.update_of_ne ?_ _ _).trans hrecord
          rintro rfl
          exact hkey rfl
  | completeDecision other response =>
      obtain ⟨x, -, hrecords⟩ := h.completeDecision_ok
      rw [hrecords, Function.update_of_ne, hrecord]
      rintro rfl
      exact hkey (hcompletes _ h.completing_mem)
  | cleanup other now =>
      rw [h.cleanup_ok]
      refine LoyaltyService.dropExpired_live hrecord fun hmatch => ?_
      have hsame : key = other := by simpa using hmatch
      exact not_le.1 fun hle => hop ⟨hsame, hle⟩
  | cleanupAnyEndpoint other now =>
      rw [h.cleanupAnyEndpoint_ok]
      refine LoyaltyService.dropExpired_live hrecord fun hmatch => ?_
      exact not_le.1 fun hle => hop ⟨by simpa [and_assoc] using hmatch, hle⟩
  | expireCredit =>
      cases h.outcome hv with
      | expireCredit hout => rw [hout.frame]; exact hrecord
  | expireApprovals =>
      cases h.outcome hv with
      | expireApprovals hout => rw [Lapsed.idempotency hout]; exact hrecord
  | recordDuplicate =>
      obtain ⟨_, db, hok, rfl⟩ := System.commit_ok.1 h.runs
      simp only [recordDuplicateReceiptAttempt, bind_ok, recordAudit_ok,
        insertOutboxEvent_ok] at hok
      obtain ⟨_, _, rfl, rfl⟩ := hok
      exact hrecord
  | administer =>
      obtain ⟨_, db, hok, rfl⟩ := System.commit_ok.1 h.runs
      rw [update_ok.1 hok]
      exact hrecord

lemma Reachable.completesDecisions (hs : Reachable rt v) : v.CompletesDecisions := by
  obtain ⟨registry, hrun⟩ := hs
  refine hrun.invariant (I := System.CompletesDecisions) (fun _ hu h => h.completesDecisions hu) ?_
  intro x hx
  cases hx

/-- The record of an answer, where the invariants hold. -/
structure AnswerStands (key : IdempotencyKey) (r : IdempotencyRecord Response) (v : System) :
    Prop where
  invariants : Invariants v.db
  completes : v.CompletesDecisions
  record : v.db.idempotency key = some r

/-- **A run** without a clean-up that removes the record. -/
lemma AnswerStands.run (hv : AnswerStands key r v) (hkey : key.endpoint ≠ .approvalDecision)
    (hrun : StepsUnder rt (fun _ o => ¬ o.Drops key r.expiresAt) v w) : AnswerStands key r w := by
  refine hrun.invariant (I := AnswerStands key r) (fun hop hu h => ?_) hv
  have hsound := hu.invariants.books.sound
  exact ⟨hu.invariants.outcome (h.outcome hsound), h.completesDecisions hu.completes,
    h.answer_stands hsound hu.completes hkey hu.record hop⟩

lemma Op.request?_endpoint (hreq : op.request? = some (key, requestHash)) :
    key.endpoint ≠ .approvalDecision := by
  cases op with
  | earn | redeem | reverse | adjust =>
      obtain ⟨rfl, -⟩ := Prod.mk.inj (Option.some.inj hreq)
      rintro ⟨⟩
  | decide | completeDecision | expireCredit | expireApprovals | cleanup | cleanupAnyEndpoint
  | recordDuplicate | administer => cases hreq

lemma Step.answer_left (hs : Reachable rt v) (h : Step rt op v w)
    (hreq : op.request? = some (key, requestHash)) (hres : op.returns? rt v.db = some response) :
    ∃ r, r.Answers requestHash response ∧ AnswerStands key r w := by
  have hsound := hs.invariants.books.sound
  have hinv : Invariants w.db := hs.invariants.outcome (h.outcome hsound)
  have hcompletes := h.completesDecisions hs.completesDecisions
  obtain ⟨x, hx, hanswered⟩ := h.answered hsound hreq
  obtain rfl := Option.some.inj (hx.symm.trans hres)
  cases hanswered with
  | first _ answers recorded =>
      exact ⟨_, answers, hinv, hcompletes, by rw [recorded]; exact Function.update_self _ _ _⟩
  | again found answers same => exact ⟨_, answers, hinv, hcompletes, by rw [same]; exact found⟩

end steps

/-! ### Whole requests -/

namespace RedemptionsService

/-- `redeem`; `transact` is what follows where nothing is found under the key. -/
def redeem (rt : Runtime) (actor : AuthContext) (idempotencyKey : Option String)
    (dto : RedeemTransactionDto) (transact : RedeemRequest → RequestProcess Response) :
    RequestProcess Response := do
  let req ← transaction fun env => startRedeem rt actor idempotencyKey dto env.now
  let found ← transaction fun _ => lookUpRedeem req
  match found with
  | .replay response => pure response
  | .proceed => transact req

end RedemptionsService

namespace ReversalsService

def REVERSAL_RETRY_ATTEMPTS : Nat := 3

def reversalConflict : Fault :=
  .http 503 "REVERSAL_TRANSACTION_CONFLICT" "Transaction reversal conflicted; retry the request"

/-- A failure after which `runReverseTransaction` tries again. -/
def isReversalConflict : Fault → Bool
  | .serialization => true
  | .unique _ => true
  | _ => false

/-- `runReverseTransaction`; at its end the database may report any unique key as taken. -/
def runReverseTransaction (rt : Runtime) (input : ReversalInput) :
    Nat → AdjustmentProcess Response
  | 0 => fail reversalConflict
  | attempts + 1 => do
      let result ← statement fun env db => answerTransaction env.commit (fun _ => true)
        (reverseTransaction rt input env.startedAt env.now env.finishedAt db) db
      match result with
      | .ok response => pure response
      | .error e =>
          if isReversalConflict e then runReverseTransaction rt input attempts else fail e

def reverse (rt : Runtime) (actor : AuthContext) (transactionId : Nat)
    (idempotencyKey : Option String) (reason : String) : AdjustmentProcess Response := do
  let (req, sel) ← transaction fun _ => startReverse actor transactionId idempotencyKey reason
  transaction fun env => cleanupExpiredRecordsOfAnyEndpoint req.key env.now
  let found ← transaction fun _ => lookUpReverse rt req sel
  match found with
  | .replay response => pure response
  | .proceed =>
      runReverseTransaction rt { req with requestHash := requestHashOf rt req sel }
        REVERSAL_RETRY_ATTEMPTS

end ReversalsService

/-- The answer to a request under a key whose record has this hash and response. -/
def replayTo (requestHash : Digest) (response : Response) (asked : Digest) :
    Except Fault Response :=
  if requestHash = asked then .ok response else .error idempotencyConflict

section calls

variable {rt : Runtime} {actor : AuthContext} {idempotencyKey : Option String}
  {r : IdempotencyRecord Response} {requestHash : Digest} {response : Response}
  {res : Except Fault Response}

lemma precheckRecord_answered {inProgress : Fault} (asked : Digest) (s : Database)
    (hr : r.Answers requestHash response) :
    precheckRecord (some r) asked inProgress s =
      (replayTo requestHash response asked).map fun x => (.replay x, s) := by
  unfold precheckRecord replayTo
  dsimp only
  rw [← hr.requestHash]
  by_cases hhash : r.requestHash = asked
  · rw [if_pos hhash, bind_of_ok ((rejectIf_ok (u := ())).2 ⟨by simpa using hhash, rfl⟩),
      hr.responseJson]
    rfl
  · rw [if_neg hhash, bind_of_error (rejectIf_of hhash)]
    rfl

lemma along_replayed {next : Precheck → RequestProcess Response} {asked : Digest} {u : Database}
    {met : List (RequestInput × Database)} (hnext : ∀ x, next (.replay x) = done x)
    (h : (∃ b t, ((replayTo requestHash response asked).map fun x => (Precheck.replay x, u)) =
        .ok (b, t) ∧ (next b).along met = some res) ∨
      ∃ e, ((replayTo requestHash response asked).map fun x => (Precheck.replay x, u)) =
        .error e ∧ met = [] ∧ res = .error e) : res = replayTo requestHash response asked := by
  unfold replayTo at h ⊢
  by_cases hhash : requestHash = asked
  · rw [if_pos hhash] at h ⊢
    rcases h with ⟨b, t, hok, hdone⟩ | ⟨e, herror, -⟩
    · obtain ⟨rfl, -⟩ := Prod.mk.inj (Except.ok.inj hok)
      rw [hnext] at hdone
      exact (along_done.1 hdone).2
    · cases herror
  · rw [if_neg hhash] at h ⊢
    rcases h with ⟨b, t, hok, -⟩ | ⟨e, herror, -, hres⟩
    · cases hok
    · obtain rfl := Except.error.inj herror
      exact hres

/-- An earn request whose look-up finds the record of an answer. -/
lemma LoyaltyService.earn_answered {dto : EarnTransactionDto} {req : EarnRequest}
    {met : List (RequestInput × Database)}
    (hreq : ∀ u, earnRequest rt actor idempotencyKey dto u = .ok (req, u))
    (hr : r.Answers requestHash response) (hmet : ∀ x ∈ met, x.2.idempotency req.key = some r)
    (h : (earn rt actor idempotencyKey dto).along met = some res) :
    res = replayTo requestHash response req.requestHash := by
  unfold earn at h
  obtain ⟨env, u, rest, rfl, hstart⟩ := along_transaction_bind.1 h
  have hstarted : startEarn rt actor idempotencyKey dto env.now u =
      .ok (req, u.dropExpired (fun k => k = req.key) env.now) := by
    unfold startEarn
    rw [bind_of_ok (hreq u)]
    rfl
  rcases hstart with ⟨req', t, hok, hlookup⟩ | ⟨e, herror, -⟩
  · rw [hstarted] at hok
    obtain ⟨rfl, -⟩ := Prod.mk.inj (Except.ok.inj hok)
    obtain ⟨env', u', rest', rfl, hfound⟩ := along_transaction_bind.1 hlookup
    have hrecord : u'.idempotency req.key = some r :=
      hmet (env', u') (.tail _ List.mem_cons_self)
    have hlooked : lookUpEarn req u' =
        (replayTo requestHash response req.requestHash).map fun x => (.replay x, u') := by
      unfold lookUpEarn
      rw [bind_of_ok (get_ok.2 ⟨rfl, rfl⟩), hrecord]
      exact precheckRecord_answered req.requestHash u' hr
    rw [hlooked] at hfound
    exact along_replayed (fun _ => rfl) hfound
  · rw [hstarted] at herror
    cases herror

/-- A redemption request whose look-up finds it. -/
lemma RedemptionsService.redeem_answered {dto : RedeemTransactionDto} {req : RedeemRequest}
    {transact : RedeemRequest → RequestProcess Response} {met : List (RequestInput × Database)}
    (hreq : ∀ u, redeemRequest rt actor idempotencyKey dto u = .ok (req, u))
    (hr : r.Answers requestHash response) (hmet : ∀ x ∈ met, x.2.idempotency req.key = some r)
    (h : (redeem rt actor idempotencyKey dto transact).along met = some res) :
    res = if actor.deviceId.isNone then .error sessionDeviceRequired
      else replayTo requestHash response req.requestHash := by
  unfold redeem at h
  obtain ⟨env, u, rest, rfl, hstart⟩ := along_transaction_bind.1 h
  by_cases hdevice : actor.deviceId.isNone
  · have hrefused : startRedeem rt actor idempotencyKey dto env.now u =
        .error sessionDeviceRequired := by
      unfold startRedeem
      rw [bind_of_ok (hreq u), bind_of_error (rejectIf_of hdevice)]
    rcases hstart with ⟨req', t, hok, -⟩ | ⟨e, herror, -, hres⟩
    · rw [hrefused] at hok
      cases hok
    · rw [hrefused] at herror
      obtain rfl := Except.error.inj herror
      rw [if_pos hdevice]
      exact hres
  rw [if_neg hdevice]
  have hstarted : startRedeem rt actor idempotencyKey dto env.now u =
      .ok (req, u.dropExpired (fun k => k = req.key) env.now) := by
    unfold startRedeem
    rw [bind_of_ok (hreq u), bind_of_ok ((rejectIf_ok (u := ())).2 ⟨hdevice, rfl⟩)]
    rfl
  rcases hstart with ⟨req', t, hok, hlookup⟩ | ⟨e, herror, -⟩
  · rw [hstarted] at hok
    obtain ⟨rfl, -⟩ := Prod.mk.inj (Except.ok.inj hok)
    obtain ⟨env', u', rest', rfl, hfound⟩ := along_transaction_bind.1 hlookup
    have hrecord : u'.idempotency req.key = some r :=
      hmet (env', u') (.tail _ List.mem_cons_self)
    have hlooked : lookUpRedeem req u' =
        (replayTo requestHash response req.requestHash).map fun x => (.replay x, u') := by
      unfold lookUpRedeem
      rw [bind_of_ok (get_ok.2 ⟨rfl, rfl⟩), hrecord]
      exact precheckRecord_answered req.requestHash u' hr
    rw [hlooked] at hfound
    exact along_replayed (fun _ => rfl) hfound
  · rw [hstarted] at herror
    cases herror

/-- What becomes of a reversal under a key whose record has this hash and response. A pair is
looked for in the transaction, which may refuse it. -/
inductive ReversalReplay (rt : Runtime) (req : ReversalRequest) (sel : ReversalsService.Selection)
    (requestHash : Digest) (response : Response) : Except Fault Response → Prop
  | replayed (kept : ¬ ReversalsService.LostPair rt req sel requestHash)
      (asked : requestHash = ReversalsService.requestHashOf rt req sel) :
      ReversalReplay rt req sel requestHash response (.ok response)
  | refused (kept : ¬ ReversalsService.LostPair rt req sel requestHash)
      (asked : requestHash = ReversalsService.requestHashOf rt req sel)
      (paired : sel.pairedReceiptId ≠ none) (e : Fault) :
      ReversalReplay rt req sel requestHash response (.error e)
  | conflict (kept : ¬ ReversalsService.LostPair rt req sel requestHash)
      (asked : requestHash ≠ ReversalsService.requestHashOf rt req sel) :
      ReversalReplay rt req sel requestHash response (.error idempotencyConflict)
  | lostPair (lost : ReversalsService.LostPair rt req sel requestHash) :
      ReversalReplay rt req sel requestHash response (.error ReversalsService.lostPair)

/-- The attempts of a reversal whose record has its answer. -/
lemma ReversalsService.runReverseTransaction_answered {input : ReversalInput} {attempts : Nat}
    {met : List (AdjustmentInput × Database)} (hr : r.Answers requestHash response)
    (hsound : ∀ x ∈ met, x.2.books.Sound)
    (hmet : ∀ x ∈ met, x.2.idempotency input.key = some r)
    (h : (runReverseTransaction rt input attempts).along met = some res) :
    res = .ok response ∨ ∃ e, res = .error e := by
  induction attempts generalizing met with
  | zero => exact .inr ⟨_, (along_fail.1 h).2⟩
  | succ attempts ih =>
      unfold runReverseTransaction at h
      obtain ⟨env, u, rest, rfl, hnext⟩ := along_statement_bind.1 h
      rcases answerTransaction_cases env.commit (fun _ => true)
        (reverseTransaction rt input env.startedAt env.now env.finishedAt u) u with
        ⟨a, t, hok, hanswer⟩ | ⟨e, hanswer⟩
      · rw [hanswer] at hnext
        have hres : res = .ok a := (along_done.1 hnext).2
        cases reverseTransaction_answered (hsound _ List.mem_cons_self) hok with
        | first unused =>
            rw [hmet _ List.mem_cons_self] at unused
            cases unused
        | again found answers same =>
            obtain rfl := Option.some.inj (found.symm.trans (hmet _ List.mem_cons_self))
            obtain rfl := Option.some.inj (answers.responseJson.symm.trans hr.responseJson)
            exact .inl hres
      · rw [hanswer] at hnext
        dsimp only at hnext
        split at hnext
        · exact ih (fun x hx => hsound x (.tail _ hx)) (fun x hx => hmet x (.tail _ hx)) hnext
        · exact .inr ⟨_, (along_fail.1 hnext).2⟩

/-- What a reversal's look-up makes of the record of an answer. -/
lemma ReversalsService.lookUpReverse_answered {req : ReversalRequest} {s : Database}
    (sel : Selection) (hr : r.Answers requestHash response)
    (hrecord : s.idempotency req.key = some r) :
    (LostPair rt req sel requestHash → lookUpReverse rt req sel s = .error lostPair) ∧
    (¬ LostPair rt req sel requestHash → requestHash ≠ requestHashOf rt req sel →
      lookUpReverse rt req sel s = .error idempotencyConflict) ∧
    (¬ LostPair rt req sel requestHash → requestHash = requestHashOf rt req sel →
      (sel.pairedReceiptId = none → lookUpReverse rt req sel s = .ok (.replay response, s)) ∧
      (sel.pairedReceiptId ≠ none → lookUpReverse rt req sel s = .ok (.proceed, s))) := by
  unfold lookUpReverse
  rw [bind_of_ok (get_ok.2 ⟨rfl, rfl⟩), hrecord]
  dsimp only
  rw [hr.requestHash, hr.responseJson]
  refine ⟨fun hlost => bind_of_error (rejectIf_of hlost), fun hkept hasked => ?_,
    fun hkept hasked => ?_⟩
  · rw [bind_of_ok ((rejectIf_ok (u := ())).2 ⟨hkept, rfl⟩)]
    exact bind_of_error (rejectIf_of hasked)
  · rw [bind_of_ok ((rejectIf_ok (u := ())).2 ⟨hkept, rfl⟩),
      bind_of_ok ((rejectIf_ok (u := ())).2 ⟨by simpa using hasked, rfl⟩)]
    constructor
    · intro hnone
      rw [hnone]
      rfl
    · intro hpaired
      obtain ⟨receiptId, hreceipt⟩ := Option.ne_none_iff_exists'.1 hpaired
      rw [hreceipt]
      rfl

/-- A reversal whose look-up finds the record of an answer. -/
lemma ReversalsService.reverse_answered {transactionId : Nat} {reason : String}
    {req : ReversalRequest} {met : List (AdjustmentInput × Database)}
    (hreq : ∀ u, reversalRequest actor transactionId idempotencyKey reason u = .ok (req, u))
    (hr : r.Answers requestHash response) (hsound : ∀ x ∈ met, x.2.books.Sound)
    (hmet : ∀ x ∈ met, x.2.idempotency req.key = some r)
    (h : (reverse rt actor transactionId idempotencyKey reason).along met = some res) :
    ∃ x ∈ met, ReversalReplay rt req (select x.2 actor.tenantId transactionId) requestHash response
      res := by
  unfold reverse at h
  obtain ⟨env, u, rest, rfl, hstart⟩ := along_transaction_bind.1 h
  refine ⟨(env, u), List.mem_cons_self, ?_⟩
  set sel := select u actor.tenantId transactionId with hsel
  have hstarted : startReverse actor transactionId idempotencyKey reason u =
      .ok ((req, sel), u) := by
    unfold startReverse
    rw [bind_of_ok (hreq u)]
    rfl
  rcases hstart with ⟨found, t, hok, hcleanup⟩ | ⟨e, herror, -⟩
  · rw [hstarted] at hok
    obtain ⟨rfl, -⟩ := Prod.mk.inj (Except.ok.inj hok)
    obtain ⟨env₁, u₁, rest₁, rfl, hlookup⟩ := along_transaction_bind.1 hcleanup
    rcases hlookup with ⟨_, t₁, -, hlookup⟩ | ⟨e, herror, -⟩
    · obtain ⟨env₂, u₂, rest₂, rfl, hfound⟩ := along_transaction_bind.1 hlookup
      have hrecord : u₂.idempotency req.key = some r :=
        hmet (env₂, u₂) (.tail _ (.tail _ List.mem_cons_self))
      obtain ⟨hlost, hconflict, hreplay⟩ :=
        lookUpReverse_answered sel hr hrecord
      have hrefused : ∀ {e}, lookUpReverse rt req sel u₂ = .error e → res = .error e := by
        intro e he
        rcases hfound with ⟨b, t, hok, -⟩ | ⟨e', herror, -, hres⟩
        · rw [he] at hok
          cases hok
        · rw [he] at herror
          rw [hres, Except.error.inj herror]
      -- the replay is refused where the other half of the pair is gone
      by_cases hkept : LostPair rt req sel requestHash
      · rw [hrefused (hlost hkept)]
        exact .lostPair hkept
      by_cases hasked : requestHash = requestHashOf rt req sel
      · by_cases hnone : sel.pairedReceiptId = none
        · rw [(hreplay hkept hasked).1 hnone] at hfound
          rcases hfound with ⟨b, t, hok, hdone⟩ | ⟨e, herror, -⟩
          · obtain ⟨rfl, -⟩ := Prod.mk.inj (Except.ok.inj hok)
            rw [(along_done.1 hdone).2]
            exact .replayed hkept hasked
          · cases herror
        · rw [(hreplay hkept hasked).2 hnone] at hfound
          rcases hfound with ⟨b, t, hok, hrun⟩ | ⟨e, herror, -⟩
          · obtain ⟨rfl, -⟩ := Prod.mk.inj (Except.ok.inj hok)
            have hrest : ∀ x ∈ rest₂, x ∈ (env, u) :: (env₁, u₁) :: (env₂, u₂) :: rest₂ :=
              fun x hx => .tail _ (.tail _ (.tail _ hx))
            rcases runReverseTransaction_answered hr (fun x hx => hsound x (hrest x hx))
              (fun x hx => hmet x (hrest x hx)) hrun with rfl | ⟨e, rfl⟩
            · exact .replayed hkept hasked
            · exact .refused hkept hasked hnone e
          · cases herror
      · rw [hrefused (hconflict hkept hasked)]
        exact .conflict hkept hasked
    · cases herror
  · rw [hstarted] at herror
    cases herror

/-- An adjustment request whose look-up finds it. -/
lemma AdjustmentsService.createAdjustment_answered {dto : CreateAdjustmentDto}
    {req : AdjustmentRequest} {met : List (AdjustmentInput × Database)}
    (hreq : ∀ u, adjustmentRequest rt actor idempotencyKey dto u = .ok (req, u))
    (hr : r.Answers requestHash response) (hmet : ∀ x ∈ met, x.2.idempotency req.key = some r)
    (h : (createAdjustment rt actor idempotencyKey dto).along met = some res) :
    res = replayTo requestHash response req.requestHash := by
  unfold createAdjustment at h
  obtain ⟨env, u, rest, rfl, hstart⟩ := along_transaction_bind.1 h
  rcases hstart with ⟨req', t, hok, hlookup⟩ | ⟨e, herror, -⟩
  · unfold startAdjustment at hok
    rw [bind_of_ok (hreq u)] at hok
    obtain ⟨rfl, -⟩ := Prod.mk.inj (Except.ok.inj hok)
    obtain ⟨env', u', rest', rfl, hfound⟩ := along_statement_bind.1 hlookup
    have hrecord : u'.idempotency req.key = some r :=
      hmet (env', u') (.tail _ List.mem_cons_self)
    simp only [hrecord] at hfound
    unfold replayAdjustment at hfound
    by_cases hhash : requestHash = req.requestHash
    · rw [if_neg (by simpa [hr.requestHash] using hhash), hr.responseJson] at hfound
      rw [replayTo, if_pos hhash]
      exact (along_done.1 hfound).2
    · rw [if_pos (by simpa [hr.requestHash] using hhash)] at hfound
      rw [replayTo, if_neg hhash]
      exact (along_fail.1 hfound).2
  · unfold startAdjustment at herror
    rw [bind_of_ok (hreq u)] at herror
    cases herror

end calls

/-- In all these states, whatever comes under the key is answered with the response, where its
payload has the hash, and is refused otherwise. -/
structure AnsweredIn (rt : Runtime) (key : IdempotencyKey) (requestHash : Digest)
    (response : Response) (states : Set System) : Prop where
  transactions : ∀ t ∈ states, ∀ op u asked, Step rt op t u → op.request? = some (key, asked) →
    asked = requestHash ∧ op.returns? rt t.db = some response ∧ u.db = t.db
  earns : ∀ actor idempotencyKey dto req met res,
    (∀ u, LoyaltyService.earnRequest rt actor idempotencyKey dto u = .ok (req, u)) →
    req.key = key → (∀ x ∈ met, ∃ t ∈ states, x.2 = t.db) →
    (LoyaltyService.earn rt actor idempotencyKey dto).along met = some res →
    res = replayTo requestHash response req.requestHash
  redemptions : ∀ actor idempotencyKey dto req transact met res,
    (∀ u, RedemptionsService.redeemRequest rt actor idempotencyKey dto u = .ok (req, u)) →
    req.key = key → (∀ x ∈ met, ∃ t ∈ states, x.2 = t.db) →
    (RedemptionsService.redeem rt actor idempotencyKey dto transact).along met = some res →
    res = if actor.deviceId.isNone then .error RedemptionsService.sessionDeviceRequired
      else replayTo requestHash response req.requestHash
  reversals : ∀ actor transactionId idempotencyKey reason req met res,
    (∀ u, ReversalsService.reversalRequest actor transactionId idempotencyKey reason u =
      .ok (req, u)) →
    req.key = key → (∀ x ∈ met, ∃ t ∈ states, x.2 = t.db) →
    (ReversalsService.reverse rt actor transactionId idempotencyKey reason).along met = some res →
    ∃ t ∈ states, ReversalReplay rt req
      (ReversalsService.select t.db actor.tenantId transactionId) requestHash response res
  adjustments : ∀ actor idempotencyKey dto req met res,
    (∀ u, AdjustmentsService.adjustmentRequest rt actor idempotencyKey dto u = .ok (req, u)) →
    req.key = key → (∀ x ∈ met, ∃ t ∈ states, x.2 = t.db) →
    (AdjustmentsService.createAdjustment rt actor idempotencyKey dto).along met = some res →
    res = replayTo requestHash response req.requestHash

/-- **A financial request is answered once.** After its transaction, and until a clean-up finds
its record expired, every request under its key gets the answer of that transaction, or the
conflict of another payload, whatever else is committed before it and between its statements;
and no transaction under the key changes anything. -/
theorem request_answered_once {rt : Runtime} {op : Op} {s s' : System} {key : IdempotencyKey}
    {requestHash : Digest} {response : Response} (hs : Reachable rt s) (h : Step rt op s s')
    (hreq : op.request? = some (key, requestHash)) (hres : op.returns? rt s.db = some response) :
    ∃ expiresAt, AnsweredIn rt key requestHash response
      { t | StepsUnder rt (fun _ o => ¬ o.Drops key expiresAt) s' t } := by
  obtain ⟨r, hr, hleft⟩ := h.answer_left hs hreq hres
  have hstands : ∀ t, StepsUnder rt (fun _ o => ¬ o.Drops key r.expiresAt) s' t →
      AnswerStands key r t := fun t => hleft.run (Op.request?_endpoint hreq)
  have hmet : ∀ {ι : Type} {met : List (ι × Database)},
      (∀ x ∈ met, ∃ t, StepsUnder rt (fun _ o => ¬ o.Drops key r.expiresAt) s' t ∧ x.2 = t.db) →
      ∀ x ∈ met, x.2.books.Sound ∧ x.2.idempotency key = some r := by
    intro ι met hmet x hx
    obtain ⟨t, ht, hx⟩ := hmet x hx
    rw [hx]
    exact ⟨(hstands t ht).invariants.books.sound, (hstands t ht).record⟩
  refine ⟨r.expiresAt, ?_, ?_, ?_, ?_, ?_⟩
  · intro t ht op' u asked hstep hasked
    have ht := hstands t ht
    obtain ⟨hhash, hreturns, hsame⟩ :=
      hstep.answered_again ht.invariants.books.sound hasked ht.record
    exact ⟨hhash.symm.trans hr.requestHash, hreturns.trans hr.responseJson, hsame⟩
  · rintro actor idempotencyKey dto req met res hread rfl hstates hran
    exact LoyaltyService.earn_answered hread hr (fun x hx => (hmet hstates x hx).2) hran
  · rintro actor idempotencyKey dto req transact met res hread rfl hstates hran
    exact RedemptionsService.redeem_answered hread hr (fun x hx => (hmet hstates x hx).2) hran
  · rintro actor transactionId idempotencyKey reason req met res hread rfl hstates hran
    obtain ⟨x, hx, hreplay⟩ := ReversalsService.reverse_answered hread hr
      (fun x hx => (hmet hstates x hx).1) (fun x hx => (hmet hstates x hx).2) hran
    obtain ⟨t, ht, hsame⟩ := hstates x hx
    exact ⟨t, ht, hsame ▸ hreplay⟩
  · rintro actor idempotencyKey dto req met res hread rfl hstates hran
    exact AdjustmentsService.createAdjustment_answered hread hr (fun x hx => (hmet hstates x hx).2)
      hran

namespace Shop

/-- The statements of the second request, on the database that the first one left. -/
def goodwillAgain (u : System) : List (AdjustmentInput × Database) :=
  [(⟨night, night, night, .accepted⟩, u.db), (⟨night, night, night, .accepted⟩, u.db)]

lemma goodwillAgain_ends {u : System} {r : IdempotencyRecord Response} {response : Response}
    (hr : r.Answers (AdjustmentsService.Shop.goodwillRequest "first").requestHash response)
    (hrecord : u.db.idempotency (AdjustmentsService.Shop.goodwillRequest "first").key = some r) :
    ∃ res, (AdjustmentsService.createAdjustment runtime administrator (some "first")
      AdjustmentsService.Shop.goodwillDto).along (goodwillAgain u) = some res := by
  refine ⟨.ok response, along_transaction_bind.2 ⟨_, _, _, rfl, .inl
    ⟨AdjustmentsService.Shop.goodwillRequest "first", _, rfl, ?_⟩⟩⟩
  refine along_statement_bind.2 ⟨_, _, _, rfl, ?_⟩
  simp only [hrecord, AdjustmentsService.replayAdjustment, hr.requestHash, hr.responseJson,
    ne_eq, not_true_eq_false, if_false]
  rfl

end Shop

/-- A gesture of goodwill is asked for a second time, and answered from the first. -/
theorem request_answered_once_shop : ∃ u response res,
    Step Shop.runtime (.adjust (AdjustmentsService.Shop.goodwillRequest "first") Shop.night
      Shop.night Shop.night) Shop.opened u ∧
    (AdjustmentsService.createAdjustment Shop.runtime Shop.administrator (some "first")
      AdjustmentsService.Shop.goodwillDto).along (Shop.goodwillAgain u) = some res ∧
    res = .ok response := by
  obtain ⟨u, hstep⟩ := AdjustmentsService.Shop.goodwill_step
  have hopened : Reachable Shop.runtime Shop.opened := ⟨Shop.registry, .refl _⟩
  obtain ⟨response, hres, -⟩ := hstep.answered hopened.invariants.books.sound rfl
  obtain ⟨r, hr, hleft⟩ := hstep.answer_left hopened rfl hres
  obtain ⟨res, hran⟩ := Shop.goodwillAgain_ends hr hleft.record
  obtain ⟨expiresAt, hanswered⟩ := request_answered_once hopened hstep rfl hres
  refine ⟨u, response, res, hstep, hran, ?_⟩
  have hreplay := hanswered.adjustments _ _ _ _ _ _ AdjustmentsService.Shop.goodwill_reads rfl
    (fun x hx => ⟨u, .refl u, ?_⟩) hran
  · rw [hreplay, replayTo, if_pos rfl]
  · simp only [Shop.goodwillAgain, List.mem_cons, List.not_mem_nil, or_false, or_self] at hx
    rw [hx]

end ShopcityLoyalty
