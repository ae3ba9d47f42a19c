import ShopcityLoyalty.BooksBalance
import ShopcityLoyalty.DeskMoves
import ShopcityLoyalty.Lib.Runs

/-!
The system: the database, and the decisions that are committed but whose records are not
completed yet.

A step is one committed transaction; a transaction that fails changes nothing, and a run is
any order of committed ones. Requests, clock readings and the lots and approvals that
another transaction has locked are arbitrary.
-/

namespace ShopcityLoyalty

open Txn Database

structure System where
  db : Database
  /-- Committed decisions whose process has not written its response to the record. -/
  completing : List (IdempotencyKey × ApprovalDecisionResponse)

inductive Op
  | earn (req : EarnRequest) (adm : LoyaltyService.EarnAdmission) (now : Int)
  | redeem (req : RedeemRequest) (adm : RedemptionsService.RedeemAdmission) (now : Int)
  | decide (req : DecisionRequest) (startedAt now : Int)
  | completeDecision (key : IdempotencyKey) (response : ApprovalDecisionResponse)
  | reverse (input : ReversalInput) (startedAt now finishedAt : Int)
  | adjust (req : AdjustmentRequest) (startedAt now finishedAt : Int)
  | expireCredit (systemActor : String → String) (now : Int) (batchSize : Nat) (skipped : List Nat)
  | expireApprovals (now : Int) (batchSize : Nat) (skipped : List Nat)
  | cleanup (key : IdempotencyKey) (now : Int)
  | cleanupAnyEndpoint (key : IdempotencyKey) (now : Int)
  | recordDuplicate (attempt : DuplicateReceiptAttempt)
  /-- Staff, branches, devices, cards, customers and policies change. -/
  | administer (registry : Registry)

namespace System

/-- The transaction alone: the response is returned to the caller. -/
def commit {α : Type} (s : System) (body : Tx α) : Except Fault System :=
  (body s.db).map fun r => { s with db := r.2 }

/-- A decision's process goes on to complete its record, unless the approval had expired. -/
def commitDecision (s : System) (req : DecisionRequest) (body : Tx DecisionResult) :
    Except Fault System :=
  (body s.db).map fun r =>
    { db := r.2
      completing := match r.1 with
        | .decided response => (req.key, response) :: s.completing
        | .expired => s.completing }

def run (rt : Runtime) (s : System) : Op → Except Fault System
  | .earn req adm now => s.commit (LoyaltyService.earnTransaction rt req adm now)
  | .redeem req adm now => s.commit (RedemptionsService.redeemTransaction rt req adm now)
  | .decide req startedAt now =>
      s.commitDecision req (LoyaltyService.decideTransaction rt req startedAt now)
  | .completeDecision key response =>
      if (key, response) ∈ s.completing then
        (s.commit (LoyaltyService.completeDecision key response)).map fun t =>
          { t with completing := t.completing.erase (key, response) }
      else .error .missing
  | .reverse input startedAt now finishedAt =>
      s.commit (ReversalsService.reverseTransaction rt input startedAt now finishedAt)
  | .adjust req startedAt now finishedAt =>
      s.commit (AdjustmentsService.adjustmentTransaction rt req startedAt now finishedAt)
  | .expireCredit systemActor now batchSize skipped =>
      s.commit (CreditExpiryService.expireDueCredit rt systemActor now batchSize skipped)
  | .expireApprovals now batchSize skipped =>
      s.commit (expireOverdueApprovals rt now batchSize skipped)
  | .cleanup key now => s.commit (cleanupExpiredIdempotencyRecords key now)
  | .cleanupAnyEndpoint key now => s.commit (cleanupExpiredRecordsOfAnyEndpoint key now)
  | .recordDuplicate attempt => s.commit (recordDuplicateReceiptAttempt rt attempt)
  | .administer registry => s.commit (update fun db => { db with registry })

end System

/-- Customers stay, in their tenant and branch. -/
def Registry.Keeps (r r' : Registry) : Prop :=
  ∀ id c, r.customers id = some c →
    ∃ c', r'.customers id = some c' ∧ c'.tenantId = c.tenantId ∧ c'.branchId = c.branchId

/-- What an operation may do to the registry. -/
def Op.Admissible (s : System) : Op → Prop
  | .administer registry => s.db.registry.Keeps registry
  | _ => True

structure Step (rt : Runtime) (op : Op) (s t : System) : Prop where
  runs : s.run rt op = .ok t
  admissible : op.Admissible s

/-- Any number of steps under a condition. -/
abbrev StepsUnder (rt : Runtime) (P : System → Op → Prop) : System → System → Prop :=
  Runs (Step rt) P

/-- Any number of steps. -/
abbrev Steps (rt : Runtime) : System → System → Prop := StepsUnder rt fun _ _ => True

def System.initial (registry : Registry) : System := ⟨.initial registry, []⟩

def Reachable (rt : Runtime) (s : System) : Prop :=
  ∃ registry, Steps rt (System.initial registry) s

variable {rt : Runtime} {op : Op} {s t : System}

lemma Reachable.steps {P : System → Op → Prop} (h : Reachable rt s) (hs : StepsUnder rt P s t) :
    Reachable rt t := by
  obtain ⟨registry, h⟩ := h
  exact ⟨registry, h.trans (hs.mono fun _ _ _ => trivial)⟩

lemma Reachable.step (h : Reachable rt s) (hs : Step rt op s t) : Reachable rt t :=
  h.steps (P := fun _ _ => True) (.single trivial hs)

/-- Operations one after another. -/
def System.runAll (rt : Runtime) (s : System) (ops : List Op) : Except Fault System :=
  ops.foldlM (System.run rt) s

lemma StepsUnder.of_runAll {P : System → Op → Prop} {ops : List Op}
    (hrun : s.runAll rt ops = .ok t) (hadm : ∀ op ∈ ops, ∀ u, op.Admissible u)
    (hp : ∀ op ∈ ops, ∀ u, P u op) : StepsUnder rt P s t := by
  induction ops generalizing s with
  | nil =>
      obtain rfl : s = t := Except.ok.inj hrun
      exact .refl s
  | cons op ops ih =>
      have hrun' : (s.run rt op).bind (fun u => u.runAll rt ops) = .ok t := hrun
      cases hop : s.run rt op with
      | error e => rw [hop] at hrun'; cases hrun'
      | ok u =>
          rw [hop] at hrun'
          have hrest := ih hrun' (fun o ho => hadm o (.tail _ ho)) fun o ho => hp o (.tail _ ho)
          exact .trans (.single (hp op List.mem_cons_self s) ⟨hop, hadm op List.mem_cons_self s⟩)
            hrest

lemma Steps.of_runAll {ops : List Op} (hrun : s.runAll rt ops = .ok t)
    (hadm : ∀ op ∈ ops, ∀ u, op.Admissible u) : Steps rt s t :=
  StepsUnder.of_runAll hrun hadm fun _ _ _ => trivial

lemma System.runAll_snoc {ops : List Op} (hrun : s.runAll rt (ops ++ [op]) = .ok t) :
    ∃ u, s.runAll rt ops = .ok u ∧ u.run rt op = .ok t := by
  unfold System.runAll at hrun ⊢
  rw [List.foldlM_append] at hrun
  cases hops : ops.foldlM (System.run rt) s with
  | error e => rw [hops] at hrun; cases hrun
  | ok u =>
      rw [hops] at hrun
      refine ⟨u, rfl, ?_⟩
      cases hop : u.run rt op with
      | error e =>
          have hbad : (u.run rt op >>= fun v => pure v) = .ok t := hrun
          rw [hop] at hbad
          cases hbad
      | ok v =>
          have hgood : (u.run rt op >>= fun v => pure v) = .ok t := hrun
          rw [hop] at hgood
          exact hgood

lemma System.of_runAll_map {α : Type} {ops : List Op} {f : System → α} {a : α}
    (hrun : s.runAll rt ops = .ok t) (hmap : (s.runAll rt ops).map f = .ok a) : f t = a := by
  rw [hrun] at hmap
  exact Except.ok.inj hmap

lemma Reachable.of_runAll (rt : Runtime) (registry : Registry) (ops : List Op)
    (hok : ((System.initial registry).runAll rt ops).isOk = true)
    (hadm : ∀ op ∈ ops, ∀ u, op.Admissible u) :
    ∃ t, (System.initial registry).runAll rt ops = .ok t ∧ Reachable rt t := by
  cases hrun : (System.initial registry).runAll rt ops with
  | error e => rw [hrun] at hok; cases hok
  | ok t => exact ⟨t, rfl, registry, .of_runAll hrun hadm⟩

/-- A run that ends with a value of `f` ends in a reachable state that has it. -/
lemma Reachable.of_runAll_map {α : Type} (rt : Runtime) (registry : Registry) (ops : List Op)
    {f : System → α} {a : α} (hmap : ((System.initial registry).runAll rt ops).map f = .ok a)
    (hadm : ∀ op ∈ ops, ∀ u, op.Admissible u) :
    ∃ t, (System.initial registry).runAll rt ops = .ok t ∧ Reachable rt t ∧ f t = a := by
  have hok : ((System.initial registry).runAll rt ops).isOk = true := by
    cases hrun : (System.initial registry).runAll rt ops with
    | error e => rw [hrun] at hmap; cases hmap
    | ok t => rfl
  obtain ⟨t, hrun, ht⟩ := Reachable.of_runAll rt registry ops hok hadm
  exact ⟨t, hrun, ht, System.of_runAll_map hrun hmap⟩

/-! ### What a step commits -/

@[simp] lemma System.commit_ok {α : Type} {body : Tx α} :
    s.commit body = .ok t ↔ ∃ a db, body s.db = .ok (a, db) ∧ t = { s with db } := by
  unfold System.commit
  cases body s.db with
  | error e => simp [Except.map]
  | ok r =>
      obtain ⟨a, db⟩ := r
      simp [Except.map, eq_comm]

lemma System.commitDecision_ok {req : DecisionRequest} {body : Tx DecisionResult} :
    s.commitDecision req body = .ok t ↔ ∃ a, body s.db = .ok (a, t.db) ∧
      t.completing = match a with
        | .decided response => (req.key, response) :: s.completing
        | .expired => s.completing := by
  unfold System.commitDecision
  cases body s.db with
  | error e => simp [Except.map]
  | ok r =>
      obtain ⟨a, db⟩ := r
      obtain ⟨db', c⟩ := t
      simp only [Except.map, Except.ok.injEq, System.mk.injEq, Prod.mk.injEq]
      constructor
      · rintro ⟨rfl, rfl⟩; exact ⟨a, ⟨rfl, rfl⟩, rfl⟩
      · rintro ⟨_, ⟨rfl, rfl⟩, rfl⟩; exact ⟨rfl, rfl⟩

/-- Records, outbox, audit log and registry apart, nothing changes. -/
structure RecordsOnly (s t : Database) : Prop where
  frame : t = { s with
    registry := t.registry, idempotency := t.idempotency, outbox := t.outbox
    auditLog := t.auditLog }

/-- What each operation does, as the modules of the operations say it. -/
inductive Outcome (rt : Runtime) (s t : Database) : Op → Prop
  | earn {req adm now ctx amount res}
      (started : LoyaltyService.EarnStarted rt req adm ctx amount now s)
      (h : LoyaltyService.EarnCommitted rt req adm ctx amount now res s t) :
      Outcome rt s t (.earn req adm now)
  | redeem {req adm now ctx a res}
      (started : RedemptionsService.RedeemStarted rt req adm ctx a now s)
      (h : RedemptionsService.RedeemCommitted rt req adm ctx a now res s t) :
      Outcome rt s t (.redeem req adm now)
  | decide {req startedAt now res a v} (key : s.idempotency req.key = none)
      (recorded : v = { s with
        idempotency := Function.update s.idempotency req.key
          (some (LoyaltyService.pendingDecisionRecord req startedAt)) })
      (decidable : LoyaltyService.Decidable req a v)
      (h : LoyaltyService.TargetDecided rt req a now v t res) :
      Outcome rt s t (.decide req startedAt now)
  | completeDecision {key response} (h : RecordsOnly s t) (kept : t.registry = s.registry) :
      Outcome rt s t (.completeDecision key response)
  | reverse {input startedAt now finishedAt existing v o res}
      (opened : ReversalsService.Opened input startedAt s existing v)
      (selected : ReversalsService.Selected input o v)
      (h : ReversalsService.ReverseCommitted input o now finishedAt existing v t res) :
      Outcome rt s t (.reverse input startedAt now finishedAt)
  | adjust {req startedAt now finishedAt res}
      (started : AdjustmentsService.AdjustmentStarted req s)
      (h : AdjustmentsService.AdjustmentCommitted req finishedAt res s t) :
      Outcome rt s t (.adjust req startedAt now finishedAt)
  | expireCredit {systemActor now batchSize skipped} (h : CreditExpiryService.Expired s t) :
      Outcome rt s t (.expireCredit systemActor now batchSize skipped)
  | expireApprovals {now batchSize skipped}
      (h : Relation.ReflTransGen (Lapsed now) s t) :
      Outcome rt s t (.expireApprovals now batchSize skipped)
  | cleanup {key now} (h : RecordsOnly s t) (kept : t.registry = s.registry) :
      Outcome rt s t (.cleanup key now)
  | cleanupAnyEndpoint {key now} (h : RecordsOnly s t) (kept : t.registry = s.registry) :
      Outcome rt s t (.cleanupAnyEndpoint key now)
  | recordDuplicate {attempt} (h : RecordsOnly s t) (kept : t.registry = s.registry) :
      Outcome rt s t (.recordDuplicate attempt)
  | administer {registry} (h : RecordsOnly s t) (kept : s.registry.Keeps t.registry) :
      Outcome rt s t (.administer registry)

/-- **What a step does.** -/
theorem Step.outcome (hs : s.db.books.Sound) (h : Step rt op s t) :
    Outcome rt s.db t.db op := by
  have hrun := h.runs
  cases op with
  | earn req adm now =>
      obtain ⟨res, db, hok, rfl⟩ := System.commit_ok.1 hrun
      obtain ⟨ctx, amount, hstart, hout⟩ := LoyaltyService.earnTransaction_ok hok
      exact .earn hstart hout
  | redeem req adm now =>
      obtain ⟨res, db, hok, rfl⟩ := System.commit_ok.1 hrun
      obtain ⟨ctx, a, hstart, hout⟩ := RedemptionsService.redeemTransaction_ok hok
      exact .redeem hstart hout
  | decide req startedAt now =>
      obtain ⟨res, hok, -⟩ := System.commitDecision_ok.1 hrun
      obtain ⟨hkey, a, v, hv, hdec, hout⟩ := LoyaltyService.decideTransaction_ok hok
      exact .decide hkey hv hdec hout
  | completeDecision key response =>
      simp only [System.run] at hrun
      -- besides the record, the completion is struck from those in progress
      split at hrun
      · obtain ⟨u, hu, rfl⟩ : ∃ u, s.commit (LoyaltyService.completeDecision key response) = .ok u ∧
            { u with completing := u.completing.erase (key, response) } = t := by
          cases hc : s.commit (LoyaltyService.completeDecision key response) with
          | error e => rw [hc] at hrun; cases hrun
          | ok u => rw [hc] at hrun; exact ⟨u, rfl, Except.ok.inj hrun⟩
        obtain ⟨res, db, hok, rfl⟩ := System.commit_ok.1 hu
        simp only [LoyaltyService.completeDecision, bind_ok, get_ok, orFault_ok,
          updateIdempotencyRecord_ok] at hok
        obtain ⟨_, _, ⟨rfl, rfl⟩, r, _, ⟨-, rfl⟩, -, rfl⟩ := hok
        exact .completeDecision ⟨rfl⟩ rfl
      · cases hrun
  | reverse input startedAt now finishedAt =>
      obtain ⟨res, db, hok, rfl⟩ := System.commit_ok.1 hrun
      obtain ⟨existing, v, o, hopen, hsel, hout⟩ := ReversalsService.reverseTransaction_ok hs hok
      exact .reverse hopen hsel hout
  | adjust req startedAt now finishedAt =>
      obtain ⟨res, db, hok, rfl⟩ := System.commit_ok.1 hrun
      obtain ⟨hstart, hout⟩ := AdjustmentsService.adjustmentTransaction_ok hok
      exact .adjust hstart hout
  | expireCredit systemActor now batchSize skipped =>
      obtain ⟨res, db, hok, rfl⟩ := System.commit_ok.1 hrun
      exact .expireCredit (CreditExpiryService.expireDueCredit_ok hok)
  | expireApprovals now batchSize skipped =>
      obtain ⟨res, db, hok, rfl⟩ := System.commit_ok.1 hrun
      exact .expireApprovals (expireOverdueApprovals_ok hok)
  | cleanup key now =>
      obtain ⟨res, db, hok, rfl⟩ := System.commit_ok.1 hrun
      obtain rfl := update_ok.1 hok
      exact .cleanup ⟨rfl⟩ rfl
  | cleanupAnyEndpoint key now =>
      obtain ⟨res, db, hok, rfl⟩ := System.commit_ok.1 hrun
      obtain rfl := update_ok.1 hok
      exact .cleanupAnyEndpoint ⟨rfl⟩ rfl
  | recordDuplicate attempt =>
      obtain ⟨res, db, hok, rfl⟩ := System.commit_ok.1 hrun
      simp only [recordDuplicateReceiptAttempt, bind_ok, recordAudit_ok,
        insertOutboxEvent_ok] at hok
      obtain ⟨_, _, rfl, rfl⟩ := hok
      exact .recordDuplicate ⟨rfl⟩ rfl
  | administer registry =>
      obtain ⟨res, db, hok, rfl⟩ := System.commit_ok.1 hrun
      obtain rfl := update_ok.1 hok
      exact .administer ⟨rfl⟩ h.admissible

/-! ### Postings and moves -/

section postings

variable {s t : Database} {now finishedAt : Int}

lemma RecordsOnly.books (h : RecordsOnly s t) : t.books = s.books := by
  rw [h.frame]; rfl

lemma RecordsOnly.move (h : RecordsOnly s t) : Move s t :=
  .same (by rw [h.frame]) (by rw [h.frame]) (by rw [h.frame]) (by rw [h.frame])

lemma Earned.plain {input : RedemptionSettlementInput} {k : Int} {i : Option Nat}
    (h : Earned input k s t i) : Relation.ReflTransGen PlainPosted s.books t.books := by
  cases h with
  | nothing _ hf => rw [hf]
  | credit _ hp _ => exact .single (.credit (fun i h => (by cases h)) hp)

lemma Settled.plain {input : RedemptionSettlementInput} {k : PositiveKobo} {r : Redemption}
    {rows : List RedemptionAllocation} {m u : Database} {res : RedemptionSettlementResult}
    (h : Settled input k r rows m u res s t) (name : ∀ i, input.correlationId ≠ .creditExpiry i) :
    Relation.ReflTransGen PlainPosted s.books t.books := by
  have hu : t.books = u.books := by rw [h.frame]; rfl
  rw [hu]
  have hname : ∀ i, ¬ (input.redeemEntry k).isExpiryOf i := fun i hi => name i hi
  exact .head (.debit hname rfl h.debit) h.earned.plain

lemma LoyaltyService.EarnCommitted.plain {req : EarnRequest} {adm : EarnAdmission}
    {ctx : EarnContext} {amount : PositiveKobo} {res : EarnTransactionResponse}
    (h : EarnCommitted rt req adm ctx amount now res s t) :
    Relation.ReflTransGen PlainPosted s.books t.books := by
  cases h with
  | pending h => rw [h.frame]; exact .refl
  | credited h => exact .single (.credit (fun i h => (by cases h)) h.posting)

lemma RedemptionsService.RedeemCommitted.plain {req : RedeemRequest} {adm : RedeemAdmission}
    {ctx : RedeemContext} {a : RedeemAssessment} {res : RedeemTransactionResponse}
    (h : RedeemCommitted rt req adm ctx a now res s t) :
    Relation.ReflTransGen PlainPosted s.books t.books := by
  cases h with
  | pending h => rw [h.frame]; exact .refl
  | @settled k r rows x v m u w h =>
      have hv : v.books = s.books := by rw [h.captured]; rfl
      have ht : t.books = w.books := by rw [h.frame]; rfl
      rw [ht, ← hv]
      exact h.settlement.plain fun i hi => (by cases hi)

lemma TargetExpired.books {tenantId : String} {actor : Option StaffRef} {target : ApprovalTarget}
    {receiptId : Option Nat}
    (h : TargetExpired tenantId now actor s target receiptId t) : t.books = s.books := by
  cases h <;> rfl

lemma Lapsed.books (h : Relation.ReflTransGen (Lapsed now) s t) : t.books = s.books := by
  induction h with
  | refl => rfl
  | @tail v u _ hlast ih =>
      obtain ⟨i, a, m, hx⟩ := hlast
      have hm : m.books = v.books := hx.target.books
      rw [← ih, ← hm, hx.frame]
      rfl

lemma LoyaltyService.FoundExpired.books {req : DecisionRequest} {a : Approval}
    {receiptId : Option Nat} (h : FoundExpired req a receiptId now s t) : t.books = s.books := by
  obtain ⟨m, hx⟩ := h.expired
  have hm : m.books = s.books := hx.target.books
  rw [← hm, hx.frame]
  rfl

lemma LoyaltyService.TargetDecided.plain {req : DecisionRequest} {a : Approval}
    {res : DecisionResult} (h : TargetDecided rt req a now s t res) :
    Relation.ReflTransGen PlainPosted s.books t.books := by
  cases h with
  | earn _ h =>
      cases h with
      | expired h => rw [h.books]
      | rejected h => rw [h.frame]; exact .refl
      | executed h => exact .single (.credit (fun i h => (by cases h)) h.posting)
  | redeem _ _ _ h =>
      cases h with
      | expired h => rw [h.books]
      | rejected h => rw [h.frame]; exact .refl
      | @executed r k rows x v m u w h =>
          have hv : v.books = s.books := by rw [h.approved]; rfl
          have ht : t.books = w.books := by rw [h.frame]; rfl
          rw [ht, ← hv]
          exact h.settlement.plain fun i hi => (by cases hi)

lemma ReversalsService.Compensated.live {input : ReversalInput} {customerId : String}
    {creditEntryId lotId : Nat} {k : PositiveKobo} {c : CorrelationId} {l : CreditLot}
    {row : RedemptionAllocation}
    (h : Compensated input customerId creditEntryId lotId k c now l row s t)
    (name : ∀ i, c ≠ .creditExpiry i) : LivePosted now s.books t.books := by
  have hname : ∀ i, ¬ (compensatingEntry input customerId creditEntryId k c now).isExpiryOf i :=
    fun i hi => name i hi
  exact .debit hname h.posting

lemma ReversalsService.Restored.live {input : ReversalInput} {customerId : String}
    {debitEntryId : Nat} {k : PositiveKobo} {c : CorrelationId}
    {planned : List PlannedRestoration} {rows : List AllocationRestoration}
    (h : Restored input customerId debitEntryId k c now planned rows s t)
    (name : ∀ i, c ≠ .creditExpiry i) : LivePosted now s.books t.books := by
  have hname : ∀ i, ¬ (restoringEntry input customerId debitEntryId k c now).isExpiryOf i :=
    fun i hi => name i hi
  refine .restore hname h.posting fun r hr i hi => ?_
  obtain ⟨p, hp, hrow⟩ := h.written.exists_left_of_mem hr
  obtain ⟨-, a, ha, -, -, hplan⟩ := h.plan.sound p hp
  obtain ⟨l, hl, hexp, -⟩ := hplan.lot
  obtain ⟨a', ha', hlot⟩ := hi
  have hrow' : s.allocations[r.allocationId]? = some a' := ha'
  rw [hrow.allocationId, ha] at hrow'
  obtain rfl := Option.some.inj hrow'
  exact ⟨l, hlot ▸ hl, hexp⟩

open ReversalsService in
lemma ReversalsService.ReverseCommitted.live {input : ReversalInput} {o : LoyaltyLedgerEntry}
    {existing : Option Response} {res : Response}
    (h : ReverseCommitted input o now finishedAt existing s t res) :
    Relation.ReflTransGen (LivePosted now) s.books t.books := by
  cases h with
  | @credit lotId k l row res m _ _ _ h =>
      have ht : t.books = m.books := by rw [h.completed]; rfl
      rw [ht]
      exact .single (h.compensated.live fun i hi => (by cases hi))
  | @debit k planned rows res m w _ _ _ h =>
      have ht : t.books = w.books := by rw [h.completed]; rfl
      have hw : w.books = m.books := by rw [h.marked.frame]; rfl
      rw [ht, hw]
      exact .single (h.restored.live fun i hi => (by cases hi))
  | pair _ _ _ h =>
      cases h with
      | @reversed lotId l row planned rows m u w _ h =>
          have ht : t.books = w.books := by rw [h.completed]; rfl
          have hw : w.books = u.books := by rw [h.marked.frame]; rfl
          rw [ht, hw]
          exact .tail (.single (h.compensated.live fun i hi => (by cases hi)))
            (h.restored.live fun i hi => (by cases hi))
      | replayed hs _ _ => rw [hs]
  | replayed _ _ hs => rw [hs]

lemma AdjustmentsService.AdjustmentCommitted.plain {req : AdjustmentRequest}
    {res : AdjustmentResponse} (h : AdjustmentCommitted req finishedAt res s t) :
    Relation.ReflTransGen PlainPosted s.books t.books := by
  cases h with
  | credit h => exact .single (.credit (fun i h => (by cases h)) h.posting)
  | debit h => exact .single (.debit (fun i h => (by cases h)) rfl h.posting)

lemma CreditExpiryService.Expired.posted (h : CreditExpiryService.Expired s t) :
    Postings s.books t.books :=
  Relation.ReflTransGen.mono (fun _ _ ⟨_, _, hp⟩ => .expiry hp) _ _ h.postings

/-- What an operation did to the books: plain postings, a reversal at its time, or expiries. -/
inductive BooksChanged (s t : Database) : Op → Prop
  | plain {any} (h : Relation.ReflTransGen PlainPosted s.books t.books) : BooksChanged s t any
  | reversal {input startedAt now finishedAt}
      (h : Relation.ReflTransGen (LivePosted now) s.books t.books) :
      BooksChanged s t (.reverse input startedAt now finishedAt)
  | sweep {systemActor now batchSize skipped} (h : CreditExpiryService.Expired s t) :
      BooksChanged s t (.expireCredit systemActor now batchSize skipped)

theorem Outcome.booksChanged (h : Outcome rt s t op) : BooksChanged s t op := by
  cases h with
  | earn _ h => exact .plain h.plain
  | redeem _ h => exact .plain h.plain
  | @decide _ _ _ _ _ v _ hv _ h =>
      have hb : v.books = s.books := by rw [hv]; rfl
      exact .plain (hb ▸ h.plain)
  | @reverse _ _ _ _ _ v _ _ hopen _ h =>
      have hb : v.books = s.books := by cases hopen <;> rfl
      exact .reversal (hb ▸ h.live)
  | adjust _ h => exact .plain h.plain
  | expireCredit h => exact .sweep h
  | expireApprovals h => exact .plain (by rw [Lapsed.books h])
  | completeDecision h | cleanup h | cleanupAnyEndpoint h | recordDuplicate h | administer h =>
      exact .plain (by rw [h.books])

/-- **Every operation** is a sequence of postings. -/
theorem Outcome.postings (h : Outcome rt s t op) : Postings s.books t.books := by
  cases h.booksChanged with
  | plain hp => exact postings_of_plain hp
  | reversal hp => exact postings_of_live hp
  | sweep hp => exact hp.posted

/-- **Every operation** is a sequence of moves at the desk. -/
theorem Outcome.moves (hd : Desk s) (h : Outcome rt s t op) :
    Relation.ReflTransGen Move s t := by
  cases h with
  | earn _ h => exact .single h.move
  | redeem _ h => exact .single h.move
  | @decide req startedAt _ _ _ v _ hv hdec h =>
      have hmove : Move s v :=
        .same (by rw [hv]) (by rw [hv]) (by rw [hv]) (by rw [hv])
      exact .tail (.single hmove) (h.move (hd.move hmove) hdec)
  | @reverse _ _ _ _ _ v _ _ hopen hsel h =>
      have hmove : Move s v := by
        cases hopen <;> exact .same rfl rfl rfl rfl
      exact .tail (.single hmove) (h.move hsel.original)
  | adjust _ h => exact .single h.move
  | expireCredit h => exact .single h.move
  | expireApprovals h => exact Lapsed.moves h
  | completeDecision h | cleanup h | cleanupAnyEndpoint h | recordDuplicate h | administer h =>
      exact .single h.move

end postings

/-! ### A shop -/

namespace Shop

/-- One branch with one till, one customer with one card, no policy of its own. -/
def registry : Registry where
  branches b := if b = "branch" then some ⟨"tenant", "UTC", 1, .ACTIVE⟩ else none
  devices d := if d = "till" then some ⟨"tenant", "branch", .ACTIVE⟩ else none
  cards := [⟨"card", "tenant", "customer", "CARD", .ACTIVE⟩]
  customers c :=
    if c = "customer" then some ⟨"tenant", "branch", "+2340000000000", false, .ACTIVE⟩ else none
  policies _ _ := none

def opened : System := .initial registry

def cashier : AuthContext := ⟨"cashier", "tenant", some "branch", .CASHIER, some "till"⟩

def supervisor : AuthContext := ⟨"supervisor", "tenant", some "branch", .SUPERVISOR, none⟩

/-- 14 November 2023, 22:13:20. -/
def night : Int := 1700000000000

def purchase (key : String) (amountKobo : Int) : EarnRequest where
  actor := cashier
  idempotencyKey := key
  cardSerialNumber := "CARD"
  posReceiptNumber := key
  normalizedPosReceiptNumber := key
  purchaseAmountKobo := amountKobo
  occurredAt := night
  overrideReason := none
  requestHash := sha256 key

def earn (key : String) (amountKobo : Int) : Op :=
  .earn (purchase key amountKobo) ⟨"till", none, false, false⟩ night

def redemption (key : String) (basketAmountKobo requestedKobo : Int) : RedeemRequest where
  actor := cashier
  idempotencyKey := key
  cardSerialNumber := "CARD"
  posReceiptNumber := key
  normalizedPosReceiptNumber := key
  basketAmountKobo := basketAmountKobo
  requestedRedemptionKobo := requestedKobo
  occurredAt := night
  requestHash := sha256 key

def redeem (key : String) (basketAmountKobo requestedKobo : PositiveKobo) : Op :=
  .redeem (redemption key basketAmountKobo requestedKobo) ⟨"till", requestedKobo, basketAmountKobo⟩
    night

def reverse (key : String) (transactionId : Nat) : Op :=
  .reverse ⟨⟨supervisor, key, transactionId, "wrong basket"⟩, sha256 key⟩ night night night

end Shop

end ShopcityLoyalty
