import ShopcityLoyalty.AdjustmentRequests
import ShopcityLoyalty.FefoAllocation
import ShopcityLoyalty.Invariants
import ShopcityLoyalty.Lib.Histories
import ShopcityLoyalty.LotLifecycle

/-!
What an adjustment ends in where its attempts meet conflicts.

After a conflict it waits for a replay, and the wait takes a missing record for one of another
payload: there is no second attempt. The digest of the payload is also the unique correlation
id of the ledger entry, so that a payload is adjusted once, whatever its keys.
-/

namespace ShopcityLoyalty

open Process Txn Database

namespace AdjustmentsService

variable {rt : Runtime} {req : AdjustmentRequest} {s : Database}

/-! ### When the transaction runs to its end -/

/-- What the transaction asks of the state beside its unique keys: an active customer, an
expiry the lots have, and for a debit enough balance. -/
structure AdjustmentAdmitted (rt : Runtime) (req : AdjustmentRequest) (now : Int) (s : Database) :
    Prop where
  customer : ∃ c, s.registry.customers req.customerId = some c ∧ c.tenantId = req.actor.tenantId ∧
    c.status = .ACTIVE ∧ c.isStaff = false
  credit : req.kind = .CREDIT →
    adjustmentExpiryDerived rt.ADJUSTMENT_CREDIT_EXPIRY_MONTHS req.effectiveAt
  debit : req.kind = .DEBIT → (req.amountKobo : Int) ≤
    ActiveBalanceService.getActiveBalanceKobo s req.actor.tenantId req.customerId now

/-- The payload of a request has an entry in the ledger. -/
def Adjusted (req : AdjustmentRequest) (s : Database) : Prop :=
  ∃ e ∈ s.ledger, e.correlationId = .request req.requestHash

/-- The state after the first two rows of an adjustment. -/
def opened (req : AdjustmentRequest) (s : Database) : Database :=
  { s with ledger := s.ledger ++ [adjustmentEntry req]
           adjustments := s.adjustments ++ [adjustmentRow req s.ledger.length] }

lemma entry_run (hfresh : ¬ Adjusted req s) :
    insertLedgerEntry (adjustmentEntry req) s =
      .ok (s.ledger.length, { s with ledger := s.ledger ++ [adjustmentEntry req] }) := by
  refine insertLedgerEntry_ok.2 ⟨⟨?_, fun h => absurd rfl h, ?_⟩, rfl, rfl⟩
  · intro x hx hcorrelation
    exact hfresh ⟨x, hx, hcorrelation⟩
  · rintro x - ⟨hreceipt, -⟩
    exact hreceipt rfl

lemma row_run (hs : s.books.Sound) (hreason : ∃ c ∈ req.reason.toList, c ≠ ' ') :
    insertAdjustment (adjustmentRow req s.ledger.length)
      { s with ledger := s.ledger ++ [adjustmentEntry req] } =
        .ok (s.adjustments.length, opened req s) := by
  refine insertAdjustment_ok.2 ⟨hreason, ?_, ?_, rfl, rfl⟩
  · refine ⟨adjustmentEntry req, ?_, rfl, rfl, rfl, rfl, rfl, rfl⟩
    simp [adjustmentRow]
  · intro x hx hid
    obtain ⟨i, hi⟩ := List.getElem?_of_mem hx
    have hrow : s.books.adjustments[i]? = some x := hi
    obtain ⟨e, hsourced⟩ := hs.adjustment hrow
    have hlt := Table.lt_of_getElem? hsourced.entry
    have hlen : s.books.ledger.length = s.ledger.length := rfl
    have hnew : x.ledgerEntryId = s.ledger.length := hid
    omega

lemma lot_run (hs : s.books.Sound) (hkind : req.kind = .CREDIT)
    (hexpiry : adjustmentExpiryDerived rt.ADJUSTMENT_CREDIT_EXPIRY_MONTHS req.effectiveAt) :
    ∃ l, insertCreditLot req.actor.tenantId req.customerId s.ledger.length req.amountKobo
      req.effectiveAt (addMonths req.effectiveAt rt.ADJUSTMENT_CREDIT_EXPIRY_MONTHS)
        (opened req s) =
      .ok (s.lots.length, { opened req s with lots := s.lots ++ [l] }) := by
  have hderived :=
    (derive_eq_addMonths req.effectiveAt rt.ADJUSTMENT_CREDIT_EXPIRY_MONTHS).2 hexpiry
  obtain ⟨l, hl⟩ : ∃ l, wholeLot? req.actor.tenantId req.customerId s.ledger.length req.amountKobo
      req.effectiveAt (addMonths req.effectiveAt rt.ADJUSTMENT_CREDIT_EXPIRY_MONTHS) = some l := by
    unfold wholeLot?
    rw [dif_pos hderived]
    exact ⟨_, rfl⟩
  have hwhole := wholeLot?_eq_some.1 hl
  refine ⟨l, insertCreditLot_ok.2 ⟨l, hwhole, ?_, ?_, rfl, rfl⟩⟩
  · refine ⟨adjustmentEntry req, ?_, hwhole.tenantId.symm, hwhole.customerId.symm,
      hwhole.originalAmountKobo.symm, hwhole.earnedAt.symm, hkind, .inr rfl⟩
    rw [hwhole.earnLedgerEntryId]
    simp [opened]
  · intro x hx hid
    obtain ⟨i, hi⟩ := List.getElem?_of_mem hx
    have hrow : s.books.lots[i]? = some x := hi
    obtain ⟨e, he, -⟩ := hs.lot hrow
    have hlt := Table.lt_of_getElem? he
    have hlen : s.books.ledger.length = s.ledger.length := rfl
    omega

lemma debit_run (rt : Runtime) {now : Int} (hs : s.books.Sound)
    (hbalance : (req.amountKobo : Int) ≤
      ActiveBalanceService.getActiveBalanceKobo s req.actor.tenantId req.customerId now) :
    ∃ allocations t, LotAllocationService.allocateDebit rt
      { tenantId := req.actor.tenantId, customerId := req.customerId
        debitLedgerEntryId := s.ledger.length, amountKobo := req.amountKobo, now
        target := .adjustment s.adjustments.length } (opened req s) = .ok (allocations, t) ∧
      t.idempotency = s.idempotency := by
  set input : AllocateDebitInput :=
    { tenantId := req.actor.tenantId, customerId := req.customerId
      debitLedgerEntryId := s.ledger.length, amountKobo := req.amountKobo, now
      target := .adjustment s.adjustments.length } with hinput
  have hfresh : LotAllocationService.FreshTarget input (opened req s) :=
    LotAllocationService.freshTarget_of_adjustment (s := s) hs rfl le_rfl
  have henough : input.amountKobo ≤ LotAllocationService.eligibleKobo (opened req s) input := by
    rw [LotAllocationService.eligibleKobo_eq_activeBalance rfl]
    exact hbalance
  obtain ⟨allocations, t, hrun⟩ :=
    (LotAllocationService.allocateDebit_exact rt input _ req.amountKobo.2 hfresh).1.2 henough
  obtain ⟨rows, hdrawn⟩ := LotAllocationService.allocateDebit_ok hrun
  refine ⟨allocations, t, hrun, ?_⟩
  rw [hdrawn.frame]
  rfl

lemma finishAdjustment_run {phoneE164 : String} {i j : Nat} {allocations : List PersistedAllocation}
    {creditLot : Option (Nat × Int)} {now finishedAt : Int} (hkey : s.idempotency req.key ≠ none) :
    ∃ res t, finishAdjustment rt req phoneE164 i j allocations creditLot now finishedAt s =
      .ok (res, t) := by
  simp only [finishAdjustment, bind_ok, get_ok, insertOutboxEvent_ok, recordAudit_ok,
    updateIdempotencyRecord_ok, pure_ok]
  exact ⟨_, _, s, s, ⟨rfl, rfl⟩, (), _, rfl, (), _, rfl, (), _, ⟨hkey, rfl⟩, rfl, rfl⟩

/-- The pending record under the key of a request. -/
def pending (req : AdjustmentRequest) (startedAt : Int) (s : Database) : Database :=
  { s with idempotency := Function.update s.idempotency req.key (some
    { requestHash := req.requestHash, responseJson := none, status := .PENDING
      expiresAt := startedAt + IDP_EXPIRY_MS }) }

/-- The part of the transaction behind its checks. -/
lemma adjustmentTransaction_eq {now : Int} (startedAt finishedAt : Int)
    (hkey : s.idempotency req.key = none) (hadm : AdjustmentAdmitted rt req now s) :
    ∃ phoneE164,
      (req.kind = .CREDIT → adjustmentTransaction rt req startedAt now finishedAt s =
        creditAdjustment rt req phoneE164 now finishedAt (pending req startedAt s)) ∧
      (req.kind = .DEBIT → adjustmentTransaction rt req startedAt now finishedAt s =
        debitAdjustment rt req phoneE164 now finishedAt (pending req startedAt s)) := by
  obtain ⟨c, hc, htenant, hactive, hstaff⟩ := hadm.customer
  have hrecord : insertIdempotencyRecord req.key
      { requestHash := req.requestHash, responseJson := none, status := .PENDING
        expiresAt := startedAt + IDP_EXPIRY_MS } s = .ok ((), pending req startedAt s) :=
    insertIdempotencyRecord_ok.2 ⟨hkey, rfl⟩
  have hfound : ((pending req startedAt s).registry.customers req.customerId).filter
      (fun c => c.tenantId = req.actor.tenantId) = some c := by
    rw [show (pending req startedAt s).registry.customers req.customerId = some c from hc]
    simp [htenant]
  refine ⟨c.phoneE164, ?_⟩
  have hget : (get : Tx Database) (pending req startedAt s) =
      .ok (pending req startedAt s, pending req startedAt s) := rfl
  have hcustomer : (orFault (((pending req startedAt s).registry.customers req.customerId).filter
      fun c => c.tenantId = req.actor.tenantId)
      (.http 404 "CUSTOMER_NOT_FOUND" "Customer not found") : Tx Customer)
        (pending req startedAt s) = .ok (c, pending req startedAt s) :=
    orFault_ok.2 ⟨hfound, rfl⟩
  have hallowed : (rejectIf (c.status ≠ .ACTIVE ∨ c.isStaff)
      (.http 404 "CUSTOMER_NOT_FOUND" "Customer not found") : Tx Unit) (pending req startedAt s) =
        .ok ((), pending req startedAt s) :=
    rejectIf_ok.2 ⟨by simp [hactive, hstaff], rfl⟩
  unfold adjustmentTransaction
  rw [bind_of_ok hrecord, bind_of_ok hget, bind_of_ok hcustomer, bind_of_ok hallowed]
  constructor
  · intro hkind
    rw [hkind]
  · intro hkind
    rw [hkind]

/-- **An admitted adjustment of a new payload commits.** -/
theorem adjustmentTransaction_run {startedAt now finishedAt : Int} (hs : s.books.Sound)
    (hreason : ∃ c ∈ req.reason.toList, c ≠ ' ') (hkey : s.idempotency req.key = none)
    (hadm : AdjustmentAdmitted rt req now s) (hfresh : ¬ Adjusted req s) :
    ∃ res t, adjustmentTransaction rt req startedAt now finishedAt s = .ok (res, t) := by
  obtain ⟨phoneE164, hcredit, hdebit⟩ :=
    adjustmentTransaction_eq startedAt finishedAt hkey hadm
  set v := pending req startedAt s with hv
  have hsound : v.books.Sound := hs
  have hnew : ¬ Adjusted req v := hfresh
  have hrecorded : v.idempotency req.key ≠ none := by simp [hv, pending]
  cases hkind : req.kind with
  | CREDIT =>
      obtain ⟨l, hl⟩ := lot_run hsound hkind (hadm.credit hkind)
      have hfinish : ∃ res t, finishAdjustment rt req phoneE164 v.ledger.length v.adjustments.length
          [] (some (v.lots.length, addMonths req.effectiveAt rt.ADJUSTMENT_CREDIT_EXPIRY_MONTHS))
          now finishedAt { opened req v with lots := v.lots ++ [l] } = .ok (res, t) :=
        finishAdjustment_run hrecorded
      obtain ⟨res, t, hfinish⟩ := hfinish
      refine ⟨res, t, ?_⟩
      rw [hcredit hkind, creditAdjustment, bind_of_ok (entry_run hnew),
        bind_of_ok (row_run hsound hreason), bind_of_ok hl]
      exact hfinish
  | DEBIT =>
      obtain ⟨allocations, u, hdraw, hkept⟩ := debit_run rt hsound (hadm.debit hkind)
      have hfinish : ∃ res t, finishAdjustment rt req phoneE164 v.ledger.length v.adjustments.length
          allocations none now finishedAt u = .ok (res, t) :=
        finishAdjustment_run (by rw [hkept]; exact hrecorded)
      obtain ⟨res, t, hfinish⟩ := hfinish
      refine ⟨res, t, ?_⟩
      rw [hdebit hkind, debitAdjustment, bind_of_ok (entry_run hnew),
        bind_of_ok (row_run hsound hreason), bind_of_ok hdraw]
      exact hfinish

lemma adjustmentTransaction_clash {startedAt now finishedAt : Int}
    (hkey : s.idempotency req.key = none) (hadm : AdjustmentAdmitted rt req now s)
    (hadjusted : Adjusted req s) :
    adjustmentTransaction rt req startedAt now finishedAt s =
      .error (.unique .ledgerCorrelationId) := by
  obtain ⟨phoneE164, hcredit, hdebit⟩ :=
    adjustmentTransaction_eq startedAt finishedAt hkey hadm
  have hentry : insertLedgerEntry (adjustmentEntry req) (pending req startedAt s) =
      .error (.unique .ledgerCorrelationId) := by
    have hget : (get : Tx Database) (pending req startedAt s) =
        .ok (pending req startedAt s, pending req startedAt s) := rfl
    unfold insertLedgerEntry
    rw [bind_of_ok hget]
    exact bind_of_error (rejectIf_of hadjusted)
  cases hkind : req.kind with
  | CREDIT => exact (hcredit hkind).trans (bind_of_error hentry)
  | DEBIT => exact (hdebit hkind).trans (bind_of_error hentry)

/-! ### What an attempt ends in -/

/-- What the claimed retries would end in. -/
def Retried (r : Except Fault Response) : Prop :=
  (∃ response, r = .ok response) ∨ r = .error adjustmentTransactionConflict

/-- Others leave a reachable state, without a record under the key. -/
structure Unrecorded (rt : Runtime) (key : IdempotencyKey) (s : Database) : Prop where
  reachable : ∃ u, Reachable rt u ∧ u.db = s
  unrecorded : s.idempotency key = none

lemma Unrecorded.sound {key : IdempotencyKey} (h : Unrecorded rt key s) : s.books.Sound := by
  obtain ⟨u, hu, rfl⟩ := h.reachable
  exact hu.invariants.books.sound

/-- An attempt of an admitted request that is not refused commits, unless its payload has an
entry. -/
lemma commitAdjustment_run {env : AdjustmentInput} (hs : s.books.Sound)
    (hreason : ∃ c ∈ req.reason.toList, c ≠ ' ') (hkey : s.idempotency req.key = none)
    (hadm : AdjustmentAdmitted rt req env.now s) (hfresh : ¬ Adjusted req s)
    (hcommit : env.commit ≠ .refused) :
    ∃ response, (commitAdjustment rt req env s).1 = .ok response := by
  obtain ⟨response, t, hrun⟩ : ∃ response t, adjustmentTransaction rt req env.startedAt env.now
      env.finishedAt s = .ok (response, t) := adjustmentTransaction_run hs hreason hkey hadm hfresh
  have hclash : ∀ index, adjustmentClash req s index = false := by
    intro index
    cases index <;> simp [adjustmentClash, hkey]
    intro x hx hcorrelation
    exact hfresh ⟨x, hx, hcorrelation⟩
  refine ⟨response, ?_⟩
  unfold commitAdjustment
  rw [hrun]
  cases hanswer : env.commit with
  | accepted => rfl
  | refused => exact absurd hanswer hcommit
  | clash index => simp [hclash index]

lemma commitAdjustment_conflict {env : AdjustmentInput} (hkey : s.idempotency req.key = none)
    (hadm : AdjustmentAdmitted rt req env.now s)
    (h : env.commit = .refused ∨ Adjusted req s) :
    ∃ e, (commitAdjustment rt req env s).1 = .error e ∧ isConflict e = true := by
  unfold commitAdjustment
  rcases h with hrefused | hadjusted
  · rw [hrefused]
    exact ⟨.serialization, rfl, rfl⟩
  · have hrun : adjustmentTransaction rt req env.startedAt env.now env.finishedAt s =
        .error (.unique .ledgerCorrelationId) := adjustmentTransaction_clash hkey hadm hadjusted
    rw [hrun]
    cases env.commit with
    | accepted => exact ⟨_, rfl, rfl⟩
    | refused => exact ⟨.serialization, rfl, rfl⟩
    | clash index =>
        by_cases hclash : adjustmentClash req s index
        · exact ⟨.unique index, by simp [hclash], rfl⟩
        · exact ⟨.unique .ledgerCorrelationId, by simp [hclash], rfl⟩

/-- **The wait ends the request** where there is no record under its key. -/
lemma waitForAdjustmentReplay_unrecorded {α : Type} {f : Option Response → AdjustmentProcess α}
    {attempts : Nat} {met : List (AdjustmentInput × Database)} {r : Except Fault α}
    (hmet : ∀ x ∈ met, x.2.idempotency req.key = none)
    (h : (waitForAdjustmentReplay req (attempts + 1) >>= f).along met = some r) :
    r = .error idempotencyConflict := by
  cases met with
  | nil => cases h
  | cons x rest =>
      have hnone : x.2.idempotency req.key = none := hmet x List.mem_cons_self
      have hend : (fail idempotencyConflict : AdjustmentProcess α).along rest = some r := by
        rw [← h]
        unfold waitForAdjustmentReplay
        simp only [Process.along, statement, act_bind, done_bind, hnone]
        rfl
      exact (along_fail.1 hend).2

lemma reason_of_trim {text : String} (h : trim text ≠ "") : ∃ c ∈ (trim text).toList, c ≠ ' ' := by
  set l := text.toList.dropWhile isWhiteSpace with hl
  set m := (l.reverse.dropWhile isWhiteSpace).reverse with hm
  have htrim : trim text = String.ofList m := rfl
  have hlast : m ≠ [] := by
    intro hnil
    rw [hnil] at htrim
    exact h htrim
  have hback : l.reverse.dropWhile isWhiteSpace ≠ [] := by
    intro hnil
    rw [hm, hnil] at hlast
    exact hlast rfl
  have hhead := List.head_dropWhile_not isWhiteSpace hback
  refine ⟨(l.reverse.dropWhile isWhiteSpace).head hback, ?_, ?_⟩
  · rw [htrim, String.toList_ofList, hm]
    exact List.mem_reverse.2 (List.head_mem hback)
  · intro hspace
    rw [hspace] at hhead
    cases hhead

lemma adjustmentRequest_ok {actor : AuthContext} {idempotencyKey : Option String}
    {dto : CreateAdjustmentDto} {t : Database}
    (h : adjustmentRequest rt actor idempotencyKey dto s = .ok (req, t)) :
    (∃ c ∈ req.reason.toList, c ≠ ' ') ∧
      req.requestHash = sha256 (adjustmentRequestText actor dto (trim dto.reason)) ∧ s = t := by
  simp only [adjustmentRequest, bind_ok, rejectIf_ok, orFault_ok, pure_ok] at h
  obtain ⟨_, _, ⟨-, rfl⟩, _, _, ⟨-, rfl⟩, _, _, ⟨hreason, rfl⟩, _, _, ⟨-, rfl⟩, _, _, ⟨-, rfl⟩,
    _, _, ⟨-, rfl⟩, rfl, rfl⟩ := h
  exact ⟨reason_of_trim hreason, rfl, rfl⟩

/-! ### The whole request -/

/-- The attempts of an admitted request whose key nobody uses: the first one decides. -/
lemma adjustmentAttempts_retried_iff {attempts : Nat} {met : List (AdjustmentInput × Database)}
    {r : Except Fault Response} (hreason : ∃ c ∈ req.reason.toList, c ≠ ' ')
    (hmet : ∀ x ∈ met, Unrecorded rt req.key x.2 ∧ AdjustmentAdmitted rt req x.1.now x.2)
    (h : (adjustmentAttempts rt req (attempts + 1)).along met = some r) :
    Retried r ↔ ∃ env u, met.head? = some (env, u) ∧ env.commit ≠ .refused ∧ ¬ Adjusted req u := by
  unfold adjustmentAttempts at h
  obtain ⟨env, u, rest, rfl, hrest⟩ := along_statement_bind.1 h
  obtain ⟨hunrecorded, hadm⟩ := hmet (env, u) List.mem_cons_self
  have hothers : ∀ x ∈ rest, x.2.idempotency req.key = none := fun x hx =>
    (hmet x (.tail _ hx)).1.unrecorded
  by_cases hgood : env.commit ≠ .refused ∧ ¬ Adjusted req u
  · obtain ⟨response, hok⟩ := commitAdjustment_run hunrecorded.sound hreason
      hunrecorded.unrecorded hadm hgood.2 hgood.1
    simp only [hok, pure_eq, along_done] at hrest
    exact ⟨fun _ => ⟨env, u, rfl, hgood⟩, fun _ => .inl ⟨_, hrest.2⟩⟩
  · have hbad : env.commit = .refused ∨ Adjusted req u := by
      by_contra hnot
      exact hgood ⟨fun he => hnot (.inl he), fun ha => hnot (.inr ha)⟩
    obtain ⟨e, herror, hconflict⟩ := commitAdjustment_conflict hunrecorded.unrecorded hadm hbad
    simp only [herror, hconflict, if_true] at hrest
    obtain rfl : r = .error idempotencyConflict :=
      waitForAdjustmentReplay_unrecorded hothers hrest
    constructor
    · rintro (⟨response, hok⟩ | herr)
      · cases hok
      · simp [idempotencyConflict, adjustmentTransactionConflict] at herr
    · rintro ⟨env', u', hhead, hgood'⟩
      obtain ⟨rfl, rfl⟩ := Prod.mk.inj (Option.some.inj hhead)
      exact absurd hgood' hgood

/-- The request behind its two reads. -/
lemma createAdjustment_retried_iff {actor : AuthContext} {idempotencyKey : Option String}
    {dto : CreateAdjustmentDto} {met : List (AdjustmentInput × Database)}
    {r : Except Fault Response}
    (hreq : ∀ u, adjustmentRequest rt actor idempotencyKey dto u = .ok (req, u))
    (hmet : ∀ x ∈ met, Unrecorded rt req.key x.2 ∧ AdjustmentAdmitted rt req x.1.now x.2)
    (h : (createAdjustment rt actor idempotencyKey dto).along met = some r) :
    Retried r ↔ ∃ env u, met[2]? = some (env, u) ∧ env.commit ≠ .refused ∧ ¬ Adjusted req u := by
  unfold createAdjustment at h
  obtain ⟨env, u, rest, rfl, hstart⟩ := along_transaction_bind.1 h
  have hstarted : startAdjustment rt actor idempotencyKey dto env.startedAt u =
      .ok (req, u.dropExpired (fun k => k.tenantId = req.key.tenantId &&
        k.actorId = req.key.actorId && k.idempotencyKey = req.key.idempotencyKey)
          env.startedAt) := by
    unfold startAdjustment
    rw [bind_of_ok (hreq u)]
    rfl
  rcases hstart with ⟨req', t, hok, hlookup⟩ | ⟨e, herror, -⟩
  · rw [hstarted] at hok
    obtain ⟨rfl, -⟩ := Prod.mk.inj (Except.ok.inj hok)
    obtain ⟨env', u', rest', rfl, hattempts⟩ := along_statement_bind.1 hlookup
    have hnone : u'.idempotency req.key = none :=
      (hmet (env', u') (.tail _ List.mem_cons_self)).1.unrecorded
    simp only [hnone] at hattempts
    have hreason := (adjustmentRequest_ok (hreq u)).1
    rw [adjustmentAttempts_retried_iff hreason
      (fun x hx => hmet x (.tail _ (.tail _ hx))) hattempts]
    simp only [List.getElem?_cons_succ, List.head?_eq_getElem?]
  · rw [hstarted] at herror
    cases herror

/-! ### One payload under two keys -/

/-- An adjustment that commits finds its payload without an entry, and leaves one. -/
lemma adjusted_of_step {u v : System} {startedAt now finishedAt : Int}
    (h : Step rt (.adjust req startedAt now finishedAt) u v) :
    ¬ Adjusted req u.db ∧ Adjusted req v.db := by
  obtain ⟨res, t, hok, rfl⟩ := System.commit_ok.1 h.runs
  have hcommitted := (adjustmentTransaction_ok hok).2
  constructor
  · intro hadjusted
    simp only [adjustmentTransaction, bind_ok, insertIdempotencyRecord_ok, get_ok, orFault_ok,
      rejectIf_ok] at hok
    obtain ⟨_, w, ⟨-, rfl⟩, _, _, ⟨rfl, rfl⟩, c, _, ⟨-, rfl⟩, _, _, ⟨-, rfl⟩, hbody⟩ := hok
    obtain ⟨e, he, hcorrelation⟩ := hadjusted
    cases hkind : req.kind with
    | CREDIT =>
        rw [hkind] at hbody
        simp only [creditAdjustment, bind_ok, insertLedgerEntry_ok] at hbody
        obtain ⟨_, _, ⟨hadmits, -⟩, -⟩ := hbody
        exact hadmits.correlationId e he hcorrelation
    | DEBIT =>
        rw [hkind] at hbody
        simp only [debitAdjustment, bind_ok, insertLedgerEntry_ok] at hbody
        obtain ⟨_, _, ⟨hadmits, -⟩, -⟩ := hbody
        exact hadmits.correlationId e he hcorrelation
  · refine ⟨adjustmentEntry req, ?_, rfl⟩
    cases hcommitted with
    | credit h => rw [h.frame]; simp
    | debit h => rw [h.frame]; simp

lemma Adjusted.steps {u v : System} (hu : Reachable rt u) (hsteps : Steps rt u v)
    (h : Adjusted req u.db) : Adjusted req v.db := by
  obtain ⟨e, he, hcorrelation⟩ := h
  obtain ⟨i, hi⟩ := List.getElem?_of_mem he
  have hgrows := Books.grows_of_postings (hsteps.postings hu.invariants)
  have hrow : u.db.books.ledger[i]? = some e := hi
  have hkept : v.db.books.ledger[i]? = some e := hgrows.ledger hrow
  exact ⟨e, List.mem_of_getElem? hkept, hcorrelation⟩

/-- **Conflicts of adjustments are not retried.** Where the key of an admitted adjustment is
not used, it ends in success or in the transaction conflict exactly if its first attempt is not
refused and its payload has no entry. And no payload is ever adjusted twice, under any keys. -/
theorem adjustment_retried_iff (rt : Runtime) (actor : AuthContext) (dto : CreateAdjustmentDto) :
    (∀ idempotencyKey req met r,
      (∀ u, adjustmentRequest rt actor idempotencyKey dto u = .ok (req, u)) →
      (∀ x ∈ met, Unrecorded rt req.key x.2 ∧ AdjustmentAdmitted rt req x.1.now x.2) →
      (createAdjustment rt actor idempotencyKey dto).along met = some r →
      (Retried r ↔
        ∃ env u, met[2]? = some (env, u) ∧ env.commit ≠ .refused ∧ ¬ Adjusted req u)) ∧
    ∀ k₁ k₂ req₁ req₂ s u v w,
      (∀ db, adjustmentRequest rt actor k₁ dto db = .ok (req₁, db)) →
      (∀ db, adjustmentRequest rt actor k₂ dto db = .ok (req₂, db)) →
      Reachable rt s → (∃ a b c, Step rt (.adjust req₁ a b c) s u) → Steps rt u v →
      ¬ ∃ a b c, Step rt (.adjust req₂ a b c) v w := by
  refine ⟨fun idempotencyKey req met r hreq hmet h => createAdjustment_retried_iff hreq hmet h, ?_⟩
  rintro k₁ k₂ req₁ req₂ s u v w hreq₁ hreq₂ hs ⟨a, b, c, hfirst⟩ hsteps ⟨a', b', c', hsecond⟩
  have hpayload : req₁.requestHash = req₂.requestHash := by
    rw [(adjustmentRequest_ok (hreq₁ s.db)).2.1, (adjustmentRequest_ok (hreq₂ s.db)).2.1]
  have hadjusted : Adjusted req₁ v.db :=
    (adjusted_of_step hfirst).2.steps (hs.step hfirst) hsteps
  refine (adjusted_of_step hsecond).1 ?_
  unfold Adjusted
  rw [← hpayload]
  exact hadjusted

/-! ### A gesture of goodwill -/

def Shop.goodwillDto : CreateAdjustmentDto := ⟨"customer", .CREDIT, 250000, "goodwill", Shop.night⟩

def Shop.goodwillRequest (idempotencyKey : String) : AdjustmentRequest where
  actor := Shop.administrator
  idempotencyKey := idempotencyKey
  customerId := "customer"
  kind := .CREDIT
  amountKobo := ⟨250000, by decide⟩
  reason := "goodwill"
  effectiveAt := Shop.night
  requestHash := sha256 (adjustmentRequestText Shop.administrator Shop.goodwillDto "goodwill")

lemma Shop.goodwill_reads (u : Database) :
    adjustmentRequest Shop.runtime Shop.administrator (some "first") Shop.goodwillDto u =
      .ok (Shop.goodwillRequest "first", u) := by
  rfl

lemma Shop.goodwill_reads_again (u : Database) :
    adjustmentRequest Shop.runtime Shop.administrator (some "second") Shop.goodwillDto u =
      .ok (Shop.goodwillRequest "second", u) := by
  rfl

/-- The statements of the request, on the opened shop. -/
def Shop.goodwillMet (commit : CommitAnswer) (more : Nat) : List (AdjustmentInput × Database) :=
  List.replicate 2 (⟨Shop.night, Shop.night, Shop.night, .accepted⟩, Shop.opened.db) ++
    (⟨Shop.night, Shop.night, Shop.night, commit⟩, Shop.opened.db) ::
      List.replicate more (⟨Shop.night, Shop.night, Shop.night, .accepted⟩, Shop.opened.db)

lemma Shop.goodwill_admitted : AdjustmentAdmitted Shop.runtime (Shop.goodwillRequest "first")
    Shop.night Shop.opened.db where
  customer := ⟨_, rfl, rfl, rfl, rfl⟩
  credit _ := by decide +kernel
  debit h := by cases h

lemma Shop.goodwill_met (commit : CommitAnswer) (more : Nat) :
    ∀ x ∈ Shop.goodwillMet commit more,
      Unrecorded Shop.runtime (Shop.goodwillRequest "first").key x.2 ∧
        AdjustmentAdmitted Shop.runtime (Shop.goodwillRequest "first") x.1.now x.2 := by
  have hopened : Unrecorded Shop.runtime (Shop.goodwillRequest "first").key Shop.opened.db :=
    ⟨⟨Shop.opened, ⟨Shop.registry, .refl _⟩, rfl⟩, rfl⟩
  intro x hx
  simp only [Shop.goodwillMet, List.mem_append, List.mem_replicate, List.mem_cons] at hx
  rcases hx with ⟨-, rfl⟩ | rfl | ⟨-, rfl⟩
  · exact ⟨hopened, Shop.goodwill_admitted⟩
  · exact ⟨hopened, Shop.goodwill_admitted⟩
  · exact ⟨hopened, Shop.goodwill_admitted⟩

lemma Shop.goodwill_step : ∃ u, Step Shop.runtime
    (.adjust (Shop.goodwillRequest "first") Shop.night Shop.night Shop.night) Shop.opened u := by
  have hfresh : ¬ Adjusted (Shop.goodwillRequest "first") Shop.opened.db := by
    rintro ⟨e, he, -⟩
    cases he
  have hsound : Shop.opened.db.books.Sound :=
    (Shop.goodwill_met .accepted 0 _ List.mem_cons_self).1.sound
  have hrun : ∃ res t, adjustmentTransaction Shop.runtime (Shop.goodwillRequest "first") Shop.night
      Shop.night Shop.night Shop.opened.db = .ok (res, t) :=
    adjustmentTransaction_run hsound (adjustmentRequest_ok (Shop.goodwill_reads Shop.opened.db)).1
      rfl Shop.goodwill_admitted hfresh
  obtain ⟨res, t, hrun⟩ := hrun
  exact ⟨_, System.commit_ok.2 ⟨res, t, hrun, rfl⟩, trivial⟩

theorem adjustment_retried_iff_shop :
    (∃ r, (createAdjustment Shop.runtime Shop.administrator (some "first") Shop.goodwillDto).along
      (Shop.goodwillMet .accepted 0) = some r ∧ Retried r) ∧
    ∃ u, Step Shop.runtime (.adjust (Shop.goodwillRequest "first") Shop.night Shop.night Shop.night)
      Shop.opened u ∧ ∀ w, ¬ ∃ a b c,
        Step Shop.runtime (.adjust (Shop.goodwillRequest "second") a b c) u w := by
  have htheorem := adjustment_retried_iff Shop.runtime Shop.administrator Shop.goodwillDto
  constructor
  · have hran : ((createAdjustment Shop.runtime Shop.administrator (some "first")
        Shop.goodwillDto).along (Shop.goodwillMet .accepted 0)).isSome = true := by
      decide +kernel
    obtain ⟨r, hr⟩ := Option.isSome_iff_exists.1 hran
    refine ⟨r, hr, ?_⟩
    refine (htheorem.1 _ _ _ _ Shop.goodwill_reads (Shop.goodwill_met _ _) hr).2
      ⟨_, _, rfl, by simp, ?_⟩
    rintro ⟨e, he, -⟩
    cases he
  · obtain ⟨u, hstep⟩ := Shop.goodwill_step
    have hopened : Reachable Shop.runtime Shop.opened := ⟨Shop.registry, .refl _⟩
    exact ⟨u, hstep, fun w => htheorem.2 _ _ _ _ _ _ _ _ Shop.goodwill_reads
      Shop.goodwill_reads_again hopened ⟨_, _, _, hstep⟩ (.refl _)⟩

/-- The first attempt is refused, and the request ends in a conflict of its key. -/
theorem adjustment_conflict_not_retried : ∃ met r,
    (∀ u, adjustmentRequest Shop.runtime Shop.administrator (some "first") Shop.goodwillDto u =
      .ok (Shop.goodwillRequest "first", u)) ∧
    (∀ x ∈ met, Unrecorded Shop.runtime (Shop.goodwillRequest "first").key x.2 ∧
      AdjustmentAdmitted Shop.runtime (Shop.goodwillRequest "first") x.1.now x.2) ∧
    (createAdjustment Shop.runtime Shop.administrator (some "first") Shop.goodwillDto).along met =
      some r ∧ r = .error idempotencyConflict ∧ ¬ Retried r := by
  refine ⟨Shop.goodwillMet .refused 1, .error idempotencyConflict, Shop.goodwill_reads,
    Shop.goodwill_met _ _, rfl, rfl, ?_⟩
  rintro (⟨response, hok⟩ | herror)
  · cases hok
  · simp [idempotencyConflict, adjustmentTransactionConflict] at herror

end AdjustmentsService

end ShopcityLoyalty
