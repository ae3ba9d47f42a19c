import ShopcityLoyalty.RequestReplays
import ShopcityLoyalty.Resubmissions

/-!
When an earn, and with it a record of an offline batch, is refused for another payload's record.

A request leaves the other keys alone, and under its own key at most its answer. Where whatever is
kept under the key is an answer to the same payload, and stays while the request runs, the request
is not refused for it.
-/

namespace ShopcityLoyalty

open Txn Database Process

/-- The fault is not reported as the conflict of another payload. -/
def Fault.Unconflicted (e : Fault) : Prop :=
  OfflineSyncService.readDomainCode e ≠ some "IDEMPOTENCY_CONFLICT"

lemma unconflicted_http {status : Nat} {code message : String} (h : code ≠ "IDEMPOTENCY_CONFLICT") :
    (Fault.http status code message).Unconflicted := by
  unfold Fault.Unconflicted OfflineSyncService.readDomainCode
  dsimp only
  split
  · simp
  · simpa using h

lemma unconflicted_badRequest (message : String) : (badRequest message).Unconflicted :=
  unconflicted_http (by decide)

/-! ### How an earn's transaction fails -/

/-- Nothing is written to the idempotency records. -/
def SameRecords (s t : Database) : Prop := t.idempotency = s.idempotency

instance : Std.Refl SameRecords := ⟨fun _ => rfl⟩

instance : IsTrans Database SameRecords := ⟨fun _ _ _ h h' => Eq.trans h' h⟩

/-- A fault of a body that has not come to its key. -/
def KeylessFault (e : Fault) : Prop := e.Unconflicted ∧ e ≠ .unique .idempotencyKey

lemma keyless_http {status : Nat} {code message : String} (h : code ≠ "IDEMPOTENCY_CONFLICT") :
    KeylessFault (.http status code message) := ⟨unconflicted_http h, by simp⟩

lemma keyless_badRequest (message : String) : KeylessFault (badRequest message) :=
  keyless_http (by decide)

lemma keyless_check (constraint : String) : KeylessFault (.check constraint) :=
  ⟨by simp [Fault.Unconflicted, OfflineSyncService.readDomainCode], by simp⟩

lemma keyless_unique {index : UniqueIndex} (h : index ≠ .idempotencyKey) :
    KeylessFault (.unique index) :=
  ⟨by simp [Fault.Unconflicted, OfflineSyncService.readDomainCode], by simpa using h⟩

/-- A body that has not come to its key. -/
abbrev Keyless {α : Type} (m : Tx α) : Prop := Within SameRecords KeylessFault m

/-- A body that fails, where it does, for no other payload, and finds its key taken only where it
is. -/
def TakesKey {α : Type} (key : IdempotencyKey) (m : Tx α) : Prop :=
  ∀ s e, m s = .error e →
    e.Unconflicted ∧ (e = .unique .idempotencyKey → (s.idempotency key).isSome)

section transactions

variable {α β : Type} {key : IdempotencyKey}

lemma TakesKey.of_keyless {m : Tx α} {f : α → Tx β} (hm : Keyless m)
    (hf : ∀ a, TakesKey key (f a)) : TakesKey key (m >>= f) := by
  intro s e herror
  cases hs : m s with
  | error e' =>
      rw [bind_of_error hs] at herror
      obtain rfl := Except.error.inj herror
      obtain ⟨hcode, hne⟩ := hm.error hs
      exact ⟨hcode, fun heq => absurd heq hne⟩
  | ok r =>
      obtain ⟨a, t⟩ := r
      rw [bind_of_ok hs] at herror
      have hsame : t.idempotency = s.idempotency := hm.ok hs
      rw [← hsame]
      exact hf a t e herror

lemma takesKey_insert {r : IdempotencyRecord Response} {f : Unit → Tx β}
    (hf : ∀ s e, f () s ≠ .error e) : TakesKey key (insertIdempotencyRecord key r >>= f) := by
  intro s e herror
  by_cases htaken : (s.idempotency key).isSome
  · unfold insertIdempotencyRecord at herror
    rw [bind_of_error (e := .unique .idempotencyKey)] at herror
    · obtain rfl := Except.error.inj herror
      exact ⟨by simp [Fault.Unconflicted, OfflineSyncService.readDomainCode], fun _ => htaken⟩
    · rw [bind_of_ok (get_ok.2 ⟨rfl, rfl⟩), bind_of_error (rejectIf_of htaken)]
  · have hinsert : insertIdempotencyRecord key r s =
        .ok ((), { s with idempotency := Function.update s.idempotency key (some r) }) :=
      (insertIdempotencyRecord_ok (u := ())).2 ⟨by simpa using htaken, rfl⟩
    rw [bind_of_ok hinsert] at herror
    exact absurd herror (hf _ e)

lemma keyless_update {f : Database → Database} (h : ∀ s, (f s).idempotency = s.idempotency) :
    Keyless (update f) := within_update h

lemma keyless_insertReceipt (r : Receipt) : Keyless (insertReceipt r) :=
  Within.bind within_get fun _ =>
    Within.bind (within_rejectIf fun _ => keyless_unique (by decide)) fun _ =>
    Within.bind (keyless_update fun _ => rfl) fun _ => within_pure _

lemma keyless_insertApproval (a : Approval) : Keyless (insertApproval a) :=
  Within.bind within_get fun _ => Within.bind (within_rejectIf fun _ => keyless_check _) fun _ =>
    Within.bind (within_rejectIf fun _ => keyless_unique (by decide)) fun _ =>
    Within.bind (keyless_update fun _ => rfl) fun _ => within_pure _

lemma keyless_insertLedgerEntry (e : LoyaltyLedgerEntry) : Keyless (insertLedgerEntry e) :=
  Within.bind within_get fun _ =>
    Within.bind (within_rejectIf fun _ => keyless_unique (by decide)) fun _ =>
    Within.bind (within_rejectIf fun _ => keyless_unique (by decide)) fun _ =>
    Within.bind (within_rejectIf fun _ => keyless_unique (by decide)) fun _ =>
    Within.bind (keyless_update fun _ => rfl) fun _ => within_pure _

lemma keyless_insertCreditLot (tenantId customerId : String) (i : Nat) (k : PositiveKobo)
    (earnedAt expiresAt : Int) :
    Keyless (insertCreditLot tenantId customerId i k earnedAt expiresAt) :=
  Within.bind within_get fun _ => Within.bind (within_orFault fun _ => keyless_check _) fun _ =>
    Within.bind (within_rejectIf fun _ => keyless_check _) fun _ =>
    Within.bind (within_rejectIf fun _ => keyless_unique (by decide)) fun _ =>
    Within.bind (keyless_update fun _ => rfl) fun _ => within_pure _

lemma keyless_earnContext (rt : Runtime) (req : EarnRequest) (adm : LoyaltyService.EarnAdmission) :
    Keyless (LoyaltyService.earnContext rt req adm) := by
  have hinactive : KeylessFault (.http 400 "DEVICE_NOT_ACTIVE" "Device is not active") :=
    keyless_http (by decide)
  have hnotFound : KeylessFault (.http 404 "CARD_NOT_FOUND" "Card not found") :=
    keyless_http (by decide)
  unfold LoyaltyService.earnContext findTransactionDevice findTransactionCard deriveReceiptWeekStart
  refine Within.bind within_get fun db => Within.bind ?_ fun _ => Within.bind ?_ fun _ =>
    Within.bind ?_ fun _ => within_pure _
  · exact Within.bind (within_orFault fun _ => hinactive) fun _ =>
      Within.bind (within_orFault fun _ => hinactive) fun _ =>
      Within.bind (within_rejectIf fun _ => hinactive) fun _ =>
      Within.bind (within_rejectIf fun _ => keyless_http (by decide)) fun _ => within_pure _
  · exact Within.bind (within_orFault fun _ => hnotFound) fun _ =>
      Within.bind (within_orFault fun _ => hnotFound) fun _ =>
      Within.bind (within_rejectIf fun _ => hnotFound) fun _ => within_pure _
  · exact Within.bind (within_rejectIf fun _ => keyless_badRequest _) fun _ => within_pure _

/-- **An earn's transaction** finds no other payload's record. -/
lemma LoyaltyService.earnTransaction_takesKey (rt : Runtime) (req : EarnRequest)
    (adm : EarnAdmission) (now : Int) : TakesKey req.key (earnTransaction rt req adm now) := by
  have houtbox : ∀ e, Keyless (insertOutboxEvent e) := fun e => keyless_update fun _ => rfl
  unfold earnTransaction
  refine .of_keyless (keyless_earnContext rt req adm) fun ctx => .of_keyless within_get fun db =>
    .of_keyless (within_rejectIf fun _ => keyless_http (by decide)) fun _ =>
    .of_keyless (within_orFault fun _ => keyless_check _) fun amount =>
    .of_keyless (keyless_insertReceipt _) fun receiptId => ?_
  split
  · unfold captureForApproval
    refine .of_keyless within_get fun _ => .of_keyless (keyless_insertApproval _) fun _ =>
      .of_keyless (houtbox _) fun _ => takesKey_insert fun s e herror => ?_
    cases herror
  · unfold creditReceipt
    refine .of_keyless (within_orFault fun _ => keyless_check _) fun _ =>
      .of_keyless (keyless_insertLedgerEntry _) fun _ =>
      .of_keyless (keyless_insertCreditLot _ _ _ _ _ _) fun _ => .of_keyless (houtbox _) fun _ =>
      .of_keyless (houtbox _) fun _ => .of_keyless within_get fun _ =>
      takesKey_insert fun s e herror => ?_
    -- what follows the record is written to the audit log
    unfold Txn.onlyIf at herror
    split at herror
    · cases herror
    · cases herror

end transactions

/-! ### What an earn does to the records -/

/-- A request leaves the records of other keys, and under its own key the record there was, none,
or its answer. Before a record expires, there goes on to be one. -/
structure RequestEffect (key : IdempotencyKey) (requestHash : Digest) (now : Int)
    (s t : Database) : Prop where
  others : ∀ k, k ≠ key → t.idempotency k = s.idempotency k
  own : t.idempotency key = s.idempotency key ∨ t.idempotency key = none ∨
    ∃ r response, t.idempotency key = some r ∧ r.Answers requestHash response
  unexpired : ∀ r, s.idempotency key = some r → now < r.expiresAt →
    (t.idempotency key).isSome

/-- Whatever is kept under the key answers this payload. -/
def AnswersOnly (key : IdempotencyKey) (requestHash : Digest) (s : Database) : Prop :=
  ∀ r, s.idempotency key = some r → ∃ response, r.Answers requestHash response

section effects

variable {key : IdempotencyKey} {requestHash : Digest} {now : Int} {s t : Database}

lemma RequestEffect.of_same (h : t.idempotency = s.idempotency) :
    RequestEffect key requestHash now s t :=
  ⟨fun k _ => congrFun h k, .inl (congrFun h key), fun r hr _ => by rw [h, hr]; rfl⟩

lemma RequestEffect.refl (s : Database) : RequestEffect key requestHash now s s := .of_same rfl

lemma requestEffect_dropExpired {clock : Int} (hclock : clock ≤ now) :
    RequestEffect key requestHash now s (s.dropExpired (fun k => k = key) clock) where
  others k hk := Database.dropExpired_other (by simpa using hk)
  own := by
    cases hr : s.idempotency key with
    | none => exact .inl (by simp [Database.dropExpired, hr])
    | some r =>
        by_cases hexpired : r.expiresAt ≤ clock
        · exact .inr (.inl (by simp [Database.dropExpired, hr, hexpired]))
        · exact .inl (by simpa [Database.dropExpired, hr] using hexpired)
  unexpired r hr hlater := by
    have hkept : clock < r.expiresAt := by omega
    simp [Database.dropExpired, hr, hkept]

lemma AnsweredUnder.effect {response : Response}
    (h : AnsweredUnder key requestHash response s t) : RequestEffect key requestHash now s t := by
  cases h with
  | @first r unused answers recorded =>
      have hown : t.idempotency key = some r := by rw [recorded, Function.update_self]
      refine ⟨fun k hk => ?_, .inr (.inr ⟨r, response, hown, answers⟩), fun _ _ _ => ?_⟩
      · rw [recorded, Function.update_of_ne hk]
      · rw [hown]
        rfl
  | again found answers same =>
      rw [same]
      exact .refl s

lemma AnswersOnly.replay (h : AnswersOnly key requestHash s)
    (htaken : (s.idempotency key).isSome) :
    ∃ response, findCompletedReplay s key requestHash = some response := by
  obtain ⟨r, hr⟩ := Option.isSome_iff_exists.1 htaken
  obtain ⟨response, hanswers⟩ := h r hr
  exact ⟨response, by simp [findCompletedReplay, hr, hanswers.requestHash, hanswers.responseJson]⟩

end effects

/-- What an earn does to the records, with a bound on the clock. Where the key is known to be kept
for its payload, it runs among others that leave a record under it. -/
def earnContract (known : Prop) (key : IdempotencyKey) (requestHash : Digest) :
    Contract RequestInput Database Int where
  admits s i := (known → AnswersOnly key requestHash s.1) ∧ i.now ≤ s.2
  rely s t := known → (s.1.idempotency key).isSome → (t.1.idempotency key).isSome
  guarantee s t := RequestEffect key requestHash s.2 s.1 t.1

/-- It is not refused for another payload's record. -/
def Unrefused {α : Type} (known : Prop) : Except Fault α → Prop
  | .ok _ => True
  | .error e => known → e.Unconflicted

namespace LoyaltyService

section earns

variable {rt : Runtime} {req : EarnRequest} {adm : EarnAdmission} {known : Prop}
  {s : Database × Int}

lemma catchEarn_meets {begun : EarnBegun} {e : Fault} {retry : RequestProcess Response}
    (hcode : e.Unconflicted)
    (htaken : known → e = .unique .idempotencyKey → (s.1.idempotency req.key).isSome)
    (hretry : ∀ t, retry.Meets (earnContract known req.key req.requestHash)
      (fun r _ => Unrefused known r) t) :
    (catchEarn rt req adm begun e retry).Meets (earnContract known req.key req.requestHash)
      (fun r _ => Unrefused known r) s := by
  -- a duplicate is recorded before the fault is passed on
  have hrecord : ∀ (attempt : DuplicateReceiptAttempt) (f : Fault) (u : Database × Int),
      f.Unconflicted → Process.Meets (earnContract known req.key req.requestHash)
        (fun r _ => Unrefused known r) (do
          transaction fun _ => recordDuplicateReceiptAttempt rt attempt
          fail f : RequestProcess Response) u := by
    intro attempt f u hf
    refine meets_transaction_bind fun t _ i _ => ⟨fun a v hok => ⟨?_, fun _ => hf⟩, fun e' he => ?_⟩
    · simp only [recordDuplicateReceiptAttempt, bind_ok, recordAudit_ok,
        insertOutboxEvent_ok] at hok
      obtain ⟨_, _, rfl, rfl⟩ := hok
      exact .of_same rfl
    · cases he
  have hreplay : ∀ {f : Option Response → RequestProcess Response} {u : Database × Int},
      (∀ t, (earnContract known req.key req.requestHash).rely u t →
        (known → AnswersOnly req.key req.requestHash t.1) →
        (f (findCompletedReplay t.1 req.key req.requestHash)).Meets
          (earnContract known req.key req.requestHash) (fun r _ => Unrefused known r) t) →
      (findCompletedEarnReplay req >>= f).Meets (earnContract known req.key req.requestHash)
        (fun r _ => Unrefused known r) u := fun hf =>
    meets_statement_bind fun t ht _ hi => ⟨.refl _, hf t ht hi.1⟩
  have hused : receiptAlreadyUsed.Unconflicted := unconflicted_http (by decide)
  unfold catchEarn
  split
  · exact hrecord _ _ _ hcode
  split
  · -- the record that clashed stays, and answers this payload
    refine hreplay fun t ht hi => ?_
    cases hfound : findCompletedReplay t.1 req.key req.requestHash with
    | some response => trivial
    | none =>
        intro hknown
        obtain ⟨response, hresponse⟩ := (hi hknown).replay (ht hknown (htaken hknown rfl))
        rw [hfound] at hresponse
        cases hresponse
  · refine hreplay fun t _ _ => ?_
    cases findCompletedReplay t.1 req.key req.requestHash with
    | some response => trivial
    | none =>
        cases begun.ctx with
        | none => exact fun _ => hused
        | some ctx =>
            refine meets_statement_bind fun u _ _ _ => ⟨.refl _, ?_⟩
            dsimp only
            split
            · exact hrecord _ _ _ hused
            · exact fun _ => hused
  · refine hreplay fun t _ _ => ?_
    cases findCompletedReplay t.1 req.key req.requestHash with
    | some response => trivial
    | none => exact hretry t
  · exact fun _ => hcode

/-- At its end a transaction leaves its answer, or the database as it was. -/
lemma commitEarn_cases (rt : Runtime) (req : EarnRequest) (adm : EarnAdmission) (begun : EarnBegun)
    (env : RequestInput) (db : Database) (now : Int) :
    (∃ response t, commitEarn rt req adm begun env db = (.ok response, t) ∧
      RequestEffect req.key req.requestHash now db t) ∨
    ∃ e, commitEarn rt req adm begun env db = (.error e, db) ∧ e.Unconflicted ∧
      (e = .unique .idempotencyKey → (db.idempotency req.key).isSome) := by
  have hserialization : Fault.serialization.Unconflicted := by
    simp [Fault.Unconflicted, OfflineSyncService.readDomainCode]
  have hclashed : ∀ {index}, (begun.ctx.any fun ctx => earnClash req ctx db index) = true →
      (Fault.unique index).Unconflicted ∧
        (Fault.unique index = .unique .idempotencyKey → (db.idempotency req.key).isSome) := by
    intro index hclash
    refine ⟨by simp [Fault.Unconflicted, OfflineSyncService.readDomainCode], fun heq => ?_⟩
    obtain rfl : index = .idempotencyKey := by simpa using heq
    obtain ⟨ctx, -, htaken⟩ := (Option.any_eq_true _ _).1 hclash
    exact htaken
  unfold commitEarn
  cases htx : earnTransaction rt req adm begun.now db with
  | ok x =>
      have heffect : RequestEffect req.key req.requestHash now db x.2 :=
        (earnTransaction_answered htx).effect
      cases env.commit with
      | accepted => exact .inl ⟨x.1, x.2, rfl, heffect⟩
      | refused => exact .inr ⟨_, rfl, hserialization, by simp⟩
      | clash index =>
          dsimp only
          split
          · exact .inr ⟨_, rfl, hclashed ‹_›⟩
          · exact .inl ⟨x.1, x.2, rfl, heffect⟩
  | error e =>
      cases env.commit with
      | accepted => exact .inr ⟨_, rfl, hserialization, by simp⟩
      | refused => exact .inr ⟨_, rfl, hserialization, by simp⟩
      | clash index =>
          dsimp only
          split
          · exact .inr ⟨_, rfl, hclashed ‹_›⟩
          · exact .inr ⟨_, rfl, hserialization, by simp⟩

lemma earnAttempts_meets (dto : EarnTransactionDto) (attempts : Nat) (s : Database × Int) :
    (earnAttempts rt dto req adm attempts).Meets (earnContract known req.key req.requestHash)
      (fun r _ => Unrefused known r) s := by
  induction attempts generalizing s with
  | zero => exact fun _ => unconflicted_http (by decide)
  | succ attempts ih =>
      refine meets_statement_bind fun t _ i _ => ⟨.refl _, ?_⟩
      have hbegun : ∀ e, (beginEarn rt dto req adm i.now t.1).failure = some e →
          earnTransaction rt req adm i.now t.1 = .error e := by
        intro e he
        unfold beginEarn at he
        cases htx : earnTransaction rt req adm i.now t.1 with
        | ok r => simp [htx] at he
        | error e' => simpa [htx] using he
      dsimp only
      split
      · rename_i e he
        obtain ⟨hcode, htaken⟩ := earnTransaction_takesKey rt req adm i.now _ e (hbegun e he)
        exact catchEarn_meets hcode (fun _ => htaken) ih
      · refine meets_statement_bind fun u _ j _ => ?_
        obtain ⟨response, v, hcommitted, heffect⟩ | ⟨e, hfailed, hcode, htaken⟩ :=
          commitEarn_cases rt req adm (beginEarn rt dto req adm i.now t.1) j u.1 u.2
        · rw [hcommitted]
          exact ⟨heffect, trivial⟩
        · rw [hfailed]
          exact ⟨.refl _, catchEarn_meets hcode (fun _ => htaken) ih⟩

lemma lookUpEarn_keeps {db t : Database} {found : Precheck}
    (h : lookUpEarn req db = .ok (found, t)) : t = db := by
  unfold lookUpEarn precheckRecord at h
  rw [bind_of_ok (get_ok.2 ⟨rfl, rfl⟩)] at h
  cases hr : db.idempotency req.key with
  | none =>
      simp only [hr, pure_ok] at h
      exact h.2
  | some r =>
      simp only [hr, bind_ok, rejectIf_ok] at h
      obtain ⟨_, _, ⟨-, rfl⟩, h⟩ := h
      cases hresponse : r.responseJson with
      | none => simp [hresponse] at h
      | some response =>
          simp only [hresponse, pure_ok] at h
          exact h.2

lemma lookUpEarn_unrefused {db : Database} (h : AnswersOnly req.key req.requestHash db)
    (e : Fault) :
    lookUpEarn req db ≠ .error e := by
  intro he
  unfold lookUpEarn at he
  rw [bind_of_ok (get_ok.2 ⟨rfl, rfl⟩)] at he
  cases hr : db.idempotency req.key with
  | none =>
      rw [hr] at he
      cases he
  | some r =>
      obtain ⟨response, hanswers⟩ := h r hr
      rw [hr, precheckRecord_answered _ _ hanswers, replayTo, if_pos rfl] at he
      cases he

lemma keyless_admitEarn (rt : Runtime) (req : EarnRequest) (receivedAt : Int) :
    Keyless (admitEarn rt req receivedAt) := by
  have hallowed :
      ∀ tooFar, Keyless (assertOverrideAllowed req.actor.role req.overrideReason tooFar) :=
    fun tooFar => Within.bind (within_rejectIf fun _ => keyless_badRequest _) fun _ =>
      Within.bind (within_rejectIf fun _ => keyless_badRequest _) fun _ => within_pure _
  unfold admitEarn assertPurchaseAmountAllowed assertReceiptTimestampAllowed
  refine Within.bind (within_orFault fun _ => keyless_http (by decide)) fun _ =>
    Within.bind within_get fun _ => Within.bind ?_ fun _ => Within.bind ?_ fun _ => within_pure _
  · exact Within.bind (within_rejectIf fun _ => keyless_badRequest _) fun _ =>
      within_rejectIf fun _ => keyless_badRequest _
  · exact Within.ite (fun _ => hallowed _) fun _ => Within.ite (fun _ => hallowed _) fun _ =>
      within_pure _

/-- A request is read, whatever the database is. -/
def Reads (rt : Runtime) (actor : AuthContext) (idempotencyKey : Option String)
    (dto : EarnTransactionDto) (req : EarnRequest) : Prop :=
  ∀ u, earnRequest rt actor idempotencyKey dto u = .ok (req, u)

lemma earnRequest_reads (rt : Runtime) (actor : AuthContext) (idempotencyKey : Option String)
    (dto : EarnTransactionDto) (db : Database) :
    (∃ req, Reads rt actor idempotencyKey dto req) ∨
      ∃ e, e.Unconflicted ∧ ∀ u, earnRequest rt actor idempotencyKey dto u = .error e := by
  have hkeyless : Keyless (earnRequest rt actor idempotencyKey dto) := by
    unfold earnRequest normalizeIdempotencyKey normalizeCardSerial
    refine Within.bind ?_ fun _ => Within.bind ?_ fun _ => Within.bind ?_ fun _ => within_pure _
    · exact Within.bind (within_rejectIf fun _ => keyless_badRequest _) fun _ => within_pure _
    · exact within_rejectIf fun _ => keyless_badRequest _
    · exact Within.bind (within_rejectIf fun _ => keyless_badRequest _) fun _ =>
        Within.bind (within_rejectIf fun _ => keyless_badRequest _) fun _ => within_pure _
  have hblind : Blind (earnRequest rt actor idempotencyKey dto) := by
    unfold earnRequest normalizeIdempotencyKey normalizeCardSerial
    refine Blind.bind ?_ fun _ => Blind.bind (blind_rejectIf _ _) fun _ => Blind.bind ?_ fun _ =>
      blind_pure _
    · exact (blind_rejectIf _ _).bind fun _ => blind_pure _
    · exact (blind_rejectIf _ _).bind fun _ => (blind_rejectIf _ _).bind fun _ => blind_pure _
  obtain ⟨x, hx⟩ := hblind
  cases x with
  | ok req => exact .inl ⟨req, hx⟩
  | error e => exact .inr ⟨e, (hkeyless.error (hx db)).1, hx⟩

/-- **An earn** leaves at most its answer under its key; and where the key is known to be kept for
its payload, it is not refused for another one. -/
theorem earn_meets {actor : AuthContext} {idempotencyKey : Option String} {dto : EarnTransactionDto}
    (hreads : Reads rt actor idempotencyKey dto req) :
    (earn rt actor idempotencyKey dto).Meets (earnContract known req.key req.requestHash)
      (fun r _ => Unrefused known r) s := by
  have hstart : ∀ now u, startEarn rt actor idempotencyKey dto now u =
      .ok (req, u.dropExpired (fun k => k = req.key) now) := by
    intro now u
    unfold startEarn
    rw [bind_of_ok (hreads u)]
    rfl
  unfold earn
  refine meets_transaction_bind fun t _ i hi => ⟨fun req' u hok => ?_, fun e he => ?_⟩
  · rw [hstart] at hok
    obtain ⟨rfl, rfl⟩ := Prod.mk.inj (Except.ok.inj hok)
    refine ⟨requestEffect_dropExpired hi.2, meets_transaction_bind fun t _ j hj =>
      ⟨fun found u hok => ?_, fun e he => ?_⟩⟩
    · obtain rfl := lookUpEarn_keeps hok
      refine ⟨.refl _, ?_⟩
      cases found with
      | replay response => trivial
      | proceed =>
          have hkeyless := keyless_admitEarn rt req
          refine meets_transaction_bind fun v _ k _ => ⟨fun adm w hok => ⟨?_, ?_⟩, fun e he => ?_⟩
          · exact .of_same ((hkeyless k.now).ok hok)
          · exact earnAttempts_meets dto _ _
          · exact ⟨.refl _, fun _ => ((hkeyless k.now).error he).1⟩
    · exact ⟨.refl _, fun hknown => absurd he (lookUpEarn_unrefused (hj.1 hknown) e)⟩
  · rw [hstart] at he
    cases he

/-- **An earn of a server** that keeps more than its database. Where it reads no request, it
changes nothing. -/
theorem earn_within_meets {d : Contract RequestInput SyncState Int} {actor : AuthContext}
    {idempotencyKey : Option String} {dto : EarnTransactionDto} (s : SyncState × Int)
    (hrely : ∀ req, Reads rt actor idempotencyKey dto req → ∀ t t', d.rely t t' → known →
      (t.1.db.idempotency req.key).isSome → (t'.1.db.idempotency req.key).isSome)
    (hadmits : ∀ req, Reads rt actor idempotencyKey dto req → ∀ t i, d.admits t i →
      (known → AnswersOnly req.key req.requestHash t.1.db) ∧ i.now ≤ t.2)
    (hguarantee : ∀ t db g, (db = t.1.db ∨ ∃ req, Reads rt actor idempotencyKey dto req ∧
      RequestEffect req.key req.requestHash t.2 t.1.db db) → d.guarantee t (t.1.withDb db, g)) :
    ((earn rt actor idempotencyKey dto).within SyncState.db SyncState.withDb).Meets d
      (fun r _ => Unrefused known r) s := by
  obtain ⟨req, hreads⟩ | ⟨e, hcode, hfails⟩ :=
    earnRequest_reads rt actor idempotencyKey dto s.1.db
  · refine Meets.within (c := earnContract known req.key req.requestHash) (Q := Unrefused known)
      (fun _ _ => rfl) ?_ ?_ ?_ (earn_meets hreads)
    · exact fun t t' ht hknown => hrely req hreads t t' ht hknown
    · exact fun t i hi => hadmits req hreads t i hi
    · exact fun t db g heffect => hguarantee t db g (.inr ⟨req, hreads, heffect⟩)
  · have hstart : ∀ now u, startEarn rt actor idempotencyKey dto now u = .error e := by
      intro now u
      unfold startEarn
      rw [bind_of_error (hfails u)]
    refine Meets.within (c := ⟨fun _ _ => True, fun _ _ => True, fun s t => t.1 = s.1⟩)
      (Q := Unrefused known) (fun _ _ => rfl) (fun _ _ _ => trivial) (fun _ _ _ => trivial)
      (fun t db g hsame => hguarantee t db g (.inl hsame)) ?_
    unfold earn
    refine meets_transaction_bind fun t _ i _ => ⟨fun req u hok => ?_, fun e' he => ?_⟩
    · rw [hstart] at hok
      cases hok
    · rw [hstart] at he
      obtain rfl := Except.error.inj he
      exact ⟨rfl, fun _ => hcode⟩

end earns

end LoyaltyService

/-! ### Offline batches -/

namespace OfflineSyncService

/-- The earn that a record asks for. -/
def Asks (rt : OfflineSyncRuntime) (actor : AuthContext) (record : OfflineEarnBatchRecordInput)
    (req : EarnRequest) : Prop :=
  ∃ dto, earnDto rt record = .ok dto ∧
    LoyaltyService.Reads rt.toRuntime actor (some record.idempotencyKey) dto req

/-- The result does not reject a record for another payload's record. -/
structure Unrejected (result : OfflineEarnBatchRecordResult) : Prop where
  code : result.errorCode ≠ some "IDEMPOTENCY_CONFLICT"

/-- Nor does the result that a row keeps. -/
def RowUnrejected (row : Option OfflineSyncAttempt) : Prop :=
  ∀ r ∈ row, ∀ result ∈ r.responseJson, Unrejected result

/-- The records of a batch are known to be alone under their keys. -/
structure Alone (rt : OfflineSyncRuntime) (actor : AuthContext) (deviceId : String)
    (records : List OfflineEarnBatchRecordInput) (s : SyncState) : Prop where
  keys : ∀ record ∈ records, ∀ req, Asks rt actor record req →
    AnswersOnly req.key req.requestHash s.db
  rows : ∀ record ∈ records, RowUnrejected (s.attempts (key actor deviceId record.localId))

/-- What a batch does to the idempotency records and to the rows. -/
structure BatchEffect (rt : OfflineSyncRuntime) (actor : AuthContext)
    (records : List OfflineEarnBatchRecordInput) (now : Int) (s t : SyncState) : Prop where
  db : t.db = s.db ∨ ∃ record ∈ records, ∃ req, Asks rt actor record req ∧
    RequestEffect req.key req.requestHash now s.db t.db
  rows : ∀ k, RowUnrejected (s.attempts k) → RowUnrejected (t.attempts k)

/-- Others leave a record under the key of each record of a batch. -/
def Standing (rt : OfflineSyncRuntime) (actor : AuthContext)
    (records : List OfflineEarnBatchRecordInput) (s t : SyncState) : Prop :=
  ∀ record ∈ records, ∀ req, Asks rt actor record req → (s.db.idempotency req.key).isSome →
    (t.db.idempotency req.key).isSome

def batchContract (rt : OfflineSyncRuntime) (actor : AuthContext) (deviceId : String)
    (records : List OfflineEarnBatchRecordInput) : Contract RequestInput SyncState Int where
  admits s i := Alone rt actor deviceId records s.1 ∧ i.now ≤ s.2
  rely s t := Standing rt actor records s.1 t.1
  guarantee s t := BatchEffect rt actor records s.2 s.1 t.1

/-- What holds of a result, where there is one. -/
def Yields {α : Type} (P : α → Prop) : Except Fault α → SyncState × Int → Prop
  | .ok a, _ => P a
  | .error _, _ => True

section batches

variable {rt : OfflineSyncRuntime} {actor : AuthContext} {deviceId : String}
  {policy : OfflineSyncPolicy} {records : List OfflineEarnBatchRecordInput}
  {record : OfflineEarnBatchRecordInput} {s t : SyncState}

lemma BatchEffect.refl {now : Int} (s : SyncState) : BatchEffect rt actor records now s s :=
  ⟨.inl rfl, fun _ h => h⟩

lemma earnDto_unconflicted {e : Fault} (h : earnDto rt record = .error e) : e.Unconflicted := by
  unfold earnDto normalizeReceiptNumber normalizeCardBarcode parseDate at h
  rcases Except.bind_error.1 h with h | ⟨number, -, h⟩
  · split at h
    · obtain rfl := Except.error.inj h
      exact unconflicted_badRequest _
    · cases h
  rcases Except.bind_error.1 h with h | ⟨card, -, h⟩
  · split at h
    · cases h
    · obtain rfl := Except.error.inj h
      exact unconflicted_badRequest _
  rcases Except.bind_error.1 h with h | ⟨occurredAt, -, h⟩
  · split at h
    · cases h
    · obtain rfl := Except.error.inj h
      exact unconflicted_badRequest _
  · cases h

/-- **The earn of a record** is not refused for another payload. -/
lemma delegatedEarn_meets (hrecord : record ∈ records) (s : SyncState × Int) :
    (delegatedEarn rt actor record).Meets (batchContract rt actor deviceId records)
      (fun r _ => ∀ e, r = .error e → e.Unconflicted) s := by
  unfold delegatedEarn
  cases hdto : earnDto rt record with
  | error e =>
      intro e' he
      obtain rfl := Except.error.inj he
      exact earnDto_unconflicted hdto
  | ok dto =>
      rw [ofExcept_ok_bind]
      have hearn : Process.Meets (batchContract rt actor deviceId records)
          (fun r _ => Unrefused True r)
          ((LoyaltyService.earn rt.toRuntime actor (some record.idempotencyKey) dto).within
            SyncState.db SyncState.withDb) s := by
        refine LoyaltyService.earn_within_meets s ?_ ?_ ?_
        · exact fun req hreads _ _ hrely _ => hrely record hrecord req ⟨dto, hdto, hreads⟩
        · intro req hreads t i hi
          exact ⟨fun _ => hi.1.keys record hrecord req ⟨dto, hdto, hreads⟩, hi.2⟩
        · rintro t db g (hsame | ⟨req, hreads, heffect⟩)
          · exact ⟨.inl hsame, fun _ h => h⟩
          · exact ⟨.inr ⟨record, hrecord, req, ⟨dto, hdto, hreads⟩, heffect⟩, fun _ h => h⟩
      refine hearn.weaken fun r t hr e he => ?_
      subst he
      exact hr trivial

/-- A statement that reads, and what is done with what it read. -/
lemma batch_read {α β : Type} {f : RequestInput → SyncState → α} {g : α → SyncProcess β}
    {Q : Except Fault β → SyncState × Int → Prop} {s : SyncState × Int}
    (h : ∀ (t : SyncState × Int) i, Alone rt actor deviceId records t.1 →
      (g (f i t.1)).Meets (batchContract rt actor deviceId records) Q t) :
    (statement (fun i s => (f i s, s)) >>= g).Meets (batchContract rt actor deviceId records) Q s :=
  meets_statement_bind fun t _ i hi => ⟨.refl _, h t i hi.1⟩

lemma unrejected_rejected {localId code : String} (h : code ≠ "IDEMPOTENCY_CONFLICT") :
    Unrejected (buildRejectedResult localId code) :=
  ⟨by simpa [buildRejectedResult] using h⟩

lemma unrejected_retryable {localId code : String} (h : code ≠ "IDEMPOTENCY_CONFLICT") :
    Unrejected (buildRetryableResult localId code) :=
  ⟨by simpa [buildRetryableResult] using h⟩

lemma deviceError_code {occurredAt : Int} {week code : String} {device : Option (Device × Branch)}
    (h : deviceError rt.toRuntime record occurredAt week device = some code) :
    code ≠ "IDEMPOTENCY_CONFLICT" := by
  unfold deviceError at h
  split at h
  · obtain rfl := Option.some.inj h
    decide
  · split at h
    · obtain rfl := Option.some.inj h
      decide
    · split at h
      · obtain rfl := Option.some.inj h
        decide
      · cases h

lemma cardError_code {card : Option (Card × Customer)} {code : String}
    (h : cardError card = some code) : code ≠ "IDEMPOTENCY_CONFLICT" := by
  unfold cardError at h
  split at h
  · obtain rfl := Option.some.inj h
    decide
  · split at h
    · obtain rfl := Option.some.inj h
      decide
    · split at h
      · obtain rfl := Option.some.inj h
        decide
      · cases h

lemma validateRecord_meets (s : SyncState × Int) :
    (validateRecord rt actor deviceId policy record).Meets (batchContract rt actor deviceId records)
      (Yields fun found => ∀ code ∈ found, code ≠ "IDEMPOTENCY_CONFLICT") s := by
  have hcode : ∀ {code : String}, code ≠ "IDEMPOTENCY_CONFLICT" →
      ∀ c ∈ some code, c ≠ "IDEMPOTENCY_CONFLICT" := by
    rintro code h c ⟨⟩
    exact h
  unfold validateRecord
  split
  · exact hcode (by decide)
  split
  · exact hcode (by decide)
  cases parseDate rt record.occurredAtLocal "occurredAtLocal" with
  | error e => trivial
  | ok occurredAt =>
      rw [ofExcept_ok_bind]
      refine batch_read fun t i _ => ?_
      split
      · exact hcode (by decide)
      refine batch_read fun u j _ => ?_
      cases normalizeReceiptWeekStart record.receiptWeekStart with
      | error e => trivial
      | ok week =>
          rw [ofExcept_ok_bind]
          split
          · exact hcode (deviceError_code ‹_›)
          cases normalizeCardBarcode rt.toRuntime record.cardBarcode with
          | error e => trivial
          | ok barcode =>
              rw [ofExcept_ok_bind]
              exact batch_read fun v k _ => fun code hcard => cardError_code hcard

lemma persistResult_meets {k : OfflineAttemptKey} {result : OfflineEarnBatchRecordResult}
    (hresult : Unrejected result) (s : SyncState × Int) :
    (persistResult k result).Meets (batchContract rt actor deviceId records) (Yields Unrejected)
      s := by
  intro t _ i _
  cases hrow : t.1.attempts k with
  | none =>
      simp only [hrow]
      exact ⟨t.2, .refl _, trivial⟩
  | some row =>
      simp only [hrow]
      refine ⟨t.2, ⟨.inl rfl, fun k' hk' => ?_⟩, hresult⟩
      by_cases hsame : k' = k
      · subst hsame
        rintro r hr x hx
        have hr' : some (OfflineSyncAttempt.withResult row result i.now) = some r := by
          simpa [SyncState.withAttempt] using hr
        obtain rfl := Option.some.inj hr'
        obtain rfl := Option.some.inj hx
        exact hresult
      · simpa [SyncState.withAttempt, hsame] using hk'

lemma mapEarnFailure_unrejected {localId : String} {e : Fault} (h : e.Unconflicted) :
    Unrejected (mapEarnFailure localId e) := by
  unfold Fault.Unconflicted at h
  unfold mapEarnFailure
  generalize readDomainCode e = code at h ⊢
  dsimp only
  split
  · exact unrejected_retryable (by decide)
  split
  · exact unrejected_rejected (by decide)
  split
  · exact unrejected_rejected (by decide)
  split
  · exact unrejected_rejected (by decide)
  · refine unrejected_retryable ?_
    cases code with
    | none => decide
    | some c => simpa using h

lemma earnResult_unrejected (localId : String) (response : Response) :
    Unrejected (earnResult localId response) := by
  unfold earnResult
  split
  · split
    · exact ⟨by simp [pendingResult]⟩
    · exact ⟨by simp [confirmedResult]⟩
  · exact ⟨by simp [confirmedResult]⟩

/-- What holds of the earn of a record that is alone under its key. -/
def Earned : Except Fault OfflineEarnBatchRecordResult → SyncState × Int → Prop
  | .ok result, _ => Unrejected result
  | .error e, _ => e.Unconflicted

lemma earning_meets {localId : String} {p : SyncProcess Response} {s : SyncState × Int}
    (h : p.Meets (batchContract rt actor deviceId records)
      (fun r _ => ∀ e, r = .error e → e.Unconflicted) s) :
    (Process.catching (do
        let response ← p
        pure (earnResult localId response)) fun e =>
          pure (mapEarnFailure localId e) : SyncProcess _).Meets
      (batchContract rt actor deviceId records) (Yields Unrejected) s := by
  have hearned : (p >>= fun response =>
      (pure (earnResult localId response) : SyncProcess _)).Meets
        (batchContract rt actor deviceId records) Earned s := by
    refine Meets.bind h (fun response u _ => ?_) fun e _ he => he e rfl
    exact meets_pure (Q := Earned) (earnResult_unrejected localId response)
  refine Meets.catching hearned (fun result u hresult => hresult) fun e u he => ?_
  exact meets_pure (Q := Yields Unrejected) (mapEarnFailure_unrejected he)

lemma submitRecord_meets (hrecord : record ∈ records) (s : SyncState × Int) :
    (submitRecord rt actor deviceId policy record).Meets (batchContract rt actor deviceId records)
      (Yields Unrejected) s := by
  unfold submitRecord
  refine (validateRecord_meets s).bind (fun found t hfound => ?_) fun _ _ _ => trivial
  cases found with
  | some code =>
      have hcode : code ≠ "IDEMPOTENCY_CONFLICT" := hfound code rfl
      exact persistResult_meets (unrejected_rejected hcode) t
  | none =>
      have hearn : (delegatedEarn rt actor record).Meets
          (batchContract rt actor deviceId records)
          (fun r _ => ∀ e, r = .error e → e.Unconflicted) t := delegatedEarn_meets hrecord t
      -- the process is not unfolded where only its contract counts
      generalize delegatedEarn rt actor record = p at hearn ⊢
      refine (earning_meets hearn).bind (fun result u hresult => ?_) fun _ _ _ => trivial
      have hunrejected : Unrejected result := hresult
      exact persistResult_meets hunrejected u

lemma waitForOfflineSyncReplay_meets {h : Digest} (attempts : Nat)
    (hrecord : record ∈ records) (s : SyncState × Int) :
    (waitForOfflineSyncReplay (key actor deviceId record.localId) h attempts).Meets
      (batchContract rt actor deviceId records)
      (Yields fun replay => ∀ result ∈ replay, Unrejected result) s := by
  induction attempts generalizing s with
  | zero => exact fun _ hresult => by cases hresult
  | succ attempts ih =>
      refine batch_read fun t i hi => ?_
      have hrow := hi.rows record hrecord
      split
      · exact fun _ hresult => by cases hresult
      · rename_i row hfound
        split
        · exact fun _ hresult => by cases hresult
        split
        · rename_i response hresponse
          exact fun result hresult => hrow row hfound result (hresponse.trans hresult)
        · exact ih t

lemma replayAttempt_meets {h : Digest} {row : OfflineSyncAttempt} (hrecord : record ∈ records)
    (hrow : ∀ result ∈ row.responseJson, Unrejected result) (s : SyncState × Int) :
    (replayAttempt (key actor deviceId record.localId) h record.localId row).Meets
      (batchContract rt actor deviceId records) (Yields Unrejected) s := by
  unfold replayAttempt
  split
  · exact unrejected_rejected (by decide)
  split
  · exact hrow _ ‹_›
  · refine (waitForOfflineSyncReplay_meets _ hrecord s).bind (fun replay t hreplay => ?_)
      fun _ _ _ => trivial
    cases replay with
    | some response => exact hreplay response rfl
    | none => exact unrejected_retryable (by decide)

/-- **A record** that is alone under its key is not rejected for another one. -/
theorem processRecord_meets (hrecord : record ∈ records) (s : SyncState × Int) :
    (processRecord rt actor deviceId policy record).Meets (batchContract rt actor deviceId records)
      (Yields Unrejected) s := by
  unfold processRecord
  cases requestHash rt.toRuntime actor deviceId record with
  | error e => trivial
  | ok h =>
      rw [ofExcept_ok_bind]
      have hfound : ∀ (f : Option OfflineSyncAttempt → SyncProcess OfflineEarnBatchRecordResult)
          (s : SyncState × Int), (∀ t, (f none).Meets (batchContract rt actor deviceId records)
            (Yields Unrejected) t) →
          (∀ row, f (some row) = replayAttempt (key actor deviceId record.localId) h record.localId
            row) →
          (findAttempt (key actor deviceId record.localId) >>= f).Meets
            (batchContract rt actor deviceId records) (Yields Unrejected) s := by
        intro f s hnone hsome
        refine batch_read fun t i hi => ?_
        cases hrow : t.1.attempts (key actor deviceId record.localId) with
        | none => exact hnone t
        | some row =>
            rw [hsome]
            exact replayAttempt_meets hrecord (hi.rows record hrecord row hrow) t
      refine hfound _ s (fun t => ?_) fun row => rfl
      dsimp only
      cases hnew : newAttempt rt h record with
      | error e => trivial
      | ok row =>
          rw [ofExcept_ok_bind]
          refine meets_statement_bind fun u _ i _ => ?_
          cases hrow : u.1.attempts (key actor deviceId record.localId) with
          | some old =>
              simp only [Option.isSome_some, if_true]
              refine ⟨.refl _, hfound _ _ (fun _ => trivial) fun row => rfl⟩
          | none =>
              simp only [Option.isSome_none, Bool.false_eq_true, if_false]
              refine ⟨⟨.inl rfl, fun k hk => ?_⟩, submitRecord_meets hrecord _⟩
              by_cases hsame : k = key actor deviceId record.localId
              · subst hsame
                rintro r hr result hresult
                obtain rfl : row = r := by simpa [SyncState.withAttempt] using hr
                rw [newAttempt_unanswered hnew] at hresult
                cases hresult
              · simpa [SyncState.withAttempt, hsame] using hk

/-- **A batch** whose records are alone under their keys gets no conflict. -/
theorem earnBatch_meets (rt : OfflineSyncRuntime) (actor : AuthContext)
    (request : OfflineEarnBatchRequest) (s : SyncState × Int) :
    (earnBatch rt actor request).Meets (batchContract rt actor request.deviceId request.records)
      (Yields fun response => ∀ result ∈ response.records, Unrejected result) s := by
  unfold earnBatch
  split
  · trivial
  · have hloop := Triple.collect
      (c := batchContract rt actor request.deviceId request.records)
      (I := fun _ results _ => ∀ result ∈ results, Unrejected result)
      (E := fun (_ : Fault) _ => True)
      (f := processRecord rt actor request.deviceId (getOfflineSyncPolicy rt))
      (l := request.records) fun _ results record hrecord t hresults => by
        refine (processRecord_meets hrecord t).weaken fun r u hr => ?_
        cases r with
        | error e => trivial
        | ok result =>
            intro x hx
            rcases List.mem_append.1 hx with hx | hx
            · exact hresults x hx
            · obtain rfl := List.mem_singleton.1 hx
              exact hr
    refine (hloop s fun _ hresult => by cases hresult).bind (fun results t hresults => ?_)
      fun _ _ _ => trivial
    exact hresults

end batches

end OfflineSyncService

end ShopcityLoyalty
