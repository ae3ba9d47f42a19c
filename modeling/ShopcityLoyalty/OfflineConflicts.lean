import ShopcityLoyalty.EarnConflicts
import ShopcityLoyalty.OfflineKeys

/-!
A till and the server: the earn form with its stored records, its requests on their way, and the
processes that earn them.

The server refuses a key where its record was made for another content. So whatever was asked
under the key of a stored record has to have the record's content, from before the record is
stored on.
-/

namespace ShopcityLoyalty

open Process OfflineSyncService

/-! ### What the server reads of a purchase -/

/-- What a request to earn is recognised by, besides the session. -/
structure EarnContent where
  cardSerialNumber : String
  normalizedPosReceiptNumber : String
  purchaseAmountKobo : Int
  occurredAt : Int
  overrideReason : Option String
  deriving DecidableEq

def EarnRequest.content (req : EarnRequest) : EarnContent where
  cardSerialNumber := req.cardSerialNumber
  normalizedPosReceiptNumber := req.normalizedPosReceiptNumber
  purchaseAmountKobo := req.purchaseAmountKobo
  occurredAt := req.occurredAt
  overrideReason := req.overrideReason

/-- The content of a request, where the server reads it. -/
def EarnTransactionDto.content (rt : Runtime) (dto : EarnTransactionDto) : Option EarnContent := do
  let cardSerialNumber ← (normalizeCardBarcode rt dto.cardSerialNumber).toOption
  let posReceiptNumber ← (normalizeReceiptNumber dto.posReceiptNumber).toOption
  pure
    { cardSerialNumber
      normalizedPosReceiptNumber := normalizeReceiptIdentity rt posReceiptNumber
      purchaseAmountKobo := dto.purchaseAmountKobo
      occurredAt := dto.occurredAt
      overrideReason := dto.overrideReason.map trim }

def OfflineEarnRecord.content (rt : OfflineSyncRuntime) (record : OfflineEarnRecord) :
    Option EarnContent :=
  (earnDto rt record.input).toOption.bind (·.content rt.toRuntime)

/-- The body as the service takes it. -/
def EarnTransactionPayload.dto (rt : OfflineSyncRuntime) (payload : EarnTransactionPayload) :
    Except Fault EarnTransactionDto := do
  let occurredAt ← parseDate rt payload.occurredAt "occurredAt"
  pure
    { cardSerialNumber := payload.cardSerialNumber
      posReceiptNumber := payload.posReceiptNumber
      purchaseAmountKobo := payload.purchaseAmountKobo
      occurredAt
      overrideReason := payload.overrideReason }

def EarnTransactionPayload.content (rt : OfflineSyncRuntime) (payload : EarnTransactionPayload) :
    Option EarnContent :=
  (payload.dto rt).toOption.bind (·.content rt.toRuntime)

namespace EarnContent

/-- The key a session's requests are kept under. -/
def keyOf (actor : AuthContext) (idempotencyKey : String) : IdempotencyKey :=
  ⟨actor.tenantId, actor.id, .earn, idempotencyKey⟩

def requestHash (content : EarnContent) (actor : AuthContext) : Digest :=
  sha256 (LoyaltyService.earnRequestText actor content.cardSerialNumber
    content.normalizedPosReceiptNumber
    ⟨content.cardSerialNumber, content.normalizedPosReceiptNumber, content.purchaseAmountKobo,
      content.occurredAt, content.overrideReason⟩ content.overrideReason)

/-- The same content, where the server reads both. -/
def Agree (content content' : Option EarnContent) : Prop :=
  ∀ c ∈ content, ∀ c' ∈ content', c = c'

instance (content content' : Option EarnContent) : Decidable (Agree content content') :=
  inferInstanceAs (Decidable (∀ c ∈ content, ∀ c' ∈ content', c = c'))

lemma requestHash_session {content : EarnContent} {actor actor' : AuthContext}
    (htenant : actor.tenantId = actor'.tenantId) (hid : actor.id = actor'.id)
    (hdevice : actor.deviceId = actor'.deviceId) :
    content.requestHash actor = content.requestHash actor' := by
  unfold requestHash LoyaltyService.earnRequestText
  rw [htenant, hid, hdevice]

end EarnContent

section contents

open EarnContent

variable {rt : OfflineSyncRuntime} {actor : AuthContext} {req : EarnRequest}

lemma normalizeCardBarcode_of {rt : Runtime} {value card : String} {s t : Database}
    (h : (normalizeCardSerial rt value : Txn Database Fault String) s = .ok (card, t)) :
    normalizeCardBarcode rt value = .ok card := by
  have hread : (normalizeCardSerial rt value : Txn Unit Fault String) () = .ok (card, ()) := by
    simp only [normalizeCardSerial, Txn.bind_ok, Txn.rejectIf_ok, Txn.pure_ok] at h ⊢
    obtain ⟨u, _, ⟨hsome, -⟩, v, _, ⟨hchars, -⟩, rfl, -⟩ := h
    exact ⟨u, (), ⟨hsome, trivial⟩, v, (), ⟨hchars, trivial⟩, rfl, trivial⟩
  rw [normalizeCardBarcode, hread]

lemma earnRequest_content {rt : Runtime} {idempotencyKey : String} {dto : EarnTransactionDto}
    {s t : Database}
    (h : LoyaltyService.earnRequest rt actor (some idempotencyKey) dto s = .ok (req, t)) :
    req.key = keyOf actor (trim idempotencyKey) ∧
      req.requestHash = req.content.requestHash actor ∧ dto.content rt = some req.content := by
  simp only [LoyaltyService.earnRequest, Txn.bind_ok, Txn.pure_ok, Txn.rejectIf_ok] at h
  obtain ⟨key, _, hkey, _, _, ⟨hreceipt, rfl⟩, card, _, hcard, rfl, -⟩ := h
  simp only [normalizeIdempotencyKey, Txn.bind_ok, Txn.pure_ok, Txn.rejectIf_ok] at hkey
  obtain ⟨_, _, -, rfl, -⟩ := hkey
  refine ⟨rfl, rfl, ?_⟩
  have hnumber : normalizeReceiptNumber dto.posReceiptNumber = .ok (trim dto.posReceiptNumber) :=
    if_neg hreceipt
  rw [EarnTransactionDto.content, normalizeCardBarcode_of hcard, hnumber]
  rfl

lemma OfflineSyncService.Asks.content {record : OfflineEarnRecord} (db : Database)
    (h : Asks rt actor record.input req) :
    req.key = keyOf actor (trim record.idempotencyKey) ∧
      req.requestHash = req.content.requestHash actor ∧
      record.content rt = some req.content := by
  obtain ⟨dto, hdto, hreads⟩ := h
  obtain ⟨hkey, hhash, hcontent⟩ := earnRequest_content (hreads db)
  refine ⟨hkey, hhash, ?_⟩
  rw [OfflineEarnRecord.content, hdto]
  exact hcontent

lemma content_of_purchase {r r' : OfflineEarnRecord} (h : r.purchase = r'.purchase) :
    r.content rt = r'.content rt := by
  simp only [OfflineEarnRecord.purchase, Purchase.mk.injEq] at h
  obtain ⟨hcard, hreceipt, hamount, hoccurred⟩ := h
  simp only [OfflineEarnRecord.content, earnDto, OfflineEarnRecord.input, hcard, hreceipt, hamount,
    hoccurred]

end contents

/-! ### The server's processes -/

/-- A request of the form as it arrives, in a session. -/
structure EarnCall where
  actor : AuthContext
  idempotencyKey : String
  payload : EarnTransactionPayload
  deriving DecidableEq

def EarnCall.process (rt : OfflineSyncRuntime) (call : EarnCall) : RequestProcess Unit := do
  let dto ← ofExcept (call.payload.dto rt)
  let _ ← LoyaltyService.earn rt.toRuntime call.actor (some call.idempotencyKey) dto
  pure ()

/-- The earn that a request asks for. -/
def EarnCall.Asks (rt : OfflineSyncRuntime) (call : EarnCall) (req : EarnRequest) : Prop :=
  ∃ dto, call.payload.dto rt = .ok dto ∧
    LoyaltyService.Reads rt.toRuntime call.actor (some call.idempotencyKey) dto req

abbrev TillTask := ServerTask EarnCall

namespace TillTask

/-- The keys that a process may earn under. -/
def keys : TillTask → List IdempotencyKey
  | .earnBatch actor request =>
      request.records.map fun record => EarnContent.keyOf actor (trim record.idempotencyKey)
  | .other call => [EarnContent.keyOf call.actor (trim call.idempotencyKey)]

def Asks (rt : OfflineSyncRuntime) : TillTask → EarnRequest → Prop
  | .earnBatch actor request, req =>
      ∃ record ∈ request.records, OfflineSyncService.Asks rt actor record req
  | .other call, req => call.Asks rt req

/-- What a process does to the idempotency records and to the rows. -/
structure Effect (rt : OfflineSyncRuntime) (task : TillTask) (now : Int) (s t : SyncState) :
    Prop where
  db : t.db = s.db ∨ ∃ req, task.Asks rt req ∧
    RequestEffect req.key req.requestHash now s.db t.db
  rows : ∀ k, RowUnrejected (s.attempts k) → RowUnrejected (t.attempts k)

/-- A batch is among others that leave it its records; a single earn is among any. -/
def contract (rt : OfflineSyncRuntime) : TillTask → Contract RequestInput SyncState Int
  | .earnBatch actor request => batchContract rt actor request.deviceId request.records
  | .other call =>
      { admits := fun s i => i.now ≤ s.2
        rely := fun _ _ => True
        guarantee := fun s t => Effect rt (.other call) s.2 s.1 t.1 }

/-- No record of an answered batch is rejected for another payload. -/
def Unconflicted : Except Fault (Option OfflineEarnBatchResponse) → Prop
  | .ok (some response) => ∀ result ∈ response.records, Unrejected result
  | _ => True

section meets

variable {rt : OfflineSyncRuntime} {task : TillTask} {s t : SyncState × Int}

lemma call_content {call : EarnCall} {req : EarnRequest} (db : Database) (h : call.Asks rt req) :
    req.key = EarnContent.keyOf call.actor (trim call.idempotencyKey) ∧
      req.requestHash = req.content.requestHash call.actor ∧
      call.payload.content rt = some req.content := by
  obtain ⟨dto, hdto, hreads⟩ := h
  obtain ⟨hkey, hhash, hcontent⟩ := earnRequest_content (hreads db)
  refine ⟨hkey, hhash, ?_⟩
  rw [EarnTransactionPayload.content, hdto]
  exact hcontent

lemma contract_closed : (task.contract rt).Closed := by
  cases task with
  | earnBatch actor request =>
      refine ⟨fun s record _ req _ h => h, fun s t u hst htu record hrecord req hasks h => ?_⟩
      exact htu record hrecord req hasks (hst record hrecord req hasks h)
  | other call => exact ⟨fun _ => trivial, fun _ _ _ _ _ => trivial⟩

lemma rely_same (h : t.1 = s.1) : (task.contract rt).rely s t := by
  cases task with
  | earnBatch actor request =>
      intro record _ req _ hkept
      rw [h]
      exact hkept
  | other call => trivial

lemma effect_of_guarantee (h : (task.contract rt).guarantee s t) :
    Effect rt task s.2 s.1 t.1 := by
  cases task with
  | earnBatch actor request =>
      refine ⟨?_, h.rows⟩
      rcases h.db with hsame | ⟨record, hrecord, req, hasks, heffect⟩
      · exact .inl hsame
      · exact .inr ⟨req, ⟨record, hrecord, hasks⟩, heffect⟩
  | other call => exact h

lemma Asks.mem_keys {req : EarnRequest} (db : Database) (h : task.Asks rt req) :
    req.key ∈ task.keys := by
  cases task with
  | earnBatch actor request =>
      obtain ⟨record, hrecord, dto, -, hreads⟩ := h
      exact List.mem_map.2 ⟨record, hrecord, (earnRequest_content (hreads db)).1.symm⟩
  | other call => exact List.mem_singleton.2 (call_content db h).1

lemma process_meets (call : EarnCall) :
    ((call.process rt).within SyncState.db SyncState.withDb).Meets
      (contract rt (.other call)) (fun _ _ => True) s := by
  unfold EarnCall.process
  cases hdto : call.payload.dto rt with
  | error e => trivial
  | ok dto =>
      rw [ofExcept_ok_bind, within_bind]
      have hearn : Process.Meets (contract rt (.other call)) (fun r _ => Unrefused False r)
          ((LoyaltyService.earn rt.toRuntime call.actor (some call.idempotencyKey) dto).within
            SyncState.db SyncState.withDb) s := by
        refine LoyaltyService.earn_within_meets s (fun _ _ _ _ _ h => h.elim) ?_ ?_
        · exact fun req hreads t i hi => ⟨False.elim, hi⟩
        · rintro t db g (hsame | ⟨req, hreads, heffect⟩)
          · exact ⟨.inl hsame, fun _ h => h⟩
          · exact ⟨.inr ⟨req, ⟨dto, hdto, hreads⟩, heffect⟩, fun _ h => h⟩
      exact hearn.bind (fun _ _ _ => trivial) fun _ _ _ => trivial

/-- **Every process of the server** meets its contract. -/
theorem serve_meets (rt : OfflineSyncRuntime) (task : TillTask) (s : SyncState × Int) :
    (serve rt (EarnCall.process rt) task).Meets (task.contract rt)
      (fun r _ => Unconflicted r) s := by
  cases task with
  | earnBatch actor request =>
      have hbatch := earnBatch_meets rt actor request s
      have hserve : serve rt (EarnCall.process rt) (.earnBatch actor request) =
        earnBatch rt actor request >>= fun response => pure (some response) := rfl
      rw [hserve]
      generalize earnBatch rt actor request = p at hbatch ⊢
      exact hbatch.bind (fun response t h => h) fun _ _ _ => trivial
  | other call =>
      have hcall : ((call.process rt).within SyncState.db SyncState.withDb).Meets
          (contract rt (.other call)) (fun _ _ => True) s := process_meets call
      have hserve : serve rt (EarnCall.process rt) (.other call) =
        (call.process rt).within SyncState.db SyncState.withDb >>= fun _ => pure none := rfl
      rw [hserve]
      generalize (call.process rt).within SyncState.db SyncState.withDb = p at hcall ⊢
      exact hcall.bind (fun _ _ _ => trivial) fun _ _ _ => trivial

end meets

end TillTask

/-! ### The till -/

/-- The form, its requests on their way to the server, and the server. -/
structure OfflineTill where
  page : EarnPage
  sent : List EarnSubmission
  server : Server EarnCall

inductive TillEvent
  | form (event : EarnEvent)
  /-- A request comes to the server, in a session. -/
  | arrives (actor : AuthContext) (request : EarnSubmission)
  | lost (request : EarnSubmission)
  /-- Stored records are submitted. -/
  | submits (actor : AuthContext) (request : OfflineEarnBatchRequest)
  | serves (number : Nat) (input : RequestInput)
  | stops (number : Nat)
  /-- What others do on the server. -/
  | elsewhere (state : SyncState)

def EarnSubmission.call (request : EarnSubmission) (actor : AuthContext) : EarnCall :=
  ⟨actor, request.idempotencyKey, request.payload⟩

namespace OfflineTill

open EarnContent TillTask

/-- A step of the server's pool. -/
def poolStep (rt : OfflineSyncRuntime) (t : OfflineTill) (event : PoolEvent TillTask RequestInput) :
    Option OfflineTill :=
  (t.server.step (serve rt (EarnCall.process rt)) event).map fun server => { t with server }

def step (browser : Browser) (rt : OfflineSyncRuntime) (t : OfflineTill) :
    TillEvent → Option OfflineTill
  | .form event =>
      some { t with
        page := t.page.step browser event
        sent := t.sent ++ t.page.sends browser event }
  | .arrives actor request =>
      if request ∈ t.sent then
        poolStep rt { t with sent := t.sent.erase request } (.start (.other (request.call actor)))
      else none
  | .lost request => some { t with sent := t.sent.erase request }
  | .submits actor request =>
      if ∀ record ∈ request.records, ∃ r ∈ t.page.records, record = r.input then
        t.poolStep rt (.start (.earnBatch actor request))
      else none
  | .serves number input => t.poolStep rt (.advance number input)
  | .stops number => t.poolStep rt (.crash number)
  | .elsewhere state => some { t with server := { t.server with state } }

/-- Others leave what is kept under the identifiers that this device draws. -/
structure Elsewhere (browser : Browser) (s t : SyncState) : Prop where
  keys : ∀ k i, k.endpoint = .earn → k.idempotencyKey = browser.randomUUID i →
    t.db.idempotency k = s.db.idempotency k
  rows : ∀ k i, k.localId = browser.randomUUID i → t.attempts k = s.attempts k

/-- What others do is restricted; the rest may come in any order. -/
def Possible (browser : Browser) (t : OfflineTill) : TillEvent → Prop
  | .elsewhere state => Elsewhere browser t.server.state state
  | _ => True

/-- Whatever was asked under the key of a record says what the record says: requests on their way,
those that the server is at, and those it has answered. -/
structure Settled (rt : OfflineSyncRuntime) (deviceId : Option String) (t : OfflineTill)
    (record : OfflineEarnRecord) : Prop where
  sent : ∀ x ∈ t.sent, x.idempotencyKey = record.idempotencyKey →
    Agree (x.payload.content rt) (record.content rt)
  running : ∀ n call, t.server.Active n (.other call) →
    call.idempotencyKey = record.idempotencyKey →
      Agree (call.payload.content rt) (record.content rt)
  answered : ∀ actor, actor.deviceId = deviceId → ∀ c ∈ record.content rt,
    AnswersOnly (keyOf actor record.idempotencyKey) (c.requestHash actor) t.server.state.db

/-- No record that a running batch has its answer from has expired when another process with its
key goes on. -/
def Unexpired (t : OfflineTill) (n : Nat) (now : Int) : Prop :=
  ∀ m task actor request, n ≠ m → t.server.Active n task →
    t.server.Active m (.earnBatch actor request) →
    ∀ k ∈ TillTask.keys (.earnBatch actor request), k ∈ TillTask.keys task →
      ∀ r, t.server.state.db.idempotency k = some r → now < r.expiresAt

/-- The form is used carefully; a request under the key of a stored record says what the record
says; a record is stored where whatever was asked under its key does; the sessions are those of
one device; and no answer expires while a batch may need it. -/
def Careful (browser : Browser) (rt : OfflineSyncRuntime) (deviceId : Option String)
    (t : OfflineTill) : TillEvent → Prop
  | .form event => t.page.Careful event ∧
      (∀ x ∈ t.page.sends browser event, ∀ r ∈ t.page.records,
        r.idempotencyKey = x.idempotencyKey → Agree (x.payload.content rt) (r.content rt)) ∧
      ∀ record ∈ t.page.saves browser event, t.Settled rt deviceId record
  | .arrives actor _ => actor.deviceId = deviceId
  | .submits actor _ => actor.deviceId = deviceId
  | .serves number input => t.Unexpired number input.now
  | _ => True

/-- Any number of steps under a condition. -/
abbrev StepsUnder (browser : Browser) (rt : OfflineSyncRuntime)
    (P : OfflineTill → TillEvent → Prop) : OfflineTill → OfflineTill → Prop :=
  Runs (fun event t t' => t.step browser rt event = some t')
    fun t event => t.Possible browser event ∧ P t event

/-- The form is opened on an empty device. -/
def opened (browser : Browser) (props : EarnTransactionControllerProps) (now : Int)
    (s : SyncState) : OfflineTill where
  page := .opened browser props now
  sent := []
  server := .initial s

/-- Nothing is kept yet under the identifiers that the device will draw. -/
structure Unused (browser : Browser) (s : SyncState) : Prop where
  keys : ∀ k i, k.idempotencyKey = browser.randomUUID i → s.db.idempotency k = none
  rows : ∀ k i, k.localId = browser.randomUUID i → s.attempts k = none

/-- Different purchases are stored under different keys, and no batch of stored records was
answered with a conflict. -/
structure Distinguished (t : OfflineTill) : Prop where
  keys : DistinctKeys t.page.records
  batches : ∀ (n : Nat) actor request (response : OfflineEarnBatchResponse),
    t.server.tasks[n]? = some (.earnBatch actor request, some (.done (some response))) →
      ∀ result ∈ response.records, result.errorCode ≠ some "IDEMPOTENCY_CONFLICT"

/-! ### What every step keeps -/

/-- A request under a drawn key, which says what the stored records under it say. -/
structure Asked (browser : Browser) (rt : OfflineSyncRuntime) (page : EarnPage) (key : String)
    (payload : EarnTransactionPayload) : Prop where
  drawn : EarnPage.Drawn browser page.drawn key
  agree : ∀ r ∈ page.records, r.idempotencyKey = key → Agree (payload.content rt) (r.content rt)

structure Kept (browser : Browser) (rt : OfflineSyncRuntime) (deviceId : Option String)
    (t : OfflineTill) : Prop where
  page : t.page.Sound browser
  localIds : ∀ r ∈ t.page.records, EarnPage.Drawn browser t.page.drawn r.localId
  sent : ∀ x ∈ t.sent, Asked browser rt t.page x.idempotencyKey x.payload
  calls : ∀ n call, t.server.Active n (.other call) → call.actor.deviceId = deviceId ∧
    Asked browser rt t.page call.idempotencyKey call.payload
  batches : ∀ n actor request, t.server.Active n (.earnBatch actor request) →
    actor.deviceId = deviceId ∧ ∀ record ∈ request.records, ∃ r ∈ t.page.records, record = r.input
  under : ∃ now, t.server.UnderPost (fun _ => TillTask.contract rt)
    (fun _ _ r _ => TillTask.Unconflicted r) now
  answered : ∀ r ∈ t.page.records, ∀ actor, actor.deviceId = deviceId → ∀ c ∈ r.content rt,
    AnswersOnly (keyOf actor r.idempotencyKey) (c.requestHash actor) t.server.state.db
  rows : ∀ k i, k.localId = browser.randomUUID i → RowUnrejected (t.server.state.attempts k)

section kept

variable {browser : Browser} {rt : OfflineSyncRuntime} {deviceId : Option String}
  {t t' : OfflineTill}

lemma Kept.under_at (h : t.Kept browser rt deviceId) (now : Int) :
    t.server.UnderPost (fun _ => TillTask.contract rt) (fun _ _ r _ => TillTask.Unconflicted r)
      now := by
  obtain ⟨g, hunder⟩ := h.under
  exact fun m l p hp => (hunder m l p hp).moved contract_closed fun _ => rely_same rfl

/-- The request of a process under the key of a stored record has the record's hash. -/
lemma Kept.same_hash (htrim : ∀ i, trim (browser.randomUUID i) = browser.randomUUID i)
    (h : t.Kept browser rt deviceId) {n : Nat} {task : TillTask} (hactive : t.server.Active n task)
    {req : EarnRequest} (hasks : TillTask.Asks rt task req) {r : OfflineEarnRecord}
    (hr : r ∈ t.page.records) {actor : AuthContext} (hdevice : actor.deviceId = deviceId)
    {c : EarnContent} (hc : c ∈ r.content rt) (hkey : req.key = keyOf actor r.idempotencyKey) :
    req.requestHash = c.requestHash actor := by
  have htrim' : ∀ {m key}, EarnPage.Drawn browser m key → trim key = key := by
    rintro m key ⟨i, -, rfl⟩
    exact htrim i
  cases task with
  | earnBatch actor' request =>
      obtain ⟨record, hrecord, hask⟩ := hasks
      obtain ⟨hdevice', hstored⟩ := h.batches n actor' request hactive
      obtain ⟨r', hr', rfl⟩ := hstored record hrecord
      obtain ⟨hkey', hhash, hcontent⟩ := hask.content t.server.state.db
      rw [htrim' (h.page.recorded r' hr'), hkey] at hkey'
      obtain ⟨htenant, hid, -, hsame⟩ := IdempotencyKey.mk.inj hkey'
      have hpurchase := h.page.distinct r hr r' hr' hsame
      rw [content_of_purchase hpurchase, hcontent] at hc
      obtain rfl := Option.some.inj hc
      rw [hhash]
      exact requestHash_session htenant.symm hid.symm (hdevice'.trans hdevice.symm)
  | other call =>
      obtain ⟨hdevice', hasked⟩ := h.calls n call hactive
      obtain ⟨hkey', hhash, hcontent⟩ := call_content t.server.state.db hasks
      rw [htrim' hasked.drawn, hkey] at hkey'
      obtain ⟨htenant, hid, -, hsame⟩ := IdempotencyKey.mk.inj hkey'
      have hagree : req.content = c := hasked.agree r hr hsame _ hcontent _ hc
      rw [hhash, hagree]
      exact requestHash_session htenant.symm hid.symm (hdevice'.trans hdevice.symm)

/-! #### The server's statements -/

section serves

variable {n : Nat} {task : TillTask} {now : Int} {s : SyncState}

lemma Kept.still_answered (htrim : ∀ i, trim (browser.randomUUID i) = browser.randomUUID i)
    (h : t.Kept browser rt deviceId) (hactive : t.server.Active n task)
    (heffect : TillTask.Effect rt task now t.server.state s) {r : OfflineEarnRecord}
    (hr : r ∈ t.page.records) {actor : AuthContext} (hdevice : actor.deviceId = deviceId)
    {c : EarnContent} (hc : c ∈ r.content rt) :
    AnswersOnly (keyOf actor r.idempotencyKey) (c.requestHash actor) s.db := by
  have hold := h.answered r hr actor hdevice c hc
  rcases heffect.db with hsame | ⟨req, hasks, heffect⟩
  · rw [hsame]
    exact hold
  by_cases hkey : req.key = keyOf actor r.idempotencyKey
  · have hhash := h.same_hash htrim hactive hasks hr hdevice hc hkey
    rw [← hkey, ← hhash] at hold ⊢
    intro x hx
    rcases heffect.own with hsame | hnone | ⟨y, response, hy, hanswers⟩
    · exact hold x (hsame ▸ hx)
    · rw [hnone] at hx
      cases hx
    · obtain rfl := Option.some.inj (hy.symm.trans hx)
      exact ⟨response, hanswers⟩
  · intro x hx
    rw [heffect.others _ (Ne.symm hkey)] at hx
    exact hold x hx

lemma Unexpired.relied (hc : t.Unexpired n now) (hactive : t.server.Active n task)
    (heffect : TillTask.Effect rt task now t.server.state s) {m : Nat} {other : TillTask}
    (hnm : n ≠ m) (hother : t.server.Active m other) (g g' : Int) :
    (other.contract rt).rely (t.server.state, g) (s, g') := by
  cases other with
  | other call => trivial
  | earnBatch actor request =>
      intro record hrecord req hasks hsome
      have hbatch : TillTask.Asks rt (.earnBatch actor request) req := ⟨record, hrecord, hasks⟩
      rcases heffect.db with hsame | ⟨req', hasks', heffect⟩
      · rw [hsame]
        exact hsome
      by_cases hkey : req.key = req'.key
      · obtain ⟨r, hr⟩ := Option.isSome_iff_exists.1 hsome
        have hown := hasks'.mem_keys t.server.state.db
        have hlater := hc m task actor request hnm hactive hother req.key
          (hbatch.mem_keys t.server.state.db) (hkey ▸ hown) r hr
        rw [hkey] at hr ⊢
        exact heffect.unexpired r hr hlater
      · rw [heffect.others _ hkey]
        exact hsome

/-- A process that goes on may take its statement. -/
lemma Kept.admitted (htrim : ∀ i, trim (browser.randomUUID i) = browser.randomUUID i)
    (h : t.Kept browser rt deviceId) (hactive : t.server.Active n task) (i : RequestInput) :
    (task.contract rt).admits (t.server.state, i.now) i := by
  cases task with
  | other call => exact le_rfl
  | earnBatch actor request =>
      obtain ⟨hdevice, hstored⟩ := h.batches n actor request hactive
      refine ⟨⟨fun record hrecord req hasks => ?_, fun record hrecord => ?_⟩, le_rfl⟩
      · obtain ⟨r, hr, rfl⟩ := hstored record hrecord
        obtain ⟨hkey, hhash, hcontent⟩ := hasks.content t.server.state.db
        obtain ⟨j, -, hdrawn⟩ := h.page.recorded r hr
        rw [hkey, hhash, hdrawn, htrim, ← hdrawn]
        exact h.answered r hr actor hdevice _ hcontent
      · obtain ⟨r, hr, rfl⟩ := hstored record hrecord
        obtain ⟨j, -, hdrawn⟩ := h.localIds r hr
        exact h.rows _ j hdrawn

lemma Kept.serves (htrim : ∀ i, trim (browser.randomUUID i) = browser.randomUUID i)
    (h : t.Kept browser rt deviceId) {i : RequestInput} (hc : t.Unexpired n i.now)
    (hstep : t.step browser rt (.serves n i) = some t') : t'.Kept browser rt deviceId := by
  obtain ⟨server, hserver, rfl⟩ := Option.map_eq_some_iff.1 hstep
  obtain ⟨task, β, st, next, htask, rfl⟩ := Pool.advance_step hserver
  have hactive : t.server.Active n task := ⟨_, htask, trivial⟩
  obtain ⟨g, hguarantee, hunder⟩ := (h.under_at i.now).advance htask (rely_same rfl)
    (h.admitted htrim hactive i) fun g' m l p hguarantee hnm hp hmeets =>
      hmeets.moved contract_closed fun hrun =>
        hc.relied hactive (effect_of_guarantee hguarantee) hnm ⟨p, hp, hrun⟩ _ _
  have heffect := effect_of_guarantee hguarantee
  have hbefore : ∀ {m l}, Pool.Active ⟨(st i t.server.state).2,
      t.server.tasks.set n (task, some (next (st i t.server.state).1))⟩ m l →
      t.server.Active m l := fun hm => hm.of_set htask fun _ _ _ => hactive
  exact
    { page := h.page
      localIds := h.localIds
      sent := h.sent
      calls := fun m call hm => h.calls m call (hbefore hm)
      batches := fun m actor request hm => h.batches m actor request (hbefore hm)
      under := ⟨g, hunder⟩
      answered := fun r hr actor hdevice c hc =>
        h.still_answered htrim hactive heffect hr hdevice hc
      rows := fun k j hk => heffect.rows k (h.rows k j hk) }

end serves

/-! #### Processes that start and stop -/

lemma Kept.started (h : t.Kept browser rt deviceId) {sent : List EarnSubmission}
    (hsent : ∀ x ∈ sent, x ∈ t.sent) {task : TillTask}
    (hcall : ∀ call, task = .other call → call.actor.deviceId = deviceId ∧
      Asked browser rt t.page call.idempotencyKey call.payload)
    (hbatch : ∀ actor request, task = .earnBatch actor request → actor.deviceId = deviceId ∧
      ∀ record ∈ request.records, ∃ r ∈ t.page.records, record = r.input)
    (hstep : poolStep rt { t with sent } (.start task) = some t') :
    t'.Kept browser rt deviceId := by
  obtain ⟨server, hserver, rfl⟩ := Option.map_eq_some_iff.1 hstep
  obtain rfl := Option.some.inj hserver
  obtain ⟨g, hunder⟩ := h.under
  refine ⟨h.page, h.localIds, fun x hx => h.sent x (hsent x hx), fun m call hm => ?_,
    fun m actor request hm => ?_, ⟨g, fun m l p hp => ?_⟩, h.answered, h.rows⟩
  · rcases hm.of_start with hm | ⟨-, heq⟩
    · exact h.calls m call hm
    · exact hcall call heq.symm
  · rcases hm.of_start with hm | ⟨-, heq⟩
    · exact h.batches m actor request hm
    · exact hbatch actor request heq.symm
  · rcases Pool.getElem?_start hp with hp | ⟨-, heq⟩
    · exact hunder m l p hp
    · obtain ⟨rfl, hp⟩ := Prod.mk.inj heq
      obtain rfl := Option.some.inj hp
      exact serve_meets rt l _

lemma Kept.stops (h : t.Kept browser rt deviceId) {n : Nat}
    (hstep : t.step browser rt (.stops n) = some t') : t'.Kept browser rt deviceId := by
  obtain ⟨server, hserver, rfl⟩ := Option.map_eq_some_iff.1 hstep
  obtain ⟨task, ⟨p, htask⟩, rfl⟩ := Pool.crash_step hserver
  have hbefore : ∀ {m l}, Pool.Active ⟨t.server.state, t.server.tasks.set n (task, none)⟩ m l →
      t.server.Active m l := fun hm => hm.of_set htask fun _ h => by cases h
  obtain ⟨g, hunder⟩ := h.under
  refine ⟨h.page, h.localIds, h.sent, fun m call hm => h.calls m call (hbefore hm),
    fun m actor request hm => h.batches m actor request (hbefore hm), ⟨g, fun m l q hq => ?_⟩,
    h.answered, h.rows⟩
  rcases Pool.getElem?_set_some hq with ⟨-, heq⟩ | ⟨-, hq⟩
  · cases (Prod.mk.inj heq).2
  · exact hunder m l q hq

/-! #### Others on the server -/

lemma Kept.elsewhere (htrim : ∀ i, trim (browser.randomUUID i) = browser.randomUUID i)
    (h : t.Kept browser rt deviceId) {s : SyncState}
    (hothers : Elsewhere browser t.server.state s) :
    Kept browser rt deviceId { t with server := { t.server with state := s } } := by
  obtain ⟨g, hunder⟩ := h.under
  have hkeys : ∀ r ∈ t.page.records, ∀ actor,
      s.db.idempotency (keyOf actor r.idempotencyKey) =
        t.server.state.db.idempotency (keyOf actor r.idempotencyKey) := by
    intro r hr actor
    obtain ⟨j, -, hdrawn⟩ := h.page.recorded r hr
    exact hothers.keys _ j rfl hdrawn
  refine ⟨h.page, h.localIds, h.sent, h.calls, h.batches, ⟨g, fun m l p hp => ?_⟩,
    fun r hr actor hdevice c hc x hx => ?_, fun k j hk => ?_⟩
  · refine (hunder m l p hp).moved contract_closed fun hrun => ?_
    cases l with
    | other call => trivial
    | earnBatch actor request =>
        intro record hrecord req hasks hsome
        obtain ⟨-, hstored⟩ := h.batches m actor request ⟨p, hp, hrun⟩
        obtain ⟨r, hr, rfl⟩ := hstored record hrecord
        obtain ⟨hkey, -, -⟩ := hasks.content t.server.state.db
        obtain ⟨j, -, hdrawn⟩ := h.page.recorded r hr
        have hkey' : req.key = keyOf actor r.idempotencyKey := by
          rw [hkey, hdrawn, htrim]
        rw [hkey'] at hsome ⊢
        rw [hkeys r hr actor]
        exact hsome
  · rw [hkeys r hr actor] at hx
    exact h.answered r hr actor hdevice c hc x hx
  · have hrow := h.rows k j hk
    rw [← hothers.rows k j hk] at hrow
    exact hrow

/-! #### The form -/

lemma Careful.stored {event : EarnEvent} (hc : t.Careful browser rt deviceId (.form event))
    {r : OfflineEarnRecord} (hr : r ∈ (t.page.step browser event).records) :
    r ∈ t.page.records ∨
      (r ∈ t.page.saves browser event ∧ t.Settled rt deviceId r ∧
        t.page.sends browser event = [] ∧ r.localId = browser.randomUUID t.page.drawn ∧
        (t.page.step browser event).drawn = t.page.drawn + 1) := by
  rcases t.page.step_records event with hsame | ⟨record, hsaved, hput, hlocalId, hdrawn⟩
  · rw [hsame] at hr
    exact .inl hr
  rw [hput] at hr
  rcases OfflineStore.mem_put.1 hr with rfl | ⟨hold, -⟩
  · refine .inr ⟨hsaved, hc.2.2 r hsaved, ?_, hlocalId, hdrawn⟩
    cases event with
    | handleSubmit => cases hsaved
    | _ => rfl
  · exact .inl hold

lemma Kept.still_stored (h : t.Kept browser rt deviceId) (event : EarnEvent)
    {r : OfflineEarnRecord} (hr : r ∈ t.page.records) :
    r ∈ (t.page.step browser event).records := by
  rcases t.page.step_records event with hsame | ⟨record, -, hput, hlocalId, -⟩
  · rw [hsame]
    exact hr
  · rw [hput]
    refine OfflineStore.mem_put.2 (.inr ⟨hr, fun heq => ?_⟩)
    obtain ⟨i, hi, hdrawn⟩ := h.localIds r hr
    have : i = t.page.drawn :=
      browser.randomUUID_injective (hdrawn.symm.trans (heq.trans hlocalId))
    omega

lemma Kept.form (h : t.Kept browser rt deviceId) {event : EarnEvent}
    (hc : t.Careful browser rt deviceId (.form event)) :
    Kept browser rt deviceId { t with
      page := t.page.step browser event
      sent := t.sent ++ t.page.sends browser event } := by
  have hdrawn : t.page.drawn ≤ (t.page.step browser event).drawn := t.page.step_drawn event
  have hasked : ∀ {key payload}, Asked browser rt t.page key payload →
      (∀ r, t.Settled rt deviceId r → r.idempotencyKey = key →
        Agree (payload.content rt) (r.content rt)) →
      Asked browser rt (t.page.step browser event) key payload := by
    intro key payload hold hnew
    refine ⟨hold.drawn.mono hdrawn, fun r hr hkey => ?_⟩
    rcases hc.stored hr with hr | ⟨-, hsettled, -⟩
    · exact hold.agree r hr hkey
    · exact hnew r hsettled hkey
  refine
    { page := h.page.step hc.1
      localIds := fun r hr => ?_
      sent := fun x hx => ?_
      calls := fun m call hm => ?_
      batches := fun m actor request hm => ?_
      under := h.under
      answered := fun r hr actor hdevice c hcontent => ?_
      rows := h.rows }
  · rcases hc.stored hr with hr | ⟨-, -, -, hlocalId, hnext⟩
    · exact (h.localIds r hr).mono hdrawn
    · exact ⟨t.page.drawn, hnext ▸ Nat.lt_succ_self _, hlocalId⟩
  · rcases List.mem_append.1 hx with hx | hx
    · exact hasked (h.sent x hx) fun r hsettled hkey => hsettled.sent x hx hkey.symm
    · have hkey := EarnPage.sends_key hx
      refine ⟨?_, fun r hr hsame => ?_⟩
      · rw [hkey]
        exact (h.page.drawn _ _ .form).mono hdrawn
      · rcases hc.stored hr with hr | ⟨-, -, hnone, -⟩
        · exact hc.2.1 x hx r hr hsame
        · rw [hnone] at hx
          cases hx
  · obtain ⟨hdevice, hold⟩ := h.calls m call hm
    exact ⟨hdevice, hasked hold fun r hsettled hkey => hsettled.running m call hm hkey.symm⟩
  · obtain ⟨hdevice, hstored⟩ := h.batches m actor request hm
    refine ⟨hdevice, fun record hrecord => ?_⟩
    obtain ⟨r, hr, heq⟩ := hstored record hrecord
    exact ⟨r, h.still_stored event hr, heq⟩
  · rcases hc.stored hr with hr | ⟨-, hsettled, -⟩
    · exact h.answered r hr actor hdevice c hcontent
    · exact hsettled.answered actor hdevice c hcontent

/-! #### Runs -/

/-- **Every careful step** keeps the till's purchases apart on the server too. -/
theorem Kept.step (htrim : ∀ i, trim (browser.randomUUID i) = browser.randomUUID i)
    (h : t.Kept browser rt deviceId) {event : TillEvent} (hpossible : t.Possible browser event)
    (hc : t.Careful browser rt deviceId event) (hstep : t.step browser rt event = some t') :
    t'.Kept browser rt deviceId := by
  cases event with
  | form event =>
      obtain rfl := Option.some.inj hstep
      exact h.form hc
  | arrives actor request =>
      simp only [OfflineTill.step] at hstep
      split at hstep
      · rename_i hsent
        refine h.started (fun x hx => List.mem_of_mem_erase hx) ?_ (by simp) hstep
        rintro call hcall
        obtain rfl := ServerTask.other.inj hcall
        exact ⟨hc, h.sent request hsent⟩
      · cases hstep
  | lost request =>
      obtain rfl := Option.some.inj hstep
      exact { h with sent := fun x hx => h.sent x (List.mem_of_mem_erase hx) }
  | submits actor request =>
      simp only [OfflineTill.step] at hstep
      split at hstep
      · rename_i hstored
        refine h.started (fun _ hx => hx) (by simp) ?_ hstep
        rintro actor' request' heq
        obtain ⟨rfl, rfl⟩ := ServerTask.earnBatch.inj heq
        exact ⟨hc, hstored⟩
      · cases hstep
  | serves n i => exact h.serves htrim hc hstep
  | stops n => exact h.stops hstep
  | elsewhere state =>
      obtain rfl := Option.some.inj hstep
      exact h.elsewhere htrim hpossible

lemma kept_opened (browser : Browser) (rt : OfflineSyncRuntime) (deviceId : Option String)
    (props : EarnTransactionControllerProps) (now : Int) {s : SyncState}
    (hunused : Unused browser s) :
    (opened browser props now s).Kept browser rt deviceId where
  page := EarnPage.sound_opened browser props now
  localIds _ hr := by cases hr
  sent _ hx := by cases hx
  calls m call hm := by
    obtain ⟨p, hp, -⟩ := hm
    simp [opened, Pool.initial] at hp
  batches m actor request hm := by
    obtain ⟨p, hp, -⟩ := hm
    simp [opened, Pool.initial] at hp
  under := ⟨now, fun m l p hp => by simp [opened, Pool.initial] at hp⟩
  answered _ hr := by cases hr
  rows k j hk := by
    have hnone : s.attempts k = none := hunused.rows k j hk
    rintro r hr
    change s.attempts k = some r at hr
    rw [hnone] at hr
    cases hr

lemma Kept.distinguished (h : t.Kept browser rt deviceId) : t.Distinguished where
  keys := h.page.distinct
  batches n actor request response htask result hresult := by
    obtain ⟨g, hunder⟩ := h.under
    have hmeets : TillTask.Unconflicted (.ok (some response)) := hunder n _ _ htask
    exact (hmeets result hresult).code

end kept

/-- From an empty device, and a server that does not know its identifiers, every run under a
condition keeps the purchases apart: different ones are stored under different keys, and no stored
record is rejected for another one. -/
def NeverConflicts (browser : Browser) (rt : OfflineSyncRuntime)
    (P : OfflineTill → TillEvent → Prop) : Prop :=
  ∀ (props : EarnTransactionControllerProps) (now : Int) (s : SyncState) (t : OfflineTill),
    Unused browser s → StepsUnder browser rt P (opened browser props now s) t → t.Distinguished

end OfflineTill

namespace Shop

/-- A customer's card was looked up at the till. -/
def till : EarnTransactionControllerProps where
  lookupContext := some ⟨some "CARD", some "customer", none, some "branch"⟩
  cashierId := some mobileCashier.id
  deviceId := some tillId
  branchId := some "branch"
  branchTimezone := some "UTC"
  receiptWeekStartDay := some 1

/-- A purchase entered, submitted and saved on the device; the request is lost. -/
def savedOffline (receiptNumber idempotencyKey : String) : List TillEvent :=
  let request : EarnSubmission :=
    { payload := ⟨"CARD", receiptNumber, 1000000, "2023-11-14T22:13:20.000Z", none⟩
      fields := ⟨"CARD", receiptNumber, some 1000000, "2023-11-14T22:13:20.000Z", ""⟩
      props := till
      idempotencyKey
      unmountedRef := none }
  [.form (.edit (.setCardSerialNumber "CARD")), .form (.edit (.setReceiptNumber receiptNumber)),
    .form (.edit (.setPurchaseAmount (some 1000000))), .form .handleSubmit, .lost request,
    .form (.throws request none)]

/-- A record as it is submitted. -/
def savedInput (localId idempotencyKey receiptNumber : String) : OfflineEarnBatchRecordInput :=
  { offlineRecord localId receiptNumber "2023-11-13" with idempotencyKey }

/-- The records are submitted, and the server takes so many statements. -/
def synced (records : List OfflineEarnBatchRecordInput) (n : Nat) : List TillEvent :=
  .submits mobileCashier ⟨tillId, records⟩ :: List.replicate n (.serves 0 ⟨night, .accepted⟩)

def openedTill : OfflineTill := .opened browser till night onlineAgain

/-- What the batches answered of their records. -/
def errorCodes (t : OfflineTill) : List (List (Option String)) :=
  t.server.tasks.filterMap fun task => match task.2 with
    | some (.done (some response)) => some (response.records.map (·.errorCode))
    | _ => none

lemma browser_trimmed (i : Nat) : trim (browser.randomUUID i) = browser.randomUUID i := by
  have hkept : (List.replicate (i + 1) '0').dropWhile isWhiteSpace =
      List.replicate (i + 1) '0' := by
    rw [List.replicate_succ, List.dropWhile_cons_of_neg (by decide)]
  change trim (String.ofList _) = String.ofList _
  unfold trim
  rw [String.toList_ofList, hkept, List.reverse_replicate, hkept, List.reverse_replicate]

lemma onlineAgain_unused : OfflineTill.Unused browser onlineAgain :=
  ⟨fun _ _ _ => rfl, fun _ _ _ => rfl⟩

/-- The steps are careful while the server has at most one process. -/
def checked (t : OfflineTill) : TillEvent → Bool
  | .form event =>
      decide (t.server.tasks.isEmpty ∧ t.sent = [] ∨ t.page.saves browser event = none) &&
      decide (t.page.Careful event) &&
      decide (∀ x ∈ t.page.sends browser event, ∀ r ∈ t.page.records,
        r.idempotencyKey ≠ x.idempotencyKey)
  | .submits actor _ => t.server.tasks.isEmpty && decide (actor.deviceId = some tillId)
  | .lost _ => true
  | .serves _ _ => true
  | _ => false

/-- The step is none of others. -/
def own : TillEvent → Bool
  | .elsewhere _ => false
  | _ => true

/-- At most one process was started, and none before it. -/
structure AtMostOne (t : OfflineTill) : Prop where
  length : t.server.tasks.length ≤ 1
  before : t.server.tasks = [] → t.server.state = onlineAgain

lemma AtMostOne.careful {t : OfflineTill} {event : TillEvent} (h : AtMostOne t)
    (hc : checked t event = true) :
    t.Possible browser event ∧ t.Careful browser syncRuntime (some tillId) event := by
  cases event with
  | form event =>
      simp only [checked, Bool.and_eq_true, decide_eq_true_eq] at hc
      obtain ⟨⟨hsaves, hpage⟩, hsends⟩ := hc
      refine ⟨trivial, hpage, fun x hx r hr hkey => absurd hkey (hsends x hx r hr), ?_⟩
      intro record hrecord
      rcases hsaves with ⟨hempty, hsent⟩ | hnone
      · have htasks : t.server.tasks = [] := List.isEmpty_iff.1 hempty
        refine ⟨by simp [hsent], fun n call ⟨p, hp, _⟩ => by simp [htasks] at hp, ?_⟩
        intro actor _ c _ r hr
        rw [h.before htasks] at hr
        cases hr
      · rw [hnone] at hrecord
        cases hrecord
  | submits actor request =>
      simp only [checked, Bool.and_eq_true, decide_eq_true_eq] at hc
      exact ⟨trivial, hc.2⟩
  | serves n i =>
      refine ⟨trivial, fun m task actor request hnm ⟨p, hp, _⟩ ⟨q, hq, _⟩ => ?_⟩
      have hn := (List.getElem?_eq_some_iff.1 hp).1
      have hm := (List.getElem?_eq_some_iff.1 hq).1
      have := h.length
      omega
  | lost request => exact ⟨trivial, trivial⟩
  | _ => cases hc

lemma AtMostOne.step {t t' : OfflineTill} {event : TillEvent} (h : AtMostOne t)
    (hc : checked t event = true) (hstep : t.step browser syncRuntime event = some t') :
    AtMostOne t' := by
  cases event with
  | form event =>
      obtain rfl := Option.some.inj hstep
      exact ⟨h.length, h.before⟩
  | lost request =>
      obtain rfl := Option.some.inj hstep
      exact ⟨h.length, h.before⟩
  | submits actor request =>
      simp only [checked, Bool.and_eq_true, List.isEmpty_iff] at hc
      simp only [OfflineTill.step] at hstep
      split at hstep
      · obtain ⟨server, hserver, rfl⟩ := Option.map_eq_some_iff.1 hstep
        obtain rfl := Option.some.inj hserver
        exact ⟨by simp [hc.1], by simp⟩
      · cases hstep
  | serves n i =>
      obtain ⟨server, hserver, rfl⟩ := Option.map_eq_some_iff.1 hstep
      obtain ⟨task, β, st, next, htask, rfl⟩ := Pool.advance_step hserver
      refine ⟨by simpa using h.length, fun hnone => ?_⟩
      rw [(List.set_eq_nil_iff _ _).1 hnone] at htask
      cases htask
  | _ => cases hc

end Shop

end ShopcityLoyalty
