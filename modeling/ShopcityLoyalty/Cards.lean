import ShopcityLoyalty.Idempotency
import ShopcityLoyalty.Lib.Executions

/-!
Issuing, replacing and blocking cards: `CardsService.createCard`, `replaceCard` and
`updateStatus`, as processes that interleave.

A read that no lock protects is a statement of its own. The writes of a transaction, with the
conditions they repeat, are one statement, at its commit: the rows and the index entries that
they touch are locked until then.
-/

namespace ShopcityLoyalty

/-- A row of the card table. -/
structure IssuedCard where
  tenantId : String
  customerId : String
  barcodeValue : String
  status : CardStatus
  issuedBy : StaffRef
  issuedAt : Int
  blockedAt : Option Int
  replacedAt : Option Int
  replacedByCardId : Option Nat
  deriving DecidableEq

/-- `toPublicCard`: the row under its id. -/
structure CardResponse where
  id : Nat
  card : IssuedCard
  deriving DecidableEq

inductive CardEndpoint | create | replace | status
  deriving DecidableEq

structure CardRequestKey where
  tenantId : String
  actorId : String
  endpoint : CardEndpoint
  idempotencyKey : String
  deriving DecidableEq

structure CardStore where
  cards : Table IssuedCard
  records : CardRequestKey → Option (IdempotencyRecord CardResponse)

/-- What a statement meets: the clock, and the customers as they are. -/
structure CardSurroundings where
  now : Int
  customers : String → Option Customer

/-- The unique indexes of cards. -/
inductive CardIndex
  | one_active_per_customer
  | tenantId_barcodeValue
  | replacedByCardId
  deriving DecidableEq

/-- What a write of a card throws. -/
inductive CardWriteError
  /-- `P2002`. -/
  | unique (index : CardIndex)
  | exception (fault : Fault)

namespace CardsService

abbrev Handling (α : Type) := Process CardSurroundings CardStore Fault α

abbrev CardTx (α : Type) := Txn CardStore CardWriteError α

open Txn

def conflict (message : String) : Fault := .http 409 "CONFLICT" message

def notFound (message : String) : Fault := .http 404 "NOT_FOUND" message

def CARD_IDEMPOTENCY_KEY_MAX_LENGTH : Nat := 255

def normalizeCardIdempotencyKey (value : Option String) : Except Fault String :=
  let normalized := trim (value.getD "")
  if normalized = "" then .error (badRequest "Idempotency-Key header is required")
  else if CARD_IDEMPOTENCY_KEY_MAX_LENGTH < utf16Length normalized then
    .error (badRequest "Idempotency-Key header is too long")
  else .ok normalized

def normalizedSerial (rt : Runtime) (value : String) : Except Fault String :=
  ((normalizeCardSerial rt value : Txn Unit Fault String) ()).map Prod.fst

def hashCardRequest (fields : List (String × Json)) : Digest :=
  sha256 (Json.stringify (.object fields))

def customerAlreadyActive : Fault := badRequest "Customer already has an active card"

def normalizeCardWriteError : CardWriteError → Fault
  | .unique .one_active_per_customer => customerAlreadyActive
  | .unique .tenantId_barcodeValue => badRequest "Card barcode already exists"
  | .unique .replacedByCardId => .http 500 "SYSTEM_ERROR" "Unique constraint failed"
  | .exception fault => fault

/-! ### Statements -/

/-- A read of its own. -/
def read {α : Type} (f : CardSurroundings → CardStore → α) : Handling α :=
  Process.statement fun env s => (f env s, s)

/-- The writes of a transaction. -/
def commit {α : Type} (m : CardSurroundings → CardTx α) : Handling α :=
  Process.attempt fun env s =>
    match m env s with
    | .ok (a, t) => (.ok a, t)
    | .error e => (.error (normalizeCardWriteError e), s)

def findCardIdempotency (key : CardRequestKey) (requestHash : Digest) :
    Handling (Option (IdempotencyRecord CardResponse)) := do
  let existing ← Process.statement fun env s =>
    let kept := (s.records key).filter fun r => ¬ r.expiresAt < env.now
    (kept, { s with records := Function.update s.records key kept })
  match existing with
  | some r =>
      if r.requestHash = requestHash then Process.done existing
      else Process.fail (.http 409 "IDEMPOTENCY_CONFLICT"
        "Idempotency key reused with different payload")
  | none => Process.done none

/-- What a record found makes of a request. -/
def replayOr (existing : Option (IdempotencyRecord CardResponse)) (next : Handling CardResponse) :
    Handling CardResponse :=
  match existing with
  | none => next
  | some r =>
      match r.responseJson with
      | some response => Process.done response
      | none => Process.fail (conflict "Idempotency key is still being processed")

/-- `idempotencyRecord.create` finds no record under its key. -/
def reserve (key : CardRequestKey) : Handling Unit := do
  let taken ← read fun _ s => (s.records key).isSome
  if taken then Process.fail (.unique .idempotencyKey) else Process.done ()

def createRecord (key : CardRequestKey) (requestHash : Digest) (now : Int) : CardTx Unit := do
  let s ← get
  rejectIf (s.records key).isSome (.exception (.unique .idempotencyKey))
  update fun s =>
    { s with
      records := Function.update s.records key
        (some ⟨requestHash, none, .PENDING, now + 24 * 60 * 60 * 1000⟩) }

def completeRecord (key : CardRequestKey) (response : CardResponse) : CardTx Unit :=
  update fun s =>
    { s with
      records := Function.update s.records key ((s.records key).map fun r =>
        { r with responseJson := some response, status := .COMPLETED }) }

/-- The insert of an active card, under the unique indexes. -/
def insertCard (card : IssuedCard) : CardTx Nat := do
  let s ← get
  rejectIf (∃ c ∈ s.cards, c.tenantId = card.tenantId ∧ c.barcodeValue = card.barcodeValue)
    (.unique .tenantId_barcodeValue)
  rejectIf (card.status = .ACTIVE ∧ ∃ c ∈ s.cards, c.tenantId = card.tenantId ∧
    c.customerId = card.customerId ∧ c.status = .ACTIVE) (.unique .one_active_per_customer)
  update fun s => { s with cards := s.cards ++ [card] }
  pure s.cards.nextId

/-- The change of a card's row, under the unique indexes. -/
def modifyCard (id : Nat) (f : IssuedCard → IssuedCard) : CardTx Unit := do
  let s ← get
  let card ← orFault s.cards[id]? (.exception .missing)
  rejectIf ((f card).status = .ACTIVE ∧ ∃ r ∈ s.cards.select (fun c => c.tenantId = card.tenantId ∧
      c.customerId = card.customerId ∧ c.status = .ACTIVE), r.1 ≠ id)
    (.unique .one_active_per_customer)
  rejectIf ((f card).replacedByCardId.isSome ∧ ∃ r ∈ s.cards.select (fun c =>
      c.replacedByCardId = (f card).replacedByCardId), r.1 ≠ id)
    (.unique .replacedByCardId)
  update fun s => { s with cards := s.cards.set id (f card) }

/-- `card.updateMany` of one row that must still be as given. -/
def updateManyCard (id : Nat) (tenantId : String) (status : CardStatus) (failed : Fault)
    (f : IssuedCard → IssuedCard) : CardTx Unit := do
  let s ← get
  let _ ← orFault (s.cards[id]?.filter fun c => c.tenantId = tenantId ∧ c.status = status)
    (.exception failed)
  modifyCard id f

def sameSerial (rt : Runtime) (tenantId serialNumber : String) (c : IssuedCard) : Bool :=
  c.tenantId = tenantId && rt.toUpperCase c.barcodeValue = rt.toUpperCase serialNumber

def newCard (actor : AuthContext) (customerId serialNumber : String) (now : Int) : IssuedCard where
  tenantId := actor.tenantId
  customerId := customerId
  barcodeValue := serialNumber
  status := .ACTIVE
  issuedBy := actor.staff
  issuedAt := now
  blockedAt := none
  replacedAt := none
  replacedByCardId := none

/-! ### Operations -/

/-- The transaction of `createCard`. -/
def createTransaction (actor : AuthContext) (customerId serialNumber : String)
    (key : CardRequestKey) (requestHash : Digest) (now : Int) : CardTx CardResponse := do
  createRecord key requestHash now
  let card := newCard actor customerId serialNumber now
  let id ← insertCard card
  completeRecord key ⟨id, card⟩
  pure ⟨id, card⟩

def createCard (rt : Runtime) (actor : AuthContext) (customerId serialNumber : String)
    (idempotencyKey : Option String) : Handling CardResponse := do
  let normalizedKey ← Process.ofExcept (normalizeCardIdempotencyKey idempotencyKey)
  let canonicalSerialNumber ← Process.ofExcept (normalizedSerial rt serialNumber)
  let requestHash := hashCardRequest [("tenantId", .string actor.tenantId),
    ("actorId", .string actor.id), ("customerId", .string customerId),
    ("serialNumber", .string canonicalSerialNumber)]
  let key : CardRequestKey := ⟨actor.tenantId, actor.id, .create, normalizedKey⟩
  let existing ← findCardIdempotency key requestHash
  replayOr existing do
    let customer ← read fun env _ => (env.customers customerId).filter fun c =>
      c.tenantId = actor.tenantId
    if ¬ ∃ c ∈ customer, c.status = .ACTIVE then Process.fail (notFound "Customer not found") else
    let existingSerial ← read fun _ s =>
      s.cards.any (sameSerial rt actor.tenantId canonicalSerialNumber)
    if existingSerial then
      Process.fail (conflict "The card serial number is already assigned in this tenant") else
    let existingActiveCard ← read fun _ s => s.cards.any fun c =>
      c.tenantId = actor.tenantId && c.customerId = customerId && c.status = .ACTIVE
    if existingActiveCard then Process.fail customerAlreadyActive else
    commit fun env =>
      createTransaction actor customerId canonicalSerialNumber key requestHash env.now

def replacedCard (occurredAt : Int) (c : IssuedCard) : IssuedCard :=
  { c with status := .REPLACED, blockedAt := some occurredAt, replacedAt := some occurredAt }

def linkedCard (newCardId : Nat) (c : IssuedCard) : IssuedCard :=
  { c with replacedByCardId := some newCardId }

def onlyActive : Fault := badRequest "Only active cards can be replaced"

/-- The transaction of `replaceCard`. -/
def replaceTransaction (actor : AuthContext) (cardId : Nat) (customerId serialNumber : String)
    (key : CardRequestKey) (requestHash : Digest) (now : Int) : CardTx CardResponse := do
  createRecord key requestHash now
  updateManyCard cardId actor.tenantId .ACTIVE onlyActive (replacedCard now)
  let card := newCard actor customerId serialNumber now
  let id ← insertCard card
  modifyCard cardId (linkedCard id)
  completeRecord key ⟨id, card⟩
  pure ⟨id, card⟩

def replaceCard (rt : Runtime) (actor : AuthContext) (cardId : Nat) (serialNumber : String)
    (idempotencyKey : Option String) : Handling CardResponse := do
  let normalizedKey ← Process.ofExcept (normalizeCardIdempotencyKey idempotencyKey)
  let canonicalSerialNumber ← Process.ofExcept (normalizedSerial rt serialNumber)
  let requestHash := hashCardRequest [("tenantId", .string actor.tenantId),
    ("actorId", .string actor.id), ("cardId", .string (rt.uuid .cards cardId)),
    ("serialNumber", .string canonicalSerialNumber)]
  let key : CardRequestKey := ⟨actor.tenantId, actor.id, .replace, normalizedKey⟩
  let existing ← findCardIdempotency key requestHash
  replayOr existing do
    let current ← read fun _ s => s.cards[cardId]?.filter fun c => c.tenantId = actor.tenantId
    match current with
    | none => Process.fail (notFound "Card not found")
    | some current =>
        if current.status ≠ .ACTIVE then Process.fail onlyActive else
        let customer ← read fun env _ => (env.customers current.customerId).filter fun c =>
          c.tenantId = actor.tenantId
        if ¬ ∃ c ∈ customer, c.status = .ACTIVE then
          Process.fail (badRequest "Customer is not active") else
        reserve key
        let conflictingCard ← read fun _ s =>
          (s.cards.select (sameSerial rt actor.tenantId canonicalSerialNumber)).any fun r =>
            r.1 ≠ cardId
        if conflictingCard then
          Process.fail (conflict
            "The replacement serial number is already assigned in this tenant") else
        commit fun env => replaceTransaction actor cardId current.customerId canonicalSerialNumber
          key requestHash env.now

def updatedCard (status : CardStatus) (now : Int) (c : IssuedCard) : IssuedCard :=
  { c with status := status, blockedAt := if status = .BLOCKED then some now else none }

/-- The transaction of `updateStatus`. -/
def updateTransaction (actor : AuthContext) (cardId : Nat) (found status : CardStatus)
    (key : CardRequestKey) (requestHash : Digest) (now : Int) : CardTx CardResponse := do
  createRecord key requestHash now
  updateManyCard cardId actor.tenantId found (conflict "Card state changed during update")
    (updatedCard status now)
  let s ← get
  let current ← orFault s.cards[cardId]? (.exception (conflict "Card state changed during update"))
  completeRecord key ⟨cardId, current⟩
  pure ⟨cardId, current⟩

/-- The statuses that can be asked for. -/
def requestedStatus (status : String) : Option CardStatus :=
  if status = "ACTIVE" then some .ACTIVE else if status = "BLOCKED" then some .BLOCKED else none

def updateStatus (rt : Runtime) (actor : AuthContext) (cardId : Nat) (status : String)
    (idempotencyKey : Option String) : Handling CardResponse := do
  let normalizedKey ← Process.ofExcept (normalizeCardIdempotencyKey idempotencyKey)
  let requestHash := hashCardRequest [("tenantId", .string actor.tenantId),
    ("actorId", .string actor.id), ("cardId", .string (rt.uuid .cards cardId)),
    ("status", .string status)]
  let key : CardRequestKey := ⟨actor.tenantId, actor.id, .status, normalizedKey⟩
  let existing ← findCardIdempotency key requestHash
  replayOr existing do
    match requestedStatus status with
    | none => Process.fail (badRequest "Invalid card status")
    | some status =>
        -- the row with its customer
        let found ← read fun env s =>
          (s.cards[cardId]?.filter fun c => c.tenantId = actor.tenantId).map fun c =>
            (c, env.customers c.customerId)
        match found with
        | none => Process.fail (notFound "Card not found")
        | some (card, customer) =>
            if card.status = .REPLACED then
              Process.fail (badRequest "Replaced cards cannot be updated") else
            if status = .ACTIVE ∧ ¬ ∃ c ∈ customer, c.status = .ACTIVE then
              Process.fail (badRequest "Customer is not active") else
            reserve key
            let existingActiveCard ← read fun _ s => (s.cards.select fun c =>
              c.tenantId = actor.tenantId ∧ c.customerId = card.customerId ∧
                c.status = .ACTIVE).any fun r => r.1 ≠ cardId
            if status = .ACTIVE ∧ existingActiveCard then Process.fail customerAlreadyActive else
            commit fun env =>
              updateTransaction actor cardId card.status status key requestHash env.now

end CardsService

/-! ### Requests side by side -/

inductive CardRequest
  | createCard (actor : AuthContext) (customerId serialNumber : String)
      (idempotencyKey : Option String)
  | replaceCard (actor : AuthContext) (cardId : Nat) (serialNumber : String)
      (idempotencyKey : Option String)
  | updateStatus (actor : AuthContext) (cardId : Nat) (status : String)
      (idempotencyKey : Option String)

def CardRequest.program (rt : Runtime) : CardRequest → CardsService.Handling CardResponse
  | .createCard actor customerId serialNumber key =>
      CardsService.createCard rt actor customerId serialNumber key
  | .replaceCard actor cardId serialNumber key =>
      CardsService.replaceCard rt actor cardId serialNumber key
  | .updateStatus actor cardId status key => CardsService.updateStatus rt actor cardId status key

abbrev CardRequests := Pool CardRequest CardSurroundings CardStore Fault CardResponse

def noCards : CardStore := ⟨[], fun _ => none⟩

end ShopcityLoyalty
