import ShopcityLoyalty.OfflineQueue
import ShopcityLoyalty.Lib.Runs

/-!
The cashier's earn form: the controller's fields and idempotency key, the draft it keeps in
the browser's local storage, and the requests it has in flight.

One step is what one event does up to the next await: an edit, a change of the looked-up
customer, a submission, the answer to a request or its failure, a reset, or the form mounted
anew. A request in flight reads the key of its form when it fails, not when it is sent.
-/

namespace ShopcityLoyalty

/-- The fields of the form. -/
structure EarnFields where
  cardSerialNumber : String
  receiptNumber : String
  purchaseAmount : Option Int
  occurredAt : String
  overrideReason : String
  deriving DecidableEq

/-- What local storage keeps of a draft. -/
structure EarnDraftState extends EarnFields where
  idempotencyKey : String
  deriving DecidableEq

structure EarnLookupContext where
  cardSerialNumber : Option String
  customerId : Option String
  receiptNumber : Option String
  branchId : Option String
  deriving DecidableEq

structure EarnTransactionControllerProps where
  lookupContext : Option EarnLookupContext
  cashierId : Option String
  deviceId : Option String
  branchId : Option String
  branchTimezone : Option String
  receiptWeekStartDay : Option Int
  deriving DecidableEq

inductive EarnStatus | idle | submitting | confirmed | pending | error
  deriving DecidableEq

/-- The body of the request. -/
structure EarnTransactionPayload where
  cardSerialNumber : String
  posReceiptNumber : String
  purchaseAmountKobo : Int
  occurredAt : String
  overrideReason : Option String
  deriving DecidableEq

/-- The mounted form. -/
structure EarnTransactionController where
  idempotencyKeyRef : String
  fields : EarnFields
  status : EarnStatus

/-- A request in flight, with the fields and properties its handler closed over. The
reference to the key is that of the mounted form, or of one that was unmounted since. -/
structure EarnSubmission where
  payload : EarnTransactionPayload
  fields : EarnFields
  props : EarnTransactionControllerProps
  idempotencyKey : String
  unmountedRef : Option String
  deriving DecidableEq

/-- The form with what surrounds it: local storage, the requests in flight, the device's
records, and how many identifiers were drawn. -/
structure EarnPage where
  controller : EarnTransactionController
  props : EarnTransactionControllerProps
  earnDraft : Option EarnDraftState
  submissions : List EarnSubmission
  records : OfflineStore
  drawn : Nat

/-- The setters the form calls. -/
inductive EarnEdit
  | setCardSerialNumber (value : String)
  | setReceiptNumber (value : String)
  | setPurchaseAmount (value : Option Int)
  | setOccurredAt (value : String)
  | setOverrideReason (value : String)

def EarnEdit.apply (edit : EarnEdit) (fields : EarnFields) : EarnFields :=
  match edit with
  | .setCardSerialNumber value => { fields with cardSerialNumber := value }
  | .setReceiptNumber value => { fields with receiptNumber := value }
  | .setPurchaseAmount value => { fields with purchaseAmount := value }
  | .setOccurredAt value => { fields with occurredAt := value }
  | .setOverrideReason value => { fields with overrideReason := value }

inductive EarnEvent
  | edit (edit : EarnEdit)
  /-- New properties; the looked-up customer may be the same value in another object. -/
  | receiveProps (props : EarnTransactionControllerProps) (another : Bool)
  | resetDraft (now : Int)
  | handleSubmit
  /-- The answer to a request, with its HTTP status. -/
  | respond (submission : EarnSubmission) (status : Nat) (now : Int)
  /-- A request that throws, and what the storage does with the record saved instead. -/
  | throws (submission : EarnSubmission) (failure : Option String)
  | mount (now : Int)

namespace EarnTransactionController

/-- The fields of an empty draft. -/
def emptyFields (now : Int) : EarnFields where
  cardSerialNumber := ""
  receiptNumber := ""
  purchaseAmount := none
  occurredAt := Calendar.toISOString now
  overrideReason := ""

/-- An optional text that is there and not empty. -/
def present (o : Option String) : Option String := o.filter fun s => s ≠ ""

/-- The effect of a looked-up customer on the fields. -/
def applyLookup (lookupContext : Option EarnLookupContext) (fields : EarnFields) : EarnFields :=
  match lookupContext with
  | none => fields
  | some l =>
      { fields with
        cardSerialNumber := (present l.cardSerialNumber).getD fields.cardSerialNumber
        receiptNumber := (present l.receiptNumber).getD fields.receiptNumber }

def authoritativeCardSerial (props : EarnTransactionControllerProps) : String :=
  ((props.lookupContext.bind (·.cardSerialNumber)).map trim).getD ""

/-- Whether `Date.parse` gives a number. -/
def occurredAtValid (browser : Browser) (fields : EarnFields) : Bool :=
  trim fields.occurredAt ≠ "" && (browser.parse fields.occurredAt).isSome

/-- The request a submission sends, where the form is filled in. -/
def payload? (browser : Browser) (props : EarnTransactionControllerProps) (fields : EarnFields) :
    Option EarnTransactionPayload :=
  if authoritativeCardSerial props = "" then none
  else if trim fields.receiptNumber = "" then none
  else
    match fields.purchaseAmount with
    | none => none
    | some purchaseAmount =>
        if purchaseAmount ≤ 0 then none
        else if ¬ occurredAtValid browser fields then none
        else some
          { cardSerialNumber := authoritativeCardSerial props
            posReceiptNumber := fields.receiptNumber
            purchaseAmountKobo := purchaseAmount
            occurredAt := fields.occurredAt
            overrideReason := present (some (trim fields.overrideReason)) }

/-- The branch a record is saved for. -/
def offlineBranchId (props : EarnTransactionControllerProps) : Option String :=
  present (props.branchId.or (props.lookupContext.bind (·.branchId)))

/-- The record saved for a request that could not be sent; `none` where saving is unavailable
or building the record throws. -/
def offlineRecord (browser : Browser) (props : EarnTransactionControllerProps)
    (fields : EarnFields) (localId idempotencyKey : String) : Option OfflineEarnRecord := do
  let deviceId ← present props.deviceId
  let branchId ← offlineBranchId props
  let receiptWeekStart ← deriveOfflineReceiptWeekStart browser props.branchTimezone
    props.receiptWeekStartDay fields.occurredAt
  pure
    { localId, idempotencyKey
      cashierId := props.cashierId.getD ""
      branchId, deviceId
      customerId := props.lookupContext.bind (·.customerId)
      cardBarcode := trim fields.cardSerialNumber
      receiptNumber := trim fields.receiptNumber
      receiptWeekStart
      purchaseAmountKobo := fields.purchaseAmount.getD 0
      occurredAtLocal := fields.occurredAt
      syncState := .waitingToSync
      lastError := some "Purchase could not be sent and needs a retry."
      serverTransactionId := none
      serverApprovalId := none }

end EarnTransactionController

namespace EarnPage

open EarnTransactionController

/-- The form shows other fields; the effect that stores the draft runs where they changed. -/
def render (page : EarnPage) (fields : EarnFields) (status : EarnStatus) : EarnPage :=
  { page with
    controller := { page.controller with fields, status }
    earnDraft :=
      if fields = page.controller.fields then page.earnDraft
      else some { fields with idempotencyKey := page.controller.idempotencyKeyRef } }

def edit (page : EarnPage) (f : EarnFields → EarnFields) : EarnPage :=
  page.render (f page.controller.fields) page.controller.status

/-- `idempotencyKeyRef.current = createDraftKey()`. -/
def rotateKey (browser : Browser) (page : EarnPage) : EarnPage :=
  { page with
    controller := { page.controller with idempotencyKeyRef := browser.randomUUID page.drawn }
    drawn := page.drawn + 1 }

/-- The key a request in flight refers to. -/
def keyOf (page : EarnPage) (submission : EarnSubmission) : String :=
  submission.unmountedRef.getD page.controller.idempotencyKeyRef

/-- A message of a form that is not mounted any more is not shown. -/
def setStatus (page : EarnPage) (submission : EarnSubmission) (status : EarnStatus) : EarnPage :=
  if submission.unmountedRef.isSome then page
  else { page with controller := { page.controller with status } }

def handleSubmit (browser : Browser) (page : EarnPage) : EarnPage :=
  if page.controller.status = .submitting then page
  else
    match payload? browser page.props page.controller.fields with
    | none => { page with controller := { page.controller with status := .error } }
    | some payload =>
        { page with
          controller := { page.controller with status := .submitting }
          submissions := page.submissions ++
            [{ payload, fields := page.controller.fields, props := page.props
               idempotencyKey := page.controller.idempotencyKeyRef, unmountedRef := none }] }

/-- What the handler does with an answer. -/
def respond (browser : Browser) (page : EarnPage) (submission : EarnSubmission) (status : Nat)
    (now : Int) : EarnPage :=
  if status = 201 ∨ status = 202 then
    let removed := { page with earnDraft := none }
    if submission.unmountedRef.isSome then removed
    else (removed.rotateKey browser).render (emptyFields now)
      (if status = 201 then .confirmed else .pending)
  else page.setStatus submission .error

/-- What the handler does where the request throws. -/
def throws (browser : Browser) (page : EarnPage) (submission : EarnSubmission)
    (failure : Option String) : EarnPage :=
  let drawn := { page with drawn := page.drawn + 1 }
  match offlineRecord browser submission.props submission.fields (browser.randomUUID page.drawn)
    (page.keyOf submission) with
  | none => drawn.setStatus submission .error
  | some record =>
      match saveOfflineEarnRecord failure record page.records with
      | (.ok, records) => { drawn with records }.setStatus submission .pending
      | (.error _, records) => { drawn with records }.setStatus submission .error

/-- The form is left and mounted again: the requests in flight keep the key they refer to, a
stored draft is taken over, and the draft shown is stored. -/
def mount (browser : Browser) (page : EarnPage) (now : Int) : EarnPage :=
  let hydrated := page.earnDraft.getD
    { emptyFields now with idempotencyKey := browser.randomUUID page.drawn }
  let fields := applyLookup page.props.lookupContext hydrated.toEarnFields
  { page with
    controller := { idempotencyKeyRef := hydrated.idempotencyKey, fields, status := .idle }
    earnDraft := some { fields with idempotencyKey := hydrated.idempotencyKey }
    submissions := page.submissions.map fun s => { s with unmountedRef := some (page.keyOf s) }
    drawn := page.drawn + 1 }

def step (browser : Browser) (page : EarnPage) : EarnEvent → EarnPage
  | .edit edit => page.edit edit.apply
  | .receiveProps props another =>
      if another ∨ props.lookupContext ≠ page.props.lookupContext then
        { page with props }.edit (applyLookup props.lookupContext)
      else { page with props }
  | .resetDraft now => (page.rotateKey browser).render (emptyFields now) .idle
  | .handleSubmit => page.handleSubmit browser
  | .respond submission status now =>
      if submission ∈ page.submissions then
        { page with submissions := page.submissions.erase submission }.respond browser submission
          status now
      else page
  | .throws submission failure =>
      if submission ∈ page.submissions then
        { page with submissions := page.submissions.erase submission }.throws browser submission
          failure
      else page
  | .mount now => page.mount browser now

/-- The form when it is first opened, on an empty device. -/
def opened (browser : Browser) (props : EarnTransactionControllerProps) (now : Int) : EarnPage :=
  mount browser
    { controller := ⟨browser.randomUUID 0, emptyFields now, .idle⟩
      props, earnDraft := none, submissions := [], records := [], drawn := 0 } now

end EarnPage

end ShopcityLoyalty
