import Mathlib.Data.Prod.Lex
import Mathlib.Data.String.Basic
import ShopcityLoyalty.Earn
import ShopcityLoyalty.FraudEvaluation
import ShopcityLoyalty.Lib.Paging

/-!
The lists that are read in pages: fraud flags, issued cards, a supervisor's transactions, a
customer's ledger and approvals.

A table is the rows that a list reads, each with the related rows its conditions look at. Ids
are compared as texts.
-/

namespace ShopcityLoyalty

open Paging

/-- What the lists take from the platform. -/
structure ListingRuntime where
  SHOPCITY_TIMEZONE : Option String
  toUpperCase : String → String
  /-- `Number(value)`, where it is an integer. -/
  integer : String → Option Int
  /-- `new Date(value)`, where it is valid. -/
  instant : String → Option Int
  toISOString : Int → String
  /-- The wall clock of a time zone, as if it were UTC, in whole seconds. -/
  localAsUtc : String → Int → Int
  /-- The database's `ILIKE`. -/
  containsInsensitive : String → String → Bool
  /-- The base64url text of a JSON object. -/
  encodeJson : String → String → String
  decodeJson : String → Option (String × String)
  encodeJson_ne : ∀ id timestamp, encodeJson id timestamp ≠ ""

/-- The texts of an id and an instant are read back as they were written. -/
structure ListingRuntime.RoundTrips (rt : ListingRuntime) (id : String) (t : Int) : Prop where
  json : rt.decodeJson (rt.encodeJson id (rt.toISOString t)) = some (id, rt.toISOString t)
  date : rt.instant (rt.toISOString t) = some t
  text : rt.toISOString t ≠ ""

/-- Rows of which each has an id of its own. -/
structure IdTable (α : Type) where
  id : α → String
  rows : List α
  nodup : (rows.map id).Nodup
  nonempty : ∀ a ∈ rows, id a ≠ ""

/-! ### Cursors -/

structure CursorPageRequest where
  limit : Nat
  cursor : Option String
  positive : 0 < limit

structure DecodedCursor where
  id : String
  timestamp : String

section cursors

variable (rt : ListingRuntime)

def parseCursorPageRequest (limitValue cursor : Option String) (defaultLimit maxLimit : Nat)
    (hmax : 0 < maxLimit) : Except Fault CursorPageRequest :=
  let parsedLimit := match limitValue.filter (· ≠ "") with
    | some value => rt.integer value
    | none => some (defaultLimit : Int)
  match parsedLimit with
  | some n =>
      if h : 1 ≤ n then
        .ok { limit := min n.toNat maxLimit, cursor, positive := by omega }
      else .error (badRequest "Pagination limit must be a positive integer")
  | none => .error (badRequest "Pagination limit must be a positive integer")

def decodeCursor (cursor : String) : Except Fault DecodedCursor :=
  match rt.decodeJson cursor with
  | some (id, timestamp) =>
      if id = "" ∨ timestamp = "" then .error (badRequest "Pagination cursor is invalid")
      else .ok ⟨id, timestamp⟩
  | none => .error (badRequest "Pagination cursor is invalid")

def encodeCursor (id : String) (timestamp : Int) : String :=
  rt.encodeJson id (rt.toISOString timestamp)

/-! ### Reading a page -/

/-- How a list reads its table. -/
structure PagedList (α : Type) where
  table : IdTable α
  /-- The column the rows are ordered by, before their ids. -/
  orderBy : α → Int
  /-- Whether the cursor adds the condition that rows come after it. -/
  keyset : Bool
  /-- Whether the cursor is given to `findMany`, with `skip: 1`. -/
  cursorRow : Bool
  /-- What the cursor's timestamp is rejected with, where it is looked at. -/
  invalidCursor : Fault
  /-- Whether it is looked at before the conditions are made. -/
  timestampFirst : Bool

namespace PagedList

variable {α : Type} (q : PagedList α)

/-- `[{ orderBy: 'desc' }, { id: 'desc' }]`. -/
def key (a : α) : Int ×ₗ String := toLex (q.orderBy a, q.table.id a)

/-- The whole list of the rows that meet a condition, in its order. -/
def full (where_ : α → Bool) : List α := descending q.key (q.table.rows.filter where_)

/-- `findMany`: the rows that meet the conditions, from the cursor row on, less those skipped. -/
def findMany (where_ : α → Bool) (cursor : Option DecodedCursor)
    (after : Option (Int ×ₗ String)) (take : Nat) : List α :=
  let rows := q.table.rows.filter fun a =>
    where_ a && (!q.keyset || after.all fun k => q.key a < k)
  let listed := descending q.key rows
  if q.cursorRow then
    match cursor with
    | none => listed.take take
    | some c =>
        match q.table.rows.find? (fun a => q.table.id a = c.id) with
        | none => []
        | some row => ((listed.filter fun a => q.key a ≤ q.key row).drop 1).take take
  else listed.take take

/-- The place that a cursor names, where the keyset condition needs it. -/
def after (cursor : Option DecodedCursor) : Except Fault (Option (Int ×ₗ String)) :=
  match cursor with
  | none => .ok none
  | some c =>
      if q.keyset then
        match rt.instant c.timestamp with
        | some t => .ok (some (toLex (t, c.id)))
        | none => .error q.invalidCursor
      else .ok none

/-- The place after which a page begins, and the conditions on its rows. -/
def located (conditions : Except Fault (α → Bool)) (decoded : Option DecodedCursor) :
    Except Fault (Option (Int ×ₗ String) × (α → Bool)) :=
  if q.timestampFirst then do
    let after ← q.after rt decoded
    let where_ ← conditions
    pure (after, where_)
  else do
    let where_ ← conditions
    let after ← q.after rt decoded
    pure (after, where_)

/-- A page of the rows that meet the conditions of a request: one row more than the limit is
read, and the last row shown makes the cursor. An empty text is no cursor. -/
def page (conditions : Except Fault (α → Bool)) (request : CursorPageRequest) :
    Except Fault (Page α String) := do
  let decoded ← match request.cursor.filter (· ≠ "") with
    | none => .ok none
    | some cursor => (decodeCursor rt cursor).map some
  let (after, where_) ← q.located rt conditions decoded
  let rows := q.findMany where_ decoded after (request.limit + 1)
  pure (pageOf (fun a => encodeCursor rt (q.table.id a) (q.orderBy a)) request.limit rows)

end PagedList

end cursors

def forbidden (message : String) : Fault := .http 403 "FORBIDDEN" message

/-- The branch a list is limited to: none for an administrator. -/
def listBranchScope (actor : AuthContext) : Except Fault (Option String) :=
  if actor.role = .ADMIN then .ok none
  else match actor.branchId.filter (· ≠ "") with
    | some b => .ok (some b)
    | none => .error (.http 403 "BRANCH_SCOPE_REQUIRED" "Branch scope is required")

/-- A condition that is there only where a filter is. -/
def whenGiven {β : Type} (filter : Option β) (condition : β → Bool) : Bool := filter.all condition

/-- Texts that count as given. -/
def given (value : Option String) : Option String := value.filter (· ≠ "")

/-! ### Fraud flags -/

namespace FraudReviewService

structure FraudFlagRow where
  id : String
  tenantId : String
  branchId : Option String
  status : FraudFlagStatus
  severity : FraudSeverity
  ruleCode : String
  cashierId : Option String
  customerId : Option String
  lastDetectedAt : Int

structure FraudFlagListQuery where
  branchId : Option String
  status : Option FraudFlagStatus
  severity : Option FraudSeverity
  ruleCode : Option String
  actorId : Option String
  customerId : Option String
  from_ : Option String
  to_ : Option String

/-- The branch of a scope, where it is one. -/
def resolveScope (branches : String → Option Branch) (actor : AuthContext)
    (branchId : Option String) : Except Fault (Option String) :=
  let exists_ (id : String) : Except Fault (Option String) :=
    if (branches id).any (fun b => b.tenantId = actor.tenantId) then .ok (some id)
    else .error (.http 404 "NOT_FOUND" "Fraud branch not found")
  if actor.role = .ADMIN then
    match given branchId with
    | none => .ok none
    | some id => exists_ id
  else if actor.role ≠ .SUPERVISOR then .error (forbidden "Fraud review is restricted")
  else match given actor.branchId with
    | none => .error (forbidden "Fraud review requires a branch scope")
    | some own =>
        if (given branchId).any (· ≠ own) then .error (forbidden "Fraud review is branch-scoped")
        else exists_ own

def parseOptionalDate (rt : ListingRuntime) (value : Option String) (label : String) :
    Except Fault (Option Int) :=
  match given value with
  | none => .ok none
  | some text =>
      match rt.instant text with
      | some t => .ok (some t)
      | none => .error (badRequest ("Invalid " ++ label ++ " date"))

/-- `buildListWhere`, without the condition of the cursor. -/
def buildListWhere (rt : ListingRuntime) (tenantId : String) (scope : Option String)
    (query : FraudFlagListQuery) : Except Fault (FraudFlagRow → Bool) := do
  let from_ ← parseOptionalDate rt query.from_ "from"
  let to_ ← parseOptionalDate rt query.to_ "to"
  if from_.any fun f => to_.any (· < f) then
    .error (badRequest "Fraud from date must be before to date")
  else
    .ok fun flag =>
      flag.tenantId = tenantId && whenGiven scope (fun b => flag.branchId = some b) &&
        whenGiven query.status (fun s => flag.status = s) &&
        whenGiven query.severity (fun s => flag.severity = s) &&
        whenGiven (given query.ruleCode) (fun c => flag.ruleCode = c) &&
        whenGiven (given query.actorId) (fun c => flag.cashierId = some c) &&
        whenGiven (given query.customerId) (fun c => flag.customerId = some c) &&
        whenGiven from_ (fun t => t ≤ flag.lastDetectedAt) &&
        whenGiven to_ (fun t => flag.lastDetectedAt ≤ t)

/-- The keyset condition and the cursor row together. -/
def fraudFlagList (table : IdTable FraudFlagRow) : PagedList FraudFlagRow where
  table := table
  orderBy := (·.lastDetectedAt)
  keyset := true
  cursorRow := true
  invalidCursor := .http 500 "SYSTEM_ERROR" "Invalid value for argument `lt`"
  timestampFirst := false

def listFraudFlags (rt : ListingRuntime) (branches : String → Option Branch)
    (table : IdTable FraudFlagRow) (actor : AuthContext) (query : FraudFlagListQuery)
    (page : CursorPageRequest) : Except Fault (Page FraudFlagRow String) := do
  let scope ← resolveScope branches actor query.branchId
  (fraudFlagList table).page rt (buildListWhere rt actor.tenantId scope query) page

end FraudReviewService

/-! ### Issued cards -/

namespace CardsService

structure ListedCard where
  id : String
  tenantId : String
  barcodeValue : String
  status : CardStatus
  issuedAt : Int
  customerFullName : String

structure IssuedCardFilters where
  search : Option String
  status : Option CardStatus
  issuedFrom : Option String
  issuedTo : Option String

def invalidTime : Fault := .http 500 "SYSTEM_ERROR" "Invalid time value"

/-- Midnight in the time zone, approached in at most three corrections. -/
def dateAtShopCityMidnight (rt : ListingRuntime) (value timeZone : String) : Except Fault Int :=
  match rt.instant (value ++ "T00:00:00.000Z") with
  | none => .error invalidTime
  | some targetUtc =>
      let correct (t : Int) : Int := t + (targetUtc - rt.localAsUtc timeZone t)
      .ok (correct (correct (correct targetUtc)))

def nextCalendarDay (rt : ListingRuntime) (value : String) : Except Fault String :=
  match rt.instant (value ++ "T00:00:00.000Z") with
  | none => .error invalidTime
  | some t => .ok (String.ofList ((rt.toISOString (t + 24 * 60 * 60 * 1000)).toList.take 10))

def buildIssuedCardsWhere (rt : ListingRuntime) (tenantId : String) (filters : IssuedCardFilters) :
    Except Fault (ListedCard → Bool) := do
  let issuedFrom := given filters.issuedFrom
  let issuedTo := given filters.issuedTo
  if issuedFrom.any fun f => issuedTo.any fun t => decide (t < f) then
    .error (badRequest "Issued-card start date must not be after end date")
  else
    let search := given (filters.search.map trim)
    let timeZone := rt.SHOPCITY_TIMEZONE.getD "Africa/Lagos"
    let start ← match issuedFrom with
      | none => Except.ok none
      | some value => (dateAtShopCityMidnight rt value timeZone).map some
    let finish ← match issuedTo with
      | none => Except.ok none
      | some value => do
          let next ← nextCalendarDay rt value
          (dateAtShopCityMidnight rt next timeZone).map some
    .ok fun card =>
      card.tenantId = tenantId && whenGiven filters.status (fun s => card.status = s) &&
        whenGiven search (fun text => rt.containsInsensitive card.barcodeValue text ||
          rt.containsInsensitive card.customerFullName text) &&
        whenGiven start (fun t => t ≤ card.issuedAt) &&
          whenGiven finish (fun t => card.issuedAt < t)

def issuedCardList (table : IdTable ListedCard) : PagedList ListedCard where
  table := table
  orderBy := (·.issuedAt)
  keyset := true
  cursorRow := false
  invalidCursor := badRequest "Issued-card cursor is invalid"
  timestampFirst := true

def listIssuedManagementCards (rt : ListingRuntime) (table : IdTable ListedCard) (tenantId : String)
    (page : CursorPageRequest) (filters : IssuedCardFilters) :
    Except Fault (Page ListedCard String) :=
  (issuedCardList table).page rt (buildIssuedCardsWhere rt tenantId filters) page

end CardsService

namespace LoyaltyService

/-! ### Transactions and ledgers -/

structure ListedReceipt where
  tenantId : String
  branchId : String
  normalizedPosReceiptNumber : String
  capturedBy : String
  purchaseAmountKobo : Int

structure ListedEntry where
  id : String
  tenantId : String
  customerId : String
  customerBranchId : String
  type : LedgerEntryType
  effectiveAt : Int
  receipt : Option ListedReceipt
  /-- The tenants of the entries that reverse it. -/
  reversedBy : List String

structure SupervisorTransactionSearchFilters where
  staffId : Option String
  minReceiptAmountKobo : Option String
  status : Option String

def parseMinimumReceiptAmount (value : Option String) : Except Fault (Option Int) :=
  match given (value.map trim) with
  | none => .ok none
  | some text =>
      if ¬ (text.toList.all Char.isDigit ∧ text.length ≤ 19) then
        .error (badRequest "Minimum receipt amount must be integer kobo")
      else if 9223372036854775807 < (text.toNat?.getD 0 : Int) then
        .error (badRequest "Minimum receipt amount is out of range")
      else .ok (some (text.toNat?.getD 0))

/-- The branch of a supervisor. -/
def transactionSearchBranch (actor : AuthContext) : Except Fault String :=
  if actor.role ≠ .SUPERVISOR then
    .error (forbidden "Supervisor transaction search is restricted")
  else match given actor.branchId with
    | none => .error (forbidden "Supervisor transaction search requires a branch scope")
    | some branchId => .ok branchId

def transactionSearchWhere (rt : ListingRuntime) (tenantId branchId : String)
    (receiptNumber : Option String) (filters : SupervisorTransactionSearchFilters) :
    Except Fault (ListedEntry → Bool) := do
  let normalizedReceiptNumber := (given (receiptNumber.map trim)).map rt.toUpperCase
  let normalizedStatus := (given (filters.status.map trim)).map rt.toUpperCase
  if normalizedStatus.any fun s => s ≠ "CONFIRMED" && s ≠ "REVERSED" then
    .error (badRequest "Unsupported transaction status filter")
  else
    let staffId := given (filters.staffId.map trim)
    let minimum ← parseMinimumReceiptAmount filters.minReceiptAmountKobo
    .ok fun entry =>
      entry.tenantId = tenantId && (entry.type = .EARN || entry.type = .REDEEM) &&
        entry.receipt.any (fun r => r.tenantId = tenantId && r.branchId = branchId &&
          whenGiven normalizedReceiptNumber (fun n => r.normalizedPosReceiptNumber = n) &&
          whenGiven staffId (fun id => r.capturedBy = id) &&
          whenGiven minimum (fun k => k ≤ r.purchaseAmountKobo)) &&
        whenGiven normalizedStatus (fun s => (s = "REVERSED") = (tenantId ∈ entry.reversedBy))

def transactionList (table : IdTable ListedEntry) : PagedList ListedEntry where
  table := table
  orderBy := (·.effectiveAt)
  keyset := true
  cursorRow := false
  invalidCursor := badRequest "cursor timestamp must be a valid date-time"
  timestampFirst := true

def searchTransactionsByReceipt (rt : ListingRuntime) (table : IdTable ListedEntry)
    (actor : AuthContext) (receiptNumber limitValue cursor : Option String)
    (filters : SupervisorTransactionSearchFilters) : Except Fault (Page ListedEntry String) := do
  let branchId ← transactionSearchBranch actor
  let page ← parseCursorPageRequest rt limitValue cursor 10 50 (by decide)
  (transactionList table).page rt
    (transactionSearchWhere rt actor.tenantId branchId receiptNumber filters) page

def buildCustomerLedgerWhere (actor : AuthContext) (customerId : String) :
    Except Fault (ListedEntry → Bool) := do
  let branchId ← listBranchScope actor
  .ok fun entry => entry.tenantId = actor.tenantId && entry.customerId = customerId &&
    whenGiven branchId (fun b => entry.customerBranchId = b)

def customerLedger (table : IdTable ListedEntry) : PagedList ListedEntry where
  table := table
  orderBy := (·.effectiveAt)
  keyset := false
  cursorRow := true
  invalidCursor := badRequest "Pagination cursor is invalid"
  timestampFirst := true

def listCustomerLedger (rt : ListingRuntime) (table : IdTable ListedEntry) (actor : AuthContext)
    (customerId : String) (page : CursorPageRequest) : Except Fault (Page ListedEntry String) :=
  (customerLedger table).page rt (buildCustomerLedgerWhere actor customerId) page

/-! ### Approvals -/

inductive ApprovalTargetType | EARN | REDEEM
  deriving DecidableEq

inductive ApprovalCategory | HIGH_VALUE_TRANSACTION | LATE_RECEIPT_CLAIM
  deriving DecidableEq

structure ListedApprovalReceipt where
  branchId : String
  posReceiptNumber : String
  purchaseAmountKobo : Int
  customerFullName : String

structure ListedApprovalRedemption where
  requestedAmountKobo : Int
  customerFullName : String
  receipt : ListedApprovalReceipt

structure ListedApproval where
  id : String
  tenantId : String
  status : ApprovalStatus
  reasonCode : Option String
  targetType : ApprovalTargetType
  requestedAt : Int
  requestedByUsername : Option String
  receiptId : Option String
  redemptionId : Option String
  receipt : Option ListedApprovalReceipt
  redemption : Option ListedApprovalRedemption

def reasonCodesForApprovalCategory : ApprovalCategory → List String
  | .LATE_RECEIPT_CLAIM => [LATE_RECEIPT_APPROVAL_REASON_CODE]
  | .HIGH_VALUE_TRANSACTION =>
      ["PURCHASE_ABOVE_APPROVAL_THRESHOLD", "REDEMPTION_ABOVE_APPROVAL_THRESHOLD"]

/-- The currency sign at the start of a text, in either case. -/
def dropCurrency : List Char → List Char
  | '₦' :: rest => rest.dropWhile isWhiteSpace
  | a :: b :: c :: rest =>
      if [a.toUpper, b.toUpper, c.toUpper] = ['N', 'G', 'N'] then rest.dropWhile isWhiteSpace
      else a :: b :: c :: rest
  | text => text

/-- The same sign at the end; read backwards it is the same word. -/
def dropCurrencyEnd (text : List Char) : List Char := (dropCurrency text.reverse).reverse

/-- An amount in naira with at most two decimals, in kobo. -/
def parseApprovalAmountSearch (value : String) : Option Int :=
  let text := dropCurrencyEnd (dropCurrency (trim value).toList)
  let normalized := (trim (String.ofList (text.filter (· ≠ ',')))).toList
  let naira := normalized.takeWhile (· ≠ '.')
  let fraction := normalized.drop (naira.length + 1)
  if naira ≠ [] ∧ naira.all Char.isDigit ∧ fraction.all Char.isDigit ∧ fraction.length ≤ 2 ∧
      (naira.length < normalized.length → fraction ≠ []) then
    let kobo : Nat := (String.ofList naira).toNat?.getD 0 * 100 +
      (String.ofList (fraction ++ ['0', '0'] |>.take 2)).toNat?.getD 0
    if kobo ≤ 9223372036854775807 then some kobo else none
  else none

def isHexDigit (c : Char) : Bool := c.isDigit || ('a' ≤ c.toLower && c.toLower ≤ 'f')

/-- Whether a text is a uuid of a known version and variant. -/
def isUuid (text : String) : Bool :=
  match text.toList.splitOn '-' with
  | [a, b, c, d, e] =>
      a.length = 8 && b.length = 4 && c.length = 4 && d.length = 4 && e.length = 12 &&
        [a, b, c, d, e].all (·.all isHexDigit) &&
        c.head?.any (fun v => '1' ≤ v && v ≤ '8') &&
        d.head?.any (fun v => v.toLower ∈ ['8', '9', 'a', 'b'])
  | _ => false

def displayType : ApprovalTargetType → String
  | .EARN => "PURCHASE"
  | .REDEEM => "REDEMPTION"

def typeText : ApprovalTargetType → String
  | .EARN => "EARN"
  | .REDEEM => "REDEEM"

/-- `String.prototype.includes`. -/
def includes (text part : String) : Bool := text.toList.tails.any (part.toList.isPrefixOf ·)

def approvalSearchWhere (rt : ListingRuntime) (search : String) (a : ListedApproval) : Bool :=
  let contains (text : String) : Bool := rt.containsInsensitive text search
  let spaced := String.ofList (search.toList.map fun c => if c = ' ' then '_' else c)
  let typeQuery := rt.toUpperCase search
  let amountKobo := parseApprovalAmountSearch search
  a.reasonCode.any contains ||
    (includes search " " && a.reasonCode.any fun code => rt.containsInsensitive code spaced) ||
    a.requestedByUsername.any contains ||
    a.receipt.any (fun r => contains r.posReceiptNumber || contains r.customerFullName) ||
    a.redemption.any
      (fun r => contains r.receipt.posReceiptNumber || contains r.customerFullName) ||
    includes (typeText a.targetType) typeQuery || includes (displayType a.targetType) typeQuery ||
    amountKobo.any (fun k => a.receipt.any (fun r => r.purchaseAmountKobo = k) ||
      a.redemption.any (fun r => r.requestedAmountKobo = k)) ||
    (isUuid search && (a.id = search || a.receiptId = some search || a.redemptionId = some search))

def buildApprovalListWhere (rt : ListingRuntime) (actor : AuthContext)
    (statuses : Option (List ApprovalStatus)) (search : Option String)
    (category : Option ApprovalCategory) : Except Fault (ListedApproval → Bool) := do
  let branchId ← listBranchScope actor
  .ok fun a =>
    a.tenantId = actor.tenantId && whenGiven statuses (fun l => a.status ∈ l) &&
      whenGiven branchId (fun b => a.receipt.any (fun r => r.branchId = b) ||
        a.redemption.any (fun r => r.receipt.branchId = b)) &&
      whenGiven (given (search.map trim)) (fun text => approvalSearchWhere rt text a) &&
      whenGiven category (fun c =>
        a.reasonCode.any fun code => code ∈ reasonCodesForApprovalCategory c)

def approvalList (table : IdTable ListedApproval) : PagedList ListedApproval where
  table := table
  orderBy := (·.requestedAt)
  keyset := false
  cursorRow := true
  invalidCursor := badRequest "Pagination cursor is invalid"
  timestampFirst := true

def listApprovals (rt : ListingRuntime) (table : IdTable ListedApproval) (actor : AuthContext)
    (page : CursorPageRequest) (statuses : Option (List ApprovalStatus)) (search : Option String)
    (category : Option ApprovalCategory) : Except Fault (Page ListedApproval String) :=
  (approvalList table).page rt (buildApprovalListWhere rt actor statuses search category) page

end LoyaltyService

/-! ### Requests for a page -/

structure ListedTables where
  branches : String → Option Branch
  fraudFlags : IdTable FraudReviewService.FraudFlagRow
  cards : IdTable CardsService.ListedCard
  entries : IdTable LoyaltyService.ListedEntry
  approvals : IdTable LoyaltyService.ListedApproval

/-- What a list is asked for, page and cursor apart. -/
inductive ListRequest
  | fraudFlags (actor : AuthContext) (query : FraudReviewService.FraudFlagListQuery)
  | issuedCards (tenantId : String) (filters : CardsService.IssuedCardFilters)
  | transactions (actor : AuthContext) (receiptNumber : Option String)
      (filters : LoyaltyService.SupervisorTransactionSearchFilters)
  | customerLedger (actor : AuthContext) (customerId : String)
  | approvals (actor : AuthContext) (statuses : Option (List ApprovalStatus))
      (search : Option String) (category : Option LoyaltyService.ApprovalCategory)

namespace ListRequest

abbrev Row : ListRequest → Type
  | fraudFlags .. => FraudReviewService.FraudFlagRow
  | issuedCards .. => CardsService.ListedCard
  | transactions .. => LoyaltyService.ListedEntry
  | customerLedger .. => LoyaltyService.ListedEntry
  | approvals .. => LoyaltyService.ListedApproval

/-- The controllers: the page asked for, from the texts of its limit and its cursor. -/
def fetch (rt : ListingRuntime) (tables : ListedTables) (limitValue : Option String) :
    (r : ListRequest) → Option String → Except Fault (Page r.Row String)
  | fraudFlags actor query, cursor => do
      let page ← parseCursorPageRequest rt limitValue cursor 50 100 (by decide)
      FraudReviewService.listFraudFlags rt tables.branches tables.fraudFlags actor query page
  | issuedCards tenantId filters, cursor => do
      let page ← parseCursorPageRequest rt limitValue cursor 25 100 (by decide)
      CardsService.listIssuedManagementCards rt tables.cards tenantId page filters
  | transactions actor receiptNumber filters, cursor =>
      LoyaltyService.searchTransactionsByReceipt rt tables.entries actor receiptNumber limitValue
        cursor filters
  | customerLedger actor customerId, cursor => do
      let page ← parseCursorPageRequest rt limitValue cursor 50 100 (by decide)
      LoyaltyService.listCustomerLedger rt tables.entries actor customerId page
  | approvals actor statuses search category, cursor => do
      let page ← parseCursorPageRequest rt limitValue cursor 50 100 (by decide)
      LoyaltyService.listApprovals rt tables.approvals actor page statuses search category

/-- How the list reads its table. -/
def list (tables : ListedTables) : (r : ListRequest) → PagedList r.Row
  | fraudFlags .. => FraudReviewService.fraudFlagList tables.fraudFlags
  | issuedCards .. => CardsService.issuedCardList tables.cards
  | transactions .. => LoyaltyService.transactionList tables.entries
  | customerLedger .. => LoyaltyService.customerLedger tables.entries
  | approvals .. => LoyaltyService.approvalList tables.approvals

/-- The conditions on the rows, where the request is in order. -/
def conditions (rt : ListingRuntime) (tables : ListedTables) :
    (r : ListRequest) → Except Fault (r.Row → Bool)
  | fraudFlags actor query => do
      let scope ← FraudReviewService.resolveScope tables.branches actor query.branchId
      FraudReviewService.buildListWhere rt actor.tenantId scope query
  | issuedCards tenantId filters => CardsService.buildIssuedCardsWhere rt tenantId filters
  | transactions actor receiptNumber filters => do
      let branchId ← LoyaltyService.transactionSearchBranch actor
      LoyaltyService.transactionSearchWhere rt actor.tenantId branchId receiptNumber filters
  | customerLedger actor customerId => LoyaltyService.buildCustomerLedgerWhere actor customerId
  | approvals actor statuses search category =>
      LoyaltyService.buildApprovalListWhere rt actor statuses search category

/-- The number of rows on a page. -/
def limit (rt : ListingRuntime) (limitValue : Option String) : ListRequest → Except Fault Nat
  | issuedCards .. =>
      (parseCursorPageRequest rt limitValue none 25 100 (by decide)).map (·.limit)
  | transactions .. =>
      (parseCursorPageRequest rt limitValue none 10 50 (by decide)).map (·.limit)
  | _ => (parseCursorPageRequest rt limitValue none 50 100 (by decide)).map (·.limit)

end ListRequest

end ShopcityLoyalty
