import ShopcityLoyalty.Policy

/-!
The purchases a cashier's device keeps while the server cannot be reached: the records, the
object store that holds them under their local ids, and what a write does to it.

The language's library answers what a text names as an instant, which date an instant has in
a time zone, and the identifiers drawn at random.
-/

namespace ShopcityLoyalty

inductive OfflineEarnRecordState
  | savedOnDevice | waitingToSync | syncing | confirmed | awaitingApproval | rejected
  | retryRequired
  deriving DecidableEq

structure OfflineEarnRecord where
  localId : String
  idempotencyKey : String
  cashierId : String
  branchId : String
  deviceId : String
  customerId : Option String
  cardBarcode : String
  receiptNumber : String
  receiptWeekStart : String
  purchaseAmountKobo : Int
  occurredAtLocal : String
  syncState : OfflineEarnRecordState
  lastError : Option String
  serverTransactionId : Option Nat
  serverApprovalId : Option Nat
  deriving DecidableEq

/-! ### What device and server exchange -/

structure OfflineEarnBatchRecordInput where
  localId : String
  idempotencyKey : String
  cashierId : String
  branchId : String
  cardBarcode : String
  receiptNumber : String
  receiptWeekStart : String
  purchaseAmountKobo : Int
  occurredAtLocal : String
  deriving DecidableEq

inductive OfflineSyncRecordStatus | CONFIRMED | PENDING_APPROVAL | REJECTED | RETRYABLE
  deriving DecidableEq

structure OfflineEarnBatchRecordResult where
  localId : String
  status : OfflineSyncRecordStatus
  transactionId : Option Nat
  approvalId : Option Nat
  creditEarnedKobo : Option Int
  errorCode : Option String
  retryable : Bool
  deriving DecidableEq

/-- What is submitted of a record. -/
def OfflineEarnRecord.input (record : OfflineEarnRecord) : OfflineEarnBatchRecordInput where
  localId := record.localId
  idempotencyKey := record.idempotencyKey
  cashierId := record.cashierId
  branchId := record.branchId
  cardBarcode := record.cardBarcode
  receiptNumber := record.receiptNumber
  receiptWeekStart := record.receiptWeekStart
  purchaseAmountKobo := record.purchaseAmountKobo
  occurredAtLocal := record.occurredAtLocal

/-! ### The object store -/

inductive OfflineWriteResult
  | ok
  | error (message : String)
  deriving DecidableEq

/-- The records, each under its local id. -/
abbrev OfflineStore := List OfflineEarnRecord

namespace OfflineStore

def get (store : OfflineStore) (localId : String) : Option OfflineEarnRecord :=
  store.find? fun r => r.localId = localId

def put (store : OfflineStore) (record : OfflineEarnRecord) : OfflineStore :=
  if store.any fun r => r.localId = record.localId then
    store.map fun r => if r.localId = record.localId then record else r
  else store ++ [record]

def delete (store : OfflineStore) (localId : String) : OfflineStore :=
  store.filter fun r => r.localId ≠ localId

end OfflineStore

/-- A write, unless the storage fails. -/
def runWrite (failure : Option String) (action : OfflineStore → OfflineStore)
    (store : OfflineStore) : OfflineWriteResult × OfflineStore :=
  match failure with
  | some e => (.error e, store)
  | none => (.ok, action store)

def saveOfflineEarnRecord (failure : Option String) (record : OfflineEarnRecord)
    (store : OfflineStore) : OfflineWriteResult × OfflineStore :=
  if trim record.deviceId = "" ∨ trim record.branchId = "" then
    (.error "Device and branch context are required for offline records", store)
  else runWrite failure (·.put record) store

def updateOfflineEarnRecord (failure : Option String) (localId : String)
    (updater : OfflineEarnRecord → OfflineEarnRecord) (store : OfflineStore) :
    OfflineWriteResult × OfflineStore :=
  runWrite failure (fun s =>
    match s.get localId with
    | some current => s.put (updater current)
    | none => s) store

def deleteOfflineEarnRecord (failure : Option String) (localId : String) (store : OfflineStore) :
    OfflineWriteResult × OfflineStore :=
  runWrite failure (·.delete localId) store

/-! ### What a write leaves -/

section store

variable {store : OfflineStore} {record r : OfflineEarnRecord} {localId : String}

/-- A record after a `put` is the one put or an old one under another id. -/
lemma OfflineStore.mem_put :
    r ∈ store.put record ↔ r = record ∨ (r ∈ store ∧ r.localId ≠ record.localId) := by
  unfold OfflineStore.put
  split
  · rename_i hany
    simp only [List.any_eq_true, decide_eq_true_eq] at hany
    simp only [List.mem_map]
    constructor
    · rintro ⟨x, hx, rfl⟩
      by_cases heq : x.localId = record.localId
      · simp [heq]
      · simp [heq, hx]
    · rintro (rfl | ⟨hr, hne⟩)
      · obtain ⟨x, hx, heq⟩ := hany
        exact ⟨x, hx, by simp [heq]⟩
      · exact ⟨r, hr, by simp [hne]⟩
  · rename_i hany
    simp only [List.any_eq_true, decide_eq_true_eq, not_exists, not_and] at hany
    simp only [List.mem_append, List.mem_singleton]
    constructor
    · rintro (hr | hr)
      · exact .inr ⟨hr, hany r hr⟩
      · exact .inl hr
    · rintro (hr | ⟨hr, -⟩)
      · exact .inr hr
      · exact .inl hr

lemma OfflineStore.get_some (h : store.get localId = some r) : r ∈ store ∧ r.localId = localId := by
  refine ⟨List.mem_of_find?_eq_some h, ?_⟩
  simpa using List.find?_some h

end store

/-! ### The language's library -/

/-- What the browser's library answers. An identifier drawn at random is never drawn again. -/
structure Browser where
  randomUUID : Nat → String
  randomUUID_injective : Function.Injective randomUUID
  /-- The instant that a text names: `Date.parse`. -/
  parse : String → Option Int
  /-- The local date of an instant in a time zone: `Intl.DateTimeFormat`. -/
  localDate : String → Int → Calendar.Date
  /-- The short name of its weekday. -/
  localWeekday : String → Int → String
  toUpperCase : String → String

/-- `toISOString().slice(0, 10)`. -/
def isoDay (instant : Int) : String :=
  String.ofList ((Calendar.toISOString instant).toList.take 10)

def weekdayNames : List String := ["Sun", "Mon", "Tue", "Wed", "Thu", "Fri", "Sat"]

/-- `deriveReceiptWeekStart` of the earn form; `none` where it throws. -/
def deriveOfflineReceiptWeekStart (browser : Browser) (timezone : Option String)
    (receiptWeekStartDay : Option Int) (occurredAt : String) : Option String := do
  let reference ← browser.parse occurredAt
  match receiptWeekStartDay with
  | none => pure (isoDay reference)
  | some startDay =>
      if startDay < 0 ∨ 6 < startDay then pure (isoDay reference)
      else
        match weekdayNames.idxOf? (browser.localWeekday (timezone.getD "UTC") reference) with
        | none => pure (isoDay reference)
        | some weekday =>
            let deltaDays := (7 + weekday - startDay) % 7
            let date := browser.localDate (timezone.getD "UTC") reference
            if date.year = 0 ∨ date.month = 0 ∨ date.day = 0 then pure (isoDay reference)
            else pure (isoDay (dateUTC date 0 - deltaDays * Calendar.msPerDay))

end ShopcityLoyalty
