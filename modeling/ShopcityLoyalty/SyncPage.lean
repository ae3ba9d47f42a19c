import ShopcityLoyalty.EarnForm
import ShopcityLoyalty.Lib.Process

/-!
The sync page: it submits the queueable records of the device in one batch and writes the
result of each back to the store.

Pages share the object store. Each transaction of the store, each request and its answer is
one statement of a process, and a page that closes stops at the statement it has reached. A
page acts on the records it last listed, which the store may have left behind.
-/

namespace ShopcityLoyalty

/-- The store of the device, and the batches that were submitted, in order. -/
structure DeviceState where
  records : OfflineStore
  submitted : List (List OfflineEarnBatchRecordInput)

/-- The answer to a submitted batch. -/
inductive BatchAnswer
  /-- Status 200, with one result for each record of the batch. -/
  | results (result : OfflineEarnBatchRecordInput → OfflineEarnBatchRecordResult)
  | status (code : Nat)
  | throws

/-- What the browser supplies to a statement. -/
structure DeviceInput where
  /-- The error with which a write to the storage fails. -/
  failure : Option String
  /-- The records cannot be listed. -/
  listingFails : Bool
  answer : BatchAnswer

abbrev PageProcess (α : Type) := Process DeviceInput DeviceState Empty α

/-- What a page shows after an action: its message, and the records it listed, where it
could. -/
structure PageView where
  message : String
  records : Option OfflineStore

namespace SyncPage

def queueable (state : OfflineEarnRecordState) : Bool :=
  state = .waitingToSync || state = .retryRequired || state = .savedOnDevice

def queueableRecords (records : OfflineStore) : OfflineStore :=
  records.filter fun r => queueable r.syncState

def mapSyncState : OfflineSyncRecordStatus → OfflineEarnRecordState
  | .CONFIRMED => .confirmed
  | .PENDING_APPROVAL => .awaitingApproval
  | .REJECTED => .rejected
  | .RETRYABLE => .retryRequired

/-! ### Statements -/

/-- A transaction of the object store. -/
def write (f : Option String → OfflineStore → OfflineWriteResult × OfflineStore) :
    PageProcess OfflineWriteResult :=
  Process.statement fun env s =>
    ((f env.failure s.records).1, { s with records := (f env.failure s.records).2 })

def update (localId : String) (updater : OfflineEarnRecord → OfflineEarnRecord) :
    PageProcess OfflineWriteResult :=
  write fun failure => updateOfflineEarnRecord failure localId updater

/-- The records are listed anew. -/
def refresh : PageProcess PageView :=
  Process.statement fun env s =>
    if env.listingFails then (⟨"Unable to load saved purchases.", none⟩, s)
    else (⟨"", some s.records⟩, s)

/-- The request is sent and, later, answered. -/
def post (batch : List OfflineEarnBatchRecordInput) : PageProcess BatchAnswer := do
  Process.statement fun _ s => ((), { s with submitted := s.submitted ++ [batch] })
  Process.statement fun env s => (env.answer, s)

/-! ### Actions -/

def firstError : List OfflineWriteResult → Option String
  | [] => none
  | .ok :: results => firstError results
  | .error e :: _ => some e

def markSyncing (record : OfflineEarnRecord) : PageProcess OfflineWriteResult :=
  update record.localId fun current => { current with syncState := .syncing, lastError := none }

def markRetryRequired (message : String) (record : OfflineEarnRecord) :
    PageProcess OfflineWriteResult :=
  update record.localId fun current =>
    { current with syncState := .retryRequired, lastError := some message }

def applyResult (result : OfflineEarnBatchRecordResult) (record : OfflineEarnRecord) :
    OfflineEarnRecord :=
  { record with
    syncState := mapSyncState result.status
    lastError := result.errorCode.or
      (match result.status with
        | .RETRYABLE => some "Retry required"
        | .REJECTED => some "Rejected"
        | _ => none)
    serverTransactionId := result.transactionId
    serverApprovalId := result.approvalId }

def storeResult (result : OfflineEarnBatchRecordResult) : PageProcess OfflineWriteResult :=
  update result.localId (applyResult result)

def markBatchUnavailable (batch : OfflineStore) (message : String) : PageProcess PageView := do
  let retryWrites ← Process.collect (markRetryRequired message) batch
  let view ← refresh
  pure { view with
    message := match firstError retryWrites with
      | some e => message ++ " Local retry state could not be saved: " ++ e
      | none => message }

def storeResults (results : List OfflineEarnBatchRecordResult) : PageProcess PageView := do
  let resultWrites ← Process.collect storeResult results
  let view ← refresh
  pure { view with
    message := match firstError resultWrites with
      | some e => "Batch completed, but local result storage failed: " ++ e
      | none => "Batch submitted. Review per-record results below." }

/-- `syncBatch`, on the records the page listed before. -/
def syncBatch (deviceId : String) (records : Option OfflineStore) : PageProcess PageView :=
  match records with
  | none => pure ⟨"Saved purchases are unavailable in this session.", none⟩
  | some listed =>
      if trim deviceId = "" then
        pure ⟨"Authenticated device ID is unavailable. Reconnect the session.", some listed⟩
      else if queueableRecords listed = [] then
        pure ⟨"No waiting, saved, or retryable offline records to sync.", some listed⟩
      else do
        let syncingWrites ← Process.collect markSyncing (queueableRecords listed)
        match firstError syncingWrites with
        -- the refresh replaces the message about the failed write
        | some _ => refresh
        | none => do
            let batch := (queueableRecords listed).map (·.input)
            let answer ← post batch
            match answer with
            | .results result =>
                storeResults (batch.map fun r => { result r with localId := r.localId })
            | .status code =>
                markBatchUnavailable (queueableRecords listed)
                  ("Batch sync unavailable (" ++ toString code ++ ").")
            | .throws =>
                markBatchUnavailable (queueableRecords listed) "Batch sync unavailable."

/-- `retryRecord`; whatever message its write leads to, the refresh replaces it. -/
def retryRecord (localId : String) : PageProcess PageView := do
  let _ ← update localId fun record =>
    { record with syncState := .waitingToSync, lastError := none }
  refresh

/-- `clearConfirmed`, on the records the page listed before. -/
def clearConfirmed (browser : Browser) (clearConfirmation : String) (records : OfflineStore) :
    PageProcess PageView :=
  if browser.toUpperCase (trim clearConfirmation) ≠ "CLEAR" then
    pure ⟨"Type CLEAR to remove confirmed records.", some records⟩
  else do
    let deleteResults ← Process.collect
      (fun r : OfflineEarnRecord => write fun failure => deleteOfflineEarnRecord failure r.localId)
      (records.filter fun r => r.syncState = .confirmed)
    let view ← refresh
    match firstError deleteResults with
    | some _ => pure view
    | none => pure { view with message := "Confirmed records cleared." }

/-- The earn form saves a purchase it could not submit. -/
def saveSubmission (browser : Browser) (props : EarnTransactionControllerProps)
    (fields : EarnFields) (localId idempotencyKey : String) : PageProcess PageView :=
  match EarnTransactionController.offlineRecord browser props fields localId idempotencyKey with
  | none => pure ⟨"Earn could not be submitted.", none⟩
  | some record => do
      let result ← write fun failure => saveOfflineEarnRecord failure record
      pure
        { message := match result with
            | .ok => "Earn could not be submitted. Saved locally for sync."
            | .error e => "Earn could not be saved locally for sync (" ++ e ++ ")."
          records := none }

/-- What the pages of a device do. -/
inductive Task
  | syncBatch (deviceId : String) (records : Option OfflineStore)
  | retryRecord (localId : String)
  | clearConfirmed (clearConfirmation : String) (records : OfflineStore)
  | saveSubmission (props : EarnTransactionControllerProps) (fields : EarnFields)
      (localId idempotencyKey : String)

def program (browser : Browser) : Task → PageProcess PageView
  | .syncBatch deviceId records => SyncPage.syncBatch deviceId records
  | .retryRecord localId => SyncPage.retryRecord localId
  | .clearConfirmed confirmation records => SyncPage.clearConfirmed browser confirmation records
  | .saveSubmission props fields localId idempotencyKey =>
      SyncPage.saveSubmission browser props fields localId idempotencyKey

abbrev Pages := Pool Task DeviceInput DeviceState Empty PageView

def emptyDevice : DeviceState := ⟨[], []⟩

end SyncPage

end ShopcityLoyalty
