import ShopcityLoyalty.Lib.Calendar
import ShopcityLoyalty.Lib.Csv
import ShopcityLoyalty.Lib.JsonValues
import ShopcityLoyalty.Schema

/-!
The CSV export of the reports: cells are masked, normalized, guarded against formulas and
quoted, and the file is read back to exactly these cells.
-/

namespace ShopcityLoyalty

inductive ReportExportName
  | executiveSummary | liabilityAgeing | customerPerformance | cashierActivity
  | redemptionSummary | smsOperations | auditReport | materializationState
  deriving DecidableEq

/-- A value in a row of a report. -/
inductive CellValue
  | undefined
  | null
  | string (s : String)
  | date (instant : Int)
  | bigint (n : Int)
  | number (n : JsNumber)
  | boolean (b : Bool)
  | array (elements : List (JsonValue Decimal))
  | object (fields : List (String × JsonValue Decimal))
  /-- A function or a symbol. -/
  | other

/-- A row holds a value under every column; under a column it does not have, `undefined`. -/
abbrev ReportRow := String → CellValue

namespace ReportExportService

def reportColumns : ReportExportName → List String
  | .executiveSummary =>
      ["scope", "scopeKey", "branchId", "reportDate", "registeredCustomers", "activeCustomers",
        "transactionCount", "loyaltyPurchaseValueKobo", "creditIssuedKobo", "creditRedeemedKobo",
        "creditExpiredKobo", "outstandingLiabilityKobo", "materializedAt"]
  | .liabilityAgeing =>
      ["scope", "scopeKey", "branchId", "reportDate", "expiryMonth", "ageBucket", "customerCount",
        "lotCount", "outstandingKobo", "materializedAt"]
  | .customerPerformance =>
      ["scope", "scopeKey", "branchId", "customerId", "reportDate", "purchaseValueKobo",
        "currentBalanceKobo", "visitCount", "lastActivityAt", "dormant", "materializedAt"]
  | .cashierActivity =>
      ["scope", "scopeKey", "branchId", "cashierId", "reportDate", "transactionCount",
        "purchaseValueKobo", "creditIssuedKobo", "redemptionCount", "redemptionValueKobo",
        "duplicateAttempts", "reversalCount", "approvalRequests", "fraudFlagCount",
          "materializedAt"]
  | .redemptionSummary =>
      ["scope", "scopeKey", "branchId", "reportDate", "redemptionCount", "requestedKobo",
        "confirmedKobo", "reversedKobo", "pendingApprovalCount", "basketRatioBps", "lotsConsumed",
        "allocationCount", "endingBalanceKobo", "approvedCount", "rejectedCount",
        "expiredApprovalCount", "materializedAt"]
  | .smsOperations =>
      ["scope", "scopeKey", "branchId", "reportDate", "totalCount", "queuedCount", "sentCount",
        "deliveredCount", "failedCount", "suppressedCount", "retryCount", "deadLetterCount",
        "costStatus", "materializedAt"]
  | .auditReport =>
      ["tenantId", "actorId", "actorTenantId", "action", "entityType", "entityId", "requestId",
        "createdAt"]
  | .materializationState =>
      ["scope", "scopeKey", "branchId", "asOf", "status", "lastError", "materializedAt",
        "updatedAt"]

/-- The first three and the last two digits, with a star for each digit between them. -/
def maskPhone (value : String) : String :=
  let digits := value.toList.filter Char.isDigit
  if digits.length ≤ 4 then "***"
  else String.ofList (digits.take 3 ++ List.replicate (digits.length - 5) '*' ++
    digits.drop (digits.length - 2))

/-- `/^\+?\d{10,15}$/`. -/
def isPhone (value : String) : Bool :=
  let digits := match value.toList with
    | '+' :: rest => rest
    | text => text
  10 ≤ digits.length && digits.length ≤ 15 && digits.all Char.isDigit

def maskCell (value : CellValue) (mask : Bool) : CellValue :=
  match value with
  | .string text => if mask && isPhone text then .string (maskPhone text) else value
  | _ => value

def normalizeCellValue : CellValue → String
  | .null => ""
  | .undefined => ""
  | .string text => text
  | .date instant => Calendar.toISOString instant
  | .bigint n => toString n
  | .number n => n.text
  | .boolean b => if b then "true" else "false"
  | .array elements => (JsonValue.array elements).stringify
  | .object fields => (JsonValue.object fields).stringify
  | .other => ""

/-- `/^[=+\-@]/`: a spreadsheet would take the text for a formula. -/
def startsFormula (text : String) : Bool :=
  text.toList.head?.any fun c => c = '=' || c = '+' || c = '-' || c = '@'

/-- `/[,"\n\r]/` or `/^\s|\s$/`. -/
def needsQuotes (text : String) : Bool :=
  text.toList.any (fun c => c = ',' || c = '"' || c = '\n' || c = '\r') ||
    text.toList.head?.any isWhiteSpace || text.toList.getLast?.any isWhiteSpace

def escapeCsvCell (value : CellValue) : String :=
  let text := normalizeCellValue value
  let escaped := String.ofList (text.toList.flatMap fun c => if c = '"' then ['"', '"'] else [c])
  let safe := if startsFormula escaped then "'" ++ escaped else escaped
  if needsQuotes safe then "\"" ++ safe ++ "\"" else safe

def toCsv (report : ReportExportName) (rows : List ReportRow) (role : UserRole) : String :=
  let columns := reportColumns report
  let header := ",".intercalate (columns.map fun column => escapeCsvCell (.string column))
  let body := rows.map fun row =>
    ",".intercalate (columns.map fun column =>
      escapeCsvCell (maskCell (row column) (decide (role ≠ .ADMIN))))
  "\n".intercalate (header :: body)

/-! ### The file read back -/

/-- A text that is no formula, by an apostrophe before it where it was one. -/
def guarded (text : String) : String := if startsFormula text then "'" ++ text else text

lemma startsFormula_guarded (text : String) : startsFormula (guarded text) = false := by
  unfold guarded
  by_cases h : startsFormula text
  · rw [if_pos h]
    simp [startsFormula]
  · rw [if_neg h]
    simpa using h

lemma startsFormula_doubled (text : String) :
    startsFormula (String.ofList (Csv.doubled text.toList)) = startsFormula text := by
  unfold startsFormula Csv.doubled
  rw [String.toList_ofList]
  cases htext : text.toList with
  | nil => rfl
  | cons c rest =>
    by_cases hc : c = '"'
    · subst hc
      rfl
    · simp [hc]

lemma doubled_guarded (text : String) :
    Csv.doubled (guarded text).toList =
      (if startsFormula (String.ofList (Csv.doubled text.toList)) then
        "'" ++ String.ofList (Csv.doubled text.toList)
      else String.ofList (Csv.doubled text.toList)).toList := by
  rw [startsFormula_doubled]
  unfold guarded
  by_cases h : startsFormula text
  · simp [h, Csv.doubled]
  · simp [h]

lemma doubled_eq_self {text : List Char} (h : '"' ∉ Csv.doubled text) :
    Csv.doubled text = text := by
  induction text with
  | nil => rfl
  | cons c text ih =>
    simp only [Csv.doubled, List.flatMap_cons, List.mem_append, not_or] at h ih ⊢
    by_cases hc : c = '"'
    · simp [hc] at h
    · rw [if_neg hc, List.singleton_append, ih h.2]

/-- **A cell is written** for its text, guarded against formulas. -/
lemma escapeCsvCell_writes (value : CellValue) :
    Csv.Writes (escapeCsvCell value) (guarded (normalizeCellValue value)) := by
  have hdoubled := doubled_guarded (normalizeCellValue value)
  unfold escapeCsvCell
  change Csv.Writes (if needsQuotes (if startsFormula (String.ofList (Csv.doubled _)) then _ else _)
    then _ else _) _
  set safe := if startsFormula (String.ofList (Csv.doubled (normalizeCellValue value).toList)) then
      "'" ++ String.ofList (Csv.doubled (normalizeCellValue value).toList)
    else String.ofList (Csv.doubled (normalizeCellValue value).toList) with hsafe
  change Csv.Writes (if needsQuotes safe then "\"" ++ safe ++ "\"" else safe) _
  by_cases hquotes : needsQuotes safe
  · rw [if_pos hquotes]
    refine .quoted ?_
    rw [hdoubled]
    simp
  · rw [if_neg hquotes]
    simp only [needsQuotes, Bool.or_eq_true, not_or, List.any_eq_true, not_exists, not_and,
      decide_eq_true_eq] at hquotes
    have hplain := hquotes.1.1
    have hself : guarded (normalizeCellValue value) = safe := by
      apply String.toList_inj.1
      rw [← hdoubled]
      refine (doubled_eq_self ?_).symm
      rw [hdoubled]
      exact fun hc => (hplain '"' hc).1.1.2 rfl
    rw [hself]
    refine .plain fun c hc => ?_
    obtain ⟨⟨⟨hcomma, hquote⟩, hline⟩, hreturn⟩ := hplain c hc
    exact ⟨hcomma, hline, hquote, hreturn⟩

lemma writes_record {α : Type} (cells : List α) (cell : α → CellValue) :
    List.Forall₂ Csv.Writes (cells.map fun a => escapeCsvCell (cell a))
      (cells.map fun a => guarded (normalizeCellValue (cell a))) := by
  induction cells with
  | nil => exact .nil
  | cons a cells ih => exact .cons (escapeCsvCell_writes (cell a)) ih

lemma reportColumns_plain (report : ReportExportName) :
    1 < (reportColumns report).length ∧ ∀ column ∈ reportColumns report,
      guarded column = column := by
  cases report <;> decide +kernel

/-- The records of a file: the columns, and for every row its cells. -/
def exportedRecords (report : ReportExportName) (rows : List ReportRow) (role : UserRole) :
    List (List String) :=
  reportColumns report :: rows.map fun row => (reportColumns report).map fun column =>
    guarded (normalizeCellValue (maskCell (row column) (decide (role ≠ .ADMIN))))

lemma exportedRecords_length {report : ReportExportName} {rows : List ReportRow} {role : UserRole}
    {record : List String} (h : record ∈ exportedRecords report rows role) :
    record.length = (reportColumns report).length := by
  rcases List.mem_cons.1 h with rfl | h
  · rfl
  · obtain ⟨row, -, rfl⟩ := List.mem_map.1 h
    rw [List.length_map]

lemma mem_exportedRecords {report : ReportExportName} {rows : List ReportRow} {role : UserRole}
    {record : List String} {cell : String} (h : record ∈ exportedRecords report rows role)
    (hcell : cell ∈ record) : ∃ text, cell = guarded text := by
  rcases List.mem_cons.1 h with rfl | h
  · exact ⟨cell, ((reportColumns_plain report).2 cell hcell).symm⟩
  · obtain ⟨row, -, rfl⟩ := List.mem_map.1 h
    obtain ⟨column, -, rfl⟩ := List.mem_map.1 hcell
    exact ⟨_, rfl⟩

/-- **The export round trip**: read as comma-separated values, the file has the columns for its
header and one record for each row, whose cells are the masked and normalized texts with an
apostrophe before those that would be formulas; so no cell is a formula. -/
theorem read_toCsv (report : ReportExportName) (rows : List ReportRow) (role : UserRole) :
    Csv.read (toCsv report rows role) = some (exportedRecords report rows role) ∧
      ∀ record ∈ exportedRecords report rows role, ∀ cell ∈ record, startsFormula cell = false := by
  obtain ⟨hseveral, hplain⟩ := reportColumns_plain report
  constructor
  · have hheader : (reportColumns report).map guarded = reportColumns report := by
      rw [List.map_congr_left hplain, List.map_id']
    have hcolumns : List.Forall₂ Csv.Writes
        ((reportColumns report).map fun column => escapeCsvCell (.string column))
        (reportColumns report) := by
      have hwrites := writes_record (reportColumns report) CellValue.string
      simp only [normalizeCellValue] at hwrites
      rwa [hheader] at hwrites
    have hrows : List.Forall₂ (List.Forall₂ Csv.Writes)
        (rows.map fun row => (reportColumns report).map fun column =>
          escapeCsvCell (maskCell (row column) (decide (role ≠ .ADMIN))))
        (rows.map fun row => (reportColumns report).map fun column =>
          guarded (normalizeCellValue (maskCell (row column) (decide (role ≠ .ADMIN))))) := by
      induction rows with
      | nil => exact .nil
      | cons row rows ih => exact .cons (writes_record (reportColumns report) _) ih
    have hread := Csv.read_written (.cons hcolumns hrows) (by simp) (by
      intro record hrecord
      have hlength : record.length = (reportColumns report).length := exportedRecords_length hrecord
      refine ⟨?_, ?_⟩ <;> rintro rfl <;> simp at hlength <;> omega)
    unfold toCsv exportedRecords
    rw [List.map_cons, List.map_map] at hread
    exact hread
  · intro record hrecord cell hcell
    obtain ⟨text, rfl⟩ := mem_exportedRecords hrecord hcell
    exact startsFormula_guarded text

example : toCsv .materializationState
    [fun column => if column = "scope" then .string "=1,\"2\"" else
    if column = "asOf" then .string "+2348012345678" else .null] .SUPERVISOR =
      "scope,scopeKey,branchId,asOf,status,lastError,materializedAt,updatedAt\n" ++
        "\"'=1,\"\"2\"\"\",,,234********78,,,," := by decide +kernel

end ReportExportService

end ShopcityLoyalty
