import Mathlib.Tactic

/-!
Comma-separated values as RFC 4180 reads them, in records that end at a line feed.

A field is either plain, without commas, quotes and line ends, or it stands between quotes with
every quote in it doubled. The reader is one pass over the characters; a quote inside a plain
field and a character after a closing quote are errors.
-/

namespace ShopcityLoyalty.Csv

/-- Where a reader stands: before a field, in a plain one, in a quoted one, or after a quote
in a quoted one. -/
inductive Place | start | plain | quoted | closing
  deriving DecidableEq

structure Reader where
  place : Place
  field : List Char
  record : List String
  records : List (List String)

namespace Reader

def fresh : Reader := ⟨.start, [], [], []⟩

variable (r : Reader)

def endField : Reader := ⟨.start, [], r.record ++ [String.ofList r.field], r.records⟩

def endRecord : Reader := ⟨.start, [], [], r.records ++ [r.record ++ [String.ofList r.field]]⟩

def push (place : Place) (c : Char) : Reader := ⟨place, r.field ++ [c], r.record, r.records⟩

/-- One character; `none` when the document is no list of records. -/
def step (c : Char) : Option Reader :=
  match r.place with
  | .quoted => if c = '"' then some { r with place := .closing } else some (r.push .quoted c)
  | .closing =>
      if c = '"' then some (r.push .quoted c)
      else if c = ',' then some r.endField
      else if c = '\n' then some r.endRecord
      else none
  | place =>
      if c = ',' then some r.endField
      else if c = '\n' then some r.endRecord
      else if c = '"' then (if place = .start then some { r with place := .quoted } else none)
      else if c = '\r' then none
      else some (r.push .plain c)

def run (text : List Char) : Option Reader := text.foldlM step r

/-- The records at the end of the document; a line end after the last one adds none. -/
def finish : Option (List (List String)) :=
  match r.place with
  | .quoted => none
  | .start => some (if r.record = [] then r.records else r.endRecord.records)
  | _ => some r.endRecord.records

end Reader

def read (document : String) : Option (List (List String)) :=
  (Reader.fresh.run document.toList).bind Reader.finish

/-- A character that may stand in a plain field. -/
def Plain (c : Char) : Prop := c ≠ ',' ∧ c ≠ '\n' ∧ c ≠ '"' ∧ c ≠ '\r'

def doubled (text : List Char) : List Char :=
  text.flatMap fun c => if c = '"' then ['"', '"'] else [c]

/-- A text that stands for a value in a record. -/
inductive Writes : String → String → Prop
  | plain {value : String} (h : ∀ c ∈ value.toList, Plain c) : Writes value value
  | quoted {text value : String} (h : text.toList = '"' :: doubled value.toList ++ ['"']) :
      Writes text value

/-! ### Fields -/

namespace Reader

variable {record : List String} {records : List (List String)}

@[simp] lemma run_nil (r : Reader) : r.run [] = some r := rfl

@[simp] lemma run_cons (r : Reader) (c : Char) (text : List Char) :
    r.run (c :: text) = (r.step c).bind (·.run text) := rfl

lemma run_append (r : Reader) (text rest : List Char) :
    r.run (text ++ rest) = (r.run text).bind (·.run rest) := by
  simp [run, List.foldlM_append]

lemma run_plain {text : List Char} (h : ∀ c ∈ text, Plain c) {place : Place} {field : List Char}
    (hplace : place = .start ∨ place = .plain) :
    (⟨place, field, record, records⟩ : Reader).run text =
      some ⟨if text = [] then place else .plain, field ++ text, record, records⟩ := by
  induction text generalizing place field with
  | nil => simp
  | cons c text ih =>
    obtain ⟨hcomma, hline, hquote, hreturn⟩ := h c (by simp)
    have hstep : (⟨place, field, record, records⟩ : Reader).step c =
        some ⟨.plain, field ++ [c], record, records⟩ := by
      rcases hplace with rfl | rfl <;> simp [step, push, hcomma, hline, hquote, hreturn]
    rw [run_cons, hstep, Option.bind_some, ih (fun d hd => h d (by simp [hd])) (by simp)]
    by_cases htext : text = [] <;> simp [htext]

lemma run_doubled (text field : List Char) :
    (⟨.quoted, field, record, records⟩ : Reader).run (doubled text) =
      some ⟨.quoted, field ++ text, record, records⟩ := by
  induction text generalizing field with
  | nil => simp [doubled]
  | cons c text ih =>
    have hrest := ih (field ++ [c])
    by_cases hc : c = '"'
    · subst hc
      simp only [doubled, List.flatMap_cons, if_true, List.cons_append, List.nil_append,
        run_cons] at hrest ⊢
      simp [step, push, hrest]
    · simp only [doubled, List.flatMap_cons, if_neg hc, List.cons_append, List.nil_append,
        run_cons] at hrest ⊢
      simp [step, push, hc, hrest]

/-- A field that is read to its end. -/
structure Ended (r : Reader) (value : String) (record : List String)
    (records : List (List String)) : Prop where
  place : r.place ≠ .quoted
  field : r.field = value.toList
  start : r.place = .start → value = ""
  record : r.record = record
  records : r.records = records

lemma run_field (record : List String) (records : List (List String)) {text value : String}
    (h : Writes text value) :
    ∃ r, (⟨.start, [], record, records⟩ : Reader).run text.toList = some r ∧
      r.Ended value record records := by
  cases h with
  | plain h =>
    refine ⟨_, run_plain h (Or.inl rfl), ?_, by simp, ?_, rfl, rfl⟩
    · by_cases hnil : text.toList = [] <;> simp [hnil]
    · by_cases hnil : text.toList = []
      · intro _
        exact String.toList_inj.1 (by simpa using hnil)
      · simp [hnil]
  | quoted h =>
    refine ⟨⟨.closing, value.toList, record, records⟩, ?_, by simp, rfl, by simp, rfl, rfl⟩
    rw [h, List.cons_append, run_cons]
    simp [step, run_append, run_doubled]

namespace Ended

variable {r : Reader} {value : String}

lemma step_comma (h : r.Ended value record records) :
    r.step ',' = some ⟨.start, [], record ++ [value], records⟩ := by
  obtain ⟨place, field, rec, recs⟩ := r
  obtain ⟨hplace, rfl, -, rfl, rfl⟩ := h
  cases place <;> simp_all [step, endField]

lemma step_line (h : r.Ended value record records) :
    r.step '\n' = some ⟨.start, [], [], records ++ [record ++ [value]]⟩ := by
  obtain ⟨place, field, rec, recs⟩ := r
  obtain ⟨hplace, rfl, -, rfl, rfl⟩ := h
  cases place <;> simp_all [step, endRecord]

lemma finish_eq (h : r.Ended value record records) (hbare : record ++ [value] ≠ [""]) :
    r.finish = some (records ++ [record ++ [value]]) := by
  obtain ⟨place, field, rec, recs⟩ := r
  obtain ⟨hplace, rfl, hstart, rfl, rfl⟩ := h
  cases place with
  | start =>
    have hrec : rec ≠ [] := by
      intro hnil
      rw [hnil, hstart rfl] at hbare
      exact hbare rfl
    simp [finish, endRecord, hrec]
  | quoted => exact absurd rfl hplace
  | plain => simp [finish, endRecord]
  | closing => simp [finish, endRecord]

end Ended

/-! ### Records -/

/-- The fields of a record but the last end at their commas. -/
lemma run_record (record : List String) (records : List (List String)) {texts values : List String}
    (h : List.Forall₂ Writes texts values) (hne : texts ≠ []) :
    ∃ r value, (⟨.start, [], record, records⟩ : Reader).run
      (",".intercalate texts).toList = some r ∧
      ∃ front, r.Ended value front records ∧ front ++ [value] = record ++ values := by
  induction h generalizing record with
  | nil => exact absurd rfl hne
  | @cons text value texts values hwrites hrest ih =>
    obtain ⟨r, hrun, hended⟩ := run_field record records hwrites
    cases hrest with
    | nil => exact ⟨r, value, by simpa using hrun, record, hended, rfl⟩
    | @cons text' value' texts' values' hwrites' hrest' =>
      obtain ⟨r', last, hrun', front, hended', hfront⟩ := ih (record ++ [value]) (by simp)
      refine ⟨r', last, ?_, front, hended', by simpa using hfront⟩
      have hcomma : (",".toList) = [','] := rfl
      rw [String.intercalate_cons_cons, String.toList_append, String.toList_append, hcomma,
        List.append_assoc, run_append, hrun, Option.bind_some, List.singleton_append, run_cons,
        hended.step_comma, Option.bind_some, hrun']

end Reader

/-- Records that are written field by field are read back: the lines are the records, and no
field can open another field or another record. -/
theorem read_written {lines values : List (List String)}
    (h : List.Forall₂ (List.Forall₂ Writes) lines values) (hne : lines ≠ [])
    (hrecords : ∀ value ∈ values, value ≠ [] ∧ value ≠ [""]) :
    read ("\n".intercalate (lines.map (",".intercalate ·))) = some values := by
  suffices hrun : ∀ records, ((⟨.start, [], [], records⟩ : Reader).run
      ("\n".intercalate (lines.map (",".intercalate ·))).toList).bind Reader.finish =
        some (records ++ values) from hrun []
  induction h with
  | nil => exact absurd rfl hne
  | @cons line value lines values hline hrest ih =>
    intro records
    obtain ⟨hvalue, hbare⟩ := hrecords value (by simp)
    have hlinene : line ≠ [] := by
      rintro rfl
      cases hline
      exact hvalue rfl
    obtain ⟨r, last, hrun, front, hended, hfront⟩ :=
      Reader.run_record [] records hline hlinene
    rw [List.nil_append] at hfront
    cases hrest with
    | nil =>
      simp only [List.map_cons, List.map_nil, String.intercalate_singleton, hrun, Option.bind_some]
      rw [hended.finish_eq (by rw [hfront]; exact hbare), hfront]
    | @cons line' value' lines' values' hline' hrest' =>
      have hlater := ih (by simp) (fun v hv => hrecords v (by simp [hv])) (records ++ [value])
      have hend : ("\n".toList) = ['\n'] := rfl
      rw [List.map_cons] at hlater ⊢
      rw [List.map_cons, String.intercalate_cons_cons, String.toList_append, String.toList_append,
        hend, List.append_assoc, Reader.run_append, hrun, Option.bind_some, List.singleton_append,
        Reader.run_cons, hended.step_line, Option.bind_some, hfront, hlater, List.append_assoc,
        List.singleton_append]

end ShopcityLoyalty.Csv
