import SymbolIndex.Index.Validate
import SymbolIndex.Proofs.Host.Directory
import SymbolIndex.Proofs.Index.Record
import SymbolIndex.Proofs.Json.Lawful
import SymbolIndex.Proofs.Text.Utf8

/-! A file of records has one line for each of them, and each line is read as its record. -/
namespace SymbolIndex.Index
variable {α : Type} {line : List UInt8} {artifact : Artifact} {version : Int}
open Json

theorem byteLines_line (clean : 0x0A ∉ line) (rest : List UInt8) :
    byteLines (line ++ 0x0A :: rest) = line :: byteLines rest := by
  induction line with
  | nil => rfl
  | cons byte line ih =>
    rw [List.mem_cons, not_or] at clean
    rw [List.cons_append, byteLines, if_neg (Ne.symm clean.1), ih clean.2]

/-- A line that starts and ends with visible bytes is left as it is. -/
theorem stripBytes_eq {first last : UInt8} (start : isBlankByte first = false)
    (stop : isBlankByte last = false) (middle : List UInt8) :
    stripBytes (first :: (middle ++ [last])) = first :: (middle ++ [last]) := by
  have back : (first :: (middle ++ [last])).reverse = last :: (first :: middle).reverse := by simp
  rw [stripBytes, List.dropWhile_cons_of_neg (by simp [start]), back,
    List.dropWhile_cons_of_neg (by simp [stop])]
  simp

section Written
variable [Json.Package]

/-- The compact form of a record, nothing if it has none. -/
def recordLine (record : Value) : List UInt8 :=
  Utf8.encode ((dumps .compact record).toOption.getD [])

theorem recordLine_eq {record : Value} {text : Text} (written : dumps .compact record = .ok text) :
    recordLine record = Utf8.encode text := by
  rw [recordLine, written]
  rfl

theorem refusal?_eq_none {records : List Value} :
    refusal? records = none ↔ ∀ record ∈ records, ∃ text, dumps .compact record = .ok text := by
  induction records with
  | nil => simp [refusal?]
  | cons record rest ih =>
    rw [refusal?, List.forall_mem_cons, ← ih]
    cases dumps .compact record <;> simp

theorem encodeLines_cons {record : Value} {text : Text} (written : dumps .compact record = .ok text)
    (rest : List Value) :
    encodeLines (record :: rest) = recordLine record ++ 0x0A :: encodeLines rest := by
  simp only [encodeLines, recordLine_eq written, written, Utf8.encode_append, List.append_assoc]
  rfl

/-- What a line holds: the value of its text, blanks around it apart. -/
def lineValue? (line : List UInt8) : Option Value :=
  let bytes := stripBytes line
  if bytes.isEmpty then none else loads bytes

variable [Json.Lawful]

theorem byteLines_encodeLines {records : List Value} (written : refusal? records = none)
    (plain : ∀ record ∈ records, record.Plain maxDepth) :
    byteLines (encodeLines records) = records.map recordLine := by
  induction records with
  | nil => rfl
  | cons record more ih =>
    rw [refusal?_eq_none, List.forall_mem_cons] at written
    obtain ⟨⟨text, here⟩, later⟩ := written
    obtain ⟨shape, shapes⟩ := List.forall_mem_cons.mp plain
    have line : 0x0A ∉ recordLine record := by
      rw [recordLine_eq here]
      exact Utf8.newline_notMem_encode (Json.Lawful.newline_notMem shape here)
    rw [encodeLines_cons here, byteLines_line line, ih (refusal?_eq_none.mpr later) shapes,
      List.map_cons]

section Table
variable {entries : List (Text × Value)} {text : Text}
  (written : dumps .compact (.table entries) = .ok text)
include written

theorem stripBytes_table : stripBytes (Utf8.encode text) = Utf8.encode text := by
  obtain ⟨body, rfl⟩ := Json.Lawful.braces written
  rw [Utf8.encode_cons, Utf8.encode_append]
  exact stripBytes_eq (by decide) (by decide) _

theorem isEmpty_table : (Utf8.encode text).isEmpty = false := by
  obtain ⟨body, rfl⟩ := Json.Lawful.braces written
  rw [Utf8.encode_cons]
  rfl

variable (plain : (Value.table entries).Plain maxDepth)
include plain

theorem lineValue?_table : lineValue? (recordLine (.table entries)) = some (canonical (.table entries)) := by
  simp only [lineValue?, recordLine_eq written, stripBytes_table written, isEmpty_table written,
    Json.Lawful.loads_dumps plain written]
  rfl

theorem readRecordLine_table [Schema.Package]
    (reads : artifact.readVersion (canonical (.table entries)) = .ok version) :
    readRecordLine artifact (recordLine (.table entries)) = .record version := by
  simp only [readRecordLine, recordLine_eq written, stripBytes_table written, isEmpty_table written,
    Json.Lawful.loads_dumps plain written, reads]
  rfl

end Table

end Written

section Checked
variable [Json.Package]

/-- A file holds these records in order, one a line, as a reader of its lines sees them. -/
structure Holds (read : Value → Except SchemaError α) (same : α → α → Prop) (bytes : List UInt8)
    (records : List α) : Prop where
  count : (byteLines bytes).length = records.length
  each : ∀ (i : Nat) (record : α), records[i]? = some record →
    ∃ line value found, (byteLines bytes)[i]? = some line ∧ lineValue? line = some value ∧
      read value = .ok found ∧ same found record

variable [Schema.Package]

/-- Records of the current version are counted without a finding. -/
theorem tally_eq {lines : List (List UInt8)} (start : Nat)
    (each : ∀ line ∈ lines, readRecordLine artifact line = .record schemaVersion) :
    tally artifact start false lines = ⟨[], lines.length⟩ := by
  induction lines generalizing start with
  | nil => rfl
  | cons line more ih =>
    rw [tally, each line List.mem_cons_self]
    simp [ih (start + 1) fun other listed => each other (List.mem_cons_of_mem line listed)]

/-- A file that can be read is checked by what its lines amount to. -/
theorem validateFile_of_readBytes {host : Host} {path : Path} {bytes : List UInt8}
    (read : host.readBytes path = .ok bytes) (artifact : Artifact) :
    validateFile host path artifact =
      ⟨(tally artifact 1 false (byteLines bytes)).findings.map fun (number, finding) =>
        ⟨artifact.fileName, path, finding.message, some number⟩, [],
        .ofList [(artifact.fileName, (tally artifact 1 false (byteLines bytes)).count)]⟩ := by
  simp only [validateFile, Host.pathExists_of_readBytes read, read]
  rfl

section Records
variable [Json.Lawful] {toValue : α → Value} {records : List α}
  (written : refusal? (records.map toValue) = none)
  (plain : ∀ record ∈ records, (toValue record).Plain maxDepth)
  (tables : ∀ record, ∃ entries, toValue record = .table entries)
include written plain

omit [Schema.Package] in
/-- The lines of written records. -/
theorem byteLines_written : byteLines (encodeLines (records.map toValue)) =
    records.map fun record => recordLine (toValue record) := by
  rw [byteLines_encodeLines written, List.map_map]
  · rfl
  · intro value listed
    obtain ⟨record, member, rfl⟩ := List.mem_map.mp listed
    exact plain record member

include tables

omit [Schema.Package] in
/-- Written records are read back. -/
theorem holds_encodeLines {read : Value → Except SchemaError α} {same : α → α → Prop}
    (reads : ∀ record ∈ records, ∃ found,
      read (canonical (toValue record)) = .ok found ∧ same found record) :
    Holds read same (encodeLines (records.map toValue)) records := by
  have lines := byteLines_written written plain
  constructor
  · rw [lines, List.length_map]
  · intro i record present
    have member := List.mem_of_getElem? present
    obtain ⟨found, readable, agrees⟩ := reads record member
    obtain ⟨entries, table⟩ := tables record
    obtain ⟨text, spelled⟩ := refusal?_eq_none.mp written _ (List.mem_map_of_mem member)
    have shape := plain record member
    rw [table] at shape spelled
    refine ⟨recordLine (toValue record), canonical (toValue record), found, ?_, ?_, readable, agrees⟩
    · rw [lines, List.getElem?_map, present, Option.map_some]
    · rw [table, lineValue?_table spelled shape]

/-- Written records of the current version are counted without a finding. -/
theorem tally_encodeLines
    (reads : ∀ record ∈ records, artifact.readVersion (canonical (toValue record)) = .ok schemaVersion) :
    tally artifact 1 false (byteLines (encodeLines (records.map toValue))) =
      ⟨[], records.length⟩ := by
  rw [byteLines_written written plain, tally_eq, List.length_map]
  intro line listed
  obtain ⟨record, member, rfl⟩ := List.mem_map.mp listed
  obtain ⟨entries, table⟩ := tables record
  obtain ⟨text, spelled⟩ := refusal?_eq_none.mp written _ (List.mem_map_of_mem member)
  have shape := plain record member
  have version := reads record member
  rw [table] at shape spelled version ⊢
  exact readRecordLine_table spelled shape version

end Records

end Checked

end SymbolIndex.Index
