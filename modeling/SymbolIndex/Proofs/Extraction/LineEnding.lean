import SymbolIndex.Proofs.Dictionary
import SymbolIndex.Proofs.Extraction.Spans
import SymbolIndex.Proofs.Scope.LineEnding

/-! Extraction does not depend on how lines end: with carriage returns before the newlines of a
document all structures stay as they are, but for the parameter texts, which hold the line endings
they stand with. -/
namespace SymbolIndex
variable {text : Text} {cursor : Cursor} {found : Occurrence} {recognise : Recogniser} {run : Capture}

def SymbolRecord.crlf (record : SymbolRecord) : SymbolRecord :=
  { record with parameters := record.parameters.crlf }

/-- What a document yields once it is written with carriage returns. -/
def Snapshot.crlf (snapshot : Snapshot) : Snapshot :=
  { snapshot with
    positions := snapshot.positions.map SymbolRecord.crlf
    functionParameters := snapshot.functionParameters.map Text.crlf }

namespace Findings
open Recogniser

/-- Whole runs of identifier characters hold no line ending. -/
theorem run_crlf (whole : IsNameRun text run) : (run.crlf text).text = run.text :=
  Text.crlf_of_notMem whole.newline_notMem

theorem recordOf_crlf (whole : IsNameRun text run) (kind : SymbolKind) (scope parameters : Text) :
    recordOf (.ofText text.crlf) kind (run.crlf text) scope parameters.crlf =
      (recordOf (.ofText text) kind run scope parameters).crlf := by
  have inside : run.start ≤ text.length :=
    Nat.le_trans (Nat.le_of_lt whole.start_lt_stop) whole.stop_le_length
  have place := LineIndex.lineColumn_crlf inside
  have name := run_crlf whole
  simp only [recordOf, SymbolRecord.crlf, name]
  rw [show (run.crlf text).start = text.crlfOffset run.start from rfl, place]

theorem classAt_run_crlf (whole : IsNameRun text run) :
    (Scopes.ofText text.crlf).classAt (run.crlf text).start = (Scopes.ofText text).classAt run.start :=
  Scopes.classAt_crlf (Nat.le_trans (Nat.le_of_lt whole.start_lt_stop) whole.stop_le_length)

/-- Names are found as they were. -/
theorem names_crlf (carried : Carried recognise) (covers : Covers recognise)
    (named : ∀ {text cursor found}, Cursor.In text cursor → recognise cursor = some found →
      '\n' ∉ found.name.text) (text : Text) :
    (recognise.occurrences text.crlf).map (·.name.text) =
      (recognise.occurrences text).map (·.name.text) := by
  rw [occurrences_crlf carried covers, List.map_map]
  refine List.map_congr_left fun found occurs => ?_
  obtain ⟨cursor, place, finds⟩ := mem_occurrences occurs
  exact Text.crlf_of_notMem (named place finds)

/-- Both names of a constructor call are identifiers. -/
theorem constructorCall_newline (finds : constructorCall cursor = some found) :
    '\n' ∉ found.name.text ∧ '\n' ∉ found.detailText := by
  have unbroken {name : Text} (whole : name.IsIdentifier) : '\n' ∉ name := fun member =>
    absurd (whole.inside '\n' member) (by decide)
  obtain ⟨name, after, equals, callee, beyond, stop, reads, _, calls, _, rfl⟩ :=
    constructorCall_eq_some_iff.mp finds
  exact ⟨unbroken (Cursor.identifier?_eq_some_iff.mp reads).2.2.1,
    unbroken (Cursor.identifier?_eq_some_iff.mp calls).2.2.1⟩

theorem bound_crlf (found : Occurrence) : (found.crlf text).bound = found.bound.crlf text := by
  rw [Occurrence.bound, Occurrence.crlf, Occurrence.bound]
  cases found.detail <;> rfl

theorem detailText_crlf (found : Occurrence) :
    (found.crlf text).detailText = found.detailText.crlf := by
  rw [Occurrence.detailText, Occurrence.crlf, Occurrence.detailText]
  cases found.detail <;> rfl

theorem parameters_crlf (found : Occurrence) :
    (found.crlf text).parameters = found.parameters.crlf := by
  rw [Occurrence.parameters, detailText_crlf, Text.strip_crlf, Occurrence.parameters]

theorem rangeNames_crlf (text : Text) : (ofText text.crlf).scopes.ranges.map (·.name) =
    (ofText text).scopes.ranges.map (·.name) := by
  have ranges : (ofText text.crlf).scopes.ranges = _ := Scope.classRanges_crlf text
  rw [ranges, List.map_map]
  rfl

theorem functionNames_crlf (text : Text) :
    (Pattern.functionHeader.occurrences text.crlf).map (·.name.text) =
      (Pattern.functionHeader.occurrences text).map (·.name.text) :=
  names_crlf functionHeader_carried functionHeader_covers
    (fun place finds => (functionHeader_name place finds).newline_notMem) text

theorem attributeNames_crlf (text : Text) :
    (Pattern.attributeAssignment.occurrences text.crlf).map (·.name.text) =
      (Pattern.attributeAssignment.occurrences text).map (·.name.text) :=
  names_crlf attributeAssignment_carried attributeAssignment_covers
    (fun place finds => (attributeAssignment_name place finds).newline_notMem) text

theorem names_ofText_crlf (text : Text) : (ofText text.crlf).names = (ofText text).names := by
  have assignments : (ofText text.crlf).assignments.map (·.name.text) = _ :=
    names_crlf variableAssignment_carried variableAssignment_covers
      (fun place finds => (variableAssignment_name place finds).newline_notMem) text
  have plain : (ofText text.crlf).plainImports.map (·.name.text) = _ :=
    names_crlf plainImport_carried plainImport_covers
      (fun place finds => (plainImport_name place finds).newline_notMem) text
  have bound : (ofText text.crlf).fromImports.map (·.bound.text) =
      (ofText text).fromImports.map (·.bound.text) := by
    have occurrences : (ofText text.crlf).fromImports = _ :=
      occurrences_crlf fromImport_carried fromImport_covers text
    rw [occurrences, List.map_map]
    refine List.map_congr_left fun found occurs => ?_
    obtain ⟨cursor, place, finds⟩ := mem_occurrences occurs
    exact (congrArg Capture.text (bound_crlf found)).trans (run_crlf (fromImport_bound place finds))
  have functions : (ofText text.crlf).functions.map (·.name.text) = _ := functionNames_crlf text
  have attributes : (ofText text.crlf).attributes.map (·.name.text) = _ := attributeNames_crlf text
  rw [names, rangeNames_crlf, functions, assignments, attributes, plain, bound]
  rfl

theorem objectTypes_crlf (text : Text) :
    (ofText text.crlf).objectTypes = (ofText text).objectTypes := by
  have occurrences : (ofText text.crlf).constructorCalls = _ :=
    occurrences_crlf constructorCall_carried constructorCall_covers text
  rw [objectTypes, occurrences, List.map_map]
  refine congrArg Dictionary.ofList (List.map_congr_left fun call occurs => ?_)
  obtain ⟨cursor, place, finds⟩ := mem_occurrences occurs
  obtain ⟨name, callee⟩ := constructorCall_newline finds
  refine Prod.ext (Text.crlf_of_notMem name) ?_
  exact (detailText_crlf call).trans (Text.crlf_of_notMem callee)

theorem declaredMembers_crlf (text : Text) (range : ClassRange) :
    declaredMembers text.crlf (range.crlf text) = declaredMembers text range := by
  have body : Text.slice text.crlf (range.crlf text).bodyStart (range.crlf text).bodyEnd =
      (Text.slice text range.bodyStart range.bodyEnd).crlf := Text.slice_crlf text _ _
  rw [declaredMembers, body, functionNames_crlf, attributeNames_crlf, declaredMembers]

theorem classMembers_crlf (text : Text) :
    (ofText text.crlf).classMembers = (ofText text).classMembers := by
  have ranges : (ofText text.crlf).scopes.ranges = (ofText text).scopes.ranges.map (·.crlf text) :=
    Scope.classRanges_crlf text
  have members (name : Text) : ((ofText text.crlf).scopes.ranges.filter (·.name = name)).flatMap
      (declaredMembers (ofText text.crlf).text) =
      ((ofText text).scopes.ranges.filter (·.name = name)).flatMap (declaredMembers text) := by
    rw [ranges, List.filter_map, List.flatMap_map]
    exact congrArg (List.flatMap · _) (funext (declaredMembers_crlf text))
  rw [classMembers, rangeNames_crlf]
  exact congrArg (Dictionary.tabulate _) (funext fun name => congrArg unique (members name))

theorem functionParameters_crlf (text : Text) : (ofText text.crlf).functionParameters =
    (ofText text).functionParameters.map Text.crlf := by
  have occurrences : (ofText text.crlf).functions = (ofText text).functions.map (·.crlf text) :=
    occurrences_crlf functionHeader_carried functionHeader_covers text
  have whole {header : Occurrence} (occurs : header ∈ (ofText text).functions) :
      IsNameRun text header.name := by
    obtain ⟨cursor, place, finds⟩ := mem_occurrences occurs
    exact functionHeader_name place finds
  have offered : (ofText text).functions.filter
      ((fun header => Vocabulary.isOffered header.name.text) ∘ (·.crlf text)) =
      (ofText text).functions.filter (Vocabulary.isOffered ·.name.text) :=
    List.filter_congr fun header occurs => congrArg Vocabulary.isOffered (run_crlf (whole occurs))
  rw [functionParameters, occurrences, List.filter_map, offered, List.map_map, functionParameters,
    Dictionary.map_ofList, List.map_map]
  refine congrArg Dictionary.ofList (List.map_congr_left fun header listed => ?_)
  have run := whole (List.mem_filter.mp listed).1
  exact Prod.ext (congrArg₂ qualifiedName (classAt_run_crlf run) (run_crlf run)) (parameters_crlf header)

theorem keywordRecords_crlf (text : Text) : keywordRecords (.ofText text.crlf) text.crlf =
    (keywordRecords (.ofText text) text).map SymbolRecord.crlf := by
  rw [keywordRecords, keywordRecords, List.map_flatMap]
  refine congrArg List.flatten (List.map_congr_left fun word vocabulary => ?_)
  obtain ⟨content, name⟩ := keywords_name word vocabulary
  have plain : '\n' ∉ word ∧ '\r' ∉ word := by
    constructor <;> exact fun member => absurd (name _ member) (by decide)
  have occurrences : (Pattern.wholeWord word).occurrences text.crlf = _ :=
    occurrences_crlf (wholeWord_carried content plain) (wholeWord_covers content) text
  rw [occurrences, List.map_map, List.map_map]
  refine List.map_congr_left fun found occurs => ?_
  obtain ⟨cursor, place, finds⟩ := mem_occurrences occurs
  exact recordOf_crlf (wholeWord_name content name place finds).2 .keyword [] []

/-- A candidate keeps its key. -/
def crlfEntry (entry : RecordKey × SymbolRecord) : RecordKey × SymbolRecord :=
  (entry.1, entry.2.crlf)

/-- A candidate in the scope of its place goes where its name goes. -/
theorem entry_crlf (whole : IsNameRun text run) (key : Text → Text → RecordKey) (kind : SymbolKind)
    (parameters : Text) :
    let scope := (Scopes.ofText text.crlf).classAt (run.crlf text).start
    (key scope (run.crlf text).text,
        recordOf (.ofText text.crlf) kind (run.crlf text) scope parameters.crlf) =
      crlfEntry (key ((Scopes.ofText text).classAt run.start) run.text,
        recordOf (.ofText text) kind run ((Scopes.ofText text).classAt run.start) parameters) := by
  have record := recordOf_crlf whole kind ((Scopes.ofText text).classAt run.start) parameters
  simp only [classAt_run_crlf whole, run_crlf whole, record, crlfEntry]

theorem classCandidates_crlf (text : Text) : (ofText text.crlf).classCandidates (.ofText text.crlf) =
    ((ofText text).classCandidates (.ofText text)).map crlfEntry := by
  have ranges : (ofText text.crlf).scopes.ranges = (ofText text).scopes.ranges.map (·.crlf text) :=
    Scope.classRanges_crlf text
  rw [classCandidates, ranges, List.map_map, classCandidates, List.map_map]
  refine List.map_congr_left fun range listed => ?_
  have run := mem_ranges listed
  have same : (⟨text.crlfOffset range.nameStart, range.name⟩ : Capture) =
      Capture.crlf text ⟨range.nameStart, range.name⟩ := by
    rw [Capture.crlf, Text.crlf_of_notMem run.newline_notMem]
  have entry := entry_crlf run (fun _ name => .classDef name) .classDef []
  rw [← same] at entry
  exact entry

theorem functionCandidates_crlf (text : Text) :
    (ofText text.crlf).functionCandidates (.ofText text.crlf) =
      ((ofText text).functionCandidates (.ofText text)).map crlfEntry := by
  have occurrences : (ofText text.crlf).functions = (ofText text).functions.map (·.crlf text) :=
    occurrences_crlf functionHeader_carried functionHeader_covers text
  rw [functionCandidates, occurrences, List.map_map, functionCandidates, List.map_map]
  refine List.map_congr_left fun header occurs => ?_
  obtain ⟨cursor, place, finds⟩ := mem_occurrences occurs
  have entry := entry_crlf (functionHeader_name place finds) .function .function header.parameters
  rw [← parameters_crlf] at entry
  exact entry

theorem variableCandidates_crlf (text : Text) :
    (ofText text.crlf).variableCandidates (.ofText text.crlf) =
      ((ofText text).variableCandidates (.ofText text)).map crlfEntry := by
  have occurrences : (ofText text.crlf).assignments = (ofText text).assignments.map (·.crlf text) :=
    occurrences_crlf variableAssignment_carried variableAssignment_covers text
  have whole {assigned : Occurrence} (occurs : assigned ∈ (ofText text).assignments) :
      IsNameRun text assigned.name := by
    obtain ⟨cursor, place, finds⟩ := mem_occurrences occurs
    exact variableAssignment_name place finds
  have allowed : (ofText text).assignments.filter
      ((fun assigned => !Vocabulary.keywords.contains assigned.name.text) ∘ (·.crlf text)) =
      (ofText text).assignments.filter (!Vocabulary.keywords.contains ·.name.text) :=
    List.filter_congr fun assigned occurs =>
      congrArg (fun name => !Vocabulary.keywords.contains name) (run_crlf (whole occurs))
  rw [variableCandidates, occurrences, List.filter_map, allowed, List.map_map, variableCandidates,
    List.map_map]
  refine List.map_congr_left fun assigned listed => ?_
  exact entry_crlf (whole (List.mem_filter.mp listed).1)
    (fun scope name => .variable (if scope.isEmpty then none else some scope) name) .variable []

theorem attributeCandidates_crlf (text : Text) :
    (ofText text.crlf).attributeCandidates (.ofText text.crlf) =
      ((ofText text).attributeCandidates (.ofText text)).map crlfEntry := by
  have occurrences : (ofText text.crlf).attributes = (ofText text).attributes.map (·.crlf text) :=
    occurrences_crlf attributeAssignment_carried attributeAssignment_covers text
  rw [attributeCandidates, occurrences, List.map_map, attributeCandidates, List.map_map]
  refine List.map_congr_left fun assigned occurs => ?_
  obtain ⟨cursor, place, finds⟩ := mem_occurrences occurs
  exact entry_crlf (attributeAssignment_name place finds)
    (fun scope name => .variable (some scope) name) .variable []

theorem importCandidates_crlf (text : Text) :
    (ofText text.crlf).importCandidates (.ofText text.crlf) =
      ((ofText text).importCandidates (.ofText text)).map crlfEntry := by
  have plain : (ofText text.crlf).plainImports = (ofText text).plainImports.map (·.crlf text) :=
    occurrences_crlf plainImport_carried plainImport_covers text
  have fromModule : (ofText text.crlf).fromImports = (ofText text).fromImports.map (·.crlf text) :=
    occurrences_crlf fromImport_carried fromImport_covers text
  have bound : (ofText text.crlf).plainImports.map (·.name) ++
      (ofText text.crlf).fromImports.map (·.bound) =
      ((ofText text).plainImports.map (·.name) ++ (ofText text).fromImports.map (·.bound)).map
        (·.crlf text) := by
    rw [plain, fromModule, List.map_append, List.map_map, List.map_map, List.map_map, List.map_map]
    exact congrArg₂ (· ++ ·) rfl (List.map_congr_left fun found _ => bound_crlf found)
  have whole {name : Capture} (listed : name ∈ (ofText text).plainImports.map (·.name) ++
      (ofText text).fromImports.map (·.bound)) : IsNameRun text name := by
    rcases List.mem_append.mp listed with member | member
    · obtain ⟨found, occurs, rfl⟩ := List.mem_map.mp member
      obtain ⟨cursor, place, finds⟩ := mem_occurrences occurs
      exact plainImport_name place finds
    · obtain ⟨found, occurs, rfl⟩ := List.mem_map.mp member
      obtain ⟨cursor, place, finds⟩ := mem_occurrences occurs
      exact fromImport_bound place finds
  rw [importCandidates, bound, List.map_map, importCandidates, List.map_map]
  refine List.map_congr_left fun name listed => ?_
  have run := whole listed
  exact Prod.ext (congrArg RecordKey.importName (run_crlf run)) (recordOf_crlf run .importName [] [])

theorem positions_crlf (text : Text) :
    (ofText text.crlf).positions = (ofText text).positions.map SymbolRecord.crlf := by
  have candidates : (ofText text.crlf).candidates (.ofText text.crlf) =
      ((ofText text).candidates (.ofText text)).map crlfEntry := by
    simp only [candidates, List.map_append, classCandidates_crlf, functionCandidates_crlf,
      variableCandidates_crlf, attributeCandidates_crlf, importCandidates_crlf]
  have kept : (firstBy Prod.fst ((ofText text.crlf).candidates (.ofText text.crlf))).map Prod.snd =
      ((firstBy Prod.fst ((ofText text).candidates (.ofText text))).map Prod.snd).map
        SymbolRecord.crlf := by
    rw [candidates, firstBy_map, List.map_map, List.map_map]
    rfl
  have keywords := keywordRecords_crlf text
  rw [positions, positions, List.map_append]
  exact congrArg₂ (· ++ ·) keywords kept

end Findings

/-- A document written with carriage returns before its newlines yields what it yielded, with the
parameter texts written the same way. -/
theorem extract_crlf (text : Text) : extract text.crlf = (extract text).crlf := by
  rw [extract, Text.allBlank_crlf, extract]
  split
  · rfl
  · simp only [Findings.snapshot, Snapshot.crlf, Findings.symbols, Findings.names_ofText_crlf,
      Findings.positions_crlf, Findings.objectTypes_crlf, Findings.classMembers_crlf,
      Findings.functionParameters_crlf]

end SymbolIndex
