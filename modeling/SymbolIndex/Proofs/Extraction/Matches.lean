import SymbolIndex.Extraction
import SymbolIndex.Proofs.Pattern.WholeWord

/-! The matches behind the position list, group by group, and the records that they give. Behind
the keywords the list holds of all these records the first of every key. -/
namespace SymbolIndex
variable {text word : Text} {record : SymbolRecord} {found : Occurrence} {index : LineIndex}

/-- The groups of records behind the keywords. -/
inductive SymbolGroup
  | classes | functions | plainVariables | attributes | plainImports | fromImports
deriving DecidableEq

namespace SymbolGroup

/-- The groups as they follow one another. -/
def inOrder : List SymbolGroup :=
  [.classes, .functions, .plainVariables, .attributes, .plainImports, .fromImports]

/-- The kind of the records of a group. -/
def kind : SymbolGroup → SymbolKind
  | .classes => .classDef
  | .functions => .function
  | .plainVariables | .attributes => .variable
  | .plainImports | .fromImports => .importName

/-- What tells the records of a group apart. -/
def keyOf : SymbolGroup → SymbolRecord → RecordKey
  | .classes, record => .classDef record.name
  | .functions, record => .function record.scope record.name
  | .plainVariables, record =>
    .variable (if record.scope.isEmpty then none else some record.scope) record.name
  | .attributes, record => .variable (some record.scope) record.name
  | .plainImports, record | .fromImports, record => .importName record.name

theorem mem_inOrder (group : SymbolGroup) : group ∈ inOrder := by
  cases group <;> decide

end SymbolGroup

/-- A record with the group that lists it. -/
structure GroupedRecord where
  group : SymbolGroup
  record : SymbolRecord
deriving DecidableEq

/-- The key of the record in its group. -/
def GroupedRecord.key (entry : GroupedRecord) : RecordKey := entry.group.keyOf entry.record

namespace Findings

/-- The scope that a record of this kind takes at an offset: neither keywords nor imports are told
the class around them. -/
def scopeOf (found : Findings) (kind : SymbolKind) (offset : Nat) : Text :=
  if kind = .keyword ∨ kind = .importName then [] else found.scopes.classAt offset

/-- Records of all occurrences of a keyword. -/
def wordRecords (text word : Text) : List SymbolRecord :=
  ((Pattern.wholeWord word).occurrences text).map fun found =>
    recordOf (.ofText text) .keyword found.name [] []

/-- What the matches of a group capture: their names, and the parameter texts of functions. A
keyword is no variable. -/
def groupCaptures (text : Text) : SymbolGroup → List (Capture × Text)
  | .classes => (Scope.classRanges text).map fun range => (⟨range.nameStart, range.name⟩, [])
  | .functions => (Pattern.functionHeader.occurrences text).map fun header =>
    (header.name, header.parameters)
  | .plainVariables => ((Pattern.variableAssignment.occurrences text).filter
      (!Vocabulary.keywords.contains ·.name.text)).map fun assigned => (assigned.name, [])
  | .attributes => (Pattern.attributeAssignment.occurrences text).map fun assigned =>
    (assigned.name, [])
  | .plainImports => (Pattern.plainImport.occurrences text).map fun imported => (imported.name, [])
  | .fromImports => (Pattern.fromImport.occurrences text).map fun imported => (imported.bound, [])

/-- Records of all matches of a group, those with repeated keys included. -/
def groupRecords (text : Text) (group : SymbolGroup) : List SymbolRecord :=
  (groupCaptures text group).map fun captured => recordOf (.ofText text) group.kind captured.1
    ((Findings.ofText text).scopeOf group.kind captured.1.start) captured.2

/-- The records of all groups, one group after the other. -/
def allRecords (text : Text) : List GroupedRecord :=
  SymbolGroup.inOrder.flatMap fun group => (groupRecords text group).map (⟨group, ·⟩)

/-- The records whose key no record before them has. -/
def keptRecords (text : Text) : List GroupedRecord := firstBy GroupedRecord.key (allRecords text)

theorem candidates_eq (text : Text) : (Findings.ofText text).candidates (.ofText text) =
    (allRecords text).map fun entry => (entry.key, entry.record) := by
  simp only [allRecords, SymbolGroup.inOrder, List.flatMap_cons, List.flatMap_nil, List.append_nil,
    List.map_append, List.map_map, candidates, classCandidates, functionCandidates,
    variableCandidates, attributeCandidates, importCandidates, groupRecords, groupCaptures,
    List.append_assoc]
  rfl

/-- Behind the keywords the position list holds the records that are kept. -/
theorem positions_eq (text : Text) : (Findings.ofText text).positions =
    Vocabulary.keywords.flatMap (wordRecords text) ++ (keptRecords text).map (·.record) := by
  have kept : firstBy Prod.fst ((Findings.ofText text).candidates (.ofText text)) =
      (keptRecords text).map fun entry => (entry.key, entry.record) := by
    rw [candidates_eq, firstBy_map]
    rfl
  have listed := congrArg (List.map Prod.snd) kept
  rw [List.map_map] at listed
  exact congrArg (keywordRecords (.ofText text) text ++ ·) listed

theorem mem_allRecords {entry : GroupedRecord} :
    entry ∈ allRecords text ↔ entry.record ∈ groupRecords text entry.group := by
  rw [allRecords, List.mem_flatMap]
  constructor
  · rintro ⟨group, _, listed⟩
    obtain ⟨record, member, rfl⟩ := List.mem_map.mp listed
    exact member
  · exact fun member => ⟨entry.group, entry.group.mem_inOrder, List.mem_map.mpr ⟨_, member, rfl⟩⟩

theorem kind_of_mem_allRecords {entry : GroupedRecord} (member : entry ∈ allRecords text) :
    entry.record.kind = entry.group.kind := by
  obtain ⟨_, _, same⟩ := List.mem_map.mp (mem_allRecords.mp member)
  rw [← same]
  rfl

theorem keywords_name (word : Text) (member : word ∈ Vocabulary.keywords) :
    word ≠ [] ∧ ∀ c ∈ word, Text.isNameChar c = true := by
  have all : (Vocabulary.keywords.all fun word =>
      !word.isEmpty && word.all Text.isNameChar) = true := by decide
  simpa using List.all_eq_true.mp all word member

/-- An occurrence of a keyword is a whole run. -/
theorem whole_of_mem_occurrences (keyword : word ∈ Vocabulary.keywords)
    (occurs : found ∈ (Pattern.wholeWord word).occurrences text) :
    found.name.text = word ∧ IsNameRun text found.name := by
  obtain ⟨cursor, place, finds⟩ := Recogniser.mem_occurrences occurs
  obtain ⟨nonempty, name⟩ := keywords_name word keyword
  exact Recogniser.wholeWord_name nonempty name place finds

theorem kind_of_mem_keywordRecords (member : record ∈ keywordRecords index text) :
    record.kind = .keyword := by
  obtain ⟨word, _, listed⟩ := List.mem_flatMap.mp member
  obtain ⟨found, _, rfl⟩ := List.mem_map.mp listed
  rfl

/-- Ranges keep the name that their header captures. -/
theorem mem_ranges {range : ClassRange} (member : range ∈ (Scopes.ofText text).ranges) :
    IsNameRun text ⟨range.nameStart, range.name⟩ := by
  obtain ⟨header, occurs, rfl⟩ := List.mem_map.mp member
  obtain ⟨cursor, place, finds⟩ := Recogniser.mem_occurrences occurs
  exact Recogniser.classHeader_name place finds

/-- Every match captures a whole run of identifier characters. -/
theorem whole_of_mem_groupCaptures {group : SymbolGroup} {captured : Capture × Text}
    (member : captured ∈ groupCaptures text group) : IsNameRun text captured.1 := by
  cases group <;> obtain ⟨found, listed, rfl⟩ := List.mem_map.mp member
  case classes => exact mem_ranges listed
  case functions =>
    obtain ⟨cursor, place, finds⟩ := Recogniser.mem_occurrences listed
    exact Recogniser.functionHeader_name place finds
  case plainVariables =>
    obtain ⟨cursor, place, finds⟩ := Recogniser.mem_occurrences (List.mem_filter.mp listed).1
    exact Recogniser.variableAssignment_name place finds
  case attributes =>
    obtain ⟨cursor, place, finds⟩ := Recogniser.mem_occurrences listed
    exact Recogniser.attributeAssignment_name place finds
  case plainImports =>
    obtain ⟨cursor, place, finds⟩ := Recogniser.mem_occurrences listed
    exact Recogniser.plainImport_name place finds
  case fromImports =>
    obtain ⟨cursor, place, finds⟩ := Recogniser.mem_occurrences listed
    exact Recogniser.fromImport_bound place finds

/-- A listed record is that of a keyword or of a match in some group. -/
theorem word_or_group_of_mem_positions (member : record ∈ (Findings.ofText text).positions) :
    (∃ word ∈ Vocabulary.keywords, record ∈ wordRecords text word) ∨
      ∃ group, record ∈ groupRecords text group := by
  rw [positions_eq] at member
  refine (List.mem_append.mp member).imp List.mem_flatMap.mp fun listed => ?_
  obtain ⟨entry, kept, rfl⟩ := List.mem_map.mp listed
  exact ⟨entry.group, mem_allRecords.mp (mem_of_mem_firstBy kept)⟩

/-- A record other than a keyword's comes from a match of its group. -/
theorem exists_capture_of_record (member : record ∈ (Findings.ofText text).positions)
    (kind : record.kind ≠ .keyword) : ∃ group, ∃ captured ∈ groupCaptures text group,
      record = recordOf (.ofText text) group.kind captured.1
        ((Findings.ofText text).scopeOf group.kind captured.1.start) captured.2 := by
  rcases word_or_group_of_mem_positions member with ⟨_, _, listed⟩ | ⟨group, listed⟩
  · obtain ⟨_, _, rfl⟩ := List.mem_map.mp listed
    exact absurd rfl kind
  · obtain ⟨captured, found, rfl⟩ := List.mem_map.mp listed
    exact ⟨group, captured, found, rfl⟩

end Findings
end SymbolIndex
