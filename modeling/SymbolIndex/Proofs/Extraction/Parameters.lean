import Mathlib.Data.List.Nodup
import Mathlib.Data.Set.Function
import SymbolIndex.Proofs.Dictionary
import SymbolIndex.Proofs.Extraction.Groups
import SymbolIndex.Proofs.Text.Strip

/-! Parameter texts are kept in two places: in the records, where the first header of a function
counts, and in the map by qualified names, where the last one does. Both have the same keys. -/
namespace SymbolIndex
variable {text key scope name other : Text} {record : SymbolRecord} {header : Occurrence}
  {p : Char → Bool} {c : Char}

/-- The key of a function in the map of parameter texts. -/
def SymbolRecord.qualified (record : SymbolRecord) : Text :=
  Findings.qualifiedName record.scope record.name

/-- Whether the record is that of a function with a name that is offered. -/
def SymbolRecord.isOfferedFunction (record : SymbolRecord) : Bool :=
  record.kind = .function && Vocabulary.isOffered record.name

namespace Findings

/-- Qualified names tell functions apart as long as scopes and names hold no dot. -/
theorem qualifiedName_inj {around : Text} (inner : '.' ∉ scope) (plain : '.' ∉ name)
    (alsoPlain : '.' ∉ other) :
    qualifiedName scope name = qualifiedName around other ↔ scope = around ∧ name = other := by
  constructor
  · intro same
    rw [qualifiedName, qualifiedName] at same
    cases scope with
    | nil =>
      cases around with
      | nil => exact ⟨rfl, same⟩
      | cons c around =>
        have written : name = (c :: around) ++ '.' :: other := same
        exact absurd (by simp [written]) plain
    | cons c scope =>
      cases around with
      | nil =>
        have written : (c :: scope) ++ '.' :: name = other := same
        exact absurd (by simp [← written]) alsoPlain
      | cons d around =>
        obtain ⟨scopes, _, names⟩ := (List.append_cons_inj_of_notMem inner plain).mp same
        exact ⟨scopes, names⟩
  · rintro ⟨rfl, rfl⟩
    rfl

/-- The key of a function header: its name, qualified by the class around it. -/
def headerKey (text : Text) (header : Occurrence) : Text :=
  qualifiedName ((Scopes.ofText text).classAt header.name.start) header.name.text

/-- The record of a function header. -/
def headerRecord (text : Text) (header : Occurrence) : SymbolRecord :=
  recordOf (.ofText text) .function header.name ((Scopes.ofText text).classAt header.name.start)
    header.parameters

/-- The headers of functions with names that are offered. -/
def offeredHeaders (text : Text) : List Occurrence :=
  (Pattern.functionHeader.occurrences text).filter (Vocabulary.isOffered ·.name.text)

theorem headerKey_inj {header again : Occurrence}
    (occurs : header ∈ Pattern.functionHeader.occurrences text)
    (also : again ∈ Pattern.functionHeader.occurrences text) :
    headerKey text header = headerKey text again ↔
      (Scopes.ofText text).classAt header.name.start =
        (Scopes.ofText text).classAt again.name.start ∧ header.name.text = again.name.text :=
  qualifiedName_inj (dot_notMem_scopeOf text .function header.name.start)
    (dot_notMem_header occurs) (dot_notMem_header also)

/-- Among all records, the offered functions are the records of offered headers. -/
theorem allRecords_offered (text : Text) :
    (allRecords text).filter (·.record.isOfferedFunction) =
      (offeredHeaders text).map fun header => ⟨.functions, headerRecord text header⟩ := by
  have around (offset : Nat) : (Findings.ofText text).scopeOf .function offset =
      (Scopes.ofText text).classAt offset := rfl
  simp [SymbolRecord.isOfferedFunction, allRecords, SymbolGroup.inOrder, groupRecords, groupCaptures,
    List.filter_map, SymbolGroup.kind, recordOf, Function.comp_def, offeredHeaders, headerRecord,
    around]

/-- Whether a record is that of an offered function shows in its key. -/
theorem isOfferedFunction_iff {entry : GroupedRecord} (member : entry ∈ allRecords text) :
    entry.record.isOfferedFunction = true ↔
      ∃ scope name, entry.key = .function scope name ∧ Vocabulary.isOffered name = true := by
  have fixed (scope name : Text) : entry.key = .function scope name ↔ entry.record.kind = .function ∧
      entry.record.scope = scope ∧ entry.record.name = name :=
    SymbolGroup.keyOf_eq_function (kind_of_mem_allRecords member)
  rw [SymbolRecord.isOfferedFunction, Bool.and_eq_true, decide_eq_true_eq]
  constructor
  · rintro ⟨kind, offered⟩
    exact ⟨_, _, (fixed _ _).mpr ⟨kind, rfl, rfl⟩, offered⟩
  · rintro ⟨scope, name, same, offered⟩
    obtain ⟨kind, _, rfl⟩ := (fixed _ _).mp same
    exact ⟨kind, offered⟩

/-- The offered functions of the position list are the first headers of their keys. -/
theorem offered_positions (text : Text) :
    (extract text).positions.filter (·.isOfferedFunction) =
      (firstBy (headerKey text) (offeredHeaders text)).map (headerRecord text) := by
  have words : (Vocabulary.keywords.flatMap (wordRecords text)).filter
      (·.isOfferedFunction) = [] := by
    refine List.filter_eq_nil_iff.mpr fun record member => ?_
    simp [SymbolRecord.isOfferedFunction, kind_of_mem_keywordRecords member]
  have whole : ∀ a ∈ allRecords text, ∀ b ∈ allRecords text, a.key = b.key →
      a.record.isOfferedFunction = b.record.isOfferedFunction := by
    intro a member b also same
    rw [Bool.eq_iff_iff, isOfferedFunction_iff member, isOfferedFunction_iff also, same]
  let entryOf (header : Occurrence) : GroupedRecord := ⟨.functions, headerRecord text header⟩
  have keys : ∀ a ∈ offeredHeaders text, ∀ b ∈ offeredHeaders text,
      (entryOf a).key = (entryOf b).key ↔ headerKey text a = headerKey text b := by
    intro a member b also
    rw [headerKey_inj (List.mem_filter.mp member).1 (List.mem_filter.mp also).1]
    simp [entryOf, GroupedRecord.key, SymbolGroup.keyOf, headerRecord, recordOf]
  have kept : (keptRecords text).filter (·.record.isOfferedFunction) =
      (firstBy (headerKey text) (offeredHeaders text)).map entryOf := by
    rw [keptRecords, ← firstBy_filter _ _ _ whole, allRecords_offered, firstBy_map]
    exact congrArg (List.map entryOf) (firstBy_congr keys)
  rw [extract_positions, positions_eq, List.filter_append, words, List.nil_append, List.filter_map]
  exact (congrArg (List.map (·.record)) kept).trans List.map_map

theorem extract_functionParameters (text : Text) : (extract text).functionParameters =
    .ofList ((offeredHeaders text).map fun header => (headerKey text header, header.parameters)) := by
  rw [extract]
  split
  · rename_i blanks
    have none : offeredHeaders text = [] := by
      refine List.eq_nil_iff_forall_not_mem.mpr fun header member => ?_
      obtain ⟨cursor, place, finds⟩ := Recogniser.mem_occurrences (List.mem_filter.mp member).1
      simp [(Recogniser.functionHeader_name place finds).not_allBlank] at blanks
    rw [none]
    rfl
  · rfl

/-- The records of offered functions. -/
def offeredRecords (text : Text) : List SymbolRecord :=
  (extract text).positions.filter (·.isOfferedFunction)

theorem mem_offeredRecords : record ∈ offeredRecords text ↔
    ∃ header ∈ firstBy (headerKey text) (offeredHeaders text), headerRecord text header = record := by
  rw [offeredRecords, offered_positions, List.mem_map]

/-- The map has the keys of the records, in their order. -/
theorem qualified_records (text : Text) :
    (offeredRecords text).map (·.qualified) = (extract text).functionParameters.keys := by
  rw [extract_functionParameters, Dictionary.keys_ofList, offeredRecords, offered_positions,
    List.map_map, List.map_map]
  exact map_firstBy (headerKey text) (offeredHeaders text)

theorem mem_functionParameters_keys : key ∈ (extract text).functionParameters.keys ↔
    ∃ record ∈ offeredRecords text, record.qualified = key := by
  rw [← qualified_records, List.mem_map]

/-- The map has one key for each record of an offered function. -/
theorem qualified_bijOn (text : Text) : Set.BijOn SymbolRecord.qualified
    {record | record ∈ offeredRecords text} {key | key ∈ (extract text).functionParameters.keys} := by
  have distinct : ((offeredRecords text).map (·.qualified)).Nodup :=
    qualified_records text ▸ (extract text).functionParameters.distinct
  refine ⟨fun record member => ?_, fun record member other also => ?_, fun key listed => ?_⟩
  · exact mem_functionParameters_keys.mpr ⟨record, member, rfl⟩
  · exact List.inj_on_of_nodup_map distinct member also
  · exact mem_functionParameters_keys.mp listed

/-- All headers with a key. -/
def headersOf (text key : Text) : List Occurrence :=
  (Pattern.functionHeader.occurrences text).filter (headerKey text · = key)

/-- If one header of a key is offered, all are. -/
theorem headersOf_eq (member : header ∈ offeredHeaders text) :
    (offeredHeaders text).filter (headerKey text · = headerKey text header) =
      headersOf text (headerKey text header) := by
  obtain ⟨occurs, offered⟩ := List.mem_filter.mp member
  rw [offeredHeaders, List.filter_filter, headersOf]
  refine List.filter_congr fun other also => ?_
  by_cases same : headerKey text other = headerKey text header
  · simp [same, ((headerKey_inj also occurs).mp same).2, offered]
  · simp [same]

/-- A record shows the parameters of the first header. -/
theorem first_parameters (member : record ∈ offeredRecords text) :
    ∃ first, (headersOf text record.qualified).head? = some first ∧
      record.parameters = Text.strip first.detailText := by
  obtain ⟨header, first, rfl⟩ := mem_offeredRecords.mp member
  refine ⟨header, ?_, rfl⟩
  have others := headersOf_eq (mem_of_mem_firstBy first)
  exact others ▸ (mem_firstBy_iff.mp first).head?_filter

/-- The map shows the parameters of the last header. -/
theorem last_parameters (listed : key ∈ (extract text).functionParameters.keys) :
    ∃ last, (headersOf text key).getLast? = some last ∧
      (extract text).functionParameters.get? key = some (Text.strip last.detailText) := by
  obtain ⟨record, member, rfl⟩ := mem_functionParameters_keys.mp listed
  obtain ⟨header, first, rfl⟩ := mem_offeredRecords.mp member
  obtain ⟨value, found⟩ := Dictionary.mem_keys.mp listed
  have shown : (extract text).functionParameters.get? (headerKey text header) =
      (headersOf text (headerKey text header)).getLast?.map (·.parameters) := by
    rw [extract_functionParameters, Dictionary.get?_ofList, List.filter_map, List.getLast?_map,
      Option.map_map, ← headersOf_eq (mem_of_mem_firstBy first)]
    rfl
  obtain ⟨last, ends, rfl⟩ := Option.map_eq_some_iff.mp (shown.symm.trans found)
  exact ⟨last, ends, found⟩

/-- Records that are not of functions have no parameters. -/
theorem parameters_of_mem_positions (member : record ∈ (extract text).positions) :
    record.parameters = [] ∨
      ∃ header ∈ Pattern.functionHeader.occurrences text, record.parameters = header.parameters := by
  rw [extract_positions] at member
  rcases word_or_group_of_mem_positions member with ⟨_, _, listed⟩ | ⟨group, listed⟩
  · obtain ⟨_, _, rfl⟩ := List.mem_map.mp listed
    exact Or.inl rfl
  · obtain ⟨captured, found, rfl⟩ := List.mem_map.mp listed
    cases group <;> obtain ⟨header, occurs, rfl⟩ := List.mem_map.mp found
    case functions => exact Or.inr ⟨header, occurs, rfl⟩
    all_goals exact Or.inl rfl

/-- A parameter text as it is shown: without a closing parenthesis, and without blanks at its
ends. -/
structure PlainParameters (parameters : Text) : Prop where
  unclosed : ')' ∉ parameters
  first : ∀ c, parameters.head? = some c → Text.isBlank c = false
  last : ∀ c, parameters.getLast? = some c → Text.isBlank c = false

theorem plainParameters_of_header (occurs : header ∈ Pattern.functionHeader.occurrences text) :
    PlainParameters header.parameters := by
  obtain ⟨cursor, _, finds⟩ := Recogniser.mem_occurrences occurs
  obtain ⟨written, gap, label, pad, inside, after, spells, _, rfl⟩ :=
    Recogniser.exists_spelled_of_functionHeader finds
  have shown : (Recogniser.functionAt cursor.offset written gap label pad inside).parameters =
      inside.trim Text.isBlank := rfl
  rw [shown]
  exact ⟨fun closing => spells.inside_open (Text.mem_of_mem_trim closing),
    fun c => Text.head?_trim, fun c => Text.getLast?_trim⟩

/-- Records of offered functions stand for the keys of the parameter map one by one. The map has the
parameters of the last header with a key, the record those of the first. -/
theorem parameters_first_and_last (text : Text) :
    let records := (extract text).positions.filter fun record =>
      record.kind = .function && Vocabulary.isOffered record.name
    let parameters := (extract text).functionParameters
    records.map (·.qualified) = parameters.keys ∧
    Set.BijOn SymbolRecord.qualified {record | record ∈ records} {key | key ∈ parameters.keys} ∧
    (∀ key ∈ parameters.keys, ∃ last, (headersOf text key).getLast? = some last ∧
      parameters.get? key = some (Text.strip last.detailText)) ∧
    (∀ record ∈ records, ∃ first, (headersOf text record.qualified).head? = some first ∧
      record.parameters = Text.strip first.detailText) ∧
    (∀ record ∈ records, (headersOf text record.qualified).length = 1 →
      parameters.get? record.qualified = some record.parameters) ∧
    (∀ record ∈ (extract text).positions, PlainParameters record.parameters) ∧
    ∀ key shown, parameters.get? key = some shown → PlainParameters shown := by
  refine ⟨qualified_records text, qualified_bijOn text, fun key => last_parameters,
    fun record => first_parameters, fun record member single => ?_, fun record member => ?_,
    fun key shown found => ?_⟩
  · obtain ⟨header, alone⟩ := List.length_eq_one_iff.mp single
    obtain ⟨first, head, shown⟩ := first_parameters member
    obtain ⟨last, ends, value⟩ :=
      last_parameters (mem_functionParameters_keys.mpr ⟨record, member, rfl⟩)
    rw [alone] at head ends
    have same : last = first := (Option.some.inj ends).symm.trans (Option.some.inj head)
    rw [value, shown, same]
  · rcases parameters_of_mem_positions member with none | ⟨header, occurs, same⟩
    · rw [none]
      exact ⟨List.not_mem_nil, fun _ => nofun, fun _ => nofun⟩
    · exact same ▸ plainParameters_of_header occurs
  · obtain ⟨last, ends, value⟩ := last_parameters (Dictionary.mem_keys.mpr ⟨shown, found⟩)
    rw [found] at value
    rw [Option.some.inj value]
    exact plainParameters_of_header (List.mem_filter.mp (List.mem_of_getLast? ends)).1

theorem parameters_first_and_last_twice :
    let text := "def f(a): pass\ndef f( b ): pass\n".toList
    (∃ record ∈ (extract text).positions, record.qualified = ['f'] ∧ record.parameters = ['a']) ∧
      (extract text).functionParameters.get? ['f'] = some ['b'] := by
  intro text
  obtain ⟨_, paired, lasts, firsts, _⟩ := parameters_first_and_last text
  have ranges : Scope.classRanges text = [] := by decide
  have outside (offset : Nat) : (Scopes.ofText text).classAt offset = [] := by
    rw [Scopes.classAt, Scopes.rangeAt?_eq, ranges]
    rfl
  have headers : headersOf text ['f'] = Pattern.functionHeader.occurrences text := by
    simp only [headersOf, headerKey, outside]
    decide
  have listed : ['f'] ∈ (extract text).functionParameters.keys := by
    rw [extract_functionParameters, Dictionary.keys_ofList, List.map_map]
    simp only [Function.comp_def, headerKey, outside]
    decide
  obtain ⟨record, member, key⟩ := paired.surjOn listed
  obtain ⟨first, head, shown⟩ := firsts record member
  obtain ⟨last, ends, value⟩ := lasts _ listed
  have written : (headersOf text ['f']).map (fun header => Text.strip header.detailText) =
      [['a'], ['b']] := by
    rw [headers]
    decide
  have firstText := congrArg List.head? written
  have lastText := congrArg List.getLast? written
  rw [List.head?_map, ← key, head] at firstText
  rw [List.getLast?_map, ends] at lastText
  exact ⟨⟨record, (List.mem_filter.mp member).1, key, shown.trans (Option.some.inj firstText)⟩,
    value.trans lastText⟩

end Findings
end SymbolIndex
