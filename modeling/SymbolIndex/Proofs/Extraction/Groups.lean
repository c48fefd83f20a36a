import Mathlib.Data.List.Count
import SymbolIndex.Proofs.Extraction.Members
import SymbolIndex.Proofs.FirstOccurrence

/-! The order of the position list and what is left out of it: its groups come one after another,
each in text order, and of the matches that share a key the first one is listed. Keys are compared
as they are written out; groups that are to share keys do, and no two others ever meet. -/
namespace SymbolIndex
variable {text name scope : Text} {record other : SymbolRecord} {found : Findings}
  {index : LineIndex} {a b : RecordKey}

namespace RecordKey

/-- A key written out. Only classes, imports and variables outside classes go without a dot. -/
def written : RecordKey → Text
  | .classDef name => "c:".toList ++ name
  | .function scope name => "f:".toList ++ (scope ++ '.' :: name)
  | .variable none name => "v:".toList ++ name
  | .variable (some scope) name => "v:".toList ++ (scope ++ '.' :: name)
  | .importName name => "i:".toList ++ name

/-- Neither the name nor the scope of the key holds a dot. -/
def Dotless : RecordKey → Prop
  | .classDef name | .importName name | .variable none name => '.' ∉ name
  | .function scope name | .variable (some scope) name => '.' ∉ scope ∧ '.' ∉ name

/-- Of keys without dots no two are written alike: the letters tell the kinds apart, and the first
dot the scope from the name. -/
theorem eq_of_written (dotless : a.Dotless) (also : b.Dotless) (same : a.written = b.written) :
    a = b := by
  rcases a with n | ⟨s, n⟩ | ⟨_ | s, n⟩ | n <;> rcases b with m | ⟨t, m⟩ | ⟨_ | t, m⟩ | m <;>
    simp [written] at same
  · rw [same]
  · obtain ⟨rfl, _, rfl⟩ := (List.append_cons_inj_of_notMem dotless.1 dotless.2).mp same
    rfl
  · rw [same]
  · exact absurd (by simp [same]) dotless
  · exact absurd (by simp [← same]) also
  · obtain ⟨rfl, _, rfl⟩ := (List.append_cons_inj_of_notMem dotless.1 dotless.2).mp same
    rfl
  · rw [same]

end RecordKey

namespace SymbolGroup
variable {group : SymbolGroup}

theorem dotless_keyOf (group : SymbolGroup) (name : '.' ∉ record.name) (scope : '.' ∉ record.scope) :
    (group.keyOf record).Dotless := by
  cases group
  case plainVariables =>
    by_cases outside : record.scope.isEmpty = true
    · simpa [keyOf, RecordKey.Dotless, outside] using name
    · simpa [keyOf, RecordKey.Dotless, outside] using ⟨scope, name⟩
  case functions => exact ⟨scope, name⟩
  case attributes => exact ⟨scope, name⟩
  all_goals exact name

theorem keyOf_eq_classDef (same : record.kind = group.kind) :
    group.keyOf record = .classDef name ↔ record.kind = .classDef ∧ record.name = name := by
  cases group <;> simp [same, keyOf, kind]

theorem keyOf_eq_function (same : record.kind = group.kind) :
    group.keyOf record = .function scope name ↔
      record.kind = .function ∧ record.scope = scope ∧ record.name = name := by
  cases group <;> simp [same, keyOf, kind]

theorem keyOf_eq_importName (same : record.kind = group.kind) :
    group.keyOf record = .importName name ↔ record.kind = .importName ∧ record.name = name := by
  cases group <;> simp [same, keyOf, kind]

theorem kind_eq_variable : group.kind = .variable ↔ group = .plainVariables ∨ group = .attributes := by
  cases group <;> simp [kind]

/-- Within a class plain assignments and attributes share their keys. -/
theorem keyOf_eq_inside (same : record.kind = group.kind) (inside : scope ≠ []) :
    group.keyOf record = .variable (some scope) name ↔
      record.kind = .variable ∧ record.scope = scope ∧ record.name = name := by
  cases group
  case plainVariables =>
    by_cases outside : record.scope = []
    · simp [same, keyOf, kind, outside, inside.symm]
    · simp [same, keyOf, kind, outside]
  all_goals simp [same, keyOf, kind]

/-- Outside classes only plain assignments have a key without a scope. -/
theorem keyOf_eq_plain : group.keyOf record = .variable none name ↔
    group = .plainVariables ∧ record.scope = [] ∧ record.name = name := by
  cases group <;> simp [keyOf]

/-- Outside classes only attributes have a key with the empty scope. -/
theorem keyOf_eq_attribute : group.keyOf record = .variable (some []) name ↔
    group = .attributes ∧ record.scope = [] ∧ record.name = name := by
  cases group <;> simp [keyOf]

end SymbolGroup

namespace Findings

/-- The names captured in a group stand one after another. -/
theorem groupCaptures_rising (text : Text) (group : SymbolGroup) :
    (groupCaptures text group).Pairwise fun a b => a.1.start < b.1.start := by
  cases group <;> refine List.pairwise_map.mpr ?_
  case classes => exact List.pairwise_map.mpr (Recogniser.classHeader_captures.rising text)
  case functions => exact Recogniser.functionHeader_captures.rising text
  case plainVariables => exact (Recogniser.variableAssignment_captures.rising text).filter _
  case attributes => exact Recogniser.attributeAssignment_captures.rising text
  case plainImports => exact Recogniser.plainImport_captures.rising text
  case fromImports => exact Recogniser.fromImport_captures.rising text

theorem dot_notMem_scopeOf (text : Text) (kind : SymbolKind) (offset : Nat) :
    '.' ∉ (Findings.ofText text).scopeOf kind offset := by
  rw [scopeOf]
  split
  · exact List.not_mem_nil
  · by_cases outside : (Scopes.ofText text).classAt offset = []
    · exact outside ▸ List.not_mem_nil
    · obtain ⟨range, found, around⟩ := exists_range_of_classAt outside
      exact around ▸ dot_notMem_class (Scopes.rangeAt?_eq_some found).1

theorem dotless_of_mem_allRecords {entry : GroupedRecord} (member : entry ∈ allRecords text) :
    entry.key.Dotless := by
  obtain ⟨captured, listed, same⟩ := List.mem_map.mp (mem_allRecords.mp member)
  have name := (whole_of_mem_groupCaptures listed).name '.'
  refine SymbolGroup.dotless_keyOf entry.group ?_ ?_ <;> rw [← same]
  · exact fun dot => absurd (name dot) (by decide)
  · exact dot_notMem_scopeOf text entry.group.kind captured.1.start

/-- Comparing written keys keeps the same records. -/
theorem keptRecords_eq_written (text : Text) :
    keptRecords text = firstBy (·.key.written) (allRecords text) := by
  refine firstBy_congr fun a member b also => ⟨congrArg RecordKey.written, ?_⟩
  exact RecordKey.eq_of_written (dotless_of_mem_allRecords member) (dotless_of_mem_allRecords also)

end Findings

/-- The name of the first record stands before that of the second. -/
def SymbolRecord.Before (text : Text) (record other : SymbolRecord) : Prop :=
  (LineIndex.ofText text).offset record.line record.column <
    (LineIndex.ofText text).offset other.line other.column

namespace Findings

/-- Records of rising captures stand one after another. -/
theorem records_rising {α : Type} {items : List α} {pick : α → Capture} (kind : SymbolKind)
    (scope parameters : α → Text) (whole : ∀ a ∈ items, IsNameRun text (pick a))
    (rising : items.Pairwise fun a b => (pick a).start < (pick b).start) :
    (items.map fun a => recordOf (.ofText text) kind (pick a) (scope a) (parameters a)).Pairwise
      (SymbolRecord.Before text) := by
  refine List.pairwise_map.mpr (rising.imp_of_mem fun {a b} member also before => ?_)
  obtain ⟨_, _, first⟩ := recordOf_standsOn (whole a member) kind (scope a) (parameters a)
  obtain ⟨_, _, second⟩ := recordOf_standsOn (whole b also) kind (scope b) (parameters b)
  rwa [SymbolRecord.Before, first.offset_eq, second.offset_eq]

theorem groupRecords_rising (text : Text) (group : SymbolGroup) :
    (groupRecords text group).Pairwise (SymbolRecord.Before text) :=
  records_rising _ _ _ (fun _ member => whole_of_mem_groupCaptures member)
    (groupCaptures_rising text group)

theorem wordRecords_rising {word : Text} (keyword : word ∈ Vocabulary.keywords) :
    (wordRecords text word).Pairwise (SymbolRecord.Before text) := by
  have captures := Recogniser.wholeWord_captures (keywords_name word keyword).1
  exact records_rising _ _ _ (fun _ occurs => (whole_of_mem_occurrences keyword occurs).2)
    (captures.rising text)

/-- Within its group a record stands before those that follow. -/
theorem allRecords_rising (text : Text) : (allRecords text).Pairwise fun a b =>
    a.group = b.group → a.record.Before text b.record := by
  refine List.pairwise_flatMap.mpr ⟨fun group _ => ?_, ?_⟩
  · refine List.pairwise_map.mpr ((groupRecords_rising text group).imp ?_)
    exact fun before _ => before
  · have distinct : SymbolGroup.inOrder.Nodup := by decide
    refine distinct.imp fun {g h} apart a first b second same => absurd ?_ apart
    obtain ⟨_, _, rfl⟩ := List.mem_map.mp first
    obtain ⟨_, _, rfl⟩ := List.mem_map.mp second
    exact same

/-- The records that are kept are still grouped. -/
theorem keptRecords_grouped (text : Text) : keptRecords text =
    SymbolGroup.inOrder.flatMap fun group => (keptRecords text).filter (·.group = group) := by
  refine eq_flatMap_filter_of_sublist (by decide) (fun group _ entry member => ?_)
    (firstBy_sublist GroupedRecord.key (allRecords text))
  obtain ⟨_, _, rfl⟩ := List.mem_map.mp member
  rfl

theorem kept_of_group_rising (text : Text) (group : SymbolGroup) :
    ((keptRecords text).filter (·.group = group)).Pairwise fun a b =>
      a.record.Before text b.record := by
  have rising := (allRecords_rising text).sublist (firstBy_sublist GroupedRecord.key _)
  refine (rising.filter _).imp_of_mem fun {a b} first second before => before ?_
  have here := of_decide_eq_true (List.mem_filter.mp first).2
  exact here.trans (of_decide_eq_true (List.mem_filter.mp second).2).symm

/-- A key that some match has is listed once. -/
theorem count_key (text : Text) (key : RecordKey) :
    (keptRecords text).countP (·.key = key) =
      if ∃ entry ∈ allRecords text, entry.key = key then 1 else 0 := by
  have keys : (keptRecords text).map (·.key) = unique ((allRecords text).map (·.key)) :=
    map_firstBy _ _
  have listed : key ∈ unique ((allRecords text).map (·.key)) ↔
      ∃ entry ∈ allRecords text, entry.key = key := mem_unique.trans List.mem_map
  have counted := (nodup_unique ((allRecords text).map (·.key))).count (a := key)
  rw [← keys, List.count, List.countP_map] at counted
  rw [← if_congr listed rfl rfl, ← keys, ← counted]
  exact List.countP_congr fun entry _ => by simp

/-- Of the records with a property one is listed, provided that there are any. -/
def ListedOnce (text : Text) (positions : List SymbolRecord) (p : SymbolRecord → Prop)
    [DecidablePred p] : Prop :=
  positions.countP (p ·) = if ∃ entry ∈ allRecords text, p entry.record then 1 else 0

/-- Outside the keywords counting records is counting what is kept. -/
theorem countP_positions {p : SymbolRecord → Prop} [DecidablePred p]
    (defines : ∀ record, p record → record.kind ≠ .keyword) :
    (extract text).positions.countP (p ·) =
      (keptRecords text).countP fun entry => p entry.record := by
  have none : (Vocabulary.keywords.flatMap (wordRecords text)).countP (p ·) = 0 := by
    refine List.countP_eq_zero.mpr fun record member holds => ?_
    exact defines record (of_decide_eq_true holds) (kind_of_mem_keywordRecords member)
  rw [extract_positions, positions_eq, List.countP_append, none, List.countP_map, Nat.zero_add]
  rfl

/-- A property that fixes the key has one record. -/
theorem listedOnce_of_key {p : SymbolRecord → Prop} [DecidablePred p] (key : RecordKey)
    (defines : ∀ record, p record → record.kind ≠ .keyword)
    (fixed : ∀ (group : SymbolGroup) (record : SymbolRecord), record.kind = group.kind →
      (group.keyOf record = key ↔ p record)) :
    ListedOnce text (extract text).positions p := by
  have same (entry : GroupedRecord) (member : entry ∈ allRecords text) :=
    fixed entry.group entry.record (kind_of_mem_allRecords member)
  have any := exists_congr fun entry => and_congr_right (same entry)
  rw [ListedOnce, countP_positions defines, ← if_congr any rfl rfl]
  refine Eq.trans (List.countP_congr fun entry kept => ?_) (count_key text key)
  rw [decide_eq_true_eq, decide_eq_true_eq, ← same entry (mem_of_mem_firstBy kept)]
  rfl

/-- What a key outside classes fixes has one record in its group. -/
theorem count_outside {group : SymbolGroup} (key : RecordKey)
    (fixed : ∀ (g : SymbolGroup) (record : SymbolRecord),
      g.keyOf record = key ↔ g = group ∧ record.scope = [] ∧ record.name = name) :
    (keptRecords text).countP (fun entry =>
        entry.group = group ∧ entry.record.scope = [] ∧ entry.record.name = name) =
      if ∃ record ∈ groupRecords text group, record.scope = [] ∧ record.name = name then 1 else 0 := by
  have any : (∃ entry ∈ allRecords text, entry.key = key) ↔
      ∃ record ∈ groupRecords text group, record.scope = [] ∧ record.name = name := by
    constructor
    · rintro ⟨entry, member, same⟩
      obtain ⟨rfl, outside⟩ := (fixed entry.group entry.record).mp same
      exact ⟨entry.record, mem_allRecords.mp member, outside⟩
    · rintro ⟨record, member, outside⟩
      exact ⟨⟨group, record⟩, mem_allRecords.mpr member, (fixed group record).mpr ⟨rfl, outside⟩⟩
  rw [← if_congr any rfl rfl]
  refine Eq.trans (List.countP_congr fun entry _ => ?_) (count_key text key)
  rw [decide_eq_true_eq, decide_eq_true_eq, ← fixed entry.group entry.record]
  rfl

/-- How a position list is made up: of the keywords word by word, then group by group of the first
record of every key. -/
structure FirstOfEachKey (text : Text) (positions : List SymbolRecord)
    (kept : List GroupedRecord) : Prop where
  concatenated : positions = Vocabulary.keywords.flatMap (wordRecords text) ++
    SymbolGroup.inOrder.flatMap fun group => (kept.filter (·.group = group)).map (·.record)
  wordRising : ∀ word ∈ Vocabulary.keywords,
    (wordRecords text word).Pairwise (SymbolRecord.Before text)
  groupRising : ∀ group,
    ((kept.filter (·.group = group)).map (·.record)).Pairwise (SymbolRecord.Before text)
  first : ∀ entry, entry ∈ kept ↔ FirstOf (·.key.written) (allRecords text) entry
  complete : ∀ entry ∈ allRecords text, ∃ listed ∈ kept, listed.key.written = entry.key.written
  classOnce : ∀ name, ListedOnce text positions fun record =>
    record.kind = .classDef ∧ record.name = name
  functionOnce : ∀ scope name, ListedOnce text positions fun record =>
    record.kind = .function ∧ record.scope = scope ∧ record.name = name
  variableOnce : ∀ scope name, scope ≠ [] → ListedOnce text positions fun record =>
    record.kind = .variable ∧ record.scope = scope ∧ record.name = name
  importOnce : ∀ name, ListedOnce text positions fun record =>
    record.kind = .importName ∧ record.name = name
  /-- Outside classes plain assignments and attributes count apart. -/
  variableOutside : ∀ name, ∀ group ∈ [SymbolGroup.plainVariables, .attributes],
    kept.countP (fun entry =>
        entry.group = group ∧ entry.record.scope = [] ∧ entry.record.name = name) =
      if ∃ record ∈ groupRecords text group, record.scope = [] ∧ record.name = name then 1 else 0
  variablesOutside : ∀ name,
    positions.countP (fun record =>
        record.kind = .variable ∧ record.scope = [] ∧ record.name = name) =
      kept.countP (fun entry =>
        entry.group = .plainVariables ∧ entry.record.scope = [] ∧ entry.record.name = name) +
      kept.countP fun entry =>
        entry.group = .attributes ∧ entry.record.scope = [] ∧ entry.record.name = name

/-- Every variable outside classes is a plain assignment or an attribute. -/
theorem count_variables_outside (text name : Text) :
    (extract text).positions.countP (fun record =>
        record.kind = .variable ∧ record.scope = [] ∧ record.name = name) =
      (keptRecords text).countP (fun entry =>
        entry.group = .plainVariables ∧ entry.record.scope = [] ∧ entry.record.name = name) +
      (keptRecords text).countP fun entry =>
        entry.group = .attributes ∧ entry.record.scope = [] ∧ entry.record.name = name := by
  rw [countP_positions (by simp +contextual), List.countP_eq_countP_filter_add _ _
    fun entry => entry.group = .plainVariables, List.countP_filter, List.countP_filter]
  have assigned (entry : GroupedRecord) (kept : entry ∈ keptRecords text) :
      entry.record.kind = .variable ↔
        entry.group = .plainVariables ∨ entry.group = .attributes := by
    rw [kind_of_mem_allRecords (mem_of_mem_firstBy kept)]
    exact SymbolGroup.kind_eq_variable
  refine congrArg₂ (· + ·) (List.countP_congr fun entry kept => ?_)
    (List.countP_congr fun entry kept => ?_)
  · cases label : entry.group <;> simp [assigned entry kept, label]
  · cases label : entry.group <;> simp [assigned entry kept, label]

/-- The position list holds the first record of every key: keywords word by word, then the others group by
group, in text order within each. -/
theorem positions_first_of_each_key (text : Text) :
    ∃ kept, FirstOfEachKey text (extract text).positions kept := by
  have written := keptRecords_eq_written text
  exact ⟨keptRecords text, {
    concatenated := by
      rw [extract_positions, positions_eq, ← List.map_flatMap, ← keptRecords_grouped]
    wordRising := fun word => wordRecords_rising
    groupRising := fun group => List.pairwise_map.mpr (kept_of_group_rising text group)
    first := fun entry => by rw [written, mem_firstBy_iff]
    complete := fun entry member => written ▸ exists_mem_firstBy member
    classOnce := fun name => listedOnce_of_key (.classDef name) (by simp +contextual)
      fun group record => SymbolGroup.keyOf_eq_classDef
    functionOnce := fun scope name => listedOnce_of_key (.function scope name)
      (by simp +contextual) fun group record => SymbolGroup.keyOf_eq_function
    variableOnce := fun scope name inside => listedOnce_of_key (.variable (some scope) name)
      (by simp +contextual) fun group record same => SymbolGroup.keyOf_eq_inside same inside
    importOnce := fun name => listedOnce_of_key (.importName name) (by simp +contextual)
      fun group record => SymbolGroup.keyOf_eq_importName
    variableOutside := by
      intro name group listed
      rcases List.mem_pair.mp listed with rfl | rfl
      · exact count_outside (.variable none name) fun _ _ => SymbolGroup.keyOf_eq_plain
      · exact count_outside (.variable (some []) name) fun _ _ => SymbolGroup.keyOf_eq_attribute
    variablesOutside := count_variables_outside text }⟩

theorem positions_first_of_each_key_outside :
    let text := "x = 1\nself.x = 2\nx = 3\n".toList
    (extract text).positions.countP (fun record =>
      record.kind = .variable ∧ record.scope = [] ∧ record.name = ['x']) = 2 := by
  intro text
  obtain ⟨kept, made⟩ := positions_first_of_each_key text
  have ranges : Scope.classRanges text = [] := by decide
  have outside (offset : Nat) : (Findings.ofText text).scopeOf .variable offset = [] := by
    change (Scopes.ofText text).classAt offset = []
    rw [Scopes.classAt, Scopes.rangeAt?_eq, ranges]
    rfl
  have plain : (⟨0, ['x']⟩, []) ∈ groupCaptures text .plainVariables := by decide
  have stray : (⟨11, ['x']⟩, []) ∈ groupCaptures text .attributes := by decide
  rw [made.variablesOutside, made.variableOutside _ .plainVariables (by decide),
    made.variableOutside _ .attributes (by decide),
    if_pos ⟨_, List.mem_map.mpr ⟨_, plain, rfl⟩, outside 0, rfl⟩,
    if_pos ⟨_, List.mem_map.mpr ⟨_, stray, rfl⟩, outside 11, rfl⟩]

end Findings
end SymbolIndex
