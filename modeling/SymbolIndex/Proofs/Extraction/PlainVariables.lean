import SymbolIndex.Proofs.Extraction.Groups
import SymbolIndex.Proofs.Pattern.AssignedLine

/-! Records of plain assignments: of the names that lines open with, the first of every scope and
name. -/
namespace SymbolIndex.Findings
variable {text : Text} {record : SymbolRecord}

/-- Records of names that are assigned to, keywords left out. -/
def assignedRecords (text : Text) (names : List Capture) : List SymbolRecord :=
  (names.filter (!Vocabulary.keywords.contains ·.text)).map fun name =>
    recordOf (.ofText text) .variable name ((Scopes.ofText text).classAt name.start) []

/-- Records of a group that are kept, in their order. -/
def keptOf (text : Text) (group : SymbolGroup) : List SymbolRecord :=
  ((keptRecords text).filter (·.group = group)).map (·.record)

theorem mem_groupRecords_of_kept {group : SymbolGroup} (kept : record ∈ keptOf text group) :
    record ∈ groupRecords text group := by
  obtain ⟨entry, member, rfl⟩ := List.mem_map.mp kept
  obtain ⟨listed, own⟩ := List.mem_filter.mp member
  have own : entry.group = group := of_decide_eq_true own
  exact own ▸ mem_allRecords.mp (mem_of_mem_firstBy listed)

theorem kind_of_kept {group : SymbolGroup} (kept : record ∈ keptOf text group) :
    record.kind = group.kind := by
  obtain ⟨_, _, rfl⟩ := List.mem_map.mp (mem_groupRecords_of_kept kept)
  rfl

theorem positions_grouped (text : Text) : (extract text).positions =
    Vocabulary.keywords.flatMap (wordRecords text) ++ SymbolGroup.inOrder.flatMap (keptOf text) := by
  rw [extract_positions, positions_eq, keptRecords_grouped, List.map_flatMap]
  rfl

theorem groupRecords_plainVariables (text : Text) : groupRecords text .plainVariables =
    assignedRecords text ((Pattern.variableAssignment.occurrences text).map (·.name)) := by
  simp only [groupRecords, groupCaptures, assignedRecords, List.filter_map, List.map_map]
  rfl

/-- The records of some groups, each with its group. -/
def recordsOf (text : Text) (groups : List SymbolGroup) : List GroupedRecord :=
  groups.flatMap fun group => (groupRecords text group).map (⟨group, ·⟩)

theorem group_of_mem_recordsOf {groups : List SymbolGroup} {entry : GroupedRecord}
    (member : entry ∈ recordsOf text groups) : entry.group ∈ groups := by
  obtain ⟨group, listed, same⟩ := List.mem_flatMap.mp member
  obtain ⟨_, _, rfl⟩ := List.mem_map.mp same
  exact listed

theorem other_group {groups : List SymbolGroup} {group : SymbolGroup} {entry : GroupedRecord}
    (absent : group ∉ groups) (member : entry ∈ recordsOf text groups) :
    decide (entry.group = group) = false :=
  decide_eq_false fun same => absent (same ▸ group_of_mem_recordsOf member)

/-- Plain assignments are told apart by scope and name. -/
theorem keyOf_plainVariables {other : SymbolRecord} :
    SymbolGroup.keyOf .plainVariables record = SymbolGroup.keyOf .plainVariables other ↔
      (record.scope, record.name) = (other.scope, other.name) := by
  cases first : record.scope <;> cases second : other.scope <;>
    simp [SymbolGroup.keyOf, first, second]

/-- No record before those of plain assignments has a key of theirs, so that of each scope and name
the first one is kept. -/
theorem keptOf_plainVariables (text : Text) : keptOf text .plainVariables =
    firstBy (fun record => (record.scope, record.name)) (groupRecords text .plainVariables) := by
  have parts : allRecords text = recordsOf text [.classes, .functions] ++
      ((groupRecords text .plainVariables).map (⟨.plainVariables, ·⟩) ++
        recordsOf text [.attributes, .plainImports, .fromImports]) := by
    simp only [allRecords, recordsOf, SymbolGroup.inOrder, List.flatMap_cons, List.append_assoc,
      List.flatMap_nil, List.nil_append]
  have own : ∀ entry ∈ (groupRecords text .plainVariables).map (GroupedRecord.mk .plainVariables),
      entry.group = .plainVariables := by
    intro entry member
    obtain ⟨_, _, rfl⟩ := List.mem_map.mp member
    rfl
  have kept : (keptRecords text).filter (·.group = .plainVariables) =
      firstBy GroupedRecord.key ((groupRecords text .plainVariables).map (⟨.plainVariables, ·⟩)) := by
    rw [keptRecords, parts]
    refine filter_firstBy_between (fun entry member => decide_eq_true (own entry member)) ?_ ?_
    · intro entry member
      exact (List.mem_append.mp member).elim (other_group (by decide)) (other_group (by decide))
    · intro entry member taken
      obtain ⟨before, listed, same⟩ := List.mem_map.mp taken
      rw [GroupedRecord.key, GroupedRecord.key, own entry member] at same
      rcases List.mem_pair.mp (group_of_mem_recordsOf listed) with group | group <;>
        simp [group, SymbolGroup.keyOf] at same
  rw [keptOf, kept, firstBy_map, List.map_map]
  refine (List.map_id _).trans (firstBy_congr fun first _ second _ => ?_)
  exact keyOf_plainVariables

/-- The names that the search for plain assignments captures are those that lines open with, one by one in
the order of the lines. -/
theorem assignments_line_by_line (text : Text) :
    let names := (Pattern.variableAssignment.occurrences text).map (·.name)
    (∃ lines, text.AssignedLines lines names) ∧
    ∃ front back, (extract text).positions = front ++
        firstBy (fun record => (record.scope, record.name)) (assignedRecords text names) ++ back ∧
      (∀ record ∈ front, record.kind ≠ .variable) ∧
      ∀ record ∈ back, record.kind = .variable →
        ∃ assigned ∈ Pattern.attributeAssignment.occurrences text, record =
          recordOf (.ofText text) .variable assigned.name
            ((Scopes.ofText text).classAt assigned.name.start) [] := by
  refine ⟨Pattern.variableAssignment_lines text,
    Vocabulary.keywords.flatMap (wordRecords text) ++
      [SymbolGroup.classes, .functions].flatMap (keptOf text),
    [SymbolGroup.attributes, .plainImports, .fromImports].flatMap (keptOf text), ?_, ?_, ?_⟩
  · rw [positions_grouped, ← groupRecords_plainVariables, ← keptOf_plainVariables]
    simp only [SymbolGroup.inOrder, List.flatMap_cons, List.flatMap_nil, List.append_assoc,
      List.append_nil]
  · intro record member
    rcases List.mem_append.mp member with keyword | listed
    · rw [kind_of_mem_keywordRecords keyword]
      decide
    · obtain ⟨group, among, kept⟩ := List.mem_flatMap.mp listed
      rw [kind_of_kept kept]
      rcases List.mem_pair.mp among with rfl | rfl <;> decide
  · intro record member assigns
    obtain ⟨group, among, kept⟩ := List.mem_flatMap.mp member
    have group_eq : group = .attributes := by
      rw [kind_of_kept kept, SymbolGroup.kind_eq_variable] at assigns
      rcases assigns with rfl | same
      · simp at among
      · exact same
    subst group_eq
    obtain ⟨captured, listed, rfl⟩ := List.mem_map.mp (mem_groupRecords_of_kept kept)
    obtain ⟨assigned, occurs, rfl⟩ := List.mem_map.mp listed
    exact ⟨assigned, occurs, rfl⟩

/-- Blank lines above, an equals sign on the next line, a comparison, a keyword and an assignment in
the middle of a line. -/
example : (Pattern.variableAssignment.occurrences
      "\n\n  x\n = y = 1\nz == 2\nif = 3".toList).map (·.name) =
    [⟨4, ['x']⟩, ⟨22, ['i', 'f']⟩] := by decide

end SymbolIndex.Findings
