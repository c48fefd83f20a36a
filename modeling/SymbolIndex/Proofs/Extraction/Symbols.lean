import SymbolIndex.Proofs.Locate.Queries
import SymbolIndex.Proofs.Text.Order

/-! The symbol list and the position records of a document describe the same names, although each
has filters of its own. -/
namespace SymbolIndex

/-- The name that a key is about. -/
def RecordKey.name : RecordKey → Text
  | .classDef name | .function _ name | .variable _ name | .importName name => name

variable {text name : Text} {record : SymbolRecord} {found : Findings} {index : LineIndex}
  {entry : RecordKey × SymbolRecord}

namespace Findings

/-- What each group of findings contributes to the symbol list. -/
theorem mem_names : name ∈ found.names ↔
    name ∈ Vocabulary.keywords ∨
    ((∃ range ∈ found.scopes.ranges, range.name = name) ∧ Vocabulary.isPrivate name = false) ∨
    ((∃ header ∈ found.functions, header.name.text = name) ∧
      Vocabulary.isOffered name = true) ∨
    ((∃ assigned ∈ found.assignments, assigned.name.text = name) ∧
      name ∉ Vocabulary.keywords ∧ Vocabulary.isPrivate name = false) ∨
    (∃ assigned ∈ found.attributes, assigned.name.text = name) ∨
    (∃ imported ∈ found.plainImports, imported.name.text = name) ∨
    ∃ imported ∈ found.fromImports, imported.bound.text = name := by
  simp only [names, List.mem_append, List.mem_filter, List.mem_map, Bool.and_eq_true,
    Bool.not_eq_true', List.contains_eq_mem, decide_eq_false_iff_not, or_assoc]

/-- What each group of findings contributes to the records other than keywords. -/
theorem exists_candidate_iff : (∃ entry ∈ found.candidates index, entry.1.name = name) ↔
    (∃ range ∈ found.scopes.ranges, range.name = name) ∨
    (∃ header ∈ found.functions, header.name.text = name) ∨
    ((∃ assigned ∈ found.assignments, assigned.name.text = name) ∧ name ∉ Vocabulary.keywords) ∨
    (∃ assigned ∈ found.attributes, assigned.name.text = name) ∨
    (∃ imported ∈ found.plainImports, imported.name.text = name) ∨
    ∃ imported ∈ found.fromImports, imported.bound.text = name := by
  simp only [candidates, classCandidates, functionCandidates, variableCandidates,
    attributeCandidates, importCandidates, List.mem_append, List.mem_map, List.mem_filter,
    Bool.not_eq_true', List.contains_eq_mem, decide_eq_false_iff_not]
  constructor
  · rintro ⟨entry, ((((⟨range, listed, rfl⟩ | ⟨header, listed, rfl⟩) |
      ⟨assigned, ⟨listed, other⟩, rfl⟩) | ⟨assigned, listed, rfl⟩) |
      ⟨_, ⟨imported, listed, rfl⟩ | ⟨imported, listed, rfl⟩, rfl⟩), rfl⟩
    · exact Or.inl ⟨range, listed, rfl⟩
    · exact Or.inr (Or.inl ⟨header, listed, rfl⟩)
    · exact Or.inr (Or.inr (Or.inl ⟨⟨assigned, listed, rfl⟩, other⟩))
    · exact Or.inr (Or.inr (Or.inr (Or.inl ⟨assigned, listed, rfl⟩)))
    · exact Or.inr (Or.inr (Or.inr (Or.inr (Or.inl ⟨imported, listed, rfl⟩))))
    · exact Or.inr (Or.inr (Or.inr (Or.inr (Or.inr ⟨imported, listed, rfl⟩))))
  · rintro (⟨range, listed, rfl⟩ | ⟨header, listed, rfl⟩ | ⟨⟨assigned, listed, rfl⟩, other⟩ |
      ⟨assigned, listed, rfl⟩ | ⟨imported, listed, rfl⟩ | ⟨imported, listed, rfl⟩)
    · exact ⟨_, Or.inl (Or.inl (Or.inl (Or.inl ⟨range, listed, rfl⟩))), rfl⟩
    · exact ⟨_, Or.inl (Or.inl (Or.inl (Or.inr ⟨header, listed, rfl⟩))), rfl⟩
    · exact ⟨_, Or.inl (Or.inl (Or.inr ⟨assigned, ⟨listed, other⟩, rfl⟩)), rfl⟩
    · exact ⟨_, Or.inl (Or.inr ⟨assigned, listed, rfl⟩), rfl⟩
    · exact ⟨_, Or.inr ⟨_, Or.inl ⟨imported, listed, rfl⟩, rfl⟩, rfl⟩
    · exact ⟨_, Or.inr ⟨_, Or.inr ⟨imported, listed, rfl⟩, rfl⟩, rfl⟩

/-- A candidate is the record of the name in its key, and no keyword record. -/
theorem candidate_record (member : entry ∈ found.candidates index) :
    entry.2.name = entry.1.name ∧ entry.2.kind ≠ .keyword := by
  simp only [candidates, classCandidates, functionCandidates, variableCandidates,
    attributeCandidates, importCandidates, List.mem_append, List.mem_map] at member
  rcases member with (((⟨range, _, rfl⟩ | ⟨header, _, rfl⟩) | ⟨assigned, _, rfl⟩) |
    ⟨assigned, _, rfl⟩) | ⟨bound, _, rfl⟩ <;> exact ⟨rfl, by simp [recordOf]⟩

/-- Leaving out repeated keys loses no name: the record kept for a key has its name. -/
theorem exists_record_iff :
    (∃ record ∈ found.positions, record.kind ≠ .keyword ∧ record.name = name) ↔
      ∃ entry ∈ found.candidates (.ofText found.text), entry.1.name = name := by
  constructor
  · rintro ⟨record, member, other, rfl⟩
    rcases List.mem_append.mp member with keyword | listed
    · exact absurd (kind_of_mem_keywordRecords keyword) other
    · obtain ⟨entry, kept, rfl⟩ := List.mem_map.mp listed
      have candidate := mem_of_mem_firstBy kept
      exact ⟨entry, candidate, (candidate_record candidate).1.symm⟩
  · rintro ⟨entry, candidate, rfl⟩
    obtain ⟨first, kept, key⟩ : ∃ first ∈ firstBy Prod.fst (found.candidates (.ofText found.text)),
        first.1 = entry.1 := exists_mem_firstBy candidate
    obtain ⟨same, other⟩ := candidate_record (mem_of_mem_firstBy kept)
    exact ⟨first.2, List.mem_append_right _ (List.mem_map.mpr ⟨first, kept, rfl⟩), other,
      same.trans (congrArg RecordKey.name key)⟩

theorem mem_symbols : name ∈ found.symbols ↔ name ∈ found.names := by
  rw [symbols, Text.mem_sortFolded, mem_unique]

theorem symbols_strict (found : Findings) : found.symbols.Pairwise Text.FoldedLt :=
  Text.sortFolded_strict (nodup_unique found.names)

theorem keyword_public (member : name ∈ Vocabulary.keywords) : Vocabulary.isPrivate name = false := by
  revert name
  decide

/-- A listed name that is no keyword has a record. -/
theorem exists_record_of_mem (listed : name ∈ found.symbols) (other : name ∉ Vocabulary.keywords) :
    ∃ record ∈ found.positions, record.kind ≠ .keyword ∧ record.name = name := by
  rw [exists_record_iff, exists_candidate_iff]
  rcases mem_names.mp (mem_symbols.mp listed) with keyword | ⟨range, _⟩ | ⟨header, _⟩ |
    ⟨assigned, _⟩ | assigned | imported | imported
  · exact absurd keyword other
  · exact Or.inl range
  · exact Or.inr (Or.inl header)
  · exact Or.inr (Or.inr (Or.inl ⟨assigned, other⟩))
  · exact Or.inr (Or.inr (Or.inr (Or.inl assigned)))
  · exact Or.inr (Or.inr (Or.inr (Or.inr (Or.inl imported))))
  · exact Or.inr (Or.inr (Or.inr (Or.inr (Or.inr imported))))

/-- A public name with a record other than a keyword is listed. -/
theorem mem_symbols_of_record (member : record ∈ found.positions) (other : record.kind ≠ .keyword)
    (visible : Vocabulary.isPrivate record.name = false) : record.name ∈ found.symbols := by
  rw [mem_symbols, mem_names]
  rcases exists_candidate_iff.mp (exists_record_iff.mp ⟨record, member, other, rfl⟩) with range |
    header | ⟨assigned, keyword⟩ | assigned | imported | imported
  · exact Or.inr (Or.inl ⟨range, visible⟩)
  · exact Or.inr (Or.inr (Or.inl ⟨header, by simp [Vocabulary.isOffered, visible]⟩))
  · exact Or.inr (Or.inr (Or.inr (Or.inl ⟨assigned, keyword, visible⟩)))
  · exact Or.inr (Or.inr (Or.inr (Or.inr (Or.inl assigned))))
  · exact Or.inr (Or.inr (Or.inr (Or.inr (Or.inr (Or.inl imported)))))
  · exact Or.inr (Or.inr (Or.inr (Or.inr (Or.inr (Or.inr imported)))))

/-- Private names are listed through the groups that have no filter. -/
theorem mem_symbols_private (hidden : Vocabulary.isPrivate name = true)
    (other : name ≠ Vocabulary.initialiser) : name ∈ found.symbols ↔
      (∃ assigned ∈ found.attributes, assigned.name.text = name) ∨
      (∃ imported ∈ found.plainImports, imported.name.text = name) ∨
      ∃ imported ∈ found.fromImports, imported.bound.text = name := by
  have keyword : name ∉ Vocabulary.keywords := fun member => by simp [keyword_public member] at hidden
  rw [mem_symbols, mem_names]
  simp [keyword, hidden, other, Vocabulary.isOffered]

end Findings

/-- The symbols of a document with content are in strict order and hold the keywords. Every other
symbol has a definition, every defined name is listed unless it is private, and private names
other than the initialiser are listed exactly when an attribute or an import binds them. -/
theorem symbols_and_positions_agree (content : Text.allBlank text = false) :
    (extract text).symbols.Pairwise Text.FoldedLt ∧
    (∀ word ∈ Vocabulary.keywords, word ∈ (extract text).symbols) ∧
    (∀ name ∈ (extract text).symbols, name ∉ Vocabulary.keywords →
      definitionOf (extract text).positions name ∈ (extract text).positions ∧
      (definitionOf (extract text).positions name).kind ≠ .keyword ∧
      (definitionOf (extract text).positions name).name = name) ∧
    (∀ record ∈ (extract text).positions, record.kind ≠ .keyword →
      Vocabulary.isPrivate record.name = false → record.name ∈ (extract text).symbols) ∧
    ∀ name, Vocabulary.isPrivate name = true → name ≠ Vocabulary.initialiser →
      (name ∈ (extract text).symbols ↔
        (∃ assigned ∈ Pattern.attributeAssignment.occurrences text, assigned.name.text = name) ∨
        (∃ imported ∈ Pattern.plainImport.occurrences text, imported.name.text = name) ∨
        ∃ imported ∈ Pattern.fromImport.occurrences text, imported.bound.text = name) := by
  have whole : extract text = (Findings.ofText text).snapshot := by
    rw [extract, if_neg (by simp [content])]
  refine ⟨?_, ?_, ?_, ?_, ?_⟩
  · rw [whole]
    exact Findings.symbols_strict _
  · intro word keyword
    rw [whole]
    exact Findings.mem_symbols.mpr (Findings.mem_names.mpr (Or.inl keyword))
  · intro name listed other
    rw [whole] at listed
    obtain ⟨record, member, kind, rfl⟩ := Findings.exists_record_of_mem listed other
    have member : record ∈ (extract text).positions := whole ▸ member
    obtain ⟨run, k, s, stands⟩ := extract_standsOn member
    exact definitionOf_spec member kind stands.name_ne_nil
  · intro record member kind visible
    rw [whole] at member ⊢
    exact Findings.mem_symbols_of_record member kind visible
  · intro name hidden other
    rw [whole]
    exact Findings.mem_symbols_private hidden other

theorem symbols_and_positions_agree_import :
    let text := "from a import _b".toList
    Text.allBlank text = false ∧ "_b".toList ∈ (extract text).symbols ∧
      (extract text).symbols.Pairwise Text.FoldedLt := by
  have content : Text.allBlank "from a import _b".toList = false := by decide
  have agree := symbols_and_positions_agree content
  refine ⟨content, (agree.2.2.2.2 _ (by decide) (by decide)).mpr ?_, agree.1⟩
  decide

end SymbolIndex
