import SymbolIndex.Proofs.Extraction.Members

/-! The class around a position: where the scope of a record is the innermost class whose body
holds the record, and where it is left empty. -/
namespace SymbolIndex
variable {text : Text} {offset : Int} {record : SymbolRecord} {range : ClassRange}

/-- Some class body of the text holds the offset. -/
def Scope.Covers (text : Text) (offset : Int) : Prop :=
  ∃ range ∈ classRanges text, range.contains offset = true

namespace Scopes

/-- Every offset that a class body holds has an innermost class. -/
theorem isSome_rangeAt?_iff :
    ((Scopes.ofText text).rangeAt? offset).isSome = true ↔ Scope.Covers text offset := by
  rw [rangeAt?_eq, List.find?_isSome]
  simp only [List.mem_reverse, Scope.Covers]

/-- The class at an offset has a name exactly where a body holds the offset: no class goes
unnamed. -/
theorem classAt_ne_nil_iff :
    (Scopes.ofText text).classAt offset ≠ [] ↔ Scope.Covers text offset := by
  rw [← isSome_rangeAt?_iff]
  constructor
  · intro named
    obtain ⟨range, found, _⟩ := Findings.exists_range_of_classAt named
    rw [found, Option.isSome_some]
  · intro held
    obtain ⟨range, found⟩ := Option.isSome_iff_exists.mp held
    rw [classAt, found]
    exact (Findings.mem_ranges (rangeAt?_eq_some found).1).nonempty

/-- The last body that holds an offset names its class. -/
theorem classAt_of_innermost (listed : range ∈ Scope.classRanges text)
    (holds : range.contains offset = true)
    (last : ∀ other ∈ Scope.classRanges text, other.contains offset = true →
      other.headerStart ≤ range.headerStart) :
    (Scopes.ofText text).classAt offset = range.name := by
  obtain ⟨inner, found⟩ :=
    Option.isSome_iff_exists.mp (isSome_rangeAt?_iff.mpr ⟨range, listed, holds⟩)
  obtain ⟨member, inside, least⟩ := rangeAt?_eq_some found
  have notAfter := last inner member inside
  rcases least range listed holds with rfl | before
  · rw [classAt, found]
  · omega

end Scopes

/-- The scope of a record is that of its kind at the offset of its line and column. -/
theorem extract_scope (member : record ∈ (extract text).positions) :
    record.scope = if record.kind = .keyword ∨ record.kind = .importName then [] else
      (Scopes.ofText text).classAt ((LineIndex.ofText text).offset record.line record.column) := by
  obtain ⟨run, k, s, stands, scope⟩ := extract_scoped member
  rw [scope, stands.offset_eq]
  rfl

/-- Classes, functions and variables have as scope the class of the last body that holds their position.
An import never has one. -/
theorem scope_eq_enclosing_class (member : record ∈ (extract text).positions)
    (defines : record.kind ≠ .keyword) :
    let offset := (LineIndex.ofText text).offset record.line record.column
    (record.kind ≠ .importName →
      record.scope = (Scopes.ofText text).classAt offset ∧
      (record.scope ≠ [] ↔ Scope.Covers text offset) ∧
      ∀ range ∈ Scope.classRanges text, range.contains offset = true →
        (∀ other ∈ Scope.classRanges text, other.contains offset = true →
          other.headerStart ≤ range.headerStart) →
        record.scope = range.name) ∧
    (record.kind = .importName →
      record.scope = [] ∧
      (record.scope = (Scopes.ofText text).classAt offset ↔ ¬ Scope.Covers text offset)) := by
  intro offset
  have scope := extract_scope member
  constructor
  · intro other
    rw [if_neg (by simp [defines, other])] at scope
    rw [scope]
    exact ⟨rfl, Scopes.classAt_ne_nil_iff, fun range => Scopes.classAt_of_innermost⟩
  · intro imported
    rw [if_pos (Or.inr imported)] at scope
    refine ⟨scope, ?_⟩
    rw [scope, ← Scopes.classAt_ne_nil_iff, not_not]
    exact eq_comm

theorem scope_eq_enclosing_class_import :
    let text := "class A:\n    import os\n".toList
    let record : SymbolRecord := ⟨"os".toList, .importName, 2, 12, 2, [], []⟩
    record ∈ (extract text).positions ∧ record.kind ≠ .keyword ∧
      Scope.Covers text ((LineIndex.ofText text).offset record.line record.column) ∧
      record.scope ≠
        (Scopes.ofText text).classAt ((LineIndex.ofText text).offset record.line record.column) := by
  intro text record
  have place : Text.InLine text 20 "class A:\n".toList "    import ".toList "os\n".toList :=
    ⟨by decide, by decide, Text.endsLine_concat "class A:".toList, by decide⟩
  have recorded : Findings.recordOf (.ofText text) .importName ⟨20, "os".toList⟩ [] [] = record := by
    rw [Findings.recordOf, LineIndex.lineColumn_inLine place]
    rfl
  have candidates : (Findings.ofText text).candidates (.ofText text) =
      [(.classDef "A".toList, Findings.recordOf (.ofText text) .classDef ⟨6, "A".toList⟩
        ((Scopes.ofText text).classAt 6) []), (.importName "os".toList, record)] :=
    recorded ▸ rfl
  have listed : record ∈ (extract text).positions := by
    rw [extract, if_neg (by decide)]
    apply List.mem_append_right
    refine List.mem_map.mpr ⟨(.importName "os".toList, record), ?_, rfl⟩
    change _ ∈ firstBy Prod.fst ((Findings.ofText text).candidates (.ofText text))
    rw [candidates]
    simp [firstBy]
  have covered : Scope.Covers text ((LineIndex.ofText text).offset record.line record.column) :=
    ⟨⟨"A".toList, 0, 6, 9, 23, 0⟩, by decide, by decide⟩
  have imported := (scope_eq_enclosing_class listed (by decide)).2 rfl
  exact ⟨listed, by decide, covered, fun same => imported.2.mp same covered⟩

end SymbolIndex
