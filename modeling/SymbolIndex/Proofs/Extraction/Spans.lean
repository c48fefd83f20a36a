import SymbolIndex.Proofs.Extraction.Matches
import SymbolIndex.Proofs.Schema.Symbol

/-! The spans of position records: each record stands on a whole run of identifier characters of
the document, and says where that run is. -/
namespace SymbolIndex
variable {text : Text} {record other : SymbolRecord} {run : Capture} {k s : Nat} {index : LineIndex}
  {found : Occurrence}
open LineIndex

/-- A record stands on a run of the text, at its line and column. -/
structure SymbolRecord.StandsOn (text : Text) (record : SymbolRecord) (run : Capture)
    (k s : Nat) : Prop where
  whole : IsNameRun text run
  place : OnLine text run.start k s
  name : record.name = run.text
  line : record.line = k + 1
  column : record.column = run.start - s + 1
  length : record.length = run.text.length

namespace SymbolRecord.StandsOn

/-- The position of the record is the start of the run. -/
theorem offset_eq (stands : record.StandsOn text run k s) :
    (LineIndex.ofText text).offset record.line record.column = run.start := by
  have inside := stands.whole.stop_le_length
  have := stands.whole.start_lt_stop
  rw [stands.line, stands.column]
  exact offset_of_onLine stands.place (by omega)

/-- A position on the record is an offset of the run, counted from the start of its line. -/
theorem touches {line column : Int} (stands : record.StandsOn text run k s)
    (holds : record.contains line column = true) :
    line = k + 1 ∧ run.start ≤ s + (column - 1).toNat ∧ s + (column - 1).toNat < run.stop := by
  have reached := stands.place.reached
  simp only [contains, stands.line, stands.column, stands.length, Bool.and_eq_true,
    decide_eq_true_eq] at holds
  simp only [Capture.stop]
  omega

/-- Two records with a common position stand on the same run. -/
theorem same_of_contains {q : Capture} {l t : Nat} {line column : Int}
    (stands : record.StandsOn text run k s) (also : other.StandsOn text q l t)
    (holds : record.contains line column = true) (alsoHolds : other.contains line column = true) :
    run = q ∧ k = l ∧ s = t := by
  obtain ⟨row, low, high⟩ := stands.touches holds
  obtain ⟨alsoRow, alsoLow, alsoHigh⟩ := also.touches alsoHolds
  have rows : k = l := by omega
  have starts : s = t := by
    have started := stands.place.started
    rw [rows, also.place.started] at started
    exact (Option.some.inj started).symm
  subst rows starts
  exact ⟨stands.whole.unique also.whole ⟨low, Nat.le_of_lt high⟩ ⟨alsoLow, Nat.le_of_lt alsoHigh⟩,
    rfl, rfl⟩

end SymbolRecord.StandsOn

namespace Findings

theorem recordOf_standsOn (whole : IsNameRun text run) (kind : SymbolKind)
    (scope parameters : Text) :
    ∃ k s, (recordOf (.ofText text) kind run scope parameters).StandsOn text run k s := by
  have inside := whole.stop_le_length
  have := whole.start_lt_stop
  obtain ⟨k, s, place, position⟩ := lineColumn_eq (show run.start ≤ text.length by omega)
  refine ⟨k, s, whole, place, rfl, ?_, ?_, rfl⟩
  · simp only [recordOf, position]
  · simp only [recordOf, position]

theorem mem_positions (member : record ∈ (Findings.ofText text).positions) :
    ∃ kind run parameters, IsNameRun text run ∧ record =
      recordOf (.ofText text) kind run ((Findings.ofText text).scopeOf kind run.start) parameters := by
  rcases word_or_group_of_mem_positions member with ⟨word, keyword, listed⟩ | ⟨group, listed⟩
  · obtain ⟨found, occurs, rfl⟩ := List.mem_map.mp listed
    exact ⟨.keyword, found.name, [], (whole_of_mem_occurrences keyword occurs).2, rfl⟩
  · obtain ⟨captured, found, rfl⟩ := List.mem_map.mp listed
    exact ⟨group.kind, captured.1, captured.2, whole_of_mem_groupCaptures found, rfl⟩

end Findings

/-- A document of blanks only has no run, and so no records in any case. -/
theorem extract_positions (text : Text) :
    (extract text).positions = (Findings.ofText text).positions := by
  rw [extract]
  split
  · rename_i blanks
    refine (List.eq_nil_iff_forall_not_mem.mpr fun record member => ?_).symm
    obtain ⟨_, run, _, whole, _⟩ := Findings.mem_positions member
    simp [whole.not_allBlank] at blanks
  · rfl

/-- A record of the document stands on a run, and its scope is the one of its kind there. -/
theorem extract_scoped (member : record ∈ (extract text).positions) :
    ∃ run k s, record.StandsOn text run k s ∧
      record.scope = (Findings.ofText text).scopeOf record.kind run.start := by
  rw [extract_positions] at member
  obtain ⟨kind, run, parameters, whole, rfl⟩ := Findings.mem_positions member
  obtain ⟨k, s, stands⟩ := Findings.recordOf_standsOn whole kind _ parameters
  exact ⟨run, k, s, stands, rfl⟩

theorem extract_standsOn (member : record ∈ (extract text).positions) :
    ∃ run k s, record.StandsOn text run k s :=
  let ⟨run, k, s, stands, _⟩ := extract_scoped member
  ⟨run, k, s, stands⟩

/-- Position records carry a valid position and the exact, whole name found there; two records
either stand on one span or share no position. -/
theorem positions_span_names [Schema.Package] [Schema.Lawful] (text : Text) :
    (∀ record ∈ (extract text).positions,
      1 ≤ record.line ∧ 1 ≤ record.column ∧ record.length = record.name.length ∧
      1 ≤ record.length ∧ SymbolRecord.ofValue record.toValue = .ok record ∧
      let offset := (LineIndex.ofText text).offset record.line record.column
      text.slice offset (offset + record.length) = record.name ∧ '\n' ∉ record.name ∧
      (∀ c, 0 < offset → text[offset - 1]? = some c → Text.isNameChar c = false) ∧
      ∀ c, text[offset + record.length]? = some c → Text.isNameChar c = false) ∧
    ∀ record ∈ (extract text).positions, ∀ other ∈ (extract text).positions,
      (record.line = other.line ∧ record.column = other.column ∧ record.length = other.length ∧
        record.name = other.name) ∨
      ∀ line column, ¬ (record.contains line column = true ∧ other.contains line column = true) := by
  constructor
  · intro record member
    obtain ⟨run, k, s, stands⟩ := extract_standsOn member
    have positive := List.length_pos_iff.mpr stands.whole.nonempty
    have stop : run.start + record.length = run.stop := by rw [stands.length, Capture.stop]
    have line := stands.line
    have column := stands.column
    have length := stands.length
    refine ⟨by omega, by omega, by rw [length, stands.name], by omega,
      SymbolRecord.ofValue_toValue record, ?_⟩
    simp only [stands.offset_eq, stop, stands.name]
    exact ⟨stands.whole.covers, stands.whole.newline_notMem, stands.whole.before,
      stands.whole.after⟩
  · intro record member other alsoMember
    obtain ⟨run, k, s, stands⟩ := extract_standsOn member
    obtain ⟨q, l, t, also⟩ := extract_standsOn alsoMember
    by_cases same : run = q ∧ k = l ∧ s = t
    · obtain ⟨rfl, rfl, rfl⟩ := same
      exact Or.inl ⟨stands.line.trans also.line.symm, stands.column.trans also.column.symm,
        stands.length.trans also.length.symm, stands.name.trans also.name.symm⟩
    · exact Or.inr fun line column shared =>
        same (stands.same_of_contains also shared.1 shared.2)

open scoped Installed in
theorem positions_span_names_assignment : (extract "x = 1".toList).positions ≠ [] ∧
    ∀ record ∈ (extract "x = 1".toList).positions,
      SymbolRecord.ofValue record.toValue = .ok record ∧ record.length = record.name.length := by
  refine ⟨by decide +kernel, fun record member => ?_⟩
  obtain ⟨_, _, length, _, valid, _⟩ := (positions_span_names "x = 1".toList).1 record member
  exact ⟨valid, length⟩

end SymbolIndex
