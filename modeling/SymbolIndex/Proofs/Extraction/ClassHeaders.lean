import SymbolIndex.Proofs.Extraction.Enclosure
import SymbolIndex.Proofs.Scope.BodyEnd

/-! Where a class is named, outside its body or in it. The body starts below the line on which the
header starts. A header that goes on over line breaks has its name below that line, and so within
the body if the lines down to the name let the body go on. -/
namespace SymbolIndex
variable {text : Text} {cursor : Cursor} {found : Occurrence} {range : ClassRange}
  {start offset : Nat} {record : SymbolRecord}

/-- A class header opens with its word, and its name stands behind that and before the colon. -/
theorem Recogniser.classHeader_name_inside (place : Cursor.In text cursor)
    (finds : classHeader cursor = some found) :
    cursor.offset < found.name.start ∧ found.name.start < found.whole.stop := by
  obtain ⟨stop, placed, same, low, high⟩ := classHeader_captures place finds
  have reach : found.whole.stop = stop.offset := by
    rw [same]
    exact place.stop_upTo placed (by omega)
  refine ⟨?_, reach ▸ high⟩
  obtain ⟨_, word, gap, name, after, last, keyword, blanks, reads, _, rfl⟩ :=
    classHeader_eq_some_iff.mp finds
  obtain ⟨atWord, moved, _⟩ := place.literal? keyword
  obtain ⟨atGap, further, _⟩ := atWord.someBlanks? blanks
  obtain ⟨_, starts, _⟩ := atGap.identifier? reads
  change cursor.offset < name.start
  omega

namespace Scope

theorem nameStart_lt_length (member : range ∈ classRanges text) : range.nameStart < text.length := by
  have named := Findings.mem_ranges member
  exact Nat.lt_of_lt_of_le named.start_lt_stop named.stop_le_length

/-- The name of a class stands behind the start of its header and before every later header. -/
theorem nameStart_between (member : range ∈ classRanges text) :
    range.headerStart < range.nameStart ∧ ∀ other ∈ classRanges text,
      range.headerStart < other.headerStart → range.nameStart < other.headerStart := by
  obtain ⟨header, occurs, rfl⟩ := List.mem_map.mp member
  have grounded := Recogniser.classHeader_covers.grounded
  obtain ⟨cursor, place, finds⟩ := Recogniser.mem_occurrences occurs
  have starts := grounded.start place finds
  obtain ⟨behind, within⟩ := Recogniser.classHeader_name_inside place finds
  refine ⟨by simp only [rangeOf]; omega, fun other also before => ?_⟩
  obtain ⟨later, listed, rfl⟩ := List.mem_map.mp also
  obtain ⟨spot, there, again⟩ := Recogniser.mem_occurrences listed
  have content := grounded.nonempty there again
  simp only [rangeOf] at before ⊢
  rcases Recogniser.occurrences_disjoint grounded occurs listed with rfl | apart | crossed
  · omega
  · omega
  · simp only [Capture.stop] at crossed
    omega

/-- The body has started at an offset exactly if a line has ended since the start of the header. -/
theorem bodyStart_le_iff (inside : offset < text.length) :
    bodyStart text start ≤ offset ↔ '\n' ∈ text.slice start offset := by
  rw [Text.mem_slice_iff]
  rcases bodyStart_cases text start with ⟨i, late, newline, first, same⟩ | ⟨none, same⟩
  · rw [same]
    refine ⟨fun below => ⟨i, late, below, newline⟩, fun ⟨j, after, early, ended⟩ => ?_⟩
    have : ¬ j < i := fun less => first j after less ended
    omega
  · rw [same]
    refine ⟨fun below => absurd below (by omega), fun ⟨j, after, _, ended⟩ => ?_⟩
    exact absurd ended (none j after)

/-- A body goes on past an offset exactly if all its lines up to there let it go on. -/
theorem lt_classEnd_iff (inside : offset < text.length) : offset < classEnd text start ↔
    ∀ line ∈ text.lineStarts, bodyStart text start ≤ line → line ≤ offset →
      GoesOn text (headerIndent text start) line := by
  have walk : Walks text (headerIndent text start) (bodyStart text start) (classEnd text start) :=
    walks_bodyLength (bodyStart_le_length text start)
  obtain ⟨passed, reached⟩ := walk.stops ((bodyStart_started text start).imp_left And.left)
  constructor
  · intro before line started late early
    exact passed line started late (by omega)
  · intro goesOn
    refine Nat.lt_of_not_le fun ended => ?_
    rcases reached with last | ⟨started, late, leaves⟩
    · omega
    · exact leaves (goesOn _ started late ended)

/-- A name starts outside the body exactly if all of it stands before the body. -/
theorem name_before_body_iff (member : range ∈ classRanges text) :
    range.nameStart + range.name.length ≤ range.bodyStart ↔
      ¬ range.bodyStart ≤ range.nameStart := by
  have named := Findings.mem_ranges member
  have content := named.start_lt_stop
  have fits := named.stop_le_length
  simp only [Capture.stop] at content fits
  refine ⟨fun before => by omega, fun outside => Nat.le_of_not_lt fun within => ?_⟩
  obtain ⟨header, _, rfl⟩ := List.mem_map.mp member
  simp only [rangeOf] at *
  rcases bodyStart_cases text header.whole.start with ⟨i, _, newline, _, same⟩ | ⟨_, same⟩
  · -- the body would start behind a newline in the name
    refine named.newline_notMem ?_
    rw [← named.covers]
    exact Text.mem_slice_iff.mpr ⟨i, by simp only; omega, by simp only [Capture.stop]; omega, newline⟩
  · omega

/-- A name is in its own range exactly if it stands in the body: no other class starts before it
and after its header. -/
theorem rangeAt?_nameStart_iff (member : range ∈ classRanges text) :
    (Scopes.ofText text).rangeAt? range.nameStart = some range ↔
      range.bodyStart ≤ range.nameStart ∧ range.nameStart < range.bodyEnd := by
  constructor
  · intro own
    have holds := ClassRange.contains_iff.mp (Scopes.rangeAt?_eq_some own).2.1
    omega
  · rintro ⟨low, high⟩
    have holds : range.contains range.nameStart = true :=
      ClassRange.contains_iff.mpr ⟨by omega, by omega⟩
    obtain ⟨inner, own⟩ :=
      Option.isSome_iff_exists.mp (Scopes.isSome_rangeAt?_iff.mpr ⟨range, member, holds⟩)
    obtain ⟨listed, inside, last⟩ := Scopes.rangeAt?_eq_some own
    rcases last range member holds with rfl | before
    · exact own
    · have after := (nameStart_between member).2 inner listed before
      have starts := headerStart_lt_bodyStart listed
      have bounds := ClassRange.contains_iff.mp inside
      omega

end Scope

namespace Findings

/-- A class record is that of a range, with the class around its name as scope. -/
theorem exists_range_of_record (member : record ∈ (extract text).positions)
    (kind : record.kind = .classDef) : ∃ range ∈ Scope.classRanges text,
      record.name = range.name ∧
      (LineIndex.ofText text).offset record.line record.column = range.nameStart ∧
      record.scope = (Scopes.ofText text).classAt range.nameStart := by
  rw [extract_positions] at member
  obtain ⟨group, captured, found, rfl⟩ := exists_capture_of_record member (by simp [kind])
  cases group
  case classes =>
    obtain ⟨range, ranged, rfl⟩ := List.mem_map.mp found
    obtain ⟨k, s, stands⟩ := recordOf_standsOn (mem_ranges ranged) .classDef
      ((Findings.ofText text).scopeOf .classDef range.nameStart) []
    exact ⟨range, ranged, rfl, stands.offset_eq, rfl⟩
  all_goals cases kind

/-- A class is named in its own range exactly if a line ends between the start of its header and the name,
and all lines from there down to the name let the body go on. -/
theorem class_named_before_body (text : Text) :
    (∀ range ∈ Scope.classRanges text,
      range.headerStart < range.nameStart ∧
      (range.nameStart + range.name.length ≤ range.bodyStart ↔
        '\n' ∉ text.slice range.headerStart range.nameStart) ∧
      ((Scopes.ofText text).rangeAt? range.nameStart = some range ↔
        '\n' ∈ text.slice range.headerStart range.nameStart ∧
        ∀ line ∈ text.lineStarts, range.headerStart < line → line ≤ range.nameStart →
          Scope.GoesOn text range.indent line)) ∧
    ∀ record ∈ (extract text).positions, record.kind = .classDef →
      ∃ range ∈ Scope.classRanges text, record.name = range.name ∧
        (LineIndex.ofText text).offset record.line record.column = range.nameStart ∧
        record.scope = (Scopes.ofText text).classAt range.nameStart := by
  refine ⟨fun range member => ?_, fun record => exists_range_of_record⟩
  have inside := Scope.nameStart_lt_length member
  have started : range.bodyStart ≤ range.nameStart ↔
      '\n' ∈ text.slice range.headerStart range.nameStart := by
    obtain ⟨header, _, rfl⟩ := List.mem_map.mp member
    exact Scope.bodyStart_le_iff inside
  refine ⟨(Scope.nameStart_between member).1, ?_, ?_⟩
  · rw [Scope.name_before_body_iff member, started]
  · rw [Scope.rangeAt?_nameStart_iff member, ← started]
    refine and_congr_right fun _ => ?_
    obtain ⟨header, _, rfl⟩ := List.mem_map.mp member
    rw [show (Scope.rangeOf text header).bodyEnd = Scope.classEnd text header.whole.start from rfl,
      Scope.lt_classEnd_iff inside]
    have first := Scope.headerStart_lt_bodyStart member
    refine forall₂_congr fun line starts => imp_congr_left ⟨fun late => ?_, fun after => ?_⟩
    · exact Nat.lt_of_lt_of_le first late
    · exact Scope.bodyStart_le_of_started starts after

theorem class_named_before_body_broken :
    let text := "class\n  Foo:\n".toList
    let range : ClassRange := ⟨"Foo".toList, 0, 8, 6, 13, 0⟩
    range ∈ Scope.classRanges text ∧ (Scopes.ofText text).rangeAt? range.nameStart = some range ∧
      ¬ range.nameStart + range.name.length ≤ range.bodyStart := by
  intro text range
  have member : range ∈ Scope.classRanges text := by decide
  obtain ⟨_, before, own⟩ := (class_named_before_body text).1 range member
  have broken : '\n' ∈ Text.slice text range.headerStart range.nameStart := by decide
  refine ⟨member, own.mpr ⟨broken, fun line started after early => Or.inr ?_⟩, fun outside =>
    before.mp outside broken⟩
  have lines : Text.lineStarts text = [0, 6, 13] := by decide
  obtain rfl : line = 6 := by
    rw [lines] at started
    simp [range] at started after early
    omega
  decide

end Findings
end SymbolIndex
