import Mathlib.Data.List.Find
import SymbolIndex.Proofs.Pattern.LineEnding
import SymbolIndex.Proofs.Scope.Ranges

/-! Classes bound the same lines in a text with carriage returns before its newlines: a carriage
return is no part of the indentation, and a line that goes on with one is skipped like a blank
one. -/
namespace SymbolIndex
variable {text line : Text} {headerStart offset indent : Nat} {range : ClassRange} {header : Occurrence}

/-- Where a class lies once the text is written with carriage returns. -/
def ClassRange.crlf (text : Text) (range : ClassRange) : ClassRange where
  name := range.name
  headerStart := text.crlfOffset range.headerStart
  nameStart := text.crlfOffset range.nameStart
  bodyStart := text.crlfOffset range.bodyStart
  bodyEnd := text.crlfOffset range.bodyEnd
  indent := range.indent

theorem indentOf_crlf (line : Text) : indentOf line.crlf = indentOf line := by
  have spaces : '\n' ∉ line.takeWhile (· = ' ') := fun member => by
    simpa using List.all_eq_true.mp List.all_takeWhile '\n' member
  rw [indentOf, Text.takeWhile_crlf (by decide), Text.crlf_of_notMem spaces, indentOf]

theorem isSkippable_crlf (line : Text) : isSkippable line.crlf = isSkippable line := by
  rw [isSkippable, Text.dropWhile_crlf (by decide), isSkippable]
  cases line.dropWhile (· = ' ') with
  | nil => rfl
  | cons c rest =>
    by_cases newline : c = '\n'
    · rw [newline, Text.crlf_newline]
      rfl
    · rw [Text.crlf_other newline]

theorem staysInBody_crlf (indent : Nat) (line : Text) :
    staysInBody indent line.crlf = staysInBody indent line := by
  rw [staysInBody, isSkippable_crlf, indentOf_crlf, staysInBody]

namespace Scope

theorem bodyStart_crlf (text : Text) (headerStart : Nat) :
    bodyStart text.crlf (text.crlfOffset headerStart) = text.crlfOffset (bodyStart text headerStart) := by
  have length := congrArg List.length (text.crlf_split (bodyStart text headerStart))
  rw [List.length_append, drop_bodyStart] at length
  rw [bodyStart, Text.drop_crlf, Text.afterLine_crlf, length, Nat.add_sub_cancel, Text.crlfOffset]

theorem headerIndent_crlf (inside : headerStart ≤ text.length) :
    headerIndent text.crlf (text.crlfOffset headerStart) = headerIndent text headerStart := by
  obtain ⟨above, line, rest, place⟩ := Text.exists_inLine inside
  have whole : line ++ Text.crlf rest = Text.crlf (line ++ rest) := by
    rw [Text.crlf_append, Text.crlf_of_notMem place.unbroken]
  rw [headerIndent_eq place.crlf, headerIndent_eq place, whole, indentOf_crlf]

theorem bodyLength_crlf (indent : Nat) (text : Text) :
    bodyLength indent text.crlf = text.crlfOffset (bodyLength indent text) := by
  have lines : ((Text.lines text.crlf).takeWhile (staysInBody indent)).flatten =
      Text.crlf ((Text.lines text).takeWhile (staysInBody indent)).flatten := by
    rw [Text.lines_crlf, List.takeWhile_map, Text.crlf_flatten]
    exact congrArg (fun p => ((text.lines.takeWhile p).map Text.crlf).flatten)
      (funext (staysInBody_crlf indent))
  have taken := List.prefix_iff_eq_take.mp (body_isPrefixOf indent text)
  rw [bodyLength, lines, bodyLength, Text.crlfOffset, ← taken]

theorem classEnd_crlf (inside : headerStart ≤ text.length) :
    classEnd text.crlf (text.crlfOffset headerStart) = text.crlfOffset (classEnd text headerStart) := by
  rw [classEnd, bodyStart_crlf, headerIndent_crlf inside, Text.drop_crlf, bodyLength_crlf]
  exact (Text.crlfOffset_add text _ _).symm

/-- The name of a class is a run of identifier characters, so it holds no line ending. -/
theorem rangeOf_crlf (occurs : header ∈ Pattern.classHeader.occurrences text) :
    rangeOf text.crlf (header.crlf text) = (rangeOf text header).crlf text := by
  obtain ⟨cursor, place, finds⟩ := Recogniser.mem_occurrences occurs
  have name : header.name.text.crlf = header.name.text :=
    Text.crlf_of_notMem (Recogniser.classHeader_name place finds).newline_notMem
  have starts := Recogniser.classHeader_covers.grounded.start place finds
  have inside : header.whole.start ≤ text.length := starts ▸ place.inside
  simp only [rangeOf, ClassRange.crlf, Occurrence.crlf, Capture.crlf, name, bodyStart_crlf,
    classEnd_crlf inside, headerIndent_crlf inside]

theorem classRanges_crlf (text : Text) :
    classRanges text.crlf = (classRanges text).map (·.crlf text) := by
  have occurrences : Pattern.classHeader.occurrences text.crlf = _ :=
    Recogniser.occurrences_crlf Recogniser.classHeader_carried Recogniser.classHeader_covers text
  rw [classRanges, occurrences, List.map_map, classRanges, List.map_map]
  exact List.map_congr_left fun header occurs => rangeOf_crlf occurs

end Scope

theorem ClassRange.contains_crlf (member : range ∈ Scope.classRanges text)
    (inside : offset ≤ text.length) :
    (range.crlf text).contains (text.crlfOffset offset) = range.contains offset := by
  obtain ⟨header, _, rfl⟩ := List.mem_map.mp member
  have starts := Scope.bodyStart_le_length text header.whole.start
  have ends := Scope.classEnd_le_length text header.whole.start
  apply Bool.eq_iff_iff.mpr
  rw [contains_iff, contains_iff]
  have first := Text.crlfOffset_le_iff starts inside
  have last := Text.crlfOffset_le_iff ends inside
  simp only [crlf, Scope.rangeOf] 
  omega

namespace Scopes

theorem rangeAt?_crlf (inside : offset ≤ text.length) :
    (Scopes.ofText text.crlf).rangeAt? (text.crlfOffset offset) =
      ((Scopes.ofText text).rangeAt? offset).map (·.crlf text) := by
  rw [rangeAt?_eq, rangeAt?_eq, Scope.classRanges_crlf, ← List.map_reverse, List.find?_map]
  exact congrArg _ (List.find?_congr fun range listed =>
    ClassRange.contains_crlf (List.mem_reverse.mp listed) inside)

theorem classAt_crlf (inside : offset ≤ text.length) :
    (Scopes.ofText text.crlf).classAt (text.crlfOffset offset) =
      (Scopes.ofText text).classAt offset := by
  rw [classAt, rangeAt?_crlf inside, classAt]
  cases (Scopes.ofText text).rangeAt? offset <;> rfl

end Scopes

theorem LineIndex.lineColumn_crlf (inside : offset ≤ text.length) :
    (ofText text.crlf).lineColumn (text.crlfOffset offset) = (ofText text).lineColumn offset := by
  obtain ⟨above, line, rest, place⟩ := Text.exists_inLine inside
  rw [lineColumn_inLine place.crlf, lineColumn_inLine place, Text.count_crlf]

end SymbolIndex
