import SymbolIndex.Scope
import SymbolIndex.Proofs.Bisect
import SymbolIndex.Proofs.Pattern.Grounded
import SymbolIndex.Proofs.Text.Lines

/-! Class ranges in text order: where their headers, lines and bodies lie, and the innermost one
as the last that holds an offset. -/
namespace SymbolIndex
variable {text above line rest : Text} {headerStart : Nat} {range : ClassRange} {offset : Int}

namespace Scope

/-- The body text of a class starts after the first line end that follows its header's start. -/
theorem drop_bodyStart (text : Text) (headerStart : Nat) :
    text.drop (bodyStart text headerStart) = Text.afterLine (text.drop headerStart) := by
  have suffix := (Text.afterLine_suffix (text.drop headerStart)).trans
    (List.drop_suffix headerStart text)
  exact (List.suffix_iff_eq_drop.mp suffix).symm

theorem bodyStart_le_length (text : Text) (headerStart : Nat) :
    bodyStart text headerStart ≤ text.length := Nat.sub_le _ _

theorem length_afterLine (text : Text) (headerStart : Nat) :
    bodyStart text headerStart + (Text.afterLine (text.drop headerStart)).length = text.length := by
  have length := congrArg List.length (drop_bodyStart text headerStart)
  have bound := bodyStart_le_length text headerStart
  rw [List.length_drop] at length
  omega

/-- The line of a header has at least the header's first character, so the body starts later. -/
theorem lt_bodyStart (inside : headerStart < text.length) :
    headerStart < bodyStart text headerStart := by
  have length := length_afterLine text headerStart
  rw [List.drop_eq_getElem_cons inside] at length
  have shorter : (Text.afterLine (text[headerStart] :: text.drop (headerStart + 1))).length ≤
      (text.drop (headerStart + 1)).length := by
    rw [Text.afterLine]
    split
    · exact Nat.le_refl _
    · exact (Text.afterLine_suffix _).length_le
  rw [List.length_drop] at shorter
  omega

/-- The lines that stay in a body stand at the front of what is below the header. -/
theorem body_isPrefixOf (indent : Nat) (text : Text) :
    ((Text.lines text).takeWhile (staysInBody indent)).flatten <+: text := by
  refine ⟨((Text.lines text).dropWhile (staysInBody indent)).flatten, ?_⟩
  rw [← List.flatten_append, List.takeWhile_append_dropWhile, Text.flatten_lines]

theorem classEnd_le_length (text : Text) (headerStart : Nat) :
    classEnd text headerStart ≤ text.length := by
  have bound := bodyStart_le_length text headerStart
  have fits := (body_isPrefixOf (headerIndent text headerStart)
    (text.drop (bodyStart text headerStart))).length_le
  rw [List.length_drop] at fits
  simp only [classEnd, bodyLength]
  omega

theorem bodyStart_le_classEnd (text : Text) (headerStart : Nat) :
    bodyStart text headerStart ≤ classEnd text headerStart := Nat.le_add_right _ _

theorem headerIndent_eq (place : Text.InLine text headerStart above line rest) :
    headerIndent text headerStart = indentOf (line ++ rest) := by
  rw [headerIndent, place.drop_lineStart]

/-- A range comes from a header at which the word `class` stands. -/
theorem mem_classRanges (member : range ∈ classRanges text) :
    ∃ header ∈ Pattern.classHeader.occurrences text, range = rangeOf text header ∧
      ∃ above line rest, Text.InLine text range.headerStart above line ('c' :: rest) := by
  obtain ⟨header, occurs, rfl⟩ := List.mem_map.mp member
  refine ⟨header, occurs, rfl, ?_⟩
  obtain ⟨cursor, place, finds⟩ := Recogniser.mem_occurrences occurs
  obtain ⟨_, word, _, _, _, _, keyword, _, _, _, same⟩ :=
    Recogniser.classHeader_eq_some_iff.mp finds
  have starts : (rangeOf text header).headerStart = cursor.offset := by rw [← same]; rfl
  obtain ⟨after, split⟩ := (place.literal? keyword).2.2
  obtain ⟨above, line, rest, inLine⟩ := Text.exists_inLine place.inside
  rw [inLine.drop_eq] at split
  refine ⟨above, line, "lass".toList ++ after, starts ▸ ?_⟩
  rwa [← split] at inLine

/-- Headers stand one after another. -/
theorem classRanges_ordered (text : Text) :
    (classRanges text).Pairwise fun a b => a.headerStart < b.headerStart := by
  have grounded := Recogniser.classHeader_covers.grounded
  have apart := Recogniser.occurrences_apart grounded text
  refine List.pairwise_map.mpr (apart.imp_of_mem fun {a b} member _ before => ?_)
  obtain ⟨cursor, place, finds⟩ := Recogniser.mem_occurrences member
  have covers := grounded.nonempty place finds
  simp only [Capture.stop, rangeOf] at before ⊢
  omega

theorem headerStart_lt_bodyStart (member : range ∈ classRanges text) :
    range.headerStart < range.bodyStart := by
  obtain ⟨header, _, rfl, above, line, rest, place⟩ := mem_classRanges member
  refine lt_bodyStart (show header.whole.start < text.length from ?_)
  have length := congrArg List.length place.text_eq
  have offset : header.whole.start = above.length + line.length := place.offset_eq
  simp only [List.length_append, List.length_cons] at length
  omega

/-- A body starts no later than it ends, and within the text. -/
theorem bodyStart_le_bodyEnd (member : range ∈ classRanges text) :
    range.bodyStart ≤ range.bodyEnd ∧ range.bodyEnd ≤ text.length := by
  obtain ⟨header, _, rfl⟩ := List.mem_map.mp member
  exact ⟨bodyStart_le_classEnd text header.whole.start, classEnd_le_length text header.whole.start⟩

end Scope

namespace ClassRange

theorem contains_iff : range.contains offset = true ↔
    (range.bodyStart : Int) ≤ offset ∧ offset < range.bodyEnd := by
  simp [contains]

end ClassRange

namespace Scopes
open Scope

theorem starts_getD {k : Nat} (bound : k < (classRanges text).length) :
    (Scopes.ofText text).starts.getD k 0 = (classRanges text)[k].headerStart := by
  simp [ofText, Array.getD_eq_getD_getElem?, bound]

theorem size_starts (text : Text) :
    (Scopes.ofText text).starts.size = (classRanges text).length := by simp [ofText]

theorem ascending_starts (text : Text) : Ascending (Scopes.ofText text).starts := by
  intro i j before bound
  rw [size_starts] at bound
  rw [starts_getD bound, starts_getD (Nat.lt_of_le_of_lt before bound)]
  rcases Nat.lt_or_eq_of_le before with less | rfl
  · exact Nat.le_of_lt (List.pairwise_iff_getElem.mp (classRanges_ordered text) i j _ bound less)
  · exact Nat.le_refl _

/-- A range whose header comes after the offset does not hold it. -/
theorem not_contains_of_mem_drop
    (late : range ∈ (classRanges text).drop (countUpTo (Scopes.ofText text).starts offset)) :
    ¬ range.contains offset = true := by
  have cut := countUpTo_cutAt (ascending_starts text) offset
  obtain ⟨i, within, rfl⟩ := List.getElem_of_mem late
  have small := within
  rw [List.length_drop] at small
  have bound : countUpTo (Scopes.ofText text).starts offset + i < (classRanges text).length := by
    omega
  have above := cut.above _ (Nat.le_add_right _ i) (by rwa [size_starts])
  rw [starts_getD bound, ← List.getElem_drop (h := within)] at above
  have first := headerStart_lt_bodyStart (List.mem_of_mem_drop late)
  intro holds
  have inside := ClassRange.contains_iff.mp holds
  omega

/-- Searching from the last header at or before the offset finds what a scan of all ranges from
the back finds. -/
theorem rangeAt?_eq (text : Text) (offset : Int) : (Scopes.ofText text).rangeAt? offset =
    (classRanges text).reverse.find? (·.contains offset) := by
  let count := countUpTo (Scopes.ofText text).starts offset
  have later : ∀ range ∈ ((classRanges text).drop count).reverse, ¬ range.contains offset = true :=
    fun range listed => not_contains_of_mem_drop (List.mem_reverse.mp listed)
  have whole := List.take_append_drop count (classRanges text)
  conv => rhs; rw [← whole, List.reverse_append, List.find?_append, List.find?_eq_none.mpr later]
  rfl

/-- The range found at an offset is the last one that holds it. -/
theorem rangeAt?_eq_some (found : (Scopes.ofText text).rangeAt? offset = some range) :
    range ∈ classRanges text ∧ range.contains offset = true ∧
      ∀ other ∈ classRanges text, other.contains offset = true →
        other = range ∨ other.headerStart < range.headerStart := by
  rw [rangeAt?_eq] at found
  obtain ⟨holds, after, before, split, later⟩ := List.find?_eq_some_iff_append.mp found
  have parts := congrArg List.reverse split
  rw [List.reverse_reverse, List.reverse_append, List.reverse_cons, List.append_assoc] at parts
  have ordered := classRanges_ordered text
  rw [parts, List.pairwise_append] at ordered
  refine ⟨by simp [parts], holds, fun other listed inside => ?_⟩
  rw [parts, List.mem_append, List.singleton_append, List.mem_cons] at listed
  rcases listed with earlier | rfl | behind
  · exact Or.inr (ordered.2.2 other earlier range (by simp))
  · exact Or.inl rfl
  · have missed := later other (List.mem_reverse.mp behind)
    simp [inside] at missed

/-- Whatever the offset, the range found is the last one whose body holds it. The search leaves none out,
as headers stand in strict order and each before its own body. -/
theorem lookup_eq_plain_scan (text : Text) :
    (∀ offset : Int,
      (Scopes.ofText text).rangeAt? offset = ((classRanges text).filter fun range =>
        (range.bodyStart : Int) ≤ offset ∧ offset < range.bodyEnd).getLast? ∧
      ((Scopes.ofText text).rangeAt? offset = none ↔ ∀ range ∈ classRanges text,
        ¬ ((range.bodyStart : Int) ≤ offset ∧ offset < range.bodyEnd)) ∧
      ∀ range ∈ classRanges text, (range.bodyStart : Int) ≤ offset ∧ offset < range.bodyEnd →
        range ∈ (classRanges text).take (countUpTo (Scopes.ofText text).starts offset)) ∧
    (classRanges text).Pairwise (fun a b => a.headerStart < b.headerStart) ∧
    ∀ range ∈ classRanges text, range.headerStart < range.bodyStart ∧
      range.bodyStart ≤ range.bodyEnd ∧ range.bodyEnd ≤ text.length := by
  refine ⟨fun offset => ⟨?_, ?_, ?_⟩, classRanges_ordered text, fun range member =>
    ⟨headerStart_lt_bodyStart member, bodyStart_le_bodyEnd member⟩⟩
  · have same (range : ClassRange) : range.contains offset =
        decide ((range.bodyStart : Int) ≤ offset ∧ offset < range.bodyEnd) := by
      rw [ClassRange.contains, Bool.decide_and]
    rw [rangeAt?_eq, List.getLast?_filter]
    simp only [same]
  · rw [rangeAt?_eq, List.find?_eq_none]
    simp only [List.mem_reverse, ClassRange.contains_iff]
  · intro range member holds
    rw [← List.take_append_drop (countUpTo (Scopes.ofText text).starts offset) (classRanges text),
      List.mem_append] at member
    refine member.resolve_right fun late => not_contains_of_mem_drop late ?_
    exact ClassRange.contains_iff.mpr holds

theorem lookup_eq_plain_scan_inner :
    let text := "class A:\n class B:\n  x\n y\n".toList
    (Scopes.ofText text).rangeAt? 21 = some ⟨['B'], 10, 16, 19, 23, 1⟩ ∧
      (Scopes.ofText text).rangeAt? 24 = some ⟨['A'], 0, 6, 9, 26, 0⟩ ∧
      (Scopes.ofText text).rangeAt? (-1) = none := by
  have scan := (lookup_eq_plain_scan "class A:\n class B:\n  x\n y\n".toList).1
  refine ⟨(scan 21).1.trans (by decide), (scan 24).1.trans (by decide), ?_⟩
  exact (scan (-1)).2.1.mpr (by decide)

end Scopes
end SymbolIndex
