import SymbolIndex.Proofs.Pattern.Grounded
import SymbolIndex.Proofs.Pattern.Spelling
import SymbolIndex.Proofs.Text.Lines

/-! Searching whole lines of a text by themselves. What a search of the text finds wholly within
them is found again, as no find that starts within them can run across it. -/
namespace SymbolIndex
variable {text above inner below front rest : Text} {cursor outer : Cursor} {last c : Char}
  {found other : Occurrence} {recognise : Recogniser}

/-- Lines of a text between the lines above them and what is below. -/
structure Text.Excerpt (text above inner below : Text) : Prop where
  text_eq : text = above ++ (inner ++ below)
  opens : EndsLine above
  closes : below = [] ∨ EndsLine inner

namespace Text.Excerpt

/-- A cursor of the lines sees what the cursor of the text at that place sees, up to the end of
the lines. -/
theorem outer_cursor (excerpt : Excerpt text above inner below) (place : Cursor.In inner cursor) :
    ∃ outer, Cursor.In text outer ∧ outer.offset = above.length + cursor.offset ∧
      outer.rest = cursor.rest ++ below ∧ outer.opensWord = cursor.opensWord := by
  have bound := place.inside
  have reaches : above.length + cursor.offset ≤ text.length := by
    have length := congrArg List.length excerpt.text_eq
    simp only [List.length_append] at length
    omega
  obtain ⟨outer, seen, shift⟩ := Cursor.exists_in reaches
  refine ⟨outer, seen, shift, ?_, ?_⟩
  · rw [seen.rest, shift, place.rest, excerpt.text_eq, ← List.drop_drop, List.drop_left,
      List.drop_append_of_le_length bound]
  · have before : outer.before = cursor.before.or above.getLast? := by
      rw [seen.before, place.before, Text.charBefore_eq seen.inside, Text.charBefore_eq bound, shift,
        excerpt.text_eq, List.take_length_add_append, List.take_append_of_le_length bound,
        List.getLast?_append]
    rw [Cursor.opensWord, Cursor.opensWord, before]
    cases cursor.before with
    | some c => rfl
    | none =>
      cases ends : above.getLast? with
      | none => rfl
      | some c =>
        obtain rfl := excerpt.opens c ends
        decide

theorem inner_cursor (excerpt : Excerpt text above inner below) (seen : Cursor.In text outer)
    (starts : above.length ≤ outer.offset) (stops : outer.offset ≤ above.length + inner.length) :
    ∃ cursor, Cursor.In inner cursor ∧ outer.offset = above.length + cursor.offset ∧
      outer.rest = cursor.rest ++ below ∧ outer.opensWord = cursor.opensWord := by
  have reaches : outer.offset - above.length ≤ inner.length := by omega
  obtain ⟨cursor, place, offset⟩ := Cursor.exists_in reaches
  obtain ⟨again, placed, shift, rests, opens⟩ := excerpt.outer_cursor place
  obtain rfl : again = outer := placed.ext seen (by omega)
  exact ⟨cursor, place, shift, rests, opens⟩

end Text.Excerpt

namespace Recogniser

/-- A find is a matter of what it covers, and hardly of what follows: it ends at the first `last`
from its start, and a cursor at which the same is written finds the same, unless the character
after it is another one. -/
structure Spelled (last : Char) (recognise : Recogniser) : Prop where
  ends : ∀ {cursor found}, recognise cursor = some found → cursor.opensWord = true ∧ ∃ front rest,
    found.whole.text = front ++ [last] ∧ last ∉ front ∧ cursor.rest = found.whole.text ++ rest
  again : ∀ {cursor other found rest more}, recognise cursor = some found →
    cursor.rest = found.whole.text ++ rest →
    other.opensWord = true → other.rest = found.whole.text ++ more →
    (∀ c, more.head? = some c → rest.head? = some c) → ∃ again, recognise other = some again ∧
      again.whole = ⟨other.offset, found.whole.text⟩ ∧ again.name.text = found.name.text

theorem functionHeader_spelled : Spelled ')' functionHeader where
  ends finds := by
    obtain ⟨opens, written, gap, label, pad, inside, rest, spells, split, rfl⟩ :=
      functionHeader_iff_spelled.mp finds
    refine ⟨opens, _, rest, spells.written_eq, ?_, split⟩
    have inGap : ')' ∉ gap := fun member => absurd (spells.gap_blank _ member) (by decide)
    have inLabel : ')' ∉ label := fun member => absurd (spells.label_name.inside _ member) (by decide)
    have inPad : ')' ∉ pad := fun member => absurd (spells.pad_blank _ member) (by decide)
    simp [inGap, inLabel, inPad, spells.inside_open]
  again finds split opens rests heads := by
    obtain ⟨_, written, gap, label, pad, inside, rest, spells, _, rfl⟩ :=
      functionHeader_iff_spelled.mp finds
    exact ⟨_, functionHeader_iff_spelled.mpr ⟨opens, _, _, _, _, _, _, spells, rests, rfl⟩, rfl, rfl⟩

theorem attributeAssignment_spelled : Spelled '=' attributeAssignment where
  ends finds := by
    obtain ⟨opens, written, label, pad, rest, spells, split, _, rfl⟩ :=
      attributeAssignment_iff_spelled.mp finds
    refine ⟨opens, _, rest, spells.written_eq, ?_, split⟩
    have inLabel : '=' ∉ label := fun member => absurd (spells.label_name.inside _ member) (by decide)
    have inPad : '=' ∉ pad := fun member => absurd (spells.pad_blank _ member) (by decide)
    simp [inLabel, inPad]
  again finds split opens rests heads := by
    obtain ⟨_, written, label, pad, rest, spells, same, other, rfl⟩ :=
      attributeAssignment_iff_spelled.mp finds
    obtain rfl := List.append_cancel_left (split.symm.trans same)
    refine ⟨_, attributeAssignment_iff_spelled.mpr
      ⟨opens, _, _, _, _, spells, rests, fun next => other (heads _ next), rfl⟩, rfl, rfl⟩

/-- Of two finds that overlap the later one ends where the earlier one does. -/
theorem Spelled.stop_eq (spelled : Spelled last recognise) (grounded : Grounded recognise)
    (place : Cursor.In text cursor) (finds : recognise cursor = some found)
    (seen : Cursor.In text outer) (also : recognise outer = some other)
    (after : cursor.offset ≤ outer.offset) (before : outer.offset < found.whole.stop) :
    found.whole.stop = other.whole.stop := by
  obtain ⟨_, front, rest, shape, unique, split⟩ := spelled.ends finds
  obtain ⟨_, short, more, otherShape, otherUnique, otherSplit⟩ := spelled.ends also
  have starts := grounded.start place finds
  have otherStarts := grounded.start seen also
  have length := congrArg List.length shape
  have otherLength := congrArg List.length otherShape
  rw [List.length_append, List.length_singleton] at length otherLength
  simp only [Capture.stop] at before ⊢
  -- both fronts reach up to the next `last`
  have ahead : ∀ part rest : Text, last ∉ part → (part ++ last :: rest).takeWhile (· ≠ last) = part :=
    fun part rest none => Text.Runs.takeWhile_eq
      ⟨fun c member => decide_eq_true fun same => none (same ▸ member), by simp⟩
  have gone : outer.rest = front.drop (outer.offset - cursor.offset) ++ last :: rest := by
    have inside : outer.offset - cursor.offset ≤ front.length := by omega
    rw [seen.rest, ← Nat.add_sub_cancel' after, ← List.drop_drop, ← place.rest, split, shape,
      Nat.add_sub_cancel' after, List.append_assoc, List.drop_append_of_le_length inside,
      List.singleton_append]
  have shown : outer.rest = short ++ last :: more := by
    rw [otherSplit, otherShape, List.append_assoc, List.singleton_append]
  have same : front.drop (outer.offset - cursor.offset) = short := by
    rw [← ahead (front.drop _) rest fun member => unique (List.mem_of_mem_drop member), ← gone, shown,
      ahead short more otherUnique]
  have left := congrArg List.length same
  rw [List.length_drop] at left
  omega

/-- A find in the lines is a find in the text. -/
theorem Spelled.outer_find (spelled : Spelled last recognise) (break_ne : last ≠ '\n')
    (excerpt : Text.Excerpt text above inner below) (place : Cursor.In inner cursor)
    (finds : recognise cursor = some found) : ∃ outer again, Cursor.In text outer ∧
      outer.offset = above.length + cursor.offset ∧ recognise outer = some again ∧
      again.whole = ⟨outer.offset, found.whole.text⟩ ∧ again.name.text = found.name.text := by
  obtain ⟨outer, seen, shift, rests, opens⟩ := excerpt.outer_cursor place
  obtain ⟨opened, front, rest, shape, _, split⟩ := spelled.ends finds
  have heads : ∀ c, (rest ++ below).head? = some c → rest.head? = some c := by
    intro c head
    cases rest with
    | cons d rest => exact head
    | nil =>
      -- the lines end with `last`, which is no line end, so they end the text
      rw [List.append_nil, shape, place.rest] at split
      have lines : inner = (inner.take cursor.offset ++ front) ++ [last] := by
        rw [List.append_assoc, ← split, List.take_append_drop]
      rcases excerpt.closes with rfl | ends
      · exact head
      · exact absurd (ends last (by rw [lines, List.getLast?_concat])) break_ne
  obtain ⟨again, refinds, same⟩ := spelled.again finds split (opens.trans opened)
    (by rw [rests, split, List.append_assoc]) heads
  exact ⟨outer, again, seen, shift, refinds, same⟩

/-- An occurrence within the lines is found by a search of the lines. -/
theorem Spelled.occurs_inside (spelled : Spelled last recognise) (grounded : Grounded recognise)
    (break_ne : last ≠ '\n') (excerpt : Text.Excerpt text above inner below)
    (member : found ∈ recognise.occurrences text) (starts : above.length ≤ found.whole.start)
    (stops : found.whole.stop ≤ above.length + inner.length) :
    ∃ again ∈ recognise.occurrences inner, again.name.text = found.name.text := by
  obtain ⟨outer, seen, finds⟩ := mem_occurrences member
  obtain ⟨opened, _, rest, _, _, split⟩ := spelled.ends finds
  have begins := grounded.start seen finds
  simp only [Capture.stop] at stops
  obtain ⟨cursor, place, shift, rests, opens⟩ := excerpt.inner_cursor seen (by omega) (by omega)
  have length := place.length_rest
  obtain ⟨more, written, later⟩ : ∃ more, cursor.rest = found.whole.text ++ more ∧
      rest = more ++ below := by
    rcases List.append_eq_append_iff.mp (rests.symm.trans split) with
      ⟨beyond, wide, _⟩ | ⟨more, written, same⟩
    · have wide := congrArg List.length wide
      rw [List.length_append] at wide
      obtain rfl : beyond = [] := List.length_eq_zero_iff.mp (by omega)
      exact ⟨[], by simp_all, by simp_all⟩
    · exact ⟨more, written, same⟩
  obtain ⟨again, refinds, whole, name⟩ := spelled.again finds split (opens.symm.trans opened) written
    fun c head => by rw [later, List.head?_append, head]; rfl
  obtain ⟨early, listed, same | before, _, across⟩ := occurrences_complete grounded place refinds
  · exact ⟨early, listed, same ▸ name⟩
  · -- an earlier occurrence in the lines would overlap this one in the text as well
    exfalso
    obtain ⟨spot, there, earlyFinds⟩ := mem_occurrences listed
    have earlyStarts := grounded.start there earlyFinds
    obtain ⟨lifted, copy, within, place_eq, copyFinds, copyWhole, _⟩ :=
      spelled.outer_find break_ne excerpt there earlyFinds
    obtain ⟨third, chosen, _, thirdStarts, thirdStops⟩ := occurrences_complete grounded within copyFinds
    have copyStop : copy.whole.stop = above.length + early.whole.stop := by
      rw [copyWhole]
      simp only [Capture.stop]
      omega
    rcases occurrences_disjoint grounded chosen member with rfl | past | past
    · omega
    · obtain ⟨first, thirdPlace, thirdFinds⟩ := mem_occurrences chosen
      have begin := grounded.start thirdPlace thirdFinds
      have ends := spelled.stop_eq grounded thirdPlace thirdFinds within copyFinds (by omega) thirdStops
      omega
    · simp only [Capture.stop] at past
      omega

end Recogniser
end SymbolIndex
