import SymbolIndex.Proofs.Pattern.Steps

/-! What stands in the text where a pattern finds something, part by part. A spelling says little
about the text after it, so what is found in a part of a text can be found in the text. -/
namespace SymbolIndex
variable {cursor middle stop : Cursor} {name : Capture} {found : Occurrence} {p : Char → Bool}
  {expected part more u v written gap label pad inside : Text}

/-- All of a text satisfies a test, and what follows it does not go on doing so. -/
structure Text.Runs (p : Char → Bool) (part more : Text) : Prop where
  inside : ∀ c ∈ part, p c = true
  boundary : ∀ c, more.head? = some c → p c = false

theorem Text.Runs.takeWhile_eq (runs : Runs p part more) : (part ++ more).takeWhile p = part := by
  have stop : more.takeWhile p = [] := by
    cases more with
    | nil => rfl
    | cons c more => simp [runs.boundary c rfl]
  rw [List.takeWhile_append_of_pos runs.inside, stop, List.append_nil]

theorem Text.exists_runs (p : Char → Bool) (text : Text) :
    ∃ part more, text = part ++ more ∧ Runs p part more := by
  refine ⟨text.takeWhile p, text.dropWhile p, List.takeWhile_append_dropWhile.symm, ?_, ?_⟩
  · exact List.all_eq_true.mp List.all_takeWhile
  · intro c head
    have stops := List.head?_dropWhile_not p text
    rw [head] at stops
    exact stops

/-- Identifiers: a letter or an underscore, then letters, digits and underscores. -/
structure Text.IsIdentifier (text : Text) : Prop where
  start : ∃ c rest, text = c :: rest ∧ isNameStart c = true
  inside : ∀ c ∈ text, isNameChar c = true

namespace Cursor

/-- A part of the text stands between two cursors. -/
structure Reads (cursor : Cursor) (part : Text) (stop : Cursor) : Prop where
  rest_eq : cursor.rest = part ++ stop.rest
  stop_eq : stop = cursor.advance part.length

theorem rest_advance (cursor : Cursor) (n : Nat) :
    (cursor.advance n).rest = cursor.rest.drop n := by
  induction n generalizing cursor with
  | zero => rfl
  | succ n ih =>
    obtain ⟨offset, before, rest⟩ := cursor
    cases rest with
    | nil => simp [advance, ih, next]
    | cons c rest => simp [advance, ih, next]

theorem advance_advance (cursor : Cursor) (m n : Nat) :
    (cursor.advance m).advance n = cursor.advance (m + n) := by
  induction m generalizing cursor with
  | zero => rw [Nat.zero_add]; rfl
  | succ m ih => rw [Nat.succ_add, advance, ih]; rfl

/-- What stands at a cursor can be moved past. -/
theorem exists_reads (part : Text) (split : cursor.rest = part ++ more) :
    ∃ stop, cursor.Reads part stop ∧ stop.rest = more := by
  have left : (cursor.advance part.length).rest = more := by
    rw [rest_advance, split, List.drop_left]
  exact ⟨_, ⟨by rw [left, split], rfl⟩, left⟩

namespace Reads

theorem offset_eq (reads : cursor.Reads part stop) : stop.offset = cursor.offset + part.length := by
  rw [reads.stop_eq]
  exact offset_advance (by simp [reads.rest_eq])

theorem upTo_eq (reads : cursor.Reads part stop) : cursor.upTo stop = ⟨cursor.offset, part⟩ := by
  rw [upTo, reads.offset_eq, Nat.add_sub_cancel_left, reads.rest_eq, List.take_left]

theorem trans (first : cursor.Reads u middle) (second : middle.Reads v stop) :
    cursor.Reads (u ++ v) stop := by
  refine ⟨by rw [first.rest_eq, second.rest_eq, List.append_assoc], ?_⟩
  rw [second.stop_eq, first.stop_eq, advance_advance, List.length_append]

theorem skip_eq (reads : cursor.Reads part stop) (runs : Text.Runs p part stop.rest) :
    cursor.skip p = stop := by
  rw [skip, reads.rest_eq, runs.takeWhile_eq, reads.stop_eq]

end Reads

theorem reads_skip (cursor : Cursor) (p : Char → Bool) :
    ∃ part, cursor.Reads part (cursor.skip p) ∧ Text.Runs p part (cursor.skip p).rest := by
  obtain ⟨part, more, split, runs⟩ := Text.exists_runs p cursor.rest
  obtain ⟨stop, reads, rfl⟩ := exists_reads _ split
  exact ⟨part, (reads.skip_eq runs).symm ▸ reads, (reads.skip_eq runs).symm ▸ runs⟩

theorem literal?_eq_some_iff : cursor.literal? expected = some stop ↔ cursor.Reads expected stop := by
  rw [literal?]
  constructor
  · intro found
    split at found
    · rename_i starts
      obtain ⟨more, same⟩ := List.isPrefixOf_iff_prefix.mp starts
      obtain ⟨_, reads, _⟩ := exists_reads _ same.symm
      rwa [← Option.some.inj found, ← reads.stop_eq]
    · contradiction
  · intro reads
    rw [if_pos (List.isPrefixOf_iff_prefix.mpr ⟨stop.rest, reads.rest_eq.symm⟩), ← reads.stop_eq]

theorem run?_eq_some_iff : cursor.run? p = some stop ↔
    ∃ part, cursor.Reads part stop ∧ part ≠ [] ∧ Text.Runs p part stop.rest := by
  rw [run?]
  constructor
  · intro found
    split at found
    · rename_i starts
      obtain rfl := Option.some.inj found
      obtain ⟨part, reads, runs⟩ := reads_skip cursor p
      refine ⟨part, reads, ?_, runs⟩
      rintro rfl
      rw [reads.rest_eq, List.nil_append] at starts
      cases shown : (cursor.skip p).rest with
      | nil => simp [shown] at starts
      | cons c more => simp [shown, runs.boundary c (by rw [shown]; rfl)] at starts
    · contradiction
  · rintro ⟨part, reads, content, runs⟩
    obtain ⟨c, part, rfl⟩ := List.exists_cons_of_ne_nil content
    rw [reads.skip_eq runs, reads.rest_eq, if_pos (by simp [runs.inside c])]

theorem identifier?_eq_some_iff : cursor.identifier? = some (name, stop) ↔
    name.start = cursor.offset ∧ cursor.Reads name.text stop ∧ name.text.IsIdentifier ∧
      Text.Runs Text.isNameChar name.text stop.rest := by
  rw [identifier?]
  constructor
  · intro found
    split at found
    · rename_i starts
      obtain ⟨rfl, rfl⟩ := Prod.mk.inj (Option.some.inj found)
      obtain ⟨part, more, split, runs⟩ := Text.exists_runs Text.isNameChar cursor.rest
      have same : cursor.rest.takeWhile Text.isNameChar = part := by rw [split, runs.takeWhile_eq]
      obtain ⟨stop, reads, rfl⟩ := exists_reads _ split
      rw [same, ← reads.stop_eq]
      refine ⟨rfl, reads, ⟨?_, runs.inside⟩, runs⟩
      cases part with
      | nil =>
        rw [split, List.nil_append] at starts
        cases shown : stop.rest with
        | nil => simp [shown] at starts
        | cons c more =>
          have first : Text.isNameStart c = true := by simpa [shown] using starts
          exact absurd (Text.isNameChar_of_isNameStart first)
            (by simp [runs.boundary c (by rw [shown]; rfl)])
      | cons c part => exact ⟨c, part, rfl, by simpa [split] using starts⟩
    · contradiction
  · rintro ⟨start, reads, ⟨⟨c, rest, shape, first⟩, _⟩, runs⟩
    have head : cursor.rest.head? = some c := by rw [reads.rest_eq, shape]; rfl
    rw [if_pos (by simp [head, first])]
    simp only [reads.rest_eq, runs.takeWhile_eq, ← start, ← reads.stop_eq]

theorem assignment?_eq_some_iff : cursor.assignment? = some stop ↔
    cursor.Reads ['='] stop ∧ stop.rest.head? ≠ some '=' := by
  simp only [assignment?, Option.bind_eq_bind, Option.bind_eq_some_iff, literal?_eq_some_iff]
  constructor
  · rintro ⟨after, reads, chosen⟩
    split at chosen
    · contradiction
    · rename_i other
      obtain rfl := Option.some.inj chosen
      exact ⟨reads, other⟩
  · rintro ⟨reads, other⟩
    exact ⟨stop, reads, if_neg other⟩

end Cursor

namespace Recogniser

/-- A function header as written: `def`, a gap, a name, perhaps blanks, and parameters between
parentheses. -/
structure SpellsFunction (written gap label pad inside : Text) : Prop where
  written_eq : written = "def".toList ++ gap ++ label ++ pad ++ ['('] ++ inside ++ [')']
  gap_ne : gap ≠ []
  gap_blank : ∀ c ∈ gap, Text.isBlank c = true
  label_name : label.IsIdentifier
  pad_blank : ∀ c ∈ pad, Text.isBlank c = true
  inside_open : ')' ∉ inside

/-- The assignment of an attribute as written: `self.`, a name, perhaps blanks, an equals sign. -/
structure SpellsAttribute (written label pad : Text) : Prop where
  written_eq : written = "self.".toList ++ label ++ pad ++ ['=']
  label_name : label.IsIdentifier
  pad_blank : ∀ c ∈ pad, Text.isBlank c = true

/-- Blanks and a character that occurs in no identifier end the identifier before them. -/
theorem label_runs {c : Char} (name : label.IsIdentifier) (blank : ∀ d ∈ pad, Text.isBlank d = true)
    (other : Text.isNameChar c = false) (more : Text) :
    Text.Runs Text.isNameChar label (pad ++ c :: more) := by
  refine ⟨name.inside, fun d head => ?_⟩
  cases pad with
  | nil => simpa [← Option.some.inj head] using other
  | cons e pad =>
    obtain rfl := Option.some.inj head
    exact Text.isNameChar_of_isBlank (blank e List.mem_cons_self)

/-- An identifier ends the blanks before it. -/
theorem gap_runs (blank : ∀ c ∈ gap, Text.isBlank c = true) (name : label.IsIdentifier)
    (more : Text) : Text.Runs Text.isBlank gap (label ++ more) := by
  refine ⟨blank, fun c head => Bool.eq_false_iff.mpr fun blank => ?_⟩
  obtain ⟨d, rest, rfl, first⟩ := name.start
  obtain rfl := Option.some.inj head
  have other := Text.isNameChar_of_isBlank blank
  rw [Text.isNameChar_of_isNameStart first] at other
  cases other

/-- Where the parts of a function header lie when it starts at an offset. -/
def functionAt (offset : Nat) (written gap label pad inside : Text) : Occurrence where
  whole := ⟨offset, written⟩
  name := ⟨offset + ("def".toList ++ gap).length, label⟩
  detail := some ⟨offset + ("def".toList ++ gap ++ label ++ pad ++ ['(']).length, inside⟩

/-- Where the parts of an attribute's assignment lie when it starts at an offset. -/
def attributeAt (offset : Nat) (written label : Text) : Occurrence where
  whole := ⟨offset, written⟩
  name := ⟨offset + "self.".toList.length, label⟩
  detail := none

theorem exists_spelled_of_functionHeader (finds : functionHeader cursor = some found) :
    ∃ written gap label pad inside after,
      SpellsFunction written gap label pad inside ∧ cursor.rest = written ++ after ∧
      found = functionAt cursor.offset written gap label pad inside := by
  obtain ⟨_, word, space, name, beyond, opened, stop, keyword, blanks, names, opens, closes, rfl⟩ :=
    functionHeader_eq_some_iff.mp finds
  have wordReads := Cursor.literal?_eq_some_iff.mp keyword
  obtain ⟨gap, gapReads, gap_ne, gapRuns⟩ := Cursor.run?_eq_some_iff.mp blanks
  obtain ⟨starts, nameReads, label_name, _⟩ := Cursor.identifier?_eq_some_iff.mp names
  obtain ⟨pad, padReads, padRuns⟩ := beyond.reads_skip Text.isBlank
  have openReads := Cursor.literal?_eq_some_iff.mp opens
  obtain ⟨inside, insideReads, insideRuns⟩ := opened.reads_skip (· ≠ ')')
  have closeReads := Cursor.literal?_eq_some_iff.mp closes
  have toName := wordReads.trans gapReads
  have toInside := ((toName.trans nameReads).trans padReads).trans openReads
  have whole := (toInside.trans insideReads).trans closeReads
  refine ⟨_, gap, name.text, pad, inside, stop.rest, ⟨rfl, gap_ne, gapRuns.inside, label_name,
    padRuns.inside, fun closing => by simpa using insideRuns.inside _ closing⟩, whole.rest_eq, ?_⟩
  obtain ⟨_, nameText⟩ := name
  obtain rfl := starts.trans toName.offset_eq
  rw [whole.upTo_eq, insideReads.upTo_eq, toInside.offset_eq, functionAt]

theorem functionHeader_of_spelled {written after : Text} (opensWord : cursor.opensWord = true)
    (spells : SpellsFunction written gap label pad inside) (split : cursor.rest = written ++ after) :
    functionHeader cursor = some (functionAt cursor.offset written gap label pad inside) := by
  simp only [spells.written_eq, List.append_assoc, List.cons_append, List.nil_append] at split
  obtain ⟨word, wordReads, left⟩ := Cursor.exists_reads _ split
  obtain ⟨space, gapReads, left⟩ := Cursor.exists_reads _ left
  obtain ⟨beyond, nameReads, atPad⟩ := Cursor.exists_reads _ left
  obtain ⟨_, padReads, atOpen⟩ := Cursor.exists_reads _ atPad
  obtain ⟨opened, openReads, left⟩ := Cursor.exists_reads ['('] atOpen
  obtain ⟨_, insideReads, atClose⟩ := Cursor.exists_reads _ left
  obtain ⟨stop, closeReads, _⟩ := Cursor.exists_reads [')'] atClose
  have padded := padReads.skip_eq (p := Text.isBlank)
    ⟨spells.pad_blank, by rw [atOpen]; simp; decide⟩
  have unclosed : ∀ c ∈ inside, decide (c ≠ ')') = true := fun c member =>
    decide_eq_true fun same => spells.inside_open (same ▸ member)
  have closing := insideReads.skip_eq ⟨unclosed, by simp [atClose]⟩
  have toName := wordReads.trans gapReads
  have toInside := ((toName.trans nameReads).trans padReads).trans openReads
  have whole := (toInside.trans insideReads).trans closeReads
  refine functionHeader_eq_some_iff.mpr ⟨opensWord, word, space, ⟨space.offset, label⟩, beyond,
    opened, stop, Cursor.literal?_eq_some_iff.mpr wordReads,
    Cursor.run?_eq_some_iff.mpr ⟨gap, gapReads, spells.gap_ne, ?_⟩,
    Cursor.identifier?_eq_some_iff.mpr ⟨rfl, nameReads, spells.label_name, ?_⟩, ?_, ?_, ?_⟩
  · rw [nameReads.rest_eq]
    exact gap_runs spells.gap_blank spells.label_name _
  · rw [atPad]
    exact label_runs spells.label_name spells.pad_blank (by decide) _
  · rw [Cursor.blanks, padded]
    exact Cursor.literal?_eq_some_iff.mpr openReads
  · rw [closing]
    exact Cursor.literal?_eq_some_iff.mpr closeReads
  · rw [closing, whole.upTo_eq, insideReads.upTo_eq, toName.offset_eq, toInside.offset_eq,
      ← spells.written_eq, functionAt]

/-- A function header is found exactly where one is written. -/
theorem functionHeader_iff_spelled : functionHeader cursor = some found ↔
    cursor.opensWord = true ∧ ∃ written gap label pad inside after,
      SpellsFunction written gap label pad inside ∧ cursor.rest = written ++ after ∧
      found = functionAt cursor.offset written gap label pad inside := by
  constructor
  · exact fun finds => ⟨(functionHeader_eq_some_iff.mp finds).1, exists_spelled_of_functionHeader finds⟩
  · rintro ⟨opensWord, written, gap, label, pad, inside, after, spells, split, rfl⟩
    exact functionHeader_of_spelled opensWord spells split

/-- An assignment to an attribute is found exactly where one is written and no comparison. -/
theorem attributeAssignment_iff_spelled : attributeAssignment cursor = some found ↔
    cursor.opensWord = true ∧ ∃ written label pad after,
      SpellsAttribute written label pad ∧ cursor.rest = written ++ after ∧
      after.head? ≠ some '=' ∧ found = attributeAt cursor.offset written label := by
  rw [attributeAssignment_eq_some_iff]
  refine and_congr_right fun _ => ?_
  constructor
  · rintro ⟨owner, name, beyond, stop, keyword, names, assigns, rfl⟩
    have ownerReads := Cursor.literal?_eq_some_iff.mp keyword
    obtain ⟨starts, nameReads, label_name, _⟩ := Cursor.identifier?_eq_some_iff.mp names
    obtain ⟨pad, padReads, padRuns⟩ := beyond.reads_skip Text.isBlank
    obtain ⟨equalsReads, other⟩ := Cursor.assignment?_eq_some_iff.mp assigns
    have whole := ((ownerReads.trans nameReads).trans padReads).trans equalsReads
    refine ⟨_, name.text, pad, stop.rest, ⟨rfl, label_name, padRuns.inside⟩, whole.rest_eq, other, ?_⟩
    obtain ⟨_, nameText⟩ := name
    obtain rfl := starts.trans ownerReads.offset_eq
    rw [whole.upTo_eq, attributeAt]
  · rintro ⟨written, label, pad, after, spells, split, other, rfl⟩
    simp only [spells.written_eq, List.append_assoc, List.cons_append, List.nil_append] at split
    obtain ⟨owner, ownerReads, left⟩ := Cursor.exists_reads _ split
    obtain ⟨beyond, nameReads, atPad⟩ := Cursor.exists_reads _ left
    obtain ⟨_, padReads, atEquals⟩ := Cursor.exists_reads _ atPad
    obtain ⟨stop, equalsReads, atAfter⟩ := Cursor.exists_reads ['='] atEquals
    have padded := padReads.skip_eq (p := Text.isBlank)
      ⟨spells.pad_blank, by rw [atEquals]; simp; decide⟩
    have whole := ((ownerReads.trans nameReads).trans padReads).trans equalsReads
    refine ⟨owner, ⟨owner.offset, label⟩, beyond, stop, Cursor.literal?_eq_some_iff.mpr ownerReads,
      Cursor.identifier?_eq_some_iff.mpr ⟨rfl, nameReads, spells.label_name, ?_⟩, ?_, ?_⟩
    · rw [atPad]
      exact label_runs spells.label_name spells.pad_blank (by decide) _
    · rw [Cursor.blanks, padded]
      exact Cursor.assignment?_eq_some_iff.mpr ⟨equalsReads, atAfter ▸ other⟩
    · rw [whole.upTo_eq, ownerReads.offset_eq, ← spells.written_eq, attributeAt]

end Recogniser
end SymbolIndex
