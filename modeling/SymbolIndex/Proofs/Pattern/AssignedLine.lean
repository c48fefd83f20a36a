import Mathlib.Data.List.Forall2
import Mathlib.Data.List.Sort
import SymbolIndex.Proofs.Pattern.Grounded
import SymbolIndex.Proofs.Pattern.Spelling

/-! Lines that open with an assignment, and what a search for assignments finds of them. A find may
start on blank lines above its name, and its equals sign may stand on a line below; still each line
that opens with an assignment has a find of its own, and nothing else is found. -/
namespace SymbolIndex
variable {text u v written indent label pad after : Text} {cursor : Cursor} {found : Occurrence}
  {name other : Capture} {line next n i : Nat} {p : Char → Bool}

namespace Text

/-- All characters between two offsets are there and satisfy a test. -/
def Filled (text : Text) (p : Char → Bool) (start stop : Nat) : Prop :=
  ∀ i, start ≤ i → i < stop → ∃ c, text[i]? = some c ∧ p c = true

theorem filled_of_drop (split : text.drop n = u ++ v) (all : ∀ c ∈ u, p c = true) :
    text.Filled p n (n + u.length) := by
  intro i low high
  have small : i - n < u.length := by omega
  have seen : (u ++ v)[i - n]? = some u[i - n] := by
    rw [List.getElem?_append_left small, List.getElem?_eq_getElem small]
  rw [← split, List.getElem?_drop, Nat.add_sub_cancel' low] at seen
  exact ⟨_, seen, all _ (List.getElem_mem small)⟩

theorem drop_behind (split : text.drop n = u ++ v) : text.drop (n + u.length) = v := by
  rw [← List.drop_drop, split, List.drop_left]

end Text

namespace Recogniser

/-- The assignment to a name as written: blanks, a name, perhaps blanks, an equals sign. -/
structure SpellsVariable (written indent label pad : Text) : Prop where
  written_eq : written = indent ++ label ++ pad ++ ['=']
  indent_blank : ∀ c ∈ indent, Text.isBlank c = true
  label_name : label.IsIdentifier
  pad_blank : ∀ c ∈ pad, Text.isBlank c = true

/-- Where the parts of an assignment lie when its blanks start at an offset. -/
def variableAt (offset : Nat) (written indent label : Text) : Occurrence where
  whole := ⟨offset, written⟩
  name := ⟨offset + indent.length, label⟩
  detail := none

/-- An assignment is found exactly at line starts where one is written and no comparison. -/
theorem variableAssignment_iff_spelled : variableAssignment cursor = some found ↔
    cursor.opensLine = true ∧ ∃ written indent label pad after,
      SpellsVariable written indent label pad ∧ cursor.rest = written ++ after ∧
      after.head? ≠ some '=' ∧ found = variableAt cursor.offset written indent label := by
  rw [variableAssignment_eq_some_iff]
  refine and_congr_right fun _ => ?_
  constructor
  · rintro ⟨name, beyond, stop, names, assigns, rfl⟩
    obtain ⟨indent, indentReads, indentRuns⟩ := cursor.reads_skip Text.isBlank
    obtain ⟨starts, nameReads, label_name, _⟩ := Cursor.identifier?_eq_some_iff.mp names
    obtain ⟨pad, padReads, padRuns⟩ := beyond.reads_skip Text.isBlank
    obtain ⟨equalsReads, other⟩ := Cursor.assignment?_eq_some_iff.mp assigns
    have whole := ((indentReads.trans nameReads).trans padReads).trans equalsReads
    refine ⟨_, indent, name.text, pad, stop.rest,
      ⟨rfl, indentRuns.inside, label_name, padRuns.inside⟩, whole.rest_eq, other, ?_⟩
    obtain ⟨_, nameText⟩ := name
    obtain rfl := starts.trans indentReads.offset_eq
    rw [whole.upTo_eq, variableAt]
  · rintro ⟨written, indent, label, pad, after, spells, split, other, rfl⟩
    simp only [spells.written_eq, List.append_assoc, List.cons_append, List.nil_append] at split
    obtain ⟨opened, indentReads, left⟩ := Cursor.exists_reads _ split
    obtain ⟨beyond, nameReads, atPad⟩ := Cursor.exists_reads _ left
    obtain ⟨_, padReads, atEquals⟩ := Cursor.exists_reads _ atPad
    obtain ⟨stop, equalsReads, atAfter⟩ := Cursor.exists_reads ['='] atEquals
    have indented : cursor.blanks = opened :=
      indentReads.skip_eq (by rw [left]; exact gap_runs spells.indent_blank spells.label_name _)
    have padded := padReads.skip_eq (p := Text.isBlank)
      ⟨spells.pad_blank, by rw [atEquals]; simp; decide⟩
    have whole := ((indentReads.trans nameReads).trans padReads).trans equalsReads
    refine ⟨⟨opened.offset, label⟩, beyond, stop, ?_, ?_, ?_⟩
    · rw [indented]
      refine Cursor.identifier?_eq_some_iff.mpr ⟨rfl, nameReads, spells.label_name, ?_⟩
      rw [atPad]
      exact label_runs spells.label_name spells.pad_blank (by decide) _
    · rw [Cursor.blanks, padded]
      exact Cursor.assignment?_eq_some_iff.mpr ⟨equalsReads, atAfter ▸ other⟩
    · rw [whole.upTo_eq, indentReads.offset_eq, ← spells.written_eq, variableAt]

end Recogniser

/-- The line that starts at an offset opens with the assignment to a name: blanks, the name,
perhaps blanks that may run over further lines, and an equals sign that begins no comparison. -/
structure Text.AssignsAt (text : Text) (line : Nat) (name : Capture) : Prop where
  started : line ∈ text.lineStarts
  spelled : ∃ written indent pad after,
    Recogniser.SpellsVariable written indent name.text pad ∧ text.drop line = written ++ after ∧
    after.head? ≠ some '=' ∧ '\n' ∉ indent ∧ name.start = line + indent.length

/-- Offsets of the parts of an assignment: blanks, a name, blanks, and the equals sign. -/
structure Text.Parts (text : Text) (start name pad sign : Nat) : Prop where
  indented : start ≤ name
  content : name < pad
  padded : pad ≤ sign
  indent_blank : text.Filled isBlank start name
  label_name : text.Filled isNameChar name pad
  pad_blank : text.Filled isBlank pad sign
  sign_eq : text[sign]? = some '='

namespace Text

theorem parts_of_spelled (spells : Recogniser.SpellsVariable written indent label pad)
    (split : text.drop n = written ++ after) :
    text.Parts n (n + indent.length) (n + indent.length + label.length)
      (n + indent.length + label.length + pad.length) := by
  simp only [spells.written_eq, List.append_assoc, List.cons_append, List.nil_append] at split
  have atName := drop_behind split
  have atPad := drop_behind atName
  have atSign := drop_behind atPad
  have content : 0 < label.length := by
    obtain ⟨c, rest, rfl, _⟩ := spells.label_name.start
    simp
  refine ⟨by omega, by omega, by omega, filled_of_drop split spells.indent_blank,
    filled_of_drop atName spells.label_name.inside, filled_of_drop atPad spells.pad_blank, ?_⟩
  rw [← Nat.add_zero (n + _ + _ + _), ← List.getElem?_drop, atSign]
  rfl

theorem Filled.not_within {start stop : Nat} {c : Char} (filled : text.Filled p start stop)
    (seen : text[i]? = some c) (other : p c = false) : ¬ (start ≤ i ∧ i < stop) := by
  rintro ⟨low, high⟩
  obtain ⟨d, same, holds⟩ := filled i low high
  obtain rfl := Option.some.inj (seen.symm.trans same)
  simp [other] at holds

/-- No offset lies between blanks and in a name. -/
theorem Filled.apart {start stop first last : Nat} (blanks : text.Filled isBlank start stop)
    (label : text.Filled isNameChar first last) (i : Nat) :
    ¬ ((start ≤ i ∧ i < stop) ∧ first ≤ i ∧ i < last) := by
  rintro ⟨⟨low, high⟩, inName⟩
  obtain ⟨c, seen, blank⟩ := blanks i low high
  exact label.not_within seen (isNameChar_of_isBlank blank) inName

/-- An assignment that starts on a later line of an assignment, or where it does, has its name. -/
theorem Parts.name_eq {start first pad sign start' first' pad' sign' : Nat}
    (parts : text.Parts start first pad sign) (more : text.Parts start' first' pad' sign')
    (late : start ≤ start') (early : start' ≤ sign)
    (opens : start' = start ∨ text[start' - 1]? = some '\n') : first = first' := by
  have indented := more.indented
  have content := more.content
  have own := parts.indented
  have padded := parts.padded
  have kept := parts.content
  rcases Nat.lt_or_ge first start' with behind | ahead
  · -- the line starts behind the name, so only blanks are left before the equals sign
    have newline : text[start' - 1]? = some '\n' := opens.resolve_left (by omega)
    have broken := parts.label_name.not_within newline (by decide)
    have gap := parts.pad_blank.apart more.label_name first'
    have inIndent := more.indent_blank.not_within parts.sign_eq (by decide)
    have inName := more.label_name.not_within parts.sign_eq (by decide)
    omega
  · have sooner := parts.indent_blank.apart more.label_name first'
    have later := more.indent_blank.apart parts.label_name first
    omega

/-- Where the name of a line lies, as parts of the text. -/
theorem AssignsAt.parts (assigns : text.AssignsAt line name) :
    ∃ sign, text.Parts line name.start name.stop sign := by
  obtain ⟨written, indent, pad, after, spells, split, _, _, start⟩ := assigns.spelled
  rw [Capture.stop, start]
  exact ⟨_, parts_of_spelled spells split⟩

/-- The name of a line stands before every later line. -/
theorem AssignsAt.start_lt (assigns : text.AssignsAt line name) (started : next ∈ text.lineStarts)
    (later : line < next) : name.start < next := by
  obtain ⟨written, indent, pad, after, spells, split, _, unbroken, start⟩ := assigns.spelled
  apply Nat.lt_of_not_le
  intro early
  obtain ⟨n, rfl⟩ := Nat.exists_eq_add_one_of_ne_zero (Nat.ne_zero_of_lt later)
  have newline := succ_mem_lineStarts.mp started
  simp only [spells.written_eq, List.append_assoc] at split
  have kept : ∀ c ∈ indent, decide (c ≠ '\n') = true := fun c member =>
    decide_eq_true fun same => unbroken (same ▸ member)
  have filled := filled_of_drop split kept
  exact filled.not_within newline (by decide) (by omega)

/-- A line opens with one name. -/
theorem AssignsAt.name_unique (assigns : text.AssignsAt line name)
    (also : text.AssignsAt line other) : name.start = other.start := by
  obtain ⟨sign, parts⟩ := assigns.parts
  obtain ⟨_, more⟩ := also.parts
  have := parts.indented
  have := parts.content
  have := parts.padded
  exact parts.name_eq more (Nat.le_refl line) (by omega) (Or.inl rfl)

/-- The names of two lines follow one another as the lines do. -/
theorem AssignsAt.lt_iff (assigns : text.AssignsAt line name) (also : text.AssignsAt next other) :
    line < next ↔ name.start < other.start := by
  have first := assigns.start_lt also.started
  have second := also.start_lt assigns.started
  obtain ⟨_, parts⟩ := assigns.parts
  obtain ⟨_, more⟩ := also.parts
  have := parts.indented
  have := more.indented
  rcases Nat.lt_trichotomy line next with less | rfl | greater
  · omega
  · have := assigns.name_unique also
    omega
  · omega

end Text

namespace Recogniser

theorem opensLine_iff (place : Cursor.In text cursor) :
    cursor.opensLine = true ↔ cursor.offset ∈ text.lineStarts := by
  rw [Text.mem_lineStarts_iff, Text.EndsLine, ← Text.charBefore_eq place.inside, ← place.before,
    Cursor.opensLine]
  cases cursor.before <;> simp [place.inside]

/-- What is found is what a line opens with, from the cursor or from a line below it on. -/
theorem exists_line_of_find (place : Cursor.In text cursor)
    (finds : variableAssignment cursor = some found) :
    ∃ line, text.AssignsAt line found.name := by
  obtain ⟨opens, written, indent, label, pad, after, spells, split, other, rfl⟩ :=
    variableAssignment_iff_spelled.mp finds
  -- the line of the name starts behind the last newline among the blanks
  obtain ⟨above, own, rfl, ends, unbroken⟩ := Text.exists_lastLine indent
  have shape := spells.written_eq
  have atLine : text.drop (cursor.offset + above.length) =
      own ++ label ++ pad ++ ['='] ++ after := by
    refine Text.drop_behind ?_
    rw [← place.rest, split, shape]
    simp
  refine ⟨cursor.offset + above.length, Text.mem_lineStarts_iff.mpr ⟨?_, ?_⟩, _, own, pad, after,
    ⟨rfl, fun c member => spells.indent_blank c (List.mem_append_right above member),
      spells.label_name, spells.pad_blank⟩, atLine, other, unbroken, ?_⟩
  · have length := congrArg List.length split
    have counted := place.length_rest
    simp only [shape, List.length_append] at length
    omega
  · have started := (Text.mem_lineStarts_iff.mp ((opensLine_iff place).mp opens)).2
    have front : (text.drop cursor.offset).take above.length = above := by
      rw [← place.rest, split, shape]
      simp
    rw [List.take_add, front]
    exact started.append ends
  · simp only [variableAt, List.length_append]
    omega

/-- A line that opens with an assignment can be found from its start. -/
theorem exists_find_of_line (assigns : text.AssignsAt line name) :
    ∃ cursor found, Cursor.In text cursor ∧ cursor.offset = line ∧
      variableAssignment cursor = some found ∧ found.name = name := by
  obtain ⟨written, indent, pad, after, spells, split, other, _, start⟩ := assigns.spelled
  obtain ⟨cursor, place, rfl⟩ := Cursor.exists_in (Text.mem_lineStarts_iff.mp assigns.started).1
  refine ⟨cursor, _, place, rfl, variableAssignment_iff_spelled.mpr
    ⟨(opensLine_iff place).mpr assigns.started, written, indent, name.text, pad, after, spells, ?_,
      other, rfl⟩, ?_⟩
  · rw [place.rest, split]
  · rw [variableAt, ← start]

theorem parts_of_find (place : Cursor.In text cursor) (finds : variableAssignment cursor = some found) :
    ∃ sign, text.Parts cursor.offset found.name.start found.name.stop sign ∧
      found.whole.stop = sign + 1 := by
  obtain ⟨_, written, indent, label, pad, after, spells, split, _, rfl⟩ :=
    variableAssignment_iff_spelled.mp finds
  rw [place.rest] at split
  refine ⟨_, Text.parts_of_spelled spells split, ?_⟩
  simp only [variableAt, Capture.stop, spells.written_eq, List.length_append, List.length_singleton]
  omega

end Recogniser

namespace Text.AssignsAt

theorem whole (assigns : text.AssignsAt line name) : IsNameRun text name := by
  obtain ⟨cursor, found, place, _, finds, rfl⟩ := Recogniser.exists_find_of_line assigns
  exact Recogniser.variableAssignment_name place finds

/-- Names of lines that start at one offset are one name. -/
theorem name_eq (assigns : text.AssignsAt line name) (also : text.AssignsAt next other)
    (same : name.start = other.start) : name = other := by
  have content := assigns.whole.start_lt_stop
  have more := also.whole.start_lt_stop
  exact assigns.whole.unique also.whole (k := name.start) ⟨Nat.le_refl _, by omega⟩ (by omega)

/-- The search of the text finds the name of every line: a find that runs across the start of the
line has that name itself. -/
theorem exists_occurrence (assigns : text.AssignsAt line name) :
    ∃ found ∈ Pattern.variableAssignment.occurrences text, found.name = name := by
  obtain ⟨cursor, found, place, rfl, finds, rfl⟩ := Recogniser.exists_find_of_line assigns
  have grounded := Recogniser.variableAssignment_covers.grounded
  obtain ⟨kept, listed, _, early, across⟩ := Recogniser.occurrences_complete grounded place finds
  obtain ⟨outer, seen, also⟩ := Recogniser.mem_occurrences listed
  obtain ⟨_, parts⟩ := assigns.parts
  obtain ⟨sign, around, stop⟩ := Recogniser.parts_of_find seen also
  rw [grounded.start seen also] at early
  have opens : cursor.offset = outer.offset ∨ text[cursor.offset - 1]? = some '\n' := by
    cases start : cursor.offset with
    | zero => exact Or.inl (by omega)
    | succ n => exact Or.inr (succ_mem_lineStarts.mp (start ▸ assigns.started))
  have same := around.name_eq parts early (by omega) opens
  obtain ⟨_, named⟩ := Recogniser.exists_line_of_find seen also
  exact ⟨kept, listed, named.name_eq assigns same⟩

end Text.AssignsAt

/-- Names that lines open with, each the name of one line, in the order of the lines. -/
structure Text.AssignedLines (text : Text) (lines : List Nat) (names : List Capture) : Prop where
  listed : lines.Sublist text.lineStarts
  each : List.Forall₂ text.AssignsAt lines names
  complete : ∀ line name, text.AssignsAt line name → line ∈ lines
  whole : ∀ name ∈ names, IsNameRun text name

/-- Rising names that lines open with, none left out, come line by line. -/
theorem Text.exists_assignedLines {names : List Capture}
    (rising : names.Pairwise fun a b => a.start < b.start)
    (named : ∀ name ∈ names, ∃ line, text.AssignsAt line name)
    (all : ∀ line name, text.AssignsAt line name → name ∈ names) :
    ∃ lines, text.AssignedLines lines names := by
  choose! lineOf assigns using named
  have ordered : (names.map lineOf).Pairwise (· < ·) := by
    refine List.pairwise_map.mpr (rising.imp_of_mem fun {a b} first second before => ?_)
    exact ((assigns a first).lt_iff (assigns b second)).mpr before
  have started : names.map lineOf ⊆ text.lineStarts := by
    intro line member
    obtain ⟨name, listed, rfl⟩ := List.mem_map.mp member
    exact (assigns name listed).started
  refine ⟨names.map lineOf, ?_, ?_, ?_, fun name member => (assigns name member).whole⟩
  · exact List.sublist_of_subperm_of_pairwise (List.subperm_of_subset ordered.nodup started) ordered
      (LineIndex.lineStarts_increasing text)
  · exact List.forall₂_map_left_iff.mpr (List.forall₂_same.mpr assigns)
  · intro line name assigned
    have listed := all line name assigned
    have less := (assigns name listed).lt_iff assigned
    have more := assigned.lt_iff (assigns name listed)
    have same : lineOf name = line := by omega
    exact same ▸ List.mem_map_of_mem listed

/-- What the search for assignments captures comes line by line. -/
theorem Pattern.variableAssignment_lines (text : Text) : ∃ lines, text.AssignedLines lines
    ((Pattern.variableAssignment.occurrences text).map (·.name)) := by
  refine Text.exists_assignedLines ?_ ?_ ?_
  · exact List.pairwise_map.mpr (Recogniser.variableAssignment_captures.rising text)
  · intro name member
    obtain ⟨found, listed, rfl⟩ := List.mem_map.mp member
    obtain ⟨cursor, place, finds⟩ := Recogniser.mem_occurrences listed
    exact Recogniser.exists_line_of_find place finds
  · exact fun line name assigns => List.mem_map.mpr assigns.exists_occurrence

end SymbolIndex
