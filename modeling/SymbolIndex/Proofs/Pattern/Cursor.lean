import SymbolIndex.Proofs.Text.NameRun

/-! Cursors of one text, and what each step of a pattern leaves of it: the cursor after a step is a
cursor of the same text, and an identifier read where none runs across from the left is whole. -/
namespace SymbolIndex
variable {text : Text} {cursor stop : Cursor} {name : Capture} {c : Char} {n : Nat}
  {p : Char → Bool}

/-- The character just before an offset. -/
def Text.charBefore (text : Text) : Nat → Option Char
  | 0 => none
  | n + 1 => text[n]?

theorem Text.charBefore_eq (inside : n ≤ text.length) :
    text.charBefore n = (text.take n).getLast? := by
  cases n with
  | zero => rfl
  | succ n =>
    rw [Text.charBefore, List.getLast?_eq_getElem?, List.length_take_of_le inside,
      List.getElem?_take_of_lt (by omega)]
    rfl

namespace Cursor

/-- A cursor that stands in a text: it sees the character before it and everything from it on. -/
structure In (text : Text) (cursor : Cursor) : Prop where
  inside : cursor.offset ≤ text.length
  rest : cursor.rest = text.drop cursor.offset
  before : cursor.before = text.charBefore cursor.offset

/-- No identifier runs across the cursor from the left. -/
def Apart (cursor : Cursor) : Prop := ∀ c, cursor.before = some c → Text.isNameChar c = false

theorem in_start (text : Text) : In text (start text) :=
  ⟨Nat.zero_le _, rfl, rfl⟩

/-- A text has one cursor at each offset. -/
theorem In.ext {other : Cursor} (first : In text cursor) (second : In text other)
    (same : cursor.offset = other.offset) : cursor = other := by
  have rests : cursor.rest = other.rest := by rw [first.rest, second.rest, same]
  have befores : cursor.before = other.before := by rw [first.before, second.before, same]
  cases cursor
  cases other
  simp_all

theorem In.getElem?_rest (place : In text cursor) (i : Nat) :
    cursor.rest[i]? = text[cursor.offset + i]? := by
  rw [place.rest, List.getElem?_drop]

theorem In.length_rest (place : In text cursor) :
    cursor.offset + cursor.rest.length = text.length := by
  have := place.inside
  rw [place.rest, List.length_drop]
  omega

theorem In.next (place : In text cursor) : In text cursor.next := by
  have shown := place.getElem?_rest 0
  have counted := place.length_rest
  obtain ⟨offset, before, rest⟩ := cursor
  cases rest with
  | nil => exact place
  | cons d rest =>
    refine ⟨?_, ?_, ?_⟩
    · simp only [Cursor.next, List.length_cons] at counted ⊢
      omega
    · have tail := congrArg List.tail place.rest
      simpa [Cursor.next] using tail
    · simpa [Cursor.next, Text.charBefore] using shown

theorem In.advance (place : In text cursor) (n : Nat) : In text (cursor.advance n) := by
  induction n generalizing cursor with
  | zero => exact place
  | succ n ih => exact ih place.next

theorem offset_advance (enough : n ≤ cursor.rest.length) :
    (cursor.advance n).offset = cursor.offset + n := by
  induction n generalizing cursor with
  | zero => rfl
  | succ n ih =>
    obtain ⟨offset, before, rest⟩ := cursor
    cases rest with
    | nil => simp at enough
    | cons d rest =>
      simp only [List.length_cons, Nat.add_le_add_iff_right] at enough
      rw [Cursor.advance, ih (by simpa [Cursor.next] using enough)]
      simp only [Cursor.next]
      omega

/-- A text has a cursor at each of its offsets. -/
theorem exists_in (inside : n ≤ text.length) : ∃ cursor, In text cursor ∧ cursor.offset = n :=
  ⟨(start text).advance n, (in_start text).advance n, by
    rw [offset_advance (by simpa [start] using inside)]
    exact Nat.zero_add n⟩

theorem In.skip (place : In text cursor) (p : Char → Bool) : In text (cursor.skip p) :=
  place.advance _

theorem offset_skip (cursor : Cursor) (p : Char → Bool) :
    (cursor.skip p).offset = cursor.offset + (cursor.rest.takeWhile p).length :=
  offset_advance (List.takeWhile_prefix p).length_le

/-- The character before a cursor that moved on is the last one it moved past. -/
theorem In.before_eq (place : In text cursor) (moved : cursor.offset = n + 1) :
    cursor.before = text[n]? := by
  rw [place.before, moved, Text.charBefore]

/-- Past characters that occur in no identifier, nothing runs across from the left. -/
theorem In.apart_skip (place : In text cursor) (apart : cursor.Apart)
    (other : ∀ c, p c = true → Text.isNameChar c = false) : (cursor.skip p).Apart := by
  intro c seen
  have moved := offset_skip cursor p
  rcases Nat.eq_zero_or_pos (cursor.rest.takeWhile p).length with none | some
  · refine apart c ?_
    rw [none] at moved
    rwa [(place.skip p).ext place moved] at seen
  · obtain ⟨m, length⟩ := Nat.exists_eq_add_one.mpr some
    have small : m < (cursor.rest.takeWhile p).length := by omega
    rw [(place.skip p).before_eq (n := cursor.offset + m) (by omega), ← place.getElem?_rest,
      ← Text.getElem?_takeWhile small, List.getElem?_eq_getElem small] at seen
    have member := List.getElem_mem small
    rw [Option.some.inj seen] at member
    exact other c (List.all_eq_true.mp List.all_takeWhile c member)

theorem In.blanks (place : In text cursor) : In text cursor.blanks := place.skip _

theorem In.apart_blanks (place : In text cursor) (apart : cursor.Apart) : cursor.blanks.Apart :=
  place.apart_skip apart fun _ => Text.isNameChar_of_isBlank

/-- A run that may not be empty moves the cursor. -/
theorem In.run? (place : In text cursor) (read : cursor.run? p = some stop) :
    In text stop ∧ cursor.offset < stop.offset ∧ stop = cursor.skip p := by
  unfold Cursor.run? at read
  split at read
  · rename_i starts
    obtain rfl := Option.some.inj read
    refine ⟨place.skip p, ?_, rfl⟩
    rw [offset_skip]
    cases rest : cursor.rest with
    | nil => simp [rest] at starts
    | cons d more =>
      have holds : p d = true := by simpa [rest] using starts
      simp [holds]
  · contradiction

theorem In.someBlanks? (place : In text cursor) (read : cursor.someBlanks? = some stop) :
    In text stop ∧ cursor.offset < stop.offset ∧ stop.Apart := by
  have run : cursor.run? Text.isBlank = some stop := read
  obtain ⟨placed, moved, rfl⟩ := place.run? run
  refine ⟨placed, moved, ?_⟩
  intro c seen
  have length := offset_skip cursor Text.isBlank
  obtain ⟨m, last⟩ : ∃ m, (cursor.rest.takeWhile Text.isBlank).length = m + 1 :=
    Nat.exists_eq_add_one.mpr (by omega)
  have small : m < (cursor.rest.takeWhile Text.isBlank).length := by omega
  rw [placed.before_eq (n := cursor.offset + m) (by omega), ← place.getElem?_rest,
    ← Text.getElem?_takeWhile small, List.getElem?_eq_getElem small] at seen
  have member := List.getElem_mem small
  rw [Option.some.inj seen] at member
  exact Text.isNameChar_of_isBlank (List.all_eq_true.mp List.all_takeWhile c member)

/-- A fixed text that was read stands right before the cursor. -/
theorem In.literal? {expected : Text} (place : In text cursor)
    (read : cursor.literal? expected = some stop) :
    In text stop ∧ stop.offset = cursor.offset + expected.length ∧
      expected <+: text.drop cursor.offset := by
  unfold Cursor.literal? at read
  split at read
  · rename_i starts
    have here : expected <+: cursor.rest := List.isPrefixOf_iff_prefix.mp starts
    obtain rfl := Option.some.inj read
    exact ⟨place.advance _, offset_advance here.length_le, place.rest ▸ here⟩
  · contradiction

/-- After a fixed text whose last character occurs in no identifier, nothing runs across. -/
theorem In.apart_literal? (place : In text cursor) (expected : Text)
    (read : cursor.literal? (expected ++ [c]) = some stop) (other : Text.isNameChar c = false) :
    stop.Apart := by
  obtain ⟨placed, moved, here⟩ := place.literal? read
  intro d seen
  obtain ⟨after, split⟩ := here
  rw [placed.before_eq (n := cursor.offset + expected.length) (by simp [moved]; omega),
    ← List.getElem?_drop, ← split] at seen
  have same : c = d := by simpa using seen
  exact same ▸ other

/-- An identifier is read up to its end, and wholly where nothing runs across from the left. -/
theorem In.identifier? (place : In text cursor) (read : cursor.identifier? = some (name, stop)) :
    In text stop ∧ name.start = cursor.offset ∧ stop.offset = name.stop ∧
      (cursor.Apart → IsNameRun text name) := by
  unfold Cursor.identifier? at read
  split at read
  · rename_i starts
    obtain ⟨rfl, rfl⟩ := Prod.mk.inj (Option.some.inj read)
    have fits := (List.takeWhile_prefix (l := cursor.rest) Text.isNameChar).length_le
    refine ⟨place.advance _, rfl, offset_advance fits, fun apart => ⟨?_, ?_, ?_, ?_, ?_⟩⟩
    · cases rest : cursor.rest with
      | nil => simp [rest] at starts
      | cons d more =>
        have first : Text.isNameStart d = true := by simpa [rest] using starts
        simp [Text.isNameChar_of_isNameStart first]
    · rw [Text.slice, ← place.rest, Capture.stop, Nat.add_sub_cancel_left]
      exact (List.prefix_iff_eq_take.mp (List.takeWhile_prefix _)).symm
    · exact List.all_eq_true.mp List.all_takeWhile
    · intro d positive seen
      refine apart d ?_
      rwa [place.before_eq (n := cursor.offset - 1) (Nat.sub_add_cancel positive).symm]
    · intro d seen
      rw [Capture.stop, ← place.getElem?_rest] at seen
      exact Text.stop_takeWhile seen
  · contradiction

theorem apart_of_opensLine (opens : cursor.opensLine = true) : cursor.Apart := by
  intro c seen
  have newline : c = '\n' := by simpa [opensLine, seen] using opens
  exact newline ▸ Text.isNameChar_newline

/-- The stretch up to a later cursor is the slice of the text between them. -/
theorem In.upTo (place : In text cursor) (stop : Cursor) :
    cursor.upTo stop = ⟨cursor.offset, text.slice cursor.offset stop.offset⟩ := by
  rw [Cursor.upTo, place.rest, Text.slice]

theorem In.stop_upTo (place : In text cursor) (placed : In text stop)
    (later : cursor.offset ≤ stop.offset) : (cursor.upTo stop).stop = stop.offset := by
  have := placed.inside
  rw [place.upTo, Capture.stop, Text.slice]
  simp only [List.length_take, List.length_drop]
  omega

end Cursor
end SymbolIndex
