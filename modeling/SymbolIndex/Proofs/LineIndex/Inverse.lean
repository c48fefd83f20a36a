import SymbolIndex.Proofs.Text.NameRun

/-! Offsets and positions of a text are inverse to each other: every offset has one position, every
place of a line one offset, and later offsets have later positions. -/
namespace SymbolIndex.LineIndex
variable {text row : Text} {k l s t n first second : Nat}

/-- A row holds what is from the start of its line up to the next newline. -/
theorem started_of_row (numbered : text.splitLines[k]? = some row) :
    ∃ s, text.lineStarts[k]? = some s ∧ row = (text.drop s).takeWhile (· ≠ '\n') := by
  rw [splitLines_eq text 0, List.getElem?_map, Option.map_eq_some_iff] at numbered
  obtain ⟨s, started, same⟩ := numbered
  exact ⟨s, started, same.symm⟩

/-- The offsets of a row, and the one just after it, are in the text and on its line. -/
theorem onLine_of_row (started : text.lineStarts[k]? = some s)
    (reach : n ≤ ((text.drop s).takeWhile (· ≠ '\n')).length) :
    OnLine text (s + n) k s ∧ s + n ≤ text.length := by
  constructor
  · refine ⟨started, Nat.le_add_right s n, fun i late early newline => ?_⟩
    have small : i - s < ((text.drop s).takeWhile (· ≠ '\n')).length := by omega
    have seen := Text.getElem?_takeWhile small
    rw [List.getElem?_drop, Nat.add_sub_cancel' late, newline] at seen
    have other := List.all_eq_true.mp List.all_takeWhile _ (List.mem_of_getElem? seen)
    simp at other
  · have start := Text.le_length_of_mem_lineStarts (List.mem_of_getElem? started)
    have longest := (List.takeWhile_prefix (l := text.drop s) (· ≠ '\n')).length_le
    rw [List.length_drop] at longest
    omega

/-- Later lines start later. -/
theorem lineNumber_lt (started : text.lineStarts[k]? = some s) (later : text.lineStarts[l]? = some t)
    (before : s < t) : k < l := by
  obtain ⟨kBound, rfl⟩ := List.getElem?_eq_some_iff.mp started
  obtain ⟨lBound, rfl⟩ := List.getElem?_eq_some_iff.mp later
  refine Nat.lt_of_not_le fun reversed => ?_
  rcases Nat.lt_or_eq_of_le reversed with less | rfl
  · have := List.pairwise_iff_getElem.mp (lineStarts_increasing text) l k lBound kBound less
    omega
  · omega

/-- Positions are read in the order of the offsets they stand for. -/
theorem lineColumn_lt (before : first < second) (inside : second ≤ text.length) :
    Prod.Lex (· < ·) (· < ·) ((ofText text).lineColumn first) ((ofText text).lineColumn second) := by
  obtain ⟨k, s, place, position⟩ := lineColumn_eq (show first ≤ text.length by omega)
  obtain ⟨l, t, later, next⟩ := lineColumn_eq inside
  rw [position, next]
  have reached := place.reached
  have order : s ≤ t := later.start_le (List.mem_of_getElem? place.started) (by omega)
  rcases Nat.lt_or_eq_of_le order with below | rfl
  · exact .left _ _ (Nat.succ_lt_succ (lineNumber_lt place.started later.started below))
  · have same : k = l := (OnLine.unique ⟨place.started, by omega, later.unbroken⟩ later).1
    subst same
    exact .right _ (by omega)

/-- A line number counts the newlines before, a column the characters since the last of them. -/
theorem lineColumn_spec (inside : n ≤ text.length) :
    (ofText text).lineColumn n = (1 + (text.take n).count '\n', n - text.lineStart n + 1) := by
  obtain ⟨above, line, rest, place⟩ := Text.exists_inLine inside
  have counted : (text.take n).count '\n' = above.count '\n' := by
    rw [place.take_eq, List.count_append, List.count_eq_zero.mpr place.unbroken, Nat.add_zero]
  have column : n - text.lineStart n = line.length := by
    rw [place.lineStart_eq, place.offset_eq, Nat.add_sub_cancel_left]
  rw [lineColumn_inLine place, counted, column, Nat.add_comm]

theorem offset_lineColumn (inside : n ≤ text.length) :
    (ofText text).offset ((ofText text).lineColumn n).1 ((ofText text).lineColumn n).2 = n := by
  obtain ⟨k, s, place, position⟩ := lineColumn_eq inside
  rw [position]
  exact offset_of_onLine place inside

/-- In a row, and just after it, columns count on from its start. -/
theorem lineColumn_offset (numbered : text.splitLines[k]? = some row) (reach : n ≤ row.length) :
    (ofText text).lineColumn ((ofText text).offset (k + 1 : Nat) (n + 1 : Nat)) = (k + 1, n + 1) := by
  obtain ⟨s, started, rfl⟩ := started_of_row numbered
  obtain ⟨place, inside⟩ := onLine_of_row started reach
  have there := offset_of_onLine place inside
  rw [Nat.add_sub_cancel_left] at there
  obtain ⟨l, t, also, position⟩ := lineColumn_eq inside
  obtain ⟨rfl, rfl⟩ := place.unique also
  rw [there, position, Nat.add_sub_cancel_left]

theorem offset_le_length (text : Text) (line column : Int) :
    (ofText text).offset line column ≤ text.length := by
  rw [LineIndex.offset]
  split
  · exact Nat.zero_le _
  split
  · exact Nat.le_refl _
  · exact Nat.min_le_right _ _

/-- An offset outside the text counts as the nearest end. -/
theorem lineColumn_clamped {offset : Int} (nearest : (n : Int) = max 0 (min offset text.length)) :
    n ≤ text.length ∧ (ofText text).lineColumn offset = (ofText text).lineColumn n := by
  have inside : n ≤ text.length := by omega
  have same : (ofText text).clamp offset = (ofText text).clamp n := by
    simp only [clamp, ofText]
    omega
  exact ⟨inside, by rw [lineColumn, lineColumn, same]⟩

/-- Offsets and positions of a text are inverse to each other. An offset, or the end of the text that
is nearest to it, has as its position one more than the newlines before it and one more than the
characters since its line started. That position leads back to it, as does every place of a row to
itself, and positions rise with the offsets. No position leads out of the text. -/
structure Inverse (text : Text) : Prop where
  position : ∀ (offset : Int) (nearest : Nat), (nearest : Int) = max 0 (min offset text.length) →
    (ofText text).lineColumn offset =
      (1 + (text.take nearest).count '\n', nearest - text.lineStart nearest + 1)
  offset : ∀ (offset : Int) (nearest : Nat), (nearest : Int) = max 0 (min offset text.length) →
    (ofText text).offset ((ofText text).lineColumn offset).1 ((ofText text).lineColumn offset).2 =
      nearest
  place : ∀ (line column : Nat) (row : Text), 1 ≤ line → text.splitLines[line - 1]? = some row →
    1 ≤ column → column ≤ row.length + 1 →
    (ofText text).lineColumn ((ofText text).offset line column) = (line, column)
  rising : ∀ first second : Nat, first < second → second ≤ text.length →
    Prod.Lex (· < ·) (· < ·) ((ofText text).lineColumn first) ((ofText text).lineColumn second)
  inside : ∀ line column : Int, (ofText text).offset line column ≤ text.length

/-- Every offset has one position and every position in a line one offset, the end of the text included.
-/
theorem positions_invert_offsets (text : Text) : Inverse text where
  position offset nearest clamped := by
    obtain ⟨inside, same⟩ := lineColumn_clamped clamped
    rw [same, lineColumn_spec inside]
  offset offset nearest clamped := by
    obtain ⟨inside, same⟩ := lineColumn_clamped clamped
    rw [same, offset_lineColumn inside]
  place line column row first numbered low high := by
    obtain ⟨k, rfl⟩ := Nat.exists_eq_add_of_le' first
    obtain ⟨n, rfl⟩ := Nat.exists_eq_add_of_le' low
    exact lineColumn_offset numbered (by omega)
  rising first second before inside := lineColumn_lt before inside
  inside line column := offset_le_length text line column

end SymbolIndex.LineIndex
