import SymbolIndex.LineIndex
import SymbolIndex.Proofs.Bisect
import SymbolIndex.Proofs.Text.Lines

/-! Lines of a text: the table of line starts, the pieces between newlines, and the positions that
offsets have in them. -/
namespace SymbolIndex
variable {text line : Text} {k s offset : Nat}

/-- Offsets at which the lines of a text start. -/
def Text.lineStarts (text : Text) : List Nat := 0 :: startsAfterNewlines 0 text

theorem mem_startsAfterNewlines (text : Text) (offset s : Nat) :
    s ∈ startsAfterNewlines offset text ↔ ∃ i, text[i]? = some '\n' ∧ s = offset + i + 1 := by
  induction text generalizing offset with
  | nil => simp [startsAfterNewlines]
  | cons c rest ih =>
    have later : s ∈ startsAfterNewlines (offset + 1) rest ↔
        ∃ i, (c :: rest)[i + 1]? = some '\n' ∧ s = offset + (i + 1) + 1 := by
      simp only [ih, List.getElem?_cons_succ]
      exact exists_congr fun i => and_congr_right fun _ => by omega
    rw [startsAfterNewlines]
    split
    · rename_i newline
      rw [List.mem_cons, later]
      constructor
      · rintro (here | ⟨i, found, same⟩)
        · exact ⟨0, by simp [newline], here⟩
        · exact ⟨i + 1, found, same⟩
      · rintro ⟨i, found, same⟩
        cases i with
        | zero => exact Or.inl same
        | succ i => exact Or.inr ⟨i, found, same⟩
    · rename_i other
      rw [later]
      constructor
      · rintro ⟨i, found, same⟩
        exact ⟨i + 1, found, same⟩
      · rintro ⟨i, found, same⟩
        cases i with
        | zero => exact absurd (by simpa using found) other
        | succ i => exact ⟨i, found, same⟩

/-- Behind the start of the text, lines start behind newlines. -/
theorem Text.succ_mem_lineStarts : s + 1 ∈ text.lineStarts ↔ text[s]? = some '\n' := by
  rw [lineStarts, List.mem_cons, mem_startsAfterNewlines]
  constructor
  · rintro (none | ⟨i, newline, same⟩)
    · omega
    · obtain rfl : s = i := by omega
      exact newline
  · exact fun newline => Or.inr ⟨s, newline, by omega⟩

/-- Lines start where the text before is whole lines. -/
theorem Text.mem_lineStarts_iff :
    s ∈ text.lineStarts ↔ s ≤ text.length ∧ EndsLine (text.take s) := by
  cases s with
  | zero => simp [lineStarts, endsLine_nil]
  | succ s =>
    have last (inside : s < text.length) : (text.take (s + 1)).getLast? = text[s]? := by
      rw [List.getLast?_eq_getElem?, List.length_take_of_le inside,
        List.getElem?_take_of_lt (by omega)]
      rfl
    rw [succ_mem_lineStarts]
    constructor
    · intro newline
      have inside : s < text.length := (List.getElem?_eq_some_iff.mp newline).1
      refine ⟨inside, fun c ends => ?_⟩
      rw [last inside, newline] at ends
      exact (Option.some.inj ends).symm
    · rintro ⟨inside, ends⟩
      rw [List.getElem?_eq_getElem inside, Option.some.injEq]
      refine ends _ ?_
      rw [last inside, List.getElem?_eq_getElem inside]

theorem Text.le_length_of_mem_lineStarts (started : s ∈ text.lineStarts) : s ≤ text.length :=
  (mem_lineStarts_iff.mp started).1

theorem startsAfterNewlines_increasing (text : Text) (offset : Nat) :
    (offset :: startsAfterNewlines offset text).Pairwise (· < ·) := by
  induction text generalizing offset with
  | nil => simp [startsAfterNewlines]
  | cons c rest ih =>
    have rising := List.pairwise_cons.mp (ih (offset + 1))
    rw [startsAfterNewlines]
    split
    · refine List.pairwise_cons.mpr ⟨fun s member => ?_, ih (offset + 1)⟩
      rcases List.mem_cons.mp member with here | later
      · omega
      · have := rising.1 s later
        omega
    · refine List.pairwise_cons.mpr ⟨fun s member => ?_, rising.2⟩
      have := rising.1 s member
      omega

/-- Each piece between newlines runs from its line start to the next newline. -/
theorem splitLines_eq (text : Text) (offset : Nat) :
    text.splitLines = (offset :: startsAfterNewlines offset text).map fun s =>
      (text.drop (s - offset)).takeWhile (· ≠ '\n') := by
  induction text generalizing offset with
  | nil => simp [Text.splitLines, startsAfterNewlines]
  | cons c rest ih =>
    have tail : ((offset + 1) :: startsAfterNewlines (offset + 1) rest).map (fun s =>
          (rest.drop (s - (offset + 1))).takeWhile (· ≠ '\n')) =
        ((offset + 1) :: startsAfterNewlines (offset + 1) rest).map (fun s =>
          ((c :: rest).drop (s - offset)).takeWhile (· ≠ '\n')) := by
      apply List.map_congr_left
      intro s member
      have bound : offset + 1 ≤ s := by
        rcases List.mem_cons.mp member with here | later
        · omega
        · have := (List.pairwise_cons.mp (startsAfterNewlines_increasing rest (offset + 1))).1 s later
          omega
      obtain ⟨d, rfl⟩ : ∃ d, s = offset + 1 + d := ⟨s - (offset + 1), by omega⟩
      have left : offset + 1 + d - (offset + 1) = d := by omega
      have right : offset + 1 + d - offset = d + 1 := by omega
      rw [left, right, List.drop_succ_cons]
    have pieces := (ih (offset + 1)).trans tail
    rw [Text.splitLines, startsAfterNewlines]
    split
    · rename_i newline
      rw [pieces]
      simp [newline]
    · rename_i other
      rw [pieces]
      simp [other]

theorem splitLines_getElem? (started : text.lineStarts[k]? = some s) :
    text.splitLines[k]? = some ((text.drop s).takeWhile (· ≠ '\n')) := by
  rw [splitLines_eq text 0, List.getElem?_map]
  unfold Text.lineStarts at started
  rw [started]
  rfl

namespace LineIndex

theorem starts_getD (bound : k < text.lineStarts.length) :
    (ofText text).starts.getD k 0 = text.lineStarts[k] := by
  change text.lineStarts.toArray.getD k 0 = text.lineStarts[k]
  simp [Array.getD_eq_getD_getElem?, bound]

theorem size_starts (text : Text) : (ofText text).starts.size = text.lineStarts.length := by
  simp [ofText, Text.lineStarts]

theorem lineStarts_increasing (text : Text) : text.lineStarts.Pairwise (· < ·) :=
  startsAfterNewlines_increasing text 0

/-- Each line starts no earlier than its number, counted from zero. -/
theorem le_of_started (started : text.lineStarts[k]? = some s) : k ≤ s := by
  induction k generalizing s with
  | zero => exact Nat.zero_le s
  | succ k ih =>
    obtain ⟨bound, rfl⟩ := List.getElem?_eq_some_iff.mp started
    have earlier := ih (List.getElem?_eq_getElem (Nat.lt_of_succ_lt bound))
    have less := List.pairwise_iff_getElem.mp (lineStarts_increasing text) k (k + 1)
      (Nat.lt_of_succ_lt bound) bound (Nat.lt_succ_self k)
    omega

theorem ascending_starts (text : Text) : Ascending (ofText text).starts := by
  intro i j before bound
  rw [size_starts] at bound
  rw [starts_getD bound, starts_getD (Nat.lt_of_le_of_lt before bound)]
  rcases Nat.lt_or_eq_of_le before with less | same
  · exact Nat.le_of_lt (List.pairwise_iff_getElem.mp (lineStarts_increasing text) i j _ bound less)
  · subst same
    exact Nat.le_refl _

/-- The line that holds an offset: the `k`-th one, which starts at `s`, with no newline between. -/
structure OnLine (text : Text) (offset k s : Nat) : Prop where
  started : text.lineStarts[k]? = some s
  reached : s ≤ offset
  unbroken : ∀ i, s ≤ i → i < offset → text[i]? ≠ some '\n'

/-- The line of an offset starts no earlier than any line that starts at the offset or before. -/
theorem OnLine.start_le {next : Nat} (place : OnLine text offset k s)
    (started : next ∈ text.lineStarts) (reached : next ≤ offset) : next ≤ s := by
  apply Nat.le_of_not_lt
  intro later
  obtain ⟨n, rfl⟩ := Nat.exists_eq_add_one_of_ne_zero (Nat.ne_zero_of_lt later)
  exact place.unbroken n (by omega) (by omega) (Text.succ_mem_lineStarts.mp started)

/-- An offset is on one line. -/
theorem OnLine.unique {l t : Nat} (place : OnLine text offset k s) (also : OnLine text offset l t) :
    k = l ∧ s = t := by
  have same : s = t := Nat.le_antisymm
    (also.start_le (List.mem_of_getElem? place.started) place.reached)
    (place.start_le (List.mem_of_getElem? also.started) also.reached)
  subst same
  have distinct : text.lineStarts.Nodup := (lineStarts_increasing text).imp Nat.ne_of_lt
  have bound := (List.getElem?_eq_some_iff.mp place.started).1
  exact ⟨(List.getElem?_inj bound distinct).mp (place.started.trans also.started.symm), rfl⟩

/-- Positions count from the start of the line that holds the offset. -/
theorem lineColumn_eq (inside : offset ≤ text.length) :
    ∃ k s, OnLine text offset k s ∧ (ofText text).lineColumn offset = (k + 1, offset - s + 1) := by
  have cut := countUpTo_cutAt (ascending_starts text) (offset : Int)
  have clamped : (ofText text).clamp offset = offset := by
    simp only [clamp, Int.toNat_natCast, ofText]
    omega
  have positive : 0 < countUpTo (ofText text).starts offset := by
    apply Nat.pos_of_ne_zero
    intro none
    have first := cut.above 0 (by omega) (by simp [size_starts, Text.lineStarts])
    rw [starts_getD (by simp [Text.lineStarts])] at first
    simp only [Text.lineStarts, List.getElem_cons_zero] at first
    omega
  obtain ⟨k, count⟩ : ∃ k, countUpTo (ofText text).starts offset = k + 1 :=
    ⟨_, (Nat.succ_pred_eq_of_pos positive).symm⟩
  rw [count] at cut
  have bound : k < text.lineStarts.length := by
    have := cut.within
    rw [size_starts] at this
    omega
  refine ⟨k, text.lineStarts[k], ⟨List.getElem?_eq_getElem bound, ?_, ?_⟩, ?_⟩
  · have := cut.below k (by omega)
    rw [starts_getD bound] at this
    omega
  · -- a newline in between would open a line at or before the offset, beyond the cut
    intro i late early newline
    have member : i + 1 ∈ text.lineStarts := Text.succ_mem_lineStarts.mpr newline
    obtain ⟨j, within, same⟩ := List.getElem_of_mem member
    have order : k < j := by
      rcases Nat.lt_or_ge k j with less | more
      · exact less
      · have := ascending_starts text j k more (by rw [size_starts]; exact bound)
        rw [starts_getD bound, starts_getD within] at this
        omega
    have above := cut.above j order (by rw [size_starts]; exact within)
    rw [starts_getD within] at above
    omega
  · simp only [lineColumn, clamped, count, Nat.add_sub_cancel, starts_getD bound]

/-- Reading the position of an offset gives the offset back. -/
theorem offset_of_onLine (place : OnLine text offset k s) (inside : offset ≤ text.length) :
    (ofText text).offset (k + 1 : Nat) (offset - s + 1 : Nat) = offset := by
  obtain ⟨bound, value⟩ := List.getElem?_eq_some_iff.mp place.started
  have reached := place.reached
  have line : ((k + 1 : Nat) : Int) - 1 = (k : Int) := by omega
  have column : max ((offset - s + 1 : Nat) : Int) 1 - 1 = ((offset - s : Nat) : Int) := by omega
  have low : ¬ ((k + 1 : Nat) : Int) < 1 := by omega
  have high : ¬ ((ofText text).starts.size : Int) < ((k + 1 : Nat) : Int) := by
    rw [size_starts]
    omega
  rw [LineIndex.offset, if_neg low, if_neg high, line, column, Int.toNat_natCast,
    Int.toNat_natCast, starts_getD bound, value]
  simp only [ofText]
  omega

/-- A line starts after as many newlines as its number, counted from zero. -/
theorem count_of_started (started : text.lineStarts[k]? = some s) : (text.take s).count '\n' = k := by
  have counted {offset k s : Nat} (later : (startsAfterNewlines offset text)[k]? = some s) :
      ∃ i, s = offset + i ∧ (text.take i).count '\n' = k + 1 := by
    clear started
    induction text generalizing offset k with
    | nil => simp [startsAfterNewlines] at later
    | cons c rest ih =>
      rw [startsAfterNewlines] at later
      split at later
      · rename_i newline
        cases k with
        | zero => exact ⟨1, by simpa using later.symm, by simp [newline]⟩
        | succ k =>
          obtain ⟨i, rfl, count⟩ := ih (by simpa using later)
          exact ⟨i + 1, by omega, by simp [newline, count]⟩
      · rename_i other
        obtain ⟨i, rfl, count⟩ := ih later
        exact ⟨i + 1, by omega, by simp [other, count]⟩
  cases k with
  | zero =>
    obtain rfl : 0 = s := by simpa [Text.lineStarts] using started
    rfl
  | succ k =>
    obtain ⟨i, rfl, count⟩ := counted (show (startsAfterNewlines 0 text)[k]? = some s from started)
    rwa [Nat.zero_add]

/-- Whatever the offset, past the end of the text too, its line starts where the search backwards
for a newline stops. -/
theorem exists_onLine_lineStart (text : Text) (offset : Nat) :
    ∃ k, OnLine text offset k (text.lineStart offset) := by
  have within (offset : Nat) (inside : offset ≤ text.length) :
      ∃ k, OnLine text offset k (text.lineStart offset) := by
    obtain ⟨above, line, rest, place⟩ := Text.exists_inLine inside
    have reach := place.offset_eq
    have taken : text.take above.length = above := by rw [place.text_eq, List.take_left]
    have member : above.length ∈ text.lineStarts :=
      Text.mem_lineStarts_iff.mpr ⟨by omega, taken.symm ▸ place.ends⟩
    obtain ⟨k, bound, started⟩ := List.getElem_of_mem member
    rw [place.lineStart_eq]
    refine ⟨k, ?_, ?_, ?_⟩
    · rw [List.getElem?_eq_getElem bound, started]
    · omega
    · intro i late early newline
      rw [place.text_eq, List.getElem?_append_right late, List.getElem?_append_left (by omega)] at newline
      exact place.unbroken (List.mem_of_getElem? newline)
  rcases Nat.le_total offset text.length with inside | beyond
  · exact within offset inside
  · obtain ⟨k, started, reached, unbroken⟩ := within text.length (Nat.le_refl _)
    have same : text.lineStart offset = text.lineStart text.length := by
      rw [Text.lineStart, Text.lineStart, List.take_of_length_le beyond, List.take_length]
    rw [same]
    refine ⟨k, started, Nat.le_trans reached beyond, fun i late early => ?_⟩
    rcases Nat.lt_or_ge i text.length with inside | past
    · exact unbroken i late inside
    · simp [List.getElem?_eq_none past]

/-- The line and column of an offset, read off the text taken apart there. -/
theorem lineColumn_inLine {above rest : Text} (place : Text.InLine text offset above line rest) :
    (ofText text).lineColumn offset = (above.count '\n' + 1, line.length + 1) := by
  have length := congrArg List.length place.text_eq
  have reach := place.offset_eq
  simp only [List.length_append] at length
  obtain ⟨k, s, onLine, position⟩ := lineColumn_eq (show offset ≤ text.length by omega)
  obtain ⟨l, also⟩ := exists_onLine_lineStart text offset
  obtain rfl : s = above.length := (onLine.unique also).2.trans place.lineStart_eq
  have count := count_of_started onLine.started
  rw [place.text_eq, List.take_left] at count
  rw [position, count, reach, Nat.add_sub_cancel_left]

end LineIndex
end SymbolIndex
