import SymbolIndex.Locate.Word
import SymbolIndex.Proofs.Pattern.Occurrence

/-! The scan of a line finds its whole runs of identifier characters and nothing else, so the word
at a caret is the one run that touches it. -/
namespace SymbolIndex
variable {row text : Text} {cursor : Cursor} {found : Occurrence} {run : Capture} {k s i : Nat}
open LineIndex

namespace Recogniser

/-- What the scan finds at a cursor: the longest stretch of identifier characters from there. -/
theorem nameRun_eq_some_iff : nameRun cursor = some found ↔
    ∃ stop, cursor.run? Text.isNameChar = some stop ∧
      ⟨cursor.upTo stop, cursor.upTo stop, none⟩ = found := by
  simp [nameRun, Option.bind_eq_some_iff]

theorem nameRun_grounded : Grounded nameRun where
  start place finds := by
    obtain ⟨stop, _, rfl⟩ := nameRun_eq_some_iff.mp finds
    rfl
  nonempty place finds := by
    obtain ⟨stop, reads, rfl⟩ := nameRun_eq_some_iff.mp finds
    obtain ⟨placed, moved, _⟩ := place.run? reads
    have := place.stop_upTo placed (Nat.le_of_lt moved)
    simp only [Capture.stop, Cursor.upTo] at this ⊢
    omega

/-- Inside a find stand identifier characters, at its end none. -/
theorem nameRun_spec (place : Cursor.In row cursor) (finds : nameRun cursor = some found) :
    (∀ i, cursor.offset ≤ i → i < found.whole.stop →
      ∃ c, row[i]? = some c ∧ Text.isNameChar c = true) ∧
    ∀ c, row[found.whole.stop]? = some c → Text.isNameChar c = false := by
  obtain ⟨stop, reads, rfl⟩ := nameRun_eq_some_iff.mp finds
  obtain ⟨placed, moved, rfl⟩ := place.run? reads
  have length := Cursor.offset_skip cursor Text.isNameChar
  rw [place.stop_upTo placed (Nat.le_of_lt moved), length]
  constructor
  · intro i low high
    obtain ⟨d, rfl⟩ := Nat.exists_eq_add_of_le low
    have small : d < (cursor.rest.takeWhile Text.isNameChar).length := by omega
    rw [← place.getElem?_rest, ← Text.getElem?_takeWhile small, List.getElem?_eq_getElem small]
    exact ⟨_, rfl, List.all_eq_true.mp List.all_takeWhile _ (List.getElem_mem small)⟩
  · intro c seen
    rw [← place.getElem?_rest] at seen
    exact Text.stop_takeWhile seen

theorem nameRun_whole (place : Cursor.In row cursor) (apart : cursor.Apart)
    (finds : nameRun cursor = some found) : IsNameRun row found.whole := by
  obtain ⟨inside, after⟩ := nameRun_spec place finds
  have starts := nameRun_grounded.start place finds
  have covers := nameRun_grounded.nonempty place finds
  obtain ⟨stop, reads, rfl⟩ := nameRun_eq_some_iff.mp finds
  obtain ⟨placed, moved, _⟩ := place.run? reads
  refine ⟨List.length_pos_iff.mp covers, ?_, ?_, ?_, after⟩
  · rw [place.stop_upTo placed (Nat.le_of_lt moved), place.upTo]
  · intro c member
    obtain ⟨i, small, rfl⟩ := List.getElem_of_mem member
    obtain ⟨c, seen, name⟩ := inside (cursor.offset + i) (by omega)
      (by simpa [Capture.stop, Cursor.upTo] using small)
    have same : (cursor.upTo stop).text[i]? = row[cursor.offset + i]? := by
      simp only [place.upTo] at small ⊢
      refine Text.getElem?_slice ?_
      simp only [Text.slice, List.length_take] at small
      omega
    rw [List.getElem?_eq_getElem small, seen] at same
    exact Option.some.inj same ▸ name
  · intro c positive seen
    rw [starts] at positive seen
    exact apart c (by rwa [place.before_eq (Nat.sub_add_cancel positive).symm])

/-- The scan finds something wherever an identifier character stands. -/
theorem nameRun_isSome {c : Char} (place : Cursor.In row cursor)
    (seen : row[cursor.offset]? = some c) (name : Text.isNameChar c = true) :
    ∃ found, nameRun cursor = some found := by
  have head : cursor.rest.head? = some c := by
    rw [List.head?_eq_getElem?, place.getElem?_rest]
    exact seen
  have reads : cursor.run? Text.isNameChar = some (cursor.skip Text.isNameChar) := by
    simp [Cursor.run?, head, name]
  exact ⟨_, nameRun_eq_some_iff.mpr ⟨_, reads, rfl⟩⟩

/-- No occurrence starts in the middle of a run: the one to the left would cover it. -/
theorem apart_of_nameRun (place : Cursor.In row cursor) (finds : nameRun cursor = some found)
    (member : found ∈ nameRun.occurrences row) : cursor.Apart := by
  intro c before
  apply Bool.eq_false_iff.mpr
  intro name
  obtain ⟨m, moved⟩ : ∃ m, cursor.offset = m + 1 := by
    refine Nat.exists_eq_add_one.mpr (Nat.pos_of_ne_zero fun none => ?_)
    rw [place.before, none] at before
    simp [Text.charBefore] at before
  rw [place.before_eq moved] at before
  have starts := nameRun_grounded.start place finds
  have positive := nameRun_grounded.nonempty place finds
  have inside := place.inside
  obtain ⟨left, leftPlace, offset⟩ := Cursor.exists_in (show m ≤ row.length by omega)
  obtain ⟨found', leftFinds⟩ := nameRun_isSome leftPlace (offset ▸ before) name
  obtain ⟨other, otherMember, _, low, high⟩ :=
    occurrences_complete nameRun_grounded leftPlace leftFinds
  obtain ⟨otherCursor, otherPlace, otherFinds⟩ := mem_occurrences otherMember
  have otherStops := (nameRun_spec otherPlace otherFinds).2
  obtain ⟨d, seen, also⟩ := (nameRun_spec place finds).1 cursor.offset (Nat.le_refl _) (by
    simp only [Capture.stop]
    omega)
  have longer : other.whole.stop ≠ cursor.offset := by
    intro same
    exact Bool.false_ne_true ((otherStops d (same ▸ seen)).symm.trans also)
  rcases occurrences_disjoint nameRun_grounded member otherMember with same | after | before
  · rw [← same] at low
    omega
  · simp only [Capture.stop] at after
    omega
  · omega

end Recogniser

theorem mem_nameRuns : run ∈ nameRuns row ↔ IsNameRun row run := by
  constructor
  · intro member
    obtain ⟨found, occurs, rfl⟩ := List.mem_map.mp member
    obtain ⟨cursor, place, finds⟩ := Recogniser.mem_occurrences occurs
    exact Recogniser.nameRun_whole place (Recogniser.apart_of_nameRun place finds occurs) finds
  · intro whole
    have positive := whole.start_lt_stop
    have inside := whole.stop_le_length
    obtain ⟨cursor, place, offset⟩ := Cursor.exists_in (show run.start ≤ row.length by omega)
    obtain ⟨c, seen, name⟩ := whole.inside (Nat.le_refl _) positive
    obtain ⟨found, finds⟩ := Recogniser.nameRun_isSome place (offset ▸ seen) name
    obtain ⟨other, member, _, low, high⟩ :=
      Recogniser.occurrences_complete Recogniser.nameRun_grounded place finds
    obtain ⟨otherCursor, otherPlace, otherFinds⟩ := Recogniser.mem_occurrences member
    have otherWhole := Recogniser.nameRun_whole otherPlace
      (Recogniser.apart_of_nameRun otherPlace otherFinds member) otherFinds
    have same : run = other.whole :=
      whole.unique otherWhole ⟨Nat.le_refl _, Nat.le_of_lt positive⟩ ⟨by omega, by omega⟩
    exact List.mem_map.mpr ⟨other, member, same.symm⟩

theorem Capture.touches_iff {caret : Int} :
    run.touches caret = true ↔ run.start ≤ caret ∧ caret ≤ run.stop := by
  simp [Capture.touches]

/-- Of the runs of a row the one that a caret touches is found. -/
theorem find?_touches {caret : Int} (whole : IsNameRun row run) (low : run.start ≤ caret)
    (high : caret ≤ run.stop) : (nameRuns row).find? (·.touches caret) = some run := by
  cases found : (nameRuns row).find? (·.touches caret) with
  | none =>
    have missed := List.find?_eq_none.mp found run (mem_nameRuns.mpr whole)
    exact absurd (Capture.touches_iff.mpr ⟨low, high⟩) missed
  | some other =>
    have also := mem_nameRuns.mp (List.mem_of_find?_eq_some found)
    have touched := List.find?_some found
    rw [Capture.touches_iff] at touched
    have same := also.unique whole (k := caret.toNat) (by omega) (by omega)
    rw [same]

/-- The word at a position is that of the run found in its row. -/
theorem wordAt_of_row {line column : Int} (first : 1 ≤ line)
    (numbered : text.splitLines[(line - 1).toNat]? = some row) : wordAt text line column =
      (((nameRuns row).find? (·.touches (column - 1))).map (·.text)).getD [] := by
  have bound := (List.getElem?_eq_some_iff.mp numbered).1
  have present : (decide (1 ≤ line) && decide (line ≤ text.splitLines.length)) = true := by
    simp only [Bool.and_eq_true, decide_eq_true_eq]
    omega
  rw [wordAt]
  simp only [present, if_true, numbered, Option.getD_some]
  cases (nameRuns row).find? (·.touches (column - 1)) with
  | none => rfl
  | some other => rfl

/-- A caret at a run of a line, its ends included, selects that run. -/
theorem wordAt_eq {caret : Int} (whole : IsNameRun text run) (place : OnLine text run.start k s)
    (low : (run.start - s : Nat) ≤ caret - 1) (high : caret - 1 ≤ (run.stop - s : Nat)) :
    wordAt text (k + 1 : Nat) caret = run.text := by
  have reached := place.reached
  have length : run.stop = run.start + run.text.length := rfl
  have line : (((k + 1 : Nat) : Int) - 1).toNat = k := by omega
  have numbered : text.splitLines[(((k + 1 : Nat) : Int) - 1).toNat]? =
      some ((text.drop s).takeWhile (· ≠ '\n')) := by
    rw [line, splitLines_getElem? place.started]
  have chosen : (nameRuns ((text.drop s).takeWhile (· ≠ '\n'))).find? (·.touches (caret - 1)) =
      some ⟨run.start - s, run.text⟩ := by
    refine find?_touches (whole.onLine place) low ?_
    simp only [Capture.stop]
    omega
  rw [wordAt_of_row (by omega) numbered, chosen]
  rfl

end SymbolIndex
