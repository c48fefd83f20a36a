import SymbolIndex.Proofs.Locate.Word

/-! The word under a caret is that of the one whole run of identifier characters in its row that the
caret touches. -/
namespace SymbolIndex
variable {text row : Text} {line column : Int} {run other : Capture}

/-- The run is a whole one of the row with this number, and a caret in this column is inside it or at
one of its ends. -/
structure UnderCaret (text : Text) (line column : Int) (run : Capture) : Prop where
  first : 1 ≤ line
  whole : ∃ row, text.splitLines[(line - 1).toNat]? = some row ∧ IsNameRun row run
  start_le : run.start ≤ column - 1
  le_stop : column - 1 ≤ run.stop

namespace UnderCaret

theorem unique (under : UnderCaret text line column run)
    (also : UnderCaret text line column other) : run = other := by
  obtain ⟨row, numbered, whole⟩ := under.whole
  obtain ⟨again, same, otherWhole⟩ := also.whole
  obtain rfl := Option.some.inj (numbered.symm.trans same)
  have bounds := And.intro under.start_le under.le_stop
  have otherBounds := And.intro also.start_le also.le_stop
  exact whole.unique otherWhole (k := (column - 1).toNat) (by omega) (by omega)

theorem wordAt (under : UnderCaret text line column run) :
    wordAt text line column = run.text := by
  obtain ⟨row, numbered, whole⟩ := under.whole
  rw [wordAt_of_row under.first numbered, find?_touches whole under.start_le under.le_stop]
  rfl

end UnderCaret

/-- A row whose runs are all apart from the caret has no word there. -/
theorem wordAt_eq_nil (first : 1 ≤ line)
    (numbered : text.splitLines[(line - 1).toNat]? = some row)
    (apart : ∀ run, ¬UnderCaret text line column run) : wordAt text line column = [] := by
  have missed : (nameRuns row).find? (·.touches (column - 1)) = none := by
    refine List.find?_eq_none.mpr fun run member touched => ?_
    obtain ⟨low, high⟩ := Capture.touches_iff.mp touched
    exact apart run ⟨first, ⟨row, numbered, mem_nameRuns.mp member⟩, low, high⟩
  rw [wordAt_of_row first numbered, missed]
  rfl

theorem wordAt_outside (outside : line < 1 ∨ text.splitLines.length < line) :
    wordAt text line column = [] := by
  have absent : (decide (1 ≤ line) && decide (line ≤ text.splitLines.length)) = false := by
    simp only [Bool.and_eq_false_iff, decide_eq_false_iff_not]
    omega
  rw [SymbolIndex.wordAt]
  simp [absent]

/-- The word at a position is the one whole run of identifier characters in its line that the caret
touches, and it never touches two. -/
theorem word_under_caret (text : Text) (line column : Int) :
    (∀ run, UnderCaret text line column run → wordAt text line column = run.text) ∧
    (wordAt text line column = [] ↔
      (line < 1 ∨ text.splitLines.length < line) ∨ ∀ run, ¬UnderCaret text line column run) ∧
    ∀ run other, UnderCaret text line column run → UnderCaret text line column other →
      run = other := by
  refine ⟨fun run under => under.wordAt, ⟨fun none => ?_, ?_⟩, fun run other => UnderCaret.unique⟩
  · refine Or.inr fun run under => ?_
    obtain ⟨row, _, whole⟩ := under.whole
    exact whole.nonempty (under.wordAt.symm.trans none)
  · rintro (outside | apart)
    · exact wordAt_outside outside
    · by_cases inside : 1 ≤ line ∧ line ≤ text.splitLines.length
      · have bound : (line - 1).toNat < text.splitLines.length := by omega
        exact wordAt_eq_nil inside.1 (List.getElem?_eq_getElem bound) apart
      · exact wordAt_outside (by omega)

end SymbolIndex
