import SymbolIndex.Proofs.Pattern.Excerpt

/-! Finds that overlap. A search from left to right passes over what an earlier find covers; of the
finds that end at one place it keeps the leftmost, and no others ever overlap. -/
namespace SymbolIndex
variable {text : Text} {found : Occurrence} {last : Char} {recognise : Recogniser}

namespace Recogniser

/-- The pattern finds this somewhere in the text, whether or not a search of the text keeps it. -/
def FindsIn (recognise : Recogniser) (text : Text) (found : Occurrence) : Prop :=
  ∃ cursor, Cursor.In text cursor ∧ recognise cursor = some found

/-- The search keeps a find that ends where this one does and starts no later. -/
theorem Spelled.exists_kept (spelled : Spelled last recognise) (grounded : Grounded recognise)
    (finds : recognise.FindsIn text found) : ∃ first ∈ recognise.occurrences text,
      first.whole.start ≤ found.whole.start ∧ first.whole.stop = found.whole.stop := by
  obtain ⟨cursor, place, reads⟩ := finds
  have starts := grounded.start place reads
  obtain ⟨first, kept, _, early, across⟩ := occurrences_complete grounded place reads
  obtain ⟨spot, there, also⟩ := mem_occurrences kept
  have begins := grounded.start there also
  exact ⟨first, kept, by omega, spelled.stop_eq grounded there also place reads (by omega) across⟩

/-- A find is kept exactly if it is the first of those that end where it does. -/
theorem Spelled.mem_occurrences_iff (spelled : Spelled last recognise)
    (grounded : Grounded recognise) : found ∈ recognise.occurrences text ↔
      recognise.FindsIn text found ∧ ∀ other, recognise.FindsIn text other →
        other.whole.stop = found.whole.stop → found.whole.start ≤ other.whole.start := by
  constructor
  · intro kept
    have finds : recognise.FindsIn text found := mem_occurrences kept
    refine ⟨finds, fun other also together => ?_⟩
    obtain ⟨first, listed, early, same⟩ := spelled.exists_kept grounded also
    obtain ⟨cursor, place, reads⟩ := finds
    have covers := grounded.nonempty place reads
    rcases occurrences_disjoint grounded listed kept with rfl | before | after
    · exact early
    · simp only [Capture.stop] at before same together
      omega
    · obtain ⟨spot, there, copy⟩ := mem_occurrences listed
      have content := grounded.nonempty there copy
      simp only [Capture.stop] at after same together
      omega
  · rintro ⟨finds, leftmost⟩
    obtain ⟨first, listed, early, same⟩ := spelled.exists_kept grounded finds
    have late := leftmost first (mem_occurrences listed) same
    obtain ⟨cursor, place, reads⟩ := finds
    obtain ⟨spot, there, also⟩ := mem_occurrences listed
    have starts := grounded.start place reads
    have begins := grounded.start there also
    obtain rfl : spot = cursor := there.ext place (by omega)
    exact Option.some.inj (also.symm.trans reads) ▸ listed

end Recogniser
end SymbolIndex
