import SymbolIndex.Pattern.Occurrence
import SymbolIndex.Proofs.Pattern.Cursor

/-! What the list of occurrences holds: finds of the recogniser, all that no earlier occurrence
runs across, one after another. -/
namespace SymbolIndex.Recogniser
variable {recognise : Recogniser} {text rest : Text} {cursor : Cursor} {found : Occurrence}
  {offset skip : Nat} {before : Option Char}

/-- Finds start where the recogniser looks and cover at least one character. -/
structure Grounded (recognise : Recogniser) : Prop where
  start : ∀ {text cursor found}, Cursor.In text cursor → recognise cursor = some found →
    found.whole.start = cursor.offset
  nonempty : ∀ {text cursor found}, Cursor.In text cursor → recognise cursor = some found →
    0 < found.whole.text.length

theorem mem_occurrencesFrom (place : Cursor.In text ⟨offset, before, rest⟩)
    (member : found ∈ occurrencesFrom recognise offset before skip rest) :
    ∃ cursor, Cursor.In text cursor ∧ offset + skip ≤ cursor.offset ∧
      recognise cursor = some found := by
  induction rest generalizing offset before skip with
  | nil =>
    rw [occurrencesFrom] at member
    split at member
    · rename_i here
      exact ⟨_, place, by simp [here], Option.mem_toList.mp member⟩
    · simp at member
  | cons c rest ih =>
    have next : Cursor.In text ⟨offset + 1, some c, rest⟩ := place.next
    cases skip with
    | succ left =>
      obtain ⟨cursor, seen, late, finds⟩ := ih next (by simpa [occurrencesFrom] using member)
      exact ⟨cursor, seen, by omega, finds⟩
    | zero =>
      simp only [occurrencesFrom] at member
      split at member
      · rename_i first here
        rcases List.mem_cons.mp member with same | later
        · exact ⟨_, place, Nat.le_refl _, same ▸ here⟩
        · obtain ⟨cursor, seen, late, finds⟩ := ih next later
          exact ⟨cursor, seen, by omega, finds⟩
      · obtain ⟨cursor, seen, late, finds⟩ := ih next member
        exact ⟨cursor, seen, by omega, finds⟩

/-- A find at a cursor is an occurrence, unless an earlier occurrence runs across the cursor. -/
theorem occurrencesFrom_complete (grounded : Grounded recognise)
    (place : Cursor.In text ⟨offset, before, rest⟩) (seen : Cursor.In text cursor)
    (late : offset + skip ≤ cursor.offset) (finds : recognise cursor = some found) :
    found ∈ occurrencesFrom recognise offset before skip rest ∨
      ∃ other ∈ occurrencesFrom recognise offset before skip rest,
        other.whole.start < cursor.offset ∧ cursor.offset < other.whole.stop := by
  induction rest generalizing offset before skip with
  | nil =>
    have counted := place.length_rest
    have bound := seen.inside
    simp only [List.length_nil, Nat.add_zero] at counted
    have here : cursor = ⟨offset, before, []⟩ := seen.ext place (by simp only; omega)
    rw [here] at finds
    left
    rw [occurrencesFrom, if_pos (by omega), finds]
    exact List.mem_singleton.mpr rfl
  | cons c rest ih =>
    have next : Cursor.In text ⟨offset + 1, some c, rest⟩ := place.next
    cases skip with
    | succ left =>
      simp only [occurrencesFrom]
      exact ih next (by omega)
    | zero =>
      simp only [occurrencesFrom]
      rcases Nat.lt_or_eq_of_le late with later | here
      · split
        · rename_i first first_finds
          have starts := grounded.start place first_finds
          have covers := grounded.nonempty place first_finds
          simp only at starts
          rcases Nat.lt_or_ge cursor.offset first.whole.stop with across | past
          · exact Or.inr ⟨first, List.mem_cons_self, by omega, across⟩
          · simp only [Capture.stop] at past
            have passed : offset + 1 + (first.whole.text.length - 1) ≤ cursor.offset := by omega
            rcases ih next passed with member | ⟨other, member, across⟩
            · exact Or.inl (List.mem_cons_of_mem _ member)
            · exact Or.inr ⟨other, List.mem_cons_of_mem _ member, across⟩
        · exact ih next (by omega)
      · have same : cursor = ⟨offset, before, c :: rest⟩ := seen.ext place here.symm
        rw [same] at finds
        rw [finds]
        exact Or.inl List.mem_cons_self

theorem occurrencesFrom_apart (grounded : Grounded recognise)
    (place : Cursor.In text ⟨offset, before, rest⟩) :
    (occurrencesFrom recognise offset before skip rest).Pairwise fun a b =>
      a.whole.stop ≤ b.whole.start := by
  induction rest generalizing offset before skip with
  | nil =>
    rw [occurrencesFrom]
    split
    · cases recognise ⟨offset, before, []⟩ <;> simp
    · exact List.Pairwise.nil
  | cons c rest ih =>
    have next : Cursor.In text ⟨offset + 1, some c, rest⟩ := place.next
    cases skip with
    | succ left => exact ih next
    | zero =>
      simp only [occurrencesFrom]
      split
      · rename_i first first_finds
        refine List.pairwise_cons.mpr ⟨fun later member => ?_, ih next⟩
        obtain ⟨cursor, seen, late, finds⟩ := mem_occurrencesFrom next member
        have starts := grounded.start place first_finds
        have begins := grounded.start seen finds
        have covers := grounded.nonempty place first_finds
        simp only [Capture.stop] at starts ⊢
        omega
      · exact ih next

/-- Every occurrence is a find at some cursor of the text. -/
theorem mem_occurrences (member : found ∈ recognise.occurrences text) :
    ∃ cursor, Cursor.In text cursor ∧ recognise cursor = some found := by
  obtain ⟨cursor, seen, _, finds⟩ := mem_occurrencesFrom (Cursor.in_start text) member
  exact ⟨cursor, seen, finds⟩

/-- Wherever a find begins, an occurrence covers the character there. -/
theorem occurrences_complete (grounded : Grounded recognise) (seen : Cursor.In text cursor)
    (finds : recognise cursor = some found) : ∃ other ∈ recognise.occurrences text,
      (other = found ∨ other.whole.start < cursor.offset) ∧ other.whole.start ≤ cursor.offset ∧
        cursor.offset < other.whole.stop := by
  have starts := grounded.start seen finds
  have covers := grounded.nonempty seen finds
  have late : 0 + 0 ≤ cursor.offset := by simp
  rcases occurrencesFrom_complete grounded (Cursor.in_start text) seen late finds
    with member | ⟨other, member, before, across⟩
  · refine ⟨found, member, Or.inl rfl, Nat.le_of_eq starts, ?_⟩
    simp only [Capture.stop]
    omega
  · exact ⟨other, member, Or.inr before, Nat.le_of_lt before, across⟩

theorem occurrences_apart (grounded : Grounded recognise) (text : Text) :
    (recognise.occurrences text).Pairwise fun a b => a.whole.stop ≤ b.whole.start :=
  occurrencesFrom_apart grounded (Cursor.in_start text)

theorem occurrences_disjoint (grounded : Grounded recognise) {other : Occurrence}
    (member : found ∈ recognise.occurrences text) (also : other ∈ recognise.occurrences text) :
    found = other ∨ found.whole.stop ≤ other.whole.start ∨
      other.whole.stop ≤ found.whole.start := by
  have apart := List.pairwise_iff_getElem.mp (occurrences_apart grounded text)
  obtain ⟨i, bound, rfl⟩ := List.getElem_of_mem member
  obtain ⟨j, alsoBound, rfl⟩ := List.getElem_of_mem also
  rcases Nat.lt_trichotomy i j with less | same | more
  · exact Or.inr (Or.inl (apart i j bound alsoBound less))
  · subst same
    exact Or.inl rfl
  · exact Or.inr (Or.inr (apart j i alsoBound bound more))

end SymbolIndex.Recogniser
