import SymbolIndex.Pattern
import SymbolIndex.Proofs.Pattern.Steps

/-! Every pattern covers the text from the position it looks at to a later one, and the name it
captures starts in between, so occurrences and their names come one after another. -/
namespace SymbolIndex
variable {text word line : Text} {start cursor stop : Cursor} {found : Occurrence}
  {name renamed : Capture} {n : Nat}

namespace Cursor

/-- An identifier has a first character. -/
theorem start_lt_of_identifier? (reads : cursor.identifier? = some (name, stop)) :
    name.start < name.stop := by
  unfold Cursor.identifier? at reads
  split at reads
  · rename_i starts
    obtain ⟨rfl, _⟩ := Prod.mk.inj (Option.some.inj reads)
    cases rest : cursor.rest with
    | nil => simp [rest] at starts
    | cons c more =>
      have first : Text.isNameStart c = true := by simpa [rest] using starts
      simp [Capture.stop, Text.isNameChar_of_isNameStart first]
  · contradiction

theorem In.named (place : In text cursor) (reads : cursor.identifier? = some (name, stop)) :
    In text stop ∧ name.start = cursor.offset ∧ name.start < stop.offset := by
  obtain ⟨placed, opens, closes, _⟩ := place.identifier? reads
  have content := start_lt_of_identifier? reads
  rw [closes]
  exact ⟨placed, opens, content⟩

theorem offset_blanks (cursor : Cursor) : cursor.offset ≤ cursor.blanks.offset := by
  rw [blanks, offset_skip]
  exact Nat.le_add_right _ _

theorem In.assignment? (place : In text cursor) (reads : cursor.assignment? = some stop) :
    In text stop ∧ cursor.offset < stop.offset := by
  simp only [Cursor.assignment?, Option.bind_eq_bind, Option.bind_eq_some_iff] at reads
  obtain ⟨after, equals, chosen⟩ := reads
  obtain ⟨placed, moved, _⟩ := place.literal? equals
  split at chosen
  · contradiction
  · obtain rfl := Option.some.inj chosen
    exact ⟨placed, by simp [moved]⟩

end Cursor

namespace Recogniser

/-- A find reaches from the cursor to a later cursor of the text. -/
def Covers (recognise : Recogniser) : Prop :=
  ∀ {text start found}, Cursor.In text start → recognise start = some found →
    ∃ stop, Cursor.In text stop ∧ start.offset < stop.offset ∧ found.whole = start.upTo stop

/-- A find covers the text up to a later cursor, and the stretch picked from it starts before that
cursor. -/
def Captures (recognise : Recogniser) (pick : Occurrence → Capture) : Prop :=
  ∀ ⦃text start found⦄, Cursor.In text start → recognise start = some found →
    ∃ stop, Cursor.In text stop ∧ found.whole = start.upTo stop ∧
      start.offset ≤ (pick found).start ∧ (pick found).start < stop.offset

variable {recognise : Recogniser} {pick : Occurrence → Capture}

theorem Captures.covers (captures : Captures recognise pick) : Covers recognise := by
  intro text start found place finds
  obtain ⟨stop, placed, same, low, high⟩ := captures place finds
  exact ⟨stop, placed, Nat.lt_of_le_of_lt low high, same⟩

theorem Covers.grounded (covers : Covers recognise) : Grounded recognise where
  start place finds := by
    obtain ⟨stop, _, _, same⟩ := covers place finds
    rw [same]
    rfl
  nonempty place finds := by
    obtain ⟨stop, placed, moved, same⟩ := covers place finds
    have length := place.stop_upTo placed (Nat.le_of_lt moved)
    rw [← same, Capture.stop, same, Cursor.upTo] at length
    rw [same, Cursor.upTo]
    simp only at length ⊢
    omega

/-- What is picked from successive finds stands one after another. -/
theorem Captures.rising (captures : Captures recognise pick) (text : Text) :
    (recognise.occurrences text).Pairwise fun a b => (pick a).start < (pick b).start := by
  have covers : Covers recognise := Captures.covers captures
  have apart := occurrences_apart (Covers.grounded covers) text
  refine apart.imp_of_mem fun {a b} first second apart => ?_
  obtain ⟨cursor, place, finds⟩ := mem_occurrences first
  obtain ⟨later, seen, also⟩ := mem_occurrences second
  obtain ⟨stop, placed, same, low, high⟩ := captures place finds
  obtain ⟨_, _, other, behind, _⟩ := captures seen also
  have reach := place.stop_upTo placed (by omega)
  rw [same, reach, other] at apart
  simp only [Cursor.upTo] at apart
  omega

theorem length_of_throughLastClose? (ends : throughLastClose? line = some n) :
    0 < n ∧ n ≤ line.length := by
  induction line generalizing n with
  | nil => simp [throughLastClose?] at ends
  | cons c rest ih =>
    rw [throughLastClose?] at ends
    split at ends
    · rename_i m later
      have := ih later
      rw [← Option.some.inj ends, List.length_cons]
      omega
    · split at ends
      · rename_i closes
        obtain ⟨d, more, rfl⟩ : ∃ d more, rest = d :: more := by
          cases rest with
          | nil => simp at closes
          | cons d more => exact ⟨d, more, rfl⟩
        rw [← Option.some.inj ends, List.length_cons, List.length_cons]
        omega
      · contradiction

theorem in_headerEnd? (place : Cursor.In text cursor) (ends : headerEnd? cursor = some stop) :
    Cursor.In text stop ∧ cursor.offset < stop.offset := by
  unfold headerEnd? at ends
  split at ends
  · rename_i inside opens
    obtain ⟨n, closes, rfl⟩ := Option.map_eq_some_iff.mp ends
    obtain ⟨placed, moved, _⟩ := place.literal? opens
    have bound := (length_of_throughLastClose? closes).2
    have fits := (List.takeWhile_prefix (l := inside.rest) (· ≠ '\n')).length_le
    rw [Cursor.offset_advance (Nat.le_trans bound fits), moved]
    exact ⟨placed.advance n, by simp; omega⟩
  · obtain ⟨placed, moved, _⟩ := place.literal? ends
    exact ⟨placed, by simp [moved]⟩

theorem classHeader_captures : Captures classHeader (·.name) := by
  intro text start found place finds
  obtain ⟨_, word, gap, name, after, stop, keyword, blanks, reads, ends, rfl⟩ :=
    classHeader_eq_some_iff.mp finds
  obtain ⟨atWord, word_eq, _⟩ := place.literal? keyword
  obtain ⟨atGap, gap_gt, _⟩ := atWord.someBlanks? blanks
  obtain ⟨atAfter, name_eq, named⟩ := atGap.named reads
  obtain ⟨placed, moved⟩ := in_headerEnd? atAfter.blanks ends
  have passed := Cursor.offset_blanks after
  have low : start.offset ≤ name.start := by omega
  have high : name.start < stop.offset := by omega
  exact ⟨stop, placed, rfl, low, high⟩

theorem classHeader_covers : Covers classHeader := Captures.covers classHeader_captures

theorem functionHeader_captures : Captures functionHeader (·.name) := by
  intro text start found place finds
  obtain ⟨_, word, gap, name, after, opened, stop, keyword, blanks, reads, opens, closes, rfl⟩ :=
    functionHeader_eq_some_iff.mp finds
  obtain ⟨atWord, word_eq, _⟩ := place.literal? keyword
  obtain ⟨atGap, gap_gt, _⟩ := atWord.someBlanks? blanks
  obtain ⟨atAfter, name_eq, named⟩ := atGap.named reads
  obtain ⟨atOpened, opened_eq, _⟩ := atAfter.blanks.literal? opens
  obtain ⟨placed, stop_eq, _⟩ := (atOpened.skip _).literal? closes
  have passed := Cursor.offset_blanks after
  have skipped := Cursor.offset_skip opened (· ≠ ')')
  have low : start.offset ≤ name.start := by omega
  have high : name.start < stop.offset := by omega
  exact ⟨stop, placed, rfl, low, high⟩

theorem functionHeader_covers : Covers functionHeader := Captures.covers functionHeader_captures

theorem attributeAssignment_captures : Captures attributeAssignment (·.name) := by
  intro text start found place finds
  obtain ⟨_, owner, name, after, stop, keyword, reads, assigns, rfl⟩ :=
    attributeAssignment_eq_some_iff.mp finds
  obtain ⟨atOwner, owner_eq, _⟩ := place.literal? keyword
  obtain ⟨atAfter, name_eq, named⟩ := atOwner.named reads
  obtain ⟨placed, moved⟩ := atAfter.blanks.assignment? assigns
  have passed := Cursor.offset_blanks after
  have low : start.offset ≤ name.start := by omega
  have high : name.start < stop.offset := by omega
  exact ⟨stop, placed, rfl, low, high⟩

theorem attributeAssignment_covers : Covers attributeAssignment :=
  Captures.covers attributeAssignment_captures

theorem variableAssignment_captures : Captures variableAssignment (·.name) := by
  intro text start found place finds
  obtain ⟨_, name, after, stop, reads, assigns, rfl⟩ := variableAssignment_eq_some_iff.mp finds
  obtain ⟨atAfter, name_eq, named⟩ := place.blanks.named reads
  obtain ⟨placed, moved⟩ := atAfter.blanks.assignment? assigns
  have opened := Cursor.offset_blanks start
  have passed := Cursor.offset_blanks after
  have low : start.offset ≤ name.start := by omega
  have high : name.start < stop.offset := by omega
  exact ⟨stop, placed, rfl, low, high⟩

theorem variableAssignment_covers : Covers variableAssignment :=
  Captures.covers variableAssignment_captures

theorem plainImport_captures : Captures plainImport (·.name) := by
  intro text start found place finds
  obtain ⟨_, word, gap, name, stop, keyword, blanks, reads, rfl⟩ := plainImport_eq_some_iff.mp finds
  obtain ⟨atWord, word_eq, _⟩ := place.literal? keyword
  obtain ⟨atGap, gap_gt, _⟩ := atWord.someBlanks? blanks
  obtain ⟨placed, name_eq, named⟩ := atGap.named reads
  have low : start.offset ≤ name.start := by omega
  have high : name.start < stop.offset := by omega
  exact ⟨stop, placed, rfl, low, high⟩

theorem plainImport_covers : Covers plainImport := Captures.covers plainImport_captures

theorem in_alias? (place : Cursor.In text cursor) (reads : alias? cursor = some (renamed, stop)) :
    Cursor.In text stop ∧ cursor.offset < renamed.start ∧ renamed.start < stop.offset := by
  obtain ⟨gap, word, space, blanks, keyword, more, reads⟩ := alias?_eq_some_iff.mp reads
  obtain ⟨atGap, gap_gt, _⟩ := place.someBlanks? blanks
  obtain ⟨atWord, word_eq, _⟩ := atGap.literal? keyword
  obtain ⟨atSpace, space_gt, _⟩ := atWord.someBlanks? more
  obtain ⟨placed, name_eq, named⟩ := atSpace.named reads
  exact ⟨placed, by omega, by omega⟩

theorem fromImport_captures : Captures fromImport (·.bound) := by
  intro text start found place finds
  obtain ⟨_, word, gap, path, space, keyword, blank, name, after, from_, blanks, dotted, more,
    import_, last, reads, ending⟩ := fromImport_eq_some_iff.mp finds
  obtain ⟨atWord, word_eq, _⟩ := place.literal? from_
  obtain ⟨atGap, gap_gt, _⟩ := atWord.someBlanks? blanks
  obtain ⟨atPath, path_gt, _⟩ := atGap.run? dotted
  obtain ⟨atSpace, space_gt, _⟩ := atPath.someBlanks? more
  obtain ⟨atKeyword, keyword_eq, _⟩ := atSpace.literal? import_
  obtain ⟨atBlank, blank_gt, _⟩ := atKeyword.someBlanks? last
  obtain ⟨atAfter, name_eq, named⟩ := atBlank.named reads
  rcases ending with ⟨renamed, stop, aliased, rfl⟩ | ⟨_, rfl⟩
  · obtain ⟨placed, moved, within⟩ := in_alias? atAfter aliased
    simp only [Occurrence.bound, Option.getD_some]
    exact ⟨stop, placed, rfl, by omega, within⟩
  · simp only [Occurrence.bound, Option.getD_none]
    exact ⟨after, atAfter, rfl, by omega, by omega⟩

theorem fromImport_covers : Covers fromImport := Captures.covers fromImport_captures

theorem constructorCall_eq_some_iff : constructorCall start = some found ↔
    ∃ name after equals callee beyond stop,
      start.identifier? = some (name, after) ∧ after.blanks.literal? ['='] = some equals ∧
      equals.blanks.identifier? = some (callee, beyond) ∧ beyond.blanks.literal? ['('] = some stop ∧
      ⟨start.upTo stop, name, some callee⟩ = found := by
  simp [constructorCall, Option.bind_eq_some_iff]

theorem constructorCall_captures : Captures constructorCall (·.name) := by
  intro text start found place finds
  obtain ⟨name, after, equals, callee, beyond, stop, reads, assigns, calls, opens, rfl⟩ :=
    constructorCall_eq_some_iff.mp finds
  obtain ⟨atAfter, name_eq, named⟩ := place.named reads
  obtain ⟨atEquals, equals_eq, _⟩ := atAfter.blanks.literal? assigns
  obtain ⟨atBeyond, callee_eq, called⟩ := atEquals.blanks.named calls
  obtain ⟨placed, stop_eq, _⟩ := atBeyond.blanks.literal? opens
  have first := Cursor.offset_blanks after
  have second := Cursor.offset_blanks equals
  have third := Cursor.offset_blanks beyond
  simp only [List.length_singleton] at equals_eq stop_eq
  have low : start.offset ≤ name.start := by omega
  have high : name.start < stop.offset := by omega
  exact ⟨stop, placed, rfl, low, high⟩

theorem constructorCall_covers : Covers constructorCall := Captures.covers constructorCall_captures

theorem wholeWord_captures (nonempty : word ≠ []) : Captures (wholeWord word) (·.name) := by
  intro text start found place finds
  obtain ⟨stop, reads, _, _, rfl⟩ := wholeWord_eq_some_iff.mp finds
  obtain ⟨placed, moved, _⟩ := place.literal? reads
  have := List.length_pos_iff.mpr nonempty
  exact ⟨stop, placed, rfl, Nat.le_refl _, by simp only [Cursor.upTo]; omega⟩

theorem wholeWord_covers (nonempty : word ≠ []) : Covers (wholeWord word) :=
  Captures.covers (wholeWord_captures nonempty)

end Recogniser
end SymbolIndex
