import SymbolIndex.Proofs.Extraction.Parameters
import SymbolIndex.Proofs.Extraction.Symbols
import SymbolIndex.Proofs.Pattern.Overlap

/-! Which function headers count. Parameters go on up to the next closing parenthesis, so those of
an unfinished header take in the header after it; of all headers that end at one parenthesis the
first one counts. -/
namespace SymbolIndex
variable {text gap label pad tail : Text} {cursor outer : Cursor} {c : Char} {i : Nat}
  {header first found : Occurrence} {parameters : Capture}

/-- The second header begins within the parameters of the first. -/
def Occurrence.TakesIn (first header : Occurrence) : Prop :=
  ∃ parameters, first.detail = some parameters ∧ parameters.start ≤ header.whole.start ∧
    header.whole.start < parameters.stop

namespace Recogniser

/-- The word that opens a header is a whole run. -/
theorem keyword_isNameRun (place : Cursor.In text cursor)
    (finds : functionHeader cursor = some found) :
    IsNameRun text ⟨cursor.offset, "def".toList⟩ := by
  obtain ⟨opens, written, gap, label, pad, inside, after, spells, split, rfl⟩ :=
    functionHeader_iff_spelled.mp finds
  obtain ⟨d, gap, rfl⟩ := List.exists_cons_of_ne_nil spells.gap_ne
  simp only [spells.written_eq, List.append_assoc, List.cons_append] at split
  have letters : ∀ c ∈ ['d', 'e', 'f'], Text.isNameChar c = true := by simp; decide
  refine ⟨List.cons_ne_nil 'd' _, ?_, letters, fun c positive seen => ?_, fun c seen => ?_⟩
  · rw [Text.slice, Capture.stop, Nat.add_sub_cancel_left, ← place.rest, split, List.take_left]
  · rw [← place.before_eq (Nat.sub_add_cancel positive).symm] at seen
    exact Text.isNameChar_of_not_isWord (by simpa [Cursor.opensWord, seen] using opens)
  · rw [Capture.stop, ← place.getElem?_rest, split, List.getElem?_append_right (Nat.le_refl _),
      Nat.sub_self, List.getElem?_cons_zero] at seen
    exact Option.some.inj seen ▸ Text.isNameChar_of_isBlank (spells.gap_blank d List.mem_cons_self)

/-- Between the opening word and the parentheses of a header only its name has letters. -/
theorem letter_in_label (gapBlank : ∀ c ∈ gap, Text.isBlank c = true)
    (padBlank : ∀ c ∈ pad, Text.isBlank c = true) (late : "def".toList.length ≤ i)
    (early : i < ("def".toList ++ gap ++ label ++ pad ++ ['(']).length)
    (shown : ("def".toList ++ (gap ++ (label ++ (pad ++ '(' :: tail))))[i]? = some c)
    (letter : Text.isNameChar c = true) :
    ("def".toList ++ gap).length ≤ i ∧ i < ("def".toList ++ gap ++ label).length := by
  simp only [List.length_append, List.length_singleton] at early ⊢
  rw [List.getElem?_append_right late] at shown
  have inGap : gap.length ≤ i - "def".toList.length := by
    refine Nat.le_of_not_lt fun less => ?_
    rw [List.getElem?_append_left less] at shown
    have blank := gapBlank c (List.mem_of_getElem? shown)
    exact absurd letter (by simp [Text.isNameChar_of_isBlank blank])
  rw [List.getElem?_append_right inGap] at shown
  refine ⟨by omega, Nat.lt_of_not_le fun beyond => ?_⟩
  rw [List.getElem?_append_right (by omega)] at shown
  rcases Nat.lt_or_ge (i - "def".toList.length - gap.length - label.length) pad.length with
    less | more
  · rw [List.getElem?_append_left less] at shown
    have blank := padBlank c (List.mem_of_getElem? shown)
    exact absurd letter (by simp [Text.isNameChar_of_isBlank blank])
  · rw [List.getElem?_append_right more, show i - "def".toList.length - gap.length - label.length -
      pad.length = 0 by omega, List.getElem?_cons_zero] at shown
    exact absurd letter (Option.some.inj shown ▸ by decide)

/-- The opening word of a header has a name behind it, so no other header is named by that word. -/
theorem name_ne_keyword (place : Cursor.In text cursor) (finds : functionHeader cursor = some first)
    (seen : Cursor.In text outer) (also : functionHeader outer = some header)
    (starts : first.name.start = outer.offset) : first.name.text ≠ "def".toList := by
  obtain ⟨_, written, gap, name, pad, inside, rest, spells, split, rfl⟩ :=
    functionHeader_iff_spelled.mp finds
  obtain ⟨_, other, gap', name', pad', inside', rest', spells', split', rfl⟩ :=
    functionHeader_iff_spelled.mp also
  intro texts
  obtain rfl : name = "def".toList := texts
  have begins : cursor.offset + ("def".toList ++ gap).length = outer.offset := starts
  have shape : cursor.rest =
      ("def".toList ++ gap) ++ ("def".toList ++ (pad ++ '(' :: (inside ++ ')' :: rest))) := by
    rw [split, spells.written_eq]
    simp
  have behind : outer.rest = "def".toList ++ (pad ++ '(' :: (inside ++ ')' :: rest)) := by
    rw [seen.rest, ← begins, ← List.drop_drop, ← place.rest, shape, List.drop_left]
  rw [split', spells'.written_eq] at behind
  simp only [List.append_assoc] at behind
  have tails := List.append_cancel_left behind
  have left := (gap_runs spells'.gap_blank spells'.label_name
    (pad' ++ (['('] ++ (inside' ++ ([')'] ++ rest'))))).takeWhile_eq
  have right : (pad ++ '(' :: (inside ++ ')' :: rest)).takeWhile Text.isBlank = pad :=
    Text.Runs.takeWhile_eq ⟨spells.pad_blank, by simp; decide⟩
  rw [tails, right] at left
  rw [left] at tails
  obtain ⟨c, more, rfl, start⟩ := spells'.label_name.start
  have head : c = '(' := (List.cons.inj (List.append_cancel_left tails)).1
  exact absurd start (head ▸ by decide)

/-- The parameters of a header stand between its start and the parenthesis that ends it. -/
theorem parameters_inside (finds : functionHeader cursor = some found) :
    ∃ parameters, found.detail = some parameters ∧ cursor.offset < parameters.start ∧
      parameters.stop + 1 = found.whole.stop := by
  obtain ⟨_, written, gap, label, pad, inside, rest, spells, _, rfl⟩ :=
    functionHeader_iff_spelled.mp finds
  have width := congrArg List.length spells.written_eq
  simp only [List.length_append, List.length_singleton] at width
  refine ⟨_, rfl, ?_, ?_⟩
  · simp only [List.length_append, List.length_singleton]
    omega
  · simp only [functionAt, Capture.stop, List.length_append, List.length_singleton]
    omega

/-- No header begins between the opening word of another one and its parameters. -/
theorem parameters_le_of_later (place : Cursor.In text cursor)
    (finds : functionHeader cursor = some first) (seen : Cursor.In text outer)
    (also : functionHeader outer = some header) (after : cursor.offset < outer.offset)
    (listed : first.detail = some parameters) : parameters.start ≤ outer.offset := by
  have word := keyword_isNameRun place finds
  have otherWord := keyword_isNameRun seen also
  have label := functionHeader_name place finds
  have apart := name_ne_keyword place finds seen also
  obtain ⟨_, written, gap, name, pad, inside, rest, spells, split, rfl⟩ :=
    functionHeader_iff_spelled.mp finds
  obtain ⟨_, other, gap', name', pad', inside', rest', spells', split', rfl⟩ :=
    functionHeader_iff_spelled.mp also
  obtain rfl := Option.some.inj listed
  refine Nat.le_of_not_lt fun early => ?_
  -- the character there is a letter, so it belongs to the opening word or to the name
  have shape : cursor.rest =
      "def".toList ++ (gap ++ (name ++ (pad ++ '(' :: (inside ++ ')' :: rest)))) := by
    rw [split, spells.written_eq]
    simp
  have letter : cursor.rest[outer.offset - cursor.offset]? = some 'd' := by
    rw [place.getElem?_rest, Nat.add_sub_cancel' (Nat.le_of_lt after)]
    have first := seen.getElem?_rest 0
    rw [split', spells'.written_eq] at first
    simpa using first.symm
  rcases Nat.lt_or_ge (outer.offset - cursor.offset) "def".toList.length with inWord | late
  · have same := word.unique otherWord (k := outer.offset)
      ⟨Nat.le_of_lt after, by simp only [Capture.stop]; omega⟩ ⟨Nat.le_refl _, Nat.le_add_right _ _⟩
    have starts : cursor.offset = outer.offset := congrArg Capture.start same
    omega
  · rw [shape] at letter
    obtain ⟨low, high⟩ := letter_in_label spells.gap_blank spells.pad_blank late
      (by simp only at early; omega) letter (by decide)
    simp only [functionAt] at label
    simp only [List.length_append] at low high
    have same := label.unique otherWord (k := outer.offset)
      ⟨by simp only [List.length_append]; omega,
        by simp only [Capture.stop, List.length_append]; omega⟩
      ⟨Nat.le_refl _, Nat.le_add_right _ _⟩
    exact apart (congrArg Capture.start same) (congrArg Capture.text same)

/-- A header that begins within another one begins within its parameters. -/
theorem takesIn_of_overlap (place : Cursor.In text cursor) (finds : functionHeader cursor = some first)
    (seen : Cursor.In text outer) (also : functionHeader outer = some header)
    (after : cursor.offset < outer.offset) (before : outer.offset < first.whole.stop) :
    first.TakesIn header := by
  have grounded := functionHeader_covers.grounded
  have together := functionHeader_spelled.stop_eq grounded place finds seen also
    (Nat.le_of_lt after) before
  have starts := grounded.start seen also
  obtain ⟨parameters, listed, _, closes⟩ := parameters_inside finds
  obtain ⟨others, _, behind, ends⟩ := parameters_inside also
  have low := parameters_le_of_later place finds seen also after listed
  simp only [Capture.stop] at closes ends together
  refine ⟨parameters, listed, by omega, ?_⟩
  simp only [Capture.stop]
  omega

/-- A search keeps the headers that begin within no other header's parameters. -/
theorem mem_functionHeaders_iff : header ∈ functionHeader.occurrences text ↔
    functionHeader.FindsIn text header ∧
      ¬ ∃ first, functionHeader.FindsIn text first ∧ first.TakesIn header := by
  have grounded := functionHeader_covers.grounded
  rw [functionHeader_spelled.mem_occurrences_iff grounded]
  refine and_congr_right fun finds => ?_
  obtain ⟨outer, seen, also⟩ := finds
  have starts := grounded.start seen also
  constructor
  · rintro leftmost ⟨first, ⟨cursor, place, reads⟩, parameters, listed, low, high⟩
    have begins := grounded.start place reads
    obtain ⟨_, same, behind, closes⟩ := parameters_inside reads
    obtain rfl := Option.some.inj (listed.symm.trans same)
    have together := functionHeader_spelled.stop_eq grounded place reads seen also (by omega)
      (by omega)
    have late := leftmost first ⟨cursor, place, reads⟩ together
    omega
  · rintro apart other ⟨cursor, place, reads⟩ together
    have begins := grounded.start place reads
    refine Nat.le_of_not_lt fun early => apart ⟨other, ⟨cursor, place, reads⟩, ?_⟩
    have content := grounded.nonempty seen also
    refine takesIn_of_overlap place reads seen also (by omega) ?_
    rw [together, Capture.stop]
    omega

end Recogniser

namespace Findings

/-- A header that counts has a record of its name and scope, if not always its own. -/
theorem exists_record_of_header (occurs : header ∈ Pattern.functionHeader.occurrences text) :
    ∃ record ∈ (extract text).positions, record.kind = .function ∧
      record.scope = (Scopes.ofText text).classAt header.name.start ∧
      record.name = header.name.text := by
  have member : ⟨.functions, headerRecord text header⟩ ∈ allRecords text :=
    mem_allRecords.mpr (List.mem_map.mpr ⟨_, List.mem_map.mpr ⟨header, occurs, rfl⟩, rfl⟩)
  obtain ⟨kept, listed, same⟩ : ∃ kept ∈ keptRecords text,
      kept.key = GroupedRecord.key ⟨.functions, headerRecord text header⟩ :=
    exists_mem_firstBy member
  have fixed := SymbolGroup.keyOf_eq_function
    (kind_of_mem_allRecords (mem_of_mem_firstBy listed)) |>.mp same
  rw [extract_positions, positions_eq]
  exact ⟨kept.record, List.mem_append_right _ (List.mem_map.mpr ⟨kept, listed, rfl⟩), fixed⟩

theorem mem_symbols_of_header (occurs : header ∈ Pattern.functionHeader.occurrences text)
    (offered : Vocabulary.isOffered header.name.text = true) :
    header.name.text ∈ (extract text).symbols := by
  obtain ⟨cursor, place, finds⟩ := Recogniser.mem_occurrences occurs
  have content := (Recogniser.functionHeader_name place finds).not_allBlank
  rw [extract, if_neg (by simp [content])]
  exact mem_symbols.mpr (mem_names.mpr (Or.inr (Or.inr (Or.inl ⟨⟨header, occurs, rfl⟩, offered⟩))))

/-- The findings show a header: a function record has its name and its scope, and the name is a
symbol unless it is private. -/
def Shows (text : Text) (header : Occurrence) : Prop :=
  (∃ record ∈ (extract text).positions, record.kind = .function ∧ record.name = header.name.text ∧
    record.scope = (Scopes.ofText text).classAt header.name.start) ∧
  (Vocabulary.isOffered header.name.text = true → header.name.text ∈ (extract text).symbols)

theorem shows_of_occurs (occurs : header ∈ Pattern.functionHeader.occurrences text) :
    Shows text header := by
  obtain ⟨record, member, kind, scope, name⟩ := exists_record_of_header occurs
  exact ⟨⟨record, member, kind, name, scope⟩, mem_symbols_of_header occurs⟩

/-- Every header shows that begins within the parameters of no other one, and of the headers that end at
one parenthesis the first shows. -/
theorem headers_show_unless_taken_in (text : Text) (header : Occurrence)
    (finds : Recogniser.functionHeader.FindsIn text header) :
    ((∀ first, Recogniser.functionHeader.FindsIn text first → ¬ first.TakesIn header) →
      Shows text header) ∧
    ∃ first, Recogniser.functionHeader.FindsIn text first ∧ Shows text first ∧
      first.whole.stop = header.whole.stop ∧ (first = header ∨ first.TakesIn header) := by
  have grounded := Recogniser.functionHeader_covers.grounded
  refine ⟨fun apart => shows_of_occurs (Recogniser.mem_functionHeaders_iff.mpr
    ⟨finds, fun ⟨first, also, taken⟩ => apart first also taken⟩), ?_⟩
  obtain ⟨first, kept, early, together⟩ :=
    Recogniser.functionHeader_spelled.exists_kept grounded finds
  refine ⟨first, Recogniser.mem_occurrences kept, shows_of_occurs kept, together, ?_⟩
  obtain ⟨outer, seen, also⟩ := finds
  obtain ⟨cursor, place, reads⟩ := Recogniser.mem_occurrences kept
  have starts := grounded.start seen also
  have begins := grounded.start place reads
  rcases Nat.eq_or_lt_of_le early with same | less
  · obtain rfl : cursor = outer := place.ext seen (by omega)
    exact Or.inl (Option.some.inj (reads.symm.trans also))
  · have content := grounded.nonempty seen also
    refine Or.inr (Recogniser.takesIn_of_overlap place reads seen also (by omega) ?_)
    rw [together, Capture.stop]
    omega

theorem headers_show_unless_taken_in_last :
    let text := "def a(\ndef b(x): pass\ndef c(): pass\n".toList
    ∃ header, Recogniser.functionHeader.FindsIn text header ∧ header.name.text = "c".toList ∧
      (∀ first, Recogniser.functionHeader.FindsIn text first → ¬ first.TakesIn header) ∧
      Shows text header := by
  intro text
  have kept : (Recogniser.functionHeader.occurrences text)[1]? =
      some ⟨⟨22, "def c()".toList⟩, ⟨26, "c".toList⟩, some ⟨28, []⟩⟩ := rfl
  obtain ⟨finds, apart⟩ := Recogniser.mem_functionHeaders_iff.mp (List.mem_of_getElem? kept)
  have untaken := fun first also taken => apart ⟨first, also, taken⟩
  exact ⟨_, finds, rfl, untaken, (headers_show_unless_taken_in text _ finds).1 untaken⟩

/-- The parameters of an unfinished header take in the header on the next line. -/
theorem unfinished_header_hides_next :
    let text := "def a(\ndef b(x): pass\n".toList
    ∃ header, Recogniser.functionHeader.FindsIn text header ∧ header.name.text = "b".toList ∧
      Vocabulary.isOffered header.name.text = true ∧
      (∀ record ∈ (extract text).positions, record.kind = .function → record.name ≠ "b".toList) ∧
      "b".toList ∉ (extract text).symbols := by
  intro text
  have place : Cursor.In text ((Cursor.start text).advance 7) := (Cursor.in_start text).advance 7
  have finds : Recogniser.functionHeader ((Cursor.start text).advance 7) =
      some ⟨⟨7, "def b(x)".toList⟩, ⟨11, "b".toList⟩, some ⟨13, "x".toList⟩⟩ := by decide
  have headers : (Pattern.functionHeader.occurrences text).map (·.name.text) = ["a".toList] := by decide
  refine ⟨_, ⟨_, place, finds⟩, rfl, rfl, fun record member kind => ?_, ?_⟩
  · rw [extract_positions] at member
    obtain ⟨header, occurs, rfl⟩ := exists_header_of_record member kind
    have name : header.name.text ∈ ["a".toList] := headers ▸ List.mem_map_of_mem occurs
    rw [List.mem_singleton] at name
    simp only [recordOf, name]
    decide
  · rw [extract, if_neg (by decide)]
    exact mt mem_symbols.mp (by decide)

end Findings
end SymbolIndex
