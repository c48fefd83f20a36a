import SymbolIndex.Proofs.Pattern.Spelling
import SymbolIndex.Proofs.Pattern.Grounded

/-! Whole words: stretches of a text made of word characters that cannot be lengthened on either
side. The search for a word finds the whole words that are spelled like it, and no others. -/
namespace SymbolIndex
variable {text word : Text} {run : Capture} {cursor stop : Cursor} {found : Occurrence}

/-- A stretch of a text that is a whole run of word characters. -/
structure IsWordRun (text : Text) (run : Capture) : Prop where
  nonempty : run.text ≠ []
  covers : text.slice run.start run.stop = run.text
  word : ∀ c ∈ run.text, Text.isWord c = true
  before : ∀ c, 0 < run.start → text[run.start - 1]? = some c → Text.isWord c = false
  after : ∀ c, text[run.stop]? = some c → Text.isWord c = false

/-- A whole word of identifier characters is a whole run of them. -/
theorem IsWordRun.isNameRun (whole : IsWordRun text run)
    (name : ∀ c ∈ run.text, Text.isNameChar c = true) : IsNameRun text run where
  nonempty := whole.nonempty
  covers := whole.covers
  name := name
  before c positive seen := Text.isNameChar_of_not_isWord (whole.before c positive seen)
  after c seen := Text.isNameChar_of_not_isWord (whole.after c seen)

namespace Cursor

/-- Before a word character lies a boundary, unless the character before is one too. -/
theorem isBoundary_before (starts : cursor.rest.head?.any Text.isWord = true) :
    Text.isBoundary cursor.before cursor.rest.head? = true ↔
      ∀ c, cursor.before = some c → Text.isWord c = false := by
  rw [Text.isBoundary, starts]
  cases cursor.before <;> simp

/-- Behind a word character lies a boundary, unless the next character is one too. -/
theorem isBoundary_after (ends : cursor.before.any Text.isWord = true) :
    Text.isBoundary cursor.before cursor.rest.head? = true ↔
      ∀ c, cursor.rest.head? = some c → Text.isWord c = false := by
  rw [Text.isBoundary, ends]
  cases cursor.rest.head? <;> simp

theorem In.before_iff (place : In text cursor) {p : Char → Prop} :
    (∀ c, cursor.before = some c → p c) ↔
      ∀ c, 0 < cursor.offset → text[cursor.offset - 1]? = some c → p c := by
  rw [place.before]
  cases cursor.offset <;> simp [Text.charBefore]

theorem In.head?_eq (place : In text cursor) : cursor.rest.head? = text[cursor.offset]? := by
  rw [List.head?_eq_getElem?, place.getElem?_rest, Nat.add_zero]

/-- A text stands at a cursor exactly if the slice of that length is it. -/
theorem In.prefix_iff (place : In text cursor) :
    word <+: cursor.rest ↔ text.slice cursor.offset (cursor.offset + word.length) = word := by
  rw [place.rest, Text.slice, Nat.add_sub_cancel_left, List.prefix_iff_eq_take, eq_comm]

/-- What is read is a whole word exactly between boundaries. -/
theorem Reads.isWordRun_iff (reads : cursor.Reads word stop) (place : In text cursor)
    (nonempty : word ≠ []) (inside : ∀ c ∈ word, Text.isWord c = true) :
    IsWordRun text ⟨cursor.offset, word⟩ ↔
      Text.isBoundary cursor.before cursor.rest.head? = true ∧
        Text.isBoundary stop.before stop.rest.head? = true := by
  have placed : In text stop := reads.stop_eq ▸ place.advance word.length
  have first : cursor.rest.head?.any Text.isWord = true := by
    obtain ⟨c, rest, rfl⟩ := List.exists_cons_of_ne_nil nonempty
    rw [reads.rest_eq]
    simp [inside c]
  have last : stop.before.any Text.isWord = true := by
    rw [placed.before, Text.charBefore_eq placed.inside, reads.offset_eq, List.take_add, ← place.rest,
      reads.rest_eq, List.take_left, List.getLast?_append, List.getLast?_eq_some_getLast nonempty]
    exact inside _ (List.getLast_mem nonempty)
  rw [isBoundary_before first, isBoundary_after last, place.before_iff, placed.head?_eq,
    reads.offset_eq]
  refine ⟨fun whole => ⟨whole.before, whole.after⟩, fun ⟨opens, closes⟩ => ?_⟩
  exact ⟨nonempty, place.prefix_iff.mp ⟨stop.rest, reads.rest_eq.symm⟩, inside, opens, closes⟩

end Cursor

namespace Recogniser

/-- A word is found exactly where it stands as a whole word. -/
theorem wholeWord_iff_run (nonempty : word ≠ []) (inside : ∀ c ∈ word, Text.isWord c = true)
    (place : Cursor.In text cursor) : wholeWord word cursor = some found ↔
      IsWordRun text ⟨cursor.offset, word⟩ ∧
        found = ⟨⟨cursor.offset, word⟩, ⟨cursor.offset, word⟩, none⟩ := by
  simp only [wholeWord_eq_some_iff, Cursor.literal?_eq_some_iff]
  constructor
  · rintro ⟨stop, reads, opens, closes, rfl⟩
    exact ⟨(reads.isWordRun_iff place nonempty inside).mpr ⟨opens, closes⟩, by rw [reads.upTo_eq]⟩
  · rintro ⟨whole, rfl⟩
    obtain ⟨more, split⟩ := place.prefix_iff.mpr whole.covers
    obtain ⟨stop, reads, _⟩ := Cursor.exists_reads _ split.symm
    obtain ⟨opens, closes⟩ := (reads.isWordRun_iff place nonempty inside).mp whole
    exact ⟨stop, reads, opens, closes, by rw [reads.upTo_eq]⟩

/-- A word of identifier characters is a whole run of them where it is found. -/
theorem wholeWord_name (nonempty : word ≠ []) (name : ∀ c ∈ word, Text.isNameChar c = true)
    (place : Cursor.In text cursor) (finds : wholeWord word cursor = some found) :
    found.name.text = word ∧ IsNameRun text found.name := by
  have inside := fun c member => Text.isWord_of_isNameChar (name c member)
  obtain ⟨whole, rfl⟩ := (wholeWord_iff_run nonempty inside place).mp finds
  exact ⟨rfl, whole.isNameRun name⟩

/-- The search for a word finds it wherever it stands as a whole word. -/
theorem mem_wholeWord_iff (nonempty : word ≠ []) (name : ∀ c ∈ word, Text.isNameChar c = true) :
    found ∈ (wholeWord word).occurrences text ↔
      ∃ run, IsWordRun text run ∧ run.text = word ∧ found = ⟨run, run, none⟩ := by
  have inside := fun c member => Text.isWord_of_isNameChar (name c member)
  constructor
  · intro occurs
    obtain ⟨cursor, place, finds⟩ := mem_occurrences occurs
    obtain ⟨whole, rfl⟩ := (wholeWord_iff_run nonempty inside place).mp finds
    exact ⟨_, whole, rfl, rfl⟩
  · rintro ⟨run, whole, rfl, rfl⟩
    have start : run.start ≤ text.length := by
      have := (whole.isNameRun name).start_lt_stop
      have := (whole.isNameRun name).stop_le_length
      omega
    obtain ⟨cursor, place, offset⟩ := Cursor.exists_in start
    have finds := (wholeWord_iff_run nonempty inside place).mpr ⟨offset ▸ whole, rfl⟩
    obtain ⟨kept, listed, _, early, across⟩ :=
      occurrences_complete (Covers.grounded (wholeWord_covers nonempty)) place finds
    obtain ⟨outer, seen, also⟩ := mem_occurrences listed
    -- whole words that meet are one
    obtain ⟨around, rfl⟩ := (wholeWord_iff_run nonempty inside seen).mp also
    have content := whole.isNameRun name |>.start_lt_stop
    have same := (whole.isNameRun name).unique (around.isNameRun name) (k := run.start)
      ⟨Nat.le_refl _, Nat.le_of_lt content⟩ (offset ▸ ⟨early, Nat.le_of_lt across⟩)
    exact same ▸ listed

/-- Digits, underscores and letters of every script lengthen a word; a combining mark does not. -/
example : ((wholeWord "is".toList).occurrences "this is1 is_ is\u00e9 is\u0301.is".toList).map
    (·.name.start) = [17, 21] := by decide +kernel

end Recogniser
end SymbolIndex
