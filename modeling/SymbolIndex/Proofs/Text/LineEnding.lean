import SymbolIndex.Text.CharClass
import SymbolIndex.Proofs.Text.Lines

/-! Texts with a carriage return written before every newline, and where their offsets, lines and
runs come to lie. -/
namespace SymbolIndex.Text
variable {text above line rest : Text} {p : Char → Bool} {a b offset : Nat}

/-- The line ending of one newline, other characters as they are. -/
def crlfChar (c : Char) : Text := if c = '\n' then ['\r', '\n'] else [c]

/-- Write a carriage return before every newline. -/
def crlf (text : Text) : Text := text.flatMap crlfChar

/-- The offset at which a text goes on once it is written with carriage returns. -/
def crlfOffset (text : Text) (offset : Nat) : Nat := (crlf (text.take offset)).length

@[simp] theorem crlf_nil : crlf [] = [] := rfl

theorem crlf_cons (c : Char) (rest : Text) : crlf (c :: rest) = crlfChar c ++ crlf rest := rfl

theorem crlf_newline (rest : Text) : crlf ('\n' :: rest) = '\r' :: '\n' :: crlf rest := rfl

theorem crlf_other {c : Char} (other : c ≠ '\n') (rest : Text) :
    crlf (c :: rest) = c :: crlf rest := by
  rw [crlf_cons, crlfChar, if_neg other, List.singleton_append]

theorem crlf_append (u v : Text) : crlf (u ++ v) = crlf u ++ crlf v := List.flatMap_append

theorem crlf_flatten (lines : List Text) : crlf lines.flatten = (lines.map crlf).flatten := by
  induction lines with
  | nil => rfl
  | cons line more ih => rw [List.flatten_cons, crlf_append, ih, List.map_cons, List.flatten_cons]

theorem crlf_of_notMem (unbroken : '\n' ∉ text) : crlf text = text := by
  induction text with
  | nil => rfl
  | cons c rest ih =>
    rw [List.mem_cons, not_or] at unbroken
    rw [crlf_other (Ne.symm unbroken.1), ih unbroken.2]

theorem length_le_crlf (text : Text) : text.length ≤ (crlf text).length := by
  induction text with
  | nil => exact Nat.zero_le _
  | cons c rest ih =>
    by_cases newline : c = '\n'
    · rw [newline, crlf_newline]
      simp only [List.length_cons]
      omega
    · rw [crlf_other newline]
      simp only [List.length_cons]
      omega

section Tests

/-- Where every character becomes characters that fare alike in a test, a run of them becomes what
it is made of. -/
theorem dropWhile_flatMap {f : Char → Text} (alike : ∀ c, f c ≠ [] ∧ ∀ d ∈ f c, p d = p c)
    (text : Text) : (text.flatMap f).dropWhile p = (text.dropWhile p).flatMap f := by
  induction text with
  | nil => rfl
  | cons c rest ih =>
    obtain ⟨content, each⟩ := alike c
    by_cases holds : p c = true
    · rw [List.flatMap_cons, List.dropWhile_append_of_pos fun d member => (each d member).trans holds,
        ih, List.dropWhile_cons_of_pos holds]
    · obtain ⟨d, more, shape⟩ := List.exists_cons_of_ne_nil content
      have stops : ¬ p d = true := by rwa [each d (by simp [shape])]
      rw [List.dropWhile_cons_of_neg holds, List.flatMap_cons, shape, List.cons_append,
        List.dropWhile_cons_of_neg stops]

variable (same : p '\n' = p '\r')
include same

theorem crlfChar_alike (c : Char) : crlfChar c ≠ [] ∧ ∀ d ∈ crlfChar c, p d = p c := by
  by_cases newline : c = '\n'
  · simp [crlfChar, newline, same]
  · simp [crlfChar, newline]

theorem all_crlf (text : Text) : (crlf text).all p = text.all p := by
  have each (c : Char) : (crlfChar c).all p = p c := by
    obtain ⟨content, alike⟩ := crlfChar_alike same c
    obtain ⟨d, more, shape⟩ := List.exists_cons_of_ne_nil content
    apply Bool.eq_iff_iff.mpr
    rw [List.all_eq_true]
    refine ⟨fun all => ?_, fun holds e member => (alike e member).trans holds⟩
    rw [← alike d (by simp [shape])]
    exact all d (by simp [shape])
  rw [crlf, List.all_flatMap]
  exact congrArg (text.all ·) (funext each)

theorem any_head_crlf (text : Text) : (crlf text).head?.any p = text.head?.any p := by
  cases text with
  | nil => rfl
  | cons c rest =>
    by_cases newline : c = '\n'
    · rw [newline, crlf_newline]
      exact same.symm
    · rw [crlf_other newline]
      rfl

theorem dropWhile_crlf (text : Text) : (crlf text).dropWhile p = crlf (text.dropWhile p) :=
  dropWhile_flatMap (crlfChar_alike same) text

theorem takeWhile_crlf (text : Text) : (crlf text).takeWhile p = crlf (text.takeWhile p) := by
  have whole := crlf_append (text.takeWhile p) (text.dropWhile p)
  rw [List.takeWhile_append_dropWhile, ← dropWhile_crlf same] at whole
  exact List.append_cancel_right (List.takeWhile_append_dropWhile.trans whole)

theorem trim_crlf (text : Text) : trim p (crlf text) = crlf (trim p text) := by
  have backward (text : Text) : (crlf text).reverse = text.reverse.flatMap (List.reverse ∘ crlfChar) :=
    List.reverse_flatMap ..
  have alike (c : Char) : (List.reverse ∘ crlfChar) c ≠ [] ∧
      ∀ d ∈ (List.reverse ∘ crlfChar) c, p d = p c := by
    simpa using crlfChar_alike same c
  rw [trim, dropWhile_crlf same, backward, dropWhile_flatMap alike, List.reverse_flatMap, trim]
  simp [crlf, Function.comp_def]

end Tests

theorem strip_crlf (text : Text) : strip (crlf text) = crlf (strip text) := trim_crlf (by decide) text

theorem allBlank_crlf (text : Text) : allBlank (crlf text) = allBlank text := all_crlf (by decide) text

theorem afterLine_crlf (text : Text) : afterLine (crlf text) = crlf (afterLine text) := by
  induction text with
  | nil => rfl
  | cons c rest ih =>
    by_cases newline : c = '\n'
    · rw [newline, crlf_newline]
      rfl
    · rw [crlf_other newline, afterLine, afterLine, if_neg newline, if_neg newline, ih]

theorem lines_crlf (text : Text) : lines (crlf text) = (lines text).map crlf := by
  induction text with
  | nil => rfl
  | cons c rest ih =>
    by_cases newline : c = '\n'
    · rw [newline, crlf_newline]
      simp [lines, ih]
      rfl
    · rw [crlf_other newline, lines, lines, if_neg newline, if_neg newline, ih]
      cases lines rest with
      | nil => simp [crlf_other newline]
      | cons line more => simp [crlf_other newline]

theorem getLast?_crlf (text : Text) : (crlf text).getLast? = text.getLast? := by
  rcases List.eq_nil_or_concat text with rfl | ⟨front, c, rfl⟩
  · rfl
  · rw [List.concat_eq_append, crlf_append]
    by_cases newline : c = '\n'
    · simp [newline, crlf_newline, List.getLast?_append]
    · simp [crlf_other newline]

theorem endsLine_crlf (ends : EndsLine text) : EndsLine (crlf text) := fun c last =>
  ends c ((getLast?_crlf text).symm.trans last)

theorem count_crlf (text : Text) : (crlf text).count '\n' = text.count '\n' := by
  induction text with
  | nil => rfl
  | cons c rest ih =>
    by_cases newline : c = '\n'
    · rw [newline, crlf_newline]
      simp [ih]
    · rw [crlf_other newline]
      simp [newline, ih]

theorem crlfOffset_length (text : Text) : crlfOffset text text.length = (crlf text).length := by
  rw [crlfOffset, List.take_length]

theorem crlf_split (text : Text) (offset : Nat) :
    crlf text = crlf (text.take offset) ++ crlf (text.drop offset) := by
  rw [← crlf_append, List.take_append_drop]

/-- What stands before an offset is written before the offset it goes to. -/
theorem take_crlf (text : Text) (offset : Nat) :
    (crlf text).take (crlfOffset text offset) = crlf (text.take offset) := by
  rw [crlf_split text offset, crlfOffset, List.take_left]

theorem drop_crlf (text : Text) (offset : Nat) :
    (crlf text).drop (crlfOffset text offset) = crlf (text.drop offset) := by
  rw [crlf_split text offset, crlfOffset, List.drop_left]

/-- What stands between two offsets is written between those they go to. -/
theorem crlfOffset_add (text : Text) (offset n : Nat) : crlfOffset text (offset + n) =
    crlfOffset text offset + (crlf ((text.drop offset).take n)).length := by
  rw [crlfOffset, crlfOffset, List.take_add, crlf_append, List.length_append]

theorem slice_crlf (text : Text) (start stop : Nat) :
    slice (crlf text) (crlfOffset text start) (crlfOffset text stop) =
      crlf (slice text start stop) := by
  rcases Nat.le_total start stop with ordered | reversed
  · obtain ⟨n, rfl⟩ := Nat.exists_eq_add_of_le ordered
    rw [slice, slice, drop_crlf, crlfOffset_add, Nat.add_sub_cancel_left, Nat.add_sub_cancel_left]
    exact take_crlf (text.drop start) n
  · obtain ⟨n, rfl⟩ := Nat.exists_eq_add_of_le reversed
    have none (m : Nat) : stop - (stop + m) = 0 := by omega
    rw [slice, slice, crlfOffset_add, none, Nat.sub_eq_zero_of_le (Nat.le_add_right _ _)]
    rfl

theorem crlfOffset_le_iff (aInside : a ≤ text.length) (bInside : b ≤ text.length) :
    crlfOffset text a ≤ crlfOffset text b ↔ a ≤ b := by
  constructor
  · intro ordered
    refine Nat.le_of_not_lt fun before => ?_
    obtain ⟨n, rfl⟩ := Nat.exists_eq_add_of_le (Nat.le_of_lt before)
    have longer := length_le_crlf ((text.drop b).take n)
    rw [List.length_take, List.length_drop, Nat.min_eq_left (by omega)] at longer
    rw [crlfOffset_add] at ordered
    omega
  · intro ordered
    obtain ⟨n, rfl⟩ := Nat.exists_eq_add_of_le ordered
    rw [crlfOffset_add]
    exact Nat.le_add_right _ _

/-- Only the newlines of the lines above an offset move it. -/
theorem InLine.crlf (place : InLine text offset above line rest) :
    InLine (crlf text) (crlfOffset text offset) (crlf above) line (crlf rest) := by
  have kept : Text.crlf line = line := crlf_of_notMem place.unbroken
  refine ⟨?_, ?_, endsLine_crlf place.ends, place.unbroken⟩
  · rw [place.text_eq, crlf_append, crlf_append, kept]
  · rw [crlfOffset, place.take_eq, crlf_append, kept, List.length_append]

end SymbolIndex.Text
