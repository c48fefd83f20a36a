import SymbolIndex.Text.Basic

/-! A text taken apart at the start of a line, and the line of an offset taken apart at the
offset. -/
namespace SymbolIndex.Text
variable {text above line rest u v body : Text} {offset : Nat}

/-- Nothing, or a text whose last character ends a line. -/
def EndsLine (text : Text) : Prop := ∀ c, text.getLast? = some c → c = '\n'

theorem endsLine_nil : EndsLine [] := fun _ last => by simp at last

theorem endsLine_concat (text : Text) : EndsLine (text ++ ['\n']) := fun c last => by
  simpa using last.symm

theorem EndsLine.append (first : EndsLine u) (second : EndsLine v) : EndsLine (u ++ v) := by
  intro c last
  rw [List.getLast?_append] at last
  cases shown : v.getLast? with
  | none => exact first c (by simpa [shown] using last)
  | some d => exact second c (by simpa [shown] using last)

theorem EndsLine.of_append (ends : EndsLine (u ++ v)) : EndsLine v := fun c last =>
  ends c (by simp [List.getLast?_append, last])

theorem EndsLine.cons_inv {c : Char} (ends : EndsLine (c :: v)) : (c = '\n' ∨ v ≠ []) ∧ EndsLine v := by
  refine ⟨?_, EndsLine.of_append (u := [c]) ends⟩
  cases v with
  | nil => exact Or.inl (ends c rfl)
  | cons d v => exact Or.inr (List.cons_ne_nil d v)

/-- A text that follows whole lines has its lines after theirs. -/
theorem lines_append (ends : EndsLine u) (v : Text) : lines (u ++ v) = lines u ++ lines v := by
  induction u with
  | nil => rfl
  | cons c u ih =>
    obtain ⟨newline | more, later⟩ := ends.cons_inv
    · rw [List.cons_append, lines, lines, if_pos newline, if_pos newline, ih later]
      rfl
    · obtain ⟨d, u, rfl⟩ := List.exists_cons_of_ne_nil more
      rw [List.cons_append, lines, lines, ih later]
      split
      · rfl
      · -- the line that `c` lengthens is there, since `u` is not empty
        cases found : lines (d :: u) with
        | nil =>
          have whole := flatten_lines (d :: u)
          simp [found] at whole
        | cons line more => rfl

/-- What follows the first line starts after its newline, or is nothing. -/
theorem afterLine_cases (text : Text) :
    (∃ body, '\n' ∉ body ∧ text = body ++ '\n' :: afterLine text) ∨
      '\n' ∉ text ∧ afterLine text = [] := by
  induction text with
  | nil => exact Or.inr ⟨by simp, rfl⟩
  | cons c rest ih =>
    by_cases newline : c = '\n'
    · exact Or.inl ⟨[], by simp, by simp [afterLine, newline]⟩
    · rw [afterLine, if_neg newline]
      rcases ih with ⟨body, unbroken, same⟩ | ⟨unbroken, none⟩
      · refine Or.inl ⟨c :: body, ?_, by rw [List.cons_append, ← same]⟩
        simp [unbroken, Ne.symm newline]
      · exact Or.inr ⟨by simp [unbroken, Ne.symm newline], none⟩

theorem afterLine_append (unbroken : '\n' ∉ line) (rest : Text) :
    afterLine (line ++ rest) = afterLine rest := by
  induction line with
  | nil => rfl
  | cons c line ih =>
    rw [List.mem_cons, not_or] at unbroken
    rw [List.cons_append, afterLine, if_neg (Ne.symm unbroken.1), ih unbroken.2]

theorem afterLine_suffix (text : Text) : afterLine text <:+ text := by
  rcases afterLine_cases text with ⟨body, _, same⟩ | ⟨_, none⟩
  · exact ⟨body ++ ['\n'], by simpa using same.symm⟩
  · exact none ▸ List.nil_suffix

theorem lines_newline (unbroken : '\n' ∉ body) (rest : Text) :
    lines (body ++ '\n' :: rest) = (body ++ ['\n']) :: lines rest := by
  induction body with
  | nil => simp [lines]
  | cons c body ih =>
    rw [List.mem_cons, not_or] at unbroken
    rw [List.cons_append, lines, if_neg (Ne.symm unbroken.1), ih unbroken.2]
    rfl

theorem lines_unbroken (unbroken : '\n' ∉ body) (content : body ≠ []) : lines body = [body] := by
  induction body with
  | nil => exact absurd rfl content
  | cons c body ih =>
    rw [List.mem_cons, not_or] at unbroken
    rw [lines, if_neg (Ne.symm unbroken.1)]
    cases body with
    | nil => rfl
    | cons d body => rw [ih unbroken.2 (List.cons_ne_nil d body)]

/-- Lines with a line after them are whole. -/
theorem endsLine_of_lines {front more : List Text} (split : lines text = front ++ line :: more) :
    EndsLine front.flatten := by
  induction front generalizing text with
  | nil => exact endsLine_nil
  | cons first front ih =>
    rcases afterLine_cases text with ⟨body, unbroken, same⟩ | ⟨unbroken, _⟩
    · rw [same, lines_newline unbroken, List.cons_append] at split
      obtain ⟨rfl, later⟩ := List.cons.inj split
      exact (endsLine_concat body).append (ih later)
    · cases text with
      | nil => simp [lines] at split
      | cons c text =>
        rw [lines_unbroken unbroken (List.cons_ne_nil c text)] at split
        simp at split

/-- An offset in its line: the lines above, the line up to the offset, and what follows. -/
structure InLine (text : Text) (offset : Nat) (above line rest : Text) : Prop where
  text_eq : text = above ++ (line ++ rest)
  offset_eq : offset = above.length + line.length
  ends : EndsLine above
  unbroken : '\n' ∉ line

/-- Every text is whole lines and the beginning of one more. -/
theorem exists_lastLine (text : Text) :
    ∃ above line, text = above ++ line ∧ EndsLine above ∧ '\n' ∉ line := by
  induction text with
  | nil => exact ⟨[], [], rfl, endsLine_nil, by simp⟩
  | cons c text ih =>
    obtain ⟨above, line, rfl, ends, unbroken⟩ := ih
    cases above with
    | cons d above => exact ⟨c :: d :: above, line, rfl, fun e last => ends e last, unbroken⟩
    | nil =>
      by_cases newline : c = '\n'
      · exact ⟨[c], line, rfl, newline ▸ endsLine_concat [], unbroken⟩
      · exact ⟨[], c :: line, rfl, endsLine_nil, by simp [unbroken, Ne.symm newline]⟩

theorem exists_inLine (inside : offset ≤ text.length) :
    ∃ above line rest, InLine text offset above line rest := by
  obtain ⟨above, line, same, ends, unbroken⟩ := exists_lastLine (text.take offset)
  refine ⟨above, line, text.drop offset, ?_, ?_, ends, unbroken⟩
  · rw [← List.append_assoc, ← same, List.take_append_drop]
  · rw [← List.length_append, ← same, List.length_take]
    omega

namespace InLine
variable (place : InLine text offset above line rest)
include place

theorem drop_eq : text.drop offset = rest := by
  rw [place.text_eq, place.offset_eq, ← List.append_assoc, ← List.length_append, List.drop_left]

theorem take_eq : text.take offset = above ++ line := by
  rw [place.text_eq, place.offset_eq, ← List.append_assoc, ← List.length_append, List.take_left]

theorem lineStart_eq : lineStart text offset = above.length := by
  have kept (c : Char) (member : c ∈ line.reverse) : decide (c ≠ '\n') = true := by
    have other : c ≠ '\n' := fun newline => place.unbroken (newline ▸ List.mem_reverse.mp member)
    simpa using other
  have ended : above.reverse.takeWhile (· ≠ '\n') = [] := by
    cases shown : above.reverse with
    | nil => rfl
    | cons c more =>
      have last : c = '\n' := place.ends c (by rw [← List.head?_reverse, shown, List.head?_cons])
      simp [last]
  have counted : ((above ++ line).reverse.takeWhile (· ≠ '\n')).length = line.length := by
    rw [List.reverse_append, List.takeWhile_append_of_pos kept, ended, List.append_nil,
      List.length_reverse]
  rw [lineStart, place.take_eq]
  simp only [counted, List.length_append]
  omega

theorem drop_lineStart : text.drop (lineStart text offset) = line ++ rest := by
  rw [place.lineStart_eq, place.text_eq, List.drop_left]

end InLine
end SymbolIndex.Text
