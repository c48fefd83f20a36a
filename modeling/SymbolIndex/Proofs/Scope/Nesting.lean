import Mathlib.Data.List.Infix
import Mathlib.Data.List.TakeWhile
import SymbolIndex.Proofs.Scope.Ranges

/-! Class bodies nest. Each end is found by a walk of its own; two walks agree because a line that
stays in the body of a deeper class stays in that of a shallower one. The exception is a header on
a line that no walk ends at. -/
namespace SymbolIndex
variable {text above line rest u v body : Text} {indent outer inner a b : Nat}
  {range other : ClassRange} {offset : Int}

/-- The header stands on a line that ends no body: after its leading spaces that line goes on with
`#` or a carriage return. -/
def ClassRange.Masked (text : Text) (range : ClassRange) : Prop :=
  let line := text.drop (Text.lineStart text range.headerStart)
  (line.dropWhile (· = ' ')).head? = some '#' ∨ (line.dropWhile (· = ' ')).head? = some '\r'

instance (text : Text) (range : ClassRange) : Decidable (range.Masked text) :=
  inferInstanceAs (Decidable (_ ∨ _))

namespace Scope

/-- A newline and what comes after it do not matter to the line before. -/
theorem staysInBody_newline (indent : Nat) (body rest : Text) :
    staysInBody indent (body ++ '\n' :: rest) = staysInBody indent body := by
  have spaces : (body ++ '\n' :: rest).takeWhile (· = ' ') = body.takeWhile (· = ' ') := by
    induction body with
    | nil => rfl
    | cons c body ih => by_cases space : c = ' ' <;> simp [space, ih]
  have skippable : isSkippable (body ++ '\n' :: rest) = isSkippable body := by
    simp only [isSkippable, List.dropWhile_append]
    cases shown : body.dropWhile (· = ' ') <;> simp
  rw [staysInBody, staysInBody, indentOf, indentOf, spaces, skippable]

/-- Whole lines either all stay in the body or hold its end. -/
theorem bodyLength_append (ends : Text.EndsLine u) (indent : Nat) (v : Text) :
    bodyLength indent (u ++ v) ≤ u.length ∨
      bodyLength indent (u ++ v) = u.length + bodyLength indent v := by
  rw [bodyLength, Text.lines_append ends, List.takeWhile_append]
  split
  · rw [List.flatten_append, List.length_append, Text.flatten_lines]
    exact Or.inr rfl
  · left
    have kept := (List.takeWhile_prefix (l := Text.lines u) (staysInBody indent)).flatten.length_le
    rwa [Text.flatten_lines] at kept

/-- A first line that stays is followed by what stays of the rest; one that does not ends the
body at once. -/
theorem bodyLength_line (indent : Nat) (content : v ≠ []) :
    if staysInBody indent v then
      bodyLength indent v + (Text.afterLine v).length =
        v.length + bodyLength indent (Text.afterLine v)
    else bodyLength indent v = 0 := by
  rcases Text.afterLine_cases v with ⟨body, unbroken, same⟩ | ⟨unbroken, none⟩
  · have stays : staysInBody indent (body ++ ['\n']) = staysInBody indent v := by
      rw [same, staysInBody_newline, staysInBody_newline]
    have walked : bodyLength indent v =
        (((body ++ ['\n']) :: Text.lines (Text.afterLine v)).takeWhile
          (staysInBody indent)).flatten.length := by
      rw [← Text.lines_newline unbroken, ← same]
      rfl
    have length := congrArg List.length same
    rw [List.length_append, List.length_cons] at length
    rw [walked, List.takeWhile_cons, stays]
    split
    · rw [List.flatten_cons, List.length_append, List.length_append, List.length_singleton, bodyLength]
      omega
    · rfl
  · rw [none, bodyLength, Text.lines_unbroken unbroken content, List.takeWhile_cons]
    split
    · simp [bodyLength, Text.lines]
    · rfl

/-- A line of a deeper body is a line of a shallower one. -/
theorem staysInBody_anti (deeper : outer ≤ inner) (stays : staysInBody inner line = true) :
    staysInBody outer line = true := by
  simp only [staysInBody, Bool.or_eq_true, decide_eq_true_eq] at stays ⊢
  rcases stays with skipped | inside
  · exact Or.inl skipped
  · exact Or.inr (Nat.lt_of_le_of_lt deeper inside)

/-- The deeper the class, the shorter the body. -/
theorem bodyLength_anti (deeper : outer ≤ inner) (text : Text) :
    bodyLength inner text ≤ bodyLength outer text := by
  have both (line : Text) :
      (staysInBody inner line = true ∧ staysInBody outer line = true) ↔
        staysInBody inner line = true := and_iff_left_of_imp (staysInBody_anti deeper)
  have twice : (Text.lines text).takeWhile (staysInBody inner) =
      ((Text.lines text).takeWhile (staysInBody outer)).takeWhile (staysInBody inner) := by
    rw [List.takeWhile_takeWhile]
    simp only [both, Bool.decide_eq_true]
  rw [bodyLength, twice]
  exact (List.takeWhile_prefix _).flatten.length_le

/-- Headers on one line bound one body. -/
theorem sameLine (place : Text.InLine text a above line (u ++ v)) (unbroken : '\n' ∉ u) :
    bodyStart text (a + u.length) = bodyStart text a ∧
      classEnd text (a + u.length) = classEnd text a := by
  have further : Text.InLine text (a + u.length) above (line ++ u) v := by
    refine ⟨by simp [place.text_eq], by simp [place.offset_eq, Nat.add_assoc], place.ends, ?_⟩
    simp [place.unbroken, unbroken]
  have starts : bodyStart text (a + u.length) = bodyStart text a := by
    rw [bodyStart, bodyStart, further.drop_eq, place.drop_eq, Text.afterLine_append unbroken]
  have indents : headerIndent text (a + u.length) = headerIndent text a := by
    rw [headerIndent_eq further, headerIndent_eq place, List.append_assoc]
  exact ⟨starts, by rw [classEnd, classEnd, starts, indents]⟩

/-- An offset past a newline lies on a line that starts past it. -/
theorem exists_lines_between {first after : Text} (whole : text = first ++ '\n' :: after)
    (place : Text.InLine text b above line rest) (past : first.length < b) :
    ∃ u, Text.EndsLine u ∧ above = first ++ '\n' :: u ∧ after = u ++ (line ++ rest) := by
  have split : (first ++ ['\n']) ++ after = above ++ (line ++ rest) := by
    rw [← place.text_eq, whole, List.append_assoc, List.singleton_append]
  rcases List.append_eq_append_iff.mp split with ⟨u, rfl, same⟩ | ⟨early, covers, same⟩
  · exact ⟨u, place.ends.of_append, by simp, same⟩
  · -- the line would reach back across the newline
    have offset := place.offset_eq
    have length := congrArg List.length covers
    rw [List.length_append, List.length_append, List.length_singleton] at length
    rcases List.eq_nil_or_concat' early with rfl | ⟨early, c, rfl⟩
    · exact ⟨[], Text.endsLine_nil, by simpa using covers.symm, by simpa using same.symm⟩
    · rw [← List.append_assoc] at covers
      obtain rfl : '\n' = c := List.singleton_inj.mp (List.append_inj' covers rfl).2
      have within : early ++ ['\n'] <+: line :=
        List.prefix_of_prefix_length_le (same ▸ List.prefix_append _ after)
          (List.prefix_append line rest) (by omega)
      exact absurd (within.mem (by simp)) place.unbroken

/-- The first character after the leading spaces of a line with a letter on it. -/
theorem firstShown_mem {c : Char} (letter : c ≠ ' ') (line rest : Text) :
    ∃ d more, (line ++ c :: rest).dropWhile (· = ' ') = d :: more ∧ d ∈ line ++ [c] := by
  induction line with
  | nil => exact ⟨c, rest, by simp [letter], by simp⟩
  | cons e line ih =>
    by_cases space : e = ' '
    · obtain ⟨d, more, shown, member⟩ := ih
      exact ⟨d, more, by simpa [space] using shown, List.mem_cons_of_mem e member⟩
    · exact ⟨e, line ++ c :: rest, by simp [space], by simp⟩

/-- A header below the line of an earlier one is past its body, or has its own body within it, or
is on a line that ends no body. -/
theorem classEnd_below {first after : Text} (whole : text = first ++ '\n' :: after)
    (start : bodyStart text a = first.length + 1)
    (place : Text.InLine text b above line ('c' :: rest)) (past : first.length < b) :
    classEnd text a ≤ bodyStart text b ∨
    bodyStart text a ≤ bodyStart text b ∧ classEnd text b ≤ classEnd text a ∨
    isSkippable (line ++ 'c' :: rest) = true := by
  obtain ⟨between, ends, covers, same⟩ := exists_lines_between whole place past
  have outerEnd : classEnd text a =
      bodyStart text a + bodyLength (headerIndent text a) (between ++ (line ++ 'c' :: rest)) := by
    have after : text.drop (first.length + 1) = between ++ (line ++ 'c' :: rest) := by
      rw [whole, ← List.drop_drop, List.drop_left, List.drop_succ_cons, List.drop_zero, same]
    rw [classEnd, start, after]
  have innerEnd : classEnd text b = bodyStart text b +
      bodyLength (headerIndent text b) (Text.afterLine (line ++ 'c' :: rest)) := by
    rw [classEnd, drop_bodyStart, place.drop_eq, Text.afterLine_append place.unbroken]
  have counted := length_afterLine text b
  rw [place.drop_eq, ← Text.afterLine_append place.unbroken] at counted
  have length := congrArg List.length place.text_eq
  rw [List.length_append, congrArg List.length covers, List.length_append, List.length_cons]
    at length
  have shorter := (Text.afterLine_suffix (line ++ 'c' :: rest)).length_le
  rcases bodyLength_append ends (headerIndent text a) (line ++ 'c' :: rest) with ended | longer
  · left
    omega
  have onLine := bodyLength_line (headerIndent text a) (show line ++ 'c' :: rest ≠ [] by simp)
  split at onLine
  · rename_i stays
    right
    rw [staysInBody, Bool.or_eq_true, decide_eq_true_eq, ← headerIndent_eq place] at stays
    rcases stays with skipped | deeper
    · exact Or.inr skipped
    · have within := bodyLength_anti (Nat.le_of_lt deeper)
        (Text.afterLine (line ++ 'c' :: rest))
      left
      omega
  · left
    omega

/-- A later header is on the line of the earlier one, or past its body, or has its body within that
of the earlier, or is on a line that ends no body. -/
theorem classEnd_later (outerPlace : Text.InLine text a u v body)
    (place : Text.InLine text b above line ('c' :: rest)) (before : a < b) :
    bodyStart text b = bodyStart text a ∧ classEnd text b = classEnd text a ∨
    classEnd text a ≤ bodyStart text b ∨
    bodyStart text a ≤ bodyStart text b ∧ classEnd text b ≤ classEnd text a ∨
    isSkippable (line ++ 'c' :: rest) = true := by
  have lengths := congrArg List.length (outerPlace.text_eq.symm.trans place.text_eq)
  have first := outerPlace.offset_eq
  have second := place.offset_eq
  simp only [List.length_append] at lengths
  have near (unbroken : '\n' ∉ body.take (b - a)) :
      bodyStart text b = bodyStart text a ∧ classEnd text b = classEnd text a := by
    have parted := outerPlace
    rw [← List.take_append_drop (b - a) body] at parted
    have same := sameLine parted unbroken
    rwa [List.length_take, Nat.min_eq_left (by omega), Nat.add_sub_cancel' (Nat.le_of_lt before)]
      at same
  rcases Text.afterLine_cases body with ⟨header, unbroken, same⟩ | ⟨unbroken, _⟩
  · rcases Nat.lt_or_ge header.length (b - a) with far | close
    · have whole : text = (u ++ (v ++ header)) ++ '\n' :: Text.afterLine body := by
        conv => lhs; rw [outerPlace.text_eq, same]
        simp
      have length := congrArg List.length whole
      have counted := length_afterLine text a
      rw [outerPlace.drop_eq] at counted
      rw [List.length_append, List.length_cons] at length
      refine Or.inr (classEnd_below whole (by omega) place ?_)
      simp only [List.length_append]
      omega
    · refine Or.inl (near fun newline => unbroken ?_)
      rw [same, List.take_append_of_le_length close] at newline
      exact List.mem_of_mem_take newline
  · exact Or.inl (near fun newline => unbroken (List.mem_of_mem_take newline))

/-- Of two classes the later one lies past the body of the earlier or within it, unless its header
is masked. -/
theorem nested (member : range ∈ classRanges text) (also : other ∈ classRanges text)
    (before : range.headerStart < other.headerStart) :
    range.bodyEnd ≤ other.bodyStart ∨
      range.bodyStart ≤ other.bodyStart ∧ other.bodyEnd ≤ range.bodyEnd ∨ other.Masked text := by
  obtain ⟨header, _, rfl, _, _, _, outerPlace⟩ := mem_classRanges member
  obtain ⟨inner, _, rfl, above, line, rest, place⟩ := mem_classRanges also
  rcases classEnd_later outerPlace place before with ⟨starts, ends⟩ | past | within | skipped
  · exact Or.inr (Or.inl ⟨Nat.le_of_eq starts.symm, Nat.le_of_eq ends⟩)
  · exact Or.inl past
  · exact Or.inr (Or.inl within)
  · right
    right
    obtain ⟨d, more, shown, listed⟩ := firstShown_mem (c := 'c') (by decide) line rest
    have notNewline : d ≠ '\n' := by
      rintro rfl
      rcases List.mem_append.mp listed with early | letter
      · exact place.unbroken early
      · simp at letter
    rw [isSkippable, shown] at skipped
    rw [ClassRange.Masked]
    simp only [place.drop_lineStart, shown, List.head?_cons, Option.some.injEq]
    simpa [notNewline, or_comm] using skipped

end Scope

open Scope in
/-- Of two class bodies the later one is contained in the earlier, or they share no offset, unless the
later header is masked. -/
theorem classBodies_nest (text : Text) :
    (∀ range ∈ classRanges text, ∀ other ∈ classRanges text,
      range.headerStart < other.headerStart →
        (∀ offset, ¬ (range.contains offset = true ∧ other.contains offset = true)) ∨
        (∀ offset, other.contains offset = true → range.contains offset = true) ∨
        other.Masked text) ∧
    ((∀ range ∈ classRanges text, ¬ range.Masked text) → ∀ offset,
      match (Scopes.ofText text).rangeAt? offset with
      | some range => range ∈ classRanges text ∧ range.contains offset = true ∧
          ∀ other ∈ classRanges text, other.contains offset = true →
            ∀ inside, range.contains inside = true → other.contains inside = true
      | none => ∀ other ∈ classRanges text, other.contains offset = false) := by
  have split {range other : ClassRange} (member : range ∈ classRanges text)
      (also : other ∈ classRanges text) (before : range.headerStart < other.headerStart) :
      (∀ offset, ¬ (range.contains offset = true ∧ other.contains offset = true)) ∨
        (∀ offset, other.contains offset = true → range.contains offset = true) ∨
        other.Masked text := by
    simp only [ClassRange.contains_iff]
    rcases nested member also before with past | within | masked
    · exact Or.inl fun offset both => by omega
    · exact Or.inr (Or.inl fun offset inside => by omega)
    · exact Or.inr (Or.inr masked)
  refine ⟨fun range member other also before => split member also before, ?_⟩
  intro clear offset
  split
  · rename_i range found
    obtain ⟨member, holds, last⟩ := Scopes.rangeAt?_eq_some found
    refine ⟨member, holds, fun other also inside => ?_⟩
    rcases last other also inside with rfl | before
    · exact fun _ same => same
    rcases split also member before with apart | within | masked
    · exact absurd ⟨inside, holds⟩ (apart offset)
    · exact within
    · exact absurd masked (clear range member)
  · rename_i missing
    rw [Scopes.rangeAt?_eq] at missing
    intro other also
    simpa using List.find?_eq_none.mp missing other (List.mem_reverse.mpr also)

theorem classBodies_nest_inner :
    let text := "class A:\n class B:\n  x\n y\n".toList
    ∃ inner ∈ Scope.classRanges text, (Scopes.ofText text).rangeAt? 21 = some inner ∧
      inner.name = ['B'] ∧ ∀ other ∈ Scope.classRanges text, other.contains 21 = true →
        ∀ inside, inner.contains inside = true → other.contains inside = true := by
  have clear : ∀ range ∈ Scope.classRanges "class A:\n class B:\n  x\n y\n".toList,
      ¬ range.Masked "class A:\n class B:\n  x\n y\n".toList := by decide
  have found : (Scopes.ofText "class A:\n class B:\n  x\n y\n".toList).rangeAt? 21 =
      some ⟨['B'], 10, 16, 19, 23, 1⟩ := by
    rw [Scopes.rangeAt?_eq]
    decide
  have innermost := (classBodies_nest "class A:\n class B:\n  x\n y\n".toList).2 clear 21
  rw [found] at innermost
  exact ⟨⟨['B'], 10, 16, 19, 23, 1⟩, innermost.1, found, rfl, innermost.2.2⟩

/-- The body of a masked header overlaps the body around it and is not within it. -/
example :
    let text := "  class A:\n# class B:\n    x\n  y\n".toList
    ∃ range ∈ Scope.classRanges text, ∃ other ∈ Scope.classRanges text, other.Masked text ∧
      (range.contains 22 && other.contains 22) = true ∧
      (!range.contains 28 && other.contains 28) = true := by decide

end SymbolIndex
