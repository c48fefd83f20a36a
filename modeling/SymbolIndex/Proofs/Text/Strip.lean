import Mathlib.Data.List.TakeWhile
import SymbolIndex.Text.CharClass

/-! What is left of a text once characters are dropped from its ends: a text with none of them at its
ends, found again whatever of them is added there. -/
namespace SymbolIndex.Text
variable {text tail : Text} {p : Char → Bool} {c : Char}

theorem trim_isPrefix_dropWhile (p : Char → Bool) (text : Text) : text.trim p <+: text.dropWhile p := by
  rw [trim, ← List.reverse_suffix, List.reverse_reverse]
  exact List.dropWhile_suffix p

theorem mem_of_mem_trim (member : c ∈ text.trim p) : c ∈ text :=
  (List.dropWhile_suffix p).subset ((trim_isPrefix_dropWhile p text).subset member)

/-- The first character that is left of a text is none of those dropped from its ends. -/
theorem head?_trim (first : (text.trim p).head? = some c) : p c = false := by
  obtain ⟨more, same⟩ := trim_isPrefix_dropWhile p text
  have head : (text.dropWhile p).head? = some c := by
    rw [← same, List.head?_append, first, Option.some_or]
  have dropped := List.head?_dropWhile_not p text
  rwa [head] at dropped

theorem getLast?_trim (last : (text.trim p).getLast? = some c) : p c = false := by
  rw [trim, List.getLast?_reverse] at last
  have dropped := List.head?_dropWhile_not p (text.dropWhile p).reverse
  rwa [last] at dropped

theorem dropWhile_of_head? (kept : ∀ c, text.head? = some c → p c = false) :
    text.dropWhile p = text := by
  cases text with
  | nil => rfl
  | cons c rest => exact List.dropWhile_cons_of_neg (by simp [kept c rfl])

/-- Nothing is dropped where none of the characters stand at the ends. -/
theorem trim_of_ends (head : ∀ c, text.head? = some c → p c = false)
    (last : ∀ c, text.getLast? = some c → p c = false) : text.trim p = text := by
  have backward : text.reverse.dropWhile p = text.reverse :=
    dropWhile_of_head? fun c first => last c (by rwa [List.head?_reverse] at first)
  rw [trim, dropWhile_of_head? head, backward, List.reverse_reverse]

/-- Characters that are dropped anyway can be added at the end. -/
theorem trim_append (dropped : ∀ c ∈ tail, p c = true) (text : Text) :
    (text ++ tail).trim p = text.trim p := by
  rw [trim, trim, List.dropWhile_append]
  split
  · rename_i blank
    rw [List.isEmpty_iff.mp blank, List.dropWhile_eq_nil_iff.mpr dropped]
  · rw [List.reverse_append, List.dropWhile_append_of_pos fun c member =>
      dropped c (List.mem_reverse.mp member)]

/-- Nothing is left exactly of texts made of the dropped characters alone. -/
theorem trim_eq_nil_iff : text.trim p = [] ↔ text.all p = true := by
  rw [List.all_eq_true, ← List.dropWhile_eq_nil_iff, trim, List.reverse_eq_nil_iff,
    List.dropWhile_eq_nil_iff]
  constructor
  · intro all
    cases kept : text.dropWhile p with
    | nil => rfl
    | cons c rest =>
      have holds := all c (by simp [kept])
      have stops := List.head?_dropWhile_not p text
      rw [kept] at stops
      exact absurd holds (by simpa using stops)
  · intro none c member
    rw [none] at member
    cases member

theorem strip_newline (text : Text) : strip (text ++ ['\n']) = strip text := by
  refine trim_append (fun c member => ?_) text
  rw [List.mem_singleton.mp member]
  rfl

end SymbolIndex.Text
