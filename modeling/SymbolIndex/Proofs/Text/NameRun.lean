import SymbolIndex.Text.Word
import SymbolIndex.Pattern.Cursor
import SymbolIndex.Proofs.LineIndex

/-! Whole runs of identifier characters: stretches of a text that are not empty and cannot be
lengthened on either side. A position touches at most one of them. -/
namespace SymbolIndex
variable {text : Text} {run other : Capture} {i k s n : Nat} {c : Char}

namespace Text

theorem isNameChar_newline : isNameChar '\n' = false := by decide

/-- Blanks do not occur in identifiers. -/
theorem isNameChar_of_isBlank (blank : isBlank c = true) : isNameChar c = false := by
  have code : ∀ d : Char, d.val.toNat = d.toNat := fun _ => rfl
  simp only [isBlank, Bool.or_eq_true, Bool.and_eq_true, decide_eq_true_eq] at blank
  delta isNameChar Char.isAlphanum Char.isAlpha Char.isUpper Char.isLower Char.isDigit
  simp only [Bool.or_eq_false_iff, Bool.and_eq_false_iff, decide_eq_false_iff_not, UInt32.le_iff_toNat_le,
    code, Char.reduceToNat, ge_iff_le]
  refine ⟨by omega, ?_⟩
  intro underscore
  subst underscore
  simp at blank

theorem isNameChar_of_not_isWord (other : isWord c = false) : isNameChar c = false := by
  apply Bool.eq_false_iff.mpr
  intro name
  exact Bool.false_ne_true (other.symm.trans (isWord_of_isNameChar name))

/-- What a longest prefix of characters satisfying `p` stops at does not satisfy `p`. -/
theorem stop_takeWhile {p : Char → Bool} (stop : text[(text.takeWhile p).length]? = some c) :
    p c = false := by
  induction text with
  | nil => simp at stop
  | cons d rest ih =>
    by_cases holds : p d = true
    · exact ih (by simpa [holds] using stop)
    · have same : d = c := by simpa [holds] using stop
      simpa [same] using holds

/-- Characters that all satisfy `p` belong to the longest prefix that does. -/
theorem le_length_takeWhile {p : Char → Bool}
    (all : ∀ i, i < n → ∃ c, text[i]? = some c ∧ p c = true) :
    n ≤ (text.takeWhile p).length := by
  induction n generalizing text with
  | zero => exact Nat.zero_le _
  | succ n ih =>
    cases text with
    | nil =>
      obtain ⟨c, found, _⟩ := all 0 (Nat.zero_lt_succ n)
      simp at found
    | cons d rest =>
      obtain ⟨c, found, holds⟩ := all 0 (Nat.zero_lt_succ n)
      have same : d = c := by simpa using found
      subst same
      have later : n ≤ (rest.takeWhile p).length :=
        ih fun i small => by simpa using all (i + 1) (by omega)
      simpa [holds] using later

theorem getElem?_takeWhile {p : Char → Bool} (small : i < (text.takeWhile p).length) :
    (text.takeWhile p)[i]? = text[i]? := by
  obtain ⟨rest, same⟩ := List.takeWhile_prefix (l := text) p
  conv => rhs; rw [← same]
  rw [List.getElem?_append_left small]

theorem getElem?_slice {start stop : Nat} (small : i < stop - start) :
    (text.slice start stop)[i]? = text[start + i]? := by
  rw [slice, List.getElem?_take_of_lt small, List.getElem?_drop]

theorem mem_slice_iff {c : Char} {start stop : Nat} :
    c ∈ text.slice start stop ↔ ∃ i, start ≤ i ∧ i < stop ∧ text[i]? = some c := by
  constructor
  · intro member
    obtain ⟨i, bound, same⟩ := List.getElem_of_mem member
    have small : i < stop - start := Nat.lt_of_lt_of_le bound (List.length_take_le _ _)
    refine ⟨start + i, Nat.le_add_right _ _, by omega, ?_⟩
    rw [← getElem?_slice small, List.getElem?_eq_getElem bound, same]
  · rintro ⟨i, late, early, seen⟩
    have shown : (text.slice start stop)[i - start]? = text[start + (i - start)]? :=
      getElem?_slice (by omega)
    rw [Nat.add_sub_cancel' late, seen] at shown
    exact List.mem_of_getElem? shown

end Text

/-- A stretch of a text that is a whole run of identifier characters. -/
structure IsNameRun (text : Text) (run : Capture) : Prop where
  nonempty : run.text ≠ []
  covers : text.slice run.start run.stop = run.text
  name : ∀ c ∈ run.text, Text.isNameChar c = true
  before : ∀ c, 0 < run.start → text[run.start - 1]? = some c → Text.isNameChar c = false
  after : ∀ c, text[run.stop]? = some c → Text.isNameChar c = false

namespace IsNameRun

theorem start_lt_stop (whole : IsNameRun text run) : run.start < run.stop := by
  have := List.length_pos_iff.mpr whole.nonempty
  simp only [Capture.stop]
  omega

theorem stop_le_length (whole : IsNameRun text run) : run.stop ≤ text.length := by
  have cut := congrArg List.length whole.covers
  have := whole.start_lt_stop
  simp only [Text.slice, Capture.stop, List.length_take, List.length_drop] at cut this ⊢
  omega

/-- Every character of the run is an identifier character of the text. -/
theorem inside (whole : IsNameRun text run) (low : run.start ≤ i) (high : i < run.stop) :
    ∃ c, text[i]? = some c ∧ Text.isNameChar c = true := by
  have small : i - run.start < run.text.length := by
    simp only [Capture.stop] at high
    omega
  have same : (text.slice run.start run.stop)[i - run.start]? = text[run.start + (i - run.start)]? :=
    Text.getElem?_slice (by omega)
  rw [whole.covers, List.getElem?_eq_getElem small, Nat.add_sub_cancel' low] at same
  exact ⟨_, same.symm, whole.name _ (List.getElem_mem small)⟩

private theorem start_le (first : IsNameRun text run) (second : IsNameRun text other) :
    run.start ≤ other.start ∨ other.stop < run.start := by
  rcases Nat.lt_or_ge other.start run.start with late | early
  · refine Or.inr (Nat.lt_of_not_le fun overlap => ?_)
    obtain ⟨c, found, name⟩ := second.inside (i := run.start - 1) (by omega) (by omega)
    have apart := first.before c (by omega) found
    exact Bool.false_ne_true (apart.symm.trans name)
  · exact Or.inl early

private theorem stop_le (first : IsNameRun text run) (second : IsNameRun text other)
    (same : run.start = other.start) : run.stop ≤ other.stop := by
  apply Nat.le_of_not_lt
  intro longer
  have := second.start_lt_stop
  obtain ⟨c, found, name⟩ := first.inside (i := other.stop) (by omega) longer
  exact Bool.false_ne_true ((second.after c found).symm.trans name)

/-- Two runs that touch one position are the same run. -/
theorem unique (first : IsNameRun text run) (second : IsNameRun text other)
    (touches : run.start ≤ k ∧ k ≤ run.stop) (alsoTouches : other.start ≤ k ∧ k ≤ other.stop) :
    run = other := by
  have starts : run.start = other.start := by
    rcases first.start_le second with left | apart
    · rcases second.start_le first with right | apart
      · omega
      · omega
    · omega
  have stops : run.stop = other.stop :=
    Nat.le_antisymm (first.stop_le second starts) (second.stop_le first starts.symm)
  have texts : run.text = other.text := by
    rw [← first.covers, ← second.covers, starts, stops]
  cases run
  cases other
  simp_all

/-- There is more than blanks in a text with a run. -/
theorem not_allBlank (whole : IsNameRun text run) : Text.allBlank text = false := by
  obtain ⟨c, found, name⟩ := whole.inside (Nat.le_refl run.start) whole.start_lt_stop
  refine Bool.eq_false_iff.mpr fun blanks => ?_
  have blank := List.all_eq_true.mp blanks c (List.mem_of_getElem? found)
  simp [Text.isNameChar_of_isBlank blank] at name

/-- No newline stands in a run. -/
theorem newline_notMem (whole : IsNameRun text run) : '\n' ∉ run.text := by
  intro member
  have := whole.name _ member
  simp [Text.isNameChar_newline] at this

open LineIndex in
/-- All offsets of a run are on one line. -/
theorem onLine_inside (whole : IsNameRun text run) (place : OnLine text run.start k s)
    (low : run.start ≤ i) (high : i < run.stop) : OnLine text i k s := by
  refine ⟨place.started, Nat.le_trans place.reached low, fun j late early => ?_⟩
  rcases Nat.lt_or_ge j run.start with before | inside
  · exact place.unbroken j late before
  · obtain ⟨c, seen, name⟩ := whole.inside inside (Nat.lt_trans early high)
    rintro newline
    obtain rfl := Option.some.inj (seen.symm.trans newline)
    simp [Text.isNameChar_newline] at name

open LineIndex in
/-- A run of the text is a run of the line it stands on. -/
theorem onLine (whole : IsNameRun text run) (place : OnLine text run.start k s) :
    IsNameRun ((text.drop s).takeWhile (· ≠ '\n')) ⟨run.start - s, run.text⟩ := by
  have reached := place.reached
  have positive := whole.start_lt_stop
  have length : run.stop = run.start + run.text.length := rfl
  have enough : run.stop - s ≤ ((text.drop s).takeWhile (· ≠ '\n')).length := by
    apply Text.le_length_takeWhile
    intro i small
    rw [List.getElem?_drop]
    rcases Nat.lt_or_ge (s + i) run.start with early | late
    · have bound : s + i < text.length := by
        have := whole.stop_le_length
        omega
      refine ⟨text[s + i], List.getElem?_eq_getElem bound, ?_⟩
      have kept := place.unbroken (s + i) (Nat.le_add_right s i) early
      rw [List.getElem?_eq_getElem bound] at kept
      simpa using kept
    · obtain ⟨c, found, name⟩ := whole.inside late (by omega)
      refine ⟨c, found, ?_⟩
      have other : c ≠ '\n' := by
        intro newline
        simp [newline, Text.isNameChar_newline] at name
      simpa using other
  have same (i : Nat) (small : i < ((text.drop s).takeWhile (· ≠ '\n')).length) :
      ((text.drop s).takeWhile (· ≠ '\n'))[i]? = text[s + i]? := by
    rw [Text.getElem?_takeWhile small, List.getElem?_drop]
  refine ⟨whole.nonempty, ?_, whole.name, ?_, ?_⟩
  · apply List.ext_getElem?
    intro i
    simp only [Capture.stop]
    rcases Nat.lt_or_ge i run.text.length with small | big
    · rw [Text.getElem?_slice (by omega), same _ (by omega), ← whole.covers,
        Text.getElem?_slice (by omega)]
      congr 1
      omega
    · rw [List.getElem?_eq_none big, List.getElem?_eq_none]
      simp only [Text.slice, List.length_take]
      omega
  · intro c late found
    have late : 0 < run.start - s := late
    have found : ((text.drop s).takeWhile (· ≠ '\n'))[run.start - s - 1]? = some c := found
    rw [same _ (by omega)] at found
    refine whole.before c (by omega) ?_
    rwa [show s + (run.start - s - 1) = run.start - 1 by omega] at found
  · intro c found
    have found : ((text.drop s).takeWhile (· ≠ '\n'))[run.start - s + run.text.length]? = some c :=
      found
    obtain ⟨bound, _⟩ := List.getElem?_eq_some_iff.mp found
    rw [same _ bound] at found
    refine whole.after c ?_
    rwa [show s + (run.start - s + run.text.length) = run.stop by omega] at found

end IsNameRun
end SymbolIndex
