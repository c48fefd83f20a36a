import SymbolIndex.Proofs.LineIndex
import SymbolIndex.Proofs.Scope.Nesting

/-! Where a class body ends: at the first line below the header that ends it, or with the text. The
end is computed from the lines that stay in the body; here it is what a walk from line to line
arrives at, and what the offsets of the lines alone determine. -/
namespace SymbolIndex
variable {text : Text} {indent header start stop other i s : Nat}

namespace Scope

/-- A line lets a body go on: there is nothing on it, or a comment, or it goes on with a carriage
return, or it is indented more deeply than the header. -/
def GoesOn (text : Text) (indent start : Nat) : Prop :=
  (∀ c, ((text.drop start).dropWhile (· = ' ')).head? = some c → c = '\n' ∨ c = '\r' ∨ c = '#') ∨
    indent < indentOf (text.drop start)

/-- The body below the line at `header` ends at `stop`: every line before goes on, and the text
ends there or a line that does not go on starts. -/
structure EndsBody (text : Text) (header stop : Nat) : Prop where
  inside : ∀ start ∈ text.lineStarts, header < start → start < stop →
    GoesOn text (indentOf (text.drop header)) start
  reached : stop = text.length ∨
    stop ∈ text.lineStarts ∧ header < stop ∧ ¬ GoesOn text (indentOf (text.drop header)) stop

/-- A walk that looks at one line after the other, from the line at the first offset on. -/
inductive Walks (text : Text) (indent : Nat) : Nat → Nat → Prop
  | ended {start : Nat} (past : text.length ≤ start) : Walks text indent start text.length
  | leaves {start : Nat} (inside : start < text.length) (ends : ¬ GoesOn text indent start) :
      Walks text indent start start
  | passes {start stop : Nat} (inside : start < text.length) (goesOn : GoesOn text indent start)
      (below : Walks text indent (bodyStart text start) stop) : Walks text indent start stop

theorem staysInBody_iff : staysInBody indent (text.drop start) = true ↔ GoesOn text indent start := by
  rw [staysInBody, Bool.or_eq_true, decide_eq_true_eq, isSkippable, GoesOn]
  refine or_congr_left ?_
  cases (text.drop start).dropWhile (· = ' ') <;> simp [or_assoc]

/-- The next line starts after the first newline from an offset on, if there is one. -/
theorem bodyStart_cases (text : Text) (start : Nat) :
    (∃ i, start ≤ i ∧ text[i]? = some '\n' ∧ (∀ j, start ≤ j → j < i → text[j]? ≠ some '\n') ∧
      bodyStart text start = i + 1) ∨
    (∀ j, start ≤ j → text[j]? ≠ some '\n') ∧ bodyStart text start = text.length := by
  have counted := length_afterLine text start
  have shown (j : Nat) (late : start ≤ j) : text[j]? = (text.drop start)[j - start]? := by
    rw [List.getElem?_drop, Nat.add_sub_cancel' late]
  rcases Text.afterLine_cases (text.drop start) with ⟨body, unbroken, same⟩ | ⟨unbroken, none⟩
  · left
    have length := congrArg List.length same
    rw [List.length_drop, List.length_append, List.length_cons] at length
    refine ⟨start + body.length, by omega, ?_, fun j late early newline => ?_, by omega⟩
    · rw [shown _ (by omega), same]
      simp
    · rw [shown j late, same, List.getElem?_append_left (by omega)] at newline
      exact unbroken (List.mem_of_getElem? newline)
  · right
    rw [none, List.length_nil] at counted
    refine ⟨fun j late newline => ?_, by omega⟩
    rw [shown j late] at newline
    exact unbroken (List.mem_of_getElem? newline)

/-- No line starts between an offset and the line after it. -/
theorem bodyStart_le_of_started (started : s ∈ text.lineStarts) (after : start < s) :
    bodyStart text start ≤ s := by
  rcases List.mem_cons.mp started with rfl | later
  · omega
  obtain ⟨j, newline, rfl⟩ := (mem_startsAfterNewlines text 0 s).mp later
  rcases bodyStart_cases text start with ⟨i, _, _, first, same⟩ | ⟨none, _⟩
  · have : ¬ j < i := fun early => first j (by omega) early newline
    omega
  · exact absurd newline (none j (by omega))

theorem bodyStart_started (text : Text) (start : Nat) :
    bodyStart text start ∈ text.lineStarts ∧ start < bodyStart text start ∨
      bodyStart text start = text.length := by
  rcases bodyStart_cases text start with ⟨i, late, newline, _, same⟩ | ⟨_, same⟩
  · rw [same]
    exact Or.inl ⟨Text.succ_mem_lineStarts.mpr newline, by omega⟩
  · exact Or.inr same

/-- From wherever it sets out in the text, the walk comes to an end: there where the lines that
stay in the body end. -/
theorem walks_bodyLength (inside : start ≤ text.length) :
    Walks text indent start (start + bodyLength indent (text.drop start)) := by
  -- on the length of what is left: the line after is nearer to the end
  induction left : text.length - start using Nat.strong_induction_on generalizing start with
  | _ n ih =>
    subst left
    rcases Nat.lt_or_eq_of_le inside with more | rfl
    · have content : text.drop start ≠ [] := by simpa using more
      have line := bodyLength_line indent content
      split at line
      · rename_i stays
        have further := lt_bodyStart more
        have bound := bodyStart_le_length text start
        have counted := length_afterLine text start
        have below := ih _ (by omega) bound rfl
        rw [drop_bodyStart] at below
        rw [List.length_drop] at line
        refine .passes more (staysInBody_iff.mp stays) ?_
        convert below using 1
        omega
      · rename_i ends
        rw [line]
        exact .leaves more (staysInBody_iff.not.mp ends)
    · rw [List.drop_length]
      exact .ended (Nat.le_refl _)

theorem Walks.unique (walk : Walks text indent start stop) (again : Walks text indent start other) :
    stop = other := by
  induction walk with
  | ended past =>
    cases again with
    | ended => rfl
    | leaves inside => omega
    | passes inside => omega
  | leaves inside ends =>
    cases again with
    | ended past => omega
    | leaves => rfl
    | passes _ goesOn => exact absurd goesOn ends
  | passes inside goesOn _ ih =>
    cases again with
    | ended past => omega
    | leaves _ ends => exact absurd goesOn ends
    | passes _ _ below => exact ih below

/-- From the start of a line a walk passes lines that go on, and stops at the end of the text or at
the start of a line that does not. -/
theorem Walks.stops (walk : Walks text indent start stop)
    (opens : start ∈ text.lineStarts ∨ start = text.length) :
    (∀ s ∈ text.lineStarts, start ≤ s → s < stop → GoesOn text indent s) ∧
      (stop = text.length ∨ stop ∈ text.lineStarts ∧ start ≤ stop ∧ ¬ GoesOn text indent stop) := by
  induction walk with
  | ended past => exact ⟨fun s _ late early => by omega, Or.inl rfl⟩
  | @leaves start inside ends =>
    refine ⟨fun s _ late early => by omega, Or.inr ⟨?_, Nat.le_refl _, ends⟩⟩
    exact opens.resolve_right (Nat.ne_of_lt inside)
  | @passes start stop inside goesOn _ ih =>
    have further := lt_bodyStart inside
    obtain ⟨passed, reached⟩ := ih ((bodyStart_started text start).imp_left And.left)
    constructor
    · intro s started late early
      rcases Nat.lt_or_eq_of_le late with after | rfl
      · exact passed s started (bodyStart_le_of_started started after) early
      · exact goesOn
    · exact reached.imp_right fun ⟨started, late, ends⟩ => ⟨started, by omega, ends⟩

theorem EndsBody.le_length (ends : EndsBody text header stop) : stop ≤ text.length := by
  rcases ends.reached with last | ⟨started, _⟩
  · exact Nat.le_of_eq last
  · exact Text.le_length_of_mem_lineStarts started

/-- A body ends at one offset: of two the earlier would be a line that goes on. -/
theorem EndsBody.unique (ends : EndsBody text header stop) (also : EndsBody text header other) :
    stop = other := by
  have notBefore {a b : Nat} (first : EndsBody text header a) (second : EndsBody text header b) :
      ¬ a < b := by
    intro before
    have bound := second.le_length
    rcases first.reached with last | ⟨started, below, leaves⟩
    · omega
    · exact leaves (second.inside a started below before)
  have := notBefore ends also
  have := notBefore also ends
  omega

/-- A class body ends at the first line below its header that is neither blank nor a comment nor indented
more deeply, or else at the end of the text. -/
theorem classEnd_first_dedent (text : Text) (headerStart : Nat) :
    ∃ k header, LineIndex.OnLine text headerStart k header ∧
      (∀ stop, EndsBody text header stop ↔ stop = classEnd text headerStart) ∧
      ∀ stop, Walks text (indentOf (text.drop header)) (bodyStart text headerStart) stop ↔
        stop = classEnd text headerStart := by
  obtain ⟨k, place⟩ := LineIndex.exists_onLine_lineStart text headerStart
  have walk : Walks text (headerIndent text headerStart) (bodyStart text headerStart)
      (classEnd text headerStart) := walks_bodyLength (bodyStart_le_length text headerStart)
  obtain ⟨passed, reached⟩ := walk.stops ((bodyStart_started text headerStart).imp_left And.left)
  have reach := place.reached
  have below {s : Nat} (started : s ∈ text.lineStarts) (after : text.lineStart headerStart < s) :
      bodyStart text headerStart ≤ s := by
    refine bodyStart_le_of_started started (Nat.lt_of_not_le fun early => ?_)
    rcases List.mem_cons.mp started with rfl | later
    · omega
    · obtain ⟨i, newline, rfl⟩ := (mem_startsAfterNewlines text 0 s).mp later
      exact place.unbroken i (by omega) (by omega) newline
  have ends : EndsBody text (text.lineStart headerStart) (classEnd text headerStart) := by
    refine ⟨fun s started after early => passed s started (below started after) early, ?_⟩
    rcases reached with last | ⟨started, late, leaves⟩
    · exact Or.inl last
    · rcases bodyStart_started text headerStart with ⟨_, after⟩ | last
      · exact Or.inr ⟨started, by omega, leaves⟩
      · have bound := Text.le_length_of_mem_lineStarts started
        exact Or.inl (by omega)
  refine ⟨k, text.lineStart headerStart, place, fun stop => ?_, fun stop => ?_⟩
  · exact ⟨fun other => other.unique ends, fun same => same ▸ ends⟩
  · exact ⟨fun other => other.unique walk, fun same => same ▸ walk⟩

/-- Blank lines and comments at the margin belong to the body. -/
example : classEnd "class A:\n  x\n\n# c\n  y\nz\n".toList 0 = 22 := by decide

end Scope
end SymbolIndex
