import SymbolIndex.Proofs.Text.Lines
import SymbolIndex.Proofs.Text.Strip

/-! Texts cut into rows, where newlines, carriage returns and both in one end a row, and what of them
is left once every ending is read as a newline. -/
namespace SymbolIndex.Text

/-- What ends a row before the rest of a text. -/
inductive EndsRow : Text → Text → Prop
  | newline (rest : Text) : EndsRow ['\n'] rest
  | both (rest : Text) : EndsRow ['\r', '\n'] rest
  | carriageReturn {rest : Text} (alone : rest.head? ≠ some '\n') : EndsRow ['\r'] rest

/-- A text is cut into these rows, given without their endings. The last one may lack its ending. -/
inductive Rows : Text → List Text → Prop
  | nil : Rows [] []
  | last {row : Text} (content : row ≠ []) (noNewline : '\n' ∉ row) (noReturn : '\r' ∉ row) :
      Rows row [row]
  | ended {row ending rest : Text} {rows : List Text} (noNewline : '\n' ∉ row)
      (noReturn : '\r' ∉ row) (ends : EndsRow ending rest) (later : Rows rest rows) :
      Rows (row ++ (ending ++ rest)) (row :: rows)

variable {text row ending rest : Text} {rows : List Text} {c : Char}

theorem Rows.cons (noNewline : c ≠ '\n') (noReturn : c ≠ '\r') (cut : Rows rest rows) :
    ∃ rows, Rows (c :: rest) rows := by
  cases cut with
  | nil => exact ⟨_, .last (List.cons_ne_nil c []) (by simpa using Ne.symm noNewline)
      (by simpa using Ne.symm noReturn)⟩
  | last content also other => exact ⟨_, .last (List.cons_ne_nil c rest)
      (List.not_mem_cons_of_ne_of_not_mem (Ne.symm noNewline) also)
      (List.not_mem_cons_of_ne_of_not_mem (Ne.symm noReturn) other)⟩
  | ended also other ends later => exact ⟨_, .ended
      (List.not_mem_cons_of_ne_of_not_mem (Ne.symm noNewline) also)
      (List.not_mem_cons_of_ne_of_not_mem (Ne.symm noReturn) other) ends later⟩

theorem exists_rows (text : Text) : ∃ rows, Rows text rows := by
  have ended {ending rest : Text} (ends : EndsRow ending rest) (later : ∃ rows, Rows rest rows) :
      ∃ rows, Rows (ending ++ rest) rows :=
    let ⟨_, cut⟩ := later
    ⟨_, .ended List.not_mem_nil List.not_mem_nil ends cut⟩
  fun_induction normaliseNewlines text with
  | case1 => exact ⟨[], .nil⟩
  | case2 rest ih => exact ended (.both rest) ih
  | case3 rest alone ih =>
    refine ended (.carriageReturn fun newline => ?_) ih
    obtain ⟨more, rfl⟩ := List.head?_eq_some_iff.mp newline
    exact alone more rfl
  | case4 c rest _ noReturn ih =>
    by_cases newline : c = '\n'
    · exact newline ▸ ended (.newline rest) ih
    · obtain ⟨rows, cut⟩ := ih
      exact cut.cons newline noReturn

theorem length_normaliseNewlines_le (text : Text) : (normaliseNewlines text).length ≤ text.length := by
  fun_induction normaliseNewlines text with
  | case1 => simp
  | case2 rest ih => simp only [List.length_cons]; omega
  | case3 rest _ ih => simp only [List.length_cons]; omega
  | case4 c rest _ _ ih => simp only [List.length_cons]; omega

theorem normaliseNewlines_cons (noReturn : c ≠ '\r') (rest : Text) :
    normaliseNewlines (c :: rest) = c :: normaliseNewlines rest := by
  rw [normaliseNewlines]
  · exact fun _ same _ => noReturn same
  · exact noReturn

theorem normaliseNewlines_append (noReturn : '\r' ∉ row) (rest : Text) :
    normaliseNewlines (row ++ rest) = row ++ normaliseNewlines rest := by
  induction row with
  | nil => rfl
  | cons c row ih =>
    rw [List.mem_cons, not_or] at noReturn
    rw [List.cons_append, normaliseNewlines_cons (Ne.symm noReturn.1), ih noReturn.2,
      List.cons_append]

theorem EndsRow.normaliseNewlines (ends : EndsRow ending rest) :
    normaliseNewlines (ending ++ rest) = '\n' :: normaliseNewlines rest := by
  cases ends with
  | newline => exact normaliseNewlines_cons (by decide) rest
  | both => rfl
  | carriageReturn alone =>
    rw [List.singleton_append, Text.normaliseNewlines]
    rintro more rfl
    exact alone rfl

/-- Once endings are newlines the lines of a text are its rows, up to blanks around them. -/
theorem Rows.strip_lines (cut : Rows text rows) :
    (lines (normaliseNewlines text)).map strip = rows.map strip := by
  induction cut with
  | nil => rfl
  | @last row content noNewline noReturn =>
    have kept := normaliseNewlines_append noReturn []
    simp only [List.append_nil, Text.normaliseNewlines] at kept
    rw [kept, lines_unbroken noNewline content]
  | ended noNewline noReturn ends later ih =>
    rw [normaliseNewlines_append noReturn, ends.normaliseNewlines, lines_newline noNewline,
      List.map_cons, strip_newline, ih, List.map_cons]

/-- Rows written one by one, each with a newline after it. -/
def ofRows (rows : List Text) : Text := rows.flatMap (· ++ ['\n'])

theorem rows_ofRows (noNewline : ∀ row ∈ rows, '\n' ∉ row) (noReturn : ∀ row ∈ rows, '\r' ∉ row) :
    Rows (ofRows rows) rows := by
  induction rows with
  | nil => exact .nil
  | cons row rows ih =>
    have later := ih (fun other member => noNewline other (List.mem_cons_of_mem row member))
      fun other member => noReturn other (List.mem_cons_of_mem row member)
    have written : ofRows (row :: rows) = row ++ (['\n'] ++ ofRows rows) := by
      rw [ofRows, List.flatMap_cons, List.append_assoc]
      rfl
    rw [written]
    exact .ended (noNewline row List.mem_cons_self) (noReturn row List.mem_cons_self)
      (.newline _) later

/-- Rows hold no line endings. -/
theorem Rows.unbroken (cut : Rows text rows) (member : row ∈ rows) : '\n' ∉ row ∧ '\r' ∉ row := by
  induction cut with
  | nil => cases member
  | last content noNewline noReturn =>
    obtain rfl := List.mem_singleton.mp member
    exact ⟨noNewline, noReturn⟩
  | ended noNewline noReturn ends later ih =>
    rcases List.mem_cons.mp member with rfl | below
    · exact ⟨noNewline, noReturn⟩
    · exact ih below

end SymbolIndex.Text
