import SymbolIndex.Proofs.Pattern.Grounded
import SymbolIndex.Proofs.Pattern.Spelling
import SymbolIndex.Proofs.Text.LineEnding

/-! Patterns find the same in a text with carriage returns before its newlines. Every step of a
pattern treats the two characters of a line ending alike, so it leads from where a cursor goes to
where its result goes; and between the two characters no pattern starts. -/
namespace SymbolIndex
variable {text expected part : Text} {cursor stop : Cursor} {p : Char → Bool} {offset n : Nat}

/-- Where a stretch lies and what it covers once the text is written with carriage returns. -/
def Capture.crlf (text : Text) (capture : Capture) : Capture :=
  ⟨text.crlfOffset capture.start, capture.text.crlf⟩

def Cursor.crlf (text : Text) (cursor : Cursor) : Cursor :=
  ⟨text.crlfOffset cursor.offset, cursor.before, cursor.rest.crlf⟩

def Occurrence.crlf (text : Text) (found : Occurrence) : Occurrence :=
  ⟨found.whole.crlf text, found.name.crlf text, found.detail.map (·.crlf text)⟩

/-- Characters that no line ending has are found at the front as before. -/
theorem Text.isPrefixOf_crlf (plain : '\n' ∉ expected ∧ '\r' ∉ expected) (text : Text) :
    expected.isPrefixOf text.crlf = expected.isPrefixOf text := by
  induction expected generalizing text with
  | nil => rfl
  | cons c expected ih =>
    simp only [List.mem_cons, not_or] at plain
    obtain ⟨⟨notNewline, newlines⟩, notReturn, returns⟩ := plain
    cases text with
    | nil => rfl
    | cons d rest =>
      by_cases newline : d = '\n'
      · rw [newline, crlf_newline, List.isPrefixOf, List.isPrefixOf,
          beq_eq_false_iff_ne.mpr (Ne.symm notNewline), beq_eq_false_iff_ne.mpr (Ne.symm notReturn)]
        rfl
      · rw [crlf_other newline, List.isPrefixOf, List.isPrefixOf, ih ⟨newlines, returns⟩ rest]

namespace Cursor

theorem In.crlf (place : In text cursor) : In text.crlf (cursor.crlf text) := by
  have within : text.crlfOffset cursor.offset ≤ text.crlf.length := by
    rw [← Text.crlfOffset_length]
    exact (Text.crlfOffset_le_iff place.inside (Nat.le_refl _)).mpr place.inside
  refine ⟨within, ?_, ?_⟩
  · rw [Cursor.crlf, place.rest, Text.drop_crlf]
  · rw [Cursor.crlf, place.before, Text.charBefore_eq place.inside, Text.charBefore_eq within,
      Text.take_crlf, Text.getLast?_crlf]

theorem Reads.crlf (place : In text cursor) (reads : cursor.Reads part stop) :
    (cursor.crlf text).Reads part.crlf (stop.crlf text) := by
  have rests : (cursor.crlf text).rest = part.crlf ++ (stop.crlf text).rest := by
    simp only [Cursor.crlf, reads.rest_eq, Text.crlf_append]
  obtain ⟨again, more, same⟩ := exists_reads _ rests
  have there : In text stop := reads.stop_eq ▸ place.advance _
  have offset : again.offset = (stop.crlf text).offset := by
    rw [more.offset_eq]
    simp only [Cursor.crlf, reads.offset_eq, Text.crlfOffset_add, ← place.rest, reads.rest_eq,
      List.take_left]
  have placed : In text.crlf again := more.stop_eq ▸ place.crlf.advance _
  exact placed.ext there.crlf offset ▸ more

theorem upTo_crlf (place : In text cursor) (stop : Cursor) :
    (cursor.crlf text).upTo (stop.crlf text) = (cursor.upTo stop).crlf text := by
  rw [place.crlf.upTo, place.upTo, Capture.crlf, ← Text.slice_crlf]
  rfl

/-- A step goes with its cursor: it leads from where a cursor goes to where its result goes, and
stays in the text. -/
structure Step {α : Type} (goes : Text → α → α) (lands : α → Cursor) (read : Cursor → Option α) : Prop where
  crlf : ∀ {text cursor}, In text cursor → read (cursor.crlf text) = (read cursor).map (goes text)
  placed : ∀ {text cursor a}, In text cursor → read cursor = some a → In text (lands a)

/-- Steps that lead to a cursor. -/
abbrev Move := Step Cursor.crlf (fun stop => stop)

/-- Where a capture and the cursor after it go. -/
def goesRead (text : Text) (read : Capture × Cursor) : Capture × Cursor :=
  (read.1.crlf text, read.2.crlf text)

section Steps
variable {α β γ : Type} {goes : Text → α → α} {lands : α → Cursor} {read : Cursor → Option α}
  {next : α → Option β} {more : α → Option γ} {g : β → γ}

/-- After a step that goes with its cursor it is enough that what follows does. -/
theorem Step.bind (step : Step goes lands read) (place : In text cursor)
    (later : ∀ a, In text (lands a) → more (goes text a) = (next a).map g) :
    (read (cursor.crlf text) >>= more) = (read cursor >>= next).map g := by
  rw [step.crlf place]
  cases found : read cursor with
  | none => rfl
  | some a => exact later a (step.placed place found)

end Steps

theorem literal_move (plain : '\n' ∉ expected ∧ '\r' ∉ expected) : Move (·.literal? expected) where
  crlf {text cursor} place := by
    cases read : cursor.literal? expected with
    | some stop =>
      have reads := (literal?_eq_some_iff.mp read).crlf place
      rw [Text.crlf_of_notMem plain.1] at reads
      exact literal?_eq_some_iff.mpr reads
    | none =>
      rw [literal?, ite_eq_right_iff] at read
      rw [literal?, Cursor.crlf, Text.isPrefixOf_crlf plain]
      exact if_neg fun starts => by simpa using read starts
  placed place read := (place.literal? read).1

theorem skip_crlf (place : In text cursor) (same : p '\n' = p '\r') :
    (cursor.crlf text).skip p = (cursor.skip p).crlf text := by
  obtain ⟨part, reads, runs⟩ := cursor.reads_skip p
  have taken : (cursor.crlf text).rest.takeWhile p = part.crlf := by
    rw [Cursor.crlf, Text.takeWhile_crlf same, reads.rest_eq, runs.takeWhile_eq]
  rw [skip, taken, ← (reads.crlf place).stop_eq]

theorem blanks_crlf (place : In text cursor) : (cursor.crlf text).blanks = cursor.blanks.crlf text :=
  skip_crlf place (by decide)

/-- Blanks before a step. -/
theorem Step.afterBlanks {α : Type} {goes : Text → α → α} {lands : α → Cursor}
    {read : Cursor → Option α} (step : Step goes lands read) :
    Step goes lands (fun cursor => read cursor.blanks) where
  crlf place := by rw [blanks_crlf place, step.crlf place.blanks]
  placed place found := step.placed place.blanks found

theorem run_move (same : p '\n' = p '\r') : Move (·.run? p) where
  crlf {text cursor} place := by
    have head : (cursor.crlf text).rest.head?.any p = cursor.rest.head?.any p :=
      Text.any_head_crlf same cursor.rest
    rw [run?, run?, head, skip_crlf place same]
    split <;> rfl
  placed place read := (place.run? read).1

theorem someBlanks_move : Move (·.someBlanks?) := run_move (by decide)

theorem identifier_step : Step goesRead Prod.snd (·.identifier?) where
  crlf {text cursor} place := by
    have head : (cursor.crlf text).rest.head?.any Text.isNameStart =
        cursor.rest.head?.any Text.isNameStart := Text.any_head_crlf (by decide) cursor.rest
    obtain ⟨part, reads, runs⟩ := cursor.reads_skip Text.isNameChar
    have name : cursor.rest.takeWhile Text.isNameChar = part := by
      rw [reads.rest_eq, runs.takeWhile_eq]
    have taken : (cursor.crlf text).rest.takeWhile Text.isNameChar = part.crlf := by
      rw [Cursor.crlf, Text.takeWhile_crlf (by decide), name]
    simp only [identifier?, head, taken, name, ← reads.stop_eq, ← (reads.crlf place).stop_eq]
    split <;> rfl
  placed place read := (place.identifier? read).1

theorem assignment_move : Move (·.assignment?) where
  crlf {text cursor} place := by
    refine (literal_move (by decide)).bind place fun after _ => ?_
    have head : (after.crlf text).rest.head? = some '=' ↔ after.rest.head? = some '=' := by
      have shown (text : Text) : text.head? = some '=' ↔ text.head?.any (· = '=') = true := by
        cases text <;> simp
      rw [shown, shown, Cursor.crlf, Text.any_head_crlf (by decide)]
    simp only [head]
    split <;> rfl
  placed place read := (place.assignment? read).1

end Cursor

namespace Recogniser

/-- Finds go where their cursors go, and no find starts within a line ending. -/
structure Carried (recognise : Recogniser) : Prop where
  crlf : ∀ {text cursor}, Cursor.In text cursor →
    recognise (cursor.crlf text) = (recognise cursor).map (·.crlf text)
  refuses : ∀ offset rest, recognise ⟨offset, some '\r', '\n' :: rest⟩ = none

/-- A find goes where its parts go. -/
theorem found_crlf {start : Cursor} (place : Cursor.In text start) (stop : Cursor) (name : Capture)
    (detail : Option Capture) :
    (⟨(start.crlf text).upTo (stop.crlf text), name.crlf text, detail.map (·.crlf text)⟩ : Occurrence) =
      Occurrence.crlf text ⟨start.upTo stop, name, detail⟩ := by
  rw [Cursor.upTo_crlf place]
  rfl

theorem functionHeader_carried : Carried functionHeader where
  crlf {text start} place := by
    have opens : (start.crlf text).opensWord = start.opensWord := rfl
    unfold functionHeader
    dsimp only
    rw [opens]
    split
    · rfl
    refine (Cursor.literal_move (by decide)).bind place fun word atWord => ?_
    refine Cursor.someBlanks_move.bind atWord fun gap atGap => ?_
    refine Cursor.identifier_step.bind atGap fun ⟨name, after⟩ atAfter => ?_
    refine (Cursor.literal_move (by decide)).afterBlanks.bind atAfter fun opened atOpened => ?_
    rw [Cursor.skip_crlf atOpened (by decide)]
    have closing := atOpened.skip (· ≠ ')')
    refine (Cursor.literal_move (by decide)).bind closing fun stop atStop => ?_
    rw [Cursor.upTo_crlf atOpened]
    exact congrArg some (found_crlf place stop name (some _))
  refuses offset rest := by
    unfold functionHeader
    dsimp only
    split <;> rfl

theorem attributeAssignment_carried : Carried attributeAssignment where
  crlf {text start} place := by
    have opens : (start.crlf text).opensWord = start.opensWord := rfl
    unfold attributeAssignment
    dsimp only
    rw [opens]
    split
    · rfl
    refine (Cursor.literal_move (by decide)).bind place fun owner atOwner => ?_
    refine Cursor.identifier_step.bind atOwner fun ⟨name, after⟩ atAfter => ?_
    refine Cursor.assignment_move.afterBlanks.bind atAfter fun stop atStop => ?_
    exact congrArg some (found_crlf place stop name none)
  refuses offset rest := by
    unfold attributeAssignment
    dsimp only
    split <;> rfl

theorem variableAssignment_carried : Carried variableAssignment where
  crlf {text start} place := by
    have opens : (start.crlf text).opensLine = start.opensLine := rfl
    unfold variableAssignment
    dsimp only
    rw [opens]
    split
    · rfl
    refine Cursor.identifier_step.afterBlanks.bind place fun ⟨name, after⟩ atAfter => ?_
    refine Cursor.assignment_move.afterBlanks.bind atAfter fun stop atStop => ?_
    exact congrArg some (found_crlf place stop name none)
  refuses offset rest := by
    have inside : (⟨offset, some '\r', '\n' :: rest⟩ : Cursor).opensLine = false := rfl
    unfold variableAssignment
    dsimp only
    rw [inside]
    rfl

theorem plainImport_carried : Carried plainImport where
  crlf {text start} place := by
    have opens : (start.crlf text).opensWord = start.opensWord := rfl
    unfold plainImport
    dsimp only
    rw [opens]
    split
    · rfl
    refine (Cursor.literal_move (by decide)).bind place fun word atWord => ?_
    refine Cursor.someBlanks_move.bind atWord fun gap atGap => ?_
    refine Cursor.identifier_step.bind atGap fun ⟨name, stop⟩ atStop => ?_
    exact congrArg some (found_crlf place stop name none)
  refuses offset rest := by
    unfold plainImport
    dsimp only
    split <;> rfl

theorem constructorCall_carried : Carried constructorCall where
  crlf {text start} place := by
    unfold constructorCall
    refine Cursor.identifier_step.bind place fun ⟨name, after⟩ atAfter => ?_
    refine (Cursor.literal_move (by decide)).afterBlanks.bind atAfter fun equals atEquals => ?_
    refine Cursor.identifier_step.afterBlanks.bind atEquals fun ⟨callee, beyond⟩ atBeyond => ?_
    refine (Cursor.literal_move (by decide)).afterBlanks.bind atBeyond fun stop atStop => ?_
    exact congrArg some (found_crlf place stop name (some callee))
  refuses offset rest := rfl

theorem alias_step : Cursor.Step Cursor.goesRead Prod.snd alias? where
  crlf {text cursor} place := by
    unfold alias?
    refine Cursor.someBlanks_move.bind place fun gap atGap => ?_
    refine (Cursor.literal_move (by decide)).bind atGap fun word atWord => ?_
    refine Cursor.someBlanks_move.bind atWord fun space atSpace => ?_
    exact Cursor.identifier_step.crlf atSpace
  placed {text cursor read} place found := by
    obtain ⟨renamed, stop⟩ := read
    exact (in_alias? place found).1

theorem fromImport_carried : Carried fromImport where
  crlf {text start} place := by
    have opens : (start.crlf text).opensWord = start.opensWord := rfl
    unfold fromImport
    dsimp only
    rw [opens]
    split
    · rfl
    refine (Cursor.literal_move (by decide)).bind place fun word atWord => ?_
    refine Cursor.someBlanks_move.bind atWord fun gap atGap => ?_
    refine (Cursor.run_move (by decide)).bind atGap fun path atPath => ?_
    refine Cursor.someBlanks_move.bind atPath fun space atSpace => ?_
    refine (Cursor.literal_move (by decide)).bind atSpace fun keyword atKeyword => ?_
    refine Cursor.someBlanks_move.bind atKeyword fun blank atBlank => ?_
    refine Cursor.identifier_step.bind atBlank fun ⟨name, after⟩ atAfter => ?_
    have renamed := alias_step.crlf atAfter
    dsimp only [Cursor.goesRead]
    rw [renamed]
    cases alias? after with
    | none => exact congrArg some (found_crlf place after name none)
    | some read => exact congrArg some (found_crlf place read.2 name (some read.1))
  refuses offset rest := by
    unfold fromImport
    dsimp only
    split <;> rfl

theorem wholeWord_carried {word : Text} (content : word ≠ [])
    (plain : '\n' ∉ word ∧ '\r' ∉ word) : Carried (wholeWord word) where
  crlf {text start} place := by
    unfold wholeWord
    refine (Cursor.literal_move plain).bind place fun stop atStop => ?_
    have heads (cursor : Cursor) : Text.isBoundary (cursor.crlf text).before
        (cursor.crlf text).rest.head? = Text.isBoundary cursor.before cursor.rest.head? := by
      rw [Text.isBoundary, Cursor.crlf, Text.any_head_crlf (by decide), Text.isBoundary]
    simp only [heads]
    split
    · rw [Cursor.upTo_crlf place]
      rfl
    · rfl
  refuses offset rest := by
    obtain ⟨c, more, rfl⟩ := List.exists_cons_of_ne_nil content
    have other : c ≠ '\n' := by
      rintro rfl
      exact plain.1 List.mem_cons_self
    have starts : (c :: more).isPrefixOf ('\n' :: rest) = false := by
      rw [List.isPrefixOf, beq_eq_false_iff_ne.mpr other]
      rfl
    unfold wholeWord
    rw [Cursor.literal?, starts]
    rfl

/-- A carriage return at the end of a line neither closes a header nor undoes its end. -/
theorem throughLastClose?_return (line : Text) :
    throughLastClose? (line ++ ['\r']) = throughLastClose? line := by
  induction line with
  | nil => rfl
  | cons c rest ih =>
    have head : (rest ++ ['\r']).head? = some ':' ↔ rest.head? = some ':' := by
      cases rest <;> simp
    rw [List.cons_append, throughLastClose?, throughLastClose?, ih]
    simp only [head]

/-- The rest of a line, once it ends in a carriage return. -/
theorem restOfLine_crlf (text : Text) :
    (text.crlf.takeWhile (· ≠ '\n')) = text.takeWhile (· ≠ '\n') ∨
      (text.crlf.takeWhile (· ≠ '\n')) = text.takeWhile (· ≠ '\n') ++ ['\r'] := by
  induction text with
  | nil => exact Or.inl rfl
  | cons c rest ih =>
    by_cases newline : c = '\n'
    · subst newline
      exact Or.inr rfl
    · rw [Text.crlf_other newline]
      simpa [newline] using ih

theorem headerEnd_move : Cursor.Move headerEnd? where
  crlf {text cursor} place := by
    have opens : (cursor.crlf text).literal? ['('] = (cursor.literal? ['(']).map (·.crlf text) :=
      (Cursor.literal_move (by decide)).crlf place
    rw [headerEnd?, headerEnd?, opens]
    cases read : cursor.literal? ['('] with
    | none => exact (Cursor.literal_move (by decide)).crlf place
    | some inside =>
      let line := inside.rest.takeWhile (· ≠ '\n')
      have ends : throughLastClose? ((inside.crlf text).rest.takeWhile (· ≠ '\n')) =
          throughLastClose? line := by
        rcases restOfLine_crlf inside.rest with same | same
        · exact congrArg throughLastClose? same
        · exact (congrArg throughLastClose? same).trans (throughLastClose?_return line)
      simp only [Option.map_some, ends]
      cases closes : throughLastClose? line with
      | none => rfl
      | some n =>
        -- the cursor moves within the line, so past no line ending
        have bound := (length_of_throughLastClose? closes).2
        have unbroken : '\n' ∉ line.take n := fun member => by
          simpa using List.all_eq_true.mp List.all_takeWhile '\n' (List.mem_of_mem_take member)
        have split : inside.rest = line.take n ++ inside.rest.drop n := by
          have starts : line.take n <+: inside.rest := (List.take_prefix n line).trans
            (List.takeWhile_prefix _)
          obtain ⟨more, same⟩ := starts
          conv => rhs; rw [← same, List.drop_left' (List.length_take_of_le bound)]
          exact same.symm
        obtain ⟨stop, reads, _⟩ := Cursor.exists_reads _ split
        have moved := (reads.crlf (place.literal? read).1).stop_eq
        rw [Text.crlf_of_notMem unbroken, List.length_take_of_le bound] at moved
        have stops := reads.stop_eq
        rw [List.length_take_of_le bound] at stops
        simp only [Option.map_some, ← moved, ← stops]
  placed place found := (in_headerEnd? place found).1

theorem classHeader_carried : Carried classHeader where
  crlf {text start} place := by
    have opens : (start.crlf text).opensWord = start.opensWord := rfl
    unfold classHeader
    dsimp only
    rw [opens]
    split
    · rfl
    refine (Cursor.literal_move (by decide)).bind place fun word atWord => ?_
    refine Cursor.someBlanks_move.bind atWord fun gap atGap => ?_
    refine Cursor.identifier_step.bind atGap fun ⟨name, after⟩ atAfter => ?_
    refine headerEnd_move.afterBlanks.bind atAfter fun stop atStop => ?_
    exact congrArg some (found_crlf place stop name none)
  refuses offset rest := by
    unfold classHeader
    dsimp only
    split <;> rfl

section Occurrences
variable {recognise : Recogniser} {before : Option Char} {rest : Text} {skip : Nat} {c : Char}

theorem crlfOffset_next (place : Cursor.In text ⟨offset, before, c :: rest⟩) :
    text.crlfOffset (offset + 1) = text.crlfOffset offset + (Text.crlfChar c).length := by
  rw [Text.crlfOffset_add, ← place.rest, List.take_succ_cons, List.take_zero, Text.crlf_cons,
    Text.crlf_nil, List.append_nil]

/-- A find that starts at a character covers that character and some that follow. -/
theorem Covers.text_eq {found : Occurrence} (covers : Covers recognise)
    (place : Cursor.In text ⟨offset, before, c :: rest⟩)
    (finds : recognise ⟨offset, before, c :: rest⟩ = some found) :
    found.whole.text = c :: rest.take (found.whole.text.length - 1) := by
  obtain ⟨stop, placed, moved, whole⟩ := covers place finds
  obtain ⟨n, later⟩ := Nat.exists_eq_add_of_lt moved
  have shape : found.whole.text = c :: rest.take n := by
    rw [whole, Cursor.upTo, later, Nat.add_assoc, Nat.add_sub_cancel_left, List.take_succ_cons]
  rw [shape, List.length_cons, Nat.add_sub_cancel, List.length_take, ← List.take_eq_take_min]

theorem Covers.length_crlf {found : Occurrence} (covers : Covers recognise)
    (place : Cursor.In text ⟨offset, before, c :: rest⟩)
    (finds : recognise ⟨offset, before, c :: rest⟩ = some found) :
    (found.whole.crlf text).text.length - 1 = (Text.crlf (rest.take (found.whole.text.length - 1))).length +
      ((Text.crlfChar c).length - 1) := by
  have length := congrArg (fun text => (Text.crlf text).length) (covers.text_eq place finds)
  have positive : 0 < (Text.crlfChar c).length := by
    rw [Text.crlfChar]
    split <;> exact Nat.zero_lt_succ _
  simp only [Text.crlf_cons, List.length_append] at length
  simp only [Capture.crlf]
  omega

theorem Covers.refuses_end (covers : Covers recognise)
    (place : Cursor.In text ⟨offset, before, []⟩) : recognise ⟨offset, before, []⟩ = none := by
  cases finds : recognise ⟨offset, before, []⟩ with
  | none => rfl
  | some found =>
    obtain ⟨stop, placed, moved, _⟩ := covers place finds
    have length := place.length_rest
    have inside := placed.inside
    simp only [List.length_nil] at length moved
    omega

/-- The two characters of a line ending are passed together. -/
theorem occurrencesFrom_passed (recognise : Recogniser) (offset : Nat) (before : Option Char)
    (left : Nat) (c : Char) (rest : Text) :
    occurrencesFrom recognise offset before (left + (Text.crlfChar c).length) (Text.crlf (c :: rest)) =
      occurrencesFrom recognise (offset + (Text.crlfChar c).length) (some c) left (Text.crlf rest) := by
  by_cases newline : c = '\n'
  · subst newline
    rfl
  · rw [Text.crlf_other newline, Text.crlfChar, if_neg newline]
    rfl

/-- Where nothing is found at a line ending, nothing is found within it. -/
theorem Carried.occurrencesFrom_none (carried : Carried recognise)
    (none : recognise ⟨offset, before, Text.crlf (c :: rest)⟩ = none) :
    occurrencesFrom recognise offset before 0 (Text.crlf (c :: rest)) =
      occurrencesFrom recognise (offset + (Text.crlfChar c).length) (some c) 0 (Text.crlf rest) := by
  by_cases newline : c = '\n'
  · subst newline
    rw [Text.crlf_newline] at none ⊢
    simp only [occurrencesFrom, none, carried.refuses]
    rfl
  · rw [Text.crlf_other newline] at none ⊢
    rw [Text.crlfChar, if_neg newline]
    simp only [occurrencesFrom, none]
    rfl

theorem occurrencesFrom_some {found : Occurrence} {left : Nat}
    (finds : recognise ⟨offset, before, Text.crlf (c :: rest)⟩ = some found)
    (covered : found.whole.text.length - 1 = left + ((Text.crlfChar c).length - 1)) :
    occurrencesFrom recognise offset before 0 (Text.crlf (c :: rest)) =
      found :: occurrencesFrom recognise (offset + (Text.crlfChar c).length) (some c) left
        (Text.crlf rest) := by
  by_cases newline : c = '\n'
  · subst newline
    rw [Text.crlf_newline] at finds ⊢
    simp only [occurrencesFrom, finds, covered]
    rfl
  · rw [Text.crlf_other newline] at finds ⊢
    rw [Text.crlfChar, if_neg newline] at covered ⊢
    simp only [occurrencesFrom, finds, covered]
    rfl

theorem occurrencesFrom_crlf (carried : Carried recognise) (covers : Covers recognise) (skip : Nat)
    (place : Cursor.In text ⟨offset, before, rest⟩) :
    occurrencesFrom recognise (text.crlfOffset offset) before (Text.crlf (rest.take skip)).length
        (Text.crlf rest) =
      (occurrencesFrom recognise offset before skip rest).map (·.crlf text) := by
  induction rest generalizing offset before skip with
  | nil =>
    have none : recognise ⟨text.crlfOffset offset, before, []⟩ = none := covers.refuses_end place.crlf
    rw [List.take_nil, Text.crlf_nil, List.length_nil, occurrencesFrom, occurrencesFrom, if_pos rfl,
      none, covers.refuses_end place]
    split <;> rfl
  | cons c rest ih =>
    have next : Cursor.In text ⟨offset + 1, some c, rest⟩ := place.next
    cases skip with
    | succ left =>
      rw [List.take_succ_cons, Text.crlf_cons c (rest.take left), List.length_append, Nat.add_comm,
        occurrencesFrom_passed, ← crlfOffset_next place]
      exact ih left next
    | zero =>
      have here : recognise ⟨text.crlfOffset offset, before, Text.crlf (c :: rest)⟩ =
        (recognise ⟨offset, before, c :: rest⟩).map (·.crlf text) := carried.crlf place
      rw [List.take_zero, Text.crlf_nil, List.length_nil]
      cases finds : recognise ⟨offset, before, c :: rest⟩ with
      | none =>
        rw [finds] at here
        rw [carried.occurrencesFrom_none here, ← crlfOffset_next place]
        simp only [occurrencesFrom, finds]
        exact ih 0 next
      | some found =>
        rw [finds] at here
        rw [occurrencesFrom_some here (covers.length_crlf place finds), ← crlfOffset_next place]
        simp only [occurrencesFrom, finds, List.map_cons]
        exact congrArg _ (ih (found.whole.text.length - 1) next)

/-- The occurrences in the text with carriage returns are those of the text, each where it goes. -/
theorem occurrences_crlf (carried : Carried recognise) (covers : Covers recognise) (text : Text) :
    recognise.occurrences text.crlf = (recognise.occurrences text).map (·.crlf text) :=
  occurrencesFrom_crlf carried covers 0 (Cursor.in_start text)

end Occurrences
end Recogniser
end SymbolIndex
