import SymbolIndex.Findings
import SymbolIndex.Proofs.Pattern.Occurrence

/-! The steps behind a find of each pattern, and what they say of the name it captures: it is a
whole run of identifier characters. -/
namespace SymbolIndex.Recogniser
variable {text word : Text} {start cursor stop : Cursor} {found : Occurrence} {renamed : Capture}

theorem classHeader_eq_some_iff : classHeader start = some found ↔
    start.opensWord = true ∧ ∃ word gap name after stop,
      start.literal? "class".toList = some word ∧ word.someBlanks? = some gap ∧
      gap.identifier? = some (name, after) ∧ headerEnd? after.blanks = some stop ∧
      ⟨start.upTo stop, name, none⟩ = found := by
  cases opens : start.opensWord <;> simp [classHeader, opens, Option.bind_eq_some_iff]

theorem functionHeader_eq_some_iff : functionHeader start = some found ↔
    start.opensWord = true ∧ ∃ word gap name after opened stop,
      start.literal? "def".toList = some word ∧ word.someBlanks? = some gap ∧
      gap.identifier? = some (name, after) ∧ after.blanks.literal? ['('] = some opened ∧
      (opened.skip (· ≠ ')')).literal? [')'] = some stop ∧
      ⟨start.upTo stop, name, some (opened.upTo (opened.skip (· ≠ ')')))⟩ = found := by
  cases opens : start.opensWord <;> simp [functionHeader, opens, Option.bind_eq_some_iff]

theorem attributeAssignment_eq_some_iff : attributeAssignment start = some found ↔
    start.opensWord = true ∧ ∃ owner name after stop,
      start.literal? "self.".toList = some owner ∧ owner.identifier? = some (name, after) ∧
      after.blanks.assignment? = some stop ∧ ⟨start.upTo stop, name, none⟩ = found := by
  cases opens : start.opensWord <;> simp [attributeAssignment, opens, Option.bind_eq_some_iff]

theorem variableAssignment_eq_some_iff : variableAssignment start = some found ↔
    start.opensLine = true ∧ ∃ name after stop,
      start.blanks.identifier? = some (name, after) ∧ after.blanks.assignment? = some stop ∧
      ⟨start.upTo stop, name, none⟩ = found := by
  cases opens : start.opensLine <;> simp [variableAssignment, opens, Option.bind_eq_some_iff]

theorem plainImport_eq_some_iff : plainImport start = some found ↔
    start.opensWord = true ∧ ∃ word gap name stop,
      start.literal? "import".toList = some word ∧ word.someBlanks? = some gap ∧
      gap.identifier? = some (name, stop) ∧ ⟨start.upTo stop, name, none⟩ = found := by
  cases opens : start.opensWord <;> simp [plainImport, opens, Option.bind_eq_some_iff]

theorem alias?_eq_some_iff : alias? cursor = some (renamed, stop) ↔ ∃ gap word space,
    cursor.someBlanks? = some gap ∧ gap.literal? "as".toList = some word ∧
    word.someBlanks? = some space ∧ space.identifier? = some (renamed, stop) := by
  simp [alias?, Option.bind_eq_some_iff]

theorem fromImport_eq_some_iff : fromImport start = some found ↔
    start.opensWord = true ∧ ∃ word gap path space keyword blank name after,
      start.literal? "from".toList = some word ∧ word.someBlanks? = some gap ∧
      gap.run? isModuleChar = some path ∧ path.someBlanks? = some space ∧
      space.literal? "import".toList = some keyword ∧ keyword.someBlanks? = some blank ∧
      blank.identifier? = some (name, after) ∧
      ((∃ renamed stop, alias? after = some (renamed, stop) ∧
          ⟨start.upTo stop, name, some renamed⟩ = found) ∨
        alias? after = none ∧ ⟨start.upTo after, name, none⟩ = found) := by
  cases opens : start.opensWord <;> simp [fromImport, opens, Option.bind_eq_some_iff]
  repeat' first | refine exists_congr fun _ => ?_ | refine and_congr_right fun _ => ?_
  split <;> rename_i reads <;> simp [reads, and_assoc]

theorem wholeWord_eq_some_iff : wholeWord word start = some found ↔
    ∃ stop, start.literal? word = some stop ∧
      Text.isBoundary start.before start.rest.head? = true ∧
      Text.isBoundary stop.before stop.rest.head? = true ∧
      ⟨start.upTo stop, start.upTo stop, none⟩ = found := by
  simp [wholeWord, Option.bind_eq_some_iff, and_assoc]

theorem classHeader_name (place : Cursor.In text start) (finds : classHeader start = some found) :
    IsNameRun text found.name := by
  obtain ⟨_, word, gap, name, after, stop, keyword, blanks, reads, _, rfl⟩ :=
    classHeader_eq_some_iff.mp finds
  obtain ⟨placed, _, apart⟩ := (place.literal? keyword).1.someBlanks? blanks
  exact (placed.identifier? reads).2.2.2 apart

theorem functionHeader_name (place : Cursor.In text start)
    (finds : functionHeader start = some found) : IsNameRun text found.name := by
  obtain ⟨_, word, gap, name, after, opened, stop, keyword, blanks, reads, _, _, rfl⟩ :=
    functionHeader_eq_some_iff.mp finds
  obtain ⟨placed, _, apart⟩ := (place.literal? keyword).1.someBlanks? blanks
  exact (placed.identifier? reads).2.2.2 apart

theorem attributeAssignment_name (place : Cursor.In text start)
    (finds : attributeAssignment start = some found) : IsNameRun text found.name := by
  obtain ⟨_, owner, name, after, stop, keyword, reads, _, rfl⟩ :=
    attributeAssignment_eq_some_iff.mp finds
  have apart : owner.Apart := place.apart_literal? "self".toList keyword (by decide)
  exact ((place.literal? keyword).1.identifier? reads).2.2.2 apart

theorem variableAssignment_name (place : Cursor.In text start)
    (finds : variableAssignment start = some found) : IsNameRun text found.name := by
  obtain ⟨opens, name, after, stop, reads, _, rfl⟩ := variableAssignment_eq_some_iff.mp finds
  have apart := place.apart_blanks (Cursor.apart_of_opensLine opens)
  exact (place.blanks.identifier? reads).2.2.2 apart

theorem plainImport_name (place : Cursor.In text start) (finds : plainImport start = some found) :
    IsNameRun text found.name := by
  obtain ⟨_, word, gap, name, stop, keyword, blanks, reads, rfl⟩ :=
    plainImport_eq_some_iff.mp finds
  obtain ⟨placed, _, apart⟩ := (place.literal? keyword).1.someBlanks? blanks
  exact (placed.identifier? reads).2.2.2 apart

theorem alias?_name (place : Cursor.In text cursor) (reads : alias? cursor = some (renamed, stop)) :
    IsNameRun text renamed := by
  obtain ⟨gap, word, space, blanks, keyword, more, reads⟩ := alias?_eq_some_iff.mp reads
  have placed := (place.someBlanks? blanks).1
  obtain ⟨placed, _, apart⟩ := (placed.literal? keyword).1.someBlanks? more
  exact (placed.identifier? reads).2.2.2 apart

/-- The alias is whole as well as the imported name: whichever is bound is. -/
theorem fromImport_bound (place : Cursor.In text start) (finds : fromImport start = some found) :
    IsNameRun text found.bound := by
  obtain ⟨_, word, gap, path, space, keyword, blank, name, after, from_, blanks, dotted, more,
    import_, last, reads, ending⟩ := fromImport_eq_some_iff.mp finds
  have placed := ((place.literal? from_).1.someBlanks? blanks).1
  have placed := ((placed.run? dotted).1.someBlanks? more).1
  obtain ⟨placed, _, apart⟩ := (placed.literal? import_).1.someBlanks? last
  obtain ⟨placedAfter, _, _, whole⟩ := placed.identifier? reads
  rcases ending with ⟨renamed, stop, aliased, rfl⟩ | ⟨_, rfl⟩
  · exact alias?_name placedAfter aliased
  · exact whole apart

end SymbolIndex.Recogniser
