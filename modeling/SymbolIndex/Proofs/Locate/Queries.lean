import SymbolIndex.Proofs.Extraction.Spans
import SymbolIndex.Proofs.Locate.Word
import SymbolIndex.Proofs.Workspace.Delivery

/-! Queries by position: records, the word at a caret and definitions agree on every name. -/
namespace SymbolIndex
variable {positions : List SymbolRecord} {record : SymbolRecord} {text name : Text}
  {line column : Int} {run : Capture} {k s : Nat}
open LineIndex

theorem symbolAt_eq_empty_iff (named : ∀ record ∈ positions, record.name ≠ []) :
    symbolAt positions line column = .empty ↔
      ∀ record ∈ positions, record.contains line column = false := by
  constructor
  · intro nothing record member
    apply Bool.eq_false_iff.mpr
    intro holds
    have reached : (positions.find? (·.contains line column)).isSome :=
      List.find?_isSome.mpr ⟨record, member, holds⟩
    obtain ⟨first, found⟩ := Option.isSome_iff_exists.mp reached
    rw [symbolAt, found, Option.getD_some] at nothing
    exact named first (List.mem_of_find?_eq_some found) (by rw [nothing]; rfl)
  · intro missed
    have nothing : positions.find? (·.contains line column) = none :=
      List.find?_eq_none.mpr fun record member => by simp [missed record member]
    rw [symbolAt, nothing, Option.getD_none]

/-- What is found at a position is the leftmost record there. -/
theorem symbolAt_leftmost (found : symbolAt positions line column ≠ .empty) :
    ∃ before after, positions = before ++ symbolAt positions line column :: after ∧
      (∀ earlier ∈ before, earlier.contains line column = false) ∧
      (symbolAt positions line column).contains line column = true := by
  cases first : positions.find? (·.contains line column) with
  | none => exact absurd (by rw [symbolAt, first, Option.getD_none]) found
  | some record =>
    obtain ⟨holds, before, after, same, missed⟩ := List.find?_eq_some_iff_append.mp first
    have here : symbolAt positions line column = record := by
      rw [symbolAt, first, Option.getD_some]
    rw [here]
    exact ⟨before, after, same, by simpa using missed, holds⟩

/-- A name with a record other than a keyword has a definition. -/
theorem definitionOf_spec (member : record ∈ positions) (kind : record.kind ≠ .keyword)
    (named : record.name ≠ []) :
    definitionOf positions record.name ∈ positions ∧
      (definitionOf positions record.name).kind ≠ .keyword ∧
      (definitionOf positions record.name).name = record.name := by
  have reached :
      (positions.find? fun other => other.name = record.name && other.kind ≠ .keyword).isSome :=
    List.find?_isSome.mpr ⟨record, member, by simp [kind]⟩
  obtain ⟨first, found⟩ := Option.isSome_iff_exists.mp reached
  have chosen : definitionOf positions record.name = first := by
    rw [definitionOf, if_neg (by simpa using named), found, Option.getD_some]
  have fits := List.find?_some found
  simp only [Bool.and_eq_true, decide_eq_true_eq] at fits
  rw [chosen]
  exact ⟨List.mem_of_find?_eq_some found, fits.2, fits.1⟩

namespace SymbolRecord.StandsOn

theorem name_ne_nil (stands : record.StandsOn text run k s) : record.name ≠ [] := by
  rw [stands.name]
  exact stands.whole.nonempty

/-- A caret on the name of a record, or just after it, is at the word that the record names. -/
theorem wordAt_eq (stands : record.StandsOn text run k s) (low : record.column ≤ column)
    (high : column ≤ record.column + record.length) :
    wordAt text record.line column = record.name := by
  have reached := stands.place.reached
  rw [stands.column] at low high
  rw [stands.length] at high
  rw [stands.line, stands.name]
  refine SymbolIndex.wordAt_eq stands.whole stands.place (by omega) ?_
  simp only [Capture.stop]
  omega

end SymbolRecord.StandsOn

/-- Queries of these records agree with the text. By position one finds the leftmost record there,
named as the word there, or nothing exactly where no record is. A caret on a name or just after it
is at that word, which has a definition unless it is only a keyword. -/
structure QueriesAgree (text : Text) (positions : List SymbolRecord) : Prop where
  nothing : ∀ line column : Int, symbolAt positions line column = .empty ↔
    ∀ record ∈ positions, record.contains line column = false
  leftmost : ∀ line column : Int, symbolAt positions line column ≠ .empty →
    ∃ before after, positions = before ++ symbolAt positions line column :: after ∧
      (∀ earlier ∈ before, earlier.contains line column = false) ∧
      (symbolAt positions line column).contains line column = true
  named : ∀ line column : Int, symbolAt positions line column ≠ .empty →
    (symbolAt positions line column).name = wordAt text line column
  word : ∀ record ∈ positions, ∀ column : Int, record.column ≤ column →
    column ≤ record.column + record.length → wordAt text record.line column = record.name
  definition : ∀ record ∈ positions, ∀ column : Int, record.column ≤ column →
    column ≤ record.column + record.length → record.kind ≠ .keyword →
    definitionAt positions text record.line column ∈ positions ∧
      definitionAt positions text record.line column ≠ .empty ∧
      (definitionAt positions text record.line column).kind ≠ .keyword ∧
      (definitionAt positions text record.line column).name = record.name

theorem queriesAgree_of_standsOn
    (each : ∀ record ∈ positions, ∃ run k s, record.StandsOn text run k s) :
    QueriesAgree text positions where
  nothing line column := by
    apply symbolAt_eq_empty_iff
    intro record member
    obtain ⟨run, k, s, stands⟩ := each record member
    exact stands.name_ne_nil
  leftmost line column found := symbolAt_leftmost found
  named line column found := by
    obtain ⟨before, after, split, _, here⟩ := symbolAt_leftmost found
    generalize symbolAt positions line column = first at split here ⊢
    have member : first ∈ positions := by
      rw [split]
      exact List.mem_append_right before List.mem_cons_self
    obtain ⟨run, k, s, stands⟩ := each first member
    simp only [SymbolRecord.contains, Bool.and_eq_true, decide_eq_true_eq] at here
    rw [← here.1.1]
    exact (stands.wordAt_eq here.1.2 (Int.le_of_lt here.2)).symm
  word record member column low high := by
    obtain ⟨run, k, s, stands⟩ := each record member
    exact stands.wordAt_eq low high
  definition record member column low high kind := by
    obtain ⟨run, k, s, stands⟩ := each record member
    rw [definitionAt, stands.wordAt_eq low high]
    obtain ⟨listed, other, name⟩ := definitionOf_spec member kind stands.name_ne_nil
    refine ⟨listed, fun none => ?_, other, name⟩
    rw [none] at name
    exact stands.name_ne_nil name.symm

/-- After an extraction a locator attached to the extractor holds the records of the new snapshot,
and its queries agree with the document. -/
theorem locator_queries_agree {w done : Workspace} {source n : Nat} {old : Snapshot} {text : Text}
    {symbols : List Text} (python : w.origin? source = some (.extractor .python old))
    (attached : .locator n ∈ (w.channel source .positions).subscribers)
    (present : n < w.locators.length)
    (extracted : w.extract source text = (done, .ok symbols)) :
    ∃ locator, done.locators[n]? = some locator ∧
      (done.origin? source).map Origin.positions = some locator.positions ∧
      QueriesAgree text locator.positions := by
  have installed : w.install source .python (SymbolIndex.extract text) = (done, none) := by
    simp only [Workspace.extract, python, Language.python_snapshot?] at extracted
    split at extracted
    · rename_i next result
      obtain ⟨rfl, _⟩ := Prod.mk.inj extracted
      exact result
    · simp at extracted
  obtain ⟨origin, locator, holds, same⟩ :=
    Workspace.holds_install python attached present installed
  refine ⟨locator, holds, by rw [origin, same]; rfl, ?_⟩
  exact queriesAgree_of_standsOn fun record member => extract_standsOn (same ▸ member)

theorem locator_queries_agree_attached :
    let w := (Workspace.empty.addExtractor .python).addLocator (some 0)
    let done := (w.extract 0 "x = y".toList).1
    ∃ locator, done.locators[0]? = some locator ∧
      (done.origin? 0).map Origin.positions = some locator.positions ∧
      QueriesAgree "x = y".toList locator.positions := by
  have extracted : ((Workspace.empty.addExtractor .python).addLocator (some 0)).extract 0
      "x = y".toList = (_, .ok (extract "x = y".toList).symbols) := rfl
  exact locator_queries_agree rfl (by decide) (by decide) extracted

end SymbolIndex
