import Mathlib.Data.List.Nodup
import SymbolIndex.Proofs.Extraction.Groups

/-! Records of keywords: one for every whole word that is a keyword, and what is found at a position
on such a word. -/
namespace SymbolIndex
variable {text : Text} {record other : SymbolRecord} {run next : Capture} {k s i : Nat}
open LineIndex

/-- The run is a whole word, a keyword, and the record says where it stands. -/
structure SymbolRecord.MarksKeyword (text : Text) (record : SymbolRecord) (run : Capture) :
    Prop where
  whole : IsWordRun text run
  keyword : run.text ∈ Vocabulary.keywords
  placed : ∃ k s, OnLine text run.start k s ∧
    record = ⟨run.text, .keyword, k + 1, run.start - s + 1, run.text.length, [], []⟩

namespace SymbolRecord.MarksKeyword

theorem isNameRun (marks : record.MarksKeyword text run) : IsNameRun text run :=
  marks.whole.isNameRun (Findings.keywords_name _ marks.keyword).2

theorem standsOn (marks : record.MarksKeyword text run) (place : OnLine text run.start k s) :
    record.StandsOn text run k s := by
  obtain ⟨l, t, there, rfl⟩ := marks.placed
  obtain ⟨rfl, rfl⟩ := there.unique place
  exact ⟨marks.isNameRun, place, rfl, rfl, rfl, rfl⟩

/-- The record covers the positions of its run. -/
theorem contains_of_onLine (marks : record.MarksKeyword text run) (low : run.start ≤ i)
    (high : i < run.stop) (place : OnLine text i k s) :
    record.contains (k + 1) (i - s + 1) = true := by
  obtain ⟨l, t, there, rfl⟩ := marks.placed
  obtain ⟨rfl, rfl⟩ := (marks.isNameRun.onLine_inside there low high).unique place
  have reached := there.reached
  simp only [Capture.stop] at high
  simp only [contains, Bool.and_eq_true, decide_eq_true_eq]
  omega

/-- A keyword has one record. -/
theorem unique (marks : record.MarksKeyword text run) (also : other.MarksKeyword text run) :
    record = other := by
  obtain ⟨k, s, place, rfl⟩ := marks.placed
  obtain ⟨l, t, there, rfl⟩ := also.placed
  obtain ⟨rfl, rfl⟩ := place.unique there
  rfl

/-- A record marks one keyword. -/
theorem run_unique (marks : record.MarksKeyword text run) (also : record.MarksKeyword text next) :
    run = next := by
  obtain ⟨k, s, place, shape⟩ := marks.placed
  obtain ⟨l, t, there, alsoShape⟩ := also.placed
  have start := (marks.standsOn place).offset_eq
  have alsoStart := (also.standsOn there).offset_eq
  obtain ⟨_, _⟩ := run
  obtain ⟨_, _⟩ := next
  simp_all

end SymbolRecord.MarksKeyword

namespace Findings

theorem marksKeyword_recordOf (whole : IsWordRun text run) (keyword : run.text ∈ Vocabulary.keywords) :
    (recordOf (.ofText text) .keyword run [] []).MarksKeyword text run := by
  have inside := (whole.isNameRun (keywords_name _ keyword).2).stop_le_length
  have content := (whole.isNameRun (keywords_name _ keyword).2).start_lt_stop
  obtain ⟨k, s, place, position⟩ := lineColumn_eq (show run.start ≤ text.length by omega)
  refine ⟨whole, keyword, k, s, place, ?_⟩
  simp only [recordOf, position]

theorem mem_wordRecords {word : Text} (keyword : word ∈ Vocabulary.keywords) :
    record ∈ wordRecords text word ↔ ∃ run, run.text = word ∧ record.MarksKeyword text run := by
  obtain ⟨nonempty, name⟩ := keywords_name word keyword
  rw [wordRecords, List.mem_map]
  constructor
  · rintro ⟨found, occurs, rfl⟩
    obtain ⟨run, whole, rfl, rfl⟩ := (Recogniser.mem_wholeWord_iff nonempty name).mp occurs
    exact ⟨run, rfl, marksKeyword_recordOf whole keyword⟩
  · rintro ⟨run, rfl, marks⟩
    refine ⟨⟨run, run, none⟩, (Recogniser.mem_wholeWord_iff nonempty name).mpr
      ⟨run, marks.whole, rfl, rfl⟩, ?_⟩
    exact (marksKeyword_recordOf marks.whole keyword).unique marks

theorem mem_keywordRecords_iff : record ∈ Vocabulary.keywords.flatMap (wordRecords text) ↔
    ∃ run, record.MarksKeyword text run := by
  rw [List.mem_flatMap]
  constructor
  · rintro ⟨word, keyword, listed⟩
    obtain ⟨run, _, marks⟩ := (mem_wordRecords keyword).mp listed
    exact ⟨run, marks⟩
  · rintro ⟨run, marks⟩
    exact ⟨run.text, marks.keyword, (mem_wordRecords marks.keyword).mpr ⟨run, rfl, marks⟩⟩

theorem nodup_keywordRecords (text : Text) :
    (Vocabulary.keywords.flatMap (wordRecords text)).Nodup := by
  have distinct : Vocabulary.keywords.Nodup := by decide
  refine List.nodup_flatMap.mpr ⟨fun word keyword => ?_, ?_⟩
  · refine (wordRecords_rising keyword).imp fun {a b} before same => ?_
    exact Nat.lt_irrefl _ (same ▸ before)
  · refine distinct.imp_of_mem fun {word another} first second apart record listed also => apart ?_
    obtain ⟨run, rfl, marks⟩ := (mem_wordRecords first).mp listed
    obtain ⟨next, rfl, more⟩ := (mem_wordRecords second).mp also
    exact congrArg Capture.text (marks.run_unique more)

theorem kind_of_mem_kept (member : record ∈ (keptRecords text).map (·.record)) :
    record.kind ≠ .keyword := by
  obtain ⟨entry, kept, rfl⟩ := List.mem_map.mp member
  rw [kind_of_mem_allRecords (mem_of_mem_firstBy kept)]
  cases entry.group <;> decide

theorem mem_positions_keyword_iff : record ∈ (extract text).positions ∧ record.kind = .keyword ↔
    ∃ run, record.MarksKeyword text run := by
  rw [← mem_keywordRecords_iff, extract_positions, positions_eq, List.mem_append]
  constructor
  · rintro ⟨keyword | kept, kind⟩
    · exact keyword
    · exact absurd kind (kind_of_mem_kept kept)
  · exact fun listed => ⟨Or.inl listed, kind_of_mem_keywordRecords listed⟩

theorem count_of_marksKeyword (marks : record.MarksKeyword text run) :
    (extract text).positions.count record = 1 := by
  have listed := mem_keywordRecords_iff.mpr ⟨run, marks⟩
  have absent : record ∉ (keptRecords text).map (·.record) := fun kept =>
    kind_of_mem_kept kept (kind_of_mem_keywordRecords listed)
  rw [extract_positions, positions_eq, List.count_append, List.count_eq_zero_of_not_mem absent,
    List.count_eq_one_of_mem (nodup_keywordRecords text) listed]

/-- Keywords come first in the list, and what else there is at a position on one is found later. -/
theorem symbolAt_of_marksKeyword {line column : Int} (marks : record.MarksKeyword text run)
    (holds : record.contains line column = true) :
    symbolAt (extract text).positions line column = record := by
  rw [extract_positions, positions_eq, symbolAt, List.find?_append]
  have listed := mem_keywordRecords_iff.mpr ⟨run, marks⟩
  cases found : (Vocabulary.keywords.flatMap (wordRecords text)).find? (·.contains line column) with
  | none => exact absurd holds (List.find?_eq_none.mp found record listed)
  | some first =>
    rw [Option.some_or, Option.getD_some]
    obtain ⟨next, more⟩ := mem_keywordRecords_iff.mp (List.mem_of_find?_eq_some found)
    obtain ⟨_, _, place, _⟩ := marks.placed
    obtain ⟨_, _, there, _⟩ := more.placed
    have reaches := List.find?_some found
    obtain ⟨rfl, _⟩ := (more.standsOn there).same_of_contains (marks.standsOn place) reaches holds
    exact more.unique marks

end Findings

/-- Keyword records are those that mark the whole words which are keywords, one for each, and at every
position on such a word it is the record that is found. -/
theorem keyword_records_exact (text : Text) :
    (∀ record, record ∈ (extract text).positions ∧ record.kind = .keyword ↔
      ∃ run, record.MarksKeyword text run) ∧
    (∀ run, IsWordRun text run → run.text ∈ Vocabulary.keywords →
      ∃! record, SymbolRecord.MarksKeyword text record run) ∧
    ∀ record run, SymbolRecord.MarksKeyword text record run →
      (∀ next, record.MarksKeyword text next → next = run) ∧
      (extract text).positions.count record = 1 ∧
      ∀ i k s, run.start ≤ i → i < run.stop → OnLine text i k s →
        symbolAt (extract text).positions (k + 1) (i - s + 1) = record := by
  refine ⟨fun record => Findings.mem_positions_keyword_iff, fun run whole keyword => ?_,
    fun record run marks => ⟨fun next also => also.run_unique marks,
      Findings.count_of_marksKeyword marks, fun i k s low high place => ?_⟩⟩
  · exact ⟨_, Findings.marksKeyword_recordOf whole keyword, fun other also =>
      also.unique (Findings.marksKeyword_recordOf whole keyword)⟩
  · exact Findings.symbolAt_of_marksKeyword marks (marks.contains_of_onLine low high place)

end SymbolIndex
