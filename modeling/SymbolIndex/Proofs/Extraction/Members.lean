import Mathlib.Data.List.Basic
import SymbolIndex.Proofs.Dictionary
import SymbolIndex.Proofs.Extraction.Spans
import SymbolIndex.Proofs.Pattern.Excerpt
import SymbolIndex.Proofs.Scope.Ranges

/-! Class members come from searching each class body by itself, scopes and qualified names from
searching the whole text. The two agree on everything that is written within one body; a header or
an assignment that crosses a boundary of the body is seen by the search of the text only. -/
namespace SymbolIndex
variable {text scope name key parameters : Text} {range : ClassRange} {header assigned found : Occurrence}
  {record : SymbolRecord} {offset : Int} {last : Char} {recognise : Recogniser}

/-- All of a stretch lies in the body. -/
def ClassRange.Encloses (range : ClassRange) (stretch : Capture) : Prop :=
  range.bodyStart ≤ stretch.start ∧ stretch.stop ≤ range.bodyEnd

instance (range : ClassRange) (stretch : Capture) : Decidable (range.Encloses stretch) :=
  inferInstanceAs (Decidable (_ ∧ _))

/-- The class is listed with a member of that name. -/
def Snapshot.HasMember (snapshot : Snapshot) (scope name : Text) : Prop :=
  ∃ members, snapshot.classMembers.get? scope = some members ∧ name ∈ members

namespace Scope

theorem endsLine_take_bodyStart (text : Text) (headerStart : Nat)
    (below : bodyStart text headerStart < text.length) :
    Text.EndsLine (text.take (bodyStart text headerStart)) := by
  have cut := List.take_append_drop (bodyStart text headerStart) text
  rw [drop_bodyStart] at cut
  rcases Text.afterLine_cases (text.drop headerStart) with ⟨body, _, same⟩ | ⟨_, none⟩
  · have whole : (text.take headerStart ++ body ++ ['\n']) ++
        Text.afterLine (text.drop headerStart) = text := by
      conv => rhs; rw [← List.take_append_drop headerStart text, same]
      simp
    exact List.append_cancel_right (cut.trans whole.symm) ▸ Text.endsLine_concat _
  · have length := length_afterLine text headerStart
    rw [none, List.length_nil] at length
    omega

/-- The text below the header is the body and what follows it. -/
theorem drop_bodyStart_eq (text : Text) (headerStart : Nat) : ∃ inner below,
    text.drop (bodyStart text headerStart) = inner ++ below ∧
      inner.length = classEnd text headerStart - bodyStart text headerStart ∧
      (below = [] ∨ Text.EndsLine inner) := by
  let lines := Text.lines (text.drop (bodyStart text headerStart))
  let stays := staysInBody (headerIndent text headerStart)
  refine ⟨(lines.takeWhile stays).flatten, (lines.dropWhile stays).flatten, ?_, ?_, ?_⟩
  · rw [← List.flatten_append, List.takeWhile_append_dropWhile, Text.flatten_lines]
  · rw [classEnd, Nat.add_sub_cancel_left]
    rfl
  · cases left : lines.dropWhile stays with
    | nil => exact Or.inl rfl
    | cons line more =>
      have split : lines = lines.takeWhile stays ++ line :: more := by
        rw [← left, List.takeWhile_append_dropWhile]
      exact Or.inr (Text.endsLine_of_lines split)

/-- A body that holds anything is an excerpt of the text. -/
theorem body_excerpt (member : range ∈ classRanges text) (below : range.bodyStart < text.length) :
    let body := Text.slice text range.bodyStart range.bodyEnd
    body.length = range.bodyEnd - range.bodyStart ∧
      Text.Excerpt text (text.take range.bodyStart) body (text.drop range.bodyEnd) := by
  obtain ⟨header, _, rfl⟩ := List.mem_map.mp member
  obtain ⟨inner, after, split, length, closes⟩ := drop_bodyStart_eq text header.whole.start
  have ordered := bodyStart_le_classEnd text header.whole.start
  have body : Text.slice text (rangeOf text header).bodyStart (rangeOf text header).bodyEnd = inner := by
    simp only [Text.slice, rangeOf]
    rw [split, ← length, List.take_left]
  have rest : text.drop (rangeOf text header).bodyEnd = after := by
    simp only [rangeOf]
    rw [← Nat.add_sub_cancel' ordered, ← List.drop_drop, split, ← length, List.drop_left]
  rw [body, rest]
  refine ⟨length, ?_, endsLine_take_bodyStart text _ below, closes⟩
  rw [← split]
  exact (List.take_append_drop _ text).symm

end Scope

/-- A text with a class in it is not blank. -/
theorem content_of_mem_classRanges (member : range ∈ Scope.classRanges text) :
    Text.allBlank text = false := (Findings.mem_ranges member).not_allBlank

theorem extract_of_mem_classRanges (member : range ∈ Scope.classRanges text) :
    extract text = (Findings.ofText text).snapshot := by
  rw [extract, if_neg (by simp [content_of_mem_classRanges member])]

/-- What a search of the text finds within a body, a search of the body finds. -/
theorem ClassRange.Encloses.occurs {recognise : Recogniser} {found : Occurrence}
    (enclosed : range.Encloses found.whole) (member : range ∈ Scope.classRanges text)
    (spelled : recognise.Spelled last) (grounded : recognise.Grounded) (break_ne : last ≠ '\n')
    (occurs : found ∈ recognise.occurrences text) :
    ∃ again ∈ recognise.occurrences (Text.slice text range.bodyStart range.bodyEnd),
      again.name.text = found.name.text := by
  obtain ⟨starts, stops⟩ := enclosed
  obtain ⟨cursor, place, finds⟩ := Recogniser.mem_occurrences occurs
  obtain ⟨_, _, rest, _, _, split⟩ := spelled.ends finds
  have covers := grounded.nonempty place finds
  have begins := grounded.start place finds
  have inside := place.length_rest
  rw [split, List.length_append] at inside
  simp only [Capture.stop] at stops
  obtain ⟨length, excerpt⟩ := Scope.body_excerpt member (by omega)
  have above : (text.take range.bodyStart).length = range.bodyStart :=
    List.length_take_of_le (by omega)
  refine spelled.occurs_inside grounded break_ne excerpt occurs (by omega) ?_
  rw [above, length, Capture.stop]
  omega

/-- What a search of the body finds stands in the text, within the body. -/
theorem ClassRange.find_of_occurs (member : range ∈ Scope.classRanges text)
    (spelled : recognise.Spelled last) (grounded : recognise.Grounded) (break_ne : last ≠ '\n')
    (occurs : found ∈ recognise.occurrences (Text.slice text range.bodyStart range.bodyEnd)) :
    ∃ cursor again, Cursor.In text cursor ∧ recognise cursor = some again ∧
      range.Encloses again.whole ∧ again.name.text = found.name.text := by
  obtain ⟨cursor, place, finds⟩ := Recogniser.mem_occurrences occurs
  obtain ⟨_, _, rest, _, _, split⟩ := spelled.ends finds
  have covers := grounded.nonempty place finds
  have inside := place.length_rest
  have fits : (Text.slice text range.bodyStart range.bodyEnd).length ≤
      text.length - range.bodyStart := by
    rw [Text.slice, List.length_take, List.length_drop]
    exact Nat.min_le_right _ _
  rw [split, List.length_append] at inside
  obtain ⟨length, excerpt⟩ := Scope.body_excerpt member (by omega)
  obtain ⟨outer, again, seen, shift, refinds, whole, name⟩ :=
    spelled.outer_find break_ne excerpt place finds
  have above : (text.take range.bodyStart).length = range.bodyStart :=
    List.length_take_of_le (by omega)
  refine ⟨outer, again, seen, refinds, ?_, name⟩
  rw [Encloses, whole]
  simp only [Capture.stop]
  omega

namespace Findings

theorem mem_declaredMembers : name ∈ declaredMembers text range ↔
    ((∃ header ∈ Pattern.functionHeader.occurrences (text.slice range.bodyStart range.bodyEnd),
      header.name.text = name) ∧ Vocabulary.isOffered name = true) ∨
    ((∃ assigned ∈ Pattern.attributeAssignment.occurrences (text.slice range.bodyStart range.bodyEnd),
      assigned.name.text = name) ∧ Vocabulary.isPrivate name = false) ∨
    name = Vocabulary.initialiser := by
  simp only [declaredMembers, List.mem_append, List.mem_filter, List.mem_map, List.mem_singleton,
    Bool.not_eq_true', or_assoc]

/-- A class has the members that its bodies declare. -/
theorem hasMember_iff : (Findings.ofText text).snapshot.HasMember scope name ↔
    ∃ range ∈ Scope.classRanges text, range.name = scope ∧ name ∈ declaredMembers text range := by
  constructor
  · rintro ⟨members, found, listed⟩
    obtain ⟨_, rfl⟩ := Dictionary.mem_of_get?_tabulate found
    obtain ⟨range, chosen, declared⟩ := List.mem_flatMap.mp (mem_unique.mp listed)
    obtain ⟨member, named⟩ := List.mem_filter.mp chosen
    exact ⟨range, member, by simpa using named, declared⟩
  · rintro ⟨range, member, rfl, declared⟩
    refine ⟨_, Dictionary.get?_tabulate (List.mem_map.mpr ⟨range, member, rfl⟩) _, ?_⟩
    exact mem_unique.mpr (List.mem_flatMap.mpr ⟨range, List.mem_filter.mpr ⟨member, by simp⟩, declared⟩)

/-- A function header within a class body gives the class a member. -/
theorem hasMember_of_header (member : range ∈ Scope.classRanges text)
    (occurs : header ∈ Pattern.functionHeader.occurrences text)
    (enclosed : range.Encloses header.whole) (offered : Vocabulary.isOffered header.name.text = true) :
    (extract text).HasMember range.name header.name.text := by
  obtain ⟨again, listed, same⟩ := enclosed.occurs member Recogniser.functionHeader_spelled
    Recogniser.functionHeader_covers.grounded (by decide) occurs
  rw [extract_of_mem_classRanges member]
  exact hasMember_iff.mpr
    ⟨range, member, rfl, mem_declaredMembers.mpr (Or.inl ⟨⟨again, listed, same⟩, offered⟩)⟩

/-- An attribute's assignment within a class body gives the class a member. -/
theorem hasMember_of_assigned (member : range ∈ Scope.classRanges text)
    (occurs : assigned ∈ Pattern.attributeAssignment.occurrences text)
    (enclosed : range.Encloses assigned.whole)
    (visible : Vocabulary.isPrivate assigned.name.text = false) :
    (extract text).HasMember range.name assigned.name.text := by
  obtain ⟨again, listed, same⟩ := enclosed.occurs member Recogniser.attributeAssignment_spelled
    Recogniser.attributeAssignment_covers.grounded (by decide) occurs
  rw [extract_of_mem_classRanges member]
  exact hasMember_iff.mpr
    ⟨range, member, rfl, mem_declaredMembers.mpr (Or.inr (Or.inl ⟨⟨again, listed, same⟩, visible⟩))⟩

/-- What a body declares beside the initialiser is written within it. -/
theorem exists_find_of_declared (member : range ∈ Scope.classRanges text)
    (declared : name ∈ declaredMembers text range) : name = Vocabulary.initialiser ∨
      ∃ cursor found, Cursor.In text cursor ∧ range.Encloses found.whole ∧ found.name.text = name ∧
        (Recogniser.functionHeader cursor = some found ∧ Vocabulary.isOffered name = true ∨
          Recogniser.attributeAssignment cursor = some found ∧ Vocabulary.isPrivate name = false) := by
  rcases mem_declaredMembers.mp declared with ⟨⟨header, occurs, rfl⟩, offered⟩ |
    ⟨⟨assigned, occurs, rfl⟩, visible⟩ | rfl
  · obtain ⟨cursor, found, place, finds, enclosed, same⟩ := ClassRange.find_of_occurs member
      Recogniser.functionHeader_spelled Recogniser.functionHeader_covers.grounded (by decide) occurs
    exact Or.inr ⟨cursor, found, place, enclosed, same, Or.inl ⟨finds, offered⟩⟩
  · obtain ⟨cursor, found, place, finds, enclosed, same⟩ := ClassRange.find_of_occurs member
      Recogniser.attributeAssignment_spelled Recogniser.attributeAssignment_covers.grounded
      (by decide) occurs
    exact Or.inr ⟨cursor, found, place, enclosed, same, Or.inr ⟨finds, visible⟩⟩
  · exact Or.inl rfl

/-- Outside every class the scope is empty. -/
theorem exists_range_of_classAt (named : (Scopes.ofText text).classAt offset ≠ []) : ∃ range,
    (Scopes.ofText text).rangeAt? offset = some range ∧
      range.name = (Scopes.ofText text).classAt offset := by
  rw [Scopes.classAt] at named ⊢
  split at named
  · rename_i range found
    exact ⟨range, found, rfl⟩
  · exact absurd rfl named

/-- The record of a function is that of a header, with the class around the header's name. -/
theorem exists_header_of_record (member : record ∈ (Findings.ofText text).positions)
    (kind : record.kind = .function) : ∃ header ∈ Pattern.functionHeader.occurrences text,
      record = recordOf (.ofText text) .function header.name
        ((Scopes.ofText text).classAt header.name.start) header.parameters := by
  obtain ⟨group, captured, found, rfl⟩ := exists_capture_of_record member (by simp [kind])
  cases group
  case functions =>
    obtain ⟨header, occurs, rfl⟩ := List.mem_map.mp found
    exact ⟨header, occurs, rfl⟩
  all_goals cases kind

theorem dot_notMem_header (occurs : header ∈ Pattern.functionHeader.occurrences text) :
    '.' ∉ header.name.text := by
  obtain ⟨cursor, place, finds⟩ := Recogniser.mem_occurrences occurs
  exact fun member =>
    absurd ((Recogniser.functionHeader_name place finds).name '.' member) (by decide)

theorem dot_notMem_class (member : range ∈ Scope.classRanges text) : '.' ∉ range.name :=
  fun dot => absurd ((mem_ranges member).name '.' dot) (by decide)

/-- A qualified key comes from a header in a class of that name. -/
theorem exists_header_of_key
    (listed : (Findings.ofText text).functionParameters.get? (scope ++ '.' :: name) = some parameters) :
    ∃ header ∈ Pattern.functionHeader.occurrences text, ∃ range,
      (Scopes.ofText text).rangeAt? header.name.start = some range ∧ range.name = scope ∧
      header.name.text = name ∧ Vocabulary.isOffered name = true ∧ parameters = header.parameters := by
  obtain ⟨header, kept, same⟩ := List.mem_map.mp (Dictionary.mem_of_get?_ofList listed)
  obtain ⟨occurs, offered⟩ := List.mem_filter.mp kept
  have key : qualifiedName ((Scopes.ofText text).classAt header.name.start) header.name.text =
      scope ++ '.' :: name := congrArg Prod.fst same
  have plain := dot_notMem_header occurs
  rw [qualifiedName] at key
  split at key
  · exact absurd (by simp [key]) plain
  · rename_i named
    obtain ⟨range, found, around⟩ := exists_range_of_classAt (by simpa using named)
    have dotless := dot_notMem_class (Scopes.rangeAt?_eq_some found).1
    rw [← around] at key
    obtain ⟨here, _, same_name⟩ := (List.append_cons_inj_of_notMem dotless plain).mp key
    exact ⟨header, occurs, range, found, here, same_name, same_name ▸ offered,
      (congrArg Prod.snd same).symm⟩

end Findings

theorem extract_empty_or_snapshot (text : Text) :
    extract text = .empty ∨ extract text = (Findings.ofText text).snapshot := by
  rw [extract]
  split
  · exact Or.inl rfl
  · exact Or.inr rfl

/-- A function in the scope of a class is a member of it where the body of the class encloses its header,
and all members but the initialiser are written within a body of their class. -/
theorem members_agree_with_scopes (text : Text) :
    (∀ record ∈ (extract text).positions, record.kind = .function → record.scope ≠ [] →
      Vocabulary.isOffered record.name = true →
      ∃ header ∈ Pattern.functionHeader.occurrences text, ∃ range,
        (Scopes.ofText text).rangeAt? header.name.start = some range ∧
        record = Findings.recordOf (.ofText text) .function header.name range.name header.parameters ∧
        (range.Encloses header.whole → (extract text).HasMember record.scope record.name)) ∧
    (∀ scope name parameters,
      (extract text).functionParameters.get? (scope ++ '.' :: name) = some parameters →
      ∃ header ∈ Pattern.functionHeader.occurrences text, ∃ range,
        (Scopes.ofText text).rangeAt? header.name.start = some range ∧
        range.name = scope ∧ header.name.text = name ∧ parameters = header.parameters ∧
        (range.Encloses header.whole → (extract text).HasMember scope name)) ∧
    (∀ assigned ∈ Pattern.attributeAssignment.occurrences text,
      Vocabulary.isPrivate assigned.name.text = false → ∀ offset range,
        (Scopes.ofText text).rangeAt? offset = some range → range.Encloses assigned.whole →
        (extract text).HasMember range.name assigned.name.text) ∧
    ∀ scope name, (extract text).HasMember scope name →
      ∃ range ∈ Scope.classRanges text, range.name = scope ∧
        (name = Vocabulary.initialiser ∨
          ∃ cursor found, Cursor.In text cursor ∧ range.Encloses found.whole ∧ found.name.text = name ∧
            (Recogniser.functionHeader cursor = some found ∧ Vocabulary.isOffered name = true ∨
              Recogniser.attributeAssignment cursor = some found ∧
                Vocabulary.isPrivate name = false)) := by
  refine ⟨?_, ?_, ?_, ?_⟩
  · intro record member kind named offered
    rcases extract_empty_or_snapshot text with empty | whole
    · simp [empty, Snapshot.empty] at member
    rw [whole] at member
    obtain ⟨header, occurs, rfl⟩ := Findings.exists_header_of_record member kind
    obtain ⟨range, found, around⟩ := Findings.exists_range_of_classAt named
    refine ⟨header, occurs, range, found, by rw [around], fun enclosed => ?_⟩
    have listed := (Scopes.rangeAt?_eq_some found).1
    have holds := Findings.hasMember_of_header listed occurs enclosed offered
    rwa [around] at holds
  · intro scope name parameters listed
    rcases extract_empty_or_snapshot text with empty | whole
    · simp [empty, Snapshot.empty, Dictionary.empty, Dictionary.get?] at listed
    rw [whole] at listed
    obtain ⟨header, occurs, range, found, rfl, rfl, offered, same⟩ :=
      Findings.exists_header_of_key listed
    refine ⟨header, occurs, range, found, rfl, rfl, same, fun enclosed => ?_⟩
    exact Findings.hasMember_of_header (Scopes.rangeAt?_eq_some found).1 occurs enclosed offered
  · intro assigned occurs visible offset range found enclosed
    exact Findings.hasMember_of_assigned (Scopes.rangeAt?_eq_some found).1 occurs enclosed visible
  · intro scope name holds
    rcases extract_empty_or_snapshot text with empty | whole
    · obtain ⟨members, found, _⟩ := holds
      simp [empty, Snapshot.empty, Dictionary.empty, Dictionary.get?] at found
    rw [whole] at holds
    obtain ⟨range, member, named, declared⟩ := Findings.hasMember_iff.mp holds
    exact ⟨range, member, named, Findings.exists_find_of_declared member declared⟩

theorem members_agree_with_scopes_inner :
    let text := "class A:\n class B:\n  def f(x):\n   self.y = x\n".toList
    (extract text).functionParameters.get? "B.f".toList = some "x".toList ∧
      (extract text).HasMember "B".toList "f".toList ∧
      (extract text).HasMember "B".toList "y".toList := by
  let text := "class A:\n class B:\n  def f(x):\n   self.y = x\n".toList
  have agree := members_agree_with_scopes text
  have key : (extract text).functionParameters.get? "B.f".toList = some "x".toList := by
    rw [extract, if_neg (by decide)]
    simp only [Findings.snapshot, Findings.functionParameters, Scopes.classAt, Findings.ofText,
      Scopes.rangeAt?_eq]
    decide
  have within : ∀ header ∈ Pattern.functionHeader.occurrences text,
      ∀ range ∈ Scope.classRanges text, range.Encloses header.whole := by decide
  obtain ⟨header, occurs, range, found, _, _, _, holds⟩ :=
    agree.2.1 "B".toList "f".toList "x".toList key
  refine ⟨key, holds (within header occurs range (Scopes.rangeAt?_eq_some found).1), ?_⟩
  have around : (Scopes.ofText text).rangeAt? 36 = some ⟨"B".toList, 10, 16, 19, 45, 1⟩ := by
    rw [Scopes.rangeAt?_eq]
    decide
  exact agree.2.2.1 ⟨⟨34, "self.y =".toList⟩, ⟨39, "y".toList⟩, none⟩ (by decide) (by decide) 36 _
    around (by decide)

/-- Parameters that go on at the margin leave the body: the header is found in the text, with the
class as its scope, and not in the body. -/
example :
    let found := Findings.ofText "class A:\n    def f(\nx): pass\n".toList
    (found.functions.map fun header => found.scopes.classAt header.name.start) = ["A".toList] ∧
      found.classMembers.get? "A".toList = some [Vocabulary.initialiser] := by
  simp only [Findings.ofText, Scopes.classAt, Scopes.rangeAt?_eq]
  decide

end SymbolIndex
