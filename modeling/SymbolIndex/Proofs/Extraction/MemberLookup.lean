import SymbolIndex.Proofs.Extraction.Members
import SymbolIndex.Workspace.Basic

/-! The members behind a name. The look-up goes on where it has found no members, not only where a
name is no class; every class has a member, so the two are the same. -/
namespace SymbolIndex
variable {text name type : Text} {members : List Text} {snapshot : Snapshot}
  {fallback : Text → List Text} {cursor : Cursor} {found : Occurrence}

/-- A class of that name is in the text, be it private, nested, repeated or without a body. -/
def Scope.IsClass (text name : Text) : Prop := ∃ range ∈ classRanges text, range.name = name

instance (text name : Text) : Decidable (Scope.IsClass text name) :=
  inferInstanceAs (Decidable (∃ range ∈ Scope.classRanges text, range.name = name))

/-- The last of the constructor calls that are assigned to a name. -/
def lastConstructed (text name : Text) : Option Occurrence :=
  ((Pattern.constructorCall.occurrences text).filter (·.name.text = name)).getLast?

/-- A member list as classes have it: no member twice, always the initialiser, and no other private
name. -/
structure IsMemberList (members : List Text) : Prop where
  distinct : members.Nodup
  initialised : Vocabulary.initialiser ∈ members
  offered : ∀ member ∈ members, Vocabulary.isPrivate member = true → member = Vocabulary.initialiser

theorem IsMemberList.ne_nil (list : IsMemberList members) : members ≠ [] :=
  List.ne_nil_of_mem list.initialised

namespace Snapshot

/-- A class that is listed has the members listed for it. -/
theorem membersOf_listed (listed : snapshot.classMembers.get? name = some members)
    (list : IsMemberList members) : snapshot.membersOf fallback name = members := by
  have content : members.isEmpty = false := by simpa using list.ne_nil
  simp only [membersOf, listed, Option.getD_some, content, Bool.false_eq_true, if_false]
  exact unique_of_nodup list.distinct

/-- Other names have the members of the class they were last built from. -/
theorem membersOf_typed (unlisted : snapshot.classMembers.get? name = none)
    (typed : snapshot.objectTypes.get? name = some type) (named : type ≠ [])
    (listed : snapshot.classMembers.get? type = some members) (list : IsMemberList members) :
    snapshot.membersOf fallback name = members := by
  obtain ⟨c, rest, rfl⟩ := List.exists_cons_of_ne_nil named
  have content : members.isEmpty = false := by simpa using list.ne_nil
  simp only [membersOf, unlisted, typed, listed, Option.getD_none, Option.getD_some, content,
    List.isEmpty_nil, if_true, Bool.false_eq_true, if_false]
  exact unique_of_nodup list.distinct

/-- Without a class the members are those of the fallback. -/
theorem membersOf_unlisted (unlisted : snapshot.classMembers.get? name = none)
    (foreign : ∀ type, snapshot.objectTypes.get? name = some type →
      snapshot.classMembers.get? type = none) :
    snapshot.membersOf fallback name = unique (fallback name) := by
  simp only [membersOf, unlisted, Option.getD_none, List.isEmpty_nil, if_true]
  split
  · rename_i c rest typed
    rw [foreign _ typed]
    rfl
  · rfl

end Snapshot

namespace Findings

theorem declaredMembers_offered {range : ClassRange} (declared : name ∈ declaredMembers text range)
    (hidden : Vocabulary.isPrivate name = true) : name = Vocabulary.initialiser := by
  rcases mem_declaredMembers.mp declared with ⟨_, offered⟩ | ⟨_, visible⟩ | same
  · simpa [Vocabulary.isOffered, hidden] using offered
  · exact absurd (hidden.symm.trans visible) (by decide)
  · exact same

/-- The classes that members are listed for are those of the text, each once. -/
theorem extract_classMembers_keys (text : Text) :
    (extract text).classMembers.keys = unique ((Scope.classRanges text).map (·.name)) := by
  rw [extract]
  split
  · rename_i blanks
    have none : Scope.classRanges text = [] := by
      refine List.eq_nil_iff_forall_not_mem.mpr fun range member => ?_
      simp [content_of_mem_classRanges member] at blanks
    rw [none]
    rfl
  · change ((unique _).map _).map Prod.fst = _
    rw [List.map_map]
    exact List.map_id _

theorem get?_classMembers_eq_none :
    (extract text).classMembers.get? name = none ↔ ¬ Scope.IsClass text name := by
  have key : name ∈ (extract text).classMembers.keys ↔ Scope.IsClass text name := by
    rw [extract_classMembers_keys, mem_unique, List.mem_map]
    rfl
  rw [← key, Dictionary.mem_keys, ← Option.not_isSome_iff_eq_none, Option.isSome_iff_exists]

theorem exists_classMembers (isClass : Scope.IsClass text name) :
    ∃ members, (extract text).classMembers.get? name = some members :=
  Option.ne_none_iff_exists'.mp fun none => get?_classMembers_eq_none.mp none isClass

/-- Every class lists the initialiser, and what its bodies declare once each. -/
theorem isMemberList_of_get? (listed : (extract text).classMembers.get? name = some members) :
    IsMemberList members := by
  rcases extract_empty_or_snapshot text with empty | whole
  · rw [empty] at listed
    cases listed
  rw [whole] at listed
  obtain ⟨key, rfl⟩ := Dictionary.mem_of_get?_tabulate listed
  obtain ⟨range, member, named⟩ := List.mem_map.mp key
  have chosen : range ∈ ((Scopes.ofText text).ranges.filter (·.name = name)) :=
    List.mem_filter.mpr ⟨member, by simpa using named⟩
  refine ⟨nodup_unique _, mem_unique.mpr ?_, fun other declared hidden => ?_⟩
  · exact List.mem_flatMap.mpr ⟨range, chosen, mem_declaredMembers.mpr (Or.inr (Or.inr rfl))⟩
  · obtain ⟨body, _, inBody⟩ := List.mem_flatMap.mp (mem_unique.mp declared)
    exact declaredMembers_offered inBody hidden

/-- A constructor call begins with a name, so its text is not blank. -/
theorem content_of_constructorCall (place : Cursor.In text cursor)
    (finds : Recogniser.constructorCall cursor = some found) : Text.allBlank text = false := by
  obtain ⟨name, after, _, _, _, _, reads, _⟩ := Recogniser.constructorCall_eq_some_iff.mp finds
  obtain ⟨_, read, spelled, _⟩ := Cursor.identifier?_eq_some_iff.mp reads
  obtain ⟨c, rest, shape, first⟩ := spelled.start
  have member : c ∈ text := by
    have here : c ∈ cursor.rest := by simp [read.rest_eq, shape]
    exact List.mem_of_mem_drop (place.rest ▸ here)
  refine Bool.eq_false_iff.mpr fun blanks => ?_
  have other := Text.isNameChar_of_isBlank (List.all_eq_true.mp blanks c member)
  rw [Text.isNameChar_of_isNameStart first] at other
  cases other

/-- The type of a name is the callee of the last call that is assigned to it. -/
theorem get?_objectTypes (text name : Text) : (extract text).objectTypes.get? name =
    (lastConstructed text name).map (·.detailText) := by
  rw [extract]
  split
  · rename_i blanks
    have none : Pattern.constructorCall.occurrences text = [] := by
      refine List.eq_nil_iff_forall_not_mem.mpr fun call member => ?_
      obtain ⟨cursor, place, finds⟩ := Recogniser.mem_occurrences member
      simp [content_of_constructorCall place finds] at blanks
    rw [lastConstructed, none]
    rfl
  · change (Dictionary.ofList _).get? name = _
    rw [Dictionary.get?_ofList, List.filter_map, List.getLast?_map, Option.map_map, lastConstructed]
    rfl

end Findings

theorem Scope.IsClass.name_ne_nil (isClass : Scope.IsClass text name) : name ≠ [] := by
  obtain ⟨range, member, rfl⟩ := isClass
  exact (Findings.mem_ranges member).nonempty

theorem Vocabulary.shapeMembers_nodup (expression : Text) : (shapeMembers expression).Nodup := by
  unfold shapeMembers
  split
  · decide
  split
  · decide
  split
  · decide
  · exact List.nodup_nil

/-- A name that is a class has the members listed for it, another name those of the class it was last
built from, and any other those of its shape. -/
theorem members_by_class_type_shape (text : Text) :
    let snapshot := extract text
    let membersOf := (Origin.extractor .python snapshot).membersOf
    (∀ name, name ∈ snapshot.classMembers.keys ↔ Scope.IsClass text name) ∧
    (∀ name members, snapshot.classMembers.get? name = some members → IsMemberList members) ∧
    ∀ name,
      snapshot.objectTypes.get? name = (lastConstructed text name).map (·.detailText) ∧
      (Scope.IsClass text name → snapshot.classMembers.get? name = some (membersOf name)) ∧
      (¬ Scope.IsClass text name → ∀ type, snapshot.objectTypes.get? name = some type →
        Scope.IsClass text type →
          snapshot.classMembers.get? type = some (membersOf name) ∧ membersOf name = membersOf type) ∧
      (¬ Scope.IsClass text name → (∀ type, snapshot.objectTypes.get? name = some type →
        ¬ Scope.IsClass text type) → membersOf name = Vocabulary.shapeMembers name) := by
  intro snapshot membersOf
  have own {name : Text} (isClass : Scope.IsClass text name) :
      snapshot.classMembers.get? name = some (membersOf name) := by
    obtain ⟨members, listed⟩ := Findings.exists_classMembers isClass
    have same : membersOf name = members :=
      Snapshot.membersOf_listed listed (Findings.isMemberList_of_get? listed)
    rw [same]
    exact listed
  refine ⟨fun name => ?_, fun name members => Findings.isMemberList_of_get?, fun name =>
    ⟨Findings.get?_objectTypes text name, own, fun other type typed isClass => ?_,
      fun other foreign => ?_⟩⟩
  · rw [Findings.extract_classMembers_keys, mem_unique, List.mem_map]
    rfl
  · have listed := own isClass
    have same : membersOf name = membersOf type :=
      Snapshot.membersOf_typed (Findings.get?_classMembers_eq_none.mpr other) typed
        isClass.name_ne_nil listed (Findings.isMemberList_of_get? listed)
    exact ⟨same ▸ listed, same⟩
  · have shape : membersOf name = unique (Vocabulary.shapeMembers name) :=
      Snapshot.membersOf_unlisted (Findings.get?_classMembers_eq_none.mpr other) fun type typed =>
        Findings.get?_classMembers_eq_none.mpr (foreign type typed)
    rw [shape, unique_of_nodup (Vocabulary.shapeMembers_nodup name)]

theorem members_by_class_type_shape_private :
    let text := "class _A:\n  def f(x): pass\na = B()\na = _A()\n".toList
    let membersOf := (Origin.extractor .python (extract text)).membersOf
    (extract text).classMembers.get? "_A".toList = some (membersOf "a".toList) ∧
      IsMemberList (membersOf "a".toList) ∧ membersOf "a".toList = membersOf "_A".toList ∧
      membersOf "{}".toList = Vocabulary.dictMembers := by
  intro text membersOf
  obtain ⟨_, lists, resolve⟩ := members_by_class_type_shape text
  obtain ⟨typed, _, viaType, _⟩ := resolve "a".toList
  obtain ⟨untyped, _, _, viaShape⟩ := resolve "{}".toList
  have call : (lastConstructed text "a".toList).map (·.detailText) = some "_A".toList := by decide
  have none : (lastConstructed text "{}".toList).map (·.detailText) = none := by decide
  obtain ⟨listed, same⟩ := viaType (by decide) "_A".toList (typed.trans call) (by decide)
  refine ⟨listed, lists _ _ listed, same, viaShape (by decide) fun type other => ?_⟩
  exact absurd (other.symm.trans (untyped.trans none)) (by simp)

end SymbolIndex
