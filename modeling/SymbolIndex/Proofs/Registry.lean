import Mathlib.Data.List.Induction
import SymbolIndex.Registry
import SymbolIndex.Proofs.Dictionary
import SymbolIndex.Proofs.Text.Order

/-! Look-ups in a registry after any sequence of registrations, some of which are refused. An extension
belongs to the last accepted registration that lists it, in whatever case, so the extensions of the
registered languages divide everything that was ever accepted. -/
namespace SymbolIndex

/-- An attempt to register a language. -/
structure Registration where
  name : Text
  language : Language
  extensions : List Text

/-- Whether an extension is among those of a registration, in whatever case. -/
def Registration.Lists (call : Registration) (extension : Text) : Prop :=
  Text.lower extension ∈ call.extensions.map Text.lower

namespace Registry
variable {registry next : Registry} {call : Registration} {calls log : List Registration}
  {name extension : Text} {error : RegistryError}

/-- The registry that an attempt leaves, and the attempts accepted so far, the latest first. One that
is refused changes neither. -/
def attempt : Registry × List Registration → Registration → Registry × List Registration
  | (registry, log), call =>
    match registry.register call.name call.language call.extensions with
    | .ok next => (next, call :: log)
    | .error _ => (registry, log)

/-- The registry after attempts from the empty one, and those that were accepted. -/
def after (calls : List Registration) : Registry × List Registration :=
  calls.foldl attempt (.empty, [])

theorem after_concat (calls : List Registration) (call : Registration) :
    after (calls ++ [call]) = attempt (after calls) call := by
  rw [after, List.foldl_append]
  rfl

theorem register_eq_ok : registry.register call.name call.language call.extensions = .ok next ↔
    registry.languages.get? call.name = none ∧ next = {
      languages := registry.languages.put call.name call.language
      owners := registry.owners.putAll
        ((call.extensions.map Text.lower).map fun extension => (extension, call.name)) } := by
  rw [register, Dictionary.contains, List.map_map]
  cases registry.languages.get? call.name with
  | none => exact ⟨fun done => ⟨rfl, (Except.ok.inj done).symm⟩, fun ⟨_, same⟩ => by rw [same]; rfl⟩
  | some language => simp

theorem register_eq_error :
    registry.register call.name call.language call.extensions = .error error ↔
      error = .alreadyRegistered call.name ∧
        ∃ language, registry.languages.get? call.name = some language := by
  rw [register, Dictionary.contains]
  cases registry.languages.get? call.name with
  | none => simp
  | some language => simp [eq_comm]

/-- The two maps of a registry hold what was accepted: a language under each name, and under each
lower-case extension the name that listed it last. -/
structure Records (registry : Registry) (log : List Registration) : Prop where
  languages : ∀ name, registry.languages.get? name =
    (log.find? (·.name = name)).map Registration.language
  owners : ∀ extension, registry.owners.get? extension =
    (log.find? (extension ∈ ·.extensions.map Text.lower)).map Registration.name

theorem Records.attempt (records : Records registry log) (call : Registration) :
    Records (attempt (registry, log) call).1 (attempt (registry, log) call).2 := by
  rw [Registry.attempt]
  split
  · rename_i next done
    obtain ⟨_, rfl⟩ := register_eq_ok.mp done
    constructor
    · intro name
      rw [Dictionary.get?_put, records.languages, List.find?_cons]
      by_cases same : call.name = name
      · simp [same]
      · simp [same, Ne.symm same]
    · intro extension
      rw [Dictionary.get?_putAll_const, records.owners, List.find?_cons]
      by_cases listed : extension ∈ call.extensions.map Text.lower
      · simp only [listed, if_true, decide_true, Option.map_some]
      · simp only [listed, if_false, decide_false]
  · exact records

theorem records_after (calls : List Registration) : Records (after calls).1 (after calls).2 := by
  induction calls using List.reverseRecOn with
  | nil => exact ⟨fun _ => rfl, fun _ => rfl⟩
  | append_singleton calls call ih =>
    rw [after_concat]
    exact ih.attempt call

/-- What a registry answers after registrations of which these were accepted, the latest first. -/
structure Follows (registry : Registry) (log : List Registration) : Prop where
  registers : ∀ call : Registration,
    (∃ earlier ∈ log, earlier.name = call.name) ∧
        registry.register call.name call.language call.extensions =
          .error (.alreadyRegistered call.name) ∨
      (∀ earlier ∈ log, earlier.name ≠ call.name) ∧
        ∃ next, registry.register call.name call.language call.extensions = .ok next
  languageFor : ∀ extension name, registry.languageFor extension = .ok name ↔
    ∃ later call earlier, log = later ++ call :: earlier ∧ call.Lists extension ∧
      call.name = name ∧ ∀ other ∈ later, ¬other.Lists extension
  unknown : ∀ extension error, registry.languageFor extension = .error error ↔
    error = .unknownExtension extension ∧ ∀ call ∈ log, ¬call.Lists extension
  creates : ∀ extension name, registry.languageFor extension = .ok name →
    registry.isRegistered name = true ∧
      ∃ call ∈ log, call.name = name ∧ registry.create name = .ok call.language
  names : registry.names.Pairwise Text.CodeLt
  registered : ∀ name, name ∈ registry.names ↔ ∃ call ∈ log, call.name = name
  sorted : ∀ name, (registry.extensionsOf name).Pairwise Text.CodeLt
  disjoint : (registry.names.map registry.extensionsOf).Pairwise List.Disjoint
  together : ∀ extension, (∃ name ∈ registry.names, extension ∈ registry.extensionsOf name) ↔
    ∃ call ∈ log, extension ∈ call.extensions.map Text.lower

theorem mem_extensionsOf :
    extension ∈ registry.extensionsOf name ↔ registry.owners.get? extension = some name := by
  rw [extensionsOf, Text.mem_sort, Dictionary.get?_eq_some]
  simp

theorem sorted_extensionsOf (registry : Registry) (name : Text) :
    (registry.extensionsOf name).Pairwise Text.CodeLt :=
  Text.sort_strict (registry.owners.distinct.sublist (List.filter_sublist.map Prod.fst))

theorem Records.get?_languages (records : Records registry log) (name : Text) :
    (∃ language, registry.languages.get? name = some language) ↔ ∃ call ∈ log, call.name = name := by
  simp [records.languages, ← Option.isSome_iff_exists]

theorem Records.mem_names (records : Records registry log) :
    name ∈ registry.names ↔ ∃ call ∈ log, call.name = name := by
  rw [Registry.names, Text.mem_sort, Dictionary.mem_keys, records.get?_languages]

/-- The owner of an extension is the last that listed it. -/
theorem Records.owner_eq_some (records : Records registry log) :
    registry.owners.get? extension = some name ↔
      ∃ later call earlier, log = later ++ call :: earlier ∧
        extension ∈ call.extensions.map Text.lower ∧ call.name = name ∧
        ∀ other ∈ later, extension ∉ other.extensions.map Text.lower := by
  rw [records.owners, Option.map_eq_some_iff]
  simp only [List.find?_eq_some_iff_append, decide_eq_true_eq, Bool.not_eq_true', decide_eq_false_iff_not]
  constructor
  · rintro ⟨call, ⟨listed, later, earlier, rfl, none⟩, rfl⟩
    exact ⟨later, call, earlier, rfl, listed, rfl, none⟩
  · rintro ⟨later, call, earlier, rfl, listed, rfl, none⟩
    exact ⟨call, ⟨listed, later, earlier, rfl, none⟩, rfl⟩

theorem Records.owner_eq_none (records : Records registry log) :
    registry.owners.get? extension = none ↔
      ∀ call ∈ log, extension ∉ call.extensions.map Text.lower := by
  rw [records.owners, Option.map_eq_none_iff, List.find?_eq_none]
  simp only [decide_eq_true_eq]

theorem languageFor_eq_ok : registry.languageFor extension = .ok name ↔
    registry.owners.get? (Text.lower extension) = some name := by
  rw [languageFor]
  cases registry.owners.get? (Text.lower extension) <;> simp

theorem languageFor_eq_error : registry.languageFor extension = .error error ↔
    error = .unknownExtension extension ∧ registry.owners.get? (Text.lower extension) = none := by
  rw [languageFor]
  cases registry.owners.get? (Text.lower extension) <;> simp [eq_comm]

/-- An owner is a name that is registered, with the language it was registered for. -/
theorem Records.owner_registered (records : Records registry log)
    (owned : registry.owners.get? extension = some name) :
    ∃ call ∈ log, call.name = name ∧ registry.languages.get? name = some call.language := by
  obtain ⟨later, call, earlier, rfl, _, rfl, _⟩ := records.owner_eq_some.mp owned
  obtain ⟨language, known⟩ := (records.get?_languages call.name).mpr ⟨call, by simp, rfl⟩
  have kept := known
  rw [records.languages, Option.map_eq_some_iff] at kept
  obtain ⟨first, found, rfl⟩ := kept
  exact ⟨first, List.mem_of_find?_eq_some found, by simpa using List.find?_some found, known⟩

theorem Records.follows (records : Records registry log) : Follows registry log where
  registers call := by
    cases known : registry.languages.get? call.name with
    | some language =>
      have taken := (records.get?_languages call.name).mp ⟨language, known⟩
      exact Or.inl ⟨taken, register_eq_error.mpr ⟨rfl, language, known⟩⟩
    | none =>
      refine Or.inr ⟨fun earlier member same => ?_, _, register_eq_ok.mpr ⟨known, rfl⟩⟩
      obtain ⟨language, found⟩ := (records.get?_languages call.name).mpr ⟨earlier, member, same⟩
      rw [known] at found
      cases found
  languageFor extension name := by
    rw [languageFor_eq_ok, records.owner_eq_some]
    rfl
  unknown extension error := by
    rw [languageFor_eq_error, records.owner_eq_none]
    rfl
  creates extension name found := by
    obtain ⟨call, member, same, known⟩ := records.owner_registered (languageFor_eq_ok.mp found)
    refine ⟨?_, call, member, same, ?_⟩
    · rw [isRegistered, Dictionary.contains, known]
      rfl
    · rw [create, known]
  names := Text.sort_strict registry.languages.distinct
  registered name := records.mem_names
  sorted := sorted_extensionsOf registry
  disjoint := by
    refine List.pairwise_map.mpr ((Text.sort_strict registry.languages.distinct).imp fun less => ?_)
    intro extension first second
    rw [mem_extensionsOf] at first second
    obtain rfl := Option.some.inj (first.symm.trans second)
    exact Text.codeLt_irrefl _ less
  together extension := by
    simp only [mem_extensionsOf]
    constructor
    · rintro ⟨name, _, owned⟩
      obtain ⟨later, call, earlier, rfl, listed, _⟩ := records.owner_eq_some.mp owned
      exact ⟨call, by simp, listed⟩
    · rintro ⟨call, member, listed⟩
      cases owned : registry.owners.get? extension with
      | none => exact absurd listed (records.owner_eq_none.mp owned call member)
      | some name =>
        obtain ⟨owner, among, same, _⟩ := records.owner_registered owned
        exact ⟨name, records.mem_names.mpr ⟨owner, among, same⟩, rfl⟩

/-- A registration is refused exactly if its name is taken, and an extension belongs to the last accepted
registration that lists it in some case. -/
theorem lookups_follow_registrations (calls : List Registration) :
    Follows (after calls).1 (after calls).2 ∧
      ∀ call error, (after calls).1.register call.name call.language call.extensions = .error error →
        after (calls ++ [call]) = after calls := by
  refine ⟨(records_after calls).follows, fun call error refused => ?_⟩
  rw [after_concat, attempt, refused]

example : ((after [⟨"a".toList, .generic, [".X".toList]⟩, ⟨"b".toList, .generic, [".x".toList]⟩,
    ⟨"a".toList, .generic, [".x".toList]⟩]).1.languageFor ".X".toList).toOption =
    some "b".toList := by decide

end Registry
end SymbolIndex
