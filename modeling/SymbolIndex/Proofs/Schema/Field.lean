import SymbolIndex.Proofs.Schema.Lawful
import SymbolIndex.Schema.Field

/-! Readings of fields, lists and tables: each way to combine readings accepts exactly if its parts
do, and what is shown as a list or a table is read back. -/
namespace SymbolIndex

namespace Checked
variable {α β : Type} {f : α → β} {x : Checked α} {a : α} {b : β}

theorem map_eq_accepted : f <$> x = .accepted b ↔ ∃ a, x = .accepted a ∧ f a = b := by
  change x.map f = _ ↔ _
  cases x <;> simp [map]

theorem seq_eq_accepted {f : Checked (α → β)} :
    f <*> x = .accepted b ↔ ∃ g, f = .accepted g ∧ ∃ a, x = .accepted a ∧ g a = b := by
  change f.apply x = _ ↔ _
  cases f <;> cases x <;> simp [apply]

theorem within_eq_accepted {step : PathStep} : x.within step = .accepted a ↔ x = .accepted a := by
  cases x <;> simp [within]

theorem sequence_cons_eq_accepted {rest : List (Checked α)} {found : List α} :
    sequence (x :: rest) = .accepted found ↔
      ∃ a, x = .accepted a ∧ ∃ more, sequence rest = .accepted more ∧ a :: more = found := by
  rw [sequence]
  cases x <;> cases sequence rest <;> simp [map, apply]

theorem andThen_eq_accepted {next : α → Checked β} :
    x.andThen next = .accepted b ↔ ∃ a, x = .accepted a ∧ next a = .accepted b := by
  cases x <;> simp [andThen]

theorem toExcept_eq_ok {schema : Text} : x.toExcept schema = .ok a ↔ x = .accepted a := by
  cases x <;> simp [toExcept]

end Checked

namespace Schema
variable {α : Type} {name : String} {default a : α} {read : Value → Checked α} {value : Value}
  {entries : List (Text × Value)}

theorem onlyFields_eq_accepted {names : List String} : onlyFields names entries = .accepted () ↔
    ∀ entry ∈ entries, entry.1 ∈ names.map String.toList := by
  rw [onlyFields]
  split
  · rename_i none
    refine iff_of_true rfl fun entry member => ?_
    have kept := List.filter_eq_nil_iff.mp (List.isEmpty_iff.mp none) entry member
    simpa using kept
  · rename_i some
    refine iff_of_false nofun fun only => some (List.isEmpty_iff.mpr ?_)
    exact List.filter_eq_nil_iff.mpr fun entry member => by simpa using only entry member

/-- A table with the fields of the model has no others. -/
theorem onlyFields_of_keys {names : List String}
    (keys : entries.map Prod.fst = names.map String.toList) :
    onlyFields names entries = .accepted () :=
  onlyFields_eq_accepted.mpr fun _ member => keys ▸ List.mem_map_of_mem member

theorem optionalField_eq_accepted : optionalField name default read entries = .accepted a ↔
    match field? name.toList entries with
    | some value => read value = .accepted a
    | none => default = a := by
  rw [optionalField]
  cases field? name.toList entries <;> simp [Checked.within_eq_accepted]

theorem sequence_map {β : Type} (read : α → Checked β) (value : α → β) {items : List α}
    (each : ∀ item ∈ items, read item = .accepted (value item)) :
    Checked.sequence (items.map read) = .accepted (items.map value) := by
  induction items with
  | nil => rfl
  | cons item rest ih =>
    rw [List.map_cons, Checked.sequence, each item List.mem_cons_self,
      ih fun other listed => each other (List.mem_cons_of_mem item listed)]
    rfl

/-- The keys of a dictionary are those of the table it is read from. -/
theorem keys_of_readEntries {map : Dictionary α} (accepted : readEntries read entries = .accepted map) :
    map.keys = unique (entries.map Prod.fst) := by
  have keys {entries : List (Text × Value)} {found : List (Text × α)}
      (accepted : Checked.sequence (entries.map fun entry =>
        ((read entry.2).within (.key entry.1)).map fun read => (entry.1, read)) = .accepted found) :
      found.map Prod.fst = entries.map Prod.fst := by
    induction entries generalizing found with
    | nil =>
      obtain rfl := Checked.accepted.inj accepted
      rfl
    | cons entry rest ih =>
      obtain ⟨first, reads, more, others, rfl⟩ := Checked.sequence_cons_eq_accepted.mp accepted
      obtain ⟨_, _, rfl⟩ := Checked.map_eq_accepted.mp reads
      rw [List.map_cons, List.map_cons, ih others]
  obtain ⟨found, reads, rfl⟩ := Checked.map_eq_accepted.mp accepted
  rw [Dictionary.keys_ofList, keys reads]

section Lawful
variable [Package] [Lawful]

theorem readModel_eq_accepted {read : List (Text × Value) → Checked α} :
    readModel read value = .accepted a ↔ ∃ entries, value = .table entries ∧ read entries = .accepted a := by
  simp only [readModel, Checked.andThen_eq_accepted, modelFields_eq_accepted]

/-- A dictionary is read from a table and has its keys. -/
theorem keys_of_readDictionary {map : Dictionary α} (accepted : readDictionary read value = .accepted map) :
    ∃ entries, value = .table entries ∧ map.keys = unique (entries.map Prod.fst) := by
  obtain ⟨entries, table, reads⟩ := Checked.andThen_eq_accepted.mp accepted
  exact ⟨entries, dictEntries_eq_accepted.mp table, keys_of_readEntries reads⟩

theorem readModel_table (read : List (Text × Value) → Checked α) :
    readModel read (.table entries) = read entries := by
  rw [readModel, modelFields_eq_accepted.mpr rfl, Checked.andThen]

theorem readDictionary_table (read : Value → Checked α) :
    readDictionary read (.table entries) = readEntries read entries := by
  rw [readDictionary, dictEntries_eq_accepted.mpr rfl, Checked.andThen]

theorem readList_texts (items : List Text) : readList readText (.texts items) = .accepted items := by
  have members (k : Nat) : Checked.sequence (((items.map Value.text).zipIdx k).map fun entry =>
      (readText entry.1).within (.index entry.2)) = .accepted items := by
    induction items generalizing k with
    | nil => rfl
    | cons item rest ih =>
      rw [List.map_cons, List.zipIdx_cons, List.map_cons, Checked.sequence, ih, readText_text]
      rfl
  rw [readList, Value.texts, listItems_list]
  exact members 0

end Lawful

end Schema
end SymbolIndex
