import SymbolIndex.Schema.Symbol
import SymbolIndex.Proofs.Schema.Field

/-! Symbol records read back from their own fields. -/
namespace SymbolIndex
open Schema

namespace Schema
variable {α : Type} {name : String} {default a : α} {read : Value → Checked α} {key : Text}
  {value : Value} {entries : List (Text × Value)}

theorem field?_of_mem (distinct : (entries.map Prod.fst).Nodup) (member : (key, value) ∈ entries) :
    field? key entries = some value := by
  have found := (Dictionary.find?_key_eq_some_iff distinct).mpr ⟨member, rfl⟩
  rw [field?, found, Option.map_some]

theorem required_eq (found : field? name.toList entries = some value)
    (reads : read value = .accepted a) : required name read entries = .accepted a := by
  simp only [required, found, reads, Checked.within]

theorem optionalField_eq (found : field? name.toList entries = some value)
    (reads : read value = .accepted a) : optionalField name default read entries = .accepted a := by
  simp only [optionalField, found, reads, Checked.within]

section Lawful
variable [Package] [Lawful]

theorem readNat_natCast (n : Nat) : readNat (.integer n) = .accepted n := by
  have positive : ¬ (n : Int) < 0 := by omega
  simp [readNat, readInt_integer, Checked.andThen, positive]

theorem readKind_name (kind : SymbolKind) : readKind (.text kind.name) = .accepted kind := by
  have named : (kind.name, kind) ∈ SymbolKind.all.map fun kind => (kind.name, kind) := by
    cases kind <;> decide
  exact readChoice_name (by decide) named

/-- Entries that hold the fields of a record, with whatever others, are read as that record. -/
theorem readSymbol_eq {record : SymbolRecord}
    (found : ∀ entry ∈ record.fields, field? entry.1 entries = some entry.2) :
    readSymbol entries = .accepted record := by
  simp only [SymbolRecord.fields, List.forall_mem_cons] at found
  obtain ⟨hasName, hasKind, hasLine, hasColumn, hasLength, hasScope, hasParameters, _⟩ := found
  have name : optionalField "name" [] readText entries = .accepted record.name :=
    optionalField_eq hasName (readText_text _)
  have kind : optionalField "kind" .other readKind entries = .accepted record.kind :=
    optionalField_eq hasKind (readKind_name _)
  have line : optionalField "line" 0 readNat entries = .accepted record.line :=
    optionalField_eq hasLine (readNat_natCast _)
  have column : optionalField "column" 0 readNat entries = .accepted record.column :=
    optionalField_eq hasColumn (readNat_natCast _)
  have length : optionalField "length" 0 readNat entries = .accepted record.length :=
    optionalField_eq hasLength (readNat_natCast _)
  have scope : optionalField "scope" [] readText entries = .accepted record.scope :=
    optionalField_eq hasScope (readText_text _)
  have parameters : optionalField "parameters" [] readText entries = .accepted record.parameters :=
    optionalField_eq hasParameters (readText_text _)
  rw [readSymbol, name, kind, line, column, length, scope, parameters]
  rfl

end Lawful

end Schema

theorem SymbolRecord.fields_distinct (record : SymbolRecord) :
    (record.fields.map Prod.fst).Nodup := by
  show ["name".toList, "kind".toList, "line".toList, "column".toList, "length".toList,
    "scope".toList, "parameters".toList].Nodup
  decide

/-- No rule of the schema is broken by a record. -/
theorem SymbolRecord.ofValue_toValue [Package] [Lawful] (record : SymbolRecord) :
    ofValue record.toValue = .ok record := by
  rw [ofValue, toValue, readModel_table,
    readSymbol_eq fun entry listed => field?_of_mem record.fields_distinct listed]
  rfl

end SymbolIndex
