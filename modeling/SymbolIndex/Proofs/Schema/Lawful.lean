import SymbolIndex.Proofs.Dictionary
import SymbolIndex.Schema.Lax

/-! What is assumed of a schema library: a value that has the type already is taken as it is, and
only tables are taken for dictionaries and models. Of other values nothing is assumed. -/
namespace SymbolIndex
namespace Schema

class Lawful [Package] : Prop where
  readText_text (s : Text) : readText (.text s) = .accepted s
  readInt_integer (n : Int) : readInt (.integer n) = .accepted n
  readBool_boolean (b : Bool) : readBool (.boolean b) = .accepted b
  readChoice_name {α : Type} {choices : List (Text × α)} {choice : Text × α}
    (distinct : (choices.map Prod.fst).Nodup) (member : choice ∈ choices) :
    readChoice choices (.text choice.1) = .accepted choice.2
  listItems_list (items : List Value) : listItems (.list items) = .accepted items
  dictEntries_eq_accepted {value : Value} {entries : List (Text × Value)} :
    dictEntries value = .accepted entries ↔ value = .table entries
  modelFields_eq_accepted {value : Value} {entries : List (Text × Value)} :
    modelFields value = .accepted entries ↔ value = .table entries

export Lawful (readText_text readInt_integer readBool_boolean readChoice_name listItems_list
  dictEntries_eq_accepted modelFields_eq_accepted)

theorem entriesOr_eq_accepted {kind : FaultKind} {value : Value} {entries : List (Text × Value)} :
    entriesOr kind value = .accepted entries ↔ value = .table entries := by
  cases value <;> simp [entriesOr, Checked.fault]

end Schema

namespace Installed
open Schema

scoped instance schemaLawful : Schema.Lawful where
  readText_text _ := rfl
  readInt_integer _ := rfl
  readBool_boolean _ := rfl
  readChoice_name := by
    intro α choices choice distinct member
    have found := (Dictionary.find?_key_eq_some_iff distinct).mpr ⟨member, rfl⟩
    simp only [readChoice, laxChoice, found]
  listItems_list _ := rfl
  dictEntries_eq_accepted := entriesOr_eq_accepted
  modelFields_eq_accepted := entriesOr_eq_accepted

end Installed
end SymbolIndex
