import SymbolIndex.Schema.Checked
import SymbolIndex.Value

/-! What a schema library takes for a text, a number, a list or a table. How fields make up models
does not depend on it. -/
namespace SymbolIndex.Schema

class Package where
  readText : Value → Checked Text
  readInt : Value → Checked Int
  readBool : Value → Checked Bool
  /-- One of several values, each with a name. -/
  readChoice {α : Type} (choices : List (Text × α)) : Value → Checked α
  listItems : Value → Checked (List Value)
  tupleItems : Value → Checked (List Value)
  dictEntries : Value → Checked (List (Text × Value))
  modelFields : Value → Checked (List (Text × Value))

export Package (readText readInt readBool readChoice listItems tupleItems dictEntries modelFields)

end SymbolIndex.Schema
