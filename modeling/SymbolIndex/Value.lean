import SymbolIndex.Dictionary

/-! The values that documents of settings and records are made of, whatever format they were
written in. -/
namespace SymbolIndex

/-- A document value. Tables keep the order of their keys and hold each key once. -/
inductive Value
  | null
  | boolean (b : Bool)
  | integer (n : Int)
  | decimal (x : Float)
  | text (s : Text)
  | list (items : List Value)
  | table (entries : List (Text × Value))
  | moment (written : Text)

namespace Value

instance : Inhabited Value := ⟨.null⟩

def get? (value : Value) (key : Text) : Option Value :=
  match value with
  | .table entries => (entries.find? (·.1 = key)).map Prod.snd
  | _ => none

def texts (items : List Text) : Value := .list (items.map .text)

end Value
end SymbolIndex
