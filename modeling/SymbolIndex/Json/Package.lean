import SymbolIndex.Value

/-! Reading and writing JSON is left to a library, which may refuse a value or a text. -/
namespace SymbolIndex.Json

/-- How the members of a container are laid out. -/
inductive Layout
  | compact
  | indented
deriving DecidableEq

class Package where
  /-- The written form of a value, or why it has none. -/
  dumps (layout : Layout) (value : Value) : Except Text Text
  /-- The value of a document. -/
  loads (bytes : List UInt8) : Option Value

export Package (dumps loads)

end SymbolIndex.Json
