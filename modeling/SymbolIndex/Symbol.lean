import SymbolIndex.Text.Basic

/-! Named, positioned symbols and the search for the one at a position. -/
namespace SymbolIndex

inductive SymbolKind
  | keyword | classDef | function | variable | importName | other
deriving DecidableEq

def SymbolKind.name : SymbolKind → Text
  | .keyword => "keyword".toList
  | .classDef => "class".toList
  | .function => "function".toList
  | .variable => "variable".toList
  | .importName => "import".toList
  | .other => "other".toList

def SymbolKind.all : List SymbolKind :=
  [.keyword, .classDef, .function, .variable, .importName, .other]

/-- A symbol with its one-based position, the length of its name, the class around it and the raw
parameter text of a function. -/
structure SymbolRecord where
  name : Text
  kind : SymbolKind
  line : Nat
  column : Nat
  length : Nat
  scope : Text
  parameters : Text
deriving DecidableEq

namespace SymbolRecord

def empty : SymbolRecord := ⟨[], .other, 0, 0, 0, [], []⟩

def isEmpty (record : SymbolRecord) : Bool := record = empty

def contains (record : SymbolRecord) (line column : Int) : Bool :=
  record.line = line && record.column ≤ column && column < record.column + record.length

end SymbolRecord

/-- The first record at a position, or the empty record. -/
def symbolAt (positions : List SymbolRecord) (line column : Int) : SymbolRecord :=
  (positions.find? (·.contains line column)).getD .empty

end SymbolIndex
