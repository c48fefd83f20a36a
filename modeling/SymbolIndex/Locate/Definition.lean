import SymbolIndex.Locate.Word
import SymbolIndex.Symbol
import SymbolIndex.LineIndex

/-! Definitions by name and by position. -/
namespace SymbolIndex

/-- The first record of a name that is not a keyword occurrence; the empty record when there is
none. -/
def definitionOf (positions : List SymbolRecord) (name : Text) : SymbolRecord :=
  if name.isEmpty then .empty
  else (positions.find? fun record => record.name = name && record.kind ≠ .keyword).getD .empty

def definitionAt (positions : List SymbolRecord) (text : Text) (line column : Int) :
    SymbolRecord :=
  definitionOf positions (wordAt text line column)

def definitionOffset? (text : Text) (record : SymbolRecord) : Option Nat :=
  if record.isEmpty then none else some ((LineIndex.ofText text).offset record.line record.column)

end SymbolIndex
