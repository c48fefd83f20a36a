import SymbolIndex.Host.Basic
import SymbolIndex.FirstOccurrence

/-! Symbol tables: files with one name a line. -/
namespace SymbolIndex.Completion

def isSymbolLine (line : Text) : Bool := !line.isEmpty && line.head? ≠ some '#'

/-- The names of a table in the order of their first lines. -/
def symbolsOfTable (text : Text) : List Text :=
  unique (((Text.lines (Text.normaliseNewlines text)).map Text.strip).filter isSymbolLine)

def loadSymbolTable (host : Host) (path : Path) : Except Failure (List Text) := do
  let bytes ← host.readBytes path
  match Utf8.decodeBlocks [] bytes with
  | (text, none) => .ok (symbolsOfTable text)
  | (_, some error) => .error (.decode error)

end SymbolIndex.Completion
