import SymbolIndex.Pattern.Header
import SymbolIndex.Pattern.Assignment
import SymbolIndex.Pattern.Import
import SymbolIndex.Pattern.Keyword

/-! The textual patterns of the extraction. Each is applied to the whole document and knows
nothing of strings, comments or continued lines: speed and tolerance of half-typed code come
before precision. -/
namespace SymbolIndex

inductive Pattern
  | classHeader
  | functionHeader
  | attributeAssignment
  | variableAssignment
  | plainImport
  | fromImport
  | constructorCall
  | wholeWord (word : Text)
deriving DecidableEq

namespace Pattern

def recogniser : Pattern → Recogniser
  | .classHeader => .classHeader
  | .functionHeader => .functionHeader
  | .attributeAssignment => .attributeAssignment
  | .variableAssignment => .variableAssignment
  | .plainImport => .plainImport
  | .fromImport => .fromImport
  | .constructorCall => .constructorCall
  | .wholeWord word => .wholeWord word

def occurrences (pattern : Pattern) (text : Text) : List Occurrence :=
  pattern.recogniser.occurrences text

/-- What an occurrence captures, in the order of the pattern; an absent alias shows as `none`. -/
def captures (pattern : Pattern) (found : Occurrence) : List (Option Capture) :=
  match pattern with
  | .wholeWord _ => []
  | .functionHeader | .fromImport | .constructorCall => [some found.name, found.detail]
  | _ => [some found.name]

end Pattern
end SymbolIndex
