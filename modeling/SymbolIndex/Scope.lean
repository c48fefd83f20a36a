import SymbolIndex.Pattern
import SymbolIndex.Bisect

/-! Class bodies, bounded by indentation. Only leading spaces count: a tab is content, so a line
indented by a tab ends a class at once. -/
namespace SymbolIndex

def indentOf (line : Text) : Nat := (line.takeWhile (· = ' ')).length

/-- Lines that never end a body: blank ones, comments, and those that go on with a carriage
return. -/
def isSkippable (line : Text) : Bool :=
  match line.dropWhile (· = ' ') with
  | [] => true
  | c :: _ => c = '\n' || c = '\r' || c = '#'

def staysInBody (indent : Nat) (line : Text) : Bool := isSkippable line || indent < indentOf line

/-- Where a class header sits and which offsets its body covers. -/
structure ClassRange where
  name : Text
  headerStart : Nat
  nameStart : Nat
  bodyStart : Nat
  bodyEnd : Nat
  indent : Nat
deriving DecidableEq

/-- The body is half open: it holds its start and not its end. -/
def ClassRange.contains (range : ClassRange) (offset : Int) : Bool :=
  range.bodyStart ≤ offset && offset < range.bodyEnd

namespace Scope

def headerIndent (text : Text) (headerStart : Nat) : Nat :=
  indentOf (text.drop (Text.lineStart text headerStart))

/-- Offset just after the line that holds the header; the end of the text when it is the last. -/
def bodyStart (text : Text) (headerStart : Nat) : Nat :=
  text.length - (Text.afterLine (text.drop headerStart)).length

/-- Length of the leading lines that stay in the body. -/
def bodyLength (indent : Nat) (text : Text) : Nat :=
  ((Text.lines text).takeWhile (staysInBody indent)).flatten.length

/-- Offset where the class whose header starts at `headerStart` ends. -/
def classEnd (text : Text) (headerStart : Nat) : Nat :=
  let start := bodyStart text headerStart
  start + bodyLength (headerIndent text headerStart) (text.drop start)

def rangeOf (text : Text) (header : Occurrence) : ClassRange where
  name := header.name.text
  headerStart := header.whole.start
  nameStart := header.name.start
  bodyStart := bodyStart text header.whole.start
  bodyEnd := classEnd text header.whole.start
  indent := headerIndent text header.whole.start

/-- The range of every class header, private classes included. -/
def classRanges (text : Text) : List ClassRange :=
  (Pattern.classHeader.occurrences text).map (rangeOf text)

end Scope

/-- Class ranges in text order with an index over their header offsets. -/
structure Scopes where
  ranges : List ClassRange
  starts : Array Nat

namespace Scopes

def ofText (text : Text) : Scopes :=
  let ranges := Scope.classRanges text
  ⟨ranges, (ranges.map (·.headerStart)).toArray⟩

/-- The innermost class whose body holds the offset: of the classes whose headers do not come
after it, the last that contains it. -/
def rangeAt? (scopes : Scopes) (offset : Int) : Option ClassRange :=
  (scopes.ranges.take (countUpTo scopes.starts offset)).reverse.find? (·.contains offset)

def classAt (scopes : Scopes) (offset : Int) : Text :=
  match scopes.rangeAt? offset with
  | some range => range.name
  | none => []

end Scopes
end SymbolIndex
