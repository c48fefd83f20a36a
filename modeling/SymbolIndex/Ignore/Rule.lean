import SymbolIndex.Glob
import SymbolIndex.Text.CharClass

/-! One line of an ignore file as a rule on relative paths. A star stops at slashes, two stars do
not; a rule without an inner slash applies at any depth. -/
namespace SymbolIndex.Ignore

/-- One part of a rule's pattern. Only `anyDepth` and `anyDirectories` run across slashes, and
neither runs across a newline. -/
inductive Part
  | withinName
  | anyDepth
  | anyDirectories
  | one
  | literal (c : Char)
  | set (chars : Glob.CharSet)
deriving DecidableEq

/-- What must follow the pattern: the end of the path, a slash and the end, or either the end or a
slash. -/
inductive Ending
  | exact
  | directory
  | openEnded
deriving DecidableEq

structure Rule where
  negated : Bool
  anchored : Bool
  parts : List Part
  ending : Ending
deriving DecidableEq

/-- The end of a path; a final newline may still be left. -/
def atEnd (text : Text) : Bool := text.isEmpty || text = ['\n']

def Ending.accepts : Ending → Text → Bool
  | .exact, text => atEnd text
  | .directory, '/' :: rest => atEnd rest
  | .directory, _ => false
  | .openEnded, text => atEnd text || text.head? = some '/'

/-- What can be left after a run of characters that satisfy `p`, the shortest run first. -/
def afterRun (p : Char → Bool) : Text → List Text
  | [] => [[]]
  | c :: rest => if p c then (c :: rest) :: afterRun p rest else [c :: rest]

/-- What can be left after any number of whole directories, none included. -/
def afterDirectories (text : Text) : List Text :=
  text :: ((afterRun (· ≠ '\n') text).filter (·.head? = some '/')).map (·.drop 1)

/-- Whether the parts, then the ending, fit the start of a text. -/
def fits (ending : Ending) : List Part → Text → Bool
  | [], text => ending.accepts text
  | .withinName :: parts, text => (afterRun (· ≠ '/') text).any (fits ending parts)
  | .anyDepth :: parts, text => (afterRun (· ≠ '\n') text).any (fits ending parts)
  | .anyDirectories :: parts, text => (afterDirectories text).any (fits ending parts)
  | .one :: parts, c :: rest => c ≠ '/' && fits ending parts rest
  | .literal expected :: parts, c :: rest => c = expected && fits ending parts rest
  | .set chars :: parts, c :: rest => chars.holds c && fits ending parts rest
  | _ :: _, [] => false

/-- Where a rule without an anchor may begin: at the start and after every slash. -/
def nameStarts : Text → List Text
  | [] => []
  | c :: rest => if c = '/' then rest :: nameStarts rest else nameStarts rest

/-- What is wrong with a part: a range that runs downwards, or a set that leaves out nothing. -/
def Part.fault? : Part → Option Text
  | .set chars =>
    match chars.ranges.find? fun (first, last) => last < first with
    | some (first, last) => some ("bad character range ".toList ++ [first, '-', last])
    | none =>
      if chars.negated && chars.ranges.isEmpty then some "unterminated character set".toList
      else none
  | _ => none

def Rule.fits (rule : Rule) (relative : Text) : Bool :=
  Ignore.fits rule.ending rule.parts relative ||
    (!rule.anchored && (nameStarts relative).any (Ignore.fits rule.ending rule.parts))

end SymbolIndex.Ignore
