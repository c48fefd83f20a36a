import SymbolIndex.Ignore.Line
import SymbolIndex.Ignore.Package

/-! The rules of one ignore file, applied to paths below the directory of the file. -/
namespace SymbolIndex
namespace Ignore

structure Matcher where
  base : Path
  rules : List Rule

/-- The complaint about a pattern that runs out of characters. -/
def patternEnds : Complaint := .other "IndexError".toList "string index out of range".toList

/-- The rules of the first lines, up to one that is malformed. -/
def rulesOf : List Text → Except Complaint (List Rule)
  | [] => .ok []
  | line :: rest =>
    match readLine line with
    | .malformed => .error patternEnds
    | .noRule => rulesOf rest
    | .rule rule => (rulesOf rest).map (rule :: ·)

/-- Read an ignore file block by block: a malformed line is met before bad bytes in a later
block. -/
def Matcher.read (cwd path : Path) (bytes : List UInt8) : Except Complaint Matcher := do
  let (text, error) := Utf8.decodeBlocks [] bytes
  let lines := Text.lines (Text.normaliseNewlines text)
  match error with
  | none =>
    let rules ← rulesOf (lines.map (dropTrailing '\n'))
    .ok ⟨Path.normalise cwd path.parent, rules⟩
  | some error =>
    let whole := lines.filter (·.getLast? = some '\n')
    let _ ← rulesOf (whole.map (dropTrailing '\n'))
    .error (.undecodable error)

/-- The path a rule sees: relative to the base, and for a rule that takes paths back in, with the
trailing slash of the given path. -/
def Matcher.relativeFor (matcher : Matcher) (cwd : Path) (rule : Rule) (given : Text) :
    Except Complaint Text :=
  let full := Path.normalise cwd (Path.ofText given)
  match full.below? matcher.base with
  | none =>
    .error (.value (Text.quoted full.text ++ " is not in the subpath of ".toList ++
      Text.quoted matcher.base.text ++
        " OR one path is relative and the other is absolute.".toList))
  | some names =>
    let relative := Path.relativeText names
    if rule.negated then
      match given.getLast? with
      | none => .error patternEnds
      | some last =>
        let marked := if last = '/' then relative ++ ['/'] else relative
        .ok (if ['.', '/'].isPrefixOf marked then marked.drop 2 else marked)
    else .ok relative

/-- The first rule of a list that applies to a path. A faulty set is met when its rule is tried. -/
def Matcher.firstFit (matcher : Matcher) (cwd : Path) (given : Text) :
    List Rule → Except Complaint (Option Rule)
  | [] => .ok none
  | rule :: rest => do
    let relative ← matcher.relativeFor cwd rule given
    match rule.parts.findSome? Part.fault? with
    | some fault => .error (.other "error".toList fault)
    | none =>
      if rule.fits relative then .ok (some rule) else matcher.firstFit cwd given rest

/-- Whether a path is ignored: by any rule, or as the last rule that applies to it says when some
rule takes paths back in. -/
def Matcher.ignores (matcher : Matcher) (cwd : Path) : Test := fun given => do
  if matcher.rules.any (·.negated) then
    match ← matcher.firstFit cwd given matcher.rules.reverse with
    | some rule => .ok !rule.negated
    | none => .ok false
  else
    let fit ← matcher.firstFit cwd given matcher.rules
    .ok fit.isSome

end Ignore

namespace Installed

/-- A reader of ignore files. -/
scoped instance ignorePackage : Ignore.Package where
  matcher cwd path bytes := (Ignore.Matcher.read cwd path bytes).map (·.ignores cwd)

end Installed
end SymbolIndex
