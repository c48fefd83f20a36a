import SymbolIndex.Text.Quoted

/-! Paths as written: a root and names. Empty names and single points are dropped when a path is
read, double points are kept. -/
namespace SymbolIndex

/-- A path; `root` is empty for a relative one, and two slashes at the very start are not one. -/
structure Path where
  root : Text
  names : List Text
deriving DecidableEq

namespace Path

def rootOf (source : Text) : Text :=
  match (source.takeWhile (· = '/')).length with
  | 0 => []
  | 2 => ['/', '/']
  | _ => ['/']

def ofText (source : Text) : Path :=
  ⟨rootOf source, (Text.splitAt '/' source).filter fun name => !name.isEmpty && name ≠ ['.']⟩

def isAbsolute (path : Path) : Bool := !path.root.isEmpty

/-- The written path; one without root and names is a point. -/
def text (path : Path) : Text :=
  if path.root.isEmpty && path.names.isEmpty then ['.']
  else path.root ++ Text.join ['/'] path.names

/-- A path below another one; an absolute path stands for itself. -/
def join (base path : Path) : Path :=
  if path.isAbsolute then path else { base with names := base.names ++ path.names }

def child (base : Path) (name : Text) : Path := { base with names := base.names ++ [name] }

def name (path : Path) : Text := path.names.getLast?.getD []

def parent (path : Path) : Path := { path with names := path.names.dropLast }

/-- The end of the last name from its last point on, if text stands on either side of it. -/
def suffix (path : Path) : Text :=
  let ending := (path.name.reverse.takeWhile (· ≠ '.')).reverse
  let stem := path.name.take (path.name.length - ending.length - 1)
  if '.' ∈ path.name && !ending.isEmpty && !stem.isEmpty then '.' :: ending else []

/-- The names below `base`, if the path lies there. -/
def below? (path base : Path) : Option (List Text) :=
  if path.root = base.root && base.names.isPrefixOf path.names then
    some (path.names.drop base.names.length)
  else none

/-- Names joined by slashes; no names are a point. -/
def relativeText (names : List Text) : Text := Path.text ⟨[], names⟩

/-- Drop each double point together with the name before it; at the root it stands for nothing. -/
def collapse (absolute : Bool) (done : List Text) : List Text → List Text
  | [] => done.reverse
  | name :: rest =>
    if name = ['.', '.'] then
      match done with
      | [] => if absolute then collapse absolute [] rest else collapse absolute [name] rest
      | last :: before =>
        if last = ['.', '.'] then collapse absolute (name :: done) rest
        else collapse absolute before rest
    else collapse absolute (name :: done) rest

/-- The absolute path of a path, by its text alone: links are not looked at. -/
def normalise (cwd path : Path) : Path :=
  let full := cwd.join path
  { full with names := collapse full.isAbsolute [] full.names }

end Path
end SymbolIndex
