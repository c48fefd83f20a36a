import SymbolIndex.Glob
import SymbolIndex.Host.Basic
import SymbolIndex.Text.Lower

/-! The source files below a directory that an index covers. -/
namespace SymbolIndex.Sources
variable [Ignore.Package]

/-- Which files to take: their extensions, a top-level directory to leave out, patterns of which
one must match if there are any, patterns of which none may match, and whether ignore files below
the top count. -/
structure Filter where
  extensions : List Text
  outputDir : Text
  includePatterns : List Text
  excludePatterns : List Text
  nestedIgnore : Bool

def ignoreFileName : Text := ".gitignore".toList

def sortByText (paths : List (List Text)) : List (List Text) :=
  paths.mergeSort fun a b => Text.le (Path.relativeText a) (Path.relativeText b)

def pathBelow (directory : Path) (names : List Text) : Path :=
  { directory with names := directory.names ++ names }

def ignoreFiles (host : Host) (directory : Path) (nested : Bool) : List Path :=
  if nested then
    let named := ((host.descendants directory).map Prod.fst).filter fun names =>
      names.getLast? = some ignoreFileName && host.isFile (pathBelow directory names)
    (sortByText named).map (pathBelow directory)
  else
    let path := directory.child ignoreFileName
    if host.isFile path then [path] else []

def loadTests (host : Host) : List Path → Except Failure (List Ignore.Test)
  | [] => .ok []
  | path :: rest => do
    let bytes ← host.readBytes path
    let test ← (Ignore.Package.matcher host.cwd path bytes).mapError .ignoreRules
    let tests ← loadTests host rest
    .ok (test :: tests)

/-- Whether one of several ignore files ignores a path. One that finds fault with the path, as when
it lies elsewhere, does not count. -/
def ignoredByAny : List Ignore.Test → Ignore.Test
  | [], _ => .ok false
  | test :: rest, given =>
    match test given with
    | .ok true => .ok true
    | .ok false => ignoredByAny rest given
    | .error complaint => if complaint.isValue then ignoredByAny rest given else .error complaint

/-- The ignore test of a directory: `none` when no ignore file counts. A single file at the top
stands alone. -/
def ignoreTest (host : Host) (directory : Path) (nested : Bool) :
    Except Failure (Option Ignore.Test) := do
  let tests ← loadTests host (ignoreFiles host directory nested)
  match nested, tests with
  | _, [] => .ok none
  | false, test :: _ => .ok (some test)
  | true, tests => .ok (some (ignoredByAny tests))

/-- Whether a path stays within a directory once links are resolved. -/
def isWithin (host : Host) (directory path : Path) : Bool :=
  match host.resolve path, host.resolve directory with
  | .ok path, .ok directory => (path.below? directory).isSome
  | _, _ => false

def Filter.takesName (filter : Filter) (names : List Text) : Bool :=
  let relative := Path.relativeText names
  (filter.includePatterns.isEmpty || Glob.matchesAny relative filter.includePatterns) &&
    !Glob.matchesAny relative filter.excludePatterns

def Filter.takes (filter : Filter) (host : Host) (directory : Path)
    (ignored : Option Ignore.Test) (names : List Text) (entry : Entry) :
    Except Failure Bool :=
  let path := pathBelow directory names
  let wanted := filter.extensions.map Text.lower
  match entry with
  | .file _ =>
    if wanted.contains (Text.lower path.suffix) && isWithin host directory path &&
        !(!filter.outputDir.isEmpty && names.head? = some filter.outputDir) then
      match ignored with
      | none => .ok (filter.takesName names)
      | some ignored => do
        let skipped ← (ignored path.text).mapError .ignoreRules
        .ok (!skipped && filter.takesName names)
    else .ok false
  | _ => .ok false

def keepTaken (takes : List Text → Entry → Except Failure Bool) :
    List (List Text × Entry) → Except Failure (List (List Text))
  | [] => .ok []
  | (names, entry) :: rest => do
    let taken ← takes names entry
    let kept ← keepTaken takes rest
    .ok (if taken then names :: kept else kept)

/-- The source files below a directory, by their names from there, in the order of their texts. -/
def find (host : Host) (directory : Path) (filter : Filter) :
    Except Failure (List (List Text)) := do
  let ignored ← ignoreTest host directory filter.nestedIgnore
  let kept ← keepTaken (filter.takes host directory ignored) (host.descendants directory)
  .ok (sortByText kept)

end SymbolIndex.Sources
