import SymbolIndex.Index.Write

/-! Comparing an index with a fresh one. -/
namespace SymbolIndex.Index

/-- Files only in the index, files only in the fresh one, and files that differ. -/
structure Comparison where
  missing : List Text
  extra : List Text
  mismatches : List Text
deriving DecidableEq

def Comparison.ok (comparison : Comparison) : Bool :=
  comparison.missing.isEmpty && comparison.extra.isEmpty && comparison.mismatches.isEmpty

/-- The files below a directory, links to files included, by their names from there. -/
def filesBelow (host : Host) (directory : Path) : List (List Text) :=
  ((host.descendants directory).map Prod.fst).filter fun names =>
    host.isFile (Sources.pathBelow directory names)

def sameBytes (host : Host) (first second : Path) : Bool :=
  match host.entryAt? first, host.entryAt? second with
  | some (.file first), some (.file second) => first = second
  | _, _ => false

def compare (host : Host) (stored fresh : Path) : Comparison :=
  let storedFiles := filesBelow host stored
  let freshFiles := filesBelow host fresh
  let sorted (files : List (List Text)) : List Text := Text.sort (files.map Path.relativeText)
  { missing := sorted (storedFiles.filter (!freshFiles.contains ·))
    extra := sorted (freshFiles.filter (!storedFiles.contains ·))
    mismatches := sorted ((storedFiles.filter (freshFiles.contains ·)).filter fun names =>
      !sameBytes host (Sources.pathBelow stored names) (Sources.pathBelow fresh names)) }

variable [Schema.Package] [Ignore.Package] [Json.Package]

def freshName : Text := "fresh-index".toList

/-- Index a project once more, into a directory of its own that is removed afterwards, and compare
the result with the index in a directory. -/
def verify (root artifacts : Path) : Job Comparison := do
  let host ← Job.host
  if !host.pathExists artifacts then throw (.artifactsMissing artifacts)
  if !host.isDirectory artifacts then throw (.artifactsNotDirectory artifacts)
  let fresh := host.temporary.child freshName
  Job.makeDirectories fresh
  let removeFresh : Job Unit := Job.change (·.remove fresh)
  let comparison ← tryCatch
    (do
      let _ ← generate root (some fresh) none
      return compare (← Job.host) artifacts fresh)
    (fun failure => do
      removeFresh
      throw failure)
  removeFresh
  return comparison

end SymbolIndex.Index
