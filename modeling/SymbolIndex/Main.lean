import SymbolIndex.Command.Run
import SymbolIndex.Ignore.Matcher
import SymbolIndex.Json.Library
import SymbolIndex.Schema.Lax

/-! The command line on the file system of a machine. The places that a request names are read
into a host, the request is carried out there, and what it wrote is written back. -/
namespace SymbolIndex.Command
open scoped Installed

def Request.places : Request → List Text
  | .symbols file => [file]
  | .complete file _ => [file]
  | .locate file _ _ => [file]
  | .index root dir => root :: dir.toList
  | .validate root dir => root :: dir.toList
  | .verify root dir => root :: dir.toList

def Request.table? (host : Host) : Request → Option Path
  | .complete file _ => do
    let path ← (host.expandHome (Path.ofText file)).toOption
    let root := (← (host.resolve path).toOption).parent
    let settings ← (Settings.load host root).toOption
    some (root.join (Path.ofText (← settings.completion.builtinsFile)))
  | _ => none

end SymbolIndex.Command

namespace SymbolIndex.Machine
open scoped Installed

/-- The home directories in a table of users: one a line, the fields parted by colons. -/
def homeIn (users : Text) (user : Text) : Option Path :=
  ((Text.lines users).map fun line => Text.splitAt ':' (line.takeWhile (· ≠ '\n'))).findSome?
    fun fields => if fields.head? = some user then fields[5]?.map Path.ofText else none

def written (location : Location) : String := String.ofList (Path.text ⟨['/'], location⟩)

/-- Everything below a directory. Links are not entered, and what cannot be read is left out. -/
partial def entriesBelow (directory : Location) : IO (List (Location × Entry)) := do
  let mut entries := []
  for member in ← (← IO.FS.realPath (written directory)).readDir do
    let location := directory ++ [member.fileName.toList]
    try
      match (← member.path.symlinkMetadata).type with
      | .dir => entries := (location, .directory) :: (← entriesBelow location) ++ entries
      | .file =>
        let bytes ← IO.FS.readBinFile member.path
        entries := (location, .file bytes.toList) :: entries
      | .symlink =>
        let target ← IO.FS.realPath member.path
        entries := (location, .link target.toString.toList) :: entries
      | .other => pure ()
    catch _ => pure ()
  return entries

/-- The directories and links on the way to a place, and everything below the last directory. -/
partial def entriesAlong (passed : Location) : List Text → IO (List (Location × Entry))
  | [] => entriesBelow passed
  | name :: rest => do
    let here := passed ++ [name]
    let kind ← try
        let directory ← IO.FS.realPath (written passed)
        pure (some (← (directory / String.ofList name).symlinkMetadata).type)
      catch _ => pure none
    match kind with
    | some .dir => return (here, .directory) :: (← entriesAlong here rest)
    | some .symlink =>
      let target := (← IO.FS.realPath (written here)).toString.toList
      return (here, .link target) :: (← entriesAlong [] ((Path.ofText target).names ++ rest))
    | some .file => entriesBelow passed
    | _ => return []

/-- A host that also knows what stands at a place and on the way to it. -/
def withPlace (host : Host) (place : Path) : IO Host := do
  let entries ← entriesAlong [] (Path.normalise host.cwd place).names
  return { host with tree := ⟨firstBy Prod.fst (host.tree.entries ++ entries)⟩ }

/-- The surroundings in which a command line is carried out. -/
def readHost (argv : List Text) : IO Host := do
  let cwd := Path.ofText (← IO.currentDir).toString.toList
  let home := Path.ofText ((← IO.getEnv "HOME").getD "/").toList
  let users ← try IO.FS.readFile "/etc/passwd" catch _ => pure ""
  let platform := { Platform.plain with homeOf := homeIn users.toList }
  let mut host : Host := ⟨⟨[]⟩, cwd, home, Path.ofText "/tmp".toList, platform⟩
  if let .ok (_, request) := Command.parse argv then
    for place in request.places do
      if let .ok path := host.expandHome (Path.ofText place) then
        host ← withPlace host path
    if let some path := request.table? host then
      host ← withPlace host path
  return host

def writeBack (before after : Tree) : IO Unit := do
  for (location, entry) in after.entries do
    if before.entry? location ≠ some entry then
      match entry with
      | .directory => IO.FS.createDirAll (written location)
      | .file bytes => IO.FS.writeBinFile (written location) bytes.toByteArray
      | .link _ => pure ()

def usage : String :=
  "usage: [-h] [-v] (symbols FILE | complete FILE TOKEN | locate FILE LINE COLUMN |\n" ++
  "  index [ROOT] [--out-dir DIR] | validate [ROOT] [--artifacts-dir DIR] |\n" ++
  "  verify [ROOT] [--artifacts-dir DIR])"

end SymbolIndex.Machine

open SymbolIndex in
open scoped SymbolIndex.Installed in
def main (argv : List String) : IO UInt32 := do
  let argv := argv.map String.toList
  let host ← Machine.readHost argv
  let (outcome, after) := Command.run argv host
  Machine.writeBack host.tree after.tree
  match outcome with
  | .finished finish =>
    IO.print (String.ofList finish.output)
    IO.eprint (String.ofList finish.errors)
    return finish.exitCode.toUInt32
  | .stopped code =>
    if code = 0 then IO.println Machine.usage else IO.eprintln Machine.usage
    return code.toUInt32
  | .failed failure =>
    IO.eprintln (String.ofList failure.message)
    return 1
