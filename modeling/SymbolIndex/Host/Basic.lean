import SymbolIndex.Host.Platform

/-! The surroundings of a run: a file tree, the current directory, the home directory, the place
for temporary files and the platform. -/
namespace SymbolIndex

structure Host where
  tree : Tree
  cwd : Path
  home : Path
  temporary : Path
  platform : Platform := .plain

namespace Host

/-- Whether a path can be given to the file system at all. -/
def isUsable (path : Path) : Bool := '\x00' ∉ path.text

/-- The entry a path names, or the place where it would be. -/
def lookup (host : Host) (followLast : Bool) (path : Path) : Except OsFault Tree.Found :=
  host.tree.walk followLast Tree.maxLinks [] (host.cwd.join path).names

def entryAt? (host : Host) (path : Path) : Option Entry :=
  if isUsable path then
    match host.lookup true path with
    | .ok (.present _ entry) => some entry
    | _ => none
  else none

def isFile (host : Host) (path : Path) : Bool :=
  match host.entryAt? path with
  | some (.file _) => true
  | _ => false

def isDirectory (host : Host) (path : Path) : Bool := host.entryAt? path = some .directory

def pathExists (host : Host) (path : Path) : Bool := (host.entryAt? path).isSome

/-- Ask what a path leads to. That there is nothing to be found is an answer, but a name beyond what
the file system takes is refused. -/
def probe (host : Host) (path : Path) : Except Failure Unit :=
  if isUsable path then
    match host.lookup true path with
    | .error .nameTooLong => .error (.os .nameTooLong path)
    | _ => .ok ()
  else .ok ()

def readBytes (host : Host) (path : Path) : Except Failure (List UInt8) :=
  if isUsable path then
    match host.lookup true path with
    | .ok (.present _ (.file bytes)) => .ok bytes
    | .ok (.present _ _) => .error (.os .isDirectory path)
    | .ok (.absent _) => .error (.os .notFound path)
    | .error fault => .error (.os fault path)
  else .error (.nullInPath false)

def readText (host : Host) (path : Path) : Except Failure Text := do
  let bytes ← host.readBytes path
  match Utf8.decode bytes with
  | .ok text => .ok (Text.normaliseNewlines text)
  | .error error => .error (.decode error)

def place (host : Host) (location : Location) (entry : Entry) : Except OsFault Host :=
  match host.platform.refuses location with
  | some refusal => .error (.refused refusal)
  | none => .ok { host with tree := host.tree.put location entry }

def writeBytes (host : Host) (path : Path) (bytes : List UInt8) : Except Failure Host :=
  if isUsable path then
    match host.lookup true path with
    | .ok (.present _ .directory) => .error (.os .isDirectory path)
    | .ok found => (host.place found.location (.file bytes)).mapError (.os · path)
    | .error fault => .error (.os fault path)
  else .error (.nullInPath false)

/-- As many of the bytes as the file a path leads to can hold. -/
def fitting (host : Host) (path : Path) (bytes : List UInt8) : List UInt8 :=
  match host.lookup true path with
  | .ok found => ((host.platform.room found.location).map bytes.take).getD bytes
  | .error _ => bytes

def addEntry (host : Host) (path : Path) (entry : Entry) : Except OsFault Host :=
  match host.lookup false path with
  | .ok (.present _ _) => .error .exists
  | .ok (.absent location) => host.place location entry
  | .error fault => .error fault

/-- Create a directory together with those above it; one that is there already is fine. The state
of the tree is given also when it fails half way. -/
def makeDirectories (host : Host) (path : Path) : Host × Option Failure :=
  if !isUsable path then (host, some (.nullInPath false))
  else
    match host.addEntry path .directory with
    | .ok made => (made, none)
    | .error .notFound =>
      if path.names.isEmpty then (host, some (.os .notFound path))
      else
        match makeDirectories host path.parent with
        | (above, some failure) => (above, some failure)
        | (above, none) =>
          match above.addEntry path .directory with
          | .ok made => (made, none)
          | .error fault =>
            if fault ≠ .notFound && above.isDirectory path then (above, none)
            else (above, some (.os fault path))
    | .error fault =>
      if host.isDirectory path then (host, none) else (host, some (.os fault path))
termination_by path.names.length
decreasing_by
  rename_i named
  cases path with
  | mk root names => cases names <;> simp_all [Path.parent]

/-- Remove what is at a path, with everything below it; a link goes, not its target. -/
def remove (host : Host) (path : Path) : Except Failure Host :=
  match host.lookup false path with
  | .ok (.present location _) => .ok { host with tree := host.tree.erase location }
  | .ok (.absent _) => .error (.os .notFound path)
  | .error fault => .error (.os fault path)

/-- Everything below a directory, by names from there; nothing for what is no directory. -/
def descendants (host : Host) (path : Path) : List (List Text × Entry) :=
  if isUsable path then
    match host.lookup true path with
    | .ok (.present location .directory) => host.tree.below location
    | _ => []
  else []

/-- The absolute path without links that a path leads to, whether or not anything is there. -/
def resolve (host : Host) (path : Path) : Except Failure Path :=
  if isUsable path then
    let links := (host.tree.entries.filter fun entry => entry.2 matches .link _).length
    let resolved := host.tree.resolveFrom links [] [] (host.cwd.join path).names
    let path : Path := ⟨['/'], Path.collapse true [] resolved.location⟩
    match host.lookup true path with
    | .error .tooManyLinks => .error (.linkLoop path)
    | _ => .ok path
  else .error (.nullInPath true)

/-- The home directory of a user, or of whoever runs the program if none is named. -/
def homeOf (host : Host) (user : Text) : Except Failure Path :=
  if user.isEmpty then .ok host.home
  else if '\x00' ∈ user then .error (.nullInPath false)
  else
    match host.platform.homeOf user with
    | some home => .ok home
    | none => .error .noHome

def expandHome (host : Host) (path : Path) : Except Failure Path :=
  match path.root, path.names with
  | [], ('~' :: user) :: rest =>
    (host.homeOf user).map fun home => { home with names := home.names ++ rest }
  | _, _ => .ok path

end Host
end SymbolIndex
