import SymbolIndex.Path
import SymbolIndex.Host.Failure

/-! A file tree as a flat list of entries, and the walk from the root to the entry that a path
names. Links are followed on the way, a bounded number of times. -/
namespace SymbolIndex

inductive Entry
  | file (bytes : List UInt8)
  | directory
  | link (target : Text)
deriving DecidableEq

/-- Names from the root of the tree down. -/
abbrev Location := List Text

/-- All entries but the root, which is always a directory. -/
structure Tree where
  entries : List (Location × Entry)
deriving DecidableEq

namespace Tree

def entry? (tree : Tree) (location : Location) : Option Entry :=
  if location.isEmpty then some .directory
  else (tree.entries.find? (·.1 = location)).map Prod.snd

/-- Write one entry, in place of the one that is there. -/
def put (tree : Tree) (location : Location) (entry : Entry) : Tree :=
  if (tree.entry? location).isSome then
    ⟨tree.entries.map fun old => if old.1 = location then (location, entry) else old⟩
  else ⟨tree.entries ++ [(location, entry)]⟩

def erase (tree : Tree) (location : Location) : Tree :=
  ⟨tree.entries.filter fun entry => !location.isPrefixOf entry.1⟩

/-- Everything below a location, by its names from there. Links are not entered. -/
def below (tree : Tree) (location : Location) : List (Location × Entry) :=
  (tree.entries.filter fun entry =>
    location.isPrefixOf entry.1 && location.length < entry.1.length).map fun entry =>
      (entry.1.drop location.length, entry.2)

/-- Where a walk ends: at an entry, or where a last name could be added to a directory. -/
inductive Found
  | present (location : Location) (entry : Entry)
  | absent (location : Location)

def Found.location : Found → Location
  | .present location _ | .absent location => location

/-- Follow names from a directory. A link in last place is followed only if asked. -/
def walk (tree : Tree) (followLast : Bool) (links : Nat) (here : Location) :
    List Text → Except OsFault Found
  | [] => .ok (.present here .directory)
  | name :: rest =>
    if name = ['.', '.'] then walk tree followLast links here.dropLast rest
    else if 255 < (Utf8.encode name).length then .error .nameTooLong
    else
      let next := here ++ [name]
      match tree.entry? next with
      | none => if rest.isEmpty then .ok (.absent next) else .error .notFound
      | some .directory => walk tree followLast links next rest
      | some (.file bytes) =>
        if rest.isEmpty then .ok (.present next (.file bytes)) else .error .notDirectory
      | some (.link target) =>
        if rest.isEmpty && !followLast then .ok (.present next (.link target))
        else
          match links with
          | 0 => .error .tooManyLinks
          | left + 1 =>
            let path := Path.ofText target
            walk tree followLast left (if path.isAbsolute then [] else here) (path.names ++ rest)
termination_by names => (links, names.length)

def maxLinks : Nat := 40

/-- A resolution under way: where it is, whether it met a loop, and the links already seen with
the locations they lead to. -/
structure Resolution where
  location : Location
  complete : Bool
  seen : List (Location × Option Location)

/-- Replace links by what they lead to. Names that do not exist stay; a double point drops the
name before it. Each link is entered once, so as much fuel as there are links suffices. -/
def resolveFrom (tree : Tree) (fuel : Nat) (here : Location)
    (seen : List (Location × Option Location)) : List Text → Resolution
  | [] => ⟨here, true, seen⟩
  | name :: rest =>
    if name = ['.', '.'] then resolveFrom tree fuel here.dropLast seen rest
    else
      let next := here ++ [name]
      match tree.entry? next with
      | some (.link target) =>
        match (seen.find? (·.1 = next)).map Prod.snd with
        | some (some known) => resolveFrom tree fuel known seen rest
        | some none => ⟨next ++ rest, false, seen⟩
        | none =>
          match fuel with
          | 0 => ⟨next ++ rest, false, seen⟩
          | left + 1 =>
            let path := Path.ofText target
            let inner := resolveFrom tree left (if path.isAbsolute then [] else here)
              ((next, none) :: seen) path.names
            if inner.complete then
              resolveFrom tree left inner.location ((next, some inner.location) :: inner.seen) rest
            else ⟨inner.location ++ rest, false, inner.seen⟩
      | _ => resolveFrom tree fuel next seen rest
termination_by names => (fuel, names.length)

end Tree
end SymbolIndex
