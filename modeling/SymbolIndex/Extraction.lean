import SymbolIndex.Extraction.Names
import SymbolIndex.Extraction.Positions

/-! Extraction of a whole document. -/
namespace SymbolIndex

def Findings.snapshot (found : Findings) : Snapshot where
  symbols := found.symbols
  positions := found.positions
  objectTypes := found.objectTypes
  classMembers := found.classMembers
  functionParameters := found.functionParameters

/-- Extract a document; one of blanks only yields nothing, not even the keywords. -/
def extract (text : Text) : Snapshot :=
  if Text.allBlank text then .empty else (Findings.ofText text).snapshot

/-- Members behind a name: those of the class of that name, else those of the class the name was
last built from, else those that `fallback` knows. -/
def Snapshot.membersOf (snapshot : Snapshot) (fallback : Text → List Text) (name : Text) :
    List Text :=
  let own := (snapshot.classMembers.get? name).getD []
  let members :=
    if own.isEmpty then
      match snapshot.objectTypes.get? name with
      | some (c :: type) => (snapshot.classMembers.get? (c :: type)).getD []
      | _ => []
    else own
  unique (if members.isEmpty then fallback name else members)

def Snapshot.typeOf (snapshot : Snapshot) (name : Text) : Text :=
  (snapshot.objectTypes.get? name).getD []

end SymbolIndex
