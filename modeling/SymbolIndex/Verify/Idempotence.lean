import SymbolIndex.Registry
import SymbolIndex.Workspace.Attachment

/-! Extraction twice over: does a second run on the same document change anything? -/
namespace SymbolIndex

def Snapshot.differing (first second : Snapshot) : List Text :=
  ([("symbols", decide (first.symbols = second.symbols)),
    ("positions", decide (first.positions = second.positions)),
    ("object_types", decide (first.objectTypes = second.objectTypes)),
    ("class_members", decide (first.classMembers = second.classMembers)),
    ("function_parameters", decide (first.functionParameters = second.functionParameters))].filter
      (!·.2)).map fun entry => String.toList entry.1

def Workspace.firstSnapshot (w : Workspace) : Snapshot :=
  ((w.origin? 0).map Origin.snapshot).getD .empty

/-- Extract a document twice with one extractor of the named language; the structures in which the
two snapshots differ. -/
def verifyIdempotent (text language : Text) : Except RegistryError (List Text) := do
  let language ← Registry.standard.create language
  let once := ((Workspace.empty.addExtractor language).extract 0 text).1
  let twice := (once.extract 0 text).1
  .ok (once.firstSnapshot.differing twice.firstSnapshot)

end SymbolIndex
