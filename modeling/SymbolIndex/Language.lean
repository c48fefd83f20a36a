import SymbolIndex.Extraction

/-! Languages with an extraction of their own. -/
namespace SymbolIndex

/-- A language: its name, the file extensions it uses, how documents with content are scanned,
which may fail, and the members of expressions that no document declares. -/
structure Language where
  name : Text
  extensions : List Text
  scan : Text → Option Snapshot
  fallbackMembers : Text → List Text

namespace Language

def generic : Language := ⟨"generic".toList, [], fun _ => none, fun _ => []⟩

def python : Language where
  name := "python".toList
  extensions := [".py", ".pyw", ".pyi"].map String.toList
  scan := fun text => some (Findings.ofText text).snapshot
  fallbackMembers := Vocabulary.shapeMembers

/-- The snapshot of a document. Where the scan fails only documents of blanks have one. -/
def snapshot? (language : Language) (text : Text) : Option Snapshot :=
  if Text.allBlank text then some .empty else language.scan text

theorem python_snapshot? (text : Text) : python.snapshot? text = some (extract text) := by
  unfold snapshot? extract
  split <;> rfl

end Language
end SymbolIndex
