import SymbolIndex.Scope

/-! The occurrences of all patterns in one document, found once and read by every derived
structure. -/
namespace SymbolIndex

/-- Occurrences in text order, with the class ranges of the document. -/
structure Findings where
  text : Text
  scopes : Scopes
  functions : List Occurrence
  attributes : List Occurrence
  assignments : List Occurrence
  plainImports : List Occurrence
  fromImports : List Occurrence
  constructorCalls : List Occurrence

def Findings.ofText (text : Text) : Findings where
  text := text
  scopes := .ofText text
  functions := Pattern.functionHeader.occurrences text
  attributes := Pattern.attributeAssignment.occurrences text
  assignments := Pattern.variableAssignment.occurrences text
  plainImports := Pattern.plainImport.occurrences text
  fromImports := Pattern.fromImport.occurrences text
  constructorCalls := Pattern.constructorCall.occurrences text

/-- The name that an import from a module binds: its alias if it has one. -/
def Occurrence.bound (found : Occurrence) : Capture := found.detail.getD found.name

def Occurrence.detailText (found : Occurrence) : Text := (found.detail.map (·.text)).getD []

def Occurrence.parameters (found : Occurrence) : Text := Text.strip found.detailText

end SymbolIndex
