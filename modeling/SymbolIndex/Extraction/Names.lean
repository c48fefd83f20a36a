import SymbolIndex.Findings
import SymbolIndex.Vocabulary
import SymbolIndex.Snapshot

/-! The flat symbol list, class members, parameter texts and inferred types of a document. -/
namespace SymbolIndex.Findings

/-- Names offered for completion, keywords first, in the order they are found. -/
def names (found : Findings) : List Text :=
  Vocabulary.keywords ++
    ((found.scopes.ranges.map (·.name)).filter (!Vocabulary.isPrivate ·)) ++
    ((found.functions.map (·.name.text)).filter Vocabulary.isOffered) ++
    ((found.assignments.map (·.name.text)).filter fun name =>
      !Vocabulary.keywords.contains name && !Vocabulary.isPrivate name) ++
    found.attributes.map (·.name.text) ++
    found.plainImports.map (·.name.text) ++
    found.fromImports.map (·.bound.text)

def symbols (found : Findings) : List Text := Text.sortFolded (unique found.names)

/-- Members that one class body declares: methods, attributes and the initialiser. -/
def declaredMembers (text : Text) (range : ClassRange) : List Text :=
  let body := Text.slice text range.bodyStart range.bodyEnd
  ((Pattern.functionHeader.occurrences body).map (·.name.text)).filter Vocabulary.isOffered ++
    ((Pattern.attributeAssignment.occurrences body).map (·.name.text)).filter
      (!Vocabulary.isPrivate ·) ++
    [Vocabulary.initialiser]

/-- Members of every class; bodies of classes with one name are taken together. -/
def classMembers (found : Findings) : Dictionary (List Text) :=
  .tabulate (found.scopes.ranges.map (·.name)) fun name =>
    unique ((found.scopes.ranges.filter (·.name = name)).flatMap (declaredMembers found.text))

/-- Key of a function: its name, qualified by the class around it. -/
def qualifiedName (scope name : Text) : Text :=
  if scope.isEmpty then name else scope ++ '.' :: name

/-- Parameter texts by qualified name; of several headers the last one counts. -/
def functionParameters (found : Findings) : Dictionary Text :=
  .ofList ((found.functions.filter (Vocabulary.isOffered ·.name.text)).map fun header =>
    (qualifiedName (found.scopes.classAt header.name.start) header.name.text, header.parameters))

/-- The callee last assigned to each name. -/
def objectTypes (found : Findings) : Dictionary Text :=
  .ofList (found.constructorCalls.map fun call => (call.name.text, call.detailText))

end SymbolIndex.Findings
