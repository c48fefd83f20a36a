import SymbolIndex.Language
import SymbolIndex.Text.Lower

/-! Languages by name and by file extension. Extensions are compared in lower case; the language
registered last for an extension has it. -/
namespace SymbolIndex

inductive RegistryError
  | alreadyRegistered (name : Text)
  | notRegistered (name : Text)
  | unknownExtension (extension : Text)

def RegistryError.message : RegistryError → Text
  | .alreadyRegistered name => "Language '".toList ++ name ++ "' is already registered".toList
  | .notRegistered name => "Language '".toList ++ name ++ "' not registered".toList
  | .unknownExtension extension =>
    "No language registered for extension '".toList ++ extension ++ "'".toList

/-- Registered languages by name, and the name that owns each extension. -/
structure Registry where
  languages : Dictionary Language
  owners : Dictionary Text

namespace Registry

def empty : Registry := ⟨.empty, .empty⟩

def register (registry : Registry) (name : Text) (language : Language) (extensions : List Text) :
    Except RegistryError Registry :=
  if registry.languages.contains name then .error (.alreadyRegistered name)
  else .ok {
    languages := registry.languages.put name language
    owners := registry.owners.putAll (extensions.map fun extension => (Text.lower extension, name)) }

def create (registry : Registry) (name : Text) : Except RegistryError Language :=
  match registry.languages.get? name with
  | some language => .ok language
  | none => .error (.notRegistered name)

/-- The name of the language that has an extension, given with its point. -/
def languageFor (registry : Registry) (extension : Text) : Except RegistryError Text :=
  match registry.owners.get? (Text.lower extension) with
  | some name => .ok name
  | none => .error (.unknownExtension extension)

def extensionsOf (registry : Registry) (name : Text) : List Text :=
  Text.sort ((registry.owners.entries.filter (·.2 = name)).map Prod.fst)

def isRegistered (registry : Registry) (name : Text) : Bool := registry.languages.contains name

def names (registry : Registry) : List Text := Text.sort registry.languages.keys

def standard : Registry :=
  match empty.register Language.python.name .python Language.python.extensions with
  | .ok registry => registry
  | .error _ => empty

end Registry
end SymbolIndex
