import SymbolIndex.Settings.Basic
import SymbolIndex.Toml.Document
import SymbolIndex.Completion.SymbolTable
import SymbolIndex.Completion.Provider

/-! Settings of a project directory, and what follows from them: the place of the index and the
inputs of completion. -/
namespace SymbolIndex.Settings
variable [Schema.Package]

def fileName : Text := "symlex.toml".toList

/-- What the bytes of a settings file amount to. Only faults of the notation and of the schema are
reported as faults of the settings. -/
def ofBytes (platform : Platform) (path : Path) (bytes : List UInt8) : Except Failure Settings :=
  match Utf8.decode bytes with
  | .error error => .error (.decode error)
  | .ok text =>
    if platform.overflows text then .error .tooDeep
    else
      match Toml.read text with
      | .error (.longInteger digits) => .error (.longInteger digits)
      | .error .malformed => .error (.config (.invalidToml path))
      | .ok value =>
        match Settings.ofValue value with
        | .ok settings => .ok settings
        | .error error => .error (.config (.invalidSettings path error))

/-- The settings of a project; the defaults when it has no settings file. -/
def load (host : Host) (root : Path) : Except Failure Settings := do
  let path := root.child fileName
  host.probe path
  if host.isFile path then
    let bytes ← host.readBytes path
    ofBytes host.platform path bytes
  else .ok .default

/-- The index directory that settings name: a relative path that stays within the root once links
are resolved. -/
def resolveOutputDir (host : Host) (root : Path) (dir : Text) : Except Failure Path :=
  if dir.isEmpty then .error (.config .emptyOutputDir)
  else
    let path := Path.ofText dir
    if dir.head? = some '~' || path.isAbsolute then .error (.config .absoluteOutputDir)
    else do
      let root ← host.resolve root
      let resolved ← host.resolve (root.join path)
      if (resolved.below? root).isSome then .ok resolved
      else .error (.config (.escapingOutputDir dir))

/-- Failures to read a symbol table that are reported as faults of the settings. -/
def tableFailure (path : Path) : Failure → Failure
  | .os fault file => .config (.unreadableTable path (Failure.os fault file).message)
  | .decode error => .config (.unreadableTable path error.message)
  | failure => failure

def completionConfig (host : Host) (root : Path) (settings : CompletionSettings) :
    Except Failure Completion.Config := do
  let defaults := if settings.replaceDefaultTemplates then .empty else Completion.defaultTemplates
  let templates := defaults.putAll settings.templates.entries
  match settings.builtinsFile with
  | some (c :: name) =>
    let path := root.join (Path.ofText (c :: name))
    match Completion.loadSymbolTable host path with
    | .ok symbols => .ok ⟨symbols, templates⟩
    | .error failure => .error (tableFailure path failure)
  | _ => .ok ⟨Vocabulary.builtinSymbols, templates⟩

end SymbolIndex.Settings
