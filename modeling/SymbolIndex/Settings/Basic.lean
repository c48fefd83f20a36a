import SymbolIndex.Schema.Field
import SymbolIndex.Text.Quoted

/-! The settings of a project and their schema. Keys outside the schema are refused at every
level. -/
namespace SymbolIndex
variable [Schema.Package]

structure CompletionSettings where
  builtinsFile : Option Text
  templates : Dictionary Text
  replaceDefaultTemplates : Bool
deriving DecidableEq

structure IndexSettings where
  outputDir : Text
  includePatterns : List Text
  excludePatterns : List Text
  nestedIgnore : Bool
deriving DecidableEq

structure Settings where
  language : Text
  completion : CompletionSettings
  index : IndexSettings
deriving DecidableEq

namespace CompletionSettings

def default : CompletionSettings := ⟨none, .empty, false⟩

end CompletionSettings

namespace IndexSettings

def defaultOutputDir : Text := ".symlex".toList

def default : IndexSettings := ⟨defaultOutputDir, [], [], false⟩

end IndexSettings

def Settings.default : Settings := ⟨"python".toList, .default, .default⟩

namespace Schema

/-- Templates by keyword. A blank keyword is refused before any expansion is looked at, and null
stands for no templates. -/
def readTemplates : Value → Checked (Dictionary Text)
  | .null => .accepted .empty
  | .table entries =>
    match entries.find? (Text.allBlank ·.1) with
    | some (keyword, _) =>
      .fault (.refused ("Invalid template keyword ".toList ++ Text.quoted keyword))
    | none => readDictionary readText (.table entries)
  | value => readDictionary readText value

def readCompletionSettings (entries : List (Text × Value)) : Checked CompletionSettings :=
  (fun _ file templates replace => ⟨file, templates, replace⟩)
    <$> onlyFields ["builtins_file", "templates", "replace_default_templates"] entries
    <*> optionalField "builtins_file" none readTextOrNull entries
    <*> optionalField "templates" .empty readTemplates entries
    <*> optionalField "replace_default_templates" false readBool entries

def readIndexSettings (entries : List (Text × Value)) : Checked IndexSettings :=
  (fun _ dir included excluded nested => ⟨dir, included, excluded, nested⟩)
    <$> onlyFields ["output_dir", "include", "exclude", "nested_gitignore"] entries
    <*> optionalField "output_dir" IndexSettings.defaultOutputDir readText entries
    <*> optionalField "include" [] (readList readText) entries
    <*> optionalField "exclude" [] (readList readText) entries
    <*> optionalField "nested_gitignore" false readBool entries

def readSettings (entries : List (Text × Value)) : Checked Settings :=
  (fun _ language completion index => ⟨language, completion, index⟩)
    <$> onlyFields ["language", "completion", "index"] entries
    <*> optionalField "language" Settings.default.language readText entries
    <*> optionalField "completion" .default (readModel readCompletionSettings) entries
    <*> optionalField "index" .default (readModel readIndexSettings) entries

end Schema

def Settings.ofValue (value : Value) : Except SchemaError Settings :=
  (Schema.readModel Schema.readSettings value).toExcept "SymlexConfig".toList

def Settings.toValue (settings : Settings) : Value :=
  .table [("language".toList, .text settings.language),
    ("completion".toList, .table [
      ("builtins_file".toList,
        match settings.completion.builtinsFile with
        | some file => .text file
        | none => .null),
      ("templates".toList,
        .table (settings.completion.templates.entries.map fun entry => (entry.1, .text entry.2))),
      ("replace_default_templates".toList, .boolean settings.completion.replaceDefaultTemplates)]),
    ("index".toList, .table [
      ("output_dir".toList, .text settings.index.outputDir),
      ("include".toList, .texts settings.index.includePatterns),
      ("exclude".toList, .texts settings.index.excludePatterns),
      ("nested_gitignore".toList, .boolean settings.index.nestedIgnore)])]

end SymbolIndex
