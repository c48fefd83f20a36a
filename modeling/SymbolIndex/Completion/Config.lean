import SymbolIndex.Completion.Provider
import SymbolIndex.Schema.Field

/-! Completion inputs as values. -/
namespace SymbolIndex.Completion
variable [Schema.Package]

/-- Inputs from their fields; fields left out have their defaults, others are ignored. -/
def Config.read (entries : List (Text × Value)) : Checked Config :=
  Config.mk <$> Schema.optionalField "builtin_symbols" [] (Schema.readTuple Schema.readText) entries
    <*> Schema.optionalField "templates" defaultTemplates (Schema.readDictionary Schema.readText)
      entries

def Config.ofValue (value : Value) : Except SchemaError Config :=
  (Schema.readModel Config.read value).toExcept "CompletionConfig".toList

end SymbolIndex.Completion
