import SymbolIndex.Schema.Symbol
import SymbolIndex.Snapshot

/-! The records of an index: one per symbol of a file, and one per file. -/
namespace SymbolIndex.Index
variable [Schema.Package]

def schemaVersion : Int := 1

structure FileSymbol where
  version : Int
  path : Text
  symbol : SymbolRecord
deriving DecidableEq

/-- Everything found in a file but the positions. -/
structure FileSnapshot where
  version : Int
  path : Text
  language : Text
  symbols : List Text
  objectTypes : Dictionary Text
  classMembers : Dictionary (List Text)
  functionParameters : Dictionary Text
deriving DecidableEq

def tableOf {α : Type} (encode : α → Value) (source : Dictionary α) : Value :=
  .table (source.entries.map fun entry => (entry.1, encode entry.2))

def FileSymbol.toValue (record : FileSymbol) : Value :=
  .table (record.symbol.fields ++
    [("schema_version".toList, .integer record.version), ("path".toList, .text record.path)])

def FileSnapshot.toValue (record : FileSnapshot) : Value :=
  .table [("schema_version".toList, .integer record.version), ("path".toList, .text record.path),
    ("language".toList, .text record.language), ("symbols".toList, .texts record.symbols),
    ("object_types".toList, tableOf .text record.objectTypes),
    ("class_members".toList, tableOf .texts record.classMembers),
    ("function_parameters".toList, tableOf .text record.functionParameters)]

open Schema in
def FileSymbol.read (entries : List (Text × Value)) : Checked FileSymbol :=
  FileSymbol.mk <$> optionalField "schema_version" schemaVersion readInt entries
    <*> required "path" readText entries
    <*> readSymbol entries

open Schema in
def FileSnapshot.read (entries : List (Text × Value)) : Checked FileSnapshot :=
  FileSnapshot.mk <$> optionalField "schema_version" schemaVersion readInt entries
    <*> required "path" readText entries
    <*> required "language" readText entries
    <*> required "symbols" (readList readText) entries
    <*> required "object_types" (readDictionary readText) entries
    <*> required "class_members" (readDictionary (readList readText)) entries
    <*> required "function_parameters" (readDictionary readText) entries

def FileSymbol.ofValue (value : Value) : Except SchemaError FileSymbol :=
  (Schema.readModel FileSymbol.read value).toExcept "FileSymbolRecord".toList

def FileSnapshot.ofValue (value : Value) : Except SchemaError FileSnapshot :=
  (Schema.readModel FileSnapshot.read value).toExcept "FileSnapshotRecord".toList

end SymbolIndex.Index
