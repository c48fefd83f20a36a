import SymbolIndex.Schema.Field
import SymbolIndex.Symbol

/-! Symbol records as values. -/
namespace SymbolIndex

variable [Schema.Package]

namespace Schema

def readKind : Value → Checked SymbolKind :=
  readChoice (SymbolKind.all.map fun kind => (kind.name, kind))

/-- A record from its fields; fields left out are those of the empty record, others are ignored. -/
def readSymbol (entries : List (Text × Value)) : Checked SymbolRecord :=
  SymbolRecord.mk <$> optionalField "name" [] readText entries
    <*> optionalField "kind" .other readKind entries
    <*> optionalField "line" 0 readNat entries
    <*> optionalField "column" 0 readNat entries
    <*> optionalField "length" 0 readNat entries
    <*> optionalField "scope" [] readText entries
    <*> optionalField "parameters" [] readText entries

end Schema

def SymbolRecord.fields (record : SymbolRecord) : List (Text × Value) :=
  [("name".toList, .text record.name), ("kind".toList, .text record.kind.name),
    ("line".toList, .integer record.line), ("column".toList, .integer record.column),
    ("length".toList, .integer record.length), ("scope".toList, .text record.scope),
    ("parameters".toList, .text record.parameters)]

def SymbolRecord.toValue (record : SymbolRecord) : Value := .table record.fields

def SymbolRecord.ofValue (value : Value) : Except SchemaError SymbolRecord :=
  (Schema.readModel Schema.readSymbol value).toExcept "SymbolRecord".toList

end SymbolIndex
