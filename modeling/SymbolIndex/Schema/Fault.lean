import SymbolIndex.Text.Order

/-! What is wrong with a value that was read against a schema, and where. -/
namespace SymbolIndex

inductive PathStep
  | key (name : Text)
  | index (i : Nat)

/-- A key that holds a point is quoted, so that the steps of a path stay apart. -/
def PathStep.text : PathStep → Text
  | .key name => if '.' ∈ name then '\x60' :: name ++ ['\x60'] else name
  | .index i => Text.ofNat i

inductive FaultKind
  | stringType | intType | intParsing | intParsingSize | intFromFloat | finiteNumber
  | belowZero | boolType | boolParsing | listType | tupleType | dictType | modelType
  | missing | unknownName | extraForbidden
  | refused (reason : Text)

def FaultKind.text : FaultKind → Text
  | .stringType => "string_type".toList
  | .intType => "int_type".toList
  | .intParsing => "int_parsing".toList
  | .intParsingSize => "int_parsing_size".toList
  | .intFromFloat => "int_from_float".toList
  | .finiteNumber => "finite_number".toList
  | .belowZero => "greater_than_equal".toList
  | .boolType => "bool_type".toList
  | .boolParsing => "bool_parsing".toList
  | .listType => "list_type".toList
  | .tupleType => "tuple_type".toList
  | .dictType => "dict_type".toList
  | .modelType => "model_type".toList
  | .missing => "missing".toList
  | .unknownName => "enum".toList
  | .extraForbidden => "extra_forbidden".toList
  | .refused reason => "value_error(Value error, ".toList ++ reason ++ [')']

structure Fault where
  path : List PathStep
  kind : FaultKind

def Fault.text (fault : Fault) : Text :=
  Text.join ['.'] (fault.path.map PathStep.text) ++ ':' :: fault.kind.text

structure SchemaError where
  schema : Text
  faults : List Fault

/-- The number of faults and the faults in code-point order. -/
def SchemaError.message (error : SchemaError) : Text :=
  let count := error.faults.length
  Text.ofNat count ++ (if count = 1 then " validation error for " else " validation errors for ").toList
    ++ error.schema ++ " [".toList
    ++ Text.join ", ".toList (Text.sort (error.faults.map Fault.text)) ++ [']']

end SymbolIndex
