import SymbolIndex.Index.Record
import SymbolIndex.Json.Package
import SymbolIndex.Text.Utf8

/-! The files of an index: one record a line, in compact form. -/
namespace SymbolIndex.Index

inductive Artifact
  | symbols
  | snapshots
deriving DecidableEq

namespace Artifact

/-- Both files, in the order in which they are written and checked. -/
def all : List Artifact := [.symbols, .snapshots]

def fileName : Artifact → Text
  | .symbols => "symbols.jsonl".toList
  | .snapshots => "snapshots.jsonl".toList

def schemaName : Artifact → Text
  | .symbols => "FileSymbolRecord".toList
  | .snapshots => "FileSnapshotRecord".toList

/-- The schema version of a record that satisfies the schema of the file. -/
def readVersion [Schema.Package] (artifact : Artifact) (value : Value) : Except SchemaError Int :=
  match artifact with
  | .symbols => (FileSymbol.ofValue value).map (·.version)
  | .snapshots => (FileSnapshot.ofValue value).map (·.version)

end Artifact

section Lines
variable [Json.Package]

/-- The bytes of a file of records, up to the first that has no written form: every line ends with
a newline. -/
def encodeLines : List Value → List UInt8
  | [] => []
  | record :: rest =>
    match Json.dumps .compact record with
    | .ok line => Utf8.encode (line ++ ['\n']) ++ encodeLines rest
    | .error _ => []

/-- Why not all records can be written. -/
def refusal? : List Value → Option Text
  | [] => none
  | record :: rest =>
    match Json.dumps .compact record with
    | .ok _ => refusal? rest
    | .error reason => some reason

end Lines

end SymbolIndex.Index
