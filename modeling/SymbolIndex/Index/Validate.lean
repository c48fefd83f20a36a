import SymbolIndex.Index.Artifact
import SymbolIndex.Host.Basic

/-! Checking the files of an index, line by line. -/
namespace SymbolIndex.Index

inductive Finding
  | notDirectory
  | noDirectory
  | missingFile
  | unreadable (reason : Text)
  | invalidJson
  | schema (error : SchemaError)
  | version (found : Int)

def Finding.message : Finding → Text
  | .notDirectory => "Artifacts path is not a directory.".toList
  | .noDirectory => "Artifacts directory does not exist.".toList
  | .missingFile => "Required artifact file is missing.".toList
  | .unreadable reason => "Failed to read file: ".toList ++ reason ++ ['.']
  | .invalidJson => "Invalid JSON".toList
  | .schema error => "Schema validation failed: ".toList ++ error.message ++ ['.']
  | .version found =>
    "Schema version mismatch: expected ".toList ++ Text.ofInt schemaVersion ++ ", got ".toList ++
      Text.ofInt found ++ ['.']

structure Message where
  artifact : Text
  path : Path
  text : Text
  line : Option Int

def Message.location (message : Message) : Text :=
  match message.line with
  | none => message.path.text
  | some line => message.path.text ++ ':' :: Text.ofInt line

def Message.toValue (message : Message) : Value :=
  .table [("artifact".toList, .text message.artifact), ("path".toList, .text message.path.text),
    ("line".toList, match message.line with
      | some line => .integer line
      | none => .null),
    ("message".toList, .text message.text)]

structure Validation where
  errors : List Message
  warnings : List Message
  recordCounts : Dictionary Nat

def Validation.ok (validation : Validation) : Bool := validation.errors.isEmpty

def isBlankByte (byte : UInt8) : Bool :=
  byte = 0x20 || (0x09 ≤ byte.toNat && byte.toNat ≤ 0x0D)

def stripBytes (bytes : List UInt8) : List UInt8 :=
  ((bytes.dropWhile isBlankByte).reverse.dropWhile isBlankByte).reverse

/-- The lines of a file, without the newlines that end them. -/
def byteLines : List UInt8 → List (List UInt8)
  | [] => []
  | byte :: rest =>
    if byte = 0x0A then [] :: byteLines rest
    else match byteLines rest with
      | [] => [[byte]]
      | line :: more => (byte :: line) :: more

inductive LineOutcome
  | blank
  | invalidJson
  | refused (error : SchemaError)
  | record (version : Int)

variable [Json.Package] [Schema.Package]

def readRecordLine (artifact : Artifact) (line : List UInt8) : LineOutcome :=
  let bytes := stripBytes line
  if bytes.isEmpty then .blank
  else
    match Json.loads bytes with
    | none => .invalidJson
    | some value =>
      match artifact.readVersion value with
      | .error error => .refused error
      | .ok version => .record version

/-- What a file amounts to: findings with their line numbers, and the number of records. -/
structure Tally where
  findings : List (Nat × Finding)
  count : Nat

/-- Account for every line from number `line` on. A wrong version is reported once. -/
def tally (artifact : Artifact) (line : Nat) (versionReported : Bool) : List (List UInt8) → Tally
  | [] => ⟨[], 0⟩
  | bytes :: rest =>
    match readRecordLine artifact bytes with
    | .blank => tally artifact (line + 1) versionReported rest
    | .invalidJson =>
      let later := tally artifact (line + 1) versionReported rest
      { later with findings := (line, .invalidJson) :: later.findings }
    | .refused error =>
      let later := tally artifact (line + 1) versionReported rest
      { later with findings := (line, .schema error) :: later.findings }
    | .record version =>
      if version ≠ schemaVersion && !versionReported then
        let later := tally artifact (line + 1) true rest
        ⟨(line, .version version) :: later.findings, later.count + 1⟩
      else
        let later := tally artifact (line + 1) versionReported rest
        { later with count := later.count + 1 }

def validateFile (host : Host) (path : Path) (artifact : Artifact) : Validation :=
  let message (finding : Finding) (line : Option Int) : Message :=
    ⟨artifact.fileName, path, finding.message, line⟩
  if !host.pathExists path then ⟨[message .missingFile none], [], .empty⟩
  else
    match host.readBytes path with
    | .error failure => ⟨[message (.unreadable failure.message) none], [], .empty⟩
    | .ok bytes =>
      let result := tally artifact 1 false (byteLines bytes)
      ⟨result.findings.map fun (line, finding) => message finding (some line), [],
        .ofList [(artifact.fileName, result.count)]⟩

def Validation.append (first second : Validation) : Validation :=
  ⟨first.errors ++ second.errors, first.warnings ++ second.warnings,
    first.recordCounts.putAll second.recordCounts.entries⟩

def validate (host : Host) (directory : Path) : Validation :=
  if host.isDirectory directory then
    (Artifact.all.map fun artifact =>
      validateFile host (directory.child artifact.fileName) artifact).foldl
        Validation.append ⟨[], [], .empty⟩
  else
    let finding := if host.pathExists directory then Finding.notDirectory else .noDirectory
    ⟨[⟨"artifacts_dir".toList, directory, finding.message, none⟩], [], .empty⟩

end SymbolIndex.Index
