import SymbolIndex.Index.Artifact
import SymbolIndex.Settings.Load
import SymbolIndex.Sources.Find
import SymbolIndex.Log

/-! Writing the index of a project. Every file is extracted on its own; names are never resolved
across files. -/
namespace SymbolIndex.Index

structure Summary where
  fileCount : Nat
  symbolCount : Nat
  artifacts : List Path

structure Block where
  snapshot : FileSnapshot
  symbols : List FileSymbol

def blockOf (path language : Text) (snapshot : Snapshot) : Block where
  snapshot := ⟨schemaVersion, path, language, snapshot.symbols, snapshot.objectTypes,
    snapshot.classMembers, snapshot.functionParameters⟩
  symbols := snapshot.positions.map fun symbol => ⟨schemaVersion, path, symbol⟩

/-- The first name below the root on the way to the output directory, empty outside the root and
for the root itself. -/
def outputDirName (outDir root : Path) : Text :=
  match outDir.below? root with
  | some (name :: _) => name
  | _ => []

def standardRegistry : Job Registry := do
  Job.report .debug "parse.registry" <|
    "Registered language ".toList ++ Language.python.name ++ " for ".toList ++
      Text.join ", ".toList Language.python.extensions
  return .standard

def ofRegistry {α : Type} : Except RegistryError α → Job α
  | .ok value => return value
  | .error error => throw (.registry error)

def extractReported (language : Language) (text : Text) : Job Snapshot := do
  match language.snapshot? text with
  | none => throw .noScan
  | some snapshot =>
    Job.report .debug "parse.extractor" <|
      language.name ++ " extraction: ".toList ++ Text.ofNat snapshot.symbols.length ++
        " symbols, ".toList ++ Text.ofNat snapshot.positions.length ++ " positions, ".toList ++
        Text.ofNat snapshot.classMembers.entries.length ++ " classes".toList
    return snapshot

/-- The text of a source file; one that cannot be read is reported and left out. -/
def readSource (path : Path) : Job (Option Text) := do
  match (← Job.host).readText path with
  | .ok text => return some text
  | .error failure =>
    Job.report .warning "artifacts.write" <|
      "Skipping unreadable file ".toList ++ path.text ++ ": ".toList ++ failure.message
    return none

def blocksOf (root : Path) (language : Language) (registered : Text) :
    List (List Text) → Job (List Block)
  | [] => return []
  | names :: rest => do
    match ← readSource (Sources.pathBelow root names) with
    | none => blocksOf root language registered rest
    | some text =>
      let snapshot ← extractReported language text
      let blocks ← blocksOf root language registered rest
      return blockOf (Path.relativeText names) registered snapshot :: blocks

def sourceFilter (settings : Settings) (registry : Registry) (outDir root : Path) :
    Sources.Filter where
  extensions := registry.extensionsOf settings.language
  outputDir := outputDirName outDir root
  includePatterns := settings.index.includePatterns
  excludePatterns := settings.index.excludePatterns
  nestedIgnore := settings.index.nestedIgnore

variable [Schema.Package] [Ignore.Package] [Json.Package]

/-- Collect what an index of a project holds. The directory that it belongs in is made first. -/
def collectInto (root outDir : Path) (settings : Settings) : Job (List Block) := do
  Job.makeDirectories outDir
  let registry ← standardRegistry
  let language ← ofRegistry (registry.create settings.language)
  let files ← Job.look (Sources.find · root (sourceFilter settings registry outDir root))
  blocksOf root language settings.language files

/-- The same with the directory. The settings are read from the root unless given, and the
directory is the one they name unless given. -/
def collect (root : Path) (outDir : Option Path) (settings : Option Settings) :
    Job (Path × List Block) := do
  let settings ← match settings with
    | some settings => pure settings
    | none => Job.look (Settings.load · root)
  let outDir ← match outDir with
    | some dir => pure dir
    | none => Job.look (Settings.resolveOutputDir · root settings.index.outputDir)
  let blocks ← collectInto root outDir settings
  return (outDir, blocks)

/-- Why a file holds less than all of its records. -/
def shortfall? (host : Host) (path : Path) (records : List Value) : Option Failure :=
  if host.fitting path (encodeLines records) ≠ encodeLines records then some .full
  else (refusal? records).map .unwritable

/-- Write records to a file, as far as they have written forms and the file has room for them. -/
def writeRecords (path : Path) (records : List Value) : Job Unit := do
  let host ← Job.host
  Job.change (·.writeBytes path (host.fitting path (encodeLines records)))
  match shortfall? host path records with
  | some failure => throw failure
  | none => return ()

def writeBlocks (outDir : Path) (blocks : List Block) : Job Summary := do
  let symbols := blocks.flatMap (·.symbols)
  let symbolsPath := outDir.child Artifact.symbols.fileName
  let snapshotsPath := outDir.child Artifact.snapshots.fileName
  writeRecords symbolsPath (symbols.map FileSymbol.toValue)
  writeRecords snapshotsPath (blocks.map (·.snapshot.toValue))
  Job.report .info "artifacts.write" <|
    "Indexed ".toList ++ Text.ofNat blocks.length ++ " files (".toList ++
      Text.ofNat symbols.length ++ " symbol records) into ".toList ++ outDir.text
  return ⟨blocks.length, symbols.length, [symbolsPath, snapshotsPath]⟩

def generate (root : Path) (outDir : Option Path) (settings : Option Settings) : Job Summary := do
  let (outDir, blocks) ← collect root outDir settings
  writeBlocks outDir blocks

end SymbolIndex.Index
