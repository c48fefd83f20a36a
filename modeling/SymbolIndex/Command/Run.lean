import SymbolIndex.Command.Request
import SymbolIndex.Completion.Config
import SymbolIndex.Index.Validate
import SymbolIndex.Locate.Definition
import SymbolIndex.Verify.Determinism

/-! Carrying out requests. Faults of settings, languages and files end a run with exit code 2, any
other failure leaves it without an exit code. -/
namespace SymbolIndex.Command

structure Finish where
  exitCode : Nat
  output : Text
  errors : Text
deriving DecidableEq

inductive Outcome
  | finished (finish : Finish)
  | stopped (exitCode : Nat)
  | failed (failure : Failure)

section Printing
variable [Json.Package]

def printed (value : Value) : Job Finish := do
  match Json.dumps .indented value with
  | .ok text => return ⟨0, text ++ ['\n'], []⟩
  | .error reason => throw (.unwritable reason)

end Printing

def snapshotValue (snapshot : Snapshot) : Value :=
  .table [("symbols".toList, .texts snapshot.symbols),
    ("positions".toList, .list (snapshot.positions.map SymbolRecord.toValue)),
    ("object_types".toList, Index.tableOf .text snapshot.objectTypes),
    ("class_members".toList, Index.tableOf .texts snapshot.classMembers),
    ("function_parameters".toList, Index.tableOf .text snapshot.functionParameters)]

def resultValue (result : Completion.Result) : Value :=
  .table [("candidates".toList, .texts result.candidates), ("prefix".toList, .text result.typed),
    ("force_popup".toList, .boolean result.forcePopup),
    ("object_expression".toList, .text result.expression)]

def summaryValue (summary : Index.Summary) : Value :=
  .table [("file_count".toList, .integer summary.fileCount),
    ("symbol_count".toList, .integer summary.symbolCount),
    ("artifacts".toList, .texts (summary.artifacts.map Path.text))]

def pathArgument (argument : Text) : Job Path := do
  let path ← Job.look fun host => host.expandHome (Path.ofText argument)
  Job.look (·.resolve path)

/-- A file extracted with the language that its suffix or its project asks for. -/
structure Extracted where
  language : Language
  snapshot : Snapshot
  text : Text
  path : Path

/-- The language of a file: by its suffix if that is known, else the configured one. -/
def languageFor (registry : Registry) (configured : Text) (path : Path) : Job Language := do
  if path.suffix.isEmpty then Index.ofRegistry (registry.create configured)
  else
    match registry.languageFor path.suffix with
    | .ok name => Index.ofRegistry (registry.create name)
    | .error _ =>
      Job.report .debug "cli" <|
        "No language for ".toList ++ path.suffix ++ "; using ".toList ++ configured
      Index.ofRegistry (registry.create configured)

variable [Schema.Package]

def extractFile (file : Text) : Job Extracted := do
  let path ← pathArgument file
  let text ← Job.look (·.readText path)
  let settings ← Job.look (Settings.load · path.parent)
  let registry ← Index.standardRegistry
  let language ← languageFor registry settings.language path
  let snapshot ← Index.extractReported language text
  return ⟨language, snapshot, text, path⟩

section Commands
variable [Json.Package] [Ignore.Package]

def symbolsDocument (file : Text) : Job Value := do
  let extracted ← extractFile file
  return snapshotValue extracted.snapshot

def completionDocument (file token : Text) : Job Value := do
  let extracted ← extractFile file
  let root := extracted.path.parent
  let settings ← Job.look (Settings.load · root)
  let config ← Job.look (Settings.completionConfig · root settings.completion)
  Job.report .debug "completion.provider" <|
    "Attached to ".toList ++ extracted.language.name ++ " extractor".toList
  let provider := (Completion.Provider.ofConfig config).updateUserSymbols extracted.snapshot.symbols
  let source : Completion.MemberSource :=
    ⟨extracted.snapshot.membersOf extracted.language.fallbackMembers, extracted.snapshot.typeOf⟩
  return resultValue (provider.complete (some source) token).1

def locationDocument (file : Text) (line column : Int) : Job Value := do
  let extracted ← extractFile file
  let positions := extracted.snapshot.positions
  return .table [
    ("symbol".toList, (symbolAt positions line column).toValue),
    ("definition".toList, (definitionAt positions extracted.text line column).toValue)]

def indexDocument (root : Text) (outDir : Option Text) : Job Value := do
  let root ← pathArgument root
  let outDir ← match outDir with
    | some dir => do pure (some (← pathArgument dir))
    | none => pure none
  let summary ← Index.generate root outDir none
  return summaryValue summary

end Commands

/-- The index directory: the one given, or the one the settings of the project name. -/
def namedArtifacts (root : Path) : Option Text → Job Path
  | some dir => pathArgument dir
  | none => do
    let settings ← Job.look (Settings.load · root)
    Job.look (Settings.resolveOutputDir · root settings.index.outputDir)

/-- The same, once the file system has been asked about it. -/
def artifactsPath (root : Path) (given : Option Text) : Job Path := do
  let directory ← namedArtifacts root given
  Job.look (·.probe directory)
  return directory

variable [Json.Package] [Ignore.Package]

def runValidate (root : Text) (artifactsDir : Option Text) : Job Finish := do
  let root ← pathArgument root
  let directory ← artifactsPath root artifactsDir
  let validation := Index.validate (← Job.host) directory
  let lines := validation.errors.map fun error =>
    error.location ++ ": ".toList ++ error.text ++ ['\n']
  return ⟨if validation.ok then 0 else 1, [], lines.flatten⟩

def isAbsence : Failure → Bool
  | .os .notFound _ | .os .notDirectory _ | .artifactsMissing _ | .artifactsNotDirectory _ => true
  | _ => false

def differenceLines (comparison : Index.Comparison) : Text :=
  let lines (label : String) (paths : List Text) : Text :=
    paths.flatMap fun path => label.toList ++ ": ".toList ++ path ++ ['\n']
  lines "missing" comparison.missing ++ lines "extra" comparison.extra ++
    lines "mismatches" comparison.mismatches

def runVerify (root : Text) (artifactsDir : Option Text) : Job Finish := do
  let root ← pathArgument root
  let directory ← artifactsPath root artifactsDir
  tryCatch
    (do
      let comparison ← Index.verify root directory
      return ⟨if comparison.ok then 0 else 1, [], differenceLines comparison⟩)
    (fun failure =>
      if isAbsence failure then
        return ⟨2, [], "artifacts-dir: ".toList ++ directory.text ++ "\nerror: ".toList ++
          failure.message ++ ['\n']⟩
      else throw failure)

def job : Request → Job Finish
  | .symbols file => symbolsDocument file >>= printed
  | .complete file token => completionDocument file token >>= printed
  | .locate file line column => locationDocument file line column >>= printed
  | .index root outDir => indexDocument root outDir >>= printed
  | .validate root artifactsDir => runValidate root artifactsDir
  | .verify root artifactsDir => runVerify root artifactsDir

/-- Whether a failure is reported to the user and ends the run with exit code 2. -/
def isReported : Failure → Bool
  | .os _ _ | .full | .decode _ | .config _ | .artifactsMissing _ | .artifactsNotDirectory _ => true
  | .ignoreRules (.undecodable _) => true
  | .registry (.notRegistered _) | .registry (.unknownExtension _) => true
  | _ => false

/-- The reports that are shown: warnings always, the others only on request. -/
def shownLog (verbose : Bool) (log : List LogEntry) : Text :=
  (log.filter fun entry => verbose || entry.level = .warning).flatMap fun entry =>
    entry.line ++ ['\n']

/-- Run a command line on a host: the outcome and the host afterwards. -/
def run (argv : List Text) (host : Host) : Outcome × Host :=
  match parse argv with
  | .error .help => (.stopped 0, host)
  | .error .usage => (.stopped 2, host)
  | .ok (verbose, request) =>
    let (result, world) := (job request).run host
    let shown := shownLog verbose world.log
    match result with
    | .ok finish => (.finished { finish with errors := shown ++ finish.errors }, world.host)
    | .error failure =>
      if isReported failure then
        (.finished ⟨2, [], shown ++ "error: ".toList ++ failure.message ++ ['\n']⟩, world.host)
      else (.failed failure, world.host)

end SymbolIndex.Command
