import SymbolIndex.Command.Grammar

/-! The commands of the program, and how a command line asks for one of them. -/
namespace SymbolIndex.Command

inductive Request
  | symbols (file : Text)
  | complete (file token : Text)
  | locate (file : Text) (line column : Int)
  | index (root : Text) (outDir : Option Text)
  | validate (root : Text) (artifactsDir : Option Text)
  | verify (root : Text) (artifactsDir : Option Text)
deriving DecidableEq

def helpOptions : Options := [("-h".toList, .help), ("--help".toList, .help)]

def mainOptions : Options :=
  helpOptions ++ [("-v".toList, .verbose), ("--verbose".toList, .verbose)]

def defaultRoot : Text := ['.']

def rootOf (progress : Progress) : Text := progress.arguments.head?.getD defaultRoot

def requestOf (name : Text) (argv : List Text) : Except Stop (Request × Bool) :=
  let directoryOption (option : String) : Options :=
    helpOptions ++ [(option.toList, .directory)]
  match String.ofList name with
  | "symbols" => do
    let progress ← readArguments helpOptions [.text] argv
    match progress.arguments with
    | [file] => .ok (.symbols file, progress.extras)
    | _ => .error .usage
  | "complete" => do
    let progress ← readArguments helpOptions [.text, .text] argv
    match progress.arguments with
    | [file, token] => .ok (.complete file token, progress.extras)
    | _ => .error .usage
  | "locate" => do
    let progress ← readArguments helpOptions [.text, .integer, .integer] argv
    match progress.arguments with
    | [file, line, column] =>
      match Text.toInt? line, Text.toInt? column with
      | some line, some column => .ok (.locate file line column, progress.extras)
      | _, _ => .error .usage
    | _ => .error .usage
  | "index" => do
    let progress ← readArguments (directoryOption "--out-dir") [.optional] argv
    .ok (.index (rootOf progress) progress.directory, progress.extras)
  | "validate" => do
    let progress ← readArguments (directoryOption "--artifacts-dir") [.optional] argv
    .ok (.validate (rootOf progress) progress.directory, progress.extras)
  | "verify" => do
    let progress ← readArguments (directoryOption "--artifacts-dir") [.optional] argv
    .ok (.verify (rootOf progress) progress.directory, progress.extras)
  | _ => .error .usage

/-- Options up to the command, then the command with the rest of the line. Leftovers are a mistake
only after the command has been read. -/
def readCommand (progress : Progress) : List Slot → List Text → Except Stop (Bool × Request)
  | .option recognised :: slots, _ :: argv => do
    let (progress, _) ← takeOption mainOptions progress recognised none
    readCommand progress slots argv
  | .unknown _ :: slots, _ :: argv => readCommand { progress with extras := true } slots argv
  | .argument name :: _, _ :: argv => do
    let (request, extras) ← requestOf name argv
    if progress.extras || extras then .error .usage else .ok (progress.verbose, request)
  | _, _ => .error .usage

def parse (argv : List Text) : Except Stop (Bool × Request) := do
  let slots ← slotsOf mainOptions argv
  readCommand .start slots argv

end SymbolIndex.Command
