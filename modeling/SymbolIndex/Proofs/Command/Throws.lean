import SymbolIndex.Proofs.Command.Reported
import SymbolIndex.Proofs.Command.Symbols
import SymbolIndex.Proofs.Verify.Determinism

/-! Jobs that fail without a report, step by step: what names a place, what is extracted of a file, and
what is collected and written of a project. -/
namespace SymbolIndex
open Command

namespace Job
variable {α β : Type} {job : Job α} {next : α → Job β} {world : World} {failure : Failure}
  {after : Host}

end Job

namespace Command
open Job
variable {host after made : Host} {world last : World} {failure : Failure} {place root dir : Path}
  {argument file token : Text} {given : Option Text}

section Places

/-- The place that an argument names. -/
def placeOf (host : Host) (argument : Text) : Except Failure Path := do
  let path ← host.expandHome (Path.ofText argument)
  host.resolve path

/-- An argument that names no place fails without a report. -/
theorem placeOf_error (failed : placeOf host argument = .error failure) : IsStray failure := by
  rcases exceptBind_eq_error.mp failed with lost | ⟨path, _, lost⟩
  · exact Host.expandHome_error lost
  · exact Host.resolve_error lost

variable [Schema.Package]

/-- The index directory that a project names or is given. -/
def artifactsOf (host : Host) (root : Path) : Option Text → Except Failure Path
  | some dir => placeOf host dir
  | none => do
    let settings ← Settings.load host root
    Settings.resolveOutputDir host root settings.index.outputDir

/-- A project is given an index directory that names no place, or its settings cannot be read, or they
name one that cannot be resolved. -/
inductive Misplaces (host : Host) (root : Path) : Option Text → Failure → Prop
  | given {dir : Text} {failure : Failure} (failed : placeOf host dir = .error failure) :
      Misplaces host root (some dir) failure
  | unsettled {failure : Failure} (unread : Settings.load host root = .error failure)
      (stray : IsStray failure) : Misplaces host root none failure
  | named {settings : Settings} {failure : Failure} (loaded : Settings.load host root = .ok settings)
      (relative : Settings.IsRelative settings.index.outputDir)
      (failed : Settings.placeOutput host root settings.index.outputDir = .error failure) :
      Misplaces host root none failure

theorem Misplaces.isStray (misplaced : Misplaces host root given failure) : IsStray failure := by
  cases misplaced with
  | given lost => exact placeOf_error lost
  | unsettled _ stray => exact stray
  | named _ _ lost =>
    rcases exceptBind_eq_error.mp lost with lost | ⟨_, _, lost⟩
    · exact Host.resolve_error lost
    · exact Host.resolve_error lost

end Places

section Extraction

section Settled
variable [Schema.Package]

/-- The settings beside a file that can be read are beyond the limits of the interpreter. -/
def Unsettled (host : Host) (file : Text) (failure : Failure) : Prop :=
  ∃ place text, placeOf host file = .ok place ∧ host.readText place = .ok text ∧
    Settings.load host place.parent = .error failure ∧ IsStray failure

end Settled

end Extraction

section Collection
open Index (collectInto writeBlocks writeRecords generate verify freshName Artifact WritesAll)
variable {β : Type} {path : Path} {settings : Settings} {blocks : List Index.Block} {values : List Value}
  {left : Host} {log : List LogEntry}

section Records
variable [Json.Package]

/-- Records are written to a file up to one that has no written form. -/
structure Stops (host : Host) (path : Path) (values : List Value) (reason : Text) (after : Host) :
    Prop where
  refused : Index.refusal? values = some reason
  room : host.fitting path (Index.encodeLines values) = Index.encodeLines values
  wrote : host.writeBytes path (Index.encodeLines values) = .ok after

/-- The files of an index are written up to a record that has no written form. -/
inductive StopsWithin (made : Host) (dir : Path) (blocks : List Index.Block) (reason : Text)
    (after : Host) : Prop
  | symbols (stops : Stops made (dir.child Artifact.symbols.fileName) (Artifact.symbols.records blocks)
      reason after) : StopsWithin made dir blocks reason after
  | snapshots {between : Host}
      (wrote : WritesAll made (dir.child Artifact.symbols.fileName) (Artifact.symbols.records blocks)
        between)
      (stops : Stops between (dir.child Artifact.snapshots.fileName)
        (Artifact.snapshots.records blocks) reason after) : StopsWithin made dir blocks reason after

/-- The directory is there still. -/
theorem StopsWithin.there {location : Location} {reason : Text} (there : made.At dir location)
    (stops : StopsWithin made dir blocks reason after) : after.At dir location := by
  cases stops with
  | symbols stops => exact there.writeBytes_kept stops.wrote
  | snapshots wrote stops => exact (there.writeBytes_kept wrote.wrote).writeBytes_kept stops.wrote

variable [Ignore.Package]

/-- An index is not finished once its directory is made: ignore rules are complained of, or a record has
no written form. -/
inductive Stumbles (host : Host) (root dir : Path) (settings : Settings) : Failure → Host → Prop
  | rules {made : Host} {failure : Failure} (created : host.makeDirectories dir = (made, none))
      (supported : Registry.standard.create settings.language = .ok .python)
      (untold : Sources.find made root (Index.sourceFilter settings .standard dir root) = .error failure)
      (stray : IsStray failure) : Stumbles host root dir settings failure made
  | record {made after : Host} {files : List (List Text)} {reason : Text}
      (created : host.makeDirectories dir = (made, none))
      (supported : Registry.standard.create settings.language = .ok .python)
      (found : Sources.find made root (Index.sourceFilter settings .standard dir root) = .ok files)
      (stops : StopsWithin made dir (files.filterMap (Index.readBlock? made root settings.language))
        reason after) : Stumbles host root dir settings (.unwritable reason) after

theorem Stumbles.isStray (stumbles : Stumbles host root dir settings failure after) :
    IsStray failure := by
  cases stumbles with
  | rules _ _ _ stray => exact stray
  | record => exact .unwritable _

theorem Stumbles.there (stumbles : Stumbles host root dir settings failure after) :
    ∃ location, after.At dir location := by
  cases stumbles with
  | rules created => exact (Host.makeDirectories_spec created).2
  | record created _ _ stops =>
    obtain ⟨_, location, there⟩ := Host.makeDirectories_spec created
    exact ⟨location, stops.there there⟩

variable [Schema.Package]

/-- The settings of a project are beyond the limits, or its index is not finished. -/
inductive Fails (host : Host) (root dir : Path) : Failure → Host → Prop
  | settings {failure : Failure} (unread : Settings.load host root = .error failure)
      (stray : IsStray failure) : Fails host root dir failure host
  | index {settings : Settings} {failure : Failure} {after : Host}
      (loaded : Settings.load host root = .ok settings)
      (stumbles : Stumbles host root dir settings failure after) : Fails host root dir failure after

theorem Fails.isStray (fails : Fails host root dir failure after) : IsStray failure := by
  cases fails with
  | settings _ stray => exact stray
  | index _ stumbles => exact stumbles.isStray

end Records

end Collection

end Command
end SymbolIndex
