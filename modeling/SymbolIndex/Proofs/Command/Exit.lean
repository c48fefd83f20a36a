import SymbolIndex.Proofs.Command.Throws

/-! How a run ends: with an exit code, or with a failure that is not reported and escapes it. -/
namespace SymbolIndex.Command
open Job
variable {host after : Host} {world last : World} {failure : Failure} {place dir : Path}
  {file token : Text} {given : Option Text} {request : Request}

section Printing
variable [Json.Package] {document : Job Value}

/-- A document is made that has no written form. -/
def Unprinted (host : Host) (document : Job Value) (failure : Failure) : Prop :=
  ∃ value reason, (document.run host).1 = .ok value ∧ Json.dumps .indented value = .error reason ∧
    failure = .unwritable reason

end Printing

section Documents
variable [Schema.Package]

variable [Ignore.Package] [Json.Package]

end Documents

section Requests
variable [Schema.Package] [Ignore.Package] [Json.Package]

/-- The file or the project that a request is about. -/
def Request.target : Request → Text
  | .symbols file | .complete file _ | .locate file _ _ => file
  | .index root _ | .validate root _ | .verify root _ => root

/-- The index directory that is given to a request about a project, if one is. -/
def Request.artifacts? : Request → Option (Option Text)
  | .symbols _ | .complete _ _ | .locate _ _ _ => none
  | .index _ given | .validate _ given | .verify _ given => some given

/-- The document that a request prints, if it prints one. -/
def Request.document? : Request → Option (Job Value)
  | .symbols file => some (symbolsDocument file)
  | .complete file token => some (completionDocument file token)
  | .locate file line column => some (locationDocument file line column)
  | .index root given => some (indexDocument root given)
  | .validate _ _ | .verify _ _ => none

/-- The failures that a request ends with, and that are not reported. -/
inductive Escapes (host : Host) : Request → Failure → Prop
  | argument {request : Request} {failure : Failure}
      (lost : placeOf host request.target = .error failure) : Escapes host request failure
  | settings {request : Request} {failure : Failure} (single : request.artifacts? = none)
      (unsettled : Unsettled host request.target failure) : Escapes host request failure
  | directory {request : Request} {given : Option Text} {place : Path} {failure : Failure}
      (asked : request.artifacts? = some given) (placed : placeOf host request.target = .ok place)
      (misplaced : Misplaces host place given failure) : Escapes host request failure
  | table {file token name : Text} {extracted : Extracted} {settings : Settings}
      (read : ((extractFile file).run host).1 = .ok extracted)
      (loaded : Settings.load host extracted.path.parent = .ok settings)
      (named : settings.completion.builtinsFile = some name) (null : '\x00' ∈ name) :
      Escapes host (.complete file token) (.nullInPath false)
  | index {root : Text} {given : Option Text} {place dir : Path} {failure : Failure} {after : Host}
      (placed : placeOf host root = .ok place) (located : artifactsOf host place given = .ok dir)
      (fails : Fails host place dir failure after) : Escapes host (.index root given) failure
  | verify {root : Text} {given : Option Text} {place dir : Path} {failure : Failure} {made left : Host}
      (placed : placeOf host root = .ok place) (located : artifactsOf host place given = .ok dir)
      (directory : host.isDirectory dir = true)
      (created : host.makeDirectories (host.temporary.child Index.freshName) = (made, none))
      (fails : Fails made place (host.temporary.child Index.freshName) failure left) :
      Escapes host (.verify root given) failure
  | printing {request : Request} {document : Job Value} {failure : Failure}
      (asked : request.document? = some document) (unprinted : Unprinted host document failure) :
      Escapes host request failure

theorem Escapes.isStray (escapes : Escapes host request failure) : IsStray failure := by
  cases escapes with
  | argument lost => exact placeOf_error lost
  | settings _ unsettled =>
    obtain ⟨_, _, _, _, _, stray⟩ := unsettled
    exact stray
  | directory asked placed misplaced => exact misplaced.isStray
  | table => exact .nullInPath false
  | index placed located fails => exact fails.isStray
  | verify placed located directory created fails => exact fails.isStray
  | printing _ unprinted =>
    obtain ⟨_, reason, _, _, rfl⟩ := unprinted
    exact .unwritable reason

end Requests

section Codes
variable {α : Type}

/-- How a run ends: with an exit code, or with a failure that is let out. -/
def Outcome.ending : Outcome → Except Failure Nat
  | .finished finish => .ok finish.exitCode
  | .stopped exitCode => .ok exitCode
  | .failed failure => .error failure

/-- A job that ends with exit code 0 when it does not fail. -/
def Plain (job : Job Finish) : Prop :=
  ∀ world finish last, outcome job world = (.ok finish, last) → finish.exitCode = 0

variable {result : Except Failure Bool}

end Codes

section Ending
variable [Schema.Package] [Ignore.Package] [Json.Package] {argv : List Text} {verbose : Bool}

end Ending

section Samples
open scoped Installed

end Samples

end SymbolIndex.Command
