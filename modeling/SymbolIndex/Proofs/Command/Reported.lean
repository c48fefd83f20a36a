import SymbolIndex.Command.Run
import SymbolIndex.Proofs.Command.Arguments
import SymbolIndex.Proofs.Host.Clean
import SymbolIndex.Proofs.Index.Rerun
import SymbolIndex.Proofs.Settings.Load

/-! Failures that a run reports: whatever the file system refuses about a path that it can be given,
faults of the settings and languages that are not known. -/
namespace SymbolIndex
open Command

/-- Failures that no run reports: a home that is not known, a null character in a path, links that lead
in a circle, settings with a long integer or nested too deep, a record without a written form, and what
ignore rules complain of unless it is bytes that are no text. -/
inductive Command.IsStray : Failure → Prop
  | noHome : IsStray .noHome
  | nullInPath (inspecting : Bool) : IsStray (.nullInPath inspecting)
  | linkLoop (path : Path) : IsStray (.linkLoop path)
  | longInteger (digits : Nat) : IsStray (.longInteger digits)
  | tooDeep : IsStray .tooDeep
  | unwritable (reason : Text) : IsStray (.unwritable reason)
  | ignoreRules {complaint : Ignore.Complaint} (text : ∀ error, complaint ≠ .undecodable error) :
      IsStray (.ignoreRules complaint)

theorem Command.IsStray.unreported {failure : Failure} (stray : IsStray failure) :
    isReported failure = false := by
  cases stray with
  | @ignoreRules complaint text =>
    cases complaint with
    | undecodable error => exact absurd rfl (text error)
    | value reason => rfl
    | other name reason => rfl
  | _ => rfl

namespace Path
variable {path base : Path}

end Path

namespace Host
variable {host made : Host} {path resolved : Path} {failure : Failure} {bytes : List UInt8}

theorem resolve_error (failed : host.resolve path = .error failure) : IsStray failure := by
  unfold resolve at failed
  split at failed
  · dsimp only at failed
    split at failed
    · obtain rfl := Except.error.inj failed
      exact .linkLoop _
    · cases failed
  · obtain rfl := Except.error.inj failed
    exact .nullInPath true

theorem homeOf_error {user : Text} (failed : host.homeOf user = .error failure) : IsStray failure := by
  unfold homeOf at failed
  split at failed
  · cases failed
  · split at failed
    · obtain rfl := Except.error.inj failed
      exact .nullInPath false
    · split at failed
      · cases failed
      · obtain rfl := Except.error.inj failed
        exact .noHome

theorem expandHome_error (failed : host.expandHome path = .error failure) : IsStray failure := by
  unfold expandHome at failed
  split at failed
  · exact homeOf_error (exceptMap_eq_error.mp failed)
  · cases failed

end Host

namespace Settings
variable {host : Host} {root dir : Path} {failure : Failure} {given : Text}

/-- Where the output directory is looked for once its text is accepted. -/
def placeOutput (host : Host) (root : Path) (given : Text) : Except Failure Path := do
  let base ← host.resolve root
  host.resolve (base.join (Path.ofText given))

/-- A text that may name an output directory. -/
def IsRelative (given : Text) : Prop :=
  given ≠ [] ∧ given.head? ≠ some '~' ∧ (Path.ofText given).isAbsolute = false

end Settings
end SymbolIndex
