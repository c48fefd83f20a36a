import SymbolIndex.Schema.Fault

/-! Readings that collect every fault instead of stopping at the first. -/
namespace SymbolIndex

inductive Checked (α : Type)
  | accepted (value : α)
  | rejected (faults : List Fault)

namespace Checked
variable {α β : Type}

def fault (kind : FaultKind) : Checked α := .rejected [⟨[], kind⟩]

def map (f : α → β) : Checked α → Checked β
  | .accepted value => .accepted (f value)
  | .rejected faults => .rejected faults

/-- Two readings side by side; the faults of both are kept. -/
def apply : Checked (α → β) → Checked α → Checked β
  | .accepted f, .accepted value => .accepted (f value)
  | .accepted _, .rejected faults => .rejected faults
  | .rejected faults, .accepted _ => .rejected faults
  | .rejected first, .rejected second => .rejected (first ++ second)

instance : Applicative Checked where
  pure := .accepted
  map := Checked.map
  seq f x := f.apply (x ())

def andThen (read : Checked α) (next : α → Checked β) : Checked β :=
  match read with
  | .accepted value => next value
  | .rejected faults => .rejected faults

def within (step : PathStep) : Checked α → Checked α
  | .accepted value => .accepted value
  | .rejected faults => .rejected (faults.map fun fault => { fault with path := step :: fault.path })

def sequence : List (Checked α) → Checked (List α)
  | [] => .accepted []
  | read :: rest => (read.map List.cons).apply (sequence rest)

def toExcept (schema : Text) : Checked α → Except SchemaError α
  | .accepted value => .ok value
  | .rejected faults => .error ⟨schema, faults⟩

end Checked
end SymbolIndex
