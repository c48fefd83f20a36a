/-! Binary search in a sorted table of offsets. -/
namespace SymbolIndex

/-- Narrow `low ≤ answer ≤ high` until both agree. -/
def countUpToWithin (starts : Array Nat) (x : Int) (low high : Nat) : Nat :=
  if low < high then
    let middle := (low + high) / 2
    if x < (starts.getD middle 0 : Int) then countUpToWithin starts x low middle
    else countUpToWithin starts x (middle + 1) high
  else low
termination_by high - low

/-- How many members of a sorted table are at most `x`. -/
def countUpTo (starts : Array Nat) (x : Int) : Nat := countUpToWithin starts x 0 starts.size

end SymbolIndex
