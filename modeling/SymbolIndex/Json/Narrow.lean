import SymbolIndex.Json.Reader

/-! Values whose integers fit 64 bits: larger ones are read as decimals. -/
namespace SymbolIndex.Json

/-- An integer as it is, or the nearest decimal when it has more than 64 bits. -/
def narrowInt? (n : Int) : Option Value :=
  if -Nat.pow 2 63 ≤ n && n < Nat.pow 2 64 then some (.integer n)
  else
    let x := Decimal.nearest (n < 0) n.natAbs 0
    if Decimal.isFinite x then some (.decimal x) else none

mutual

def narrow? : Value → Option Value
  | .integer n => narrowInt? n
  | .list items => (narrowItems? items).map .list
  | .table entries => (narrowEntries? entries).map .table
  | value => some value

def narrowItems? : List Value → Option (List Value)
  | [] => some []
  | value :: rest => do
    let value ← narrow? value
    let rest ← narrowItems? rest
    some (value :: rest)

def narrowEntries? : List (Text × Value) → Option (List (Text × Value))
  | [] => some []
  | (key, value) :: rest => do
    let value ← narrow? value
    let rest ← narrowEntries? rest
    some ((key, value) :: rest)

end

def readNarrow? (source : Text) : Option Value := (read? source).bind narrow?

end SymbolIndex.Json
