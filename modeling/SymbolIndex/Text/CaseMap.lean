import SymbolIndex.Text.CharClass

/-! Case mappings given by tables: runs of characters that move by one distance, and single
characters that become several. -/
namespace SymbolIndex

/-- Every `step`-th character from `first` to `last` maps to the one `distance` further on. -/
structure CaseShift where
  first : Nat
  last : Nat
  step : Nat
  distance : Int

def CaseShift.moves (shift : CaseShift) (n : Nat) : Bool :=
  shift.first ≤ n && n ≤ shift.last && (n - shift.first) % shift.step = 0

/-- The image of one character under shifts and expansions; any other character stays. -/
def mapCase (shifts : List CaseShift) (expansions : List (Nat × List Nat)) (c : Char) : Text :=
  match expansions.find? (·.1 = c.toNat) with
  | some (_, image) => image.map Char.ofNat
  | none =>
    match shifts.find? (·.moves c.toNat) with
    | some shift => [Char.ofNat (c.toNat + shift.distance).toNat]
    | none => [c]

end SymbolIndex
