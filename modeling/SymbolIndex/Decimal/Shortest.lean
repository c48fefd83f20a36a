import SymbolIndex.Decimal.Reading
import SymbolIndex.Text.Basic

/-! The shortest decimal that reads back as a given binary number: on the coarsest decimal grid
with a point in the interval of reals that round to the number, the point nearest to it. -/
namespace SymbolIndex.Decimal

/-- A positive binary number `mantissa * 2 ^ exponent` and whether it starts a binade, below
which the numbers lie twice as close. -/
structure Binary where
  mantissa : Nat
  exponent : Int
  startsBinade : Bool

def Binary.ofBits (bits : Nat) : Binary :=
  let fraction : Nat := bits % Nat.pow 2 52
  let field : Nat := bits / Nat.pow 2 52 % Nat.pow 2 11
  if field = 0 then ⟨fraction, -1074, false⟩
  else ⟨Nat.pow 2 52 + fraction, (field : Int) - 1075, fraction = 0 && 1 < field⟩

/-- The interval of reals that round to a number, in units of `2 ^ exponent`: the ends count when
`closed` holds. -/
structure Interval where
  low : Nat
  middle : Nat
  high : Nat
  exponent : Int
  closed : Bool

def Binary.interval (b : Binary) : Interval where
  low := 4 * b.mantissa - (if b.startsBinade then 1 else 2)
  middle := 4 * b.mantissa
  high := 4 * b.mantissa + 2
  exponent := b.exponent - 2
  closed := b.mantissa % 2 = 0

/-- `n * 2 ^ two * 10 ^ ten` as a fraction. -/
def scaled (n : Nat) (two ten : Int) : Nat × Nat :=
  (n * Nat.pow 2 two.toNat * Nat.pow 10 ten.toNat, Nat.pow 2 (-two).toNat * Nat.pow 10 (-ten).toNat)

def Interval.holds (i : Interval) (candidate : Nat) (ten : Int) : Bool :=
  let (low, den) := scaled i.low i.exponent (-ten)
  let (high, _) := scaled i.high i.exponent (-ten)
  if i.closed then low ≤ candidate * den && candidate * den ≤ high
  else low < candidate * den && candidate * den < high

/-- Of the two grid points next to the middle, the one in the interval that is nearer to it; a
tie goes to the even point. -/
def Interval.gridPoint? (i : Interval) (ten : Int) : Option Nat :=
  let (middle, den) := scaled i.middle i.exponent (-ten)
  let below := middle / den
  let twice := 2 * (middle % den)
  let belowIsNearer := if twice = den then below % 2 = 0 else twice < den
  match i.holds below ten && 0 < below, i.holds (below + 1) ten with
  | true, true => some (if belowIsNearer then below else below + 1)
  | true, false => some below
  | false, true => some (below + 1)
  | false, false => none

/-- The power of ten of the leading digit of a positive number. -/
def Interval.leadingPower (i : Interval) : Int :=
  let (middle, den) := scaled i.middle i.exponent 0
  if den ≤ middle then (digitCount (middle / den) : Int) - 1
  else
    match (List.range 400).find? fun power => den ≤ middle * Nat.pow 10 power with
    | some power => -(power : Int)
    | none => -400

def dropZeros : (fuel digits : Nat) → (ten : Int) → Nat × Int
  | 0, digits, ten => (digits, ten)
  | fuel + 1, digits, ten =>
    if digits % 10 = 0 && 0 < digits then dropZeros fuel (digits / 10) (ten + 1) else (digits, ten)

/-- Digits and power of ten of the shortest decimal; seventeen digits always suffice. -/
def shortest (bits : Nat) : Nat × Int :=
  let i := (Binary.ofBits bits).interval
  let top := i.leadingPower
  let found := (List.range 17).findSome? fun (n : Nat) =>
    let ten := top - (n : Int)
    (i.gridPoint? ten).map fun digits => (digits, ten)
  let (digits, ten) := found.getD (0, 0)
  dropZeros 18 digits ten

end SymbolIndex.Decimal
