/-! The binary number nearest to a written decimal. -/
namespace SymbolIndex.Decimal

/-- Number of decimal digits of a natural number; zero has none. -/
def digitCount (n : Nat) : Nat := if n = 0 then 0 else (Nat.toDigits 10 n).length

/-- The number nearest to `digits` times the given power of ten. Numbers far beyond the largest
or the smallest are settled by their size alone. -/
def nearest (negative : Bool) (digits : Nat) (exponent : Int) : Float :=
  let size : Int := digitCount digits + exponent
  let magnitude : Float :=
    if digits = 0 || size < -400 then 0
    else if 400 < size then 1.0 / 0.0
    else if 0 ≤ exponent then Float.ofScientific (digits * Nat.pow 10 exponent.toNat) false 0
    else Float.ofScientific digits true (-exponent).toNat
  if negative then -magnitude else magnitude

def isFinite (x : Float) : Bool := x.toBits.toNat / Nat.pow 2 52 % Nat.pow 2 11 ≠ 2047

end SymbolIndex.Decimal
