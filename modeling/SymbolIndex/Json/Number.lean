import SymbolIndex.Decimal.Shortest

/-! Written decimals: the shortest digits that read back, positional as long as the point falls
within sixteen digits or at most four zeros follow it. -/
namespace SymbolIndex.Json

/-- Place the point in a run of digits whose last digit has the given power of ten. -/
def placePoint (digits : Text) (ten : Int) : Text :=
  let count : Int := digits.length
  let point := count + ten
  if 0 ≤ ten && point ≤ 16 then digits ++ List.replicate ten.toNat '0' ++ ['.', '0']
  else if 0 < point && point ≤ 16 then digits.take point.toNat ++ '.' :: digits.drop point.toNat
  else if -5 < point && point ≤ 0 then
    ['0', '.'] ++ List.replicate (-point).toNat '0' ++ digits
  else
    let fraction := if digits.length = 1 then [] else '.' :: digits.drop 1
    digits.take 1 ++ fraction ++ 'e' :: Text.ofInt (point - 1)

/-- The text of a decimal; one that is not a number, or infinite, is written as `null`. -/
def renderDecimal (x : Float) : Text :=
  let bits := x.toBits.toNat
  let sign := if bits < Nat.pow 2 63 then [] else ['-']
  if !Decimal.isFinite x then "null".toList
  else if bits % Nat.pow 2 63 = 0 then sign ++ "0.0".toList
  else
    let (digits, ten) := Decimal.shortest bits
    sign ++ placePoint (Text.ofNat digits) ten

end SymbolIndex.Json
