import SymbolIndex.Text.UnprintableTable

/-! Texts between quotes, as messages show them: what has no visible form is escaped. -/
namespace SymbolIndex.Text

def isPrintable (c : Char) : Bool :=
  if c.toNat < 0x7F then 0x20 ≤ c.toNat else !unprintableRanges.any (·.holds c)

def hexDigits : (count n : Nat) → Text
  | 0, _ => []
  | count + 1, n => hexDigits count (n / 16) ++ [Nat.digitChar (n % 16)]

/-- One character between the given quotes. -/
def quotedChar (quote c : Char) : Text :=
  if c = quote || c = '\\' then ['\\', c]
  else if c = '\t' then ['\\', 't']
  else if c = '\n' then ['\\', 'n']
  else if c = '\r' then ['\\', 'r']
  else if isPrintable c then [c]
  else if c.toNat < 0x100 then '\\' :: 'x' :: hexDigits 2 c.toNat
  else if c.toNat < 0x10000 then '\\' :: 'u' :: hexDigits 4 c.toNat
  else '\\' :: 'U' :: hexDigits 8 c.toNat

/-- A text between single quotes, or between double quotes when only single ones occur in it. -/
def quoted (text : Text) : Text :=
  let quote := if '\'' ∈ text && '"' ∉ text then '"' else '\''
  quote :: text.flatMap (quotedChar quote) ++ [quote]

end SymbolIndex.Text
