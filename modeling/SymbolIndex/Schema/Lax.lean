import SymbolIndex.Schema.Package
import SymbolIndex.Text.Digit
import SymbolIndex.Decimal.Reading

/-! A lax schema library: integers and truth values may be spelled as such, as decimals without a
fraction, or as texts. -/
namespace SymbolIndex
namespace Schema

/-- Digits in groups, with single underscores between them. -/
def groupedDigits? (source : Text) : Option Nat :=
  let groups := Text.splitAt '_' source
  if groups.all fun group => !group.isEmpty && group.all Char.isDigit then
    some (groups.flatten.foldl (fun n c => 10 * n + (c.toNat - '0'.toNat)) 0)
  else none

/-- The integer a text spells: a sign, digits, and a fraction of zeros, each but the digits
optional. -/
def spelledInt? (source : Text) : Option Int :=
  let trimmed := source.trim Text.isNumberSpace
  let (negative, unsigned) := match trimmed with
    | '-' :: rest => (true, rest)
    | '+' :: rest => (false, rest)
    | _ => (false, trimmed)
  let whole := unsigned.takeWhile (· ≠ '.')
  let fraction := unsigned.drop whole.length
  if fraction.isEmpty || (1 < fraction.length && (fraction.drop 1).all (· = '0')) then
    (groupedDigits? whole).map fun n => if negative then -(n : Int) else n
  else none

/-- The integer a finite decimal stands for, if it has no fraction. -/
def integral? (x : Float) : Option Int :=
  let bits := x.toBits.toNat
  let fraction := bits % Nat.pow 2 52
  let field := bits / Nat.pow 2 52 % Nat.pow 2 11
  let mantissa := if field = 0 then fraction else Nat.pow 2 52 + fraction
  let up := field - 1075
  let down := 1075 - max field 1
  let magnitude : Nat := mantissa * Nat.pow 2 up
  if mantissa = 0 then some 0
  else if 1075 ≤ field then some (if bits < Nat.pow 2 63 then magnitude else -(magnitude : Int))
  else if mantissa % Nat.pow 2 down = 0 then
    let n : Nat := mantissa / Nat.pow 2 down
    some (if bits < Nat.pow 2 63 then n else -(n : Int))
  else none

/-- Whether a number has at most 64 bits, its sign included. The least one does not count. -/
def fitsWord (n : Int) : Bool := -Nat.pow 2 63 < n && n < Nat.pow 2 63

/-- The integer a decimal stands for, which must fit 64 bits. -/
def readIntegral (x : Float) : Checked Int :=
  if !Decimal.isFinite x then .fault .finiteNumber
  else match integral? x with
    | some n => if fitsWord n then .accepted n else .fault .intParsingSize
    | none => .fault .intFromFloat

def laxInt : Value → Checked Int
  | .integer n => .accepted n
  | .boolean b => .accepted (if b then 1 else 0)
  | .decimal x => readIntegral x
  | .text s =>
    match spelledInt? s with
    | some n => if Text.maxDigits < s.length then .fault .intParsingSize else .accepted n
    | none => .fault .intParsing
  | _ => .fault .intType

/-- Spellings of the truth values, compared without regard to the case of ASCII letters. -/
def trueWords : List Text := ["1", "on", "t", "true", "y", "yes"].map String.toList

def falseWords : List Text := ["0", "off", "f", "false", "n", "no"].map String.toList

def boolOfInt : Int → Checked Bool
  | 0 => .accepted false
  | 1 => .accepted true
  | _ => .fault .boolParsing

/-- A truth value. Numbers that are no integers of 64 bits are of the wrong type altogether. -/
def laxBool : Value → Checked Bool
  | .boolean b => .accepted b
  | .integer n =>
    if fitsWord n || n = -Nat.pow 2 63 then boolOfInt n else .fault .boolType
  | .decimal x =>
    match readIntegral x with
    | .accepted n => boolOfInt n
    | .rejected _ => .fault .boolType
  | .text s =>
    let lowered := s.map Char.toLower
    if trueWords.contains lowered then .accepted true
    else if falseWords.contains lowered then .accepted false
    else .fault .boolParsing
  | _ => .fault .boolType

def laxText : Value → Checked Text
  | .text s => .accepted s
  | _ => .fault .stringType

def laxChoice {α : Type} (choices : List (Text × α)) : Value → Checked α
  | .text name =>
    match choices.find? (·.1 = name) with
    | some choice => .accepted choice.2
    | none => .fault .unknownName
  | _ => .fault .unknownName

def itemsOr (kind : FaultKind) : Value → Checked (List Value)
  | .list items => .accepted items
  | _ => .fault kind

def entriesOr (kind : FaultKind) : Value → Checked (List (Text × Value))
  | .table entries => .accepted entries
  | _ => .fault kind

end Schema

namespace Installed
open Schema

scoped instance schemaPackage : Schema.Package where
  readText := laxText
  readInt := laxInt
  readBool := laxBool
  readChoice := laxChoice
  listItems := itemsOr .listType
  tupleItems := itemsOr .tupleType
  dictEntries := entriesOr .dictType
  modelFields := entriesOr .modelType

end Installed
end SymbolIndex
