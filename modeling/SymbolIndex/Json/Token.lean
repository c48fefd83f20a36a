import SymbolIndex.Value
import SymbolIndex.Decimal.Reading

/-! Tokens of a JSON document. Strings are read to their closing quote, numbers and words as far
as they reach; blanks between tokens have no meaning. -/
namespace SymbolIndex.Json

inductive Token
  | openList | closeList | openTable | closeTable | comma | colon
  | scalar (value : Value)

/-- The four blanks that may stand between tokens. -/
def isSpace (c : Char) : Bool := c = ' ' || c = '\t' || c = '\n' || c = '\r'

def hexDigit? (c : Char) : Option Nat :=
  if '0' ≤ c && c ≤ '9' then some (c.toNat - '0'.toNat)
  else if 'a' ≤ c && c ≤ 'f' then some (c.toNat - 'a'.toNat + 10)
  else if 'A' ≤ c && c ≤ 'F' then some (c.toNat - 'A'.toNat + 10)
  else none

def hex4? (a b c d : Char) : Option Nat := do
  let a ← hexDigit? a
  let b ← hexDigit? b
  let c ← hexDigit? c
  let d ← hexDigit? d
  some (((a * 16 + b) * 16 + c) * 16 + d)

def escaped? : Char → Option Char
  | '"' => some '"'
  | '\\' => some '\\'
  | '/' => some '/'
  | 'b' => some '\x08'
  | 'f' => some '\x0c'
  | 'n' => some '\n'
  | 'r' => some '\r'
  | 't' => some '\t'
  | _ => none

/-- Whether a 16-bit unit is the first or the second half of a surrogate pair. -/
def isHighHalf (n : Nat) : Bool := 0xD800 ≤ n && n < 0xDC00

def isLowHalf (n : Nat) : Bool := 0xDC00 ≤ n && n < 0xE000

def readUnit? : Text → Option Nat
  | 'u' :: a :: b :: c :: d :: _ => hex4? a b c d
  | _ => none

/-- The character that an escape stands for, and how many characters after the backslash write
it. The second half of a surrogate pair must follow the first; halves alone are refused. -/
def readEscape? (source : Text) : Option (Char × Nat) :=
  match source with
  | 'u' :: _ => do
    let unit ← readUnit? source
    if isHighHalf unit then
      if source.drop 5 |>.head? |>.all (· ≠ '\\') then none
      let second ← readUnit? (source.drop 6)
      if isLowHalf second then
        some (Char.ofNat (0x10000 + (unit - 0xD800) * 0x400 + (second - 0xDC00)), 11)
      else none
    else if isLowHalf unit then none
    else some (Char.ofNat unit, 5)
  | letter :: _ => (escaped? letter).map fun c => (c, 1)
  | [] => none

/-- The body of a string and what follows its closing quote, once `skip` characters of an escape
are passed. Control characters are refused. -/
def readString? (skip : Nat) : Text → Option (Text × Text)
  | [] => none
  | c :: rest =>
    match skip with
    | left + 1 => readString? left rest
    | 0 =>
      if c = '"' then some ([], rest)
      else if c = '\\' then
        match readEscape? rest with
        | some (meant, length) =>
          (readString? length rest).map fun (body, after) => (meant :: body, after)
        | none => none
      else if c.toNat < 0x20 then none
      else (readString? 0 rest).map fun (body, after) => (c :: body, after)

def digitsValue (digits : Text) : Nat :=
  digits.foldl (fun n c => 10 * n + (c.toNat - '0'.toNat)) 0

/-- An optional run of digits after `mark`, which must not be empty when the mark is there. -/
def readFraction? (source : Text) : Option (Text × Text) :=
  match source with
  | '.' :: rest =>
    let digits := rest.takeWhile Char.isDigit
    if digits.isEmpty then none else some (digits, rest.drop digits.length)
  | _ => some ([], source)

def readExponent? (source : Text) : Option (Option Int × Text) :=
  match source with
  | c :: rest =>
    if c = 'e' || c = 'E' then
      let signed := match rest with
        | '+' :: more => (false, more)
        | '-' :: more => (true, more)
        | _ => (false, rest)
      let digits := signed.2.takeWhile Char.isDigit
      if digits.isEmpty then none
      else
        let n : Int := digitsValue digits
        some (some (if signed.1 then -n else n), signed.2.drop digits.length)
    else some (none, source)
  | [] => some (none, source)

/-- A number and what follows it: an integer unless it has a fraction or an exponent. A leading
zero stands alone, and a number too large for a finite decimal is refused. -/
def readNumber? (source : Text) : Option (Value × Text) := do
  let (negative, unsigned) := match source with
    | '-' :: rest => (true, rest)
    | _ => (false, source)
  let whole := unsigned.takeWhile Char.isDigit
  if whole.isEmpty || (whole.head? = some '0' && 1 < whole.length) then none
  let (fraction, afterFraction) ← readFraction? (unsigned.drop whole.length)
  let (exponent, rest) ← readExponent? afterFraction
  if fraction.isEmpty && exponent.isNone then
    let n : Int := digitsValue whole
    some (.integer (if negative then -n else n), rest)
  else
    let x := Decimal.nearest negative (digitsValue (whole ++ fraction))
      (exponent.getD 0 - fraction.length)
    if Decimal.isFinite x then some (.decimal x, rest) else none

def readWord? (source : Text) : Option (Value × Text) :=
  match source with
  | 't' :: 'r' :: 'u' :: 'e' :: rest => some (.boolean true, rest)
  | 'f' :: 'a' :: 'l' :: 's' :: 'e' :: rest => some (.boolean false, rest)
  | 'n' :: 'u' :: 'l' :: 'l' :: rest => some (.null, rest)
  | _ => none

/-- One token and what follows it; `source` starts with no blank. -/
def readToken? (source : Text) : Option (Token × Text) :=
  match source with
  | [] => none
  | '[' :: rest => some (.openList, rest)
  | ']' :: rest => some (.closeList, rest)
  | '{' :: rest => some (.openTable, rest)
  | '}' :: rest => some (.closeTable, rest)
  | ',' :: rest => some (.comma, rest)
  | ':' :: rest => some (.colon, rest)
  | '"' :: rest => (readString? 0 rest).map fun (body, rest) => (.scalar (.text body), rest)
  | c :: _ =>
    let read := if c = '-' || c.isDigit then readNumber? source else readWord? source
    read.map fun (value, rest) => (.scalar value, rest)

/-- All tokens of a document. A token that would not shorten the document ends the reading. -/
def tokens? (source : Text) : Option (List Token) :=
  let begun := source.dropWhile isSpace
  match begun with
  | [] => some []
  | _ :: _ =>
    match readToken? begun with
    | none => none
    | some (token, rest) =>
      if rest.length < source.length then (tokens? rest).map (token :: ·) else none
termination_by source.length

end SymbolIndex.Json
