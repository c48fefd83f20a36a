import SymbolIndex.Toml.Text
import SymbolIndex.Text.Digit

/-! Numbers, dates and times of TOML documents. -/
namespace SymbolIndex.Toml

/-- Digits satisfying `p` in groups parted by single underscores: the first must be a digit. Gives
the digits and how many characters write them. -/
def groupedRun (p : Char → Bool) : Text → Text × Nat
  | [] => ([], 0)
  | c :: rest =>
    if p c then
      let later := groupedRun p rest
      (c :: later.1, later.2 + 1)
    else if c = '_' && rest.head?.any p then
      let later := groupedRun p rest
      (later.1, later.2 + 1)
    else ([], 0)

def digitRun (p : Char → Bool) (source : Text) : Text × Nat :=
  if source.head?.any p then groupedRun p source else ([], 0)

def isBinaryDigit (c : Char) : Bool := c = '0' || c = '1'
def isOctalDigit (c : Char) : Bool := '0' ≤ c && c ≤ '7'
def isHexDigit (c : Char) : Bool := (Json.hexDigit? c).isSome

def valueInBase (base : Nat) (digits : Text) : Nat :=
  digits.foldl (fun n c => base * n + (Json.hexDigit? c).getD 0) 0

def readBased? (source : Text) : Option (Value × Text) :=
  let read (base : Nat) (p : Char → Bool) (rest : Text) : Option (Value × Text) :=
    let (digits, length) := digitRun p rest
    if digits.isEmpty then none
    else some (.integer (valueInBase base digits), rest.drop length)
  match source with
  | '0' :: 'x' :: rest => read 16 isHexDigit rest
  | '0' :: 'b' :: rest => read 2 isBinaryDigit rest
  | '0' :: 'o' :: rest => read 8 isOctalDigit rest
  | _ => none

/-- The part of a decimal after a mark, when digits follow the mark. -/
def readFraction (source : Text) : Text × Text :=
  match source with
  | '.' :: rest =>
    let (digits, length) := digitRun Char.isDigit rest
    if digits.isEmpty then ([], source) else (digits, rest.drop length)
  | _ => ([], source)

def readExponent (source : Text) : Option Int × Text :=
  match source with
  | c :: rest =>
    if c = 'e' || c = 'E' then
      let signed := match rest with
        | '+' :: more => (false, more)
        | '-' :: more => (true, more)
        | _ => (false, rest)
      let (digits, length) := digitRun Char.isDigit signed.2
      if digits.isEmpty then (none, source)
      else
        let n : Int := Json.digitsValue digits
        (some (if signed.1 then -n else n), signed.2.drop length)
    else (none, source)
  | [] => (none, source)

def readSign : Text → Bool × Text
  | '+' :: rest => (false, rest)
  | '-' :: rest => (true, rest)
  | source => (false, source)

inductive Fault
  | malformed
  | longInteger (digits : Nat)

def orMalformed {α : Type} : Option α → Except Fault α
  | some value => .ok value
  | none => .error .malformed

/-- A decimal number: an integer unless it has a fraction or an exponent. A leading zero stands
alone, and an integer may be too long. -/
def readDecimal? (source : Text) : Option (Except Fault (Value × Text)) :=
  let (negative, unsigned) := readSign source
  let (whole, length) :=
    if unsigned.head? = some '0' then (['0'], 1) else digitRun Char.isDigit unsigned
  if whole.isEmpty then none
  else
    let (fraction, afterFraction) := readFraction (unsigned.drop length)
    let (exponent, rest) := readExponent afterFraction
    if fraction.isEmpty && exponent.isNone then
      if Text.maxDigits < whole.length then some (.error (.longInteger whole.length))
      else
        let n : Int := Json.digitsValue whole
        some (.ok (.integer (if negative then -n else n), rest))
    else
      some (.ok (.decimal (Decimal.nearest negative (Json.digitsValue (whole ++ fraction))
        (exponent.getD 0 - fraction.length)), rest))

/-- The words for what is no finite number, with an optional sign. -/
def readSpecial? (source : Text) : Option (Value × Text) :=
  let (negative, unsigned) := readSign source
  let infinity : Float := 1.0 / 0.0
  if "inf".toList.isPrefixOf unsigned then
    some (.decimal (if negative then -infinity else infinity), unsigned.drop 3)
  else if "nan".toList.isPrefixOf unsigned then some (.decimal (0.0 / 0.0), unsigned.drop 3)
  else none

def readTwo? (low high : Nat) (source : Text) : Option (Nat × Text) :=
  let digits := source.take 2
  let n := Json.digitsValue digits
  if digits.length = 2 && digits.all Char.isDigit && low ≤ n && n ≤ high then
    some (n, source.drop 2)
  else none

def readMark? (marks : List Char) (source : Text) : Option Text :=
  if source.head?.any (· ∈ marks) then some (source.drop 1) else none

/-- A time of day with an optional fraction of a second; what follows it. -/
def afterTime? (source : Text) : Option Text := do
  let (_, rest) ← readTwo? 0 23 source
  let rest ← readMark? [':'] rest
  let (_, rest) ← readTwo? 0 59 rest
  let rest ← readMark? [':'] rest
  let (_, rest) ← readTwo? 0 59 rest
  match rest with
  | '.' :: more =>
    let digits := more.takeWhile Char.isDigit
    some (if digits.isEmpty then rest else more.drop digits.length)
  | _ => some rest

/-- What follows an optional offset from universal time. -/
def afterOffset (source : Text) : Text :=
  let offset : Option Text := do
    let rest ← readMark? ['+', '-'] source
    let (_, rest) ← readTwo? 0 23 rest
    let rest ← readMark? [':'] rest
    let (_, rest) ← readTwo? 0 59 rest
    some rest
  ((readMark? ['Z', 'z'] source).or offset).getD source

def daysInMonth (year month : Nat) : Nat :=
  if month = 2 then
    if year % 4 = 0 && (year % 100 ≠ 0 || year % 400 = 0) then 29 else 28
  else if month = 4 || month = 6 || month = 9 || month = 11 then 30
  else 31

/-- How a date reads: not at all, as one that the calendar lacks, or as one with what follows. -/
inductive DateReading
  | none
  | impossible
  | date (rest : Text)

/-- A date, perhaps with a time of day and an offset. -/
def readDate (source : Text) : DateReading :=
  let year := source.take 4
  let date : Option (Nat × Nat × Text) := do
    if year.length < 4 || !year.all Char.isDigit then failure
    let rest ← readMark? ['-'] (source.drop 4)
    let (month, rest) ← readTwo? 1 12 rest
    let rest ← readMark? ['-'] rest
    let (day, rest) ← readTwo? 1 31 rest
    some (month, day, rest)
  match date with
  | none => .none
  | some (month, day, rest) =>
    let n := Json.digitsValue year
    if n = 0 || daysInMonth n month < day then .impossible
    else
      match (readMark? ['T', 't', ' '] rest).bind afterTime? with
      | some timed => .date (afterOffset timed)
      | none => .date rest

def between (source rest : Text) : Text := source.take (source.length - rest.length)

/-- A date, a time or a number, and what follows it. -/
def readScalar (source : Text) : Except Fault (Value × Text) :=
  match readDate source with
  | .impossible => .error .malformed
  | .date rest => .ok (.moment (between source rest), rest)
  | .none =>
    match afterTime? source with
    | some rest => .ok (.moment (between source rest), rest)
    | none =>
      match readBased? source, readDecimal? source with
      | some read, _ => .ok read
      | none, some read => read
      | none, none => orMalformed (readSpecial? source)

end SymbolIndex.Toml
