import SymbolIndex.Json.Token

/-! Strings of TOML documents: basic ones with escapes and literal ones without, on one line or on
several. Control characters other than tabs are refused everywhere, newlines on single lines. -/
namespace SymbolIndex.Toml

def isSpace (c : Char) : Bool := c = ' ' || c = '\t'

/-- Characters that no comment and no single-line string may hold. -/
def isControl (c : Char) : Bool := (c.toNat < 0x20 && c ≠ '\t') || c.toNat = 0x7F

/-- Characters that no string of several lines may hold. -/
def isControlInLines (c : Char) : Bool := isControl c && c ≠ '\n'

def dropSpaces (source : Text) : Text := source.dropWhile isSpace

def escaped? : Char → Option Char
  | 'b' => some '\x08'
  | 't' => some '\t'
  | 'n' => some '\n'
  | 'f' => some '\x0c'
  | 'r' => some '\r'
  | '"' => some '"'
  | '\\' => some '\\'
  | _ => none

/-- The scalar value written by exactly `count` hexadecimal digits. -/
def codePoint? (count : Nat) (source : Text) : Option Char := do
  let digits := source.take count
  if digits.length < count then none
  let values ← digits.mapM Json.hexDigit?
  let n := values.foldl (fun n d => 16 * n + d) 0
  if n < 0xD800 || (0xDFFF < n && n < 0x110000) then some (Char.ofNat n) else none

/-- What follows a backslash: the text it stands for and how many characters write it. In strings
of several lines a backslash before a line break drops the break and the blanks after it. -/
def readEscape? (severalLines : Bool) (source : Text) : Option (Text × Nat) :=
  match source with
  | [] => none
  | c :: rest =>
    if severalLines && (isSpace c || c = '\n') then
      let spaces := (source.takeWhile isSpace).length
      match source.drop spaces with
      | [] => some ([], spaces)
      | next :: after =>
        if next = '\n' then
          some ([], spaces + 1 + (after.takeWhile fun c => isSpace c || c = '\n').length)
        else none
    else if c = 'u' then (codePoint? 4 rest).map fun c => ([c], 5)
    else if c = 'U' then (codePoint? 8 rest).map fun c => ([c], 9)
    else (escaped? c).map fun c => ([c], 1)

/-- The body of a basic string and what follows its closing quotes, once `skip` characters of an
escape are passed. -/
def readBasic? (severalLines : Bool) (skip : Nat) : Text → Option (Text × Text)
  | [] => none
  | c :: rest =>
    match skip with
    | left + 1 => readBasic? severalLines left rest
    | 0 =>
      if c = '"' && !severalLines then some ([], rest)
      else if c = '"' && ['"', '"'].isPrefixOf rest then some ([], rest.drop 2)
      else if c = '\\' then
        match readEscape? severalLines rest with
        | some (meant, length) =>
          (readBasic? severalLines length rest).map fun (body, after) => (meant ++ body, after)
        | none => none
      else if (if severalLines then isControlInLines c else isControl c) then none
      else (readBasic? severalLines 0 rest).map fun (body, after) => (c :: body, after)

/-- The body of a literal string of several lines and what follows its first three quotes. -/
def readLiteralLines? : Text → Option (Text × Text)
  | [] => none
  | c :: rest =>
    if ['\'', '\'', '\''].isPrefixOf (c :: rest) then some ([], rest.drop 2)
    else if isControlInLines c then none
    else (readLiteralLines? rest).map fun (body, after) => (c :: body, after)

/-- The body of a literal string on one line and what follows its quote. -/
def readLiteral? (source : Text) : Option (Text × Text) :=
  let body := source.takeWhile (· ≠ '\'')
  if body.length < source.length && !body.any isControl then
    some (body, source.drop (body.length + 1))
  else none

/-- Up to two quotes right after the closing ones still belong to a string of several lines. -/
def withExtraQuotes (quote : Char) (read : Text × Text) : Text × Text :=
  let extra := (read.2.take 2).takeWhile (· = quote)
  (read.1 ++ extra, read.2.drop extra.length)

/-- A line break right after the opening quotes is not part of the string. -/
def dropFirstBreak (source : Text) : Text :=
  if source.head? = some '\n' then source.drop 1 else source

def readString? (source : Text) : Option (Text × Text) :=
  if ['"', '"', '"'].isPrefixOf source then
    (readBasic? true 0 (dropFirstBreak (source.drop 3))).map (withExtraQuotes '"')
  else if source.head? = some '"' then readBasic? false 0 (source.drop 1)
  else if ['\'', '\'', '\''].isPrefixOf source then
    (readLiteralLines? (dropFirstBreak (source.drop 3))).map (withExtraQuotes '\'')
  else if source.head? = some '\'' then readLiteral? (source.drop 1)
  else none

end SymbolIndex.Toml
