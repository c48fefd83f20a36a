import SymbolIndex.Text.Basic

/-! Shell patterns for whole texts: a star stands for any run of characters, a question mark for
one, and brackets for one of a set. No character is special to a star, not even a slash. -/
namespace SymbolIndex.Glob

/-- A set of characters as inclusive ranges, or all characters outside them. -/
structure CharSet where
  negated : Bool
  ranges : List (Char × Char)
deriving DecidableEq

def CharSet.holds (set : CharSet) (c : Char) : Bool :=
  (set.ranges.any fun (first, last) => first ≤ c && c ≤ last) != set.negated

inductive Part
  | anyRun
  | one
  | literal (c : Char)
  | set (chars : CharSet)
  | never
deriving DecidableEq

def Part.accepts : Part → Char → Bool
  | .anyRun, _ => false
  | .one, _ => true
  | .literal expected, c => expected = c
  | .set chars, c => chars.holds c
  | .never, _ => false

def suffixes : Text → List Text
  | [] => [[]]
  | c :: rest => (c :: rest) :: suffixes rest

def covers : List Part → Text → Bool
  | [], text => text.isEmpty
  | .anyRun :: parts, text => (suffixes text).any (covers parts)
  | _ :: _, [] => false
  | part :: parts, c :: rest => part.accepts c && covers parts rest

/-- Length of the body of a set whose opening bracket has been read, if a bracket closes it. An
exclamation mark at the start and a closing bracket right after it belong to the body. -/
def bodyLength? (source : Text) : Option Nat :=
  let mark := if source.head? = some '!' then 1 else 0
  let bracket := if (source.drop mark).head? = some ']' then 1 else 0
  let start := mark + bracket
  let length := ((source.drop start).takeWhile (· ≠ ']')).length
  if start + length < source.length then some (start + length) else none

/-- Cut a set body at the hyphens that make ranges: the first may stand at index `from` or later,
each further one at least three characters after the one before. -/
def cutAtHyphens (fuel : Nat) (search : Nat) (body : Text) : List Text :=
  match fuel with
  | 0 => [body]
  | fuel + 1 =>
    let ahead := ((body.drop search).takeWhile (· ≠ '-')).length
    let hyphen := search + ahead
    if hyphen < body.length then
      body.take hyphen :: cutAtHyphens fuel 2 (body.drop (hyphen + 1))
    else [body]

/-- A hyphen at the very end of a body makes no range: it belongs to the last piece. -/
def keepLastHyphen : List Text → List Text
  | [] => []
  | [piece] => [piece]
  | [piece, []] => [piece ++ ['-']]
  | piece :: rest => piece :: keepLastHyphen rest

/-- Join neighbouring pieces whose range would run backwards, leaving out its two ends. -/
def dropEmptyRanges : List Text → List Text
  | [] => []
  | piece :: rest =>
    match dropEmptyRanges rest with
    | [] => [piece]
    | next :: more =>
      match piece.getLast?, next.head? with
      | some low, some high =>
        if high < low then (piece.dropLast ++ next.drop 1) :: more else piece :: next :: more
      | _, _ => piece :: next :: more

/-- The ranges written by pieces: one from the last character of a piece to the first of the next,
and every other character on its own. -/
def rangesOf : List Text → List (Char × Char)
  | [] => []
  | piece :: rest =>
    let alone := piece.map fun c => (c, c)
    match piece.getLast?, rest with
    | some low, next :: _ =>
      match next.head? with
      | some high => alone ++ (low, high) :: rangesOf rest
      | none => alone ++ rangesOf rest
    | _, _ => alone ++ rangesOf rest

/-- The part that a set body stands for. A set that lost all its ranges accepts nothing, or
everything when it is negated. -/
def setPart (body : Text) : Part :=
  let pieces :=
    if '-' ∈ body then
      dropEmptyRanges (keepLastHyphen
        (cutAtHyphens body.length (if body.head? = some '!' then 2 else 1) body))
    else [body]
  match pieces with
  | [] | [[]] => .never
  | [['!']] => .one
  | ('!' :: first) :: rest => .set ⟨true, rangesOf (first :: rest)⟩
  | _ => .set ⟨false, rangesOf pieces⟩

/-- The parts of a pattern, once `skip` characters of a set are passed. -/
def partsFrom (skip : Nat) : Text → List Part
  | [] => []
  | c :: rest =>
    match skip with
    | left + 1 => partsFrom left rest
    | 0 =>
      if c = '*' then
        match partsFrom 0 rest with
        | .anyRun :: parts => .anyRun :: parts
        | parts => .anyRun :: parts
      else if c = '?' then .one :: partsFrom 0 rest
      else if c = '[' then
        match bodyLength? rest with
        | some length => setPart (rest.take length) :: partsFrom (length + 1) rest
        | none => .literal c :: partsFrom 0 rest
      else .literal c :: partsFrom 0 rest

def matchesText (pattern text : Text) : Bool := covers (partsFrom 0 pattern) text

def matchesAny (text : Text) (patterns : List Text) : Bool := patterns.any (matchesText · text)

end SymbolIndex.Glob
