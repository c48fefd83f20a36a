import SymbolIndex.Ignore.Rule

/-! Rules from the lines of an ignore file. -/
namespace SymbolIndex.Ignore

/-- A run of two or more stars stays two stars where slashes or the ends enclose it; any other run
becomes one star. `opens` tells whether a slash or the start precedes, `inRun` whether a star
does. -/
def normaliseStars (opens inRun : Bool) : Text → Text
  | [] => []
  | c :: rest =>
    if c = '*' then
      if inRun then normaliseStars opens true rest
      else
        let run := rest.takeWhile (· = '*')
        let enclosed := opens && (rest.drop run.length).head?.all (· = '/')
        (if !run.isEmpty && enclosed then ['*', '*'] else ['*']) ++ normaliseStars false true rest
    else c :: normaliseStars (c = '/') false rest

/-- Cut trailing spaces, from index `i` down to the third character. A backslash before a space
keeps the space, goes itself, and ends the cutting. -/
def cutSpaces (cutting : Bool) (pattern : Text) : Nat → Text
  | 0 => pattern
  | 1 => pattern
  | i + 2 =>
    if pattern[i + 2]? = some ' ' then
      if pattern[i + 1]? = some '\\' then
        cutSpaces false (pattern.take (i + 1) ++ pattern.drop (i + 2)) i
      else cutSpaces cutting (if cutting then pattern.take (i + 2) else pattern) (i + 1)
    else pattern

def setRanges : Text → List (Char × Char)
  | low :: '-' :: high :: rest => (low, high) :: setRanges rest
  | c :: rest => (c, c) :: setRanges rest
  | [] => []

/-- The set that a body stands for; slashes in it do not count, and there must be something
else. -/
def setOfBody? (body : Text) : Option Glob.CharSet :=
  match body.filter (· ≠ '/') with
  | [] => none
  | '!' :: rest => some ⟨true, setRanges rest⟩
  | members => some ⟨false, setRanges members⟩

/-- The parts of a pattern, once `skip` characters of a set or a run of stars are passed. -/
def parts? (skip : Nat) : Text → Option (List Part)
  | [] => some []
  | c :: rest =>
    match skip with
    | left + 1 => parts? left rest
    | 0 =>
      if c = '*' then
        if rest.head? = some '*' then
          if (rest.drop 1).head? = some '/' then (parts? 2 rest).map (.anyDirectories :: ·)
          else (parts? 1 rest).map (.anyDepth :: ·)
        else (parts? 0 rest).map (.withinName :: ·)
      else if c = '?' then (parts? 0 rest).map (.one :: ·)
      else if c = '[' then
        match Glob.bodyLength? rest with
        | some length =>
          match setOfBody? (rest.take length) with
          | some chars => (parts? (length + 1) rest).map (.set chars :: ·)
          | none => none
        | none => (parts? 0 rest).map (.literal c :: ·)
      else (parts? 0 rest).map (.literal c :: ·)

inductive LineReading
  | noRule
  | rule (rule : Rule)
  | malformed

def dropLeading (c : Char) (text : Text) : Text := if text.head? = some c then text.drop 1 else text

def dropTrailing (c : Char) (text : Text) : Text :=
  if text.getLast? = some c then text.dropLast else text

/-- The pattern of a rule from what is left of a line after slashes and marks. -/
def finishRule (negated anchored directoryOnly : Bool) (pattern : Text) : LineReading :=
  match parts? 0 (cutSpaces true pattern (pattern.length - 1)) with
  | none => .malformed
  | some parts =>
    .rule ⟨negated, anchored, parts,
      if !directoryOnly then .exact else if negated then .directory else .openEnded⟩

/-- Read a line without its newline. A pattern that runs out of characters on the way is
malformed. -/
def readLine (line : Text) : LineReading :=
  if Text.allBlank line || line.head? = some '#' then .noRule
  else
    let negated := line.head? = some '!'
    let pattern := normaliseStars true false (dropLeading '!' line)
    if (pattern.reverse.dropWhile Text.isBlank) = ['/'] then .noRule
    else
      let directoryOnly := pattern.getLast? = some '/'
      let rooted := dropLeading '/' pattern
      let deep := ['*', '*'].isPrefixOf rooted
      let anchored := '/' ∈ pattern.dropLast && !deep
      let unstarred := if deep then rooted.drop 2 else rooted
      let inner := dropLeading '/' unstarred
      let bare := dropTrailing '/' inner
      if pattern.isEmpty || rooted.isEmpty || unstarred.isEmpty || inner.isEmpty || bare.isEmpty ||
          bare = ['\\'] then .malformed
      else
        let escaped := bare.head? = some '\\' && (bare[1]? = some '#' || bare[1]? = some '!')
        finishRule negated anchored directoryOnly (if escaped then bare.drop 1 else bare)

end SymbolIndex.Ignore
