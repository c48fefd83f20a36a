import SymbolIndex.Toml.Scalar

/-! Whole TOML documents: keys, arrays, inline tables and the statements that build up nested
tables. Marks on key paths keep tables from being opened twice and written values from being
changed. -/
namespace SymbolIndex.Toml

inductive MarkKind
  | frozen
  | opened
deriving DecidableEq

structure Mark where
  path : List Text
  kind : MarkKind
  deep : Bool
deriving DecidableEq

def isMarked (marks : List Mark) (kind : MarkKind) (path : List Text) : Bool :=
  marks.any fun mark =>
    mark.kind = kind && (mark.path = path || (mark.deep && mark.path.isPrefixOf path))

/-- Change the table at a path, creating tables on the way. An array of tables stands for its last
table if `arrays` holds; any other value stops the way. -/
def editTable? (arrays : Bool) (edit : List (Text × Value) → Option (List (Text × Value))) :
    List Text → List (Text × Value) → Option (List (Text × Value))
  | [], entries => edit entries
  | key :: path, entries =>
    match (entries.find? (·.1 = key)).map Prod.snd with
    | none => do
      let inner ← editTable? arrays edit path []
      some (Dictionary.putEntry key (.table inner) entries)
    | some (.table inner) => do
      let inner ← editTable? arrays edit path inner
      some (Dictionary.putEntry key (.table inner) entries)
    | some (.list items) =>
      match arrays, items.getLast? with
      | true, some (.table inner) => do
        let inner ← editTable? arrays edit path inner
        some (Dictionary.putEntry key (.list (items.dropLast ++ [.table inner])) entries)
      | _, _ => none
    | some _ => none

def addNew? (key : Text) (value : Value) (entries : List (Text × Value)) :
    Option (List (Text × Value)) :=
  if entries.any (·.1 = key) then none else some (Dictionary.putEntry key value entries)

def addTable? (key : Text) (entries : List (Text × Value)) : Option (List (Text × Value)) :=
  match (entries.find? (·.1 = key)).map Prod.snd with
  | none => some (Dictionary.putEntry key (.list [.table []]) entries)
  | some (.list items) => some (Dictionary.putEntry key (.list (items ++ [.table []])) entries)
  | some _ => none

def isBareKeyChar (c : Char) : Bool := c.isAlphanum || c = '-' || c = '_'

/-- What follows a comment; `none` when it holds a control character. -/
def afterComment? (source : Text) : Option Text :=
  if source.head? = some '#' then
    let body := source.takeWhile (· ≠ '\n')
    if (body.drop 1).any isControl then none else some (source.drop body.length)
  else some source

def readKeyPart? (source : Text) : Option (Text × Text) :=
  let bare := source.takeWhile isBareKeyChar
  if !bare.isEmpty then some (bare, source.drop bare.length)
  else
    match source with
    | '"' :: rest => readBasic? false 0 rest
    | '\'' :: rest => readLiteral? rest
    | _ => none

/-- The parts of a key, parted by points that blanks may surround. -/
def readKey? : (fuel : Nat) → Text → Option (List Text × Text)
  | 0, _ => none
  | fuel + 1, source => do
    let (part, rest) ← readKeyPart? source
    match dropSpaces rest with
    | '.' :: more =>
      let (parts, rest) ← readKey? fuel (dropSpaces more)
      some (part :: parts, rest)
    | rest => some ([part], rest)

/-- Drop blanks, line breaks and comments within an array. -/
def dropArrayGap? : (fuel : Nat) → Text → Option Text
  | 0, source => some source
  | fuel + 1, source =>
    let begun := source.dropWhile fun c => isSpace c || c = '\n'
    if begun.head? = some '#' then (afterComment? begun).bind (dropArrayGap? fuel) else some begun

/-- Whether a value is a table or an array, which nothing may be added to once it is written. -/
def isCompound : Value → Bool
  | .table _ => true
  | .list _ => true
  | _ => false

mutual

def readValue : (fuel : Nat) → Text → Except Fault (Value × Text)
  | 0, _ => .error .malformed
  | fuel + 1, source =>
    match source with
    | [] => .error .malformed
    | c :: rest =>
      if c = '"' || c = '\'' then do
        let (body, rest) ← orMalformed (readString? source)
        .ok (.text body, rest)
      else if c = '[' then do
        let begun ← orMalformed (dropArrayGap? fuel rest)
        let (items, rest) ← readItems fuel begun
        .ok (.list items, rest)
      else if c = '{' then
        match dropSpaces rest with
        | '}' :: after => .ok (.table [], after)
        | begun => do
          let (entries, rest) ← readPairs fuel [] [] begun
          .ok (.table entries, rest)
      else if "true".toList.isPrefixOf source then .ok (.boolean true, source.drop 4)
      else if "false".toList.isPrefixOf source then .ok (.boolean false, source.drop 5)
      else readScalar source

/-- The items of an array up to its closing bracket; a comma may follow the last one. -/
def readItems : (fuel : Nat) → Text → Except Fault (List Value × Text)
  | 0, _ => .error .malformed
  | fuel + 1, source =>
    if source.head? = some ']' then .ok ([], source.drop 1)
    else do
      let (value, rest) ← readValue fuel source
      let rest ← orMalformed (dropArrayGap? fuel rest)
      match rest with
      | ']' :: after => .ok ([value], after)
      | ',' :: more => do
        let begun ← orMalformed (dropArrayGap? fuel more)
        let (values, rest) ← readItems fuel begun
        .ok (value :: values, rest)
      | _ => .error .malformed

/-- The pairs of an inline table up to its closing brace; no comma may follow the last one. -/
def readPairs : (fuel : Nat) → List Mark → List (Text × Value) → Text →
    Except Fault (List (Text × Value) × Text)
  | 0, _, _, _ => .error .malformed
  | fuel + 1, marks, entries, source => do
    let (key, rest) ← orMalformed (readKey? fuel source)
    let rest ← orMalformed (readMark? ['='] rest)
    let (value, rest) ← readValue fuel (dropSpaces rest)
    if isMarked marks .frozen key then throw .malformed
    let entries ← orMalformed
      (editTable? false (addNew? (key.getLast?.getD []) value) key.dropLast entries)
    match dropSpaces rest with
    | '}' :: after => .ok (entries, after)
    | ',' :: more =>
      let marks := if isCompound value then ⟨key, .frozen, true⟩ :: marks else marks
      readPairs fuel marks entries (dropSpaces more)
    | _ => .error .malformed

end

/-- A document under construction: its tables, the marks on paths, those to be made at the next
table header, and the table that statements write to. -/
structure Draft where
  entries : List (Text × Value)
  marks : List Mark
  pending : List (List Text)
  header : List Text

def Draft.settle (draft : Draft) : Draft :=
  { draft with
    marks := draft.pending.map (⟨·, .opened, false⟩) ++ draft.marks
    pending := [] }

def Draft.openTable? (draft : Draft) (path : List Text) : Option Draft := do
  if isMarked draft.marks .opened path || isMarked draft.marks .frozen path then none
  let entries ← editTable? true some path draft.entries
  some { draft with entries := entries, marks := ⟨path, .opened, false⟩ :: draft.marks, header := path }

/-- Open a further table of an array. What was marked below the array concerns its earlier
tables. -/
def Draft.extendArray? (draft : Draft) (path : List Text) : Option Draft := do
  if isMarked draft.marks .frozen path then none
  let kept := draft.marks.filter fun mark => !path.isPrefixOf mark.path
  let entries ← editTable? true (addTable? (path.getLast?.getD [])) path.dropLast draft.entries
  some { draft with entries := entries, marks := ⟨path, .opened, false⟩ :: kept, header := path }

/-- The tables that a dotted key runs through, below the current one. -/
def Draft.passed (draft : Draft) (key : List Text) : List (List Text) :=
  (List.range (key.length - 1)).map fun i => draft.header ++ key.take (i + 1)

/-- Write a value under a key of the current table. -/
def Draft.assign? (draft : Draft) (key : List Text) (value : Value) : Option Draft := do
  let passed := draft.passed key
  if passed.any (isMarked draft.marks .opened) then none
  let parent := draft.header ++ key.dropLast
  if isMarked draft.marks .frozen parent then none
  let entries ← editTable? true (addNew? (key.getLast?.getD []) value) parent draft.entries
  some { draft with
    entries := entries
    pending := passed ++ draft.pending
    marks := if isCompound value then ⟨draft.header ++ key, .frozen, true⟩ :: draft.marks
      else draft.marks }

def readStatement (fuel : Nat) (draft : Draft) (source : Text) : Except Fault (Draft × Text) :=
  match source with
  | '[' :: '[' :: rest => orMalformed do
    let (path, rest) ← readKey? fuel (dropSpaces rest)
    let draft ← draft.settle.extendArray? path
    let rest ← readMark? [']'] rest
    let rest ← readMark? [']'] rest
    some (draft, dropSpaces rest)
  | '[' :: rest => orMalformed do
    let (path, rest) ← readKey? fuel (dropSpaces rest)
    let draft ← draft.settle.openTable? path
    let rest ← readMark? [']'] rest
    some (draft, dropSpaces rest)
  | '#' :: _ => .ok (draft, source)
  | _ => do
    let (key, rest) ← orMalformed (readKey? fuel source)
    let rest ← orMalformed (readMark? ['='] rest)
    let (value, rest) ← readValue fuel (dropSpaces rest)
    let draft ← orMalformed (draft.assign? key value)
    .ok (draft, dropSpaces rest)

/-- Read line after line; a line holds at most one statement and then a comment. -/
def readLines (valueFuel : Nat) : (fuel : Nat) → Draft → Text → Except Fault Draft
  | 0, _, _ => .error .malformed
  | fuel + 1, draft, source =>
    match dropSpaces source with
    | [] => .ok draft
    | '\n' :: rest => readLines valueFuel fuel draft rest
    | begun => do
      let (draft, rest) ← readStatement valueFuel draft begun
      let rest ← orMalformed (afterComment? rest)
      match rest with
      | [] => .ok draft
      | '\n' :: rest => readLines valueFuel fuel draft rest
      | _ => .error .malformed

/-- A line feed alone stands for a carriage return and a line feed. -/
def joinLineEnds : Text → Text
  | [] => []
  | '\r' :: '\n' :: rest => '\n' :: joinLineEnds rest
  | c :: rest => c :: joinLineEnds rest

/-- The table a document describes. Values nest at most once per character, so twice its length is
fuel enough. -/
def read (source : Text) : Except Fault Value :=
  let text := joinLineEnds source
  (readLines (2 * text.length + 2) (text.length + 1) ⟨[], [], [], []⟩ text).map (.table ·.entries)

end SymbolIndex.Toml
