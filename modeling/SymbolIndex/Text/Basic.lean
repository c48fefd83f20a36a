/-! Texts as sequences of code points. Every offset, column and length of the library counts the
members of this sequence; storage as bytes appears only where files are read and written. -/
namespace SymbolIndex

/-- A text is the sequence of its code points. -/
abbrev Text := List Char

namespace Text

/-- The characters from `start` up to, but not including, `stop`. -/
def slice (text : Text) (start stop : Nat) : Text :=
  (text.drop start).take (stop - start)

def trim (p : Char → Bool) (text : Text) : Text :=
  ((text.dropWhile p).reverse.dropWhile p).reverse

/-- Lines in order, each with the newline that ends it; a final line may lack one. -/
def lines : Text → List Text
  | [] => []
  | c :: rest =>
    if c = '\n' then [c] :: lines rest
    else match lines rest with
      | [] => [[c]]
      | line :: more => (c :: line) :: more

/-- The pieces between newlines: one more than there are newlines. -/
def splitLines : Text → List Text
  | [] => [[]]
  | c :: rest =>
    if c = '\n' then [] :: splitLines rest
    else match splitLines rest with
      | [] => [[c]]
      | line :: more => (c :: line) :: more

def afterLine : Text → Text
  | [] => []
  | c :: rest => if c = '\n' then rest else afterLine rest

def lineStart (text : Text) (offset : Nat) : Nat :=
  let before := text.take offset
  before.length - (before.reverse.takeWhile (· ≠ '\n')).length

def join (separator : Text) : List Text → Text
  | [] => []
  | [piece] => piece
  | piece :: more => piece ++ separator ++ join separator more

/-- Split at every `separator`; there is one more piece than there are separators. -/
def splitAt (separator : Char) : Text → List Text
  | [] => [[]]
  | c :: rest =>
    if c = separator then [] :: splitAt separator rest
    else match splitAt separator rest with
      | [] => [[c]]
      | piece :: more => (c :: piece) :: more

def contains (part : Text) : Text → Bool
  | [] => part.isEmpty
  | c :: rest => part.isPrefixOf (c :: rest) || contains part rest

/-- Read every line ending (`\r\n`, `\r` or `\n`) as a newline. -/
def normaliseNewlines : Text → Text
  | [] => []
  | '\r' :: '\n' :: rest => '\n' :: normaliseNewlines rest
  | '\r' :: rest => '\n' :: normaliseNewlines rest
  | c :: rest => c :: normaliseNewlines rest

def ofNat (n : Nat) : Text := Nat.toDigits 10 n

/-- The decimal digits of an integer after its sign, which only negative numbers show. -/
def ofInt : Int → Text
  | .ofNat n => ofNat n
  | .negSucc n => '-' :: ofNat (n + 1)

theorem contains_iff {part text : Text} : contains part text = true ↔ part <:+: text := by
  induction text with
  | nil => simp [contains]
  | cons c rest ih =>
    rw [contains, Bool.or_eq_true, List.isPrefixOf_iff_prefix, ih, List.infix_cons_iff]

theorem flatten_lines (text : Text) : text.lines.flatten = text := by
  induction text with
  | nil => rfl
  | cons c rest ih =>
    rw [lines]
    split
    · simp [ih]
    · split <;> simp_all

end Text
end SymbolIndex
