import SymbolIndex.Text.Word

/-! A reading position in a text and the steps that patterns are made of. A step either moves on
past what it accepts or fails; it never moves back. -/
namespace SymbolIndex

/-- A stretch of a text: where it starts and the characters it covers. -/
structure Capture where
  start : Nat
  text : Text
deriving DecidableEq

def Capture.stop (capture : Capture) : Nat := capture.start + capture.text.length

/-- A position: its offset, the character just before it and everything from it on. -/
structure Cursor where
  offset : Nat
  before : Option Char
  rest : Text

namespace Cursor

def start (text : Text) : Cursor := ⟨0, none, text⟩

def next : Cursor → Cursor
  | ⟨offset, before, []⟩ => ⟨offset, before, []⟩
  | ⟨offset, _, c :: rest⟩ => ⟨offset + 1, some c, rest⟩

def advance (cursor : Cursor) : Nat → Cursor
  | 0 => cursor
  | n + 1 => cursor.next.advance n

def skip (cursor : Cursor) (p : Char → Bool) : Cursor :=
  cursor.advance (cursor.rest.takeWhile p).length

def blanks (cursor : Cursor) : Cursor := cursor.skip Text.isBlank

/-- Move past blanks, of which there must be one. -/
def someBlanks? (cursor : Cursor) : Option Cursor :=
  if cursor.rest.head?.any Text.isBlank then some cursor.blanks else none

def literal? (cursor : Cursor) (expected : Text) : Option Cursor :=
  if expected.isPrefixOf cursor.rest then some (cursor.advance expected.length) else none

/-- Move past the longest run of characters satisfying `p`, which may not be empty. -/
def run? (cursor : Cursor) (p : Char → Bool) : Option Cursor :=
  if cursor.rest.head?.any p then some (cursor.skip p) else none

/-- Read a whole identifier. -/
def identifier? (cursor : Cursor) : Option (Capture × Cursor) :=
  if cursor.rest.head?.any Text.isNameStart then
    let name := cursor.rest.takeWhile Text.isNameChar
    some (⟨cursor.offset, name⟩, cursor.advance name.length)
  else none

/-- An equals sign that does not begin a comparison. -/
def assignment? (cursor : Cursor) : Option Cursor := do
  let after ← cursor.literal? ['=']
  if after.rest.head? = some '=' then none else some after

/-- No word runs across the position from the left. -/
def opensWord (cursor : Cursor) : Bool := !cursor.before.any Text.isWord

def opensLine (cursor : Cursor) : Bool := cursor.before.all (· = '\n')

def upTo (cursor stop : Cursor) : Capture :=
  ⟨cursor.offset, cursor.rest.take (stop.offset - cursor.offset)⟩

end Cursor
end SymbolIndex
