import SymbolIndex.Text.Basic
import SymbolIndex.Bisect

/-! Conversion between offsets and one-based lines and columns, by a table of line starts that is
built once per text. -/
namespace SymbolIndex

/-- Offsets just after each newline, for a text that starts at `offset`. -/
def startsAfterNewlines (offset : Nat) : Text → List Nat
  | [] => []
  | c :: rest =>
    if c = '\n' then (offset + 1) :: startsAfterNewlines (offset + 1) rest
    else startsAfterNewlines (offset + 1) rest

structure LineIndex where
  length : Nat
  starts : Array Nat

namespace LineIndex

def ofText (text : Text) : LineIndex :=
  ⟨text.length, (0 :: startsAfterNewlines 0 text).toArray⟩

/-- The nearest offset inside the text, its end included. -/
def clamp (index : LineIndex) (offset : Int) : Nat := min offset.toNat index.length

/-- Line and column of an offset; offsets outside the text count as its nearest end. -/
def lineColumn (index : LineIndex) (offset : Int) : Nat × Nat :=
  let inside := index.clamp offset
  let line := countUpTo index.starts inside - 1
  (line + 1, inside - index.starts.getD line 0 + 1)

/-- Offset of a line and column, never outside the text. -/
def offset (index : LineIndex) (line column : Int) : Nat :=
  if line < 1 then 0
  else if (index.starts.size : Int) < line then index.length
  else min (index.starts.getD (line - 1).toNat 0 + (max column 1 - 1).toNat) index.length

end LineIndex
end SymbolIndex
