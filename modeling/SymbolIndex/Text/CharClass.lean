import SymbolIndex.Text.Basic

/-! Character classes that need no table: blanks, and the ASCII characters of identifiers. -/
namespace SymbolIndex

/-- An inclusive range of code points. -/
structure CharRange where
  first : Nat
  last : Nat

def CharRange.holds (range : CharRange) (c : Char) : Bool :=
  range.first ≤ c.toNat && c.toNat ≤ range.last

namespace Text

/-- Blank characters: the separators and controls that part words and pad lines. -/
def isBlank (c : Char) : Bool :=
  let n := c.toNat
  (0x09 ≤ n && n ≤ 0x0D) || (0x1C ≤ n && n ≤ 0x20) || n = 0x85 || n = 0xA0 || n = 0x1680 ||
    (0x2000 ≤ n && n ≤ 0x200A) || n = 0x2028 || n = 0x2029 || n = 0x202F || n = 0x205F || n = 0x3000

def strip (text : Text) : Text := text.trim isBlank

def allBlank (text : Text) : Bool := text.all isBlank

def isNameStart (c : Char) : Bool := c.isAlpha || c = '_'

def isNameChar (c : Char) : Bool := c.isAlphanum || c = '_'

theorem isNameChar_of_isNameStart {c : Char} (start : isNameStart c = true) :
    isNameChar c = true := by
  simp only [isNameStart, isNameChar, Char.isAlphanum, Bool.or_eq_true] at start ⊢
  rcases start with letter | underscore
  · exact Or.inl (Or.inl letter)
  · exact Or.inr underscore

end Text
end SymbolIndex
