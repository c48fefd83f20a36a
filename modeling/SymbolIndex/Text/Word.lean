import SymbolIndex.Text.WordTable

/-! Word characters: the letters, digits and numeric characters of every script, and the
underscore. A word boundary lies between a word character and anything else. -/
namespace SymbolIndex.Text

def isWord (c : Char) : Bool :=
  isNameChar c || (0x80 ≤ c.toNat && wordRanges.any (·.holds c))

/-- Whether a word starts or ends between the two neighbours of a position. -/
def isBoundary (before after : Option Char) : Bool :=
  before.any isWord != after.any isWord

theorem isWord_of_isNameChar {c : Char} (name : isNameChar c = true) : isWord c = true := by
  simp [isWord, name]

end SymbolIndex.Text
