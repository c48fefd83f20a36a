import SymbolIndex.Text.FoldTable

/-! Full case folding, the form in which texts are compared without regard to case. -/
namespace SymbolIndex.Text

def foldChar (c : Char) : Text :=
  if c.toNat < 0x80 then [c.toLower] else mapCase foldShifts foldExpansions c

/-- Fold every character; some become several. -/
def fold (text : Text) : Text := text.flatMap foldChar

end SymbolIndex.Text
