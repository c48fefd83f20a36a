import SymbolIndex.Text.Fold

/-! Orders on texts: by code point, and by folded form with the text itself as tie-breaker. Both
are total orders, so a sorted list depends on its members alone. -/
namespace SymbolIndex.Text

/-- Lexicographic order by code point; a text precedes its extensions. -/
def le : Text → Text → Bool
  | [], _ => true
  | _ :: _, [] => false
  | a :: s, b :: t => a < b || (a = b && le s t)

/-- Order by folded form first; equal folded forms are ordered by the texts. -/
def foldedLe (s t : Text) : Bool :=
  if fold s = fold t then le s t else le (fold s) (fold t)

/-- Sort without regard to case; a sorted list lists equal folded forms by code point. -/
def sortFolded (items : List Text) : List Text := items.mergeSort foldedLe

def sort (items : List Text) : List Text := items.mergeSort le

end SymbolIndex.Text
