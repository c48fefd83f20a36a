import SymbolIndex.Pattern.Occurrence

/-! Whole words. -/
namespace SymbolIndex.Recogniser

/-- A fixed word with a word boundary on either side. -/
def wholeWord (word : Text) : Recogniser := fun start => do
  let stop ← start.literal? word
  if Text.isBoundary start.before start.rest.head? && Text.isBoundary stop.before stop.rest.head? then
    some ⟨start.upTo stop, start.upTo stop, none⟩
  else none

end SymbolIndex.Recogniser
