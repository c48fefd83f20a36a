import SymbolIndex.Pattern.Occurrence

/-! The word under a caret. -/
namespace SymbolIndex

/-- A whole run of identifier characters, digits at its start included. -/
def Recogniser.nameRun : Recogniser := fun start => do
  let stop ← start.run? Text.isNameChar
  some ⟨start.upTo stop, start.upTo stop, none⟩

def nameRuns (line : Text) : List Capture := (Recogniser.nameRun.occurrences line).map (·.whole)

/-- Whether a caret stands inside the stretch or at one of its ends. -/
def Capture.touches (capture : Capture) (caret : Int) : Bool :=
  capture.start ≤ caret && caret ≤ capture.stop

/-- The run of identifier characters that touches a one-based position; empty when none does. -/
def wordAt (text : Text) (line column : Int) : Text :=
  let lines := Text.splitLines text
  if 1 ≤ line && line ≤ lines.length then
    match (nameRuns (lines[(line - 1).toNat]?.getD [])).find? (·.touches (column - 1)) with
    | some run => run.text
    | none => []
  else []

end SymbolIndex
