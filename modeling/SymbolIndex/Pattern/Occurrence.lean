import SymbolIndex.Pattern.Cursor

/-! Occurrences of a pattern: from left to right, each as far left as possible, none overlapping
the one before. -/
namespace SymbolIndex

/-- What one occurrence covers, the name it captures and what it says about the name. -/
structure Occurrence where
  whole : Capture
  name : Capture
  detail : Option Capture
deriving DecidableEq

/-- A recogniser accepts or refuses a position; it sees the character before it and the rest. -/
abbrev Recogniser := Cursor → Option Occurrence

/-- Occurrences in `rest`, once the next `skip` characters are passed. -/
def occurrencesFrom (recognise : Recogniser) (offset : Nat) (before : Option Char) (skip : Nat) :
    Text → List Occurrence
  | [] => if skip = 0 then (recognise ⟨offset, before, []⟩).toList else []
  | c :: rest =>
    match skip with
    | left + 1 => occurrencesFrom recognise (offset + 1) (some c) left rest
    | 0 =>
      match recognise ⟨offset, before, c :: rest⟩ with
      | some found =>
        found :: occurrencesFrom recognise (offset + 1) (some c) (found.whole.text.length - 1) rest
      | none => occurrencesFrom recognise (offset + 1) (some c) 0 rest

def Recogniser.occurrences (recognise : Recogniser) (text : Text) : List Occurrence :=
  occurrencesFrom recognise 0 none 0 text

end SymbolIndex
