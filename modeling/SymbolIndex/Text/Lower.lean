import SymbolIndex.Text.LowerTable

/-! Lower-case forms. All characters are mapped on their own but the capital sigma, which has a
form of its own at the end of a word. -/
namespace SymbolIndex.Text

def lowerChar (c : Char) : Text :=
  if c.toNat < 0x80 then [c.toLower] else mapCase lowerShifts lowerExpansions c

/-- Whether the first character that counts for case has one. -/
def nextIsCased (text : Text) : Bool :=
  match text.find? (fun c => !caseIgnorableRanges.any (·.holds c)) with
  | some c => casedRanges.any (·.holds c)
  | none => false

/-- Lower every character; `before` holds the characters already passed, nearest first. -/
def lowerAfter (before : Text) : Text → Text
  | [] => []
  | c :: rest =>
    let image :=
      if c = 'Σ' then if nextIsCased before && !nextIsCased rest then ['ς'] else ['σ']
      else lowerChar c
    image ++ lowerAfter (c :: before) rest

def lower (text : Text) : Text := lowerAfter [] text

end SymbolIndex.Text
