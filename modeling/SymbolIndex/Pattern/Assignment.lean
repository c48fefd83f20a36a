import SymbolIndex.Pattern.Occurrence

/-! Assignments: to an attribute of `self`, to a name that opens a line, and from a call. -/
namespace SymbolIndex.Recogniser

/-- `self.name =`, capturing the name. -/
def attributeAssignment : Recogniser := fun start => do
  if !start.opensWord then none
  let cursor ← start.literal? "self.".toList
  let (name, cursor) ← cursor.identifier?
  let stop ← cursor.blanks.assignment?
  some ⟨start.upTo stop, name, none⟩

/-- `name =` at the start of a line, after blanks that may run over further lines. -/
def variableAssignment : Recogniser := fun start => do
  if !start.opensLine then none
  let (name, cursor) ← start.blanks.identifier?
  let stop ← cursor.blanks.assignment?
  some ⟨start.upTo stop, name, none⟩

/-- `name = Callee(`, capturing both names. -/
def constructorCall : Recogniser := fun start => do
  let (name, cursor) ← start.identifier?
  let cursor ← cursor.blanks.literal? ['=']
  let (callee, cursor) ← cursor.blanks.identifier?
  let stop ← cursor.blanks.literal? ['(']
  some ⟨start.upTo stop, name, some callee⟩

end SymbolIndex.Recogniser
