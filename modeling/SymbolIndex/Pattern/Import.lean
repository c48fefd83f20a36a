import SymbolIndex.Pattern.Occurrence

/-! Imports of a module and of a name out of a module. -/
namespace SymbolIndex.Recogniser

def isModuleChar (c : Char) : Bool := c.isAlphanum || c = '_' || c = '.'

/-- `import name`, capturing the name; it also occurs within `from module import name`. -/
def plainImport : Recogniser := fun start => do
  if !start.opensWord then none
  let cursor ← start.literal? "import".toList
  let cursor ← cursor.someBlanks?
  let (name, stop) ← cursor.identifier?
  some ⟨start.upTo stop, name, none⟩

def alias? (cursor : Cursor) : Option (Capture × Cursor) := do
  let cursor ← cursor.someBlanks?
  let cursor ← cursor.literal? "as".toList
  let cursor ← cursor.someBlanks?
  cursor.identifier?

/-- `from module import name` with an optional ` as alias`, capturing name and alias. -/
def fromImport : Recogniser := fun start => do
  if !start.opensWord then none
  let cursor ← start.literal? "from".toList
  let cursor ← cursor.someBlanks?
  let cursor ← cursor.run? isModuleChar
  let cursor ← cursor.someBlanks?
  let cursor ← cursor.literal? "import".toList
  let cursor ← cursor.someBlanks?
  let (name, cursor) ← cursor.identifier?
  match alias? cursor with
  | some (renamed, stop) => some ⟨start.upTo stop, name, some renamed⟩
  | none => some ⟨start.upTo cursor, name, none⟩

end SymbolIndex.Recogniser
