import SymbolIndex.Pattern.Occurrence

/-! Headers of classes and functions. Strings and comments are not told apart from code. -/
namespace SymbolIndex.Recogniser

/-- How far the last `):` of a line reaches, if there is one. -/
def throughLastClose? : Text → Option Nat
  | [] => none
  | c :: rest =>
    match throughLastClose? rest with
    | some n => some (n + 1)
    | none => if c = ')' && rest.head? = some ':' then some 2 else none

/-- A colon, or base classes in parentheses on one line and a colon. -/
def headerEnd? (cursor : Cursor) : Option Cursor :=
  match cursor.literal? ['('] with
  | some inside =>
    (throughLastClose? (inside.rest.takeWhile (· ≠ '\n'))).map inside.advance
  | none => cursor.literal? [':']

/-- `class Name:` or `class Name(Base, ...):`, capturing the name. -/
def classHeader : Recogniser := fun start => do
  if !start.opensWord then none
  let cursor ← start.literal? "class".toList
  let cursor ← cursor.someBlanks?
  let (name, cursor) ← cursor.identifier?
  let stop ← headerEnd? cursor.blanks
  some ⟨start.upTo stop, name, none⟩

/-- `def name(parameters)`, capturing the name and the text up to the first `)`. -/
def functionHeader : Recogniser := fun start => do
  if !start.opensWord then none
  let cursor ← start.literal? "def".toList
  let cursor ← cursor.someBlanks?
  let (name, cursor) ← cursor.identifier?
  let opened ← cursor.blanks.literal? ['(']
  let closing := opened.skip (· ≠ ')')
  let stop ← closing.literal? [')']
  some ⟨start.upTo stop, name, some (opened.upTo closing)⟩

end SymbolIndex.Recogniser
