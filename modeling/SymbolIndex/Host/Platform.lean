import SymbolIndex.Host.Tree

/-! What a run depends on besides the file tree: the users of the machine, where it may write and
how much, and how far down its interpreter can go. -/
namespace SymbolIndex

/-- A machine on which every file can be read but not every place can be written to. -/
structure Platform where
  homeOf : Text → Option Path
  refuses : Location → Option Refusal
  /-- How many bytes a file at a location can hold; any number unless one is given. -/
  room : Location → Option Nat
  /-- Whether a settings file of this text is nested too deep to be read. -/
  overflows : Text → Bool

def Platform.plain : Platform := ⟨fun _ => none, fun _ => none, fun _ => none, fun _ => false⟩

end SymbolIndex
