import SymbolIndex.Symbol
import SymbolIndex.Dictionary

/-! Everything one extraction finds. -/
namespace SymbolIndex

structure Snapshot where
  symbols : List Text
  positions : List SymbolRecord
  objectTypes : Dictionary Text
  classMembers : Dictionary (List Text)
  functionParameters : Dictionary Text
deriving DecidableEq

def Snapshot.empty : Snapshot := ⟨[], [], .empty, .empty, .empty⟩

instance : Inhabited Snapshot := ⟨.empty⟩

end SymbolIndex
