import SymbolIndex.Text.Order
import SymbolIndex.FirstOccurrence

/-! Finite maps from texts that remember the order in which their keys first came. Writing to a
key that is present changes its value and keeps its place. -/
namespace SymbolIndex

/-- Entries in insertion order; no key comes twice. -/
structure Dictionary (α : Type) where
  entries : List (Text × α)
  distinct : (entries.map Prod.fst).Nodup
deriving DecidableEq

namespace Dictionary
variable {α β : Type}

def empty : Dictionary α := ⟨[], List.nodup_nil⟩

instance : Inhabited (Dictionary α) := ⟨empty⟩

def keys (map : Dictionary α) : List Text := map.entries.map Prod.fst

def get? (map : Dictionary α) (key : Text) : Option α :=
  (map.entries.find? (·.1 = key)).map Prod.snd

def contains (map : Dictionary α) (key : Text) : Bool := (map.get? key).isSome

def putEntry (key : Text) (value : α) : List (Text × α) → List (Text × α)
  | [] => [(key, value)]
  | entry :: rest =>
    if entry.1 = key then (key, value) :: rest else entry :: putEntry key value rest

theorem mem_keys_putEntry {key other : Text} {value : α} {entries : List (Text × α)} :
    other ∈ (putEntry key value entries).map Prod.fst ↔
      other = key ∨ other ∈ entries.map Prod.fst := by
  induction entries with
  | nil => simp [putEntry]
  | cons entry rest ih =>
    rw [putEntry]
    split
    · rename_i same
      simp [same]
    · rw [List.map_cons, List.mem_cons, ih, List.map_cons, List.mem_cons]
      exact or_left_comm

theorem nodup_putEntry {key : Text} {value : α} {entries : List (Text × α)}
    (distinct : (entries.map Prod.fst).Nodup) :
    ((putEntry key value entries).map Prod.fst).Nodup := by
  induction entries with
  | nil => simp [putEntry]
  | cons entry rest ih =>
    rw [List.map_cons, List.nodup_cons] at distinct
    rw [putEntry]
    split
    · rename_i same
      simpa [← same] using distinct
    · rename_i different
      rw [List.map_cons, List.nodup_cons, mem_keys_putEntry]
      refine ⟨?_, ih distinct.2⟩
      rintro (same | later)
      · exact different same
      · exact distinct.1 later

/-- Write an entry: in place when the key is present, at the end otherwise. -/
def put (map : Dictionary α) (key : Text) (value : α) : Dictionary α :=
  ⟨putEntry key value map.entries, nodup_putEntry map.distinct⟩

/-- Write entries from the first to the last; of equal keys the last value stays. -/
def putAll (map : Dictionary α) (entries : List (Text × α)) : Dictionary α :=
  entries.foldl (fun written entry => written.put entry.1 entry.2) map

def ofList (entries : List (Text × α)) : Dictionary α := empty.putAll entries

def map (f : α → β) (source : Dictionary α) : Dictionary β :=
  ⟨source.entries.map fun entry => (entry.1, f entry.2), by
    simpa [List.map_map, Function.comp_def] using source.distinct⟩

/-- One entry for each listed key, its value computed from the key. -/
def tabulate (keys : List Text) (value : Text → α) : Dictionary α :=
  ⟨(unique keys).map fun key => (key, value key), by
    simpa [List.map_map, Function.comp_def] using nodup_unique keys⟩

theorem get?_put (map : Dictionary α) (key other : Text) (value : α) :
    (map.put key value).get? other = if other = key then some value else map.get? other := by
  obtain ⟨entries, distinct⟩ := map
  simp only [put, get?]
  clear distinct
  induction entries with
  | nil => by_cases same : key = other <;> simp [putEntry, same, eq_comm]
  | cons entry rest ih =>
    by_cases here : entry.1 = key
    · by_cases same : key = other <;> simp [putEntry, here, same, eq_comm]
    · by_cases asked : entry.1 = other
      · have apart : other ≠ key := fun same => here (asked.trans same)
        simp [putEntry, asked, apart]
      · simpa [putEntry, here, asked] using ih

end Dictionary
end SymbolIndex
