import SymbolIndex.Dictionary
import SymbolIndex.Proofs.FirstOccurrence

/-! Look-up in entries with distinct keys depends on what entries there are, not on their order. -/
namespace SymbolIndex.Dictionary
variable {α : Type} {entries others : List (Text × α)} {key : Text} {entry : Text × α}

theorem find?_key_eq_some_iff {κ : Type} [DecidableEq κ] {entries : List (κ × α)} {key : κ}
    {entry : κ × α} (distinct : (entries.map Prod.fst).Nodup) :
    entries.find? (·.1 = key) = some entry ↔ entry ∈ entries ∧ entry.1 = key := by
  constructor
  · intro found
    exact ⟨List.mem_of_find?_eq_some found, by simpa using List.find?_some found⟩
  · rintro ⟨member, rfl⟩
    induction entries with
    | nil => simp at member
    | cons first rest ih =>
      rw [List.map_cons, List.nodup_cons] at distinct
      rcases List.mem_cons.mp member with rfl | later
      · exact List.find?_cons_of_pos (by simp)
      · have other : first.1 ≠ entry.1 := fun same =>
          distinct.1 (List.mem_map.mpr ⟨entry, later, same.symm⟩)
        rw [List.find?_cons_of_neg (by simpa using other)]
        exact ih distinct.2 later

theorem find?_key_perm (same : entries.Perm others) (distinct : (entries.map Prod.fst).Nodup)
    (key : Text) : entries.find? (·.1 = key) = others.find? (·.1 = key) := by
  have distinctOthers : (others.map Prod.fst).Nodup := (same.map Prod.fst).nodup_iff.mp distinct
  ext entry
  rw [find?_key_eq_some_iff distinct, find?_key_eq_some_iff distinctOthers, same.mem_iff]

/-- What is looked up under a key is the entry of that key. -/
theorem get?_eq_some {map : Dictionary α} {value : α} :
    map.get? key = some value ↔ (key, value) ∈ map.entries := by
  rw [get?, Option.map_eq_some_iff]
  constructor
  · rintro ⟨found, listed, rfl⟩
    obtain ⟨member, rfl⟩ := (find?_key_eq_some_iff map.distinct).mp listed
    exact member
  · intro member
    exact ⟨_, (find?_key_eq_some_iff map.distinct).mpr ⟨member, rfl⟩, rfl⟩

theorem mem_keys {map : Dictionary α} : key ∈ map.keys ↔ ∃ value, map.get? key = some value := by
  simp only [keys, List.mem_map, get?_eq_some]
  exact ⟨fun ⟨entry, member, same⟩ => ⟨entry.2, same ▸ member⟩,
    fun ⟨value, member⟩ => ⟨_, member, rfl⟩⟩

/-- Several keys are given one value. -/
theorem get?_putAll_const (map : Dictionary α) (keys : List Text) (value : α) (key : Text) :
    (map.putAll (keys.map fun key => (key, value))).get? key =
      if key ∈ keys then some value else map.get? key := by
  induction keys generalizing map with
  | nil => rfl
  | cons first rest ih =>
    change (Dictionary.putAll (map.put first value) _).get? key = _
    rw [ih, get?_put]
    by_cases later : key ∈ rest
    · simp [later]
    · simp [later]

theorem putEntry_of_notMem (fresh : key ∉ entries.map Prod.fst) (value : α) :
    putEntry key value entries = entries ++ [(key, value)] := by
  induction entries with
  | nil => rfl
  | cons entry rest ih =>
    rw [List.map_cons, List.mem_cons, not_or] at fresh
    rw [putEntry, if_neg (Ne.symm fresh.1), ih fresh.2, List.cons_append]

theorem keys_putEntry (key : Text) (value : α) (entries : List (Text × α)) :
    (putEntry key value entries).map Prod.fst =
      if key ∈ entries.map Prod.fst then entries.map Prod.fst else entries.map Prod.fst ++ [key] := by
  induction entries with
  | nil => rfl
  | cons entry rest ih =>
    by_cases here : entry.1 = key
    · simp [putEntry, here]
    · simp only [putEntry, if_neg here, List.map_cons, ih, List.mem_cons, Ne.symm here, false_or]
      split <;> rfl

/-- Writing entries adds the keys that are new, each once, in the order in which they first come. -/
theorem keys_putAll (map : Dictionary α) (entries : List (Text × α)) :
    (map.putAll entries).keys =
      map.keys ++ (unique (entries.map Prod.fst)).filter (· ∉ map.keys) := by
  induction entries generalizing map with
  | nil => simp [putAll, unique, firstBy]
  | cons entry rest ih =>
    have put : (map.put entry.1 entry.2).keys =
        if entry.1 ∈ map.keys then map.keys else map.keys ++ [entry.1] := keys_putEntry _ _ _
    have later := ih (map.put entry.1 entry.2)
    change (Dictionary.putAll (map.put entry.1 entry.2) rest).keys = _
    rw [later, put, List.map_cons, unique_cons]
    by_cases known : entry.1 ∈ map.keys
    · rw [if_pos known, List.filter_cons_of_neg (by simpa using known), List.filter_filter]
      refine congrArg (map.keys ++ ·) (List.filter_congr fun key _ => ?_)
      have other : key ∉ map.keys → key ≠ entry.1 := fun fresh same => fresh (same ▸ known)
      simpa using other
    · rw [if_neg known, List.filter_cons_of_pos (by simpa using known), List.filter_filter,
        List.append_assoc, List.singleton_append]
      simp [Bool.decide_and]

theorem keys_ofList (entries : List (Text × α)) :
    (ofList entries).keys = unique (entries.map Prod.fst) :=
  (keys_putAll empty entries).trans (by simp [empty, keys])

/-- Of the entries written under a key the last one stays. -/
theorem get?_putAll (map : Dictionary α) (entries : List (Text × α)) (key : Text) :
    (map.putAll entries).get? key =
      (((entries.filter (·.1 = key)).getLast?).map Prod.snd).or (map.get? key) := by
  induction entries generalizing map with
  | nil => rfl
  | cons entry rest ih =>
    change (Dictionary.putAll (map.put entry.1 entry.2) rest).get? key = _
    rw [ih, get?_put]
    by_cases here : entry.1 = key
    · rw [List.filter_cons_of_pos (by simpa using here), List.getLast?_cons, if_pos here.symm]
      cases (rest.filter (·.1 = key)).getLast? <;> simp
    · rw [List.filter_cons_of_neg (by simpa using here), if_neg (Ne.symm here)]

theorem get?_ofList (entries : List (Text × α)) (key : Text) :
    (ofList entries).get? key = ((entries.filter (·.1 = key)).getLast?).map Prod.snd :=
  (get?_putAll empty entries key).trans Option.or_none

theorem entries_putAll (map : Dictionary α)
    (distinct : ((map.entries ++ entries).map Prod.fst).Nodup) :
    (map.putAll entries).entries = map.entries ++ entries := by
  induction entries generalizing map with
  | nil => simp [putAll]
  | cons entry rest ih =>
    have fresh : entry.1 ∉ map.entries.map Prod.fst := by
      simp only [List.map_append, List.map_cons, List.nodup_append] at distinct
      exact fun member => distinct.2.2 _ member _ List.mem_cons_self rfl
    have put : (map.put entry.1 entry.2).entries = map.entries ++ [entry] :=
      putEntry_of_notMem fresh entry.2
    have later := ih (map.put entry.1 entry.2) (by rw [put]; simpa using distinct)
    rw [put, List.append_assoc] at later
    exact later

/-- Entries with distinct keys are kept as they are. -/
theorem entries_ofList (distinct : (entries.map Prod.fst).Nodup) :
    (ofList entries).entries = entries := entries_putAll empty distinct

/-- Writing the entries of a dictionary anew gives the dictionary. -/
theorem ofList_entries (map : Dictionary α) : ofList map.entries = map := by
  obtain ⟨entries, distinct⟩ := map
  have same : (ofList entries).entries = entries := entries_ofList distinct
  cases written : ofList entries
  rw [written] at same
  simpa [mk.injEq] using same

/-- What is looked up after writing entries was written by one of them, or there before. -/
theorem mem_of_get?_putAll {map : Dictionary α} {value : α}
    (found : (map.putAll entries).get? key = some value) :
    map.get? key = some value ∨ (key, value) ∈ entries := by
  rw [get?_putAll] at found
  cases last : (entries.filter (·.1 = key)).getLast? with
  | none => exact Or.inl (by simpa [last] using found)
  | some entry =>
    obtain ⟨listed, same⟩ := List.mem_filter.mp (List.mem_of_getLast? last)
    have written : entry.2 = value := by simpa [last] using found
    exact Or.inr (written ▸ of_decide_eq_true same ▸ listed)

theorem mem_of_get?_ofList {value : α} (found : (ofList entries).get? key = some value) :
    (key, value) ∈ entries := (mem_of_get?_putAll found).resolve_left (by simp [empty, get?])

theorem get?_tabulate {keys : List Text} (listed : key ∈ keys) (value : Text → α) :
    (tabulate keys value).get? key = some (value key) := by
  have entry : (tabulate keys value).entries.find? (·.1 = key) = some (key, value key) :=
    (find?_key_eq_some_iff (tabulate keys value).distinct).mpr
      ⟨List.mem_map.mpr ⟨key, mem_unique.mpr listed, rfl⟩, rfl⟩
  rw [get?, entry]
  rfl

theorem mem_of_get?_tabulate {keys : List Text} {value : Text → α} {given : α}
    (found : (tabulate keys value).get? key = some given) : key ∈ keys ∧ given = value key := by
  obtain ⟨entry, shown, rfl⟩ := Option.map_eq_some_iff.mp found
  obtain ⟨member, rfl⟩ := (find?_key_eq_some_iff (tabulate keys value).distinct).mp shown
  obtain ⟨name, listed, rfl⟩ := List.mem_map.mp member
  exact ⟨mem_unique.mp listed, rfl⟩

theorem map_put {β : Type} (f : α → β) (source : Dictionary α) (key : Text) (value : α) :
    (source.put key value).map f = (source.map f).put key (f value) := by
  obtain ⟨entries, distinct⟩ := source
  simp only [put, map, mk.injEq]
  clear distinct
  induction entries with
  | nil => rfl
  | cons entry rest ih =>
    rw [List.map_cons, putEntry, putEntry]
    split
    · rfl
    · rw [List.map_cons, ih]

theorem map_ofList {β : Type} (f : α → β) (entries : List (Text × α)) :
    (ofList entries).map f = ofList (entries.map fun entry => (entry.1, f entry.2)) := by
  have all (source : Dictionary α) : (source.putAll entries).map f =
      (source.map f).putAll (entries.map fun entry => (entry.1, f entry.2)) := by
    induction entries generalizing source with
    | nil => rfl
    | cons entry rest ih =>
      exact (ih (source.put entry.1 entry.2)).trans (by rw [map_put]; rfl)
  exact all empty

end SymbolIndex.Dictionary
