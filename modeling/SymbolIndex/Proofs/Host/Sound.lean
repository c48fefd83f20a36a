import SymbolIndex.Sources.Find
import SymbolIndex.Proofs.Dictionary
import SymbolIndex.Proofs.Host.Directory
import SymbolIndex.Proofs.Path

/-! Sound trees: entries have places of their own in directories, and names that a file system
accepts. What is below a directory of a sound tree can be walked to by its names. -/
namespace SymbolIndex
namespace Tree
variable {tree : Tree} {location here : Location} {entry : Entry} {name : Text}
  {names rest : List Text} {followLast : Bool} {links : Nat}

/-- A name that an entry can have. -/
structure IsEntryName (name : Text) : Prop extends Path.IsPart name where
  isName : IsName name
  noNull : '\x00' ∉ name

instance (name : Text) : Decidable (IsEntryName name) :=
  decidable_of_iff (name ≠ [] ∧ name ≠ ['.'] ∧ '/' ∉ name ∧
      (name ≠ ['.', '.'] ∧ (Utf8.encode name).length ≤ 255) ∧ '\x00' ∉ name)
    ⟨fun ⟨nonempty, notPoint, noSlash, isName, noNull⟩ =>
        ⟨⟨nonempty, notPoint, noSlash⟩, isName, noNull⟩,
      fun named => ⟨named.nonempty, named.notPoint, named.noSlash, named.isName, named.noNull⟩⟩

/-- What a file system keeps true of a tree. -/
structure Sound (tree : Tree) : Prop where
  rooted : tree.Rooted
  distinct : (tree.entries.map Prod.fst).Nodup
  named : ∀ entry ∈ tree.entries, entry.1 ≠ [] ∧ ∀ name ∈ entry.1, IsEntryName name

/-- A tree is sound when each of its entries is in its place. -/
theorem sound_of_entries (distinct : (tree.entries.map Prod.fst).Nodup)
    (named : ∀ entry ∈ tree.entries, entry.1 ≠ [] ∧ ∀ name ∈ entry.1, IsEntryName name)
    (above : ∀ entry ∈ tree.entries, tree.entry? entry.1.dropLast = some .directory) : tree.Sound := by
  refine ⟨fun location name entry present => ?_, distinct, named⟩
  simpa using above _ (mem_entries (by simp) present)

theorem entry?_eq_some (distinct : (tree.entries.map Prod.fst).Nodup) (inside : location ≠ []) :
    tree.entry? location = some entry ↔ (location, entry) ∈ tree.entries := by
  rw [entry?_of_ne_nil inside, Option.map_eq_some_iff]
  constructor
  · rintro ⟨found, listed, rfl⟩
    obtain ⟨member, rfl⟩ := (Dictionary.find?_key_eq_some_iff distinct).mp listed
    exact member
  · intro member
    exact ⟨_, (Dictionary.find?_key_eq_some_iff distinct).mpr ⟨member, rfl⟩, rfl⟩

theorem Sound.entry?_eq_some (sound : tree.Sound) (inside : location ≠ []) :
    tree.entry? location = some entry ↔ (location, entry) ∈ tree.entries :=
  Tree.entry?_eq_some sound.distinct inside

theorem Sound.isEntryName (sound : tree.Sound) (present : tree.entry? location = some entry) :
    ∀ name ∈ location, IsEntryName name := by
  intro name member
  have inside : location ≠ [] := List.ne_nil_of_mem member
  exact (sound.named _ ((sound.entry?_eq_some inside).mp present)).2 name member

/-- Above an entry are directories. -/
theorem Rooted.above (rooted : tree.Rooted) (below : rest ≠ [])
    (present : tree.entry? (location ++ rest) = some entry) :
    tree.entry? location = some .directory := by
  obtain ⟨name, more, rfl⟩ := List.exists_cons_of_ne_nil below
  cases next : tree.entry? (location ++ [name]) with
  | none =>
    have absent := rooted.append_eq_none next more
    rw [List.append_assoc, List.singleton_append, present] at absent
    cases absent
  | some found => exact rooted _ _ _ next

/-- A walk down to the place of an entry comes to its last name. -/
theorem Rooted.walk_down (rooted : tree.Rooted) (named : ∀ name ∈ names, IsName name)
    (present : tree.entry? (here ++ names ++ [name]) = some entry) :
    tree.walk followLast links here (names ++ [name]) =
      tree.walk followLast links (here ++ names) [name] := by
  induction names generalizing here with
  | nil => simp
  | cons first more ih =>
    have directory : tree.entry? (here ++ [first]) = some .directory := by
      have below : tree.entry? (here ++ [first] ++ (more ++ [name])) = some entry := by
        rw [← present]
        simp
      exact rooted.above (by simp) below
    rw [List.cons_append, walk_cons (named first List.mem_cons_self), directory]
    change tree.walk followLast links (here ++ [first]) (more ++ [name]) = _
    rw [ih (fun other listed => named other (List.mem_cons_of_mem first listed)) (by simpa using present)]
    simp

end Tree

namespace Host
variable {host : Host} {path : Path} {location : Location} {entry : Entry} {names : List Text}
open SymbolIndex.Tree

theorem isUsable_iff : isUsable path = true ↔
    '\x00' ∉ path.root ∧ ∀ name ∈ path.names, '\x00' ∉ name := by
  have names : '\x00' ∈ Text.join ['/'] path.names ↔ ∃ name ∈ path.names, '\x00' ∈ name :=
    Text.mem_join (by decide)
  rw [isUsable, decide_eq_true_iff, Path.text]
  split
  · rename_i bare
    simp only [Bool.and_eq_true, List.isEmpty_iff] at bare
    simp [bare.1, bare.2]
  · rw [List.mem_append, names]
    simp

theorem At.usable_append (there : host.At path location) (named : ∀ name ∈ names, IsEntryName name) :
    isUsable (Sources.pathBelow path names) = true := by
  obtain ⟨root, above⟩ := isUsable_iff.mp there.usable
  refine isUsable_iff.mpr ⟨root, fun name listed => ?_⟩
  rcases List.mem_append.mp listed with old | new
  · exact above name old
  · exact (named name new).noNull

theorem At.descendants (there : host.At path location) :
    host.descendants path = host.tree.below location := by
  rw [Host.descendants, if_pos there.usable, there.reached]

section Below
variable (there : host.At path location) (rooted : host.tree.Rooted) (inside : names ≠ [])
  (named : ∀ name ∈ names, IsName name) (present : host.tree.entry? (location ++ names) = some entry)
include there rooted inside named present

/-- What is below a directory is walked to by its names, up to the last one. -/
theorem At.walk_below : ∃ front last left, names = front ++ [last] ∧ ∀ followLast,
    host.lookup followLast (Sources.pathBelow path names) =
      host.tree.walk followLast left (location ++ front) [last] := by
  obtain ⟨left, onward⟩ := walk_append there.reached
  obtain ⟨first, rest, starts⟩ := List.exists_cons_of_ne_nil inside
  obtain ⟨front, last, rfl⟩ := (List.eq_nil_or_concat names).resolve_left inside
  rw [List.concat_eq_append] at *
  refine ⟨front, last, left, rfl, fun followLast => ?_⟩
  have down : host.tree.walk followLast left location (front ++ [last]) =
      host.tree.walk followLast left (location ++ front) [last] :=
    rooted.walk_down (fun name member => named name (List.mem_append_left _ member))
      (by simpa using present)
  rw [← down, lookup, starts, ← onward, ← starts, Sources.pathBelow, Path.join_append]

theorem At.lookup_below (solid : ∀ target, entry ≠ .link target) :
    host.lookup true (Sources.pathBelow path names) = .ok (.present (location ++ names) entry) := by
  obtain ⟨front, last, left, rfl, settled⟩ := there.walk_below rooted inside named present
  rw [← List.append_assoc] at present ⊢
  rw [settled, walk_cons (named last (by simp)), present]
  cases entry with
  | file bytes => rfl
  | directory => exact walk_nil
  | link target => exact absurd rfl (solid target)

end Below

/-- What a sound tree has below a directory. -/
structure Has (host : Host) (location : Location) (names : List Text) (entry : Entry) : Prop where
  inside : names ≠ []
  named : ∀ name ∈ names, IsEntryName name
  present : host.tree.entry? (location ++ names) = some entry

theorem has_of_below (sound : host.tree.Sound) (member : (names, entry) ∈ host.tree.below location) :
    host.Has location names entry := by
  obtain ⟨inside, listed⟩ := mem_below.mp member
  refine ⟨inside, fun name within => ?_, (sound.entry?_eq_some (by simp [inside])).mpr listed⟩
  exact (sound.named _ listed).2 name (List.mem_append_right location within)

theorem Has.lookup (has : host.Has location names entry) (sound : host.tree.Sound)
    (there : host.At path location) (solid : ∀ target, entry ≠ .link target) :
    host.lookup true (Sources.pathBelow path names) = .ok (.present (location ++ names) entry) :=
  there.lookup_below sound.rooted has.inside (fun name member => (has.named name member).isName)
    has.present solid

end Host
end SymbolIndex
