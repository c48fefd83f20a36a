import SymbolIndex.Proofs.Host.Sound

/-! Clean hosts: neither the target of a link nor a path of the surroundings holds a null character.
What a clean host resolves is clean. -/
namespace SymbolIndex

/-- The characters of a text, but for the separator, are those of its pieces. -/
theorem Text.mem_splitAt {separator c : Char} (other : c ≠ separator) (text : Text) :
    (∃ piece ∈ splitAt separator text, c ∈ piece) ↔ c ∈ text := by
  induction text with
  | nil => simp [splitAt]
  | cons first rest ih =>
    rw [splitAt]
    split
    · rename_i same
      simp [ih, same, other]
    · split
      · rename_i none
        exact absurd none (splitAt_ne_nil separator rest)
      · rename_i piece more split
        rw [split] at ih
        simp [← ih, or_assoc]

namespace Path

/-- A name that can be given to the file system. -/
structure IsGiven (name : Text) : Prop extends IsPart name where
  noNull : '\x00' ∉ name

/-- A path that was read and can be given to the file system. -/
structure Clean (path : Path) : Prop where
  root : path.root = [] ∨ path.root = ['/'] ∨ path.root = ['/', '/']
  names : ∀ name ∈ path.names, IsGiven name

variable {path base : Path} {name : Text} {done names : List Text} {absolute : Bool}

theorem Clean.usable (clean : path.Clean) : Host.isUsable path = true := by
  refine Host.isUsable_iff.mpr ⟨?_, fun name member => (clean.names name member).noNull⟩
  rcases clean.root with root | root | root <;> rw [root] <;> decide

theorem IsRead.clean (read : path.IsRead) (usable : Host.isUsable path = true) : path.Clean :=
  ⟨read.root, fun name member =>
    ⟨read.parts name member, (Host.isUsable_iff.mp usable).2 name member⟩⟩

/-- A path that was read can be given unless its text holds a null character. -/
theorem isUsable_ofText (source : Text) :
    Host.isUsable (ofText source) = true ↔ '\x00' ∉ source := by
  have root : '\x00' ∉ (ofText source).root := by
    rcases (isRead_ofText source).root with root | root | root <;> rw [root] <;> decide
  have held : (∃ name ∈ (ofText source).names, '\x00' ∈ name) ↔ '\x00' ∈ source := by
    rw [← Text.mem_splitAt (by decide : '\x00' ≠ '/') source]
    refine exists_congr fun name => and_congr_left fun null => ?_
    have kept : name ≠ [] ∧ name ≠ ['.'] := ⟨List.ne_nil_of_mem null, by rintro rfl; simp at null⟩
    simp [ofText, kept]
  rw [Host.isUsable_iff, ← held, and_iff_right root]
  simp

theorem Clean.below (clean : path.Clean) (given : ∀ name ∈ names, IsGiven name) :
    Clean { path with names := path.names ++ names } := by
  refine ⟨clean.root, fun name member => ?_⟩
  rcases List.mem_append.mp member with old | new
  · exact clean.names name old
  · exact given name new

theorem Clean.child (clean : path.Clean) (given : IsGiven name) : (path.child name).Clean :=
  clean.below fun _ member => List.mem_singleton.mp member ▸ given

theorem Clean.parent (clean : path.Clean) : path.parent.Clean :=
  ⟨clean.root, fun name member => clean.names name (List.dropLast_subset _ member)⟩

theorem IsRead.join (read : base.IsRead) (joined : path.IsRead) : (base.join path).IsRead := by
  rw [Path.join]
  split
  · exact joined
  · refine ⟨read.root, fun name member => ?_⟩
    rcases List.mem_append.mp member with old | new
    · exact read.parts name old
    · exact joined.parts name new

theorem Clean.join (clean : base.Clean) (joined : path.Clean) : (base.join path).Clean := by
  rw [Path.join]
  split
  · exact joined
  · exact clean.below joined.names

/-- Collapsing keeps some of the names and adds none. -/
theorem mem_collapse (member : name ∈ collapse absolute done names) :
    name ∈ done ∨ name ∈ names := by
  fun_induction collapse absolute done names <;> grind

end Path

namespace Tree
open SymbolIndex.Path
variable {tree : Tree} {location here : Location} {name : Text} {names : List Text} {fuel : Nat}
  {seen : List (Location × Option Location)}

/-- The targets of links are texts that a file system accepts. -/
structure Clean (tree : Tree) : Prop where
  targets : ∀ location target, (location, .link target) ∈ tree.entries → '\x00' ∉ target

theorem Clean.target (clean : tree.Clean) {target : Text} (inside : location ≠ [])
    (present : tree.entry? location = some (.link target)) :
    ∀ name ∈ (Path.ofText target).names, IsGiven name :=
  ((isRead_ofText target).clean
    ((isUsable_ofText target).mpr (clean.targets _ _ (mem_entries inside present)))).names

/-- Locations that are noted are made of names that can be given. -/
def Noted (seen : List (Location × Option Location)) : Prop :=
  ∀ place known, (place, some known) ∈ seen → ∀ name ∈ known, IsGiven name

theorem Noted.none (noted : Noted seen) : Noted ((location, none) :: seen) := by
  intro place known member
  rcases List.mem_cons.mp member with same | old
  · cases same
  · exact noted place known old

theorem Noted.some (noted : Noted seen) (given : ∀ name ∈ location, IsGiven name) :
    Noted ((here, some location) :: seen) := by
  intro place known member
  rcases List.mem_cons.mp member with same | old
  · obtain rfl := Option.some.inj (Prod.mk.inj same).2
    exact given
  · exact noted place known old

theorem Noted.of_find? (noted : Noted seen)
    (found : (seen.find? (·.1 = here)).map Prod.snd = Option.some (Option.some location)) :
    ∀ name ∈ location, IsGiven name := by
  obtain ⟨⟨place, known⟩, listed, rfl⟩ := Option.map_eq_some_iff.mp found
  exact noted place location (List.mem_of_find?_eq_some listed)

/-- Resolving names that can be given leads to names that can be given. -/
theorem Clean.resolveFrom (clean : tree.Clean) (start : ∀ name ∈ here, IsGiven name)
    (given : ∀ name ∈ names, IsGiven name) (noted : Noted seen) :
    (∀ name ∈ (tree.resolveFrom fuel here seen names).location, IsGiven name) ∧
      Noted (tree.resolveFrom fuel here seen names).seen := by
  have next {here : Location} {name : Text} {rest : List Text} (start : ∀ name ∈ here, IsGiven name)
      (given : ∀ other ∈ name :: rest, IsGiven other) : ∀ other ∈ here ++ [name], IsGiven other := by
    simp only [List.forall_mem_append, List.forall_mem_singleton]
    exact ⟨start, given name List.mem_cons_self⟩
  have base {here : Location} {absolute : Prop} [Decidable absolute]
      (start : ∀ name ∈ here, IsGiven name) :
      ∀ name ∈ (if absolute then [] else here), IsGiven name := by
    split
    · simp
    · exact start
  have onward {name : Text} {rest : List Text} (given : ∀ other ∈ name :: rest, IsGiven other) :
      ∀ other ∈ rest, IsGiven other := fun other member => given other (List.mem_cons_of_mem name member)
  have inside {here : Location} {name : Text} : here ++ [name] ≠ [] := by simp
  fun_induction tree.resolveFrom fuel here seen names with
  | case1 fuel here seen => exact ⟨start, noted⟩
  | case2 fuel here seen rest ih =>
    exact ih (fun name member => start name (List.dropLast_subset _ member)) (onward given) noted
  | case3 fuel here seen name rest up _ target present known found ih =>
    exact ih (noted.of_find? found) (onward given) noted
  | case4 fuel here seen name rest up _ target present found =>
    exact ⟨List.forall_mem_append.mpr ⟨next start given, onward given⟩, noted⟩
  | case5 here seen name rest up _ target present found =>
    exact ⟨List.forall_mem_append.mpr ⟨next start given, onward given⟩, noted⟩
  | case6 here seen name rest up _ target present found left path inner complete ihInner _ ih =>
    obtain ⟨location, after⟩ := ihInner (base start) (clean.target inside present) noted.none
    exact ih location (onward given) (after.some location)
  | case7 here seen name rest up _ target present found left path inner partial' ihInner =>
    obtain ⟨location, after⟩ := ihInner (base start) (clean.target inside present) noted.none
    exact ⟨List.forall_mem_append.mpr ⟨location, onward given⟩, after⟩
  | case8 fuel here seen name rest up _ solid ih => exact ih (next start given) (onward given) noted

end Tree

namespace Host
open SymbolIndex.Tree SymbolIndex.Path
variable {host : Host} {path resolved : Path}

/-- A host whose links and surroundings hold no path that could not be given. -/
structure Clean (host : Host) : Prop where
  tree : host.tree.Clean
  cwd : host.cwd.Clean
  home : host.home.Clean
  homes : ∀ user home, host.platform.homeOf user = some home → home.Clean
  temporary : host.temporary.Clean

/-- What a path that was read resolves to can be given. -/
theorem Clean.resolve (clean : host.Clean) (read : path.IsRead)
    (done : host.resolve path = .ok resolved) : resolved.Clean := by
  unfold Host.resolve at done
  split at done
  · rename_i usable
    dsimp only at done
    split at done
    · cases done
    · rw [← Except.ok.inj done]
      refine ⟨Or.inr (Or.inl rfl), fun name member => ?_⟩
      rcases mem_collapse member with none | inside
      · cases none
      · have given := (clean.cwd.join (read.clean usable)).names
        exact (clean.tree.resolveFrom (by simp) given (fun _ _ member => by cases member)).1 name inside
  · cases done

theorem Clean.homeOf {user : Text} {home : Path} (clean : host.Clean)
    (done : host.homeOf user = .ok home) : home.Clean := by
  unfold Host.homeOf at done
  split at done
  · exact Except.ok.inj done ▸ clean.home
  · split at done
    · cases done
    · split at done
      · rename_i known
        exact Except.ok.inj done ▸ clean.homes user _ known
      · cases done

theorem Clean.expandHome (clean : host.Clean) (read : path.IsRead)
    (done : host.expandHome path = .ok resolved) : resolved.IsRead := by
  unfold Host.expandHome at done
  split at done
  · rename_i user rest rooted names
    obtain ⟨home, found, rfl⟩ := exceptMap_eq_ok.mp done
    have given := clean.homeOf found
    refine ⟨given.root, fun name member => ?_⟩
    rcases List.mem_append.mp member with old | new
    · exact (given.names name old).toIsPart
    · exact read.parts name (names ▸ List.mem_cons_of_mem _ new)
  · rw [← Except.ok.inj done]
    exact read

end Host
end SymbolIndex
