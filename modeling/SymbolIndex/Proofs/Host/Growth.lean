import SymbolIndex.Proofs.Host.Directory

/-! Trees that grow by files and directories of their own: what could be reached before is reached
as before, and leads to where it led. -/
namespace SymbolIndex
namespace Tree
variable {tree before middle after : Tree} {location here : Location} {entry : Entry} {name : Text}
  {names rest : List Text} {followLast : Bool} {links : Nat}
  {added more : List (Location × Entry)}

/-- A tree has further entries, where there was nothing. -/
structure Grows (before after : Tree) (added : List (Location × Entry)) : Prop where
  entries : after.entries = before.entries ++ added
  new : ∀ entry ∈ added, before.entry? entry.1 = none
  filled : ∀ entry ∈ added, after.entry? entry.1 = some entry.2

theorem Grows.refl (tree : Tree) : tree.Grows tree [] := ⟨by simp, by simp, by simp⟩

theorem Grows.entry? (grows : before.Grows after added) (location : Location) :
    after.entry? location = (before.entry? location).or
      ((added.find? (·.1 = location)).map Prod.snd) := by
  by_cases inside : location = []
  · rw [inside]
    rfl
  · rw [entry?_of_ne_nil inside, entry?_of_ne_nil inside, grows.entries, List.find?_append]
    cases before.entries.find? (·.1 = location) <;> rfl

theorem Grows.extends (grows : before.Grows after added) : before.Extends after := by
  intro location entry present
  rw [grows.entry?, present, Option.some_or]

theorem Grows.mem_added (grows : before.Grows after added)
    (present : after.entry? location = some entry) :
    before.entry? location = some entry ∨ (location, entry) ∈ added := by
  rw [grows.entry?] at present
  cases old : before.entry? location with
  | some found =>
    rw [old, Option.some_or] at present
    exact Or.inl present
  | none =>
    rw [old, Option.none_or, Option.map_eq_some_iff] at present
    obtain ⟨⟨place, found⟩, listed, rfl⟩ := present
    obtain rfl : place = location := by simpa using List.find?_some listed
    exact Or.inr (List.mem_of_find?_eq_some listed)

theorem Grows.trans (first : before.Grows middle added) (second : middle.Grows after more) :
    before.Grows after (added ++ more) := by
  refine ⟨by rw [second.entries, first.entries, List.append_assoc], fun entry listed => ?_,
    fun entry listed => ?_⟩ <;> rcases List.mem_append.mp listed with old | later
  · exact first.new entry old
  · cases present : before.entry? entry.1 with
    | none => rfl
    | some found => rw [← second.new entry later, first.extends _ _ present]
  · exact second.extends _ _ (first.filled entry old)
  · exact second.filled entry later

theorem grows_put (inside : location ≠ []) (absent : tree.entry? location = none) (entry : Entry) :
    tree.Grows (tree.put location entry) [(location, entry)] := by
  refine ⟨?_, by simpa using absent, by simp [entry?_put inside]⟩
  rw [put, absent]
  rfl

theorem Grows.below (grows : before.Grows after added) (location : Location) :
    after.below location = before.below location ++ Tree.below ⟨added⟩ location := by
  simp only [Tree.below, grows.entries, List.filter_append, List.map_append]

/-- What is below a location stays the same when nothing is added there. -/
theorem Grows.below_eq (grows : before.Grows after added)
    (apart : ∀ entry ∈ added, location <+: entry.1 → entry.1 = location) :
    after.below location = before.below location := by
  have none : Tree.below ⟨added⟩ location = [] := by
    refine List.eq_nil_iff_forall_not_mem.mpr fun ⟨names, entry⟩ member => ?_
    obtain ⟨inside, listed⟩ := mem_below.mp member
    have same := apart _ listed (List.prefix_append _ _)
    exact inside (by simpa using same)
  rw [grows.below, none, List.append_nil]

/-- What is put directly into a directory is in a directory. -/
theorem Rooted.put (rooted : tree.Rooted) (above : tree.entry? location = some .directory)
    (absent : tree.entry? (location ++ [name]) = none) (entry : Entry) :
    (tree.put (location ++ [name]) entry).Rooted := by
  have inside : location ++ [name] ≠ [] := by simp
  have apart : location ≠ location ++ [name] := by simp
  intro place other found present
  rw [entry?_put inside] at present ⊢
  split at present
  · rename_i same
    obtain ⟨rfl, _⟩ := List.append_inj' same rfl
    rw [if_neg apart, above]
  · have upper := rooted _ _ _ present
    have other : place ≠ location ++ [name] := by
      rintro rfl
      rw [absent] at upper
      cases upper
    rw [if_neg other, upper]

/-- Where a walk finds nothing, there is a directory above. -/
theorem Rooted.above_absent (rooted : tree.Rooted) (start : tree.entry? here = some .directory)
    (reached : tree.walk followLast links here names = .ok (.absent location)) :
    ∃ above name, location = above ++ [name] ∧ tree.entry? above = some .directory := by
  fun_induction tree.walk followLast links here names with
  | case2 links here rest ih => exact ih (rooted.dropLast start) reached
  | case4 links here name rest up long next absent last =>
    obtain rfl := Found.absent.inj (Except.ok.inj reached)
    exact ⟨here, name, rfl, start⟩
  | case6 links here name rest up long next present ih => exact ih present reached
  | case11 here name rest up long next target present more left path ih =>
    refine ih ?_ reached
    split
    · rfl
    · exact start
  | _ => simp at reached

/-- Where a walk ends, the names are ones that it looked up. -/
theorem isName_of_walk (start : ∀ name ∈ here, IsName name)
    (reached : tree.walk followLast links here names = .ok (.present location entry)) :
    ∀ name ∈ location, IsName name := by
  have next {here : Location} {name : Text} (start : ∀ name ∈ here, IsName name)
      (up : name ≠ ['.', '.']) (long : ¬255 < (Utf8.encode name).length) :
      ∀ other ∈ here ++ [name], IsName other := by
    intro other member
    rcases List.mem_append.mp member with old | new
    · exact start other old
    · rw [List.mem_singleton.mp new]
      exact ⟨up, Nat.le_of_not_lt long⟩
  fun_induction tree.walk followLast links here names with
  | case1 links here =>
    obtain ⟨rfl, _⟩ := Found.present.inj (Except.ok.inj reached)
    exact start
  | case2 links here rest ih =>
    exact ih (fun name member => start name (List.dropLast_subset _ member)) reached
  | case6 links here name rest up long _ present ih => exact ih (next start up long) reached
  | case7 links here name rest up long _ bytes present last =>
    obtain ⟨rfl, _⟩ := Found.present.inj (Except.ok.inj reached)
    exact next start up long
  | case9 links here name rest up long _ target present last =>
    obtain ⟨rfl, _⟩ := Found.present.inj (Except.ok.inj reached)
    exact next start up long
  | case11 here name rest up long _ target present more left path ih =>
    refine ih ?_ reached
    split
    · simp
    · exact start
  | _ => simp at reached

end Tree

namespace Host
variable {host made before middle after : Host} {path : Path} {location : Location} {entry : Entry}
  {added more : List (Location × Entry)}
open SymbolIndex.Tree

/-- A path leads to where nothing is, through a link or on its own. -/
def Dangling (host : Host) (path : Path) : Prop :=
  host.lookup true path = .error .notFound ∨ ∃ location, host.lookup true path = .ok (.absent location)

theorem At.isName (there : host.At path location) : ∀ name ∈ location, IsName name :=
  isName_of_walk (by simp) there.reached

/-- What does not dangle leads to the same place in every larger tree. -/
theorem lookup_settled (larger : host.tree.Extends after.tree) (cwd : after.cwd = host.cwd)
    (settled : ¬host.Dangling path) : after.lookup true path = host.lookup true path := by
  rw [lookup, cwd]
  exact walk_settled larger (fun lost => settled (Or.inl lost)) fun location void =>
    settled (Or.inr ⟨location, void⟩)

theorem probe_congr (same : after.lookup true path = host.lookup true path) :
    after.probe path = host.probe path := by
  rw [probe, probe, same]

theorem isFile_congr (same : after.lookup true path = host.lookup true path) :
    after.isFile path = host.isFile path := by
  rw [isFile, isFile, entryAt?, entryAt?, same]

theorem readBytes_congr (same : after.lookup true path = host.lookup true path) :
    after.readBytes path = host.readBytes path := by
  rw [readBytes, readBytes, same]

/-- Only the tree of a host grows. -/
structure Grows (before after : Host) (added : List (Location × Entry)) : Prop where
  tree : before.tree.Grows after.tree added
  cwd : after.cwd = before.cwd
  temporary : after.temporary = before.temporary
  platform : after.platform = before.platform

theorem Grows.refl (host : Host) : host.Grows host [] := ⟨.refl _, rfl, rfl, rfl⟩

theorem Grows.trans (first : before.Grows middle added) (second : middle.Grows after more) :
    before.Grows after (added ++ more) :=
  ⟨first.tree.trans second.tree, second.cwd.trans first.cwd, second.temporary.trans first.temporary,
    second.platform.trans first.platform⟩

/-- A directory that is added is there, and the host grew by it. -/
theorem grows_addEntry (rooted : host.tree.Rooted) (usable : isUsable path = true)
    (done : host.addEntry path .directory = .ok made) :
    ∃ location, host.lookup false path = .ok (.absent location) ∧ made.At path location ∧
      host.Grows made [(location, .directory)] ∧ made.tree.Rooted := by
  obtain ⟨location, found, rfl, there⟩ := at_of_addEntry usable done
  obtain ⟨inside, absent⟩ := absent_of_walk found
  obtain ⟨above, name, rfl, upper⟩ := rooted.above_absent rfl found
  exact ⟨_, found, there, ⟨grows_put inside absent _, rfl, rfl, rfl⟩, rooted.put upper absent _⟩

theorem makeDirectories_of_addEntry (usable : isUsable path = true)
    (done : host.addEntry path .directory = .ok made) : host.makeDirectories path = (made, none) := by
  rw [makeDirectories, usable, done]
  rfl

/-- A directory that is there is made without a change. -/
theorem At.makeDirectories (there : host.At path location) : host.makeDirectories path = (host, none) := by
  obtain ⟨other, found, present⟩ := walk_unfollowed there.reached
  have exists' : host.addEntry path .directory = .error .exists := by rw [addEntry, lookup, present]
  have directory : host.isDirectory path = true := isDirectory_iff.mpr ⟨location, there⟩
  rw [Host.makeDirectories, there.usable, exists']
  simp [directory]

/-- A file that is written where nothing was is what the host grows by. -/
theorem At.writeBytes_grows {name : Text} (there : host.At path location) (rooted : host.tree.Rooted)
    (named : IsName name) (usable : isUsable (path.child name) = true)
    (absent : host.tree.entry? (location ++ [name]) = none)
    (allowed : host.platform.refuses (location ++ [name]) = none) (bytes : List UInt8) :
    ∃ written, host.writeBytes (path.child name) bytes = .ok written ∧
      host.Grows written [(location ++ [name], .file bytes)] ∧ written.tree.Rooted := by
  obtain ⟨above, _⟩ := rooted.present_of_walk rfl there.reached
  exact ⟨_, there.writeBytes_ok named usable absent allowed bytes,
    ⟨grows_put (by simp) absent _, rfl, rfl, rfl⟩, rooted.put above absent _⟩

end Host
end SymbolIndex
