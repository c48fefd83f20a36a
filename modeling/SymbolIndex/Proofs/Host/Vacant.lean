import SymbolIndex.Proofs.Host.Growth

/-! Directories that hold nothing once they are made: those that were empty and those that were
not there. -/
namespace SymbolIndex.Host
variable {host made above : Host} {path : Path} {location other : Location} {name : Text}
  {links : Nat}
open SymbolIndex.Tree

/-- Nothing is below the directory that the path leads to when it is made. -/
def Vacant (host : Host) (path : Path) : Prop :=
  ∀ made location, host.makeDirectories path = (made, none) → made.At path location →
    host.tree.below location = []

theorem At.unique (first : host.At path location) (second : host.At path other) :
    location = other := by
  have same := first.reached.symm.trans second.reached
  exact (Found.present.inj (Except.ok.inj same)).1

theorem vacant_of_empty (directory : host.isDirectory path = true)
    (empty : host.descendants path = []) : host.Vacant path := by
  intro made location done there
  obtain ⟨old, before⟩ := isDirectory_iff.mp directory
  obtain ⟨adds, _⟩ := makeDirectories_spec done
  obtain rfl := there.unique (before.extends adds.keeps adds.cwd)
  rw [descendants, if_pos before.usable, before.reached] at empty
  exact empty

theorem exists_child (named : ¬path.names.isEmpty = true) (plain : ['.', '.'] ∉ path.names) :
    ∃ name, name ≠ ['.', '.'] ∧ path = path.parent.child name ∧ ['.', '.'] ∉ path.parent.names := by
  have some : path.names ≠ [] := by simpa using named
  refine ⟨path.names.getLast some, ?_, ?_, fun up => plain (List.dropLast_subset _ up)⟩
  · intro up
    exact plain (up ▸ List.getLast_mem some)
  · rw [Path.child, Path.parent, List.dropLast_concat_getLast some]

/-- The last name of a path is either found or could be added. -/
theorem walk_last_ne_notFound (plain : name ≠ ['.', '.']) :
    host.tree.walk false links location [name] ≠ .error .notFound := by
  by_cases named : IsName name
  · rw [walk_cons named]
    split <;> simp [walk_nil]
  · have long : 255 < (Utf8.encode name).length :=
      Nat.lt_of_not_le fun short => named ⟨plain, short⟩
    rw [walk, if_neg plain, if_pos long]
    simp

theorem addEntry_eq_notFound {entry : Entry} (failed : host.addEntry path entry = .error .notFound) :
    host.lookup false path = .error .notFound := by
  unfold addEntry at failed
  split at failed
  · simp at failed
  · obtain ⟨_, _, refused⟩ := place_eq_error.mp failed
    cases refused
  · rename_i fault found
    rw [found, Except.error.inj failed]

/-- A name that a walk went by is one that can be looked up. -/
theorem isName_of_walk_last {followLast : Bool} {found : Found} (plain : name ≠ ['.', '.'])
    (reached : host.tree.walk followLast links location [name] = .ok found) : IsName name := by
  refine ⟨plain, Nat.le_of_not_lt fun long => ?_⟩
  rw [walk, if_neg plain, if_pos long] at reached
  cases reached

/-- What is directly in a directory that was added is in its place there. -/
theorem At.child_of_new (rooted : host.tree.Rooted) (adds : AddsDirectories host above)
    (there : above.At path location) (new : host.tree.entry? location = none)
    (plain : name ≠ ['.', '.']) (child : above.At (path.child name) other) :
    other = location ++ [name] := by
  obtain ⟨left, same⟩ := there.walk_child name
  have reached := child.reached
  rw [same] at reached
  have named := isName_of_walk_last plain reached
  have absent := rooted.append_eq_none new [name]
  cases present : above.tree.entry? (location ++ [name]) with
  | none =>
    rw [walk_cons named, present] at reached
    cases reached
  | some entry =>
    rcases adds.adds _ _ present with old | rfl
    · rw [absent] at old
      cases old
    · rw [walk_cons named, present] at reached
      change above.tree.walk true left (location ++ [name]) [] = _ at reached
      rw [walk_nil] at reached
      exact (Found.present.inj (Except.ok.inj reached)).1.symm

/-- What could be added to a directory is in its place there. -/
theorem At.absent_child (there : host.At path location) (plain : name ≠ ['.', '.'])
    (found : host.lookup false (path.child name) = .ok (.absent other)) :
    other = location ++ [name] := by
  obtain ⟨left, settled⟩ := there.walk_child name
  rw [settled] at found
  rw [walk_cons (isName_of_walk_last plain found)] at found
  cases present : host.tree.entry? (location ++ [name]) with
  | none =>
    rw [present] at found
    exact (Found.absent.inj (Except.ok.inj found)).symm
  | some entry =>
    rw [present] at found
    cases entry <;> simp [walk_nil] at found

/-- Making a directory adds directories on the way to it. It was there before, or nothing was in its
place. -/
theorem makeDirectories_grows (rooted : host.tree.Rooted) (plain : ['.', '.'] ∉ path.names)
    (done : host.makeDirectories path = (made, none)) :
    ∃ location added, made.At path location ∧ host.Grows made added ∧ made.tree.Rooted ∧
      (∀ entry ∈ added, entry.1 <+: location ∧ entry.2 = .directory) ∧
      (host.At path location ∨ host.tree.entry? location = none) := by
  fun_induction host.makeDirectories path generalizing made with
  | case2 path unusable added done' =>
    obtain ⟨rfl, _⟩ := Prod.mk.inj done
    obtain ⟨location, found, there, grows, rooted'⟩ :=
      grows_addEntry rooted (by simpa using unusable) done'
    exact ⟨location, _, there, grows, rooted', by simp, Or.inr (absent_of_walk found).2⟩
  | case5 path unusable missing named above done' added last ih =>
    obtain ⟨rfl, _⟩ := Prod.mk.inj done
    obtain ⟨name, apart, same, plain'⟩ := exists_child named plain
    obtain ⟨upper, directories, made, grows, rooted', prefixes, _⟩ :=
      ih plain' done'
    obtain ⟨location, found, there, grows', rooted''⟩ :=
      grows_addEntry rooted' (by simpa using unusable) last
    obtain rfl : location = upper ++ [name] := made.absent_child apart (same ▸ found)
    refine ⟨_, _, there, grows.trans grows', rooted'', fun entry listed => ?_, Or.inr ?_⟩
    · rcases List.mem_append.mp listed with old | new
      · exact ⟨(prefixes entry old).1.trans (List.prefix_append _ _), (prefixes entry old).2⟩
      · simp [List.mem_singleton.mp new]
    · exact (grows.trans grows').tree.new (upper ++ [name], .directory) (by simp)
  | case6 path unusable missing named above done' fault last kept ih =>
    obtain ⟨rfl, _⟩ := Prod.mk.inj done
    obtain ⟨name, apart, same, plain'⟩ := exists_child named plain
    rw [Bool.and_eq_true] at kept
    obtain ⟨location, there⟩ := isDirectory_iff.mp kept.2
    obtain ⟨upper, directories, made, grows, rooted', prefixes, old | new⟩ :=
      ih plain' done'
    · -- a directory that was there before would not have been missed
      obtain ⟨left, settled⟩ := old.walk_child name
      have lost := addEntry_eq_notFound missing
      rw [same, settled] at lost
      exact absurd lost (walk_last_ne_notFound apart)
    · obtain rfl : location = upper ++ [name] :=
        made.child_of_new rooted (makeDirectories_spec done').1 new apart (same ▸ there)
      refine ⟨_, _, there, grows, rooted', fun entry listed => ?_,
        Or.inr (rooted.append_eq_none new [name])⟩
      exact ⟨(prefixes entry listed).1.trans (List.prefix_append _ _), (prefixes entry listed).2⟩
  | case8 path unusable fault other last kept =>
    obtain ⟨rfl, _⟩ := Prod.mk.inj done
    obtain ⟨location, there⟩ := isDirectory_iff.mp kept
    exact ⟨location, [], there, .refl host, rooted, by simp, Or.inl there⟩
  | _ => simp at done

theorem vacant_of_absent (rooted : host.tree.Rooted) (plain : ['.', '.'] ∉ path.names)
    (absent : host.pathExists path = false) : host.Vacant path := by
  intro made location done there
  obtain ⟨other, _, also, _, _, _, old | new⟩ := makeDirectories_grows rooted plain done
  · rw [pathExists, entryAt?_eq_some.mpr ⟨old.usable, _, old.reached⟩] at absent
    cases absent
  · obtain rfl := there.unique also
    exact rooted.below_eq_nil new

end SymbolIndex.Host
