import Mathlib.Data.List.Nodup
import SymbolIndex.Proofs.Host.Clean
import SymbolIndex.Proofs.Host.Overwrite
import SymbolIndex.Proofs.Host.Resolve
import SymbolIndex.Proofs.Host.Vacant

/-! Two hosts that differ in one file. Paths lead to the same places on both, so what is not asked of
that file has the same answer: directories, resolutions, and directories that are made. -/
namespace SymbolIndex
namespace Tree
variable {tree before after : Tree} {place location : Location} {entry : Entry} {bytes : List UInt8}

/-- Entries have locations of their own, below the root. -/
structure Tidy (tree : Tree) : Prop where
  distinct : (tree.entries.map Prod.fst).Nodup
  inside : ∀ entry ∈ tree.entries, entry.1 ≠ []

theorem Sound.tidy (sound : tree.Sound) : tree.Tidy :=
  ⟨sound.distinct, fun entry listed => (sound.named entry listed).1⟩

theorem Tidy.put (tidy : tree.Tidy) (inside : location ≠ []) (entry : Entry) :
    (tree.put location entry).Tidy := by
  rw [Tree.put]
  split
  · have places : (tree.entries.map fun old => if old.1 = location then (location, entry) else old).map
        Prod.fst = tree.entries.map Prod.fst := by
      rw [List.map_map]
      refine List.map_congr_left fun old _ => ?_
      by_cases here : old.1 = location <;> simp [here]
    refine ⟨by simpa only [places] using tidy.distinct, fun old listed => ?_⟩
    have place : old.1 ∈ tree.entries.map Prod.fst := places ▸ List.mem_map_of_mem listed
    obtain ⟨other, among, same⟩ := List.mem_map.mp place
    exact same ▸ tidy.inside other among
  · rename_i absent
    rw [entry?_of_ne_nil inside, Option.isSome_map, List.isSome_find?, Bool.not_eq_true,
      List.any_eq_false] at absent
    refine ⟨?_, fun old listed => ?_⟩
    · rw [List.map_append, List.nodup_append]
      refine ⟨tidy.distinct, by simp, fun one member two last same => ?_⟩
      obtain ⟨old, listed, rfl⟩ := List.mem_map.mp member
      exact absent old listed (by simpa [same] using last)
    · rcases List.mem_append.mp listed with among | new
      · exact tidy.inside old among
      · rw [List.mem_singleton.mp new]
        exact inside

/-- An entry that is put where it stands changes nothing. -/
theorem Tidy.put_same (tidy : tree.Tidy) (present : tree.entry? location = some entry) :
    tree.put location entry = tree := by
  rw [Tree.put, present, Option.isSome_some, if_pos rfl]
  congr 1
  refine (List.map_congr_left fun old listed => ?_).trans (List.map_id _)
  split
  · rename_i here
    have same := (entry?_eq_some tidy.distinct (tidy.inside old listed)).mpr listed
    rw [here, present] at same
    rw [id, Option.some.inj same, ← here]
  · rfl

/-! ### Trees with the same links -/

/-- Two trees have the same links. -/
def SameLinks (before after : Tree) : Prop :=
  ∀ location target, before.entry? location = some (.link target) ↔
    after.entry? location = some (.link target)

theorem SameLinks.trans {middle : Tree} (first : SameLinks before middle)
    (second : SameLinks middle after) : SameLinks before after := fun location target =>
  (first location target).trans (second location target)

theorem Overwrites.sameLinks (overwrites : before.Overwrites after place bytes) : SameLinks before after := by
  intro location target
  constructor
  · exact fun present => overwrites.kept present (by simp)
  · intro present
    rw [overwrites.entry?] at present
    split at present
    · cases present
    · exact present

/-- No entry of the tree is a link. -/
def Linkless (tree : Tree) : Prop := ∀ location target, tree.entry? location ≠ some (.link target)

theorem linkless_of_entries (plain : ∀ entry ∈ tree.entries, ¬(entry.2 matches .link _)) :
    tree.Linkless := by
  intro location target present
  by_cases inside : location = []
  · subst inside
    cases present
  · exact plain _ (mem_entries inside present) rfl

theorem SameLinks.linkless (same : SameLinks before after) (linkless : before.Linkless) :
    after.Linkless := fun location target present =>
  linkless location target ((same location target).mpr present)

/-- How many links a tree has. -/
def linkCount (tree : Tree) : Nat := (tree.entries.filter fun entry => entry.2 matches .link _).length

theorem SameLinks.linkCount (same : SameLinks before after) (tidy : before.Tidy) (tidy' : after.Tidy) :
    after.linkCount = before.linkCount := by
  refine List.Perm.length_eq ((List.perm_ext_iff_of_nodup ?_ ?_).mpr fun ⟨location, entry⟩ => ?_)
  · exact (List.Nodup.of_map _ tidy'.distinct).filter _
  · exact (List.Nodup.of_map _ tidy.distinct).filter _
  · cases entry with
    | link target =>
      by_cases inside : location = []
      · subst inside
        have none (tree : Tree) (tidy : tree.Tidy) : ([], Entry.link target) ∉ tree.entries :=
          fun listed => tidy.inside _ listed rfl
        simp [none _ tidy, none _ tidy']
      · simp only [List.mem_filter, and_true, ← entry?_eq_some tidy.distinct inside,
          ← entry?_eq_some tidy'.distinct inside]
        exact (same location target).symm
    | _ => simp

/-- Resolution looks at links only. -/
theorem SameLinks.resolveFrom (same : SameLinks before after) (fuel : Nat) (here : Location)
    (seen : List (Location × Option Location)) (names : List Text) :
    after.resolveFrom fuel here seen names = before.resolveFrom fuel here seen names := by
  fun_induction before.resolveFrom fuel here seen names with
  | case1 fuel here seen => rw [Tree.resolveFrom]
  | case2 fuel here seen rest ih => rw [Tree.resolveFrom, if_pos rfl, ih]
  | case3 fuel here seen name rest up next target present known noted ih =>
    rw [resolveFrom_known up ((same _ _).mp present) noted, ih]
  | case4 fuel here seen name rest up next target present noted =>
    have present' := (same (here ++ [name]) target).mp present
    have noted' : note? seen (here ++ [name]) = some none := noted
    rw [Tree.resolveFrom, if_neg up]
    simp only [present', noted']
    rfl
  | case5 here seen name rest up next target present noted =>
    have present' := (same (here ++ [name]) target).mp present
    have noted' : note? seen (here ++ [name]) = none := noted
    rw [Tree.resolveFrom, if_neg up]
    simp only [present', noted']
    rfl
  | case6 here seen name rest up next target present noted left path inner complete ihSame ihInside ihOnward =>
    have present' := (same (here ++ [name]) target).mp present
    have noted' : note? seen (here ++ [name]) = none := noted
    have inside : after.resolveFrom left (linkBase here target) ((here ++ [name], none) :: seen)
      (Path.ofText target).names = inner := ihInside
    rw [linkBase] at inside
    rw [Tree.resolveFrom, if_neg up]
    simp only [present', noted', inside]
    exact (if_pos complete).trans ihOnward
  | case7 here seen name rest up next target present noted left path inner broken ihInside =>
    have present' := (same (here ++ [name]) target).mp present
    have noted' : note? seen (here ++ [name]) = none := noted
    have inside : after.resolveFrom left (linkBase here target) ((here ++ [name], none) :: seen)
      (Path.ofText target).names = inner := ihInside
    rw [linkBase] at inside
    rw [Tree.resolveFrom, if_neg up]
    simp only [present', noted', inside]
    exact if_neg broken
  | case8 fuel here seen name rest up next solid ih =>
    have solid' : ∀ target, after.entry? (here ++ [name]) ≠ some (.link target) :=
      fun target present => solid target ((same _ _).mpr present)
    rw [resolveFrom_down up solid', ih]

end Tree

namespace Host
variable {before after host made made' : Host} {place location : Location} {bytes : List UInt8}
  {path found : Path}
open SymbolIndex.Tree

/-- One host is the other with a file that has new bytes, or is new in its directory. -/
structure Rewrites (before after : Host) (place : Location) (bytes : List UInt8) : Prop where
  tree : before.tree.Overwrites after.tree place bytes
  cwd : after.cwd = before.cwd
  platform : after.platform = before.platform

theorem Writes.rewrites (writes : before.Writes after path place bytes) :
    before.Rewrites after place bytes := ⟨writes.tree, writes.cwd, writes.platform⟩

/-- A path leads to a location, whether or not anything is there. -/
def LeadsTo (host : Host) (path : Path) (location : Location) : Prop :=
  ∃ found, host.lookup true path = .ok found ∧ found.location = location

theorem resolve_eq (usable : isUsable path = true) (given : found = ⟨['/'], Path.collapse true []
      (host.tree.resolveFrom host.tree.linkCount [] [] (host.cwd.join path).names).location⟩) :
    host.resolve path = match host.lookup true found with
      | .error .tooManyLinks => .error (.linkLoop found)
      | _ => .ok found := by
  rw [resolve, if_pos usable, given]
  rfl

theorem resolve_found (done : host.resolve path = .ok found) : found = ⟨['/'], Path.collapse true []
    (host.tree.resolveFrom host.tree.linkCount [] [] (host.cwd.join path).names).location⟩ := by
  rw [resolve_eq (resolve_eq_ok done).1 rfl] at done
  split at done
  · cases done
  · exact (Except.ok.inj done).symm

section Resolve
variable (same : before.tree.SameLinks after.tree) (tidy : before.tree.Tidy)
  (tidy' : after.tree.Tidy) (cwd : after.cwd = before.cwd) (done : before.resolve path = .ok found)
include same tidy tidy' cwd done

/-- A path is resolved as on a host with the same links, if that is not one link too many. -/
theorem resolve_congr (ends : after.lookup true found ≠ .error .tooManyLinks) :
    after.resolve path = .ok found := by
  have ended := resolve_found done
  rw [← same.resolveFrom, ← same.linkCount tidy tidy', ← cwd] at ended
  rw [resolve_eq (resolve_eq_ok done).1 ended]
  split
  · rename_i circle
    exact absurd circle ends
  · rfl

/-- A path that is resolved on both hosts is resolved alike. -/
theorem resolve_unique {found' : Path} (done' : after.resolve path = .ok found') : found' = found := by
  rw [resolve_found done', resolve_found done, same.resolveFrom, same.linkCount tidy tidy', cwd]

end Resolve

theorem AddsDirectories.sameLinks (adds : AddsDirectories before after) :
    before.tree.SameLinks after.tree := by
  refine fun location target => ⟨adds.keeps location _, fun present => ?_⟩
  exact (adds.adds location _ present).resolve_right (by simp)

/-- A path to a name directly in a directory leads to its place there, if that is no link. -/
theorem At.location_child {name : Text} {end' : Found} (there : host.At path location)
    (named : IsName name)
    (unlinked : ∀ target, host.tree.entry? (location ++ [name]) ≠ some (.link target))
    (reached : host.lookup true (path.child name) = .ok end') : end'.location = location ++ [name] := by
  obtain ⟨left, settled⟩ := there.walk_child name
  rw [settled, walk_cons named] at reached
  cases present : host.tree.entry? (location ++ [name]) with
  | none =>
    rw [present] at reached
    rw [← Except.ok.inj reached]
    rfl
  | some entry =>
    rw [present] at reached
    cases entry with
    | file old =>
      rw [← Except.ok.inj reached]
      rfl
    | directory =>
      rw [← Except.ok.inj (walk_nil.symm.trans reached)]
      rfl
    | link target => exact absurd present (unlinked target)

theorem writeBytes_tidy {written : Host} (rooted : host.tree.Rooted) (tidy : host.tree.Tidy)
    (done : host.writeBytes path bytes = .ok written) : written.tree.Tidy := by
  obtain ⟨_, found, reached, free, _, rfl⟩ := writeBytes_eq_ok.mp done
  exact tidy.put (rooted.overwrites_put rfl reached free bytes).inside _

/-- Bytes that a file has are written without a change. -/
theorem writeBytes_same (tidy : host.tree.Tidy) (usable : isUsable path = true)
    (reached : host.lookup true path = .ok (.present location (.file bytes)))
    (allowed : host.platform.refuses location = none) :
    host.writeBytes path bytes = .ok host := by
  refine writeBytes_eq_ok.mpr ⟨usable, _, reached, by simp, allowed, ?_⟩
  rw [Found.location, tidy.put_same (entry?_of_walk reached)]

/-- A directory is not there where an entry could be added or nothing is found. -/
theorem isDirectory_of_lookup (missing : ∀ location entry,
    host.lookup false path ≠ .ok (.present location entry)) : host.isDirectory path = false := by
  refine Bool.eq_false_iff.mpr fun directory => ?_
  obtain ⟨location, there⟩ := isDirectory_iff.mp directory
  obtain ⟨other, found, reached⟩ := walk_unfollowed there.reached
  exact missing other found reached

/-- How a directory is made: it is added, alone or after those above it, or it is there. -/
theorem makeDirectories_cases (done : host.makeDirectories path = (made, none)) :
    host.addEntry path .directory = .ok made ∨
      (host.addEntry path .directory = .error .notFound ∧ ∃ above,
        host.makeDirectories path.parent = (above, none) ∧
          (above.addEntry path .directory = .ok made ∨ made = above ∧ above.isDirectory path = true)) ∨
      made = host ∧ host.isDirectory path = true := by
  rw [makeDirectories] at done
  split at done
  · cases done
  · split at done
    · rename_i added entered
      rw [← (Prod.mk.inj done).1]
      exact Or.inl entered
    · rename_i missing
      split at done
      · cases done
      · split at done
        · cases done
        · rename_i above upper
          refine Or.inr (Or.inl ⟨missing, above, upper, ?_⟩)
          split at done
          · rename_i added entered
            rw [← (Prod.mk.inj done).1]
            exact Or.inl entered
          · split at done
            · rename_i there
              rw [Bool.and_eq_true] at there
              exact Or.inr ⟨(Prod.mk.inj done).1.symm, there.2⟩
            · cases done
    · split at done
      · rename_i there
        exact Or.inr (Or.inr ⟨(Prod.mk.inj done).1.symm, there⟩)
      · cases done

section Rewrites
variable (rewrites : before.Rewrites after place bytes) (rooted : before.tree.Rooted)
include rewrites rooted

theorem Rewrites.lookup_cases (followLast : Bool) (path : Path) :
    (∃ found, before.lookup followLast path = .ok found ∧
      after.lookup followLast path = .ok (found.overwritten place bytes)) ∨
    ∃ fault, before.lookup followLast path = .error fault ∧
      (after.lookup followLast path = .error fault ∨
        fault = .notFound ∧ after.lookup followLast path = .error .notDirectory) := by
  simp only [Host.lookup, rewrites.cwd]
  exact rewrites.tree.walk_cases rooted rfl followLast

/-- Paths lead where they lead on the other host. -/
theorem Rewrites.leadsTo_iff : after.LeadsTo path location ↔ before.LeadsTo path location := by
  have kept (found : Found) : (found.overwritten place bytes).location = found.location := by
    rw [Found.overwritten]
    split
    · rename_i here
      exact here.symm
    · rfl
  rcases rewrites.lookup_cases rooted true path with ⟨found, reached, again⟩ | ⟨fault, failed, again⟩
  · rw [LeadsTo, LeadsTo, reached, again]
    simp [kept]
  · rcases again with again | ⟨_, again⟩ <;> simp [LeadsTo, failed, again]

/-- A path that does not lead to the file finds what it finds on the other host. -/
theorem Rewrites.lookup_apart (apart : ¬before.LeadsTo path place) :
    after.lookup true path = before.lookup true path ∨
      before.lookup true path = .error .notFound ∧ after.lookup true path = .error .notDirectory := by
  rcases rewrites.lookup_cases rooted true path with ⟨found, reached, again⟩ | ⟨fault, failed, again⟩
  · have other : found.location ≠ place := fun here => apart ⟨found, reached, here⟩
    rw [Found.overwritten, if_neg other] at again
    exact Or.inl (again.trans reached.symm)
  · rcases again with again | ⟨rfl, again⟩
    · exact Or.inl (again.trans failed.symm)
    · exact Or.inr ⟨failed, again⟩

theorem Rewrites.isFile_apart (apart : ¬before.LeadsTo path place) :
    after.isFile path = before.isFile path := by
  rcases rewrites.lookup_apart rooted apart with same | ⟨failed, again⟩
  · exact isFile_congr same
  · simp only [isFile, entryAt?, failed, again]

/-- Nothing else is refused. -/
theorem Rewrites.probe_eq (path : Path) : after.probe path = before.probe path := by
  rw [probe, probe]
  rcases rewrites.lookup_cases rooted true path with ⟨found, reached, again⟩ | ⟨fault, failed, again⟩
  · simp only [reached, again]
  · rcases again with again | ⟨rfl, again⟩ <;> simp only [failed, again]

theorem Rewrites.readBytes_apart (apart : ¬before.LeadsTo path place) (file : before.isFile path = true) :
    after.readBytes path = before.readBytes path := by
  rcases rewrites.lookup_apart rooted apart with same | ⟨failed, _⟩
  · exact readBytes_congr same
  · simp [isFile, entryAt?, failed] at file

/-- Directories are where they are on the other host. -/
theorem Rewrites.at_iff : after.At path location ↔ before.At path location := by
  constructor
  · rintro ⟨usable, reached⟩
    refine ⟨usable, ?_⟩
    rcases rewrites.lookup_cases rooted true path with ⟨found, old, again⟩ | ⟨fault, failed, again⟩
    · obtain same := Except.ok.inj (again.symm.trans reached)
      rw [Found.overwritten] at same
      split at same
      · cases (Found.present.inj same).2
      · rw [old, same]
    · rcases again with again | ⟨_, again⟩ <;> cases again.symm.trans reached
  · rintro ⟨usable, reached⟩
    obtain ⟨present, _⟩ := rooted.present_of_walk rfl reached
    have apart : location ≠ place := rewrites.tree.ne_place present (by simp)
    refine ⟨usable, ?_⟩
    rcases rewrites.lookup_cases rooted true path with ⟨found, old, again⟩ | ⟨fault, failed, _⟩
    · obtain rfl := Except.ok.inj (old.symm.trans reached)
      rw [again, Found.overwritten, Found.location, if_neg apart]
    · cases failed.symm.trans reached

theorem Rewrites.isDirectory_eq (path : Path) : after.isDirectory path = before.isDirectory path := by
  rw [Bool.eq_iff_iff, isDirectory_iff, isDirectory_iff]
  exact exists_congr fun location => rewrites.at_iff rooted

/-- A directory that is added on both hosts is the same. -/
theorem Rewrites.addEntry (done : before.addEntry path .directory = .ok made)
    (done' : after.addEntry path .directory = .ok made') : made.Rewrites made' place bytes := by
  obtain ⟨location, found, rfl⟩ := addEntry_eq_ok done
  obtain ⟨location', found', rfl⟩ := addEntry_eq_ok done'
  obtain ⟨inside, absent⟩ := absent_of_walk found
  have both : location = location' ∧ location ≠ place := by
    rcases rewrites.lookup_cases rooted false path with ⟨other, old, again⟩ | ⟨fault, failed, _⟩
    · obtain rfl := Except.ok.inj (found.symm.trans old)
      rw [Found.overwritten, found'] at again
      split at again
      · cases Except.ok.inj again
      · rename_i apart
        exact ⟨(Found.absent.inj (Except.ok.inj again)).symm, apart⟩
    · cases failed.symm.trans found
  obtain ⟨rfl, apart⟩ := both
  have tree := rewrites.tree
  refine ⟨⟨tree.inside, ?_, fun entry present => ?_, fun other => ?_⟩, rewrites.cwd, rewrites.platform⟩
  · rw [entry?_put inside]
    split
    · rfl
    · exact tree.above
  · rw [entry?_put inside, if_neg (Ne.symm apart)] at present
    exact tree.free entry present
  · rw [entry?_put inside, entry?_put inside, tree.entry?]
    by_cases here : other = location
    · rw [if_pos here, if_neg fun same => apart (here.symm.trans same), if_pos here]
    · rw [if_neg here, if_neg here]

/-- Nothing is found on the way to a path on one host where something is on the other. -/
theorem Rewrites.addEntry_notFound (missing : after.addEntry path .directory = .error .notFound) :
    before.addEntry path .directory = .error .notFound := by
  have lost := addEntry_eq_notFound missing
  rcases rewrites.lookup_cases rooted false path with ⟨_, _, again⟩ | ⟨fault, failed, again | ⟨_, again⟩⟩
  · cases again.symm.trans lost
  · obtain rfl := Except.error.inj (again.symm.trans lost)
    rw [Host.addEntry, failed]
  · cases again.symm.trans lost

/-- Directories that are made on both hosts are the same. -/
theorem Rewrites.makeDirectories (done : before.makeDirectories path = (made, none))
    (done' : after.makeDirectories path = (made', none)) : made.Rewrites made' place bytes := by
  have absent {host added : Host} {path : Path} (entered : host.addEntry path .directory = .ok added) :
      host.isDirectory path = false := by
    obtain ⟨location, found, _⟩ := addEntry_eq_ok entered
    exact isDirectory_of_lookup fun _ _ present => by cases found.symm.trans present
  have missed {host : Host} {path : Path} (missing : host.addEntry path .directory = .error .notFound) :
      host.isDirectory path = false := by
    have lost := addEntry_eq_notFound missing
    exact isDirectory_of_lookup fun _ _ present => by cases lost.symm.trans present
  have unreached {path : Path} {added : Host} (missing : before.addEntry path .directory = .error .notFound)
      (entered : after.addEntry path .directory = .ok added) : False := by
    obtain ⟨location, found, _⟩ := addEntry_eq_ok entered
    rcases rewrites.lookup_cases rooted false path with ⟨_, old, _⟩ | ⟨_, _, again | ⟨_, again⟩⟩
    · cases old.symm.trans (addEntry_eq_notFound missing)
    · cases again.symm.trans found
    · cases again.symm.trans found
  fun_induction before.makeDirectories path generalizing made made' with
  | case2 path unusable added entered =>
    obtain ⟨rfl, _⟩ := Prod.mk.inj done
    rcases makeDirectories_cases done' with entered' | ⟨missing, _⟩ | ⟨_, there⟩
    · exact rewrites.addEntry rooted entered entered'
    · cases entered.symm.trans (rewrites.addEntry_notFound rooted missing)
    · cases (absent entered).symm.trans ((rewrites.isDirectory_eq rooted path).symm.trans there)
  | case5 path unusable missing named above upper added entered ih =>
    obtain ⟨rfl, _⟩ := Prod.mk.inj done
    obtain ⟨rooted', _⟩ := makeDirectories_grown rooted upper
    rcases makeDirectories_cases done' with entered' | ⟨_, above', upper', last⟩ | ⟨_, there⟩
    · exact (unreached missing entered').elim
    · have rewrites' := ih upper upper'
      rcases last with entered' | ⟨_, there⟩
      · exact rewrites'.addEntry rooted' entered entered'
      · cases (absent entered).symm.trans ((rewrites'.isDirectory_eq rooted' path).symm.trans there)
    · cases (missed missing).symm.trans ((rewrites.isDirectory_eq rooted path).symm.trans there)
  | case6 path unusable missing named above upper fault refused there ih =>
    obtain ⟨rfl, _⟩ := Prod.mk.inj done
    rw [Bool.and_eq_true] at there
    obtain ⟨rooted', _⟩ := makeDirectories_grown rooted upper
    rcases makeDirectories_cases done' with entered' | ⟨_, above', upper', last⟩ | ⟨_, there'⟩
    · exact (unreached missing entered').elim
    · have rewrites' := ih upper upper'
      rcases last with entered' | ⟨rfl, _⟩
      · cases (absent entered').symm.trans ((rewrites'.isDirectory_eq rooted' path).trans there.2)
      · exact rewrites'
    · cases (missed missing).symm.trans ((rewrites.isDirectory_eq rooted path).symm.trans there')
  | case8 path unusable fault other refused there =>
    obtain ⟨rfl, _⟩ := Prod.mk.inj done
    have there' := (rewrites.isDirectory_eq rooted path).trans there
    rcases makeDirectories_cases done' with entered' | ⟨missing, _⟩ | ⟨rfl, _⟩
    · cases (absent entered').symm.trans there'
    · cases (missed missing).symm.trans there'
    · exact rewrites
  | _ => simp at done

end Rewrites

end Host
end SymbolIndex
