import SymbolIndex.Host.Basic
import SymbolIndex.Proofs.Host.Tree
import SymbolIndex.Proofs.Job
import SymbolIndex.Proofs.Text.Rows
import SymbolIndex.Proofs.Text.Utf8

/-! Directories on the host: what making one leaves as it was, and the files directly in one. -/
namespace SymbolIndex.Host
variable {host made written : Host} {path : Path} {location : Location} {entry : Entry} {name : Text}
  {bytes : List UInt8}
open SymbolIndex.Tree

/-- The path leads to the directory at a location. -/
structure At (host : Host) (path : Path) (location : Location) : Prop where
  usable : isUsable path = true
  reached : host.lookup true path = .ok (.present location .directory)

/-- What was there still is, and whatever else is there is a directory. -/
structure AddsDirectories (before after : Host) : Prop where
  keeps : before.tree.Extends after.tree
  adds : ∀ location entry, after.tree.entry? location = some entry →
    before.tree.entry? location = some entry ∨ entry = .directory
  cwd : after.cwd = before.cwd
  platform : after.platform = before.platform

theorem AddsDirectories.refl (host : Host) : AddsDirectories host host :=
  ⟨.refl _, fun _ _ present => Or.inl present, rfl, rfl⟩

theorem AddsDirectories.trans {before middle after : Host} (first : AddsDirectories before middle)
    (second : AddsDirectories middle after) : AddsDirectories before after where
  keeps := first.keeps.trans second.keeps
  adds location entry present := by
    rcases second.adds location entry present with old | directory
    · exact first.adds location entry old
    · exact Or.inr directory
  cwd := second.cwd.trans first.cwd
  platform := second.platform.trans first.platform

theorem place_eq_ok : host.place location entry = .ok made ↔
    host.platform.refuses location = none ∧
      made = { host with tree := host.tree.put location entry } := by
  rw [place]
  cases host.platform.refuses location <;> simp [eq_comm]

theorem place_eq_error {fault : OsFault} : host.place location entry = .error fault ↔
    ∃ refusal, host.platform.refuses location = some refusal ∧ fault = .refused refusal := by
  rw [place]
  cases host.platform.refuses location <;> simp [eq_comm]

theorem addEntry_eq_ok (done : host.addEntry path entry = .ok made) :
    ∃ location, host.lookup false path = .ok (.absent location) ∧
      made = { host with tree := host.tree.put location entry } := by
  unfold addEntry at done
  split at done
  · cases done
  · rename_i location found
    exact ⟨location, found, (place_eq_ok.mp done).2⟩
  · cases done

/-- A file is written where its path leads, unless that is a directory or refused. -/
theorem writeBytes_eq_ok : host.writeBytes path bytes = .ok written ↔
    isUsable path = true ∧ ∃ found, host.lookup true path = .ok found ∧
      (∀ location, found ≠ .present location .directory) ∧
      host.platform.refuses found.location = none ∧
      written = { host with tree := host.tree.put found.location (.file bytes) } := by
  rw [writeBytes]
  split
  · rename_i usable
    simp only [usable, true_and]
    split
    · rename_i location reached
      refine iff_of_false nofun ?_
      rintro ⟨_, same, free, _⟩
      exact free location (Except.ok.inj (same.symm.trans reached))
    · rename_i found directory reached
      rw [mapError_eq_ok, place_eq_ok]
      constructor
      · exact fun done => ⟨found, reached, fun location same => directory location (same ▸ rfl), done⟩
      · rintro ⟨_, same, _, done⟩
        obtain rfl := Except.ok.inj (reached.symm.trans same)
        exact done
    · rename_i fault failed
      exact iff_of_false nofun fun ⟨_, same, _⟩ => nomatch failed.symm.trans same
  · rename_i unusable
    exact iff_of_false nofun fun wrote => unusable wrote.1

/-- A directory is where it was when a file is written. -/
theorem At.writeBytes_kept {other : Path} (there : host.At path location)
    (wrote : host.writeBytes other bytes = .ok written) : written.At path location := by
  obtain ⟨_, found, reached, free, _, rfl⟩ := writeBytes_eq_ok.mp wrote
  have replaced : found.location ≠ [] ∧
      ∀ entry, host.tree.entry? found.location = some entry → ∃ old, entry = .file old := by
    cases found with
    | absent spot =>
      obtain ⟨inside, absent⟩ := absent_of_walk reached
      exact ⟨inside, fun entry present => nomatch absent.symm.trans present⟩
    | present spot entry =>
      cases entry with
      | directory => exact absurd rfl (free spot)
      | link target => exact absurd rfl (not_link_of_walk reached target)
      | file old =>
        have present := entry?_of_walk reached
        refine ⟨?_, fun other same => ⟨old, Option.some.inj (same.symm.trans present)⟩⟩
        rintro same
        cases (congrArg host.tree.entry? same.symm).trans present
  refine ⟨there.usable, walk_directory (fun spot entry present other => ?_) there.reached⟩
  rw [entry?_put replaced.1, if_neg]
  · exact present
  · rintro rfl
    obtain ⟨old, same⟩ := replaced.2 entry present
    exact other old same

theorem addsDirectories_addEntry (done : host.addEntry path .directory = .ok made) :
    AddsDirectories host made := by
  obtain ⟨location, found, rfl⟩ := addEntry_eq_ok done
  obtain ⟨inside, absent⟩ := absent_of_walk found
  refine ⟨extends_put inside absent .directory, fun other old present => ?_, rfl, rfl⟩
  rw [entry?_put inside] at present
  split at present
  · exact Or.inr (Option.some.inj present).symm
  · exact Or.inl present

/-- A usable path leads to the entry that its look-up gets to. -/
theorem entryAt?_eq_some {entry : Entry} : host.entryAt? path = some entry ↔
    isUsable path = true ∧ ∃ location, host.lookup true path = .ok (.present location entry) := by
  constructor
  · intro found
    unfold entryAt? at found
    split at found
    · rename_i usable
      split at found
      · rename_i location other reached
        obtain rfl := Option.some.inj found
        exact ⟨usable, location, reached⟩
      · cases found
    · cases found
  · rintro ⟨usable, location, reached⟩
    rw [entryAt?, if_pos usable, reached]

theorem isDirectory_iff : host.isDirectory path = true ↔ ∃ location, host.At path location := by
  rw [isDirectory, decide_eq_true_iff, entryAt?_eq_some]
  constructor
  · rintro ⟨usable, location, reached⟩
    exact ⟨location, usable, reached⟩
  · rintro ⟨location, usable, reached⟩
    exact ⟨usable, location, reached⟩

/-- A directory that was added is there, and nothing was. -/
theorem at_of_addEntry (usable : isUsable path = true)
    (done : host.addEntry path .directory = .ok made) :
    ∃ location, host.lookup false path = .ok (.absent location) ∧
      made = { host with tree := host.tree.put location .directory } ∧ made.At path location := by
  obtain ⟨location, found, rfl⟩ := addEntry_eq_ok done
  obtain ⟨inside, absent⟩ := absent_of_walk found
  have filled : Tree.entry? (host.tree.put location .directory) location = some .directory := by
    rw [entry?_put inside, if_pos rfl]
  have reached := walk_filled (extends_put inside absent .directory) filled (fun _ => nofun) found
  exact ⟨location, found, rfl, usable, reached⟩

/-- Making a directory succeeds with the directory there, and adds nothing but directories. -/
theorem makeDirectories_spec (done : host.makeDirectories path = (made, none)) :
    AddsDirectories host made ∧ ∃ location, made.At path location := by
  fun_induction host.makeDirectories path generalizing made with
  | case2 path unusable added done' =>
    obtain ⟨rfl, _⟩ := Prod.mk.inj done
    obtain ⟨location, _, _, there⟩ := at_of_addEntry (by simpa using unusable) done'
    exact ⟨addsDirectories_addEntry done', location, there⟩
  | case5 path unusable missing named above done' added last ih =>
    obtain ⟨rfl, _⟩ := Prod.mk.inj done
    obtain ⟨adds, _⟩ := ih done'
    obtain ⟨location, _, _, there⟩ := at_of_addEntry (by simpa using unusable) last
    exact ⟨adds.trans (addsDirectories_addEntry last), location, there⟩
  | case6 path unusable missing named above done' fault last kept ih =>
    obtain ⟨rfl, _⟩ := Prod.mk.inj done
    rw [Bool.and_eq_true] at kept
    exact ⟨(ih done').1, isDirectory_iff.mp kept.2⟩
  | case8 path unusable fault other last kept =>
    obtain ⟨rfl, _⟩ := Prod.mk.inj done
    exact ⟨.refl host, isDirectory_iff.mp kept⟩
  | _ => simp at done

theorem join_child (base path : Path) (name : Text) :
    (base.join (path.child name)).names = (base.join path).names ++ [name] := by
  unfold Path.join Path.child Path.isAbsolute
  split <;> simp

/-- The root is a directory of every tree. -/
theorem at_top (host : Host) : host.At ⟨['/'], []⟩ [] :=
  ⟨rfl, walk_nil⟩

/-- A walk to a name directly in a directory is settled by the entry there. -/
theorem At.walk_child (there : host.At path location) (name : Text) : ∃ left, ∀ followLast,
    host.lookup followLast (path.child name) = host.tree.walk followLast left location [name] := by
  obtain ⟨left, onward⟩ := walk_append there.reached
  exact ⟨left, fun followLast => by rw [← onward, lookup, join_child]⟩

theorem At.lookup_absent (there : host.At path location) (named : IsName name)
    (absent : host.tree.entry? (location ++ [name]) = none) (followLast : Bool) :
    host.lookup followLast (path.child name) = .ok (.absent (location ++ [name])) := by
  obtain ⟨left, settled⟩ := there.walk_child name
  rw [settled, walk_cons named, absent]
  rfl

theorem At.lookup_file (there : host.At path location) (named : IsName name)
    (present : host.tree.entry? (location ++ [name]) = some (.file bytes)) :
    host.lookup true (path.child name) = .ok (.present (location ++ [name]) (.file bytes)) := by
  obtain ⟨left, settled⟩ := there.walk_child name
  rw [settled, walk_cons named, present]
  rfl

theorem At.readBytes (there : host.At path location) (named : IsName name)
    (usable : isUsable (path.child name) = true)
    (present : host.tree.entry? (location ++ [name]) = some (.file bytes)) :
    host.readBytes (path.child name) = .ok bytes := by
  rw [Host.readBytes, if_pos usable, there.lookup_file named present]

theorem At.lookup_directory (there : host.At path location) (named : IsName name)
    (present : host.tree.entry? (location ++ [name]) = some .directory) (followLast : Bool) :
    host.lookup followLast (path.child name) = .ok (.present (location ++ [name]) .directory) := by
  obtain ⟨left, settled⟩ := there.walk_child name
  rw [settled, walk_cons named, present]
  exact walk_nil

/-- The directory stays where it is in every larger tree. -/
theorem At.extends {after : Host} (there : host.At path location)
    (larger : host.tree.Extends after.tree) (cwd : after.cwd = host.cwd) : after.At path location := by
  refine ⟨there.usable, ?_⟩
  rw [lookup, cwd]
  exact walk_extends larger there.reached

theorem readBytes_eq_ok (done : host.readBytes path = .ok bytes) : isUsable path = true ∧
    ∃ location, host.lookup true path = .ok (.present location (.file bytes)) := by
  unfold readBytes at done
  split at done
  · rename_i usable
    split at done
    · rename_i location found reached
      obtain rfl := Except.ok.inj done
      exact ⟨usable, location, reached⟩
    all_goals cases done
  · cases done

theorem isFile_iff : host.isFile path = true ↔ ∃ bytes, host.readBytes path = .ok bytes := by
  constructor
  · intro file
    unfold isFile at file
    split at file
    · rename_i bytes leads
      obtain ⟨usable, location, reached⟩ := entryAt?_eq_some.mp leads
      exact ⟨bytes, by rw [readBytes, if_pos usable, reached]⟩
    · cases file
  · rintro ⟨bytes, done⟩
    rw [isFile, entryAt?_eq_some.mpr (readBytes_eq_ok done)]

theorem pathExists_of_readBytes (done : host.readBytes path = .ok bytes) :
    host.pathExists path = true := by
  rw [pathExists, entryAt?_eq_some.mpr (readBytes_eq_ok done)]
  rfl

theorem readBytes_extends {after : Host} (larger : host.tree.Extends after.tree)
    (cwd : after.cwd = host.cwd) (done : host.readBytes path = .ok bytes) :
    after.readBytes path = .ok bytes := by
  obtain ⟨usable, location, reached⟩ := readBytes_eq_ok done
  rw [readBytes, if_pos usable, lookup, cwd, walk_extends larger reached]

theorem At.writeBytes_ok (there : host.At path location) (named : IsName name)
    (usable : isUsable (path.child name) = true)
    (absent : host.tree.entry? (location ++ [name]) = none)
    (allowed : host.platform.refuses (location ++ [name]) = none) (bytes : List UInt8) :
    host.writeBytes (path.child name) bytes =
      .ok { host with tree := host.tree.put (location ++ [name]) (.file bytes) } :=
  writeBytes_eq_ok.mpr ⟨usable, _, there.lookup_absent named absent true, nofun, allowed, rfl⟩

/-- Where no file or link is in the way, a file written into a directory becomes an entry of its
own, and everything else stays. -/
theorem At.writeBytes_spec (there : host.At path location) (named : IsName name)
    (clear : ∀ entry, host.tree.entry? (location ++ [name]) = some entry → entry = .directory)
    (done : host.writeBytes (path.child name) bytes = .ok written) :
    host.tree.Extends written.tree ∧ written.cwd = host.cwd ∧
      written.readBytes (path.child name) = .ok bytes ∧
      ∀ other, other ≠ location ++ [name] → written.tree.entry? other = host.tree.entry? other := by
  obtain ⟨usable, found, reached, free, _, rfl⟩ := writeBytes_eq_ok.mp done
  cases present : host.tree.entry? (location ++ [name]) with
  | none =>
    rw [there.lookup_absent named present] at reached
    obtain rfl := Except.ok.inj reached
    have inside : location ++ [name] ≠ [] := by simp
    have larger := extends_put inside present (.file bytes)
    refine ⟨larger, rfl, ?_, fun other apart => (entry?_put inside _ other).trans (if_neg apart)⟩
    have filled : Tree.entry? (host.tree.put (location ++ [name]) (.file bytes)) (location ++ [name]) =
        some (.file bytes) := by rw [entry?_put inside, if_pos rfl]
    have kept : At { host with tree := host.tree.put (location ++ [name]) (.file bytes) } path location :=
      there.extends larger rfl
    exact kept.readBytes named usable filled
  | some entry =>
    obtain rfl := clear entry present
    rw [there.lookup_directory named present] at reached
    exact absurd (Except.ok.inj reached).symm (free _)

theorem entry?_of_below (vacant : host.tree.below location = []) (name : Text) :
    host.tree.entry? (location ++ [name]) = none := by
  rw [entry?_of_ne_nil (by simp), Option.map_eq_none_iff, List.find?_eq_none]
  intro entry member same
  have same : entry.1 = location ++ [name] := by simpa using same
  have below : (entry.1.drop location.length, entry.2) ∈ host.tree.below location := by
    refine List.mem_map.mpr ⟨entry, List.mem_filter.mpr ⟨member, ?_⟩, rfl⟩
    simp [same]
  rw [vacant] at below
  cases below

/-- Files have sizes that file systems can count: less than 63 bits. -/
def Sized (host : Host) : Prop :=
  ∀ location bytes, host.tree.entry? location = some (.file bytes) → bytes.length < Nat.pow 2 63

theorem Sized.adds {after : Host} (sized : host.Sized) (adds : AddsDirectories host after) :
    after.Sized := by
  intro location bytes present
  rcases adds.adds location _ present with old | directory
  · exact sized location bytes old
  · cases directory

theorem readText_eq_ok {text : Text} : host.readText path = .ok text ↔ ∃ bytes raw,
    host.readBytes path = .ok bytes ∧ Utf8.decode bytes = .ok raw ∧
      Text.normaliseNewlines raw = text := by
  rw [readText, exceptBind_eq_ok]
  refine exists_congr fun bytes => ?_
  cases Utf8.decode bytes <;> simp

/-- Texts of sized files are no longer than the files. -/
theorem Sized.length_lt {text : Text} (sized : host.Sized) (read : host.readText path = .ok text) :
    text.length < Nat.pow 2 63 := by
  obtain ⟨bytes, raw, stored, spelled, rfl⟩ := readText_eq_ok.mp read
  obtain ⟨_, location, reached⟩ := readBytes_eq_ok stored
  have small : bytes.length < Nat.pow 2 63 := sized location bytes (entry?_of_walk reached)
  have shorter := Text.length_normaliseNewlines_le raw
  have counted := Utf8.length_le_of_decode spelled
  omega

end SymbolIndex.Host
