import SymbolIndex.Proofs.Host.Growth

/-! Writing a file, whether or not it was there: its path leads to the new bytes, and every path that
led somewhere leads there still. -/
namespace SymbolIndex
namespace Tree

variable {tree before after : Tree} {place location here : Location} {bytes : List UInt8}
  {names : List Text} {links : Nat} {found : Found}

/-- One file has new bytes, or is new in its directory. -/
structure Overwrites (before after : Tree) (place : Location) (bytes : List UInt8) : Prop where
  inside : place ≠ []
  above : before.entry? place.dropLast = some .directory
  free : ∀ entry, before.entry? place = some entry → ∃ old, entry = .file old
  entry? : ∀ other, after.entry? other =
    if other = place then some (.file bytes) else before.entry? other

theorem Overwrites.ne_place (overwrites : before.Overwrites after place bytes) {entry : Entry}
    (present : before.entry? location = some entry) (other : ∀ old, entry ≠ .file old) :
    location ≠ place := by
  rintro rfl
  obtain ⟨old, same⟩ := overwrites.free entry present
  exact other old same

theorem Overwrites.kept (overwrites : before.Overwrites after place bytes) {entry : Entry}
    (present : before.entry? location = some entry) (other : ∀ old, entry ≠ .file old) :
    after.entry? location = some entry := by
  rw [overwrites.entry?, if_neg (overwrites.ne_place present other), present]

theorem Overwrites.rooted (overwrites : before.Overwrites after place bytes)
    (rooted : before.Rooted) : after.Rooted := by
  intro location name entry present
  rw [overwrites.entry?] at present
  have above : before.entry? location = some .directory := by
    split at present
    · rename_i same
      have above := overwrites.above
      rwa [← same, List.dropLast_concat] at above
    · exact rooted _ _ _ present
  exact overwrites.kept above (by simp)

/-- What is found once a file is written. -/
def Found.overwritten (place : Location) (bytes : List UInt8) (found : Found) : Found :=
  if found.location = place then .present place (.file bytes) else found

/-- A walk ends where it ended; one that found nothing on its way may now find the file there. -/
theorem Overwrites.walk_cases (overwrites : before.Overwrites after place bytes) (rooted : before.Rooted)
    (start : before.entry? here = some .directory) (followLast : Bool) :
    (∃ found, before.walk followLast links here names = .ok found ∧
      after.walk followLast links here names = .ok (found.overwritten place bytes)) ∨
    ∃ fault, before.walk followLast links here names = .error fault ∧
      (after.walk followLast links here names = .error fault ∨
        fault = .notFound ∧ after.walk followLast links here names = .error .notDirectory) := by
  fun_induction before.walk followLast links here names with
  | case1 links here =>
    have apart : here ≠ place := overwrites.ne_place start (by simp)
    exact Or.inl ⟨_, rfl, by simp [walk_nil, Found.overwritten, Found.location, apart]⟩
  | case2 links here rest ih =>
    rw [walk_up]
    exact ih (rooted.dropLast start)
  | case3 links here name rest up long =>
    rw [walk, if_neg up, if_pos long]
    exact Or.inr ⟨_, rfl, Or.inl rfl⟩
  | case4 links here name rest up long next absent last =>
    refine Or.inl ⟨_, rfl, ?_⟩
    rw [walk_cons ⟨up, by omega⟩, overwrites.entry?, absent]
    by_cases same : here ++ [name] = place <;>
      simp [Found.overwritten, Found.location, next, same, last]
  | case5 links here name rest up long next absent more =>
    refine Or.inr ⟨_, rfl, ?_⟩
    rw [walk_cons ⟨up, by omega⟩, overwrites.entry?, absent]
    by_cases same : here ++ [name] = place <;> simp [same, more]
  | case6 links here name rest up long next present ih =>
    rw [walk_cons ⟨up, by omega⟩, overwrites.kept present (by simp)]
    exact ih present
  | case7 links here name rest up long next old present last =>
    refine Or.inl ⟨_, rfl, ?_⟩
    rw [walk_cons ⟨up, by omega⟩, overwrites.entry?, present]
    by_cases same : here ++ [name] = place <;>
      simp [Found.overwritten, Found.location, next, same, last]
  | case8 links here name rest up long next old present more =>
    refine Or.inr ⟨_, rfl, Or.inl ?_⟩
    rw [walk_cons ⟨up, by omega⟩, overwrites.entry?, present]
    by_cases same : here ++ [name] = place <;> simp [same, more]
  | case9 links here name rest up long next target present last =>
    have apart : next ≠ place := overwrites.ne_place present (by simp)
    refine Or.inl ⟨_, rfl, ?_⟩
    rw [walk_cons ⟨up, by omega⟩, overwrites.kept present (by simp)]
    rw [Found.overwritten, Found.location, if_neg apart]
    simp only [last, if_true]
    rfl
  | case10 here name rest up long next target present more =>
    rw [walk_cons ⟨up, by omega⟩, overwrites.kept present (by simp)]
    simp only [more]
    exact Or.inr ⟨_, rfl, Or.inl rfl⟩
  | case11 here name rest up long next target present more left path ih =>
    rw [walk_cons ⟨up, by omega⟩, overwrites.kept present (by simp)]
    simp only [more]
    refine ih ?_
    split
    · rfl
    · exact start

theorem Overwrites.walk (overwrites : before.Overwrites after place bytes) (rooted : before.Rooted)
    (start : before.entry? here = some .directory)
    (reached : before.walk true links here names = .ok found) :
    after.walk true links here names = .ok (found.overwritten place bytes) := by
  rcases overwrites.walk_cases rooted start true with ⟨other, ended, again⟩ | ⟨fault, failed, _⟩
  · obtain rfl := Except.ok.inj (ended.symm.trans reached)
    exact again
  · cases failed.symm.trans reached

theorem Rooted.above_present (rooted : tree.Rooted) {entry : Entry} (inside : location ≠ [])
    (present : tree.entry? location = some entry) : tree.entry? location.dropLast = some .directory := by
  rw [← List.dropLast_concat_getLast inside] at present
  exact rooted _ _ _ present

/-- Putting a file where a walk ends, if not at a directory, writes it. -/
theorem Rooted.overwrites_put (rooted : tree.Rooted) (start : tree.entry? here = some .directory)
    (reached : tree.walk true links here names = .ok found)
    (free : ∀ location, found ≠ .present location .directory) (bytes : List UInt8) :
    tree.Overwrites (tree.put found.location (.file bytes)) found.location bytes := by
  cases found with
  | absent location =>
    obtain ⟨inside, absent⟩ := absent_of_walk reached
    obtain ⟨above, name, rfl, directory⟩ := rooted.above_absent start reached
    refine ⟨inside, by simpa [Found.location] using directory, ?_, entry?_put inside _⟩
    intro entry present
    rw [Found.location, absent] at present
    cases present
  | present location entry =>
    obtain ⟨present, solid⟩ := rooted.present_of_walk start reached
    have file : ∃ old, entry = .file old := by
      cases entry with
      | file old => exact ⟨old, rfl⟩
      | directory => exact absurd rfl (free location)
      | link target => exact absurd rfl (solid target)
    have inside : location ≠ [] := by
      rintro rfl
      obtain ⟨old, rfl⟩ := file
      cases present
    refine ⟨inside, rooted.above_present inside present, ?_, entry?_put inside _⟩
    intro other here
    rw [Found.location, present] at here
    exact Option.some.inj here ▸ file

/-- A walk along names that are no links goes straight down. -/
theorem walk_straight {followLast : Bool} (plain : ['.', '.'] ∉ names)
    (solid : ∀ front target, front <+: names → tree.entry? (here ++ front) ≠ some (.link target))
    (reached : tree.walk followLast links here names = .ok found) : found.location = here ++ names := by
  induction names generalizing here with
  | nil =>
    rw [walk_nil] at reached
    rw [← Except.ok.inj reached, Found.location, List.append_nil]
  | cons name rest ih =>
    rw [List.mem_cons, not_or] at plain
    have named : IsName name := by
      refine ⟨Ne.symm plain.1, Nat.le_of_not_lt fun long => ?_⟩
      rw [walk, if_neg (Ne.symm plain.1), if_pos long] at reached
      cases reached
    have onward (front : List Text) (target : Text) (ahead : front <+: rest) :
        tree.entry? (here ++ [name] ++ front) ≠ some (.link target) := by
      rw [← List.append_cons]
      exact solid _ target ((List.prefix_cons_inj name).mpr ahead)
    rw [walk_cons named] at reached
    cases present : tree.entry? (here ++ [name]) with
    | none =>
      simp only [present] at reached
      split at reached
      · rename_i last
        rw [← Except.ok.inj reached, List.isEmpty_iff.mp last]
        rfl
      · cases reached
    | some entry =>
      simp only [present] at reached
      cases entry with
      | directory =>
        rw [List.append_cons]
        exact ih plain.2 onward reached
      | file bytes =>
        dsimp only at reached
        split at reached
        · rename_i last
          rw [← Except.ok.inj reached, List.isEmpty_iff.mp last]
          rfl
        · cases reached
      | link target => exact absurd present (solid [name] target (by simp))

end Tree

namespace Host
variable {host made written before after : Host} {path other : Path} {place location : Location}
  {bytes : List UInt8} {found : Found} {entry : Entry}
open SymbolIndex.Tree

/-- The place of the entry that a path leads to. -/
def place? (host : Host) (path : Path) : Option Location :=
  match host.lookup true path with
  | .ok (.present location _) => some location
  | _ => none

theorem place?_of_lookup (reached : host.lookup true path = .ok (.present location entry)) :
    host.place? path = some location := by
  rw [place?, reached]

theorem lookup_of_place? (led : host.place? path = some location) :
    ∃ entry, host.lookup true path = .ok (.present location entry) := by
  unfold place? at led
  split at led
  · rename_i entry reached
    obtain rfl := Option.some.inj led
    exact ⟨entry, reached⟩
  · cases led

/-- The file that a path leads to has new bytes, and nothing else changes. -/
structure Writes (before after : Host) (path : Path) (place : Location) (bytes : List UInt8) :
    Prop where
  tree : before.tree.Overwrites after.tree place bytes
  cwd : after.cwd = before.cwd
  platform : after.platform = before.platform
  usable : isUsable path = true
  led : ∃ found, before.lookup true path = .ok found ∧ found.location = place
  allowed : before.platform.refuses place = none
  reached : after.lookup true path = .ok (.present place (.file bytes))

/-- Paths lead where they led. -/
theorem Writes.lookup (writes : before.Writes after path place bytes) (rooted : before.tree.Rooted)
    (reached : before.lookup true other = .ok found) :
    after.lookup true other = .ok (found.overwritten place bytes) := by
  rw [Host.lookup, writes.cwd]
  exact writes.tree.walk rooted rfl reached

theorem Writes.at (writes : before.Writes after path place bytes) (rooted : before.tree.Rooted)
    (there : before.At other location) : after.At other location := by
  obtain ⟨present, _⟩ := rooted.present_of_walk rfl there.reached
  refine ⟨there.usable, ?_⟩
  have apart : location ≠ place := writes.tree.ne_place present (by simp)
  simp [writes.lookup rooted there.reached, Found.overwritten, Found.location, apart]

theorem Writes.readBytes (writes : before.Writes after path place bytes) :
    after.readBytes path = .ok bytes := by
  rw [Host.readBytes, if_pos writes.usable, writes.reached]

theorem Writes.place? (writes : before.Writes after path place bytes) (rooted : before.tree.Rooted)
    (led : before.place? other = some location) : after.place? other = some location := by
  obtain ⟨entry, reached⟩ := lookup_of_place? led
  have again := writes.lookup rooted reached
  by_cases same : location = place
  · rw [Found.overwritten, Found.location, if_pos same] at again
    rw [place?_of_lookup again, same]
  · rw [Found.overwritten, Found.location, if_neg same] at again
    exact place?_of_lookup again

/-- Other files are read as before. -/
theorem Writes.readBytes_kept {old : List UInt8} (writes : before.Writes after path place bytes)
    (rooted : before.tree.Rooted) (usable : isUsable other = true)
    (reached : before.lookup true other = .ok (.present location (.file old)))
    (apart : location ≠ place) : after.readBytes other = .ok old := by
  have again := writes.lookup rooted reached
  rw [Found.overwritten, Found.location, if_neg apart] at again
  rw [Host.readBytes, if_pos usable, again]

/-- Putting a file where a path leads, if not to a directory, writes it. -/
theorem writes_put (rooted : host.tree.Rooted) (usable : isUsable path = true)
    (reached : host.lookup true path = .ok found)
    (free : ∀ location, found ≠ .present location .directory)
    (allowed : host.platform.refuses found.location = none) (bytes : List UInt8) :
    host.Writes { host with tree := host.tree.put found.location (.file bytes) } path found.location
      bytes := by
  have overwrites := rooted.overwrites_put rfl reached free bytes
  refine ⟨overwrites, rfl, rfl, usable, ⟨found, reached, rfl⟩, allowed, ?_⟩
  have again := overwrites.walk rooted rfl reached
  rwa [Found.overwritten, if_pos rfl] at again

theorem writes_of_writeBytes (rooted : host.tree.Rooted)
    (done : host.writeBytes path bytes = .ok written) : ∃ place, host.Writes written path place bytes := by
  obtain ⟨usable, found, reached, free, allowed, rfl⟩ := writeBytes_eq_ok.mp done
  exact ⟨found.location, writes_put rooted usable reached free allowed bytes⟩

/-- What added directories keep is kept when a directory is made, also when that fails half way. -/
theorem makeDirectories_keeps {P : Host → Prop} (start : P host)
    (step : ∀ before front after, front <+: path.names → isUsable ⟨path.root, front⟩ = true →
      P before → before.addEntry ⟨path.root, front⟩ .directory = .ok after → P after) :
    P (host.makeDirectories path).1 := by
  have above {path : Path} (step : ∀ before front after, front <+: path.names →
      isUsable ⟨path.root, front⟩ = true → P before →
      before.addEntry ⟨path.root, front⟩ .directory = .ok after → P after) :
      ∀ before front after, front <+: path.parent.names → isUsable ⟨path.parent.root, front⟩ = true →
        P before → before.addEntry ⟨path.parent.root, front⟩ .directory = .ok after → P after :=
    fun before front after onTheWay => step before front after
      (onTheWay.trans (List.dropLast_prefix path.names))
  fun_induction host.makeDirectories path with
  | case1 path unusable => exact start
  | case2 path unusable added done => exact step _ _ _ (List.prefix_refl _) (by simpa using unusable) start done
  | case3 path unusable missing named => exact start
  | case4 path unusable missing named left fault failed ih =>
    have kept := ih (above step)
    rwa [failed] at kept
  | case5 path unusable missing named upper done added last ih =>
    have kept := ih (above step)
    rw [done] at kept
    exact step _ _ _ (List.prefix_refl _) (by simpa using unusable) kept last
  | case6 path unusable missing named upper done fault last there ih =>
    have kept := ih (above step)
    rwa [done] at kept
  | case7 path unusable missing named upper done fault last gone ih =>
    have kept := ih (above step)
    rwa [done] at kept
  | case8 path unusable fault other last kept => exact start
  | case9 path unusable fault other last gone => exact start

/-- Making a directory adds nothing but directories, each in a directory. -/
theorem makeDirectories_grown (rooted : host.tree.Rooted)
    (done : host.makeDirectories path = (made, none)) :
    made.tree.Rooted ∧ ∃ added, host.Grows made added ∧ ∀ entry ∈ added, entry.2 = .directory := by
  have kept := @makeDirectories_keeps host path (fun made => made.tree.Rooted ∧ ∃ added,
    host.Grows made added ∧ ∀ entry ∈ added, entry.2 = .directory) ⟨rooted, [], .refl host, by simp⟩
  rw [done] at kept
  apply kept
  rintro before front after _ _ ⟨rooted, added, grows, directories⟩ entered
  obtain ⟨location, found, rfl⟩ := addEntry_eq_ok entered
  obtain ⟨inside, absent⟩ := absent_of_walk found
  obtain ⟨above, name, rfl, upper⟩ := rooted.above_absent rfl found
  refine ⟨rooted.put upper absent _, _, grows.trans ⟨grows_put inside absent _, rfl, rfl, rfl⟩, ?_⟩
  simpa [or_imp, forall_and] using directories

end Host
end SymbolIndex
