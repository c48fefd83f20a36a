import SymbolIndex.Index.Artifact
import SymbolIndex.Settings.Load
import SymbolIndex.Proofs.Host.Vacant
import SymbolIndex.Proofs.Sources.Find

/-! What an index run adds to a tree changes neither the settings of a project nor its source files,
as long as no settings file or ignore file is a link into the void. -/
namespace SymbolIndex
open SymbolIndex.Tree

/-- An entry that an index run adds: a directory, or a file with the name of an index file. -/
structure IsOutput (entry : Location × Entry) : Prop where
  named : ∀ name ∈ entry.1, IsName name
  shape : entry.2 = .directory ∨
    ∃ front artifact bytes, entry = (front ++ [Index.Artifact.fileName artifact], .file bytes)

/-- The directory that settings name is where the path of that name resolves to, within the root. -/
theorem Settings.resolveOutputDir_eq_ok {host : Host} {root dir : Path} {given : Text}
    (resolved : Settings.resolveOutputDir host root given = .ok dir) :
    ∃ base, host.resolve root = .ok base ∧ host.resolve (base.join (Path.ofText given)) = .ok dir ∧
      (dir.below? base).isSome = true := by
  unfold Settings.resolveOutputDir at resolved
  split at resolved
  · cases resolved
  · dsimp only at resolved
    split at resolved
    · cases resolved
    · obtain ⟨base, start, resolved⟩ := exceptBind_eq_ok.mp resolved
      obtain ⟨found, target, resolved⟩ := exceptBind_eq_ok.mp resolved
      split at resolved
      · rename_i within
        obtain rfl := Except.ok.inj resolved
        exact ⟨base, start, target, within⟩
      · cases resolved

namespace Host
variable {host middle after : Host} {root : Path} {top : Location} {names : List Text} {name : Text}
  {entry : Entry} {added more : List (Location × Entry)} {nested : Bool} {paths : List Path}

/-- The files that say what a project consists of: its settings and its ignore files. -/
def IsWatched (names : List Text) : Prop :=
  names = [Settings.fileName] ∨ names.getLast? = some Sources.ignoreFileName

/-- No settings file or ignore file of the project is a link to where nothing is. -/
def Steady (host : Host) (root : Path) : Prop :=
  ∀ names target, (names, .link target) ∈ host.descendants root → IsWatched names →
    ¬host.Dangling (Sources.pathBelow root names)

/-- A project: a sound tree, a root that is a directory of it, and no watched file that leads into
the void. -/
structure Project (host : Host) (root : Path) (top : Location) : Prop where
  sound : host.tree.Sound
  there : host.At root top
  read : root.IsRead
  steady : host.Steady root

/-- A host grows by the output of index runs. -/
structure GainsOutput (before after : Host) (added : List (Location × Entry)) : Prop where
  grows : before.Grows after added
  rooted : after.tree.Rooted
  outputs : ∀ entry ∈ added, IsOutput entry

theorem GainsOutput.trans (first : host.GainsOutput middle added)
    (second : middle.GainsOutput after more) : host.GainsOutput after (added ++ more) := by
  refine ⟨first.grows.trans second.grows, second.rooted, fun entry listed => ?_⟩
  rcases List.mem_append.mp listed with old | new
  · exact first.outputs entry old
  · exact second.outputs entry new

theorem isEntryName_settings : IsEntryName Settings.fileName := by decide

theorem isEntryName_ignore : IsEntryName Sources.ignoreFileName := by decide

/-- Directories on the way to one that is made are output. -/
theorem makeDirectories_gains {made : Host} {path : Path} (rooted : host.tree.Rooted)
    (plain : ['.', '.'] ∉ path.names) (done : host.makeDirectories path = (made, none)) :
    ∃ location added, made.At path location ∧ host.GainsOutput made added ∧
      (∀ entry ∈ added, entry.1 <+: location) ∧
      made.tree.below location = host.tree.below location := by
  obtain ⟨location, added, there, grows, rooted', onTheWay, _⟩ :=
    makeDirectories_grows rooted plain done
  refine ⟨location, added, there, ⟨grows, rooted', fun entry listed => ⟨fun name member => ?_,
    Or.inl (onTheWay entry listed).2⟩⟩, fun entry listed => (onTheWay entry listed).1, ?_⟩
  · exact there.isName name ((onTheWay entry listed).1.subset member)
  · exact grows.tree.below_eq fun entry listed inside =>
      (onTheWay entry listed).1.eq_of_length_le inside.length_le

theorem not_dangling_of_isFile {path : Path} (file : host.isFile path = true) : ¬host.Dangling path := by
  unfold isFile entryAt? at file
  rintro (lost | ⟨location, void⟩) <;> simp_all

theorem isFile_of_directory {path : Path} {location : Location}
    (reached : host.lookup true path = .ok (.present location .directory)) :
    host.isFile path = false := by
  rw [isFile, entryAt?, reached]
  split <;> simp_all

/-- Where a look-up gets to an answer, asking is not refused. -/
theorem probe_of_lookup {path : Path} {found : Found} (reached : host.lookup true path = .ok found) :
    host.probe path = .ok () := by
  rw [probe, reached]
  split <;> rfl

theorem isFile_of_absent {path : Path} {location : Location}
    (reached : host.lookup true path = .ok (.absent location)) : host.isFile path = false := by
  rw [isFile, entryAt?, reached]
  split <;> simp_all

/-- A name in a directory is looked up with the same result: the same place, or no file in either case. -/
def Alike (host after : Host) (path : Path) : Prop :=
  after.lookup true path = host.lookup true path ∨
    (host.isFile path = false ∧ after.isFile path = false) ∧
      host.probe path = .ok () ∧ after.probe path = .ok ()

/-- Where only directories are new, a name directly in a directory leads where it led, unless it is a
link to where nothing was. -/
theorem At.child_alike (there : host.At root top) (larger : host.tree.Extends after.tree)
    (cwd : after.cwd = host.cwd) (named : IsName name)
    (settled : ∀ target, host.tree.entry? (top ++ [name]) = some (.link target) →
      ¬host.Dangling (root.child name))
    (directory : ∀ entry, host.tree.entry? (top ++ [name]) = none →
      after.tree.entry? (top ++ [name]) = some entry → entry = .directory) :
    host.Alike after (root.child name) := by
  cases present : host.tree.entry? (top ++ [name]) with
  | some entry =>
    refine Or.inl (lookup_settled larger cwd ?_)
    cases entry with
    | link target => exact settled target present
    | file bytes =>
      have reached := there.lookup_file named present
      rintro (lost | ⟨location, void⟩) <;> simp_all
    | directory =>
      have reached := there.lookup_directory named present true
      rintro (lost | ⟨location, void⟩) <;> simp_all
  | none =>
    have before := there.lookup_absent named present true
    have there' := there.extends larger cwd
    suffices gone : after.isFile (root.child name) = false ∧ after.probe (root.child name) = .ok () from
      Or.inr ⟨⟨isFile_of_absent before, gone.1⟩, probe_of_lookup before, gone.2⟩
    cases later : after.tree.entry? (top ++ [name]) with
    | none =>
      have absent := there'.lookup_absent named later true
      exact ⟨isFile_of_absent absent, probe_of_lookup absent⟩
    | some entry =>
      obtain rfl := directory entry present later
      have made := there'.lookup_directory named later true
      exact ⟨isFile_of_directory made, probe_of_lookup made⟩

theorem Alike.isFile {path : Path} (alike : host.Alike after path) :
    after.isFile path = host.isFile path := by
  rcases alike with same | ⟨⟨before, later⟩, _⟩
  · exact isFile_congr same
  · rw [before, later]

/-- Settings are read alike. -/
theorem Alike.load [Schema.Package] (alike : host.Alike after (root.child Settings.fileName))
    (platform : after.platform = host.platform) :
    Settings.load after root = Settings.load host root := by
  rcases alike with same | ⟨⟨before, later⟩, asked, again⟩
  · simp only [Settings.load, isFile_congr same, readBytes_congr same, probe_congr same, platform]
  · simp only [Settings.load, before, later, asked, again, Bool.false_eq_true, if_false]

/-- Where there is no settings file, the default settings hold. -/
theorem Dangling.load [Schema.Package] (dangling : host.Dangling (root.child Settings.fileName)) :
    Settings.load host root = .ok .default := by
  have unset : host.isFile (root.child Settings.fileName) = false ∧
      host.probe (root.child Settings.fileName) = .ok () := by
    rcases dangling with lost | ⟨location, void⟩
    · simp [isFile, entryAt?, probe, lost]
    · exact ⟨isFile_of_absent void, probe_of_lookup void⟩
  rw [Settings.load, unset.2]
  simp only [unset.1, Bool.false_eq_true, if_false]
  rfl

theorem getLast?_output {front : Location} (inside : names ≠ [])
    (same : top ++ names = front ++ [name]) : names.getLast? = some name := by
  have ends := congrArg List.getLast? same
  rw [List.getLast?_append, List.getLast?_concat] at ends
  rw [List.getLast?_eq_some_getLast inside] at ends ⊢
  exact ends

/-- No file of an index is watched. -/
theorem not_watched_output {artifact : Index.Artifact} (last : names.getLast? = some artifact.fileName) :
    ¬IsWatched names := by
  rintro (rfl | ignore)
  · cases artifact <;> revert last <;> decide
  · rw [last] at ignore
    cases artifact <;> revert ignore <;> decide

theorem suffix_output {artifact : Index.Artifact} (last : names.getLast? = some artifact.fileName) :
    (Sources.pathBelow root names).suffix = ".jsonl".toList := by
  have name : (Sources.pathBelow root names).name = artifact.fileName := by
    simp [Path.name, Sources.pathBelow, List.getLast?_append, last]
  rw [Path.suffix, name]
  cases artifact <;> decide

section Gains
variable (gains : host.GainsOutput after added) (project : host.Project root top)
include gains

theorem GainsOutput.lookup_isFile {path : Path} (file : host.isFile path = true) :
    after.lookup true path = host.lookup true path :=
  lookup_settled gains.grows.tree.extends gains.grows.cwd (not_dangling_of_isFile file)

include project

theorem GainsOutput.descendants :
    after.descendants root = host.descendants root ++ Tree.below ⟨added⟩ top := by
  rw [project.there.descendants, ← gains.grows.tree.below top]
  exact (project.there.extends gains.grows.tree.extends gains.grows.cwd).descendants

/-- Output of a watched name is a directory. -/
theorem GainsOutput.lookup_added (inside : names ≠ []) (listed : (top ++ names, entry) ∈ added)
    (watched : IsWatched names) : after.lookup true (Sources.pathBelow root names) =
      .ok (.present (top ++ names) .directory) := by
  obtain ⟨named, directory | ⟨front, artifact, bytes, same⟩⟩ := gains.outputs _ listed
  · obtain rfl : entry = .directory := directory
    have there' := project.there.extends gains.grows.tree.extends gains.grows.cwd
    exact there'.lookup_below gains.rooted inside
      (fun name member => named name (List.mem_append_right top member))
      (gains.grows.tree.filled _ listed) (by simp)
  · exact absurd watched (not_watched_output (getLast?_output inside (congrArg Prod.fst same)))

/-- Watched entries lead where they led. -/
theorem GainsOutput.lookup_watched (has : host.Has top names entry) (watched : IsWatched names) :
    after.lookup true (Sources.pathBelow root names) =
      host.lookup true (Sources.pathBelow root names) := by
  refine lookup_settled gains.grows.tree.extends gains.grows.cwd ?_
  cases entry with
  | link target =>
    refine project.steady names target ?_ watched
    rw [project.there.descendants]
    exact mem_below.mpr ⟨has.inside, (project.sound.entry?_eq_some (by simp [has.inside])).mp has.present⟩
  | _ =>
    have reached := has.lookup project.sound project.there (by simp)
    rintro (lost | ⟨location, void⟩) <;> simp_all

/-- A watched name directly in the root leads where it led. -/
theorem GainsOutput.watched_child (named : IsName name) (watched : IsWatched [name]) :
    host.Alike after (root.child name) := by
  refine project.there.child_alike gains.grows.tree.extends gains.grows.cwd named
    (fun target present => ?_) fun entry absent later => ?_
  · refine project.steady [name] target ?_ watched
    rw [project.there.descendants]
    exact mem_below.mpr ⟨by simp, (project.sound.entry?_eq_some (by simp)).mp present⟩
  · rcases gains.grows.tree.mem_added later with old | new
    · rw [absent] at old
      cases old
    · obtain ⟨_, directory | ⟨front, artifact, bytes, same⟩⟩ := gains.outputs _ new
      · exact directory
      · exact absurd watched
          (not_watched_output (getLast?_output (by simp) (congrArg Prod.fst same)))

/-- Settings are read as before. -/
theorem GainsOutput.load [Schema.Package] : Settings.load after root = Settings.load host root :=
  (gains.watched_child project isEntryName_settings.isName (Or.inl rfl)).load gains.grows.platform

/-- The same ignore files count. -/
theorem GainsOutput.ignoreFiles (nested : Bool) :
    Sources.ignoreFiles after root nested = Sources.ignoreFiles host root nested := by
  cases nested with
  | false =>
    have same := (gains.watched_child project isEntryName_ignore.isName (Or.inr rfl)).isFile
    simp only [Sources.ignoreFiles, same, Bool.false_eq_true, if_false]
  | true =>
    have old : ∀ names ∈ (host.descendants root).map Prod.fst,
        (names.getLast? = some Sources.ignoreFileName &&
            after.isFile (Sources.pathBelow root names)) =
          (names.getLast? = some Sources.ignoreFileName &&
            host.isFile (Sources.pathBelow root names)) := by
      intro names listed
      obtain ⟨⟨names, entry⟩, member, rfl⟩ := List.mem_map.mp listed
      rw [project.there.descendants] at member
      by_cases ignore : names.getLast? = some Sources.ignoreFileName
      · have same := gains.lookup_watched project (has_of_below project.sound member) (Or.inr ignore)
        rw [isFile_congr same]
      · simp [ignore]
    have new : ((Tree.below ⟨added⟩ top).map Prod.fst).filter (fun names =>
        names.getLast? = some Sources.ignoreFileName &&
          after.isFile (Sources.pathBelow root names)) = [] := by
      refine List.filter_eq_nil_iff.mpr fun names listed kept => ?_
      obtain ⟨⟨names, entry⟩, member, rfl⟩ := List.mem_map.mp listed
      obtain ⟨inside, member⟩ := mem_below.mp member
      rw [Bool.and_eq_true, decide_eq_true_eq] at kept
      rw [isFile_of_directory (gains.lookup_added project inside member (Or.inr kept.1))] at kept
      cases kept.2
    simp only [Sources.ignoreFiles, if_true]
    rw [gains.descendants project, List.map_append, List.filter_append, new, List.append_nil,
      List.filter_congr old]

theorem GainsOutput.ignoreTest [Ignore.Package] (nested : Bool) :
    Sources.ignoreTest after root nested = Sources.ignoreTest host root nested := by
  have same : ∀ path ∈ Sources.ignoreFiles host root nested,
      after.readBytes path = host.readBytes path := fun path listed =>
    readBytes_congr (gains.lookup_isFile (Sources.isFile_of_mem_ignoreFiles listed))
  rw [Sources.ignoreTest, Sources.ignoreTest, gains.ignoreFiles project,
    Sources.loadTests_congr same gains.grows.cwd]

/-- The source files of a project are found as before. -/
theorem GainsOutput.find [Ignore.Package] (filter : Sources.Filter)
    (foreign : Text.lower ".jsonl".toList ∉ filter.extensions.map Text.lower) :
    Sources.find after root filter = Sources.find host root filter := by
  have tested := gains.ignoreTest project filter.nestedIgnore
  have old (ignored : Option Ignore.Test) : ∀ names entry,
      (names, entry) ∈ host.descendants root →
        filter.takes after root ignored names entry = filter.takes host root ignored names entry := by
    intro names entry member
    rw [project.there.descendants] at member
    have has := has_of_below project.sound member
    cases entry with
    | file bytes =>
      have here := has.isWithin project.sound project.there (Extends.refl _) rfl (by simp)
      have later := has.isWithin project.sound project.there gains.grows.tree.extends
        gains.grows.cwd (by simp)
      rw [Sources.Filter.takes_file, Sources.Filter.takes_file, Sources.Filter.suits,
        Sources.Filter.suits, here, later]
    | _ => rfl
  have new (ignored : Option Ignore.Test) : ∀ names entry,
      (names, entry) ∈ Tree.below ⟨added⟩ top →
        filter.takes after root ignored names entry = .ok false := by
    intro names entry member
    obtain ⟨inside, listed⟩ := mem_below.mp member
    obtain ⟨named, directory | ⟨front, artifact, bytes, same⟩⟩ := gains.outputs _ listed
    · obtain rfl : entry = .directory := directory
      rfl
    · have last := getLast?_output inside (congrArg Prod.fst same)
      obtain rfl : entry = .file bytes := congrArg Prod.snd same
      have other : filter.suits after root names = false := by
        rw [Sources.Filter.suits, suffix_output last]
        simp only [List.contains_eq_mem, foreign, decide_false, Bool.false_and]
      rw [Sources.Filter.takes_file, other]
      rfl
  have kept (ignored : Option Ignore.Test) :
      Sources.keepTaken (filter.takes after root ignored) (after.descendants root) =
        Sources.keepTaken (filter.takes host root ignored) (host.descendants root) := by
    rw [gains.descendants project, Sources.keepTaken_append (new ignored),
      Sources.keepTaken_congr (old ignored)]
  simp only [Sources.find, tested, kept]

end Gains

end Host
end SymbolIndex
