import SymbolIndex.Verify.Determinism
import SymbolIndex.Proofs.Index.Rerun
import SymbolIndex.Proofs.Sources.Ordered

/-! Verifying an index that was just written. The fresh index covers every source file, the written
one leaves out those whose top directory is the one on the way to the index, so the two agree unless
such a file can be read. -/
namespace SymbolIndex.Index
open Job SymbolIndex.Tree
variable {host after : Host} {world last : World} {root dir fresh : Path} {settings : Settings}
  {names : List Text} {files : List (List Text)} {blocks : List Block} {summary : Summary}
  {location place top : Location} {symbols snapshots symbols' snapshots' : List UInt8}
  {added : List (Location × Entry)}

section Compare

theorem Stores.grows (stores : Stores host dir location symbols snapshots)
    (grows : host.Grows after added) (apart : ∀ entry ∈ added, ¬location <+: entry.1) :
    Stores after dir location symbols snapshots := by
  have larger := grows.tree.extends
  refine ⟨stores.there.extends larger grows.cwd, ?_, larger _ _ stores.symbols,
    larger _ _ stores.snapshots⟩
  rw [grows.tree.below_eq fun entry listed above => absurd above (apart entry listed), stores.below]

theorem Stores.entryAt? (stores : Stores host dir location symbols snapshots) :
    host.entryAt? (Sources.pathBelow dir [Artifact.symbols.fileName]) = some (.file symbols) ∧
      host.entryAt? (Sources.pathBelow dir [Artifact.snapshots.fileName]) = some (.file snapshots) := by
  have usable (artifact : Artifact) :
      Host.isUsable (Sources.pathBelow dir [artifact.fileName]) = true :=
    stores.there.usable_append (by simp [isEntryName_fileName])
  have first : host.lookup true (Sources.pathBelow dir [Artifact.symbols.fileName]) = _ :=
    stores.there.lookup_file (fileName_isName .symbols) stores.symbols
  have second : host.lookup true (Sources.pathBelow dir [Artifact.snapshots.fileName]) = _ :=
    stores.there.lookup_file (fileName_isName .snapshots) stores.snapshots
  exact ⟨Host.entryAt?_eq_some.mpr ⟨usable .symbols, _, first⟩,
    Host.entryAt?_eq_some.mpr ⟨usable .snapshots, _, second⟩⟩

theorem Stores.filesBelow (stores : Stores host dir location symbols snapshots) :
    filesBelow host dir = [[Artifact.symbols.fileName], [Artifact.snapshots.fileName]] := by
  obtain ⟨first, second⟩ := stores.entryAt?
  rw [Index.filesBelow, stores.there.descendants, stores.below]
  simp [Host.isFile, first, second]

/-- Two stored indexes have the same files, and they agree when the bytes do. -/
theorem compare_stores (stored : Stores host dir location symbols snapshots)
    (stored' : Stores host fresh place symbols' snapshots') :
    (compare host dir fresh).missing = [] ∧ (compare host dir fresh).extra = [] ∧
      ((compare host dir fresh).ok = true ↔ symbols = symbols' ∧ snapshots = snapshots') := by
  obtain ⟨first, second⟩ := stored.entryAt?
  obtain ⟨first', second'⟩ := stored'.entryAt?
  have all : [[Artifact.symbols.fileName], [Artifact.snapshots.fileName]].filter
      ([[Artifact.symbols.fileName], [Artifact.snapshots.fileName]].contains ·) =
        [[Artifact.symbols.fileName], [Artifact.snapshots.fileName]] := by decide
  have none : [[Artifact.symbols.fileName], [Artifact.snapshots.fileName]].filter
      (! [[Artifact.symbols.fileName], [Artifact.snapshots.fileName]].contains ·) = [] := by decide
  simp only [compare, stored.filesBelow, stored'.filesBelow, all, none]
  refine ⟨by simp [Text.sort], by simp [Text.sort], ?_⟩
  simp only [Comparison.ok, List.isEmpty_iff, Text.sort, Bool.and_eq_true]
  by_cases same : symbols = symbols' <;> by_cases same' : snapshots = snapshots' <;>
    simp [sameBytes, first, second, first', second', same, same', ← List.length_eq_zero_iff]

end Compare

section Place

/-- The place for temporary files, when an index is verified: a directory with no fresh index in it,
which is not the directory of the index itself and is not named below the root. A fresh index there is
neither refused nor limited. -/
structure Aside (host : Host) (root dir : Path) (place : Location) : Prop where
  there : host.At host.temporary place
  unused : host.tree.entry? (place ++ [freshName]) = none
  unnamed : host.temporary.below? root = none
  apart : ¬host.At dir place
  allowed : ∀ names, host.platform.refuses (place ++ [freshName] ++ names) = none
  unlimited : ∀ names, host.platform.room (place ++ [freshName] ++ names) = none

theorem isEntryName_freshName : IsEntryName freshName := by decide

/-- The fresh index does not lie in a stored one. -/
theorem Aside.not_prefix (aside : Aside host root dir place) (rooted : host.tree.Rooted)
    (stores : Stores host dir location symbols snapshots) (names : List Text) :
    ¬location <+: place ++ [freshName] ++ names := by
  obtain ⟨directory, _⟩ := rooted.present_of_walk rfl stores.there.reached
  have outside : ¬place ++ [freshName] <+: location := by
    rintro ⟨rest, rfl⟩
    rw [rooted.append_eq_none aside.unused] at directory
    cases directory
  intro above
  rcases List.prefix_or_prefix_of_prefix above (List.prefix_append _ _) with above | below
  · rcases List.prefix_concat_iff.mp above with rfl | ⟨rest, rfl⟩
    · exact outside (List.prefix_refl _)
    · by_cases here : rest = []
      · refine aside.apart ?_
        rw [here, List.append_nil]
        exact stores.there
      · -- a stored index has no directory in it
        obtain ⟨present, _⟩ := rooted.present_of_walk rfl aside.there.reached
        have member := mem_below.mpr ⟨here, mem_entries (by simp [here]) present⟩
        rw [stores.below] at member
        simp at member
  · exact outside below

/-- The fresh index leaves no directory of the root out. -/
theorem Aside.outputDirName (aside : Aside host root dir place) :
    outputDirName (host.temporary.child freshName) root = [] := by
  rw [Index.outputDirName]
  split
  · rename_i name rest below
    obtain ⟨same, names⟩ := Path.below?_eq_some.mp below
    obtain ⟨front, last, split⟩ := (List.eq_nil_or_concat (name :: rest)).resolve_left (by simp)
    rw [split, List.concat_eq_append, Path.child, ← List.append_assoc] at names
    have named : host.temporary.below? root = some front :=
      Path.below?_eq_some.mpr ⟨same, (List.append_inj' names rfl).1⟩
    rw [aside.unnamed] at named
    cases named
  · rfl

theorem Aside.admits [Json.Package] (aside : Aside host root dir place) (blocks : List Block) :
    Admits host.platform (place ++ [freshName]) blocks where
  allowed artifact := aside.allowed [artifact.fileName]
  room artifact limit limited := by
    cases (aside.unlimited [artifact.fileName]).symm.trans limited

/-- A fresh index can be removed. -/
theorem Aside.remove (aside : Aside host root dir place) {written : Host}
    (larger : host.tree.Extends written.tree) (cwd : written.cwd = host.cwd)
    (present : written.tree.entry? (place ++ [freshName]) = some .directory) :
    ∃ left, written.remove (host.temporary.child freshName) = .ok left := by
  have reached := (aside.there.extends larger cwd).lookup_directory isEntryName_freshName.isName
    present false
  exact ⟨_, by rw [Host.remove, reached]⟩

/-- The directory of the fresh index is made, and it is empty. -/
theorem Aside.makeDirectories (aside : Aside host root dir place) (rooted : host.tree.Rooted) :
    ∃ made, host.makeDirectories (host.temporary.child freshName) = (made, none) ∧
      host.GainsOutput made [(place ++ [freshName], .directory)] ∧
      made.At (host.temporary.child freshName) (place ++ [freshName]) ∧
      made.makeDirectories (host.temporary.child freshName) = (made, none) ∧
      made.tree.below (place ++ [freshName]) = [] := by
  have plain := isEntryName_freshName
  have usable : Host.isUsable (Sources.pathBelow host.temporary [freshName]) = true :=
    aside.there.usable_append (by simp [plain])
  have added : host.addEntry (host.temporary.child freshName) .directory = .ok
      { host with tree := host.tree.put (place ++ [freshName]) .directory } := by
    have allowed := aside.allowed []
    rw [List.append_nil] at allowed
    rw [Host.addEntry, aside.there.lookup_absent plain.isName aside.unused]
    exact Host.place_eq_ok.mpr ⟨allowed, rfl⟩
  obtain ⟨spot, reached, there, grows, rooted'⟩ := Host.grows_addEntry rooted usable added
  obtain rfl : spot = place ++ [freshName] := aside.there.absent_child plain.isName.1 reached
  refine ⟨_, Host.makeDirectories_of_addEntry usable added, ⟨grows, rooted', ?_⟩, there,
    there.makeDirectories, ?_⟩
  · intro entry listed
    rw [List.mem_singleton.mp listed]
    exact ⟨there.isName, Or.inl rfl⟩
  · rw [grows.tree.below, rooted.below_eq_nil aside.unused]
    simp [Tree.below]

end Place

section Verified
variable [Schema.Package] [Ignore.Package] [Json.Package]

/-- A verification compares what a run into the temporary directory wrote, or fails as that run does. -/
theorem outcome_verify {later made : Host} {log : List LogEntry} {result : Except Failure Summary}
    {written : World} (aside : Aside later root dir place) (there : later.At dir location)
    (fresh : later.makeDirectories (later.temporary.child freshName) = (made, none))
    (ran : outcome (generate root (some (later.temporary.child freshName)) none) ⟨made, log⟩ =
      (result, written))
    (larger : later.tree.Extends written.host.tree) (cwd : written.host.cwd = later.cwd)
    (present : written.host.tree.entry? (place ++ [freshName]) = some .directory) :
    ∃ after, outcome (verify root dir) ⟨later, log⟩ =
      (result.map fun _ => compare written.host dir (later.temporary.child freshName), after) := by
  obtain ⟨left, removed⟩ := aside.remove larger cwd present
  refine ⟨⟨left, written.log⟩, ?_⟩
  have directory : later.isDirectory dir = true := Host.isDirectory_iff.mpr ⟨location, there⟩
  have exists' : later.pathExists dir = true := by
    rw [Host.pathExists, of_decide_eq_true directory]
    rfl
  have made' : outcome (makeDirectories (later.temporary.child freshName)) ⟨later, log⟩ =
      (.ok (), ⟨made, log⟩) := makeDirectories_eq_ok.mpr ⟨made, fresh, rfl⟩
  have gone : outcome (change (·.remove (later.temporary.child freshName))) written =
      (.ok (), ⟨left, written.log⟩) := change_eq_ok.mpr ⟨_, removed, rfl⟩
  rw [verify, host_bind]
  simp only [exists', directory, Bool.not_true, Bool.false_eq_true, if_false]
  cases result with
  | ok summary =>
    exact bind_eq_ok.mpr ⟨(), _, made', bind_eq_ok.mpr ⟨_, written,
      tryCatch_eq_ok _ (bind_eq_ok.mpr ⟨summary, written, ran, rfl⟩),
      bind_eq_ok.mpr ⟨(), _, gone, rfl⟩⟩⟩
  | error failure =>
    refine bind_eq_error.mpr (Or.inr ⟨(), _, made', bind_eq_error.mpr (Or.inl ?_)⟩)
    rw [outcome_tryCatch, bind_eq_error.mpr (Or.inl ran)]
    exact bind_eq_error.mpr (Or.inr ⟨(), _, gone, rfl⟩)

omit [Schema.Package] [Ignore.Package] [Json.Package] in
/-- The fresh index leaves the stored one as it is. -/
theorem Stores.kept {later written : Host}
    (stores : Stores later dir location symbols snapshots) (rooted : later.tree.Rooted)
    (aside : Aside later root dir place)
    (grows : later.Grows written ([(place ++ [freshName], .directory)] ++
      stored (place ++ [freshName]) symbols' snapshots')) :
    Stores written dir location symbols snapshots := by
  refine stores.grows grows fun entry listed => ?_
  have apart := aside.not_prefix rooted stores
  simp only [stored, List.mem_append, List.mem_cons, List.not_mem_nil, or_false] at listed
  rcases listed with rfl | rfl | rfl
  · simpa using apart []
  · exact apart [_]
  · exact apart [_]

/-- A verification after output was gained makes a fresh index of what the project holds. It fails where
that cannot be found or written. -/
theorem verify_stores {later : Host} (project : host.Project root top) (log : List LogEntry)
    (gains : host.GainsOutput later added)
    (loaded : Settings.load host root = .ok settings)
    (supported : Registry.standard.create settings.language = .ok .python)
    (stores : Stores later dir location symbols snapshots)
    (aside : Aside later root dir place) :
    ∃ result after, outcome (verify root dir) ⟨later, log⟩ = (result, after) ∧
      match Sources.find host root (sourceFilter settings .standard dir root).everywhere with
      | .error failure => result = .error failure
      | .ok files =>
        let blocks := files.filterMap (readBlock? host root settings.language)
        (∃ (artifact : Artifact) (reason : Text), refusal? (artifact.records blocks) = some reason ∧
            result = .error (.unwritable reason)) ∨
          (∀ artifact : Artifact, refusal? (artifact.records blocks) = none) ∧
            ∃ comparison, result = .ok comparison ∧ comparison.missing = [] ∧ comparison.extra = [] ∧
              (comparison.ok = true ↔
                symbols = symbolBytes blocks ∧ snapshots = snapshotBytes blocks) := by
  obtain ⟨made, fresh, gains', there, again, empty⟩ := aside.makeDirectories gains.rooted
  have sum := gains.trans gains'
  have larger := gains'.grows.tree.extends
  have present : made.tree.entry? (place ++ [freshName]) = some .directory :=
    gains'.grows.tree.filled (_, _) List.mem_cons_self
  have filters : sourceFilter settings .standard (later.temporary.child freshName) root =
      (sourceFilter settings .standard dir root).everywhere := by
    rw [sourceFilter, aside.outputDirName]
    rfl
  have run : outcome (generate root (some (later.temporary.child freshName)) none)
      ⟨made, log⟩ = outcome (collectInto root (later.temporary.child freshName) settings >>=
        writeBlocks (later.temporary.child freshName)) ⟨made, log⟩ :=
    outcome_generate ((sum.load project).trans loaded) rfl
  cases found : Sources.find host root (sourceFilter settings .standard dir root).everywhere with
  | error failure =>
    have foreign : Text.lower ".jsonl".toList ∉
        (sourceFilter settings .standard (later.temporary.child freshName) root).extensions.map
          Text.lower := foreign_extensions settings.language
    obtain ⟨log', failed⟩ : ∃ log', outcome (collectInto root (later.temporary.child freshName) settings)
        ⟨made, log⟩ = (.error failure, ⟨made, log'⟩) := by
      refine collectInto_eq_error.mpr (Or.inr ⟨again, Or.inr ⟨supported, ?_⟩⟩)
      rw [sum.find project _ foreign, filters, found]
    obtain ⟨after, verified⟩ := outcome_verify aside stores.there fresh
      (run.trans (bind_eq_error.mpr (Or.inl failed))) larger gains'.grows.cwd present
    exact ⟨_, after, verified, rfl⟩
  | ok files =>
    obtain ⟨log', collected⟩ : ∃ log', outcome (collectInto root (later.temporary.child freshName) settings)
        ⟨made, log⟩ =
          (.ok (files.filterMap (readBlock? host root settings.language)), ⟨made, log'⟩) :=
      (collectInto_gains project sum).mpr ⟨again, supported, files, filters ▸ found, rfl⟩
    have admits := gains'.grows.platform ▸
      aside.admits (files.filterMap (readBlock? host root settings.language))
    by_cases spelled : ∀ artifact : Artifact, refusal?
        (artifact.records (files.filterMap (readBlock? host root settings.language))) = none
    · obtain ⟨summary, written, wrote, fresh', gains''⟩ :=
        writeBlocks_stores there gains'.rooted empty ⟨admits, spelled⟩ log'
      have grows := (gains'.trans gains'').grows
      obtain ⟨missing, extra, ok⟩ := compare_stores (stores.kept gains.rooted aside grows) fresh'
      obtain ⟨after, verified⟩ := outcome_verify aside stores.there fresh
        (run.trans (bind_eq_ok.mpr ⟨_, _, collected, wrote⟩)) grows.tree.extends grows.cwd
        (grows.tree.filled (_, _) List.mem_cons_self)
      exact ⟨_, after, verified, Or.inr ⟨spelled, _, rfl, missing, extra, ok⟩⟩
    · have usable (artifact : Artifact) : Host.isUsable
          ((later.temporary.child freshName).child artifact.fileName) = true :=
        there.usable_append (by simp [isEntryName_fileName])
      have absent (artifact : Artifact) := Host.entry?_of_below empty artifact.fileName
      rcases wrote : outcome (writeBlocks (later.temporary.child freshName)
        (files.filterMap (readBlock? host root settings.language))) ⟨made, log'⟩ with ⟨_ | _, written⟩
      · obtain ⟨⟨artifact, reason, refused, rfl⟩, larger', cwd'⟩ :=
          writeBlocks_new_error there absent usable admits wrote
        obtain ⟨after, verified⟩ := outcome_verify aside stores.there fresh
          (run.trans (bind_eq_error.mpr (Or.inr ⟨_, _, collected, wrote⟩))) (larger.trans larger')
          (cwd'.trans gains'.grows.cwd) (larger' _ _ present)
        exact ⟨_, after, verified, Or.inl ⟨artifact, reason, refused, rfl⟩⟩
      · obtain ⟨⟨_, all⟩, _⟩ := writeBlocks_eq_ok.mp ⟨written.log, wrote⟩
        exact absurd ((takes_iff there absent).mp ⟨_, _, all⟩).2.spelled spelled

end Verified

section Overlooked

/-- A source file that an index leaves out for the directory it lies in. -/
structure LeftOut (host : Host) (root dir : Path) (settings : Settings) (names : List Text) : Prop where
  file : ∃ bytes, (names, .file bytes) ∈ host.descendants root
  suits : (sourceFilter settings .standard dir root).suits host root names = true
  skipped : (sourceFilter settings .standard dir root).skips names = true

/-- An index directly below the root leaves nothing out: that would be in the directory of the index,
which is empty. -/
theorem not_leftOut (project : host.Project root top) (gains : host.GainsOutput after added)
    (there : after.At dir location) (vacant : host.tree.below location = [])
    (direct : ∀ name inner, dir.below? root = some (name :: inner) → inner = []) :
    ¬LeftOut host root dir settings names := by
  rintro ⟨⟨bytes, listed⟩, _, skipped⟩
  rw [project.there.descendants] at listed
  have has := Host.has_of_below project.sound listed
  obtain ⟨first, more, rfl⟩ := List.exists_cons_of_ne_nil has.inside
  have inDir : outputDirName dir root = first := by
    rw [Sources.Filter.skips, Bool.and_eq_true] at skipped
    have same : some first = some (outputDirName dir root) := of_decide_eq_true skipped.2
    exact (Option.some.inj same).symm
  have below : dir = root.child first := by
    rw [outputDirName] at inDir
    split at inDir
    · rename_i name inner below
      obtain rfl := direct name inner below
      obtain ⟨same, names⟩ := Path.below?_eq_some.mp below
      rw [Path.child, ← inDir, ← names, ← same]
    · exact absurd inDir.symm (has.named first List.mem_cons_self).nonempty
  subst below
  have larger := gains.grows.tree.extends
  by_cases last : more = []
  · subst last
    have reached := has.lookup project.sound project.there (by simp)
    rw [Host.lookup, ← gains.grows.cwd] at reached
    cases (walk_extends larger reached).symm.trans there.reached
  · have directory : host.tree.entry? (top ++ [first]) = some .directory :=
      project.sound.rooted.above last (by simpa using has.present)
    have named := (has.named first List.mem_cons_self).isName
    have here : host.At (root.child first) (top ++ [first]) := by
      refine ⟨?_, project.there.lookup_directory named directory true⟩
      exact there.usable
    obtain rfl := (here.extends larger gains.grows.cwd).unique there
    have inside : (more, Entry.file bytes) ∈ host.tree.below (top ++ [first]) :=
      mem_below.mpr ⟨last, by simpa using (mem_below.mp listed).2⟩
    rw [vacant] at inside
    cases inside

theorem length_filterMap_filter {α β : Type} (f : α → Option β) (keep : α → Bool) (items : List α) :
    (items.filterMap f).length = ((items.filter keep).filterMap f).length +
      ((items.filter fun item => !keep item).filterMap f).length := by
  induction items with
  | nil => rfl
  | cons item rest ih =>
    cases kept : keep item <;> cases taken : f item <;>
      simp [kept, taken, ih] <;> omega

/-- An index without some files is the index of all when none of those can be read. -/
theorem bytes_eq_iff [Json.Package] {registered : Text} {skips : List Text → Bool}
    (spelled : refusal? (Artifact.snapshots.records
      (files.filterMap (readBlock? host root registered))) = none) :
    (symbolBytes ((files.filter fun names => !skips names).filterMap (readBlock? host root registered)) =
        symbolBytes (files.filterMap (readBlock? host root registered)) ∧
      snapshotBytes ((files.filter fun names => !skips names).filterMap
          (readBlock? host root registered)) =
        snapshotBytes (files.filterMap (readBlock? host root registered))) ↔
    ∀ names ∈ files, skips names = true → readBlock? host root registered names = none := by
  constructor
  · rintro ⟨_, same⟩ names member skipped
    have counted := length_filterMap_filter (readBlock? host root registered) (!skips ·) files
    have fewer : (Artifact.snapshots.records ((files.filter fun names => !skips names).filterMap
        (readBlock? host root registered))).Sublist _ :=
      (List.filter_sublist.filterMap (readBlock? host root registered)).map _
    have length : (snapshotBytes _).length + _ ≤ (snapshotBytes _).length + _ :=
      length_encodeLines_add_le fewer spelled
    rw [same, Nat.add_le_add_iff_left] at length
    simp only [Artifact.records, List.length_map] at length
    have none : (files.filter fun names => !!skips names).filterMap (readBlock? host root registered) =
        [] := List.length_eq_zero_iff.mp (by omega)
    exact List.filterMap_eq_nil_iff.mp none names (List.mem_filter.mpr ⟨member, by simpa using skipped⟩)
  · intro unread
    have same : (files.filter fun names => !skips names).filterMap (readBlock? host root registered) =
        files.filterMap (readBlock? host root registered) := by
      rw [List.filterMap_filter]
      refine List.filterMap_congr fun names member => ?_
      cases skipped : skips names with
      | false => simp
      | true => simp [unread names member skipped]
    rw [same]
    exact ⟨rfl, rfl⟩

variable [Ignore.Package]

/-- What ignore files and patterns say of a path. -/
def Judged (host : Host) (root dir : Path) (settings : Settings) (names : List Text)
    (answer : Except Failure Bool) : Prop :=
  ∃ ignored, Sources.ignoreTest host root settings.index.nestedIgnore = .ok ignored ∧
    (sourceFilter settings .standard dir root).judges root ignored names = answer

/-- A source file that is left out, although it is asked for and can be read. -/
structure Overlooked (host : Host) (root dir : Path) (settings : Settings) (names : List Text) : Prop
    extends LeftOut host root dir settings names where
  wanted : Judged host root dir settings names (.ok true)
  readable : ∃ text, host.readText (Sources.pathBelow root names) = .ok text

/-- How a source file that is left out keeps an index of all files from being made: ignore files have
no answer for it, or a record of it has no written form. -/
inductive Spoils [Json.Package] (host : Host) (root dir : Path) (settings : Settings) (names : List Text) :
    Failure → Prop
  | unanswered {failure : Failure} (leftOut : LeftOut host root dir settings names)
    (failed : Judged host root dir settings names (.error failure)) :
    Spoils host root dir settings names failure
  | unwritable {block : Block} {artifact : Artifact} {reason : Text}
    (overlooked : Overlooked host root dir settings names)
    (read : readBlock? host root settings.language names = some block)
    (refused : refusal? (artifact.records [block]) = some reason) :
    Spoils host root dir settings names (.unwritable reason)

section Everywhere
variable {all : List (List Text)}
  (everywhere : Sources.find host root (sourceFilter settings .standard dir root).everywhere = .ok all)
include everywhere

/-- The files of an index of all are those that suit and are asked for. -/
theorem mem_everywhere : names ∈ all ↔ (∃ bytes, (names, .file bytes) ∈ host.descendants root) ∧
    (sourceFilter settings .standard dir root).suits host root names = true ∧
    Judged host root dir settings names (.ok true) := by
  obtain ⟨ignored, _, tested, _⟩ := Sources.find_eq_ok.mp everywhere
  rw [Sources.mem_find_iff everywhere tested]
  constructor
  · rintro ⟨entry, listed, taken⟩
    cases entry with
    | file bytes =>
      rw [Sources.Filter.takes_file, Sources.Filter.suits_everywhere,
        Sources.Filter.skips_everywhere] at taken
      split at taken
      · rename_i suits
        exact ⟨⟨bytes, listed⟩, by simpa using suits, ignored, tested, taken⟩
      · cases taken
    | _ => cases taken
  · rintro ⟨⟨bytes, listed⟩, suits, ignored', tested', judged⟩
    obtain rfl := Except.ok.inj (tested.symm.trans tested')
    refine ⟨_, listed, ?_⟩
    rw [Sources.Filter.takes_file, Sources.Filter.suits_everywhere, Sources.Filter.skips_everywhere,
      if_pos (by simpa using suits)]
    exact judged

theorem overlooked_iff : Overlooked host root dir settings names ↔
    (names ∈ all ∧ (sourceFilter settings .standard dir root).skips names = true) ∧
      ∃ text, host.readText (Sources.pathBelow root names) = .ok text := by
  rw [mem_everywhere everywhere]
  constructor
  · rintro ⟨⟨file, suits, skipped⟩, wanted, readable⟩
    exact ⟨⟨⟨file, suits, wanted⟩, skipped⟩, readable⟩
  · rintro ⟨⟨⟨file, suits, wanted⟩, skipped⟩, readable⟩
    exact ⟨⟨file, suits, skipped⟩, wanted, readable⟩

/-- No file is overlooked if and only if none of those left out can be read. -/
theorem not_overlooked_iff : (∀ names, ¬Overlooked host root dir settings names) ↔
    ∀ names ∈ all, (sourceFilter settings .standard dir root).skips names = true →
      readBlock? host root settings.language names = none := by
  constructor
  · intro none names member skipped
    refine readBlock?_eq_none.mpr fun text read => ?_
    exact none names ((overlooked_iff everywhere).mpr ⟨⟨member, skipped⟩, text, read⟩)
  · rintro unread names overlooked
    obtain ⟨⟨member, skipped⟩, text, read⟩ := (overlooked_iff everywhere).mp overlooked
    exact readBlock?_eq_none.mp (unread names member skipped) text read

/-- Where an index was written, only a file it leaves out keeps an index of all files from being so. -/
theorem exists_spoils [Json.Package] {artifact : Artifact} {reason : Text}
    (spelled : refusal? (artifact.records
      ((all.filter fun names => !(sourceFilter settings .standard dir root).skips names).filterMap
        (readBlock? host root settings.language))) = none)
    (refused : refusal? (artifact.records
      (all.filterMap (readBlock? host root settings.language))) = some reason) :
    ∃ names, LeftOut host root dir settings names ∧
      Spoils host root dir settings names (.unwritable reason) := by
  obtain ⟨block, member, refused'⟩ := refusal?_records refused
  obtain ⟨names, listed, read⟩ := List.mem_filterMap.mp member
  have skipped : (sourceFilter settings .standard dir root).skips names = true := by
    by_contra taken
    have kept : names ∈ all.filter (!(sourceFilter settings .standard dir root).skips ·) :=
      List.mem_filter.mpr ⟨listed, by simpa using taken⟩
    have written := refusal?_of_mem (List.mem_filterMap.mpr ⟨names, kept, read⟩) spelled
    cases written.symm.trans refused'
  obtain ⟨text, readable, _⟩ := readBlock?_eq_some read
  have overlooked := (overlooked_iff everywhere).mpr ⟨⟨listed, skipped⟩, text, readable⟩
  exact ⟨names, overlooked.toLeftOut, .unwritable overlooked read refused'⟩

/-- Nothing spoils an index of all files that is found and written. -/
theorem not_spoils [Json.Package] {failure : Failure} (spelled : ∀ artifact : Artifact,
      refusal? (artifact.records (all.filterMap (readBlock? host root settings.language))) = none) :
    ¬Spoils host root dir settings names failure := by
  rintro (⟨⟨⟨bytes, listed⟩, suits, _⟩, ignored, tested, failed⟩ | ⟨overlooked, read, refused⟩)
  · obtain ⟨ignored', kept, tested', taken, _⟩ := Sources.find_eq_ok.mp everywhere
    obtain rfl := Except.ok.inj (tested.symm.trans tested')
    obtain ⟨answer, here⟩ := Sources.keepTaken_answers taken listed
    rw [Sources.Filter.takes_file, Sources.Filter.suits_everywhere, Sources.Filter.skips_everywhere,
      if_pos (by simpa using suits)] at here
    cases here.symm.trans failed
  · rename_i artifact _
    have member := ((overlooked_iff everywhere).mp overlooked).1.1
    have written := refusal?_of_mem (List.mem_filterMap.mpr ⟨names, member, read⟩) (spelled artifact)
    cases written.symm.trans refused

end Everywhere

end Overlooked

/-- An index that was just written is verified, unless a source file that can be read lies in the top
directory on the way to it. No file is missing or extra in either case. Verification fails over such a
file alone: one that ignore files have no answer for, or whose records cannot be written. -/
theorem verify_generated [Schema.Package] [Ignore.Package] [Json.Package]
    (project : host.Project root top) (loaded : Settings.load host root = .ok settings)
    (resolved : Settings.resolveOutputDir host root settings.index.outputDir = .ok dir)
    (empty : host.pathExists dir = false ∨ host.isDirectory dir = true ∧ host.descendants dir = [])
    (generated : (generate root none none).run host = (.ok summary, last))
    (aside : Aside last.host root dir place) :
    ∃ result after, (verify root dir).run last.host = (result, after) ∧
      (∀ failure, result = .error failure → ∃ names, Spoils host root dir settings names failure) ∧
      (∀ comparison, result = .ok comparison →
        comparison.missing = [] ∧ comparison.extra = [] ∧
        (comparison.ok = true ↔ ∀ names, ¬Overlooked host root dir settings names) ∧
        ∀ names failure, ¬Spoils host root dir settings names failure) ∧
      ((∀ name inner, dir.below? root = some (name :: inner) → inner = []) →
        ∃ comparison, result = .ok comparison ∧ comparison.ok = true) := by
  obtain ⟨_, _, target, _⟩ := Settings.resolveOutputDir_eq_ok resolved
  have plain := Host.notMem_resolve target
  have vacant : host.Vacant dir := by
    rcases empty with absent | ⟨directory, nothing⟩
    · exact Host.vacant_of_absent project.sound.rooted plain absent
    · exact Host.vacant_of_empty directory nothing
  obtain ⟨location, files, added, gains, nothing, supported, found, takes, stores⟩ :=
    generate_stores project loaded resolved vacant generated
  have kept (direct : ∀ name inner, dir.below? root = some (name :: inner) → inner = [])
      (names : List Text) : ¬LeftOut host root dir settings names :=
    not_leftOut project gains stores.there nothing direct
  obtain ⟨result, after, verified, came⟩ :=
    verify_stores project [] gains loaded supported stores aside
  refine ⟨result, after, verified, ?_⟩
  cases everywhere : Sources.find host root (sourceFilter settings .standard dir root).everywhere with
  | error failure =>
    rw [everywhere] at came
    obtain rfl : result = .error failure := came
    obtain ⟨ignored, names, bytes, tested, listed, suits, skipped, failed⟩ :=
      Sources.find_everywhere_error found everywhere
    have leftOut : LeftOut host root dir settings names := ⟨⟨bytes, listed⟩, suits, skipped⟩
    refine ⟨fun other same => ⟨names, ?_⟩, nofun, fun direct => absurd leftOut (kept direct names)⟩
    obtain rfl := Except.error.inj same
    exact .unanswered leftOut ⟨ignored, tested, failed⟩
  | ok all =>
    obtain rfl := Sources.find_everywhere project.sound project.there found everywhere
    simp only [everywhere] at came
    rcases came with ⟨artifact, reason, refused, rfl⟩ | ⟨spelled, comparison, rfl, missing, extra, ok⟩
    · obtain ⟨names, leftOut, spoils⟩ := exists_spoils everywhere (takes.spelled artifact) refused
      refine ⟨fun other same => ⟨names, ?_⟩, nofun, fun direct => absurd leftOut (kept direct names)⟩
      obtain rfl := Except.error.inj same
      exact spoils
    · rw [bytes_eq_iff (spelled .snapshots), ← not_overlooked_iff everywhere] at ok
      refine ⟨nofun, ?_, fun direct => ⟨comparison, rfl, ?_⟩⟩
      · rintro _ ⟨⟩
        exact ⟨missing, extra, ok, fun names failure => not_spoils everywhere spelled⟩
      · exact ok.mpr fun names overlooked => kept direct names overlooked.toLeftOut

section Nested
open scoped Installed

/-- The root of a project, and a directory for its index two levels below. -/
def nestedRoot : Path := ⟨['/'], ["proj".toList]⟩

def nestedDir : Path := ⟨['/'], ["proj".toList, "pkg".toList, "out".toList]⟩

/-- A host with that project, which has a source file beside the directory for its index. -/
def nestedHost : Host where
  tree := ⟨[(["proj".toList], .directory),
    (["proj".toList, "symlex.toml".toList],
      .file (Utf8.encode "[index]\noutput_dir = \"pkg/out\"\n".toList)),
    (["proj".toList, "pkg".toList], .directory),
    (["proj".toList, "pkg".toList, "a.py".toList], .file (Utf8.encode "x = 1\n".toList)),
    (["tmp".toList], .directory)]⟩
  cwd := ⟨['/'], []⟩
  home := ⟨['/'], []⟩
  temporary := ⟨['/'], ["tmp".toList]⟩

def nestedSettings : Settings :=
  { Settings.default with index := { Settings.default.index with outputDir := "pkg/out".toList } }

theorem nestedHost_project : nestedHost.Project nestedRoot ["proj".toList] where
  sound := sound_of_entries (by decide) (by decide) (by decide)
  there := ⟨by decide, by cbv⟩
  read := Path.isRead_ofText "/proj".toList
  steady := by
    have there : nestedHost.At nestedRoot ["proj".toList] := ⟨by decide, by cbv⟩
    intro names target member
    rw [there.descendants, mem_below] at member
    simp [nestedHost] at member

theorem nestedHost_vacant : nestedHost.Vacant nestedDir := by
  have absent : nestedHost.pathExists nestedDir = false := by cbv
  exact Host.vacant_of_absent nestedHost_project.sound.rooted (by decide) absent

theorem nestedHost_everywhere : Sources.find nestedHost nestedRoot
    (sourceFilter nestedSettings .standard nestedDir nestedRoot).everywhere =
      .ok [["pkg".toList, "a.py".toList]] := by cbv

/-- The source file beside the directory of the index is overlooked. -/
theorem nestedHost_overlooked :
    Overlooked nestedHost nestedRoot nestedDir nestedSettings ["pkg".toList, "a.py".toList] :=
  (overlooked_iff nestedHost_everywhere).mpr ⟨⟨by simp, by decide⟩, "x = 1\n".toList, by cbv⟩

/-- Its temporary files are away from what an index run adds. -/
theorem nestedHost_aside (gains : nestedHost.GainsOutput after added)
    (near : ∀ entry ∈ added, entry.1 <+: nestedDir.names ∨ nestedDir.names <+: entry.1)
    (stores : Stores after nestedDir nestedDir.names symbols snapshots) :
    Aside after nestedRoot nestedDir ["tmp".toList] where
  there := by
    have temporary : nestedHost.At nestedHost.temporary ["tmp".toList] := ⟨by decide, by cbv⟩
    rw [gains.grows.temporary]
    exact temporary.extends gains.grows.tree.extends gains.grows.cwd
  unused := by
    refine Option.eq_none_iff_forall_ne_some.mpr fun entry present => ?_
    rcases gains.grows.tree.mem_added present with old | new
    · simp [nestedHost, Tree.entry?] at old
    · have apart : ¬(["tmp".toList, freshName] <+: nestedDir.names ∨
          nestedDir.names <+: ["tmp".toList, freshName]) := by decide
      exact apart (near _ new)
  unnamed := by
    rw [gains.grows.temporary]
    decide
  apart := by
    intro other
    cases stores.there.unique other
  allowed _ := by rw [gains.grows.platform]; rfl
  unlimited _ := by rw [gains.grows.platform]; rfl

theorem verify_generated_nested : ∃ summary last comparison after,
    (generate nestedRoot none none).run nestedHost = (.ok summary, last) ∧
      (verify nestedRoot nestedDir).run last.host = (.ok comparison, after) ∧
      comparison.missing = [] ∧ comparison.extra = [] ∧ comparison.ok = false := by
  have loaded : Settings.load nestedHost nestedRoot = .ok nestedSettings := by cbv
  have resolved : Settings.resolveOutputDir nestedHost nestedRoot nestedSettings.index.outputDir =
      .ok nestedDir := by cbv
  have absent : nestedHost.pathExists nestedDir = false := by cbv
  have made : nestedHost.makeDirectories nestedDir = ({ nestedHost with
      tree := nestedHost.tree.put nestedDir.names .directory }, none) := by
    cbv
  have found : Sources.find nestedHost nestedRoot
      (sourceFilter nestedSettings .standard nestedDir nestedRoot) = .ok [] := by cbv
  obtain ⟨summary, last, location, added, generated, gains, near, there, _, stores⟩ :=
    generate_ok nestedHost_project loaded resolved nestedHost_vacant made rfl found
      (fun _ _ => Installed.takes_plain _ _) []
  obtain rfl : location = nestedDir.names :=
    there.unique ⟨by decide, by cbv⟩
  have aside := nestedHost_aside gains near stores
  obtain ⟨result, after, verified, fails, compares, _⟩ :=
    verify_generated nestedHost_project loaded resolved (Or.inl absent) generated aside
  cases result with
  | error failure =>
    obtain ⟨names, spoils⟩ := fails failure rfl
    exact absurd spoils (not_spoils nestedHost_everywhere fun _ => Installed.refusal?_eq_none _)
  | ok comparison =>
    obtain ⟨missing, extra, agrees, _⟩ := compares comparison rfl
    have differs : comparison.ok = false := by
      rw [← Bool.not_eq_true, agrees]
      exact fun none => none _ nestedHost_overlooked
    exact ⟨summary, last, comparison, after, generated, verified, missing, extra, differs⟩

end Nested

end SymbolIndex.Index
