import SymbolIndex.Proofs.Index.Gathered

/-! A run of the index where an index was just written: it reads the same settings, finds the same
files and writes the same bytes, if the first run wrote its two files in its directory and nothing that
says what the project consists of leads there. -/
namespace SymbolIndex.Index
open Job SymbolIndex.Tree
variable {host made between after : Host} {last : World} {root dir : Path} {outDir : Option Path}
  {given : Option Settings} {settings : Settings} {summary : Summary} {files : List (List Text)}
  {blocks : List Block} {top location : Location} {symbols snapshots : List UInt8}
  {log : List LogEntry}

/-- A run that may be made again: the root is there, its settings file is not a link to where nothing
is, and nothing but the two files of the index was written, to which no settings file or ignore file
leads. -/
structure Repeatable (host after : Host) (root dir : Path) (given : Option Settings) : Prop where
  there : host.isDirectory root = true
  settled : given = none → ∀ top target, host.At root top →
    host.tree.entry? (top ++ [Settings.fileName]) = some (.link target) →
    ¬host.Dangling (root.child Settings.fileName)
  unlinked : ∀ location (artifact : Artifact) target, after.At dir location →
    after.tree.entry? (location ++ [artifact.fileName]) ≠ some (.link target)
  unwatched : ∀ (artifact : Artifact) place, after.LeadsTo (dir.child artifact.fileName) place →
    ¬after.Watches root place

/-- What a run wrote, one file after the other, in a directory where neither is a link. -/
structure Written (made between after : Host) (dir : Path) (location : Location)
    (symbols snapshots : List UInt8) : Prop where
  there : made.At dir location
  first : made.Writes between (dir.child Artifact.symbols.fileName)
    (location ++ [Artifact.symbols.fileName]) symbols
  second : between.Writes after (dir.child Artifact.snapshots.fileName)
    (location ++ [Artifact.snapshots.fileName]) snapshots
  tidy : between.tree.Tidy
  tidy' : after.tree.Tidy

/-- The files are written in the directory itself. -/
theorem written_of_writeBytes (rooted : made.tree.Rooted) (tidy : made.tree.Tidy)
    (there : made.At dir location)
    (unlinked : ∀ (artifact : Artifact) target,
      after.tree.entry? (location ++ [artifact.fileName]) ≠ some (.link target))
    (wrote₁ : made.writeBytes (dir.child Artifact.symbols.fileName) symbols = .ok between)
    (wrote₂ : between.writeBytes (dir.child Artifact.snapshots.fileName) snapshots = .ok after) :
    Written made between after dir location symbols snapshots := by
  obtain ⟨first, writes₁⟩ := Host.writes_of_writeBytes rooted wrote₁
  have rooted₁ := writes₁.tree.rooted rooted
  obtain ⟨second, writes₂⟩ := Host.writes_of_writeBytes rooted₁ wrote₂
  have there₁ := writes₁.at rooted there
  have unlinked₁ (target : Text) :
      between.tree.entry? (location ++ [Artifact.symbols.fileName]) ≠ some (.link target) :=
    fun present => unlinked .symbols target ((writes₂.tree.sameLinks _ _).mp present)
  obtain rfl := there₁.location_child (fileName_isName .symbols) unlinked₁ writes₁.reached
  obtain rfl := (writes₂.at rooted₁ there₁).location_child (fileName_isName .snapshots)
    (unlinked .snapshots) writes₂.reached
  have tidy₁ := Host.writeBytes_tidy rooted tidy wrote₁
  exact ⟨there, writes₁, writes₂, tidy₁, Host.writeBytes_tidy rooted₁ tidy₁ wrote₂⟩

namespace Written
variable (written : Written made between after dir location symbols snapshots)
  (rooted : made.tree.Rooted)
include written rooted

theorem rooted_between : between.tree.Rooted := written.first.tree.rooted rooted

omit rooted in
theorem isName (artifact : Artifact) : ∀ name ∈ location ++ [artifact.fileName], IsName name := by
  simp only [List.forall_mem_append, List.forall_mem_singleton]
  exact ⟨written.there.isName, fileName_isName artifact⟩

theorem at_after (there : made.At root top) : after.At root top :=
  written.second.at (written.rooted_between rooted) (written.first.at rooted there)

omit rooted in
theorem walkable (walkable : made.Walkable) : after.Walkable :=
  written.second.rewrites.walkable (written.first.rewrites.walkable walkable (written.isName _))
    (written.isName _)

omit rooted in
theorem sameLinks : made.tree.SameLinks after.tree :=
  written.first.tree.sameLinks.trans written.second.tree.sameLinks

/-- The file that was written first has its bytes still. -/
theorem reached : after.lookup true (dir.child Artifact.symbols.fileName) =
    .ok (.present (location ++ [Artifact.symbols.fileName]) (.file symbols)) := by
  have again := written.second.lookup (written.rooted_between rooted) written.first.reached
  rwa [Found.overwritten, Found.location, if_neg (by simp [Ne.symm fileName_ne])] at again

omit rooted in
theorem platform : after.platform = made.platform :=
  written.second.platform.trans written.first.platform

/-- Writing the same once more changes nothing. -/
theorem writeBytes_again : after.writeBytes (dir.child Artifact.symbols.fileName) symbols = .ok after ∧
    after.writeBytes (dir.child Artifact.snapshots.fileName) snapshots = .ok after := by
  have allowed₁ := written.first.allowed
  have allowed₂ := written.second.allowed
  rw [← written.platform] at allowed₁
  rw [← written.second.platform] at allowed₂
  exact ⟨Host.writeBytes_same written.tidy' written.first.usable (written.reached rooted) allowed₁,
    Host.writeBytes_same written.tidy' written.second.usable written.second.reached allowed₂⟩

variable (unwatched : ∀ (artifact : Artifact) place,
    after.LeadsTo (dir.child artifact.fileName) place → ¬after.Watches root place)
include unwatched

omit rooted in
theorem unwatched_second : ¬after.Watches root (location ++ [Artifact.snapshots.fileName]) :=
  unwatched .snapshots _ ⟨_, written.second.reached, rfl⟩

theorem unwatched_first : ¬between.Watches root (location ++ [Artifact.symbols.fileName]) :=
  fun watched => unwatched .symbols _ ⟨_, written.reached rooted, rfl⟩
    (written.second.rewrites.watches (written.rooted_between rooted) watched)

theorem load [Schema.Package] : Settings.load after root = Settings.load made root :=
  (written.second.rewrites.load (written.rooted_between rooted)
    (written.unwatched_second unwatched)).trans
      (written.first.rewrites.load rooted (written.unwatched_first rooted unwatched))

/-- The same files are found, and they are read alike. -/
theorem found_again [Ignore.Package] (lists : made.Lists root top)
    (found : Sources.find made root (sourceFilter settings .standard dir root) = .ok files) :
    Sources.find after root (sourceFilter settings .standard dir root) = .ok files ∧
      files.filterMap (readBlock? after root settings.language) =
        files.filterMap (readBlock? made root settings.language) := by
  have output (artifact : Artifact) :
      (location ++ [artifact.fileName]).getLast? = some artifact.fileName := by simp
  have foreign := foreign_sourceFilter settings dir root
  have lists₁ := lists.output written.first.rewrites written.tidy (written.isName _) (output _)
  have lists₂ := lists₁.output written.second.rewrites written.tidy' (written.isName _) (output _)
  have found₁ := written.first.rewrites.find_output rooted
    (written.unwatched_first rooted unwatched) lists lists₁ foreign found (output _)
  have found₂ := written.second.rewrites.find_output (written.rooted_between rooted)
    (written.unwatched_second unwatched) lists₁ lists₂ foreign found₁ (output _)
  refine ⟨found₂, List.filterMap_congr fun names member => ?_⟩
  have elsewhere (artifact : Artifact) : top ++ names ≠ location ++ [artifact.fileName] := by
    intro here
    refine (lists.named_of_mem_find foreign found member).1 artifact ?_
    exact Host.getLast?_output (lists.ne_nil_of_mem_find found member) here
  rw [readBlock?, readBlock?,
    written.second.rewrites.readText_apart lists₁ foreign found₁ member (elsewhere _),
    written.first.rewrites.readText_apart lists foreign found member (elsewhere _)]

end Written

/-- All records are written to a file again where they were written and the file still is. -/
theorem WritesAll.again [Json.Package] {path : Path} {place : Location} {values : List Value}
    (all : WritesAll made path values between)
    (writes : made.Writes between path place (encodeLines values))
    (platform : after.platform = made.platform)
    (reached : after.lookup true path = .ok (.present place (.file (encodeLines values))))
    (wrote : after.writeBytes path (encodeLines values) = .ok after) :
    WritesAll after path values after := by
  obtain ⟨found, led, rfl⟩ := writes.led
  refine ⟨all.spelled, (Host.fitting_eq_iff reached).mpr ?_, wrote⟩
  rw [platform]
  exact (Host.fitting_eq_iff led).mp all.room

section Wrote
variable [Schema.Package] [Ignore.Package] [Json.Package]
  (surveys : Surveys host root outDir given dir settings made files)
  (written : outcome (writeBlocks dir blocks) ⟨made, log⟩ = (.ok summary, last))
include surveys written

/-- Where neither of its files is a link, a run writes in the directory itself. -/
theorem written_of_writeBlocks (sound : host.tree.Sound)
    (unlinked : ∀ location (artifact : Artifact) target, last.host.At dir location →
      last.host.tree.entry? (location ++ [artifact.fileName]) ≠ some (.link target)) :
    ∃ location between,
      Written made between last.host dir location (symbolBytes blocks) (snapshotBytes blocks) ∧
      WritesAll made (dir.child Artifact.symbols.fileName) (Artifact.symbols.records blocks) between ∧
      WritesAll between (dir.child Artifact.snapshots.fileName) (Artifact.snapshots.records blocks)
        last.host := by
  obtain ⟨location, placed⟩ := (Host.makeDirectories_spec surveys.created).2
  obtain ⟨rooted, _⟩ := Host.makeDirectories_grown sound.rooted surveys.created
  have tidy := Host.makeDirectories_tidy sound.tidy dir
  rw [surveys.created] at tidy
  obtain ⟨⟨between, wrote₁, wrote₂⟩, _⟩ := writeBlocks_eq_ok.mp ⟨last.log, written⟩
  have placed' : last.host.At dir location := by
    obtain ⟨_, _, _, _, _, writes₁, writes₂⟩ := writeBlocks_writes rooted written
    exact writes₂.at (writes₁.tree.rooted rooted) (writes₁.at rooted placed)
  exact ⟨location, between, written_of_writeBytes rooted tidy placed
    (fun artifact target => unlinked location artifact target placed') wrote₁.wrote wrote₂.wrote,
    wrote₁, wrote₂⟩

end Wrote

/-- Settings are read as before the directory was made. -/
theorem load_made [Schema.Package] (there : host.At root top)
    (created : host.makeDirectories dir = (made, none))
    (settled : ∀ target, host.tree.entry? (top ++ [Settings.fileName]) = some (.link target) →
      ¬host.Dangling (root.child Settings.fileName)) :
    Settings.load made root = Settings.load host root := by
  obtain ⟨adds, _⟩ := Host.makeDirectories_spec created
  refine (there.child_alike adds.keeps adds.cwd Host.isEntryName_settings.isName settled
    fun entry absent later => ?_).load adds.platform
  exact (adds.adds _ _ later).resolve_left (by simp [absent])

/-- The directory that settings name stays where it was resolved to. -/
theorem resolveOutputDir_again {given : Text} (sound : host.tree.Sound)
    (there : host.At root top) (there' : after.At root top) (placed : after.At dir location)
    (rooted : after.tree.Rooted) (tidy : after.tree.Tidy) (same : host.tree.SameLinks after.tree)
    (cwd : after.cwd = host.cwd)
    (resolved : Settings.resolveOutputDir host root given = .ok dir) :
    Settings.resolveOutputDir after root given = .ok dir := by
  obtain ⟨base, start, target, _⟩ := Settings.resolveOutputDir_eq_ok resolved
  have start' : after.resolve root = .ok base := by
    rw [Host.resolve_of_lookup sound.rooted (.refl _) rfl there.usable there.reached] at start
    rw [← start, Host.resolve_of_lookup rooted (.refl _) rfl there'.usable there'.reached]
  have target' : after.resolve (base.join (Path.ofText given)) = .ok dir :=
    Host.resolve_congr same sound.tidy tidy cwd target (by rw [placed.reached]; simp)
  simp only [Settings.resolveOutputDir, start, target, bind, Except.bind] at resolved
  simp only [Settings.resolveOutputDir, start', target', bind, Except.bind]
  exact resolved

/-- A run where an index was just written writes it again. -/
theorem generate_again [Schema.Package] [Ignore.Package] [Json.Package] (sound : host.tree.Sound)
    (surveys : Surveys host root outDir given dir settings made files)
    (supported : Registry.standard.create settings.language = .ok .python)
    (written : outcome (writeBlocks dir (files.filterMap (readBlock? made root settings.language)))
      ⟨made, log⟩ = (.ok summary, last))
    (repeatable : Repeatable host last.host root dir given) (log' : List LogEntry) :
    ∃ again, outcome (generate root outDir given) ⟨last.host, log'⟩ = (.ok summary, again) ∧
      again.host = last.host := by
  obtain ⟨top, there⟩ := Host.isDirectory_iff.mp repeatable.there
  obtain ⟨adds, _⟩ := Host.makeDirectories_spec surveys.created
  have lists := surveys.lists sound (there.extends adds.keeps adds.cwd)
  obtain ⟨location, between, wrote, all₁, all₂⟩ :=
    written_of_writeBlocks surveys written sound repeatable.unlinked
  obtain ⟨_, counted⟩ := writeBlocks_eq_ok.mp ⟨last.log, written⟩
  have placed : last.host.At dir location := wrote.at_after lists.rooted wrote.there
  have rooted' : last.host.tree.Rooted := wrote.second.tree.rooted (wrote.rooted_between lists.rooted)
  have configured : Configures last.host root outDir given dir settings := by
    refine ⟨surveys.configured.loaded.imp_right fun ⟨unset, loaded⟩ => ⟨unset, ?_⟩,
      surveys.configured.located.imp_right fun ⟨unset, resolved⟩ => ⟨unset, ?_⟩⟩
    · rw [wrote.load lists.rooted repeatable.unwatched, load_made there surveys.created
        fun target => repeatable.settled unset top target there, loaded]
    · exact resolveOutputDir_again sound there (wrote.at_after lists.rooted lists.there)
        placed rooted' wrote.tidy' (adds.sameLinks.trans wrote.sameLinks)
        (wrote.second.cwd.trans (wrote.first.cwd.trans adds.cwd)) resolved
  obtain ⟨found, blocks⟩ := wrote.found_again lists.rooted repeatable.unwatched lists surveys.found
  obtain ⟨log₁, collected⟩ : ∃ log₁, outcome (collectInto root dir settings) ⟨last.host, log'⟩ =
      (.ok (files.filterMap (readBlock? made root settings.language)), ⟨last.host, log₁⟩) :=
    collectInto_eq_ok.mpr ⟨placed.makeDirectories, supported, files, found, blocks.symm⟩
  obtain ⟨again₁, again₂⟩ := wrote.writeBytes_again lists.rooted
  obtain ⟨log₂, stored⟩ : ∃ log₂, outcome (writeBlocks dir
      (files.filterMap (readBlock? made root settings.language))) ⟨last.host, log₁⟩ =
        (.ok summary, ⟨last.host, log₂⟩) :=
    writeBlocks_eq_ok.mpr ⟨⟨_, all₁.again wrote.first wrote.platform (wrote.reached lists.rooted) again₁,
      all₂.again wrote.second wrote.second.platform wrote.second.reached again₂⟩, counted⟩
  have run : outcome (generate root outDir given) ⟨last.host, log'⟩ =
      outcome (collectInto root dir settings >>= writeBlocks dir) ⟨last.host, log'⟩ :=
    outcome_configured configured
  exact ⟨_, run.trans (bind_eq_ok.mpr ⟨_, _, collected, stored⟩), rfl⟩

end SymbolIndex.Index
