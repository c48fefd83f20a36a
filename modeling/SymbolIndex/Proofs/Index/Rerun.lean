import SymbolIndex.Proofs.Index.RoundTrip
import SymbolIndex.Proofs.Sources.Steady

/-! What an index run does, exactly: the blocks that it collects follow from the settings, the files
found and their texts, and the two files that it writes from the blocks. -/
namespace SymbolIndex.Index
open Job SymbolIndex.Tree
variable {host made after : Host} {world last : World} {failure : Failure} {root dir : Path}
  {settings : Settings} {registered text : Text} {names : List Text} {files : List (List Text)}
  {block : Block} {blocks : List Block} {location : Location} {outDir : Option Path} {summary : Summary}
  {symbols snapshots : List UInt8} {added : List (Location × Entry)}

section Blocks

/-- The block of a source file that can be read. -/
def readBlock? (host : Host) (root : Path) (registered : Text) (names : List Text) : Option Block :=
  match host.readText (Sources.pathBelow root names) with
  | .ok text => some (blockOf (Path.relativeText names) registered (extract text))
  | .error _ => none

theorem readBlock?_eq_some
    (done : readBlock? host root registered names = some block) : ∃ text,
      host.readText (Sources.pathBelow root names) = .ok text ∧
        block = blockOf (Path.relativeText names) registered (extract text) := by
  unfold readBlock? at done
  split at done
  · rename_i text read
    exact ⟨text, read, (Option.some.inj done).symm⟩
  · cases done

theorem readBlock?_eq_none : readBlock? host root registered names = none ↔
    ∀ text, host.readText (Sources.pathBelow root names) ≠ .ok text := by
  rw [readBlock?]
  cases host.readText (Sources.pathBelow root names) <;> simp

/-- The blocks of source files are those of the files that can be read. -/
theorem blocksOf_python (root : Path) (registered : Text) (files : List (List Text)) (world : World) :
    ∃ log, outcome (blocksOf root .python registered files) world =
      (.ok (files.filterMap (readBlock? world.host root registered)), ⟨world.host, log⟩) := by
  induction files generalizing world with
  | nil => exact ⟨world.log, rfl⟩
  | cons names rest ih =>
    rw [blocksOf, outcome_bind, readSource, host_bind]
    cases read : world.host.readText (Sources.pathBelow root names) with
    | error failure =>
      obtain ⟨log, later⟩ := ih ⟨world.host, _⟩
      refine ⟨log, later.trans ?_⟩
      simp [readBlock?, read]
    | ok text =>
      obtain ⟨log, later⟩ := ih ⟨world.host, _⟩
      refine ⟨log, ?_⟩
      simp only [outcome_pure, extractReported, Language.python_snapshot?, outcome_bind,
        outcome_report]
      rw [later, List.filterMap_cons, readBlock?, read]

variable [Schema.Package] [Ignore.Package] [Json.Package]

omit [Schema.Package] [Json.Package] in
/-- A collection into a directory makes it and reads what it finds then. -/
theorem collectInto_eq_ok : (∃ log,
      outcome (collectInto root dir settings) world = (.ok blocks, ⟨made, log⟩)) ↔
    world.host.makeDirectories dir = (made, none) ∧
      Registry.standard.create settings.language = .ok .python ∧
      ∃ files, Sources.find made root (sourceFilter settings .standard dir root) = .ok files ∧
        blocks = files.filterMap (readBlock? made root settings.language) := by
  constructor
  · rintro ⟨log, done⟩
    rw [collectInto] at done
    obtain ⟨_, world₁, directories, done⟩ := bind_eq_ok.mp done
    obtain ⟨host₁, created, rfl⟩ := makeDirectories_eq_ok.mp directories
    obtain ⟨registry, world₂, reported, done⟩ := bind_eq_ok.mp done
    obtain ⟨rfl, kept⟩ := standardRegistry_spec reported
    obtain ⟨language, world₃, known, done⟩ := bind_eq_ok.mp done
    obtain ⟨supported, rfl⟩ := ofRegistry_eq_ok known
    obtain rfl := Registry.create_standard supported
    obtain ⟨files, world₄, found, collected⟩ := bind_eq_ok.mp done
    obtain ⟨listed, rfl⟩ := look_eq_ok.mp found
    obtain ⟨log', collected'⟩ := blocksOf_python root settings.language files world₄
    obtain ⟨same, ended⟩ := Prod.mk.inj (collected.symm.trans collected')
    obtain rfl : made = world₄.host := congrArg World.host ended
    exact ⟨created.trans (by rw [kept]), supported, files, listed, Except.ok.inj same⟩
  · rintro ⟨created, supported, files, found, rfl⟩
    obtain ⟨log, collected⟩ := blocksOf_python root settings.language files ⟨made, _⟩
    refine ⟨log, ?_⟩
    have directories : outcome (Job.makeDirectories dir) world = (.ok (), { world with host := made }) :=
      makeDirectories_eq_ok.mpr ⟨made, created, rfl⟩
    have looked (log : List LogEntry) : outcome (look (Sources.find · root
        (sourceFilter settings .standard dir root))) ⟨made, log⟩ = (.ok files, ⟨made, log⟩) :=
      look_eq_ok.mpr ⟨found, rfl⟩
    simp only [collectInto, outcome_bind, directories, standardRegistry, outcome_report, outcome_pure,
      ofRegistry, supported, looked]
    rw [collected]

omit [Schema.Package] [Json.Package] in
/-- A collection fails where its directory cannot be made; or once that is there, where the language is
not known or the ignore rules cannot be told. -/
theorem collectInto_eq_error : (∃ log,
      outcome (collectInto root dir settings) world = (.error failure, ⟨after, log⟩)) ↔
    world.host.makeDirectories dir = (after, some failure) ∨
      world.host.makeDirectories dir = (after, none) ∧
        ((∃ error, Registry.standard.create settings.language = .error error ∧
            failure = .registry error) ∨
          Registry.standard.create settings.language = .ok .python ∧
            Sources.find after root (sourceFilter settings .standard dir root) = .error failure) := by
  rcases created : world.host.makeDirectories dir with ⟨made, _ | fault⟩
  · have directories := makeDirectories_eq_ok.mpr ⟨made, created, rfl⟩
    cases known : Registry.standard.create settings.language with
    | error error =>
      simp only [collectInto, outcome_bind, directories, standardRegistry, outcome_report, outcome_pure,
        ofRegistry, known, outcome_throw]
      grind
    | ok language =>
      obtain rfl := Registry.create_standard known
      cases found : Sources.find made root (sourceFilter settings .standard dir root) with
      | error fault =>
        simp only [collectInto, outcome_bind, directories, standardRegistry, outcome_report, outcome_pure,
          ofRegistry, known, outcome_look, found]
        grind
      | ok files =>
        obtain ⟨log, collected⟩ := collectInto_eq_ok.mpr ⟨created, known, files, found, rfl⟩
        rw [collected]
        grind
  · have directories := makeDirectories_eq_error.mpr ⟨made, created, rfl⟩
    simp only [collectInto, outcome_bind, directories]
    grind

omit [Schema.Package] [Ignore.Package] [Json.Package] in
theorem foreign_extensions (language : Text) : Text.lower ".jsonl".toList ∉
    (Registry.standard.extensionsOf language).map Text.lower := by
  have known : ∀ extension ∈ Registry.standard.extensionsOf language,
      extension ∈ Registry.standard.owners.entries.map Prod.fst := by
    intro extension member
    obtain ⟨entry, listed, rfl⟩ := List.mem_map.mp (List.mem_mergeSort.mp member)
    exact List.mem_map.mpr ⟨entry, (List.mem_filter.mp listed).1, rfl⟩
  have foreign : Text.lower ".jsonl".toList ∉
      (Registry.standard.owners.entries.map Prod.fst).map Text.lower := by decide
  rintro member
  obtain ⟨extension, listed, same⟩ := List.mem_map.mp member
  exact foreign (List.mem_map.mpr ⟨extension, known extension listed, same⟩)

omit [Schema.Package] [Ignore.Package] [Json.Package] in
/-- Whether the directory is the one that is asked for. -/
def Chosen (host : Host) (root dir : Path) (settings : Settings) : Option Path → Prop
  | some given => given = dir
  | none => Settings.resolveOutputDir host root settings.index.outputDir = .ok dir

/-- A run reads the settings, collects into the directory chosen and writes what it collected. -/
theorem outcome_generate (loaded : Settings.load world.host root = .ok settings)
    (chosen : Chosen world.host root dir settings outDir) :
    outcome (generate root outDir none) world =
      outcome (collectInto root dir settings >>= writeBlocks dir) world := by
  refine outcome_configured ⟨Or.inr ⟨rfl, loaded⟩, ?_⟩
  cases outDir with
  | some given => exact Or.inl (congrArg some chosen)
  | none => exact Or.inr ⟨rfl, chosen⟩

end Blocks

section Stored

/-- A directory holds the two files of an index and nothing else. -/
structure Stores (host : Host) (dir : Path) (location : Location) (symbols snapshots : List UInt8) :
    Prop where
  there : host.At dir location
  below : host.tree.below location =
    [([Artifact.symbols.fileName], .file symbols), ([Artifact.snapshots.fileName], .file snapshots)]
  symbols : host.tree.entry? (location ++ [Artifact.symbols.fileName]) = some (.file symbols)
  snapshots : host.tree.entry? (location ++ [Artifact.snapshots.fileName]) = some (.file snapshots)

theorem isEntryName_fileName (artifact : Artifact) : IsEntryName artifact.fileName := by
  cases artifact <;> decide

/-- The entries of the two files of an index. -/
def stored (location : Location) (symbols snapshots : List UInt8) : List (Location × Entry) :=
  [(location ++ [Artifact.symbols.fileName], .file symbols),
    (location ++ [Artifact.snapshots.fileName], .file snapshots)]

/-- In an empty directory an index is written, and nothing else changes. -/
theorem writeBlocks_stores [Json.Package] (there : host.At dir location) (rooted : host.tree.Rooted)
    (empty : host.tree.below location = []) (takes : Takes host.platform location blocks)
    (log : List LogEntry) :
    ∃ summary last, outcome (writeBlocks dir blocks) ⟨host, log⟩ = (.ok summary, last) ∧
      Stores last.host dir location (symbolBytes blocks) (snapshotBytes blocks) ∧
      host.GainsOutput last.host (stored location (symbolBytes blocks) (snapshotBytes blocks)) := by
  have usable (artifact : Artifact) : Host.isUsable (dir.child artifact.fileName) = true :=
    there.usable_append (by simp [isEntryName_fileName])
  have absent (artifact : Artifact) := Host.entry?_of_below empty artifact.fileName
  obtain ⟨above, _⟩ := rooted.present_of_walk rfl there.reached
  obtain ⟨host₁, host₂, first, second⟩ := (takes_iff there absent).mpr ⟨usable, takes⟩
  obtain ⟨log', written⟩ := writeBlocks_eq_ok.mpr ⟨⟨host₁, first, second⟩, rfl⟩
  obtain ⟨_, wrote₁, grows₁, rooted₁⟩ := there.writeBytes_grows rooted (fileName_isName .symbols)
    (usable _) (absent _) (takes.allowed _) (symbolBytes blocks)
  obtain rfl := Except.ok.inj (first.wrote.symm.trans wrote₁)
  have absent₁ : host₁.tree.entry? (location ++ [Artifact.snapshots.fileName]) = none := by
    rw [grows₁.tree.entry?, absent]
    simp [Ne.symm fileName_ne]
  have there₁ := there.extends grows₁.tree.extends grows₁.cwd
  have allowed₁ : host₁.platform.refuses (location ++ [Artifact.snapshots.fileName]) = none := by
    rw [grows₁.platform]
    exact takes.allowed _
  obtain ⟨_, wrote₂, grows₂, rooted₂⟩ := there₁.writeBytes_grows rooted₁
    (fileName_isName .snapshots) (usable _) absent₁ allowed₁ (snapshotBytes blocks)
  obtain rfl := Except.ok.inj (second.wrote.symm.trans wrote₂)
  have grows := grows₁.trans grows₂
  have output : ∀ (artifact : Artifact) (bytes : List UInt8),
      IsOutput (location ++ [artifact.fileName], .file bytes) := by
    refine fun artifact bytes => ⟨fun name member => ?_, Or.inr ⟨location, artifact, bytes, rfl⟩⟩
    rcases List.mem_append.mp member with old | new
    · exact there.isName name old
    · rw [List.mem_singleton.mp new]
      exact fileName_isName artifact
  refine ⟨_, _, written, ⟨there.extends grows.tree.extends grows.cwd, ?_, ?_, ?_⟩, grows, rooted₂, ?_⟩
  · rw [grows.tree.below, empty, List.nil_append]
    simp [Tree.below]
  · exact grows.tree.filled (location ++ [_], _) (by simp)
  · exact grows.tree.filled (location ++ [_], _) (by simp)
  · simpa [stored] using ⟨output .symbols _, output .snapshots _⟩

end Stored

section Run
variable [Ignore.Package] {top : Location} {filter : Sources.Filter} (project : host.Project root top)
include project

/-- Source files are read as before. -/
theorem readBlock?_gains (gains : host.GainsOutput made added)
    (found : Sources.find host root filter = .ok files) :
    files.filterMap (readBlock? made root registered) =
      files.filterMap (readBlock? host root registered) := by
  refine List.filterMap_congr fun names member => ?_
  obtain ⟨bytes, listed⟩ := Sources.mem_find found member
  rw [project.there.descendants] at listed
  have reached := (Host.has_of_below project.sound listed).lookup project.sound project.there (by simp)
  have settled : ¬host.Dangling (Sources.pathBelow root names) := by
    rintro (lost | ⟨location, void⟩) <;> simp_all
  have same := Host.lookup_settled gains.grows.tree.extends gains.grows.cwd settled
  rw [readBlock?, readBlock?, Host.readText, Host.readText, Host.readBytes_congr same]

/-- A collection on a host that gained output collects what the project holds. -/
theorem collectInto_gains (gains : host.GainsOutput made added) : (∃ log,
      outcome (collectInto root dir settings) world = (.ok blocks, ⟨made, log⟩)) ↔
    world.host.makeDirectories dir = (made, none) ∧
      Registry.standard.create settings.language = .ok .python ∧
      ∃ files, Sources.find host root (sourceFilter settings .standard dir root) = .ok files ∧
        blocks = files.filterMap (readBlock? host root settings.language) := by
  have foreign : Text.lower ".jsonl".toList ∉
      (sourceFilter settings .standard dir root).extensions.map Text.lower :=
    foreign_extensions settings.language
  rw [collectInto_eq_ok, gains.find project _ foreign]
  refine and_congr_right fun _ => and_congr_right fun _ => exists_congr fun files => ?_
  refine and_congr_right fun found => ?_
  rw [readBlock?_gains project gains found]

section Vacant
variable [Schema.Package] [Json.Package] (loaded : Settings.load host root = .ok settings)
  (resolved : Settings.resolveOutputDir host root settings.index.outputDir = .ok dir)
  (vacant : host.Vacant dir)
include loaded resolved vacant

/-- A run into an empty or absent directory that can be made, and takes what the project holds, stores
that. It adds what is on the way to that directory or in it. -/
theorem generate_ok (done : host.makeDirectories dir = (made, none))
    (supported : Registry.standard.create settings.language = .ok .python)
    (found : Sources.find host root (sourceFilter settings .standard dir root) = .ok files)
    (takes : ∀ location, made.At dir location →
      Takes made.platform location (files.filterMap (readBlock? host root settings.language)))
    (log : List LogEntry) :
    ∃ summary last location added,
      outcome (generate root none none) ⟨host, log⟩ = (.ok summary, last) ∧
      host.GainsOutput last.host added ∧
      (∀ entry ∈ added, entry.1 <+: location ∨ location <+: entry.1) ∧
      made.At dir location ∧ host.tree.below location = [] ∧
      Stores last.host dir location
        (symbolBytes (files.filterMap (readBlock? host root settings.language)))
        (snapshotBytes (files.filterMap (readBlock? host root settings.language))) := by
  obtain ⟨_, _, target, _⟩ := Settings.resolveOutputDir_eq_ok resolved
  obtain ⟨location, directories, there, gains, onTheWay, below⟩ :=
    Host.makeDirectories_gains project.sound.rooted (Host.notMem_resolve target) done
  have empty := vacant _ _ done there
  have collects : ∃ log', outcome (collectInto root dir settings) ⟨host, log⟩ =
      (.ok (files.filterMap (readBlock? host root settings.language)), ⟨made, log'⟩) :=
    (collectInto_gains project gains).mpr ⟨done, supported, files, found, rfl⟩
  obtain ⟨log', collected⟩ := collects
  obtain ⟨summary, last, written, stores, gains'⟩ :=
    writeBlocks_stores there gains.rooted (below.trans empty) (takes location there) log'
  have run : outcome (generate root none none) ⟨host, log⟩ =
      outcome (collectInto root dir settings >>= writeBlocks dir) ⟨host, log⟩ :=
    outcome_generate loaded resolved
  refine ⟨summary, last, location, _, run.trans (bind_eq_ok.mpr ⟨_, _, collected, written⟩),
    gains.trans gains', fun entry listed => ?_, there, empty, stores⟩
  rcases List.mem_append.mp listed with before | inside
  · exact Or.inl (onTheWay entry before)
  · simp only [stored, List.mem_cons, List.not_mem_nil, or_false] at inside
    rcases inside with rfl | rfl <;> exact Or.inr (List.prefix_append _ _)

/-- A run that succeeds did so. -/
theorem generate_stores {log : List LogEntry}
    (generated : outcome (generate root none none) ⟨host, log⟩ = (.ok summary, last)) :
    ∃ location files added, host.GainsOutput last.host added ∧ host.tree.below location = [] ∧
      Registry.standard.create settings.language = .ok .python ∧
      Sources.find host root (sourceFilter settings .standard dir root) = .ok files ∧
      Takes host.platform location (files.filterMap (readBlock? host root settings.language)) ∧
      Stores last.host dir location
        (symbolBytes (files.filterMap (readBlock? host root settings.language)))
        (snapshotBytes (files.filterMap (readBlock? host root settings.language))) := by
  have run : outcome (generate root none none) ⟨host, log⟩ =
      outcome (collectInto root dir settings >>= writeBlocks dir) ⟨host, log⟩ :=
    outcome_generate loaded resolved
  obtain ⟨blocks, middle, collected, written⟩ := bind_eq_ok.mp (run.symm.trans generated)
  obtain ⟨done, _⟩ := collectInto_eq_ok.mp ⟨middle.log, collected⟩
  obtain ⟨_, _, target, _⟩ := Settings.resolveOutputDir_eq_ok resolved
  obtain ⟨_, _, there, gains, _, below⟩ :=
    Host.makeDirectories_gains project.sound.rooted (Host.notMem_resolve target) done
  obtain ⟨_, supported, files, found, rfl⟩ :=
    (collectInto_gains project gains).mp ⟨middle.log, collected⟩
  have absent (artifact : Artifact) :=
    Host.entry?_of_below (below.trans (vacant _ _ done there)) artifact.fileName
  obtain ⟨⟨between, first, second⟩, _⟩ := writeBlocks_eq_ok.mp ⟨last.log, written⟩
  obtain ⟨_, takes⟩ := (takes_iff there absent).mp ⟨between, _, first, second⟩
  obtain ⟨_, last', location, added, generated', gains', _, there', empty, stores⟩ :=
    generate_ok project loaded resolved vacant done supported found
      (fun other there' => there.unique there' ▸ takes) log
  obtain ⟨_, rfl⟩ := Prod.mk.inj (generated.symm.trans generated')
  obtain rfl := there.unique there'
  exact ⟨_, files, added, gains', empty, supported, found, gains.grows.platform ▸ takes, stores⟩

end Vacant

end Run

end SymbolIndex.Index
