import SymbolIndex.Index.Write
import SymbolIndex.Proofs.Extraction.Spans
import SymbolIndex.Proofs.Host.Directory
import SymbolIndex.Proofs.Job

/-! What an index run collects: the blocks of files that it could read, on a host where nothing
but directories was made. -/
namespace SymbolIndex
open Job

theorem Registry.create_standard {name : Text} {language : Language}
    (created : Registry.standard.create name = .ok language) : language = .python := by
  unfold create at created
  split at created
  · rename_i found present
    obtain rfl := Except.ok.inj created
    have only : Registry.standard.languages = Dictionary.empty.put Language.python.name .python := rfl
    rw [only, Dictionary.get?_put] at present
    split at present
    · exact (Option.some.inj present).symm
    · cases present
  · cases created

namespace Index
variable {world last : World} {root dir path : Path} {language : Language} {registered text : Text}
  {files : List (List Text)} {blocks : List Block} {found : Option Text} {snapshot : Snapshot}

theorem fileName_isName (artifact : Artifact) : Tree.IsName artifact.fileName := by
  cases artifact <;> exact ⟨by decide, by decide⟩

theorem fileName_ne : Artifact.snapshots.fileName ≠ Artifact.symbols.fileName := by decide

theorem ofRegistry_eq_ok {α : Type} {result : Except RegistryError α} {a : α}
    (done : outcome (ofRegistry result) world = (.ok a, last)) : result = .ok a ∧ last = world := by
  cases result with
  | ok value =>
    obtain ⟨same, rfl⟩ := Prod.mk.inj done
    exact ⟨congrArg Except.ok (Except.ok.inj same), rfl⟩
  | error error => cases (Prod.mk.inj done).1

theorem readSource_spec (done : outcome (readSource path) world = (.ok found, last)) :
    last.host = world.host ∧ ∀ text, found = some text → world.host.readText path = .ok text := by
  rw [readSource, host_bind] at done
  cases read : world.host.readText path with
  | ok text =>
    rw [read] at done
    obtain ⟨same, rfl⟩ := Prod.mk.inj done
    exact ⟨rfl, fun other here => by rw [← Except.ok.inj same] at here; cases here; rfl⟩
  | error failure =>
    rw [read] at done
    obtain ⟨same, rfl⟩ := Prod.mk.inj done
    exact ⟨rfl, fun other here => by rw [← Except.ok.inj same] at here; cases here⟩

theorem extractReported_spec {text : Text}
    (done : outcome (extractReported language text) world = (.ok snapshot, last)) :
    last.host = world.host ∧ language.snapshot? text = some snapshot := by
  rw [extractReported] at done
  cases taken : language.snapshot? text with
  | none =>
    rw [taken] at done
    cases (Prod.mk.inj done).1
  | some taken' =>
    rw [taken] at done
    obtain ⟨_, middle, reported, done⟩ := bind_eq_ok.mp done
    rw [outcome_report] at reported
    obtain ⟨_, rfl⟩ := Prod.mk.inj reported
    obtain ⟨same, rfl⟩ := Prod.mk.inj done
    exact ⟨rfl, congrArg some (Except.ok.inj same)⟩

/-- Blocks come from files that the host could read, and reading leaves the host alone. -/
theorem blocksOf_spec
    (done : outcome (blocksOf root language registered files) world = (.ok blocks, last)) :
    last.host = world.host ∧ ∀ block ∈ blocks, ∃ names text snapshot,
      world.host.readText (Sources.pathBelow root names) = .ok text ∧
        language.snapshot? text = some snapshot ∧
        block = blockOf (Path.relativeText names) registered snapshot := by
  induction files generalizing world last blocks with
  | nil =>
    obtain ⟨same, rfl⟩ := Prod.mk.inj done
    obtain rfl := Except.ok.inj same
    exact ⟨rfl, by simp⟩
  | cons names rest ih =>
    rw [blocksOf] at done
    obtain ⟨found, middle, read, done⟩ := bind_eq_ok.mp done
    obtain ⟨kept, texts⟩ := readSource_spec read
    cases found with
    | none =>
      obtain ⟨host, each⟩ := ih done
      rw [kept] at host each
      exact ⟨host, each⟩
    | some text =>
      obtain ⟨snapshot, extracted, reported, done⟩ := bind_eq_ok.mp done
      obtain ⟨kept', taken⟩ := extractReported_spec reported
      obtain ⟨later, finished, collected, done⟩ := bind_eq_ok.mp done
      obtain ⟨host, each⟩ := ih collected
      obtain ⟨same, rfl⟩ := Prod.mk.inj done
      obtain rfl := Except.ok.inj same
      rw [kept', kept] at host each
      refine ⟨host, ?_⟩
      intro block member
      rcases List.mem_cons.mp member with rfl | member
      · exact ⟨names, text, snapshot, texts text rfl, taken, rfl⟩
      · exact each block member

theorem standardRegistry_spec {registry : Registry}
    (done : outcome standardRegistry world = (.ok registry, last)) :
    registry = .standard ∧ last.host = world.host := by
  obtain ⟨same, rfl⟩ := Prod.mk.inj done
  exact ⟨(Except.ok.inj same).symm, rfl⟩

variable [Ignore.Package]

/-- A successful collection made the directory and nothing else, and its blocks are extractions of
texts of the host. -/
theorem collectInto_spec {settings : Settings}
    (done : outcome (collectInto root dir settings) world = (.ok blocks, last)) :
    world.host.makeDirectories dir = (last.host, none) ∧
      ∀ block ∈ blocks, ∃ names registered text,
        last.host.readText (Sources.pathBelow root names) = .ok text ∧
          block = blockOf (Path.relativeText names) registered (extract text) := by
  rw [collectInto] at done
  obtain ⟨_, world₁, directories, done⟩ := bind_eq_ok.mp done
  obtain ⟨host₁, made, rfl⟩ := makeDirectories_eq_ok.mp directories
  obtain ⟨registry, world₂, reported, done⟩ := bind_eq_ok.mp done
  obtain ⟨rfl, kept⟩ := standardRegistry_spec reported
  obtain ⟨language, world₃, created, done⟩ := bind_eq_ok.mp done
  obtain ⟨supported, rfl⟩ := ofRegistry_eq_ok created
  obtain rfl := Registry.create_standard supported
  obtain ⟨files, world₄, found, collected⟩ := bind_eq_ok.mp done
  obtain ⟨_, rfl⟩ := look_eq_ok.mp found
  obtain ⟨host, each⟩ := blocksOf_spec collected
  rw [kept] at host each
  refine ⟨by rw [host, made], ?_⟩
  intro block member
  obtain ⟨names, text, snapshot, read, taken, same⟩ := each block member
  rw [Language.python_snapshot?] at taken
  rw [← Option.some.inj taken] at same
  exact ⟨names, settings.language, text, by rw [host, read], same⟩

variable [Schema.Package]

/-- The directory and the settings that a run goes by: those given, else those of the project. -/
structure Configures (host : Host) (root : Path) (outDir : Option Path) (given : Option Settings)
    (dir : Path) (settings : Settings) : Prop where
  loaded : given = some settings ∨ given = none ∧ Settings.load host root = .ok settings
  located : outDir = some dir ∨
    outDir = none ∧ Settings.resolveOutputDir host root settings.index.outputDir = .ok dir

/-- Settings and directory are looked up in turn. -/
theorem collect_eq (root : Path) (outDir : Option Path) (given : Option Settings) :
    collect root outDir given = (do
      let settings ← given.elim (look (Settings.load · root)) pure
      let outDir ← outDir.elim (look (Settings.resolveOutputDir · root settings.index.outputDir)) pure
      let blocks ← collectInto root outDir settings
      return (outDir, blocks)) := by
  cases given <;> cases outDir <;> rfl

/-- Settings and directory are looked up in a world that stays as it is. -/
theorem collect_spec {outDir : Option Path} {given : Option Settings}
    (done : outcome (collect root outDir given) world = (.ok (dir, blocks), last)) :
    ∃ settings, Configures world.host root outDir given dir settings ∧
      outcome (collectInto root dir settings) world = (.ok blocks, last) := by
  rw [collect_eq] at done
  obtain ⟨settings, world₁, loaded, onward⟩ := bind_eq_ok.mp done
  have unread : world₁ = world ∧
      (given = some settings ∨ given = none ∧ Settings.load world.host root = .ok settings) := by
    cases given with
    | none =>
      obtain ⟨read, same⟩ := look_eq_ok.mp loaded
      exact ⟨same, Or.inr ⟨rfl, read⟩⟩
    | some given =>
      obtain ⟨same, rfl⟩ := Prod.mk.inj loaded
      exact ⟨rfl, Or.inl (congrArg some (Except.ok.inj same))⟩
  obtain ⟨rfl, settingsChosen⟩ := unread
  obtain ⟨dir', world₂, resolved, collecting⟩ := bind_eq_ok.mp onward
  have unresolved : world₂ = world₁ ∧ (outDir = some dir' ∨ outDir = none ∧
      Settings.resolveOutputDir world₁.host root settings.index.outputDir = .ok dir') := by
    cases outDir with
    | none =>
      obtain ⟨read, same⟩ := look_eq_ok.mp resolved
      exact ⟨same, Or.inr ⟨rfl, read⟩⟩
    | some given =>
      obtain ⟨same, rfl⟩ := Prod.mk.inj resolved
      exact ⟨rfl, Or.inl (congrArg some (Except.ok.inj same))⟩
  obtain ⟨rfl, directoryChosen⟩ := unresolved
  obtain ⟨blocks', world₃, collected, finished⟩ := bind_eq_ok.mp collecting
  obtain ⟨same, rfl⟩ := Prod.mk.inj finished
  obtain ⟨rfl, rfl⟩ := Prod.mk.inj (Except.ok.inj same)
  exact ⟨settings, ⟨settingsChosen, directoryChosen⟩, collected⟩

theorem collect_eq_ok {outDir : Option Path} {settings : Option Settings}
    (done : outcome (collect root outDir settings) world = (.ok (dir, blocks), last)) :
    (∀ given, outDir = some given → dir = given) ∧
      ∃ settings, outcome (collectInto root dir settings) world = (.ok blocks, last) := by
  obtain ⟨settings', configured, collected⟩ := collect_spec done
  refine ⟨fun given here => ?_, settings', collected⟩
  rcases configured.located with same | ⟨none, _⟩
  · exact Option.some.inj (same.symm.trans here)
  · cases none.symm.trans here

variable [Json.Package]

/-- A run that has settings and a directory collects into it and writes what it collected. -/
theorem outcome_configured {outDir : Option Path} {given : Option Settings} {settings : Settings}
    (configured : Configures world.host root outDir given dir settings) :
    outcome (generate root outDir given) world =
      outcome (collectInto root dir settings >>= writeBlocks dir) world := by
  have read : outcome (given.elim (look (Settings.load · root)) pure) world = (.ok settings, world) := by
    rcases configured.loaded with rfl | ⟨rfl, loaded⟩
    · rfl
    · exact look_eq_ok.mpr ⟨loaded, rfl⟩
  have found : outcome (outDir.elim
      (look (Settings.resolveOutputDir · root settings.index.outputDir)) pure) world =
        (.ok dir, world) := by
    rcases configured.located with rfl | ⟨rfl, resolved⟩
    · rfl
    · exact look_eq_ok.mpr ⟨resolved, rfl⟩
  simp only [generate, collect_eq, outcome_bind, read, found]
  rcases outcome (collectInto root dir settings) world with ⟨_ | _, _⟩ <;> rfl

/-- A run that has no settings or no directory changes nothing. -/
theorem outcome_unconfigured {outDir : Option Path} {given : Option Settings}
    (unconfigured : ∀ dir settings, ¬Configures world.host root outDir given dir settings) :
    (outcome (generate root outDir given) world).2 = world := by
  have chosen {α : Type} (choice : Option α) (read : Host → Except Failure α) :
      outcome (choice.elim (look read) pure) world = (choice.elim (read world.host) .ok, world) := by
    cases choice with
    | none => exact outcome_look read world
    | some value => rfl
  simp only [generate, collect_eq, outcome_bind, chosen]
  cases loaded : given.elim (Settings.load world.host root) .ok with
  | error failure => rfl
  | ok settings =>
    simp only [chosen]
    cases located : outDir.elim
        (Settings.resolveOutputDir world.host root settings.index.outputDir) .ok with
    | error failure => rfl
    | ok dir =>
      refine absurd ⟨?_, ?_⟩ (unconfigured dir settings)
      · cases given <;> simp_all
      · cases outDir <;> simp_all

end Index
end SymbolIndex
