import Mathlib.Data.List.Nodup
import SymbolIndex.Proofs.Index.Rerun
import SymbolIndex.Proofs.Sources.Listed

/-! What a run of the index covers, and what it leaves in its two files, whatever was there before:
each file covered has one snapshot there, and its symbols stand together in order. -/
namespace SymbolIndex

/-- A table without some of its fields. -/
def Value.without (keys : List Text) : Value → Value
  | .table entries => .table (entries.filter (·.1 ∉ keys))
  | value => value

namespace Host
variable {host : Host} {path : Path} {place : Location} {bytes : List UInt8} {text : Text}
open SymbolIndex.Tree

/-- A path resolves to the place that it leads to. -/
theorem resolve_place (rooted : host.tree.Rooted) (usable : isUsable path = true)
    (led : host.place? path = some place) : host.resolve path = .ok ⟨['/'], place⟩ := by
  obtain ⟨entry, reached⟩ := lookup_of_place? led
  exact resolve_of_lookup rooted (.refl _) rfl usable reached

/-- A file is read at its place. -/
theorem readBytes_place (rooted : host.tree.Rooted) (named : ∀ name ∈ place, IsEntryName name)
    (present : host.tree.entry? place = some (.file bytes)) :
    host.readBytes ⟨['/'], place⟩ = .ok bytes := by
  have usable : isUsable ⟨['/'], place⟩ = true :=
    isUsable_iff.mpr ⟨by simp, fun name member => (named name member).noNull⟩
  have reached := lookup_location rooted (fun name member => (named name member).isName) present
    (by simp)
  rw [readBytes, if_pos usable, reached]

end Host

namespace Index
open Job SymbolIndex.Tree
variable {host made after : Host} {world last : World} {root dir : Path} {outDir : Option Path}
  {given : Option Settings} {settings : Settings} {summary : Summary} {names : List Text}
  {files : List (List Text)} {blocks : List Block} {path registered text : Text} {top : Location}
  {log : List LogEntry}

section Survey
variable [Schema.Package] [Ignore.Package]

/-- What a run goes by: its directory and settings, the host once the directory is there, and the
source files that are found then. -/
structure Surveys (host : Host) (root : Path) (outDir : Option Path) (given : Option Settings)
    (dir : Path) (settings : Settings) (made : Host) (files : List (List Text)) : Prop where
  configured : Configures host root outDir given dir settings
  created : host.makeDirectories dir = (made, none)
  found : Sources.find made root (sourceFilter settings .standard dir root) = .ok files

omit [Ignore.Package] in
theorem Configures.unique {dir' : Path} {settings' : Settings}
    (one : Configures host root outDir given dir settings)
    (two : Configures host root outDir given dir' settings') : dir = dir' ∧ settings = settings' := by
  have same : settings = settings' := by
    have first := one.loaded
    have second := two.loaded
    cases given <;> simp_all
  subst same
  have same : dir = dir' := by
    have first := one.located
    have second := two.located
    cases outDir <;> simp_all
  exact ⟨same, rfl⟩

theorem Surveys.unique {dir' : Path} {settings' : Settings} {made' : Host} {files' : List (List Text)}
    (one : Surveys host root outDir given dir settings made files)
    (two : Surveys host root outDir given dir' settings' made' files') :
    dir = dir' ∧ settings = settings' ∧ made = made' ∧ files = files' := by
  obtain ⟨rfl, rfl⟩ := one.configured.unique two.configured
  obtain ⟨rfl, _⟩ := Prod.mk.inj (one.created.symm.trans two.created)
  exact ⟨rfl, rfl, rfl, Except.ok.inj (one.found.symm.trans two.found)⟩

/-- A run covers the source files that it finds and can read. -/
def Covers (host : Host) (root : Path) (outDir : Option Path) (given : Option Settings)
    (names : List Text) : Prop :=
  ∃ dir settings made files text, Surveys host root outDir given dir settings made files ∧
    names ∈ files ∧ made.readText (Sources.pathBelow root names) = .ok text

variable [Json.Package]

/-- A run writes the blocks of the files that it finds and can read. -/
theorem generate_spec (generated : outcome (generate root outDir given) world = (.ok summary, last)) :
    ∃ dir settings made files log, Surveys world.host root outDir given dir settings made files ∧
      Registry.standard.create settings.language = .ok .python ∧
      outcome (writeBlocks dir (files.filterMap (readBlock? made root settings.language)))
        ⟨made, log⟩ = (.ok summary, last) := by
  obtain ⟨⟨dir, blocks⟩, middle, collected, written⟩ := bind_eq_ok.mp generated
  obtain ⟨settings, configured, gathered⟩ := collect_spec collected
  obtain ⟨created, supported, files, found, rfl⟩ := collectInto_eq_ok.mp ⟨middle.log, gathered⟩
  exact ⟨dir, settings, middle.host, files, middle.log, ⟨configured, created, found⟩, supported, written⟩

/-- A run into a directory that is empty once it is made, and takes what it finds, stores that there. -/
theorem Surveys.generate {location : Location}
    (surveys : Surveys host root outDir given dir settings made files)
    (supported : Registry.standard.create settings.language = .ok .python) (rooted : made.tree.Rooted)
    (there : made.At dir location) (empty : made.tree.below location = [])
    (takes : Takes made.platform location (files.filterMap (readBlock? made root settings.language)))
    (log : List LogEntry) :
    ∃ summary last, outcome (generate root outDir given) ⟨host, log⟩ = (.ok summary, last) ∧
      Stores last.host dir location
        (symbolBytes (files.filterMap (readBlock? made root settings.language)))
        (snapshotBytes (files.filterMap (readBlock? made root settings.language))) ∧
      made.tree.Extends last.host.tree ∧ last.host.cwd = made.cwd ∧
      last.host.platform = made.platform := by
  obtain ⟨log₁, collected⟩ : ∃ log₁, outcome (collectInto root dir settings) ⟨host, log⟩ =
      (.ok (files.filterMap (readBlock? made root settings.language)), ⟨made, log₁⟩) :=
    collectInto_eq_ok.mpr ⟨surveys.created, supported, files, surveys.found, rfl⟩
  obtain ⟨summary, last, written, stores, gains⟩ :=
    writeBlocks_stores there rooted empty takes log₁
  have run : outcome (Index.generate root outDir given) ⟨host, log⟩ =
      outcome (collectInto root dir settings >>= writeBlocks dir) ⟨host, log⟩ :=
    outcome_configured surveys.configured
  exact ⟨summary, last, run.trans (bind_eq_ok.mpr ⟨_, _, collected, written⟩), stores,
    gains.grows.tree.extends, gains.grows.cwd, gains.grows.platform⟩

end Survey

section Files
variable [Json.Package]

/-- The two files are written one after the other, each with all its records. -/
theorem writeBlocks_writes (rooted : made.tree.Rooted)
    (done : outcome (writeBlocks dir blocks) ⟨made, log⟩ = (.ok summary, last)) :
    summary.artifacts = [dir.child Artifact.symbols.fileName, dir.child Artifact.snapshots.fileName] ∧
    (∀ artifact : Artifact, refusal? (artifact.records blocks) = none) ∧
    ∃ between first second,
      made.Writes between (dir.child Artifact.symbols.fileName) first (symbolBytes blocks) ∧
      between.Writes last.host (dir.child Artifact.snapshots.fileName) second (snapshotBytes blocks) := by
  obtain ⟨⟨between, wrote₁, wrote₂⟩, rfl⟩ := writeBlocks_eq_ok.mp ⟨last.log, done⟩
  obtain ⟨first, writes₁⟩ := Host.writes_of_writeBytes rooted wrote₁.wrote
  obtain ⟨second, writes₂⟩ := Host.writes_of_writeBytes (writes₁.tree.rooted rooted) wrote₂.wrote
  refine ⟨rfl, ?_, between, first, second, writes₁, writes₂⟩
  rintro (_ | _)
  · exact wrote₁.spelled
  · exact wrote₂.spelled

end Files

section Lines

/-- The path that a line of an index is about. -/
def pathOf? (line : Value) : Option Text :=
  match line.get? "path".toList with
  | some (.text path) => some path
  | _ => none

/-- The lines of an index about one file. -/
def linesOf (path : Text) (lines : List Value) : List Value := lines.filter (pathOf? · = some path)

theorem pathOf?_symbol (record : FileSymbol) : pathOf? record.toValue = some record.path := rfl

theorem pathOf?_snapshot (record : FileSnapshot) : pathOf? record.toValue = some record.path := rfl

/-- A symbol of a file is a symbol with two more fields. -/
theorem FileSymbol.without_toValue (record : FileSymbol) :
    record.toValue.without ["path".toList, "schema_version".toList] = record.symbol.toValue := rfl

theorem linesOf_snapshots (path : Text) (blocks : List Block) :
    linesOf path (blocks.map (·.snapshot.toValue)) =
      (blocks.filter (·.snapshot.path = path)).map (·.snapshot.toValue) := by
  rw [linesOf, List.filter_map]
  congr 1
  refine List.filter_congr fun block _ => ?_
  simp [pathOf?_snapshot]

/-- The lines about a file are those of its block. -/
theorem linesOf_symbols (path : Text)
    (own : ∀ block ∈ blocks, ∀ record ∈ block.symbols, record.path = block.snapshot.path) :
    linesOf path ((blocks.flatMap (·.symbols)).map FileSymbol.toValue) =
      ((blocks.filter (·.snapshot.path = path)).flatMap (·.symbols)).map FileSymbol.toValue := by
  rw [linesOf, List.filter_map]
  congr 1
  induction blocks with
  | nil => rfl
  | cons block more ih =>
    have here := own block List.mem_cons_self
    have later := ih fun other listed => own other (List.mem_cons_of_mem block listed)
    rw [List.flatMap_cons, List.filter_append, later]
    by_cases same : block.snapshot.path = path
    · have all : block.symbols.filter ((pathOf? · = some path) ∘ FileSymbol.toValue) = block.symbols :=
        List.filter_eq_self.mpr fun record listed => by simp [pathOf?_symbol, here record listed, same]
      simp [same, all]
    · have none : block.symbols.filter ((pathOf? · = some path) ∘ FileSymbol.toValue) = [] :=
        List.filter_eq_nil_iff.mpr fun record listed => by simp [pathOf?_symbol, here record listed, same]
      simp [same, none]

/-- Files that are written differently have blocks of different paths. -/
theorem filter_readBlock? (made : Host) (root : Path) (registered : Text) {others : List (List Text)}
    (apart : ∀ other ∈ others, Path.relativeText other ≠ path) :
    (others.filterMap (readBlock? made root registered)).filter (·.snapshot.path = path) = [] := by
  refine List.filter_eq_nil_iff.mpr fun block member => ?_
  obtain ⟨other, listed, done⟩ := List.mem_filterMap.mp member
  obtain ⟨_, _, rfl⟩ := readBlock?_eq_some done
  simp [blockOf, apart other listed]

/-- One block has the path of a file. -/
theorem filter_blocks (distinct : files.Nodup)
    (named : ∀ names ∈ files, ∀ name ∈ names, Path.IsPart name) (member : names ∈ files)
    (read : made.readText (Sources.pathBelow root names) = .ok text) :
    (files.filterMap (readBlock? made root registered)).filter
        (·.snapshot.path = Path.relativeText names) =
      [blockOf (Path.relativeText names) registered (extract text)] := by
  have block : readBlock? made root registered names =
      some (blockOf (Path.relativeText names) registered (extract text)) := by
    rw [readBlock?, read]
  have apart (other : List Text) (listed : other ∈ files) (different : other ≠ names) :
      Path.relativeText other ≠ Path.relativeText names := fun same =>
    different (Sources.relativeText_injective (named other listed) (named names member) same)
  obtain ⟨front, back, rfl⟩ := List.append_of_mem member
  obtain ⟨missing, _⟩ := List.nodup_cons.mp (List.nodup_middle.mp distinct)
  rw [List.mem_append, not_or] at missing
  have before := filter_readBlock? made root registered fun other listed =>
    apart other (List.mem_append_left _ listed) fun same => missing.1 (same ▸ listed)
  have after := filter_readBlock? made root registered fun other listed =>
    apart other (List.mem_append_right front (List.mem_cons_of_mem names listed)) fun same =>
      missing.2 (same ▸ listed)
  rw [List.filterMap_append, List.filterMap_cons_some block, List.filter_append, before,
    List.filter_cons, after]
  simp [blockOf]

end Lines

section Left
variable [Json.Package]

/-- What a run leaves of a file at a place that it covers: one block with its path, the two files of
the index, and the file itself unless it is one of them. -/
structure Leaves (host after : Host) (root : Path) (names : List Text) (place : Location)
    (text : Text) (dir : Path) (blocks : List Block) : Prop where
  file : ∃ bytes raw, host.tree.entry? place = some (.file bytes) ∧
    ((∀ artifact : Artifact, after.place? (dir.child artifact.fileName) ≠ some place) →
      after.tree.entry? place = some (.file bytes)) ∧
    Utf8.decode bytes = .ok raw ∧ Text.normaliseNewlines raw = text
  named : ∀ name ∈ place, IsEntryName name
  rooted : after.tree.Rooted
  led : after.place? (Sources.pathBelow root names) = some place
  block : ∃ registered, blocks.filter (·.snapshot.path = Path.relativeText names) =
    [blockOf (Path.relativeText names) registered (extract text)]
  own : ∀ block ∈ blocks, ∀ record ∈ block.symbols, record.path = block.snapshot.path
  spelled : ∀ artifact : Artifact, refusal? (artifact.records blocks) = none
  symbols : after.place? (dir.child Artifact.symbols.fileName) ≠
      after.place? (dir.child Artifact.snapshots.fileName) →
    after.readBytes (dir.child Artifact.symbols.fileName) = .ok (symbolBytes blocks)
  snapshots : after.readBytes (dir.child Artifact.snapshots.fileName) = .ok (snapshotBytes blocks)

omit [Json.Package] in
theorem own_path {block : Block} (member : block ∈ files.filterMap (readBlock? made root registered)) :
    ∀ record ∈ block.symbols, record.path = block.snapshot.path := by
  obtain ⟨names, _, done⟩ := List.mem_filterMap.mp member
  obtain ⟨text, _, rfl⟩ := readBlock?_eq_some done
  intro record listed
  obtain ⟨symbol, _, rfl⟩ := List.mem_map.mp listed
  rfl

variable [Schema.Package] [Ignore.Package]

omit [Json.Package] in
/-- A file that a run finds and reads stood there before the run. -/
theorem Surveys.source (sound : host.tree.Sound)
    (surveys : Surveys host root outDir given dir settings made files) (member : names ∈ files)
    (read : made.readText (Sources.pathBelow root names) = .ok text) : ∃ place bytes raw,
      host.tree.entry? place = some (.file bytes) ∧ made.tree.entry? place = some (.file bytes) ∧
      made.lookup true (Sources.pathBelow root names) = .ok (.present place (.file bytes)) ∧
      Utf8.decode bytes = .ok raw ∧ Text.normaliseNewlines raw = text := by
  obtain ⟨rooted, added, grows, directories⟩ :=
    Host.makeDirectories_grown sound.rooted surveys.created
  obtain ⟨top, there⟩ := Sources.at_of_mem_find surveys.found member
  obtain ⟨bytes, has⟩ := Sources.has_of_find sound grows directories surveys.found there member
  have present : made.tree.entry? (top ++ names) = some (.file bytes) :=
    grows.tree.extends _ _ has.present
  have isName : ∀ name ∈ names, IsName name := fun name inside => (has.named name inside).isName
  have reached := there.lookup_below rooted has.inside isName present (by simp)
  obtain ⟨bytes', raw, same, decoded, normal⟩ := Host.readText_eq_ok.mp read
  rw [Host.readBytes, if_pos (there.usable_append has.named), reached] at same
  obtain rfl := Except.ok.inj same
  exact ⟨_, _, raw, has.present, present, reached, decoded, normal⟩

omit [Json.Package] in
/-- A run finds a file once, under names that a path can have. -/
theorem Surveys.distinct (sound : host.tree.Sound)
    (surveys : Surveys host root outDir given dir settings made files) (member : names ∈ files) :
    files.Nodup ∧ ∀ others ∈ files, ∀ name ∈ others, Path.IsPart name := by
  obtain ⟨_, added, grows, directories⟩ := Host.makeDirectories_grown sound.rooted surveys.created
  obtain ⟨top, there⟩ := Sources.at_of_mem_find surveys.found member
  refine ⟨Sources.nodup_find sound grows directories surveys.found there, ?_⟩
  intro others listed name inside
  obtain ⟨_, has⟩ := Sources.has_of_find sound grows directories surveys.found there listed
  exact (has.named name inside).toIsPart

/-- A run leaves this of every file that it covers. -/
theorem generate_leaves (sound : host.tree.Sound)
    (generated : outcome (generate root outDir given) ⟨host, log⟩ = (.ok summary, last))
    (covered : Covers host root outDir given names) : ∃ dir blocks place text,
      summary.artifacts = [dir.child Artifact.symbols.fileName, dir.child Artifact.snapshots.fileName] ∧
      Leaves host last.host root names place text dir blocks := by
  obtain ⟨dir, settings, made, files, _, surveys, _, written⟩ := generate_spec generated
  obtain ⟨_, _, _, _, text, again, member, read⟩ := covered
  obtain ⟨rfl, rfl, rfl, rfl⟩ := surveys.unique again
  obtain ⟨rooted, _⟩ := Host.makeDirectories_grown sound.rooted surveys.created
  obtain ⟨place, bytes, raw, before, present, reached, decoded, normal⟩ :=
    surveys.source sound member read
  obtain ⟨once, parts⟩ := surveys.distinct sound member
  obtain ⟨artifacts, spelled, between, first, second, writes₁, writes₂⟩ :=
    writeBlocks_writes rooted written
  have rooted₁ := writes₁.tree.rooted rooted
  have symbolsLed : last.host.place? (dir.child Artifact.symbols.fileName) = some first :=
    writes₂.place? rooted₁ (Host.place?_of_lookup writes₁.reached)
  have snapshotsLed : last.host.place? (dir.child Artifact.snapshots.fileName) = some second :=
    Host.place?_of_lookup writes₂.reached
  have kept (clear : ∀ artifact : Artifact,
      last.host.place? (dir.child artifact.fileName) ≠ some place) :
      last.host.tree.entry? place = some (.file bytes) := by
    have other₁ : place ≠ first := fun same => clear .symbols (same ▸ symbolsLed)
    have other₂ : place ≠ second := fun same => clear .snapshots (same ▸ snapshotsLed)
    rw [writes₂.tree.entry?, if_neg other₂, writes₁.tree.entry?, if_neg other₁, present]
  refine ⟨dir, files.filterMap (readBlock? made root settings.language), place, text, artifacts, ?_⟩
  exact {
    file := ⟨bytes, raw, before, kept, decoded, normal⟩
    named := sound.isEntryName before
    rooted := writes₂.tree.rooted rooted₁
    led := writes₂.place? rooted₁ (writes₁.place? rooted (Host.place?_of_lookup reached))
    block := ⟨_, filter_blocks once parts member read⟩
    own := fun _ => own_path
    spelled
    symbols := by
      intro apart
      have different : first ≠ second := by
        rintro rfl
        exact apart (symbolsLed.trans snapshotsLed.symm)
      exact writes₂.readBytes_kept rooted₁ writes₁.usable writes₁.reached different
    snapshots := writes₂.readBytes }

end Left

end Index
end SymbolIndex
