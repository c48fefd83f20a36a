import SymbolIndex.Proofs.Index.Output
import SymbolIndex.Proofs.Sources.Unwatched
import SymbolIndex.Proofs.Workspace.Atomic

/-! An index is put together file by file: one block for each source, extracted on its own, in the
order of the paths. So a change of one file changes its block and no other. -/
namespace SymbolIndex

namespace Workspace
variable {w : Workspace} {source : Nat} {old : Snapshot}

/-- The snapshots that one extractor has after each of several documents. -/
def snapshots (w : Workspace) (source : Nat) : List Text → List Snapshot
  | [] => []
  | text :: rest =>
    let next := (w.extract source text).1
    (next.origin? source).elim .empty Origin.snapshot :: next.snapshots source rest

theorem origin?_extract (known : w.origin? source = some (.extractor .python old)) (text : Text) :
    (w.extract source text).1.origin? source =
      some (.extractor .python (SymbolIndex.extract text)) := by
  obtain ⟨_, _, published⟩ :=
    exists_published (hosted_call.keepsSource source) known (SymbolIndex.extract text)
  rw [extract_eq known (Language.python_snapshot? text)]
  exact published.installed

/-- An extractor that is used again keeps nothing of the documents before. -/
theorem snapshots_eq (known : w.origin? source = some (.extractor .python old)) (texts : List Text) :
    w.snapshots source texts = texts.map SymbolIndex.extract := by
  induction texts generalizing w old with
  | nil => rfl
  | cons text rest ih =>
    have next := origin?_extract known text
    rw [snapshots, List.map_cons, ih next, next]
    rfl

end Workspace

namespace Index
open Job SymbolIndex.Tree
variable {host host' made made' after : Host} {last last' : World} {root dir dir' : Path}
  {outDir : Option Path} {given : Option Settings} {settings settings' : Settings}
  {summary : Summary} {names : List Text} {files files' : List (List Text)} {blocks : List Block}
  {registered text : Text} {top place : Location} {bytes : List UInt8} {log log' : List LogEntry}

section Gathers
/-- The blocks of sources, each of which is extracted alone. -/
def sourceBlocks (registered : Text) (sources : List (List Text × Text)) : List Block :=
  sources.map fun source => blockOf (Path.relativeText source.1) registered (extract source.2)

/-- A file with its text, if it can be read. -/
def readText? (made : Host) (root : Path) (names : List Text) : Option (List Text × Text) :=
  match made.readText (Sources.pathBelow root names) with
  | .ok text => some (names, text)
  | .error _ => none

theorem readText?_eq_some {source : List Text × Text} : readText? made root names = some source ↔
    source.1 = names ∧ made.readText (Sources.pathBelow root names) = .ok source.2 := by
  obtain ⟨names', text⟩ := source
  rw [readText?]
  cases made.readText (Sources.pathBelow root names) <;> simp [eq_comm]

theorem sourceBlocks_readText? (registered : Text) (files : List (List Text)) :
    sourceBlocks registered (files.filterMap (readText? made root)) =
      files.filterMap (readBlock? made root registered) := by
  rw [sourceBlocks, List.map_filterMap]
  refine List.filterMap_congr fun names _ => ?_
  rw [readText?, readBlock?]
  cases made.readText (Sources.pathBelow root names) <;> rfl

theorem foreign_sourceFilter (settings : Settings) (dir root : Path) :
    (sourceFilter settings .standard dir root).Foreign := foreign_extensions settings.language

variable [Schema.Package] [Ignore.Package]

/-- A run takes a regular file below the root, going by ignore files and the settings. -/
def Accepts (made : Host) (root dir : Path) (settings : Settings) (names : List Text) : Prop :=
  ∃ bytes ignored, (names, .file bytes) ∈ made.descendants root ∧
    Sources.ignoreTest made root settings.index.nestedIgnore = .ok ignored ∧
    (sourceFilter settings .standard dir root).takes made root ignored names (.file bytes) = .ok true

/-- The sources of a run: the files that it takes and that can be read as text, each with its text, in
the strict order of their relative paths. -/
structure Gathers (host : Host) (root : Path) (outDir : Option Path) (given : Option Settings)
    (dir : Path) (settings : Settings) (made : Host) (sources : List (List Text × Text)) : Prop where
  configured : Configures host root outDir given dir settings
  created : host.makeDirectories dir = (made, none)
  mem_iff : ∀ names text, (names, text) ∈ sources ↔ Accepts made root dir settings names ∧
    made.readText (Sources.pathBelow root names) = .ok text
  ordered : (sources.map fun source => Path.relativeText source.1).Pairwise Text.CodeLt

theorem Surveys.mem_iff (surveys : Surveys host root outDir given dir settings made files) :
    names ∈ files ↔ Accepts made root dir settings names := by
  obtain ⟨ignored, _, tested, _⟩ := Sources.find_eq_ok.mp surveys.found
  rw [Sources.mem_find_iff surveys.found tested]
  constructor
  · rintro ⟨entry, listed, taken⟩
    cases entry with
    | file bytes => exact ⟨bytes, ignored, listed, tested, taken⟩
    | _ => cases taken
  · rintro ⟨bytes, ignored', listed, tested', taken⟩
    obtain rfl := Except.ok.inj (tested.symm.trans tested')
    exact ⟨_, listed, taken⟩

theorem Surveys.lists (surveys : Surveys host root outDir given dir settings made files)
    (sound : host.tree.Sound) (there : made.At root top) : made.Lists root top :=
  Host.lists_of_makeDirectories sound surveys.created there

/-- Files are found in strict order, if there are any. -/
theorem Surveys.strict (surveys : Surveys host root outDir given dir settings made files)
    (sound : host.tree.Sound) : files.Pairwise Sources.Precedes := by
  rcases List.eq_nil_or_concat files with rfl | ⟨_, names, ending⟩
  · exact .nil
  · have member : names ∈ files := by simp [ending]
    obtain ⟨top, there⟩ := Sources.at_of_mem_find surveys.found member
    exact (surveys.lists sound there).find_strict (foreign_sourceFilter settings dir root) surveys.found

/-- A run gathers the files that it finds and can read. -/
theorem Surveys.gathers (surveys : Surveys host root outDir given dir settings made files)
    (sound : host.tree.Sound) : Gathers host root outDir given dir settings made
      (files.filterMap (readText? made root)) := by
  refine ⟨surveys.configured, surveys.created, fun names text => ?_, ?_⟩
  · rw [List.mem_filterMap, ← surveys.mem_iff]
    constructor
    · rintro ⟨other, member, found⟩
      obtain ⟨rfl, read⟩ := readText?_eq_some.mp found
      exact ⟨member, read⟩
    · rintro ⟨member, read⟩
      exact ⟨names, member, readText?_eq_some.mpr ⟨rfl, read⟩⟩
  · refine List.pairwise_map.mpr ((surveys.strict sound).filterMap _ ?_)
    intro one two before source found source' found'
    rw [(readText?_eq_some.mp found).1, (readText?_eq_some.mp found').1]
    exact before

end Gathers

section Reports
variable [Json.Package]

/-- What a run left in its directory, and what it says of it. Every record has a written form. -/
structure Reports (after : Host) (dir : Path) (blocks : List Block) (summary : Summary) : Prop where
  artifacts : summary.artifacts =
    [dir.child Artifact.symbols.fileName, dir.child Artifact.snapshots.fileName]
  spelled : ∀ artifact : Artifact, refusal? (artifact.records blocks) = none
  snapshots : after.readBytes (dir.child Artifact.snapshots.fileName) = .ok (snapshotBytes blocks)
  symbols : after.place? (dir.child Artifact.symbols.fileName) ≠
      after.place? (dir.child Artifact.snapshots.fileName) →
    after.readBytes (dir.child Artifact.symbols.fileName) = .ok (symbolBytes blocks)
  fileCount : summary.fileCount = blocks.length
  symbolCount : summary.symbolCount = (blocks.flatMap (·.symbols)).length

theorem reports_of_writeBlocks (rooted : made.tree.Rooted)
    (written : outcome (writeBlocks dir blocks) ⟨made, log⟩ = (.ok summary, last)) :
    Reports last.host dir blocks summary := by
  obtain ⟨_, rfl⟩ := writeBlocks_eq_ok.mp ⟨last.log, written⟩
  obtain ⟨_, spelled, between, first, second, writes₁, writes₂⟩ := writeBlocks_writes rooted written
  have rooted₁ := writes₁.tree.rooted rooted
  refine ⟨rfl, spelled, writes₂.readBytes, fun apart => ?_, rfl, rfl⟩
  have symbolsLed := writes₂.place? rooted₁ (Host.place?_of_lookup writes₁.reached)
  refine writes₂.readBytes_kept rooted₁ writes₁.usable writes₁.reached ?_
  rintro rfl
  exact apart (symbolsLed.trans (Host.place?_of_lookup writes₂.reached).symm)

end Reports

section Changed

/-- Blocks of the same project that differ in those of one place at most: there is no other if the
place is not below the root. -/
structure ApartFrom (after : Host) (root : Path) (place : Location) (blocks blocks' : List Block) :
    Prop where
  outside : (∀ top names, after.At root top → top ++ names ≠ place) → blocks' = blocks
  inside : ∀ top names, after.At root top → top ++ names = place →
    blocks'.filter (·.snapshot.path ≠ Path.relativeText names) =
      blocks.filter (·.snapshot.path ≠ Path.relativeText names)

/-- Blocks of other paths are those of other files. -/
theorem filter_path_ne (named : ∀ other ∈ files, ∀ name ∈ other, Path.IsPart name)
    (parts : ∀ name ∈ names, Path.IsPart name) :
    (files.filterMap (readBlock? made root registered)).filter
        (·.snapshot.path ≠ Path.relativeText names) =
      (files.filter (· ≠ names)).filterMap (readBlock? made root registered) := by
  rw [List.filter_filterMap, List.filterMap_filter]
  refine List.filterMap_congr fun other member => ?_
  cases block : readBlock? made root registered other with
  | none => simp
  | some block' =>
    obtain ⟨text, _, rfl⟩ := readBlock?_eq_some block
    have same : Path.relativeText other = Path.relativeText names ↔ other = names :=
      ⟨Sources.relativeText_injective (named other member) parts, congrArg _⟩
    simp [Option.filter, blockOf, same]

variable [Schema.Package] [Ignore.Package] (sound : host.tree.Sound) (sound' : host'.tree.Sound)
  (rewrites : host.Rewrites host' place bytes)
  (one : Surveys host root outDir given dir settings made files)
include sound sound' rewrites one

/-- Settings and directory are those of the other host, and the directory is made alike. -/
theorem Surveys.rewritten (unwatched : ¬host'.Watches root place)
    (two : Surveys host' root outDir given dir' settings' made' files') :
    settings' = settings ∧ dir' = dir ∧ made.Rewrites made' place bytes := by
  have loaded : settings' = settings := by
    have same := rewrites.load sound.rooted unwatched
    have first := one.configured.loaded
    have second := two.configured.loaded
    cases given <;> simp_all
  subst loaded
  have located : dir' = dir := by
    rcases one.configured.located with chosen | ⟨none, resolved⟩ <;>
      rcases two.configured.located with chosen' | ⟨none', resolved'⟩
    · exact Option.some.inj (chosen'.symm.trans chosen)
    · cases none'.symm.trans chosen
    · cases none.symm.trans chosen'
    · obtain ⟨base, start, target, _⟩ := Settings.resolveOutputDir_eq_ok resolved
      obtain ⟨base', start', target', _⟩ := Settings.resolveOutputDir_eq_ok resolved'
      have unique {path found found' : Path} (done : host.resolve path = .ok found)
          (done' : host'.resolve path = .ok found') : found' = found :=
        Host.resolve_unique rewrites.tree.sameLinks sound.tidy sound'.tidy rewrites.cwd done done'
      obtain rfl := unique start start'
      exact unique target target'
  subst located
  exact ⟨rfl, rfl, rewrites.makeDirectories sound.rooted one.created two.created⟩

variable (both : made.Rewrites made' place bytes) (unwatched : ¬made'.Watches root place)
  (two : Surveys host' root outDir given dir settings made' files')
include both unwatched two

omit rewrites in
/-- The blocks of files elsewhere are the same. -/
theorem Surveys.filter_apart (there : made.At root top) (keep : List Text → Bool)
    (apart : ∀ names, keep names = true → top ++ names ≠ place) (registered : Text) :
    (files'.filter keep).filterMap (readBlock? made' root registered) =
      (files.filter keep).filterMap (readBlock? made root registered) := by
  have lists := one.lists sound there
  have lists' := two.lists sound' ((both.at_iff lists.rooted).mpr there)
  have foreign := foreign_sourceFilter settings dir root
  have same : files'.filter keep = files.filter keep := by
    refine ((two.strict sound').filter keep).eq_of_mem_iff ((one.strict sound).filter keep)
      fun names => ?_
    rw [List.mem_filter, List.mem_filter]
    exact and_congr_left fun kept => both.mem_find lists.rooted unwatched lists lists' foreign one.found
      two.found (apart names kept)
  rw [same]
  refine List.filterMap_congr fun names member => ?_
  obtain ⟨listed, kept⟩ := List.mem_filter.mp member
  rw [readBlock?, readBlock?, both.readText_apart lists foreign one.found listed (apart names kept)]

/-- A change of one file changes its block and no other. -/
theorem Surveys.apartFrom (placed : ∀ top, after.At root top ↔ made.At root top) (registered : Text) :
    ApartFrom after root place (files.filterMap (readBlock? made root registered))
      (files'.filterMap (readBlock? made' root registered)) := by
  constructor
  · intro outside
    by_cases rooted : ∃ top, made.At root top
    · obtain ⟨top, there⟩ := rooted
      have same := one.filter_apart sound sound' both unwatched two there (fun _ => true)
        (fun names _ => outside top names ((placed top).mpr there)) registered
      rwa [List.filter_true, List.filter_true] at same
    · have none : files = [] := List.eq_nil_iff_forall_not_mem.mpr fun names member =>
        rooted (Sources.at_of_mem_find one.found member)
      have none' : files' = [] := List.eq_nil_iff_forall_not_mem.mpr fun names member => by
        obtain ⟨top, there⟩ := Sources.at_of_mem_find two.found member
        have grown := Host.makeDirectories_grown sound.rooted one.created
        exact rooted ⟨top, (both.at_iff grown.1).mp there⟩
      rw [none, none']
      rfl
  · rintro top names there rfl
    rw [placed] at there
    have lists := one.lists sound there
    have lists' := two.lists sound' ((both.at_iff lists.rooted).mpr there)
    have foreign := foreign_sourceFilter settings dir root
    have parts : ∀ name ∈ names, Path.IsPart name := fun name member =>
      (sound'.isEntryName rewrites.entry?_place name (List.mem_append_right top member)).toIsPart
    rw [filter_path_ne (fun other member name inside =>
        ((lists'.named_of_mem_find foreign two.found member).2 name inside).toIsPart) parts,
      filter_path_ne (fun other member name inside =>
        ((lists.named_of_mem_find foreign one.found member).2 name inside).toIsPart) parts]
    refine one.filter_apart sound sound' both unwatched two there _ (fun other kept same => ?_)
      registered
    exact of_decide_eq_true kept (List.append_cancel_left same)

end Changed

end Index
end SymbolIndex
