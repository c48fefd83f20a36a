import Mathlib
import SymbolIndex.Ignore.Matcher
import SymbolIndex.Proofs.Host.Vacant
import SymbolIndex.Proofs.Index.Records

/-! An index that was just written is valid, and every record of it reads back as it was.

All of Mathlib is in scope for the sample host: `cbv` evaluates it by the equations of core functions,
such as `Char.toLower`, and takes those that Mathlib has rather than making its own. -/
namespace SymbolIndex
open Job

/-- Symbols of a text that fits into 63 bits have numbers that fit into 64. -/
theorem extract_fits {text : Text} {record : SymbolRecord} (small : text.length < Nat.pow 2 63)
    (member : record ∈ (extract text).positions) : record.Fits := by
  obtain ⟨run, k, s, stands⟩ := extract_standsOn member
  have inside := stands.whole.stop_le_length
  have nonempty := stands.whole.start_lt_stop
  have numbered := LineIndex.le_of_started stands.place.started
  have reached := stands.place.reached
  have doubled : Nat.pow 2 64 = 2 * Nat.pow 2 63 := rfl
  have line := stands.line
  have column := stands.column
  have length := stands.length
  have span : run.stop = run.start + run.text.length := rfl
  constructor <;> omega

namespace Index
variable {host : Host} {world last : World} {dir path : Path} {location : Location}
  {blocks : List Block} {artifact : Artifact} {bytes : List UInt8}

/-- Records of the current version whose numbers fit into 64 bits. -/
structure Block.Writable (block : Block) : Prop where
  snapshot : block.snapshot.version = schemaVersion
  symbols : ∀ record ∈ block.symbols, record.version = schemaVersion ∧ record.symbol.Fits

theorem blockOf_writable {text : Text} (small : text.length < Nat.pow 2 63) (path language : Text) :
    (blockOf path language (extract text)).Writable := by
  refine ⟨rfl, ?_⟩
  intro record member
  obtain ⟨symbol, listed, rfl⟩ := List.mem_map.mp member
  exact ⟨rfl, extract_fits small listed⟩

section Packages
variable [Json.Package] [Schema.Package]

/-- The directory holds a valid index of the blocks: validation finds no fault and counts every
record, and each file has one line a record that is read as that record. -/
structure Indexes (host : Host) (dir : Path) (blocks : List Block) : Prop where
  errors : (validate host dir).errors = []
  recordCounts : (validate host dir).recordCounts =
    .ofList [(Artifact.symbols.fileName, (blocks.flatMap (·.symbols)).length),
      (Artifact.snapshots.fileName, blocks.length)]
  symbols : ∃ bytes, host.readBytes (dir.child Artifact.symbols.fileName) = .ok bytes ∧
    Holds FileSymbol.ofValue Eq bytes (blocks.flatMap (·.symbols))
  snapshots : ∃ bytes, host.readBytes (dir.child Artifact.snapshots.fileName) = .ok bytes ∧
    Holds FileSnapshot.ofValue FileSnapshot.SameAs bytes (blocks.map (·.snapshot))

omit [Json.Package] [Schema.Package] in
theorem records_snapshots : Artifact.snapshots.records blocks =
    (blocks.map (·.snapshot)).map FileSnapshot.toValue := by
  rw [List.map_map]
  rfl

theorem validateFile_eq {count : Nat} (read : host.readBytes path = .ok bytes)
    (counted : tally artifact 1 false (byteLines bytes) = ⟨[], count⟩) :
    validateFile host path artifact = ⟨[], [], .ofList [(artifact.fileName, count)]⟩ := by
  rw [validateFile_of_readBytes read, counted]
  rfl

section Snapshots
variable (current : ∀ block ∈ blocks, block.snapshot.version = schemaVersion)
include current

omit [Json.Package] [Schema.Package] in
theorem snapshots_plain : ∀ record ∈ blocks.map (·.snapshot), record.toValue.Plain Json.maxDepth := by
  intro record member
  obtain ⟨block, listed, rfl⟩ := List.mem_map.mp member
  exact (FileSnapshot.toValue_plain (current block listed)).mono (by decide)

variable [Json.Lawful] [Schema.Lawful]
  (spelled : refusal? (Artifact.snapshots.records blocks) = none)
include spelled

theorem holds_snapshotBytes :
    Holds FileSnapshot.ofValue FileSnapshot.SameAs (snapshotBytes blocks) (blocks.map (·.snapshot)) := by
  rw [snapshotBytes, records_snapshots] at *
  exact holds_encodeLines spelled (snapshots_plain current) (fun _ => ⟨_, rfl⟩) fun record _ =>
    record.ofValue_canonical

theorem tally_snapshotBytes : tally .snapshots 1 false (byteLines (snapshotBytes blocks)) =
    ⟨[], blocks.length⟩ := by
  rw [snapshotBytes, records_snapshots] at *
  rw [tally_encodeLines spelled (snapshots_plain current) (fun _ => ⟨_, rfl⟩), List.length_map]
  intro record member
  obtain ⟨block, listed, rfl⟩ := List.mem_map.mp member
  obtain ⟨read, done, same⟩ := block.snapshot.ofValue_canonical
  rw [Artifact.readVersion, done, ← current block listed, ← same.version]
  rfl

end Snapshots

section Written
variable (writable : ∀ block ∈ blocks, block.Writable)
include writable

omit [Json.Package] [Schema.Package] in
theorem symbols_plain : ∀ record ∈ blocks.flatMap (·.symbols), record.toValue.Plain Json.maxDepth := by
  intro record member
  obtain ⟨block, listed, inside⟩ := List.mem_flatMap.mp member
  obtain ⟨version, fits⟩ := (writable block listed).symbols record inside
  exact (FileSymbol.toValue_plain version fits).mono (by decide)

variable [Json.Lawful] [Schema.Lawful]
  (spelled : ∀ artifact : Artifact, refusal? (artifact.records blocks) = none)
include spelled

theorem holds_symbolBytes :
    Holds FileSymbol.ofValue Eq (symbolBytes blocks) (blocks.flatMap (·.symbols)) :=
  holds_encodeLines (spelled .symbols) (symbols_plain writable) (fun _ => ⟨_, rfl⟩) fun record _ =>
    ⟨record, record.ofValue_canonical, rfl⟩

theorem tally_symbolBytes : tally .symbols 1 false (byteLines (symbolBytes blocks)) =
    ⟨[], (blocks.flatMap (·.symbols)).length⟩ := by
  apply tally_encodeLines (spelled .symbols) (symbols_plain writable) (fun _ => ⟨_, rfl⟩)
  intro record member
  obtain ⟨block, listed, inside⟩ := List.mem_flatMap.mp member
  rw [Artifact.readVersion, record.ofValue_canonical, ← ((writable block listed).symbols record inside).1]
  rfl

/-- A directory with the bytes of both files holds the index. -/
theorem indexes_of_bytes (there : host.At dir location)
    (symbols : host.readBytes (dir.child Artifact.symbols.fileName) = .ok (symbolBytes blocks))
    (snapshots : host.readBytes (dir.child Artifact.snapshots.fileName) = .ok (snapshotBytes blocks)) :
    Indexes host dir blocks := by
  have current : ∀ block ∈ blocks, block.snapshot.version = schemaVersion :=
    fun block listed => (writable block listed).snapshot
  have checked : validate host dir = ⟨[], [], .ofList
      [(Artifact.symbols.fileName, (blocks.flatMap (·.symbols)).length),
        (Artifact.snapshots.fileName, blocks.length)]⟩ := by
    rw [validate, if_pos (Host.isDirectory_iff.mpr ⟨location, there⟩), Artifact.all, List.map_cons,
      List.map_cons, List.map_nil, validateFile_eq symbols (tally_symbolBytes writable spelled),
      validateFile_eq snapshots (tally_snapshotBytes current (spelled .snapshots))]
    rfl
  refine ⟨by rw [checked], by rw [checked], ⟨_, symbols, holds_symbolBytes writable spelled⟩,
    ⟨_, snapshots, holds_snapshotBytes current (spelled .snapshots)⟩⟩

end Written

omit [Schema.Package] in
/-- Where no file or link is in the way, both files are written as they should be. -/
theorem writeBlocks_spec {summary : Summary} (there : world.host.At dir location)
    (clear : ∀ name entry, world.host.tree.entry? (location ++ [name]) = some entry →
      entry = .directory)
    (done : outcome (writeBlocks dir blocks) world = (.ok summary, last)) :
    (summary.fileCount = blocks.length ∧
      summary.symbolCount = (blocks.flatMap (·.symbols)).length) ∧
    (∀ artifact : Artifact, refusal? (artifact.records blocks) = none) ∧
    last.host.At dir location ∧
    last.host.readBytes (dir.child Artifact.symbols.fileName) = .ok (symbolBytes blocks) ∧
    last.host.readBytes (dir.child Artifact.snapshots.fileName) = .ok (snapshotBytes blocks) := by
  obtain ⟨⟨between, first, second⟩, rfl⟩ := writeBlocks_eq_ok.mp ⟨last.log, done⟩
  obtain ⟨larger₁, cwd₁, symbols, others⟩ :=
    there.writeBytes_spec (fileName_isName .symbols) (clear _) first.wrote
  have there₁ := there.extends larger₁ cwd₁
  have clear₁ (entry : Entry) (present : between.tree.entry? (location ++ [Artifact.snapshots.fileName]) =
      some entry) : entry = .directory := by
    rw [others _ (by simpa using fileName_ne)] at present
    exact clear _ entry present
  obtain ⟨larger₂, cwd₂, snapshots, _⟩ :=
    there₁.writeBytes_spec (fileName_isName .snapshots) clear₁ second.wrote
  have spelled (artifact : Artifact) : refusal? (artifact.records blocks) = none := by
    cases artifact
    · exact first.spelled
    · exact second.spelled
  exact ⟨⟨rfl, rfl⟩, spelled, there₁.extends larger₂ cwd₂,
    Host.readBytes_extends larger₂ cwd₂ symbols, snapshots⟩

/-- Indexing into an absent or empty directory leaves a valid index there. It reads back as the blocks
that were collected, and the run reports how many records that are. -/
theorem generate_indexes [Ignore.Package] [Json.Lawful] [Schema.Lawful] {root : Path}
    {outDir : Option Path} {settings : Option Settings} {summary : Summary} (sized : world.host.Sized)
    (generated : outcome (generate root outDir settings) world = (.ok summary, last)) :
    ∃ dir blocks middle,
      outcome (collect root outDir settings) world = (.ok (dir, blocks), middle) ∧
      (∀ given, outDir = some given → dir = given) ∧
      (world.host.Vacant dir →
        summary.fileCount = blocks.length ∧
        summary.symbolCount = (blocks.flatMap (·.symbols)).length ∧
        Indexes last.host dir blocks) := by
  obtain ⟨⟨dir, blocks⟩, middle, collected, written⟩ := bind_eq_ok.mp generated
  obtain ⟨chosen, _, gathered⟩ := collect_eq_ok collected
  refine ⟨dir, blocks, middle, collected, chosen, ?_⟩
  intro vacant
  obtain ⟨made, each⟩ := collectInto_spec gathered
  obtain ⟨adds, location, there⟩ := Host.makeDirectories_spec made
  have clear : ∀ name entry, middle.host.tree.entry? (location ++ [name]) = some entry →
      entry = .directory := by
    intro name entry present
    rcases adds.adds _ _ present with old | directory
    · rw [Host.entry?_of_below (vacant _ _ made there)] at old
      cases old
    · exact directory
  have writable : ∀ block ∈ blocks, block.Writable := by
    intro block member
    obtain ⟨names, registered, text, read, rfl⟩ := each block member
    exact blockOf_writable ((sized.adds adds).length_lt read) _ _
  obtain ⟨⟨files, symbols⟩, spelled, kept, symbolFile, snapshotFile⟩ :=
    writeBlocks_spec there clear written
  exact ⟨files, symbols, indexes_of_bytes writable spelled kept symbolFile snapshotFile⟩

end Packages

/-- A host with one source file, whose name has a newline in it. -/
def newlineHost : Host where
  tree := ⟨[(["a\nb.py".toList], .file [0x78, 0x20, 0x3D, 0x20, 0x31])]⟩
  cwd := ⟨['/'], []⟩
  home := ⟨['/'], []⟩
  temporary := ⟨['/'], []⟩

theorem newlineHost_rooted : newlineHost.tree.Rooted := by
  intro location name entry present
  rw [Tree.entry?_of_ne_nil (by simp)] at present
  cases location with
  | nil => rfl
  | cons first rest => simp [newlineHost] at present

theorem newlineHost_sized : newlineHost.Sized := by
  intro location bytes present
  have inside : location ≠ [] := by
    rintro rfl
    simp [Tree.entry?] at present
  rw [Tree.entry?_of_ne_nil inside, newlineHost, List.find?_singleton] at present
  split at present
  · obtain rfl := Entry.file.inj (Option.some.inj present)
    decide
  · cases present

open scoped Installed

/-- The same host once the index has a directory. -/
def newlineHostMade : Host :=
  { newlineHost with tree := newlineHost.tree.put ["out".toList] .directory }

theorem newlineHost_makes :
    newlineHost.makeDirectories ⟨['/'], ["out".toList]⟩ = (newlineHostMade, none) := by cbv

theorem newlineHost_finds : Sources.find newlineHostMade ⟨['/'], []⟩ (sourceFilter .default .standard
    ⟨['/'], ["out".toList]⟩ ⟨['/'], []⟩) = .ok [["a\nb.py".toList]] := by cbv

theorem newlineHost_reads : newlineHostMade.readText
    (Sources.pathBelow ⟨['/'], []⟩ ["a\nb.py".toList]) = .ok "x = 1".toList := by cbv

theorem newlineHost_collects : ∃ log,
    outcome (collect ⟨['/'], []⟩ (some ⟨['/'], ["out".toList]⟩) (some .default)) ⟨newlineHost, []⟩ =
      (.ok (⟨['/'], ["out".toList]⟩, [blockOf (Path.relativeText ["a\nb.py".toList])
        Settings.default.language (extract "x = 1".toList)]), ⟨newlineHostMade, log⟩) := by
  have made : outcome (makeDirectories ⟨['/'], ["out".toList]⟩) ⟨newlineHost, []⟩ =
      (.ok (), ⟨newlineHostMade, []⟩) := makeDirectories_eq_ok.mpr ⟨_, newlineHost_makes, rfl⟩
  have supported : Registry.standard.create Settings.default.language = .ok .python := rfl
  have found (log : List LogEntry) : outcome (look fun host => Sources.find host ⟨['/'], []⟩
      (sourceFilter .default .standard ⟨['/'], ["out".toList]⟩ ⟨['/'], []⟩)) ⟨newlineHostMade, log⟩ =
        (.ok [["a\nb.py".toList]], ⟨newlineHostMade, log⟩) := look_eq_ok.mpr ⟨newlineHost_finds, rfl⟩
  simp only [collect, collectInto, pure_bind, outcome_bind, made, standardRegistry, outcome_report,
    outcome_pure, ofRegistry, supported, found, blocksOf, readSource, outcome_host, newlineHost_reads,
    extractReported, Language.python_snapshot?]
  exact ⟨_, rfl⟩

/-- Nothing keeps the run from writing what it collects. -/
theorem newlineHost_generates : ∃ log summary last,
    outcome (collect ⟨['/'], []⟩ (some ⟨['/'], ["out".toList]⟩) (some .default)) ⟨newlineHost, []⟩ =
      (.ok (⟨['/'], ["out".toList]⟩, [blockOf (Path.relativeText ["a\nb.py".toList])
        Settings.default.language (extract "x = 1".toList)]), ⟨newlineHostMade, log⟩) ∧
    outcome (writeBlocks ⟨['/'], ["out".toList]⟩ [blockOf (Path.relativeText ["a\nb.py".toList])
      Settings.default.language (extract "x = 1".toList)]) ⟨newlineHostMade, log⟩ =
        (.ok summary, last) ∧
    outcome (generate ⟨['/'], []⟩ (some ⟨['/'], ["out".toList]⟩) (some .default)) ⟨newlineHost, []⟩ =
      (.ok summary, last) := by
  obtain ⟨log, collected⟩ := newlineHost_collects
  have there : newlineHostMade.At ⟨['/'], ["out".toList]⟩ ["out".toList] := ⟨by decide, by cbv⟩
  have usable (artifact : Artifact) :
      Host.isUsable (Path.child ⟨['/'], ["out".toList]⟩ artifact.fileName) = true := by
    cases artifact <;> decide
  have absent (artifact : Artifact) :
      newlineHostMade.tree.entry? (["out".toList] ++ [artifact.fileName]) = none := by
    cases artifact <;> decide
  obtain ⟨between, after, first, second⟩ :=
    (takes_iff there absent).mpr ⟨usable, Installed.takes_plain _ _⟩
  obtain ⟨log', written⟩ := writeBlocks_eq_ok.mpr ⟨⟨between, first, second⟩, rfl⟩
  exact ⟨log, _, _, collected, written, bind_eq_ok.mpr ⟨_, _, collected, written⟩⟩

theorem generate_indexes_newline : ∃ summary last blocks,
    (generate ⟨['/'], []⟩ (some ⟨['/'], ["out".toList]⟩) (some .default)).run newlineHost =
      (.ok summary, last) ∧
    summary.fileCount = 1 ∧ Indexes last.host ⟨['/'], ["out".toList]⟩ blocks := by
  obtain ⟨log, summary, last, collected, _, generated⟩ := newlineHost_generates
  obtain ⟨dir, blocks, middle, again, _, indexed⟩ := generate_indexes newlineHost_sized generated
  obtain ⟨same, _⟩ := Prod.mk.inj (collected.symm.trans again)
  obtain ⟨rfl, rfl⟩ := Prod.mk.inj (Except.ok.inj same)
  have missing : newlineHost.pathExists ⟨['/'], ["out".toList]⟩ = false := by cbv
  have vacant := Host.vacant_of_absent newlineHost_rooted (by decide) missing
  obtain ⟨files, _, indexes⟩ := indexed vacant
  exact ⟨summary, last, _, run_eq_outcome _ _ ▸ generated, files, indexes⟩

end Index
end SymbolIndex
