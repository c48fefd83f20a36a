import SymbolIndex.Command.Run
import SymbolIndex.Proofs.Command.Arguments
import SymbolIndex.Proofs.Index.Output

/-! What is printed of a file that an index covers is what the index has about it. -/
namespace SymbolIndex.Command
open Job SymbolIndex.Tree
variable {host asked : Host} {world last : World} {root path : Path} {outDir : Option Path}
  {given : Option Settings} {summary : Index.Summary} {names : List Text} {configured file : Text}
  {finish : Finish} {language : Language} {extracted : Extracted}

section Extraction

/-- Whatever the suffix and the settings are, there is one language. -/
theorem languageFor_standard
    (done : outcome (languageFor .standard configured path) world = (.ok language, last)) :
    language = .python := by
  have created {name : Text} {world : World}
      (done : outcome (Index.ofRegistry (Registry.standard.create name)) world = (.ok language, last)) :
      language = .python := Registry.create_standard (Index.ofRegistry_eq_ok done).1
  unfold languageFor at done
  split at done
  · exact created done
  · split at done
    · exact created done
    · obtain ⟨_, _, _, done⟩ := bind_eq_ok.mp done
      exact created done

theorem pathArgument_eq_ok (done : outcome (pathArgument file) world = (.ok path, last)) :
    last = world ∧ ∃ given, world.host.expandHome (Path.ofText file) = .ok given ∧
      world.host.resolve given = .ok path := by
  unfold pathArgument at done
  obtain ⟨given, middle, expanded, resolved⟩ := bind_eq_ok.mp done
  obtain ⟨expands, rfl⟩ := look_eq_ok.mp expanded
  obtain ⟨resolves, rfl⟩ := look_eq_ok.mp resolved
  exact ⟨rfl, given, expands, resolves⟩

/-- A file that is extracted was read where its argument leads. -/
theorem extractFile_spec [Schema.Package] (done : outcome (extractFile file) world = (.ok extracted, last)) :
    ∃ path, world.host.expandHome (Path.ofText file) = .ok path ∧
      world.host.resolve path = .ok extracted.path ∧
      world.host.readText extracted.path = .ok extracted.text ∧
      extracted.snapshot = extract extracted.text := by
  unfold extractFile at done
  obtain ⟨resolved, world₁, argument, onward⟩ := bind_eq_ok.mp done
  obtain ⟨rfl, path, expands, resolves⟩ := pathArgument_eq_ok argument
  obtain ⟨text, world₂, read, rest⟩ := bind_eq_ok.mp onward
  obtain ⟨reads, rfl⟩ := look_eq_ok.mp read
  obtain ⟨settings, world₃, _, done⟩ := bind_eq_ok.mp rest
  obtain ⟨registry, world₄, registered, done⟩ := bind_eq_ok.mp done
  obtain ⟨rfl, _⟩ := Index.standardRegistry_spec registered
  obtain ⟨language, world₅, known, done⟩ := bind_eq_ok.mp done
  obtain rfl := languageFor_standard known
  obtain ⟨snapshot, world₆, reported, done⟩ := bind_eq_ok.mp done
  obtain ⟨_, taken⟩ := Index.extractReported_spec reported
  obtain ⟨same, _⟩ := Prod.mk.inj done
  obtain rfl := Except.ok.inj same
  rw [Language.python_snapshot?] at taken
  exact ⟨path, expands, resolves, reads, (Option.some.inj taken).symm⟩

theorem printed_eq_ok [Json.Package] {value : Value} :
    outcome (printed value) world = (.ok finish, last) ↔
      ∃ text, Json.dumps .indented value = .ok text ∧ finish = ⟨0, text ++ ['\n'], []⟩ ∧ last = world := by
  rw [printed]
  cases Json.dumps .indented value with
  | ok text => simp [outcome_pure, eq_comm]
  | error reason => simp [outcome_throw]

section Printing
variable [Schema.Package] [Ignore.Package] [Json.Package]

/-- A run that prints the symbols of a file prints what is extracted of its text. -/
theorem symbols_spec (ran : (run ["symbols".toList, file] asked).1 = .finished finish)
    (success : finish.exitCode = 0) : ∃ path resolved text shown,
      asked.expandHome (Path.ofText file) = .ok path ∧ asked.resolve path = .ok resolved ∧
      asked.readText resolved = .ok text ∧
      Json.dumps .indented (snapshotValue (extract text)) = .ok shown ∧
      finish.output = shown ++ ['\n'] := by
  unfold run at ran
  split at ran
  · cases ran
  · cases ran
  · rename_i verbose request parsed
    obtain rfl := eq_symbols_of_parse parsed
    dsimp only at ran
    split at ran
    · rename_i result ended
      obtain rfl := Outcome.finished.inj ran
      obtain ⟨value, middle, document, printing⟩ := bind_eq_ok.mp (Prod.ext ended rfl)
      obtain ⟨extracted, middle, extraction, answer⟩ := bind_eq_ok.mp document
      obtain ⟨path, expands, resolves, reads, same⟩ := extractFile_spec extraction
      obtain rfl := Except.ok.inj (Prod.mk.inj answer).1
      obtain ⟨shown, written, rfl, _⟩ := printed_eq_ok.mp printing
      exact ⟨path, _, _, shown, expands, resolves, reads, same ▸ written, rfl⟩
    · split at ran
      · obtain rfl := Outcome.finished.inj ran
        cases success
      · cases ran

/-- A readable file of a known suffix is printed when its settings can be read and what is printed has
a written form. -/
theorem run_symbols {resolved : Path} {text shown : Text} {settings : Settings}
    (parsed : parse ["symbols".toList, file] = .ok (false, .symbols file))
    (expands : asked.expandHome (Path.ofText file) = .ok path)
    (resolves : asked.resolve path = .ok resolved) (reads : asked.readText resolved = .ok text)
    (loaded : Settings.load asked resolved.parent = .ok settings)
    (visible : resolved.suffix.isEmpty = false)
    (known : Registry.standard.languageFor resolved.suffix = .ok Language.python.name)
    (written : Json.dumps .indented (snapshotValue (extract text)) = .ok shown) :
    ∃ finish, (run ["symbols".toList, file] asked).1 = .finished finish ∧ finish.exitCode = 0 ∧
      finish.output = shown ++ ['\n'] := by
  have created : Registry.standard.create Language.python.name = .ok .python := rfl
  obtain ⟨log, printing⟩ : ∃ log, outcome (symbolsDocument file >>= printed) ⟨asked, []⟩ =
      (.ok ⟨0, shown ++ ['\n'], []⟩, ⟨asked, log⟩) := by
    simp only [symbolsDocument, extractFile, pathArgument, outcome_bind, outcome_look, expands, resolves,
      reads, loaded, Index.standardRegistry, outcome_report, outcome_pure, languageFor, visible,
      Bool.false_eq_true, if_false, known, Index.ofRegistry, created, Index.extractReported,
      Language.python_snapshot?, printed, written]
    exact ⟨_, rfl⟩
  simp only [run, parsed, job, run_eq_outcome, printing]
  exact ⟨_, rfl, rfl, rfl⟩

end Printing

end Extraction

/-- The fields that snapshots have in print and in an index. -/
def sharedKeys : List Text :=
  ["symbols", "object_types", "class_members", "function_parameters"].map String.toList

/-- What is printed of a file agrees with the lines that an index has about it: with the one snapshot,
and with the symbols in order, their path and version apart. -/
structure Agrees (printed : Value) (path : Text) (symbols snapshots : List Value) : Prop where
  snapshot : ∃ record, Index.linesOf path snapshots = [record] ∧
    ∀ key ∈ sharedKeys, ∃ value, printed.get? key = some value ∧ record.get? key = some value
  positions : printed.get? "positions".toList = some (.list ((Index.linesOf path symbols).map
    (·.without ["path".toList, "schema_version".toList])))

section Agreement
variable {blocks : List Index.Block} {registered text : Text} {relative : Text} {snapshot : Snapshot}

theorem shared_fields (relative registered : Text) (snapshot : Snapshot) :
    ∀ key ∈ sharedKeys, ∃ value, (snapshotValue snapshot).get? key = some value ∧
      (Index.blockOf relative registered snapshot).snapshot.toValue.get? key = some value := by
  have keys : sharedKeys = ["symbols".toList, "object_types".toList, "class_members".toList,
    "function_parameters".toList] := rfl
  rw [keys]
  simp only [List.forall_mem_cons]
  exact ⟨⟨_, rfl, rfl⟩, ⟨_, rfl, rfl⟩, ⟨_, rfl, rfl⟩, ⟨_, rfl, rfl⟩, List.forall_mem_nil _⟩

theorem positions_field (relative registered : Text) (snapshot : Snapshot) :
    (snapshotValue snapshot).get? "positions".toList =
      some (.list (((Index.blockOf relative registered snapshot).symbols.map
        Index.FileSymbol.toValue).map (·.without ["path".toList, "schema_version".toList]))) := by
  have printed : (snapshotValue snapshot).get? "positions".toList =
      some (.list (snapshot.positions.map SymbolRecord.toValue)) := rfl
  have symbols : (Index.blockOf relative registered snapshot).symbols =
      snapshot.positions.map (⟨Index.schemaVersion, relative, ·⟩) := rfl
  simp only [printed, symbols, List.map_map, Function.comp_def, Index.FileSymbol.without_toValue]

/-- A snapshot agrees with the lines of blocks among which one has its path. -/
theorem agrees_of_block
    (own : ∀ block ∈ blocks, ∀ record ∈ block.symbols, record.path = block.snapshot.path)
    (only : blocks.filter (·.snapshot.path = relative) =
      [Index.blockOf relative registered snapshot]) :
    Agrees (snapshotValue snapshot) relative
      (Index.Artifact.symbols.records blocks) (Index.Artifact.snapshots.records blocks) := by
  constructor
  · refine ⟨_, ?_, shared_fields relative registered snapshot⟩
    rw [Index.Artifact.records, Index.linesOf_snapshots, only]
    rfl
  · rw [Index.Artifact.records, Index.linesOf_symbols relative own, only, List.flatMap_singleton,
      positions_field relative registered]

end Agreement

/-- The text of the file at a place is what the command reads there. -/
theorem reads_place {place : Location} {bytes : List UInt8} {raw text : Text} {resolved : Path}
    (rooted : asked.tree.Rooted) (named : ∀ name ∈ place, IsEntryName name)
    (present : asked.tree.entry? place = some (.file bytes)) (decoded : Utf8.decode bytes = .ok raw)
    (led : asked.place? path = some place) (resolves : asked.resolve path = .ok resolved)
    (reads : asked.readText resolved = .ok text) : text = Text.normaliseNewlines raw := by
  have usable : Host.isUsable path = true := by
    by_contra unusable
    rw [Host.resolve, if_neg unusable] at resolves
    cases resolves
  obtain rfl := Except.ok.inj ((Host.resolve_place rooted usable led).symm.trans resolves)
  obtain ⟨bytes', raw', read, decoded', rfl⟩ := Host.readText_eq_ok.mp reads
  obtain rfl := Except.ok.inj ((Host.readBytes_place rooted named present).symm.trans read)
  rw [Except.ok.inj (decoded.symm.trans decoded')]

/-- What the command prints of a file that a run of the index covers agrees with the lines that the run
left, on the host before the run or after it, unless the run wrote over the file. The file of symbols
holds its lines unless it is the same file as that of the snapshots. -/
theorem symbols_agree_with_index [Schema.Package] [Ignore.Package] [Json.Package]
    (sound : host.tree.Sound)
    (generated : (Index.generate root outDir given).run host = (.ok summary, world))
    (covered : Index.Covers host root outDir given names)
    (same : asked = host ∨ asked = world.host ∧ ∀ artifact ∈ summary.artifacts,
      world.host.place? artifact ≠ world.host.place? (Sources.pathBelow root names))
    (argument : asked.expandHome (Path.ofText file) = .ok path)
    (leads : asked.place? path = world.host.place? (Sources.pathBelow root names))
    (ran : (run ["symbols".toList, file] asked).1 = .finished finish) (success : finish.exitCode = 0) :
    ∃ symbolsFile snapshotsFile symbols snapshots printed shown,
      summary.artifacts = [symbolsFile, snapshotsFile] ∧
      symbolsFile.name = Index.Artifact.symbols.fileName ∧
      snapshotsFile.name = Index.Artifact.snapshots.fileName ∧
      Json.dumps .indented printed = .ok shown ∧ finish.output = shown ++ ['\n'] ∧
      Index.refusal? symbols = none ∧ Index.refusal? snapshots = none ∧
      (world.host.place? symbolsFile ≠ world.host.place? snapshotsFile →
        world.host.readBytes symbolsFile = .ok (Index.encodeLines symbols)) ∧
      world.host.readBytes snapshotsFile = .ok (Index.encodeLines snapshots) ∧
      Agrees printed (Path.relativeText names) symbols snapshots := by
  rw [run_eq_outcome] at generated
  obtain ⟨dir, blocks, place, text, artifacts, leaves⟩ := Index.generate_leaves sound generated covered
  obtain ⟨bytes, raw, present, kept, decoded, normal⟩ := leaves.file
  obtain ⟨registered, only⟩ := leaves.block
  obtain ⟨path', resolved, text', shown, expands, resolves, reads, written, output⟩ :=
    symbols_spec ran success
  obtain rfl := Except.ok.inj (expands.symm.trans argument)
  have there : asked.tree.Rooted ∧ asked.tree.entry? place = some (.file bytes) := by
    rcases same with rfl | ⟨rfl, apart⟩
    · exact ⟨sound.rooted, present⟩
    · refine ⟨leaves.rooted, kept fun artifact led => ?_⟩
      have listed : dir.child artifact.fileName ∈ summary.artifacts := by
        rw [artifacts]
        cases artifact <;> simp
      exact apart _ listed (led.trans leaves.led.symm)
  have read : text' = text :=
    (reads_place there.1 leaves.named there.2 decoded (leads.trans leaves.led) resolves reads).trans
      normal
  exact ⟨_, _, _, _, _, shown, artifacts, Path.name_child, Path.name_child, written, output,
    leaves.spelled .symbols, leaves.spelled .snapshots, leaves.symbols, leaves.snapshots,
    agrees_of_block leaves.own (read ▸ only)⟩

section Samples
open Index
open scoped Installed

theorem newlineHost_sound : newlineHost.tree.Sound :=
  sound_of_entries (by decide) (by decide) (by decide)

theorem load_default {root : Path} {location : Location}
    (absent : asked.lookup true (root.child Settings.fileName) = .ok (.absent location)) :
    Settings.load asked root = .ok .default := Host.Dangling.load (Or.inr ⟨location, absent⟩)

theorem newlineHost_prints : ∃ finish,
    (run ["symbols".toList, "a\nb.py".toList] newlineHost).1 = .finished finish ∧
      finish.exitCode = 0 ∧
      finish.output = Json.render .indented (snapshotValue (extract "x = 1".toList)) ++ ['\n'] := by
  have resolves : newlineHost.resolve ⟨[], ["a\nb.py".toList]⟩ =
      .ok ⟨['/'], ["a\nb.py".toList]⟩ := by cbv
  have reads : newlineHost.readText ⟨['/'], ["a\nb.py".toList]⟩ = .ok "x = 1".toList := by cbv
  have unset : newlineHost.lookup true (Path.child (Path.parent ⟨['/'], ["a\nb.py".toList]⟩)
      Settings.fileName) = .ok (.absent [Settings.fileName]) := by cbv
  exact run_symbols (parse_symbols (by decide)) rfl resolves reads (load_default unset) (by decide)
    (by rfl) rfl

/-- On a host with one source file, the command and the index agree about it. -/
theorem symbols_agree_with_index_newline : ∃ summary world finish symbols snapshots printed,
    (generate ⟨['/'], []⟩ (some ⟨['/'], ["out".toList]⟩) (some .default)).run newlineHost =
      (.ok summary, world) ∧
    (run ["symbols".toList, "a\nb.py".toList] newlineHost).1 = .finished finish ∧
    finish.exitCode = 0 ∧ finish.output = Json.render .indented printed ++ ['\n'] ∧
    Agrees printed "a\nb.py".toList symbols snapshots := by
  obtain ⟨_, summary, last, _, written, generated⟩ := newlineHost_generates
  have covered : Covers newlineHost ⟨['/'], []⟩ (some ⟨['/'], ["out".toList]⟩) (some .default)
      ["a\nb.py".toList] :=
    ⟨_, _, _, _, _, ⟨⟨Or.inl rfl, Or.inl rfl⟩, newlineHost_makes, newlineHost_finds⟩,
      List.mem_singleton_self _, newlineHost_reads⟩
  have led : last.host.place? (Sources.pathBelow ⟨['/'], []⟩ ["a\nb.py".toList]) =
      some ["a\nb.py".toList] := by
    obtain ⟨rooted, _⟩ := Host.makeDirectories_grown newlineHost_rooted newlineHost_makes
    obtain ⟨_, _, between, _, _, writes₁, writes₂⟩ := writeBlocks_writes rooted written
    have before : newlineHostMade.place? (Sources.pathBelow ⟨['/'], []⟩ ["a\nb.py".toList]) =
        some ["a\nb.py".toList] := by cbv
    exact writes₂.place? (writes₁.tree.rooted rooted) (writes₁.place? rooted before)
  have leads : newlineHost.place? ⟨[], ["a\nb.py".toList]⟩ =
      last.host.place? (Sources.pathBelow ⟨['/'], []⟩ ["a\nb.py".toList]) := by
    rw [led]
    cbv
  obtain ⟨finish, ran, success, _⟩ := newlineHost_prints
  rw [← run_eq_outcome] at generated
  obtain ⟨_, _, symbols, snapshots, printed, shown, _, _, _, written', output, _, _, _, _, agrees⟩ :=
    symbols_agree_with_index newlineHost_sound generated covered (Or.inl rfl) rfl leads ran success
  obtain rfl : Json.render .indented printed = shown := Except.ok.inj written'
  exact ⟨summary, last, finish, symbols, snapshots, printed, generated, ran, success, output, agrees⟩

/-- A host whose file of symbols is a link to its file of snapshots. -/
def linkedHost : Host where
  tree := ⟨[(["a.py".toList], .file (Utf8.encode "x = 1".toList)), ([".symlex".toList], .directory),
    ([".symlex".toList, "symbols.jsonl".toList], .link "snapshots.jsonl".toList)]⟩
  cwd := ⟨['/'], []⟩
  home := ⟨['/'], []⟩
  temporary := ⟨['/'], []⟩

def linkedDir : Path := ⟨['/'], [".symlex".toList]⟩

theorem linkedHost_sound : linkedHost.tree.Sound :=
  sound_of_entries (by decide) (by decide) (by decide)

/-- The place of the one file of the index, where nothing is yet. -/
def linkedPlace : Location := [".symlex".toList, "snapshots.jsonl".toList]

theorem linkedHost_follows (left : Nat) :
    linkedHost.tree.walk true (left + 1) [".symlex".toList] ["symbols.jsonl".toList] =
      .ok (.absent linkedPlace) := by
  have onward : linkedHost.tree.walk true left [".symlex".toList] ["snapshots.jsonl".toList] =
      .ok (.absent linkedPlace) := by
    rw [walk_cons ⟨by decide, by decide⟩]
    rfl
  rw [walk_cons ⟨by decide, by decide⟩]
  exact onward

/-- Both paths of the index lead there. -/
theorem linkedHost_lookup (artifact : Artifact) :
    linkedHost.lookup true (linkedDir.child artifact.fileName) = .ok (.absent linkedPlace) := by
  have there : linkedHost.At linkedDir [".symlex".toList] := ⟨by decide, by cbv⟩
  cases artifact with
  | snapshots => exact there.lookup_absent (fileName_isName .snapshots) (by decide) true
  | symbols =>
    change linkedHost.tree.walk true (39 + 1) [] [".symlex".toList, "symbols.jsonl".toList] = _
    rw [walk_cons ⟨by decide, by decide⟩]
    exact linkedHost_follows 39

/-- The snapshots are written over the symbols. -/
theorem linkedHost_writes (symbols snapshots : List Value) : ∃ written last,
    WritesAll linkedHost (linkedDir.child Artifact.symbols.fileName) symbols written ∧
    WritesAll written (linkedDir.child Artifact.snapshots.fileName) snapshots last ∧
    last.readBytes (linkedDir.child Artifact.symbols.fileName) = .ok (encodeLines snapshots) := by
  have rooted := linkedHost_sound.rooted
  have usable (artifact : Artifact) : Host.isUsable (linkedDir.child artifact.fileName) = true := by
    cases artifact <;> decide
  have reached := linkedHost_lookup .symbols
  have writes₁ := Host.writes_put rooted (usable .symbols) reached (by simp) rfl (encodeLines symbols)
  have filled := writes₁.lookup rooted (linkedHost_lookup .snapshots)
  rw [Found.overwritten, if_pos rfl] at filled
  have writes₂ := Host.writes_put (writes₁.tree.rooted rooted) (usable .snapshots) filled (by simp) rfl
    (encodeLines snapshots)
  have again := writes₂.lookup (writes₁.tree.rooted rooted) writes₁.reached
  rw [Found.overwritten, if_pos rfl] at again
  refine ⟨_, _,
    ⟨Installed.refusal?_eq_none _, Host.fitting_of_unlimited fun _ => rfl,
      Host.writeBytes_eq_ok.mpr ⟨usable .symbols, _, reached, by simp, rfl, rfl⟩⟩,
    ⟨Installed.refusal?_eq_none _, Host.fitting_of_unlimited fun _ => rfl,
      Host.writeBytes_eq_ok.mpr ⟨usable .snapshots, _, filled, by simp, rfl, rfl⟩⟩, ?_⟩
  rw [Host.readBytes, if_pos (usable .symbols), again]

theorem linkedHost_unset :
    linkedHost.lookup true (Path.child ⟨['/'], []⟩ Settings.fileName) =
      .ok (.absent [Settings.fileName]) := by cbv

theorem linkedHost_loads : Settings.load linkedHost ⟨['/'], []⟩ = .ok .default :=
  load_default linkedHost_unset

theorem linkedHost_resolves : Settings.resolveOutputDir linkedHost ⟨['/'], []⟩
    Settings.default.index.outputDir = .ok linkedDir := by cbv

theorem linkedHost_surveys :
    Surveys linkedHost ⟨['/'], []⟩ none none linkedDir .default linkedHost [["a.py".toList]] where
  configured := ⟨Or.inr ⟨rfl, linkedHost_loads⟩, Or.inr ⟨rfl, linkedHost_resolves⟩⟩
  created := by cbv
  found := by cbv

theorem linkedHost_reads : linkedHost.readText (Sources.pathBelow ⟨['/'], []⟩ ["a.py".toList]) =
    .ok "x = 1".toList := by cbv

theorem linkedHost_prints : ∃ finish,
    (run ["symbols".toList, "a.py".toList] linkedHost).1 = .finished finish ∧ finish.exitCode = 0 ∧
      finish.output = Json.render .indented (snapshotValue (extract "x = 1".toList)) ++ ['\n'] := by
  have resolves : linkedHost.resolve ⟨[], ["a.py".toList]⟩ = .ok ⟨['/'], ["a.py".toList]⟩ := by cbv
  have reads : linkedHost.readText ⟨['/'], ["a.py".toList]⟩ = .ok "x = 1".toList := by cbv
  exact run_symbols (parse_symbols (by decide)) rfl resolves reads (load_default linkedHost_unset)
    (by decide) (by rfl) rfl

/-- The block of the one source file. -/
def linkedBlock : Block := blockOf "a.py".toList Settings.default.language (extract "x = 1".toList)

theorem linkedHost_generates : ∃ summary last,
    (generate ⟨['/'], []⟩ none none).run linkedHost = (.ok summary, last) ∧
    summary.artifacts =
      [linkedDir.child Artifact.symbols.fileName, linkedDir.child Artifact.snapshots.fileName] ∧
    last.host.readBytes (linkedDir.child Artifact.symbols.fileName) =
      .ok (encodeLines [linkedBlock.snapshot.toValue]) := by
  have blocks : [["a.py".toList]].filterMap (readBlock? linkedHost ⟨['/'], []⟩ Settings.default.language) =
      [linkedBlock] := by
    rw [List.filterMap_cons, readBlock?, linkedHost_reads]
    rfl
  obtain ⟨log, collected⟩ : ∃ log, outcome (collectInto ⟨['/'], []⟩ linkedDir .default) ⟨linkedHost, []⟩ =
      (.ok [linkedBlock], ⟨linkedHost, log⟩) :=
    collectInto_eq_ok.mpr
      ⟨linkedHost_surveys.created, rfl, _, linkedHost_surveys.found, blocks.symm⟩
  obtain ⟨written, last, wrote₁, wrote₂, read⟩ := linkedHost_writes
    (Artifact.symbols.records [linkedBlock]) (Artifact.snapshots.records [linkedBlock])
  obtain ⟨log', wrote⟩ := writeBlocks_eq_ok.mpr ⟨⟨written, wrote₁, wrote₂⟩, rfl⟩
  have run : outcome (generate ⟨['/'], []⟩ none none) ⟨linkedHost, []⟩ =
      outcome (collectInto ⟨['/'], []⟩ linkedDir .default >>= writeBlocks linkedDir) ⟨linkedHost, []⟩ :=
    outcome_generate linkedHost_loads linkedHost_resolves
  exact ⟨_, _, (run_eq_outcome _ _).trans (run.trans (bind_eq_ok.mpr ⟨_, _, collected, wrote⟩)), rfl,
    read⟩

set_option maxRecDepth 100000 in
/-- No field of the one line of that index is a name. -/
theorem linkedBlock_unnamed : Text.contains (Json.renderText "name".toList)
    (Json.render .compact linkedBlock.snapshot.toValue ++ ['\n']) = false := by cbv

/-- The one symbol of its text. -/
def linkedSymbol : SymbolRecord := ⟨"x".toList, .variable, 1, 1, 1, [], []⟩

theorem linked_positions : (extract "x = 1".toList).positions = [linkedSymbol] := by decide +kernel

/-- Lines with the symbol of the source file would show its name. -/
theorem linkedBlock_ne {lines : List Value}
    (written : encodeLines lines = encodeLines [linkedBlock.snapshot.toValue]) {snapshots : List Value} :
    ¬Agrees (snapshotValue (extract "x = 1".toList)) "a.py".toList lines snapshots := by
  intro agrees
  have positions := agrees.positions
  have printed : (snapshotValue (extract "x = 1".toList)).get? "positions".toList =
      some (.list ((extract "x = 1".toList).positions.map SymbolRecord.toValue)) := rfl
  rw [printed, linked_positions] at positions
  have same := Value.list.inj (Option.some.inj positions)
  obtain ⟨line, listed, shown⟩ : ∃ line ∈ lines, line.without ["path".toList, "schema_version".toList] =
      linkedSymbol.toValue := by
    have member : linkedSymbol.toValue ∈
        (linesOf "a.py".toList lines).map (·.without ["path".toList, "schema_version".toList]) :=
      same ▸ List.mem_singleton_self _
    obtain ⟨line, listed, shown⟩ := List.mem_map.mp member
    exact ⟨line, (List.mem_filter.mp listed).1, shown⟩
  obtain ⟨entries, rfl, named⟩ : ∃ entries, line = .table entries ∧
      ("name".toList, .text "x".toList) ∈ entries := by
    cases line with
    | table entries =>
      have fields : entries.filter (·.1 ∉ ["path".toList, "schema_version".toList]) =
          linkedSymbol.fields := Value.table.inj shown
      have member : ("name".toList, .text "x".toList) ∈ linkedSymbol.fields := List.mem_cons_self
      rw [← fields] at member
      exact ⟨entries, rfl, (List.mem_filter.mp member).1⟩
    | _ => cases shown
  have texts : lines.flatMap (fun line => Json.render .compact line ++ ['\n']) =
      [linkedBlock.snapshot.toValue].flatMap fun line => Json.render .compact line ++ ['\n'] := by
    have decoded := congrArg Utf8.decode written
    rw [Installed.encodeLines_eq, Installed.encodeLines_eq, Utf8.decode_encode,
      Utf8.decode_encode] at decoded
    exact Except.ok.inj decoded
  have inside : Json.renderText "name".toList <:+:
      lines.flatMap fun line => Json.render .compact line ++ ['\n'] :=
    (Json.key_infix_render named).trans ((List.prefix_append _ ['\n']).isInfix.trans
      (List.infix_of_mem_flatten (List.mem_map.mpr ⟨_, listed, rfl⟩)))
  rw [texts, List.flatMap_singleton] at inside
  have found := Text.contains_iff.mpr inside
  rw [linkedBlock_unnamed] at found
  cases found

/-- Where the two files of an index are one, the command does not agree with it: what it prints has a
symbol, and no lines that the file of symbols could hold have it. -/
theorem linkedHost_disagrees : ∃ summary world finish symbolsFile snapshotsFile,
    (generate ⟨['/'], []⟩ none none).run linkedHost = (.ok summary, world) ∧
    Covers linkedHost ⟨['/'], []⟩ none none ["a.py".toList] ∧
    summary.artifacts = [symbolsFile, snapshotsFile] ∧
    (run ["symbols".toList, "a.py".toList] linkedHost).1 = .finished finish ∧ finish.exitCode = 0 ∧
    finish.output = Json.render .indented (snapshotValue (extract "x = 1".toList)) ++ ['\n'] ∧
    ∀ symbols snapshots, world.host.readBytes symbolsFile = .ok (encodeLines symbols) →
      ¬Agrees (snapshotValue (extract "x = 1".toList)) "a.py".toList symbols snapshots := by
  obtain ⟨summary, world, generated, artifacts, read⟩ := linkedHost_generates
  obtain ⟨finish, ran, success, output⟩ := linkedHost_prints
  refine ⟨summary, world, finish, _, _, generated, ?_, artifacts, ran, success, output, ?_⟩
  · exact ⟨_, _, _, _, _, linkedHost_surveys, List.mem_singleton_self _, linkedHost_reads⟩
  · intro symbols snapshots stored
    exact linkedBlock_ne (Except.ok.inj (stored.symm.trans read))

end Samples

end SymbolIndex.Command
