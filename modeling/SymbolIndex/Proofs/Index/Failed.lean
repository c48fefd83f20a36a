import SymbolIndex.Proofs.Index.Composition
import SymbolIndex.Proofs.Index.Footprint

/-! Runs of the index that fail. A run takes back nothing: the directories that it made stay, and so does
what it had written of its two files when it broke off. Up to there it opens no file. -/
namespace SymbolIndex

namespace Host
variable {host after : Host}
open SymbolIndex.Tree

/-- Where directories were added, every file is as it was. -/
theorem AddsDirectories.fileAt? (adds : AddsDirectories host after) (location : Location) :
    after.tree.fileAt? location = host.tree.fileAt? location := by
  cases before : host.tree.entry? location with
  | some entry => rw [Tree.fileAt?, Tree.fileAt?, adds.keeps location entry before, before]
  | none =>
    cases there : after.tree.entry? location with
    | none => rw [Tree.fileAt?, Tree.fileAt?, before, there]
    | some entry =>
      rcases adds.adds location entry there with old | rfl
      · rw [before] at old
        cases old
      · rw [Tree.fileAt?, Tree.fileAt?, before, there]

/-- Making a directory adds directories only, also when it fails half way. -/
theorem addsDirectories_makeDirectories (host : Host) (path : Path) :
    AddsDirectories host (host.makeDirectories path).1 :=
  makeDirectories_keeps (.refl host) fun _ _ _ _ _ adds entered =>
    adds.trans (addsDirectories_addEntry entered)

end Host

namespace Index
open Job SymbolIndex.Tree
variable {host made after : Host} {world last : World} {root dir path : Path} {outDir : Option Path}
  {given : Option Settings} {settings : Settings} {blocks : List Block} {failure : Failure}
  {values : List Value} {log : List LogEntry}

/-! ### What a failed run leaves -/

/-- Every file is as it was, and new are only directories on the way to one; none is if that is there. -/
structure Spares (host : Host) (dir : Path) (after : Host) : Prop where
  files : ∀ location, after.tree.fileAt? location = host.tree.fileAt? location
  opened : ∀ location, after.tree.entry? location = host.tree.entry? location ∨
    host.tree.entry? location = none ∧ ∃ front, front <+: dir.names ∧ after.At ⟨dir.root, front⟩ location
  same : host.isDirectory dir = true → after = host

section Files
variable [Json.Package]

/-- A file holds a part of its records: as many bytes as there is room for, or the lines up to a record
that has no written form. -/
inductive CutShort (before : Host) (path : Path) (values : List Value) : Failure → Host → Prop
  | full {place : Location} {bytes : List UInt8} {after : Host} (part : bytes <+: encodeLines values)
      (less : bytes ≠ encodeLines values) (writes : before.Writes after path place bytes) :
      CutShort before path values .full after
  | unwritable {place : Location} {reason : Text} {after : Host}
      (refused : refusal? values = some reason)
      (writes : before.Writes after path place (encodeLines values)) :
      CutShort before path values (.unwritable reason) after

/-- The files of an index are not finished: the first is cut short, or the second is not opened, or that
is cut short. -/
inductive BreaksOff (made : Host) (dir : Path) (blocks : List Block) (failure : Failure) (after : Host) :
    Prop
  | symbols (cut : CutShort made (dir.child Artifact.symbols.fileName) (Artifact.symbols.records blocks)
      failure after) : BreaksOff made dir blocks failure after
  | unopened {place : Location} {bytes : List UInt8}
      (spelled : refusal? (Artifact.symbols.records blocks) = none)
      (writes : made.Writes after (dir.child Artifact.symbols.fileName) place (symbolBytes blocks))
      (refused : after.writeBytes (dir.child Artifact.snapshots.fileName) bytes = .error failure) :
      BreaksOff made dir blocks failure after
  | snapshots {between : Host} {place : Location}
      (spelled : refusal? (Artifact.symbols.records blocks) = none)
      (writes : made.Writes between (dir.child Artifact.symbols.fileName) place (symbolBytes blocks))
      (cut : CutShort between (dir.child Artifact.snapshots.fileName)
        (Artifact.snapshots.records blocks) failure after) : BreaksOff made dir blocks failure after

theorem cutShort_of_writesLess (rooted : made.tree.Rooted)
    (less : WritesLess made path values failure after) :
    (∃ bytes, made.writeBytes path bytes = .error failure) ∧ after = made ∨
      CutShort made path values failure after := by
  cases less with
  | unopened refused same => exact Or.inl ⟨⟨_, refused⟩, same⟩
  | cutShort wrote short =>
    obtain ⟨place, writes⟩ := Host.writes_of_writeBytes rooted wrote
    rw [shortfall?] at short
    split at short
    · rename_i less
      obtain rfl := Option.some.inj short
      exact Or.inr (.full Host.fitting_prefix less writes)
    · rename_i whole
      obtain ⟨reason, refused, rfl⟩ := Option.map_eq_some_iff.mp short
      rw [not_not.mp whole] at writes
      exact Or.inr (.unwritable refused writes)

end Files

theorem touches_makeDirectories (rooted : host.tree.Rooted) (dir : Path) :
    Touches host dir (host.makeDirectories dir).1 :=
  Host.makeDirectories_keeps (.refl rooted dir) fun _ _ _ onTheWay usable touches entered =>
    touches.addEntry onTheWay usable entered

theorem spares_makeDirectories (rooted : host.tree.Rooted) (dir : Path) :
    Spares host dir (host.makeDirectories dir).1 where
  files := (Host.addsDirectories_makeDirectories host dir).fileAt?
  opened location := by
    rcases (touches_makeDirectories rooted dir).each location with same | ⟨absent, way, there⟩ | ⟨_, led⟩
    · exact Or.inl same
    · exact Or.inr ⟨absent, _, way, there⟩
    · -- no file is new, so the one there is as it was
      have present := entry?_of_walk led
      rcases (Host.addsDirectories_makeDirectories host dir).adds _ _ present with old | directory
      · exact Or.inl (present.trans old.symm)
      · cases directory
  same there := by
    obtain ⟨location, there⟩ := Host.isDirectory_iff.mp there
    rw [there.makeDirectories]

/-- A failed run changes no file, unless it breaks off while it writes its two: then the file of symbols
holds what it wrote of it, and that of snapshots is as it was unless the run came to it. -/
theorem failed_run_leaves [Schema.Package] [Ignore.Package] [Json.Package] (rooted : host.tree.Rooted)
    (failed : outcome (generate root outDir given) ⟨host, log⟩ = (.error failure, last)) :
    (∀ dir settings, ¬Configures host root outDir given dir settings) ∧ last.host = host ∨
      ∃ dir settings, Configures host root outDir given dir settings ∧
        (Spares host dir last.host ∨
          ∃ made files, Surveys host root outDir given dir settings made files ∧
            Registry.standard.create settings.language = .ok .python ∧ Spares host dir made ∧
            BreaksOff made dir (files.filterMap (readBlock? made root settings.language)) failure
              last.host) := by
  by_cases chosen : ∃ dir settings, Configures host root outDir given dir settings
  · obtain ⟨dir, settings, configured⟩ := chosen
    refine Or.inr ⟨dir, settings, configured, ?_⟩
    have spares := spares_makeDirectories rooted dir
    have touches := touches_makeDirectories rooted dir
    have run : outcome (generate root outDir given) ⟨host, log⟩ =
        outcome (collectInto root dir settings >>= writeBlocks dir) ⟨host, log⟩ :=
      outcome_configured configured
    rcases bind_eq_error.mp (run.symm.trans failed) with collecting | ⟨blocks, middle, collected, writing⟩
    · refine Or.inl ?_
      rcases collectInto_eq_error.mp ⟨last.log, collecting⟩ with unmade | ⟨created, _⟩
      · rwa [unmade] at spares
      · rwa [created] at spares
    · obtain ⟨created, known, files, found, rfl⟩ := collectInto_eq_ok.mp ⟨middle.log, collected⟩
      rw [created] at spares touches
      have surveys : Surveys host root outDir given dir settings middle.host files :=
        ⟨configured, created, found⟩
      rcases writeBlocks_eq_error.mp ⟨last.log, writing⟩ with less | ⟨between, whole, less⟩
      · rcases cutShort_of_writesLess touches.rooted less with ⟨_, same⟩ | cut
        · exact Or.inl (same ▸ spares)
        · exact Or.inr ⟨middle.host, files, surveys, known, spares, .symbols cut⟩
      · obtain ⟨place, writes⟩ := Host.writes_of_writeBytes touches.rooted whole.wrote
        refine Or.inr ⟨middle.host, files, surveys, known, spares, ?_⟩
        rcases cutShort_of_writesLess (writes.tree.rooted touches.rooted) less with ⟨⟨_, refused⟩, same⟩ | cut
        · exact .unopened whole.spelled (same ▸ writes) (same ▸ refused)
        · exact .snapshots whole.spelled writes cut
  · have unconfigured (dir : Path) (settings : Settings) :
        ¬Configures host root outDir given dir settings := fun configured => chosen ⟨_, _, configured⟩
    have same : (outcome (generate root outDir given) ⟨host, log⟩).2 = ⟨host, log⟩ :=
      outcome_unconfigured unconfigured
    rw [failed] at same
    exact Or.inl ⟨unconfigured, congrArg World.host same⟩

/-! ### Runs that fail -/

section Samples
open scoped Installed

/-- Settings with a language that is not registered. -/
def unknownSettings : Settings := { Settings.default with language := "cobol".toList }

/-- A run for an unknown language makes the directory first. -/
theorem unknown_fails : ∃ log, outcome (generate topRoot (some topDir) (some unknownSettings))
    ⟨hostOf [], []⟩ = (.error (.registry (.notRegistered "cobol".toList)), ⟨hostOf [indexEntry], log⟩) := by
  have configured : Configures (hostOf []) topRoot (some topDir) (some unknownSettings) topDir
    unknownSettings := ⟨Or.inl rfl, Or.inl rfl⟩
  obtain ⟨log, collecting⟩ : ∃ log, outcome (collectInto topRoot topDir unknownSettings)
      ⟨hostOf [], []⟩ = (.error (.registry (.notRegistered "cobol".toList)), ⟨hostOf [indexEntry], log⟩) :=
    collectInto_eq_error.mpr (Or.inr ⟨by cbv, Or.inl ⟨_, rfl, rfl⟩⟩)
  have run : outcome (generate topRoot (some topDir) (some unknownSettings)) ⟨hostOf [], []⟩ =
      outcome (collectInto topRoot topDir unknownSettings >>= writeBlocks topDir) ⟨hostOf [], []⟩ :=
    outcome_configured configured
  exact ⟨log, run.trans (bind_eq_error.mpr (Or.inl collecting))⟩

/-- An index with these symbols whose snapshots may be read but not written. -/
def lockedHost (symbols : List UInt8) : Host where
  tree := ⟨[indexEntry, ([".symlex".toList, "symbols.jsonl".toList], .file symbols),
    ([".symlex".toList, "snapshots.jsonl".toList], .file [0x62])]⟩
  cwd := ⟨['/'], []⟩
  home := ⟨['/'], []⟩
  temporary := ⟨['/'], []⟩
  platform :=
    { Platform.plain with
      refuses := fun location =>
        if location = [".symlex".toList, "snapshots.jsonl".toList] then some .denied else none }

theorem lockedHost_reaches (symbols : List UInt8) :
    (lockedHost symbols).lookup true (topDir.child Artifact.symbols.fileName) =
        .ok (.present [".symlex".toList, "symbols.jsonl".toList] (.file symbols)) ∧
      (lockedHost symbols).lookup true (topDir.child Artifact.snapshots.fileName) =
        .ok (.present [".symlex".toList, "snapshots.jsonl".toList] (.file [0x62])) := by
  have there : (lockedHost symbols).At topDir [".symlex".toList] := ⟨by decide, by cbv⟩
  exact ⟨there.lookup_file (fileName_isName .symbols) (by rfl),
    there.lookup_file (fileName_isName .snapshots) (by rfl)⟩

theorem lockedHost_reads (symbols : List UInt8) :
    (lockedHost symbols).readBytes (topDir.child Artifact.symbols.fileName) = .ok symbols ∧
      (lockedHost symbols).readBytes (topDir.child Artifact.snapshots.fileName) = .ok [0x62] := by
  obtain ⟨first, second⟩ := lockedHost_reaches symbols
  have usable (artifact : Artifact) : Host.isUsable (topDir.child artifact.fileName) = true := by
    cases artifact <;> decide
  rw [Host.readBytes, if_pos (usable .symbols), first, Host.readBytes, if_pos (usable .snapshots), second]
  exact ⟨rfl, rfl⟩

theorem lockedHost_surveys : Surveys (lockedHost [0x61]) topRoot none none topDir .default
    (lockedHost [0x61]) [] := by
  have unset : (lockedHost [0x61]).lookup true (topRoot.child Settings.fileName) =
      .ok (.absent [Settings.fileName]) := by cbv
  exact surveys_default (Command.load_default unset) (by cbv) (by cbv) (by cbv)

/-- A run whose second file cannot be opened has written its first. -/
theorem lockedHost_fails : ∃ log, outcome (generate topRoot none none) ⟨lockedHost [0x61], []⟩ =
    (.error (.os (.refused .denied) (topDir.child Artifact.snapshots.fileName)), ⟨lockedHost [], log⟩) := by
  have surveys := lockedHost_surveys
  obtain ⟨reached, _⟩ := lockedHost_reaches [0x61]
  obtain ⟨_, locked⟩ := lockedHost_reaches []
  have wrote : WritesAll (lockedHost [0x61]) (topDir.child Artifact.symbols.fileName)
      (Artifact.symbols.records []) (lockedHost []) :=
    ⟨rfl, Host.fitting_of_unlimited fun _ => rfl,
      Host.writeBytes_eq_ok.mpr ⟨by decide, _, reached, by simp, rfl, rfl⟩⟩
  have refused : WritesLess (lockedHost []) (topDir.child Artifact.snapshots.fileName)
      (Artifact.snapshots.records []) (.os (.refused .denied) (topDir.child Artifact.snapshots.fileName))
      (lockedHost []) := by
    refine .unopened ?_ rfl
    rw [Host.writeBytes, if_pos (by decide), locked]
    rfl
  obtain ⟨log, collected⟩ : ∃ log, outcome (collectInto topRoot topDir .default)
      ⟨lockedHost [0x61], []⟩ = (.ok [], ⟨lockedHost [0x61], log⟩) :=
    collectInto_eq_ok.mpr ⟨surveys.created, rfl, [], surveys.found, rfl⟩
  obtain ⟨log', writing⟩ := writeBlocks_eq_error.mpr (Or.inr ⟨_, wrote, refused⟩)
  have run : outcome (generate topRoot none none) ⟨lockedHost [0x61], []⟩ =
      outcome (collectInto topRoot topDir .default >>= writeBlocks topDir) ⟨lockedHost [0x61], []⟩ :=
    outcome_configured surveys.configured
  exact ⟨log', run.trans (bind_eq_error.mpr (Or.inr ⟨[], _, collected, writing⟩))⟩

theorem failed_run_leaves_locked : (lockedHost [0x61]).tree.Rooted ∧ ∃ failure last,
    outcome (generate topRoot none none) ⟨lockedHost [0x61], []⟩ = (.error failure, last) ∧
      ¬Spares (lockedHost [0x61]) topDir last.host ∧
      ∃ blocks, BreaksOff (lockedHost [0x61]) topDir blocks failure last.host := by
  have rooted : (lockedHost [0x61]).tree.Rooted :=
    (sound_of_entries (by decide) (by decide) (by decide)).rooted
  obtain ⟨log, failed⟩ := lockedHost_fails
  have spoils : ¬Spares (lockedHost [0x61]) topDir (lockedHost []) := fun spares =>
    absurd (spares.files [".symlex".toList, "symbols.jsonl".toList]) (by decide)
  refine ⟨rooted, _, _, failed, spoils, ?_⟩
  rcases failed_run_leaves rooted failed with
    ⟨unconfigured, _⟩ | ⟨dir, settings, configured, spares | ⟨made, files, surveys, _, _, breaks⟩⟩
  · exact absurd lockedHost_surveys.configured (unconfigured _ _)
  · obtain ⟨rfl, rfl⟩ := lockedHost_surveys.configured.unique configured
    exact absurd spares spoils
  · obtain ⟨rfl, rfl, rfl, rfl⟩ := lockedHost_surveys.unique surveys
    exact ⟨_, breaks⟩

/-- A failed run leaves the directory that it made for a language that is not registered, and new symbols
beside the old snapshots that it could not open. -/
theorem failed_runs_leave_traces :
    (∃ failure last, outcome (generate topRoot (some topDir) (some unknownSettings)) ⟨hostOf [], []⟩ =
        (.error failure, last) ∧
      (hostOf []).pathExists topDir = false ∧ last.host.isDirectory topDir = true) ∧
    ∃ failure last, outcome (generate topRoot none none) ⟨lockedHost [0x61], []⟩ = (.error failure, last) ∧
      (lockedHost [0x61]).readBytes (topDir.child Artifact.symbols.fileName) = .ok [0x61] ∧
      (lockedHost [0x61]).readBytes (topDir.child Artifact.snapshots.fileName) = .ok [0x62] ∧
      last.host.readBytes (topDir.child Artifact.symbols.fileName) = .ok [] ∧
      last.host.readBytes (topDir.child Artifact.snapshots.fileName) = .ok [0x62] := by
  obtain ⟨_, unknown⟩ := unknown_fails
  obtain ⟨_, locked⟩ := lockedHost_fails
  obtain ⟨before, before'⟩ := lockedHost_reads [0x61]
  obtain ⟨after, after'⟩ := lockedHost_reads []
  exact ⟨⟨_, _, unknown, by cbv, by cbv⟩, _, _, locked, before, before', after, after'⟩

end Samples

end Index
end SymbolIndex
