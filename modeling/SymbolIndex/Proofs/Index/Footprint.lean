import SymbolIndex.Proofs.Index.Rerun

/-! What a run of the index touches, whether it succeeds or fails: directories on the way to its own,
and the files to which the paths of its two files lead. Where no link stands on these paths, the files
are its own. -/
namespace SymbolIndex

namespace Tree
variable {tree : Tree}

/-- The bytes of the file at a location. -/
def fileAt? (tree : Tree) (location : Location) : Option (List UInt8) :=
  match tree.entry? location with
  | some (.file bytes) => some bytes
  | _ => none

end Tree

namespace Index
open Job SymbolIndex.Tree
variable {host before after last : Host} {world : World} {root base dir : Path} {location : Location}
  {artifact : Artifact} {bytes : List UInt8} {outDir : Option Path} {given : Option Settings}
  {settings : Settings} {P : Host → Prop}

/-! ### Locations that a run touches -/

/-- What a run into a directory does to a location: nothing; or a directory is new there, on the way to
that directory; or one of the two paths of the index leads there and a file is written, where there was
nothing or a file. -/
inductive Touched (host : Host) (dir : Path) (after : Host) (location : Location) : Prop
  | kept (same : after.tree.entry? location = host.tree.entry? location)
  | opened {front : List Text} (absent : host.tree.entry? location = none)
      (onTheWay : front <+: dir.names) (there : after.At ⟨dir.root, front⟩ location)
  | written {artifact : Artifact} {bytes : List UInt8}
      (free : ∀ entry, host.tree.entry? location = some entry → ∃ old, entry = .file old)
      (reached : after.lookup true (dir.child artifact.fileName) = .ok (.present location (.file bytes)))

/-- A run into a directory touches nothing else. -/
structure Touches (host : Host) (dir : Path) (after : Host) : Prop where
  rooted : after.tree.Rooted
  each : ∀ location, Touched host dir after location

theorem Touches.refl (rooted : host.tree.Rooted) (dir : Path) : Touches host dir host :=
  ⟨rooted, fun _ => .kept rfl⟩

theorem Touches.addEntry (touches : Touches host dir before) {front : List Text}
    (onTheWay : front <+: dir.names) (usable : Host.isUsable ⟨dir.root, front⟩ = true)
    (done : before.addEntry ⟨dir.root, front⟩ .directory = .ok after) : Touches host dir after := by
  obtain ⟨place, _, there, grows, rooted⟩ := Host.grows_addEntry touches.rooted usable done
  have larger := grows.tree.extends
  refine ⟨rooted, fun location => ?_⟩
  by_cases here : location = place
  · subst here
    have absent := grows.tree.new (location, .directory) (by simp)
    rcases touches.each location with same | ⟨none, _, _⟩ | ⟨_, reached⟩
    · exact .opened (same.symm.trans absent) onTheWay there
    · exact .opened none onTheWay there
    · rw [entry?_of_walk reached] at absent
      cases absent
  · rcases touches.each location with same | ⟨none, way, old⟩ | ⟨free, reached⟩
    · refine .kept (Eq.trans ?_ same)
      rw [grows.tree.entry?]
      simp [Ne.symm here]
    · exact .opened none way (old.extends larger grows.cwd)
    · have again := walk_extends larger reached
      rw [← grows.cwd] at again
      exact .written free again

theorem Touches.writeBytes (touches : Touches host dir before)
    (done : before.writeBytes (dir.child artifact.fileName) bytes = .ok after) :
    Touches host dir after := by
  obtain ⟨place, writes⟩ := Host.writes_of_writeBytes touches.rooted done
  refine ⟨writes.tree.rooted touches.rooted, fun location => ?_⟩
  by_cases here : location = place
  · subst here
    refine .written (fun entry present => ?_) writes.reached
    rcases touches.each location with same | ⟨none, _, _⟩ | ⟨free, _⟩
    · exact writes.tree.free entry (same.trans present)
    · rw [none] at present
      cases present
    · exact free entry present
  · rcases touches.each location with same | ⟨none, way, old⟩ | ⟨free, reached⟩
    · refine .kept (Eq.trans ?_ same)
      rw [writes.tree.entry?, if_neg here]
    · exact .opened none way (writes.at touches.rooted old)
    · have again := writes.lookup touches.rooted reached
      rw [Found.overwritten, Found.location, if_neg here] at again
      exact .written free again

/-! ### Runs -/

theorem keeps_blocksOf {language : Language} {registered : Text} (files : List (List Text)) :
    Keeps P (blocksOf root language registered files) := by
  induction files with
  | nil => exact keeps_pure _
  | cons names rest ih =>
    rw [blocksOf, readSource]
    refine Keeps.bind (keeps_host_bind fun host => ?_) fun found => ?_
    · cases host.readText (Sources.pathBelow root names) with
      | ok text => exact keeps_pure _
      | error failure => exact (keeps_report _ _ _).bind fun _ => keeps_pure _
    · cases found with
      | none => exact ih
      | some text =>
        refine Keeps.bind ?_ fun snapshot => ih.bind fun blocks => keeps_pure _
        rw [extractReported]
        cases language.snapshot? text with
        | none => exact keeps_throw _
        | some snapshot => exact (keeps_report _ _ _).bind fun _ => keeps_pure _

section Packages
variable [Schema.Package] [Ignore.Package] [Json.Package]

omit [Schema.Package] [Json.Package] in
theorem keeps_collectInto (step : ∀ host, P host → P (host.makeDirectories dir).1) :
    Keeps P (collectInto root dir settings) := by
  refine (keeps_makeDirectories step).bind fun _ => ?_
  refine ((keeps_report _ _ _).bind fun _ => keeps_pure _).bind fun registry => ?_
  refine Keeps.bind ?_ fun language => (keeps_look _).bind fun files => keeps_blocksOf files
  cases registry.create settings.language with
  | ok language => exact keeps_pure _
  | error error => exact keeps_throw _

omit [Schema.Package] [Ignore.Package] in
theorem keeps_writeRecords {path : Path} (values : List Value)
    (step : ∀ bytes before after, P before → before.writeBytes path bytes = .ok after → P after) :
    Keeps P (writeRecords path values) := by
  refine keeps_host_bind fun host => (keeps_change (step _)).bind fun _ => ?_
  cases shortfall? host path values with
  | some failure => exact keeps_throw _
  | none => exact keeps_pure _

omit [Schema.Package] [Ignore.Package] in
theorem keeps_writeBlocks (blocks : List Block)
    (step : ∀ (artifact : Artifact) bytes before after, P before →
      before.writeBytes (dir.child artifact.fileName) bytes = .ok after → P after) :
    Keeps P (writeBlocks dir blocks) := by
  refine (keeps_writeRecords _ (step .symbols)).bind fun _ => ?_
  refine (keeps_writeRecords _ (step .snapshots)).bind fun _ => ?_
  exact (keeps_report _ _ _).bind fun _ => keeps_pure _

/-- What a run with settings and a directory touches, whatever it ends with. -/
theorem touches_generate (rooted : host.tree.Rooted)
    (configured : Configures host root outDir given dir settings) (log : List LogEntry) :
    Touches host dir (outcome (generate root outDir given) ⟨host, log⟩).2.host := by
  rw [outcome_configured configured]
  refine Keeps.bind (P := Touches host dir) (keeps_collectInto fun before touches => ?_)
    (fun blocks => keeps_writeBlocks blocks fun artifact bytes before after touches done =>
      touches.writeBytes done) ⟨host, log⟩ (.refl rooted dir)
  exact Host.makeDirectories_keeps touches fun before front after onTheWay usable touches done =>
    touches.addEntry onTheWay usable done

end Packages

/-! ### Containment -/

/-- The location of a file of the index in a directory. -/
def ownPlace (dir : Path) (artifact : Artifact) : Location := dir.names ++ [artifact.fileName]

/-- All files are as they were but for the two of the index, which are in a directory within the root. -/
structure Contained (host after : Host) (base dir : Path) : Prop where
  outside : ∀ location, ¬base.names <+: location →
    after.tree.fileAt? location = host.tree.fileAt? location
  inside : ∀ location, base.names <+: location →
    after.tree.fileAt? location ≠ host.tree.fileAt? location → ∃ artifact, location = ownPlace dir artifact

theorem fileAt?_of_lookup {path : Path}
    (reached : host.lookup true path = .ok (.present location (.file bytes))) :
    host.tree.fileAt? location = some bytes := by
  rw [fileAt?, entry?_of_walk reached]

/-- A run that touches nothing else is contained exactly if each file that its paths lead to is its own
or has the bytes that it had. -/
theorem Touches.contained_iff (touches : Touches host dir after) (within : base.names <+: dir.names) :
    Contained host after base dir ↔ ∀ (artifact : Artifact) location bytes,
      after.lookup true (dir.child artifact.fileName) = .ok (.present location (.file bytes)) →
        host.tree.fileAt? location = some bytes ∨ ∃ own, location = ownPlace dir own := by
  constructor
  · intro contained artifact location bytes reached
    rw [← fileAt?_of_lookup reached]
    by_cases same : after.tree.fileAt? location = host.tree.fileAt? location
    · exact Or.inl same.symm
    · by_cases inside : base.names <+: location
      · exact Or.inr (contained.inside location inside same)
      · exact absurd (contained.outside location inside) same
  · intro each
    have changed (location : Location)
        (differs : after.tree.fileAt? location ≠ host.tree.fileAt? location) :
        ∃ own, location = ownPlace dir own := by
      rcases touches.each location with same | ⟨none, _, there⟩ | ⟨_, reached⟩
      · exact absurd (by rw [fileAt?, fileAt?, same]) differs
      · obtain ⟨directory, _⟩ := touches.rooted.present_of_walk rfl there.reached
        exact absurd (by rw [fileAt?, fileAt?, none, directory]) differs
      · rw [fileAt?_of_lookup reached] at differs
        exact (each _ _ _ reached).resolve_left differs.symm
    refine ⟨fun location outside => ?_, fun location _ => changed location⟩
    by_cases same : after.tree.fileAt? location = host.tree.fileAt? location
    · exact same
    · obtain ⟨own, rfl⟩ := changed location same
      exact absurd (within.trans (List.prefix_append _ _)) outside

/-- Where no link stands, the paths of the index lead to its own places. -/
theorem Touches.own_of_clear (touches : Touches host dir after) (absolute : dir.root = ['/'])
    (plain : ['.', '.'] ∉ dir.names) (clear : host.tree.Clear (ownPlace dir artifact))
    (reached : after.lookup true (dir.child artifact.fileName) = .ok (.present location (.file bytes))) :
    location = ownPlace dir artifact := by
  have solid (front : List Text) (target : Text) (ahead : front <+: ownPlace dir artifact) :
      after.tree.entry? front ≠ some (.link target) := by
    rcases touches.each front with same | ⟨_, _, there⟩ | ⟨_, led⟩
    · rw [same]
      exact clear front target ahead
    · rw [(touches.rooted.present_of_walk rfl there.reached).1]
      exact nofun
    · rw [entry?_of_walk led]
      exact nofun
  have names : (after.cwd.join (dir.child artifact.fileName)).names = ownPlace dir artifact := by
    rw [Path.join, Path.isAbsolute, Path.child, absolute]
    rfl
  rw [Host.lookup, names] at reached
  refine walk_straight (fun up => ?_) solid reached
  rcases List.mem_append.mp up with before | last
  · exact plain before
  · exact (fileName_isName artifact).1 (List.mem_singleton.mp last).symm

/-! ### A circle on the way -/

/-- A root with a link to itself and a link out of it, to a directory that holds a file. -/
def circleHost (outside : List (Location × Entry)) : Host where
  tree := ⟨(["p".toList], .directory) :: (["p".toList, "loop".toList], .link "loop".toList) ::
    (["p".toList, "out".toList], .link "../outside".toList) :: (["outside".toList], .directory) ::
    outside⟩
  cwd := ⟨['/'], ["p".toList]⟩
  home := ⟨['/'], []⟩
  temporary := ⟨['/'], []⟩

/-- Where the paths of the index lead, outside the root. -/
def circleSymbols : Location := ["outside".toList, "symbols.jsonl".toList]

def circleSnapshots : Location := ["outside".toList, "snapshots.jsonl".toList]

/-- The host with a file there before a run. -/
def circleStart : Host := circleHost [(circleSymbols, .file [0x61])]

/-- Settings that name the link out of the root, by way of the link to itself. -/
def circleSettings : Settings := { Settings.default with
  index := { Settings.default.index with outputDir := "loop/../out".toList } }

def circleRoot : Path := ⟨['/'], ["p".toList]⟩

def circleDir : Path := ⟨['/'], ["p".toList, "out".toList]⟩

section Circle
open scoped Installed

/-- The circle keeps the path from being resolved to its end. -/
theorem circleStart_resolves : circleStart.resolve circleRoot = .ok circleRoot ∧
    Settings.resolveOutputDir circleStart circleRoot circleSettings.index.outputDir = .ok circleDir :=
  ⟨by cbv, by cbv⟩

theorem circleStart_collects : ∃ log,
    outcome (collectInto circleRoot circleDir circleSettings) ⟨circleStart, []⟩ =
      (.ok [], ⟨circleStart, log⟩) :=
  collectInto_eq_ok.mpr ⟨by cbv, rfl, [], by cbv, rfl⟩

/-- Both files are written outside the root, over the one that is there. -/
theorem circleStart_generates :
    (outcome (generate circleRoot none (some circleSettings)) ⟨circleStart, []⟩).2.host =
      circleHost [(circleSymbols, .file []), (circleSnapshots, .file [])] := by
  have usable (artifact : Artifact) : Host.isUsable (circleDir.child artifact.fileName) = true := by
    cases artifact <;> decide
  have there₁ : circleStart.At circleDir ["outside".toList] := ⟨by decide, by cbv⟩
  have there₂ : (circleHost [(circleSymbols, .file [])]).At circleDir ["outside".toList] :=
    ⟨by decide, by cbv⟩
  have present : circleStart.tree.entry? (["outside".toList] ++ [Artifact.symbols.fileName]) =
    some (.file [0x61]) := by decide
  have found₁ := there₁.lookup_file (fileName_isName .symbols) present
  have found₂ := there₂.lookup_absent (fileName_isName .snapshots) (by decide) true
  have all₁ : WritesAll circleStart (circleDir.child Artifact.symbols.fileName) []
      (circleHost [(circleSymbols, .file [])]) :=
    ⟨rfl, Host.fitting_of_unlimited fun _ => rfl,
      Host.writeBytes_eq_ok.mpr ⟨usable _, _, found₁, by simp, rfl, rfl⟩⟩
  have all₂ : WritesAll (circleHost [(circleSymbols, .file [])])
      (circleDir.child Artifact.snapshots.fileName) []
      (circleHost [(circleSymbols, .file []), (circleSnapshots, .file [])]) :=
    ⟨rfl, Host.fitting_of_unlimited fun _ => rfl,
      Host.writeBytes_eq_ok.mpr ⟨usable _, _, found₂, by simp, rfl, rfl⟩⟩
  obtain ⟨log, collected⟩ := circleStart_collects
  have configured : Configures circleStart circleRoot none (some circleSettings) circleDir circleSettings :=
    ⟨Or.inl rfl, Or.inr ⟨rfl, circleStart_resolves.2⟩⟩
  obtain ⟨log', written⟩ : ∃ log', outcome (writeBlocks circleDir []) ⟨circleStart, log⟩ = (.ok _,
      ⟨circleHost [(circleSymbols, .file []), (circleSnapshots, .file [])], log'⟩) :=
    writeBlocks_eq_ok.mpr ⟨⟨_, all₁, all₂⟩, rfl⟩
  rw [outcome_configured configured, bind_eq_ok.mpr ⟨_, _, collected, written⟩]

end Circle

/-- What a run changes, whether it succeeds or fails: directories on the way to its own, and the files
that its two paths lead to. It keeps to its own two files where no link stands on the way to them. -/
theorem generate_footprint [Schema.Package] [Ignore.Package] [Json.Package]
    (rooted : host.tree.Rooted) (log : List LogEntry) :
    (∀ dir settings, ¬Configures host root none given dir settings) ∧
        (outcome (generate root none given) ⟨host, log⟩).2.host = host ∨
      ∃ base dir settings after, host.resolve root = .ok base ∧
        Configures host root none given dir settings ∧ base.names <+: dir.names ∧
        (outcome (generate root none given) ⟨host, log⟩).2.host = after ∧
        Touches host dir after ∧
        (Contained host after base dir ↔ ∀ (artifact : Artifact) location bytes,
          after.lookup true (dir.child artifact.fileName) = .ok (.present location (.file bytes)) →
            host.tree.fileAt? location = some bytes ∨ ∃ own, location = ownPlace dir own) ∧
        ((∀ artifact, host.tree.Clear (ownPlace dir artifact)) → Contained host after base dir) ∧
        ((∃ location count, Leads host.tree []
            (host.cwd.join (base.join (Path.ofText settings.index.outputDir))).names location count) →
          host.tree.Clear dir.names) := by
  by_cases chosen : ∃ dir settings, Configures host root none given dir settings
  · obtain ⟨dir, settings, configured⟩ := chosen
    have resolved := configured.located.resolve_left nofun
    obtain ⟨base, start, target, below⟩ := Settings.resolveOutputDir_eq_ok resolved.2
    obtain ⟨usable, absolute, plain⟩ := Host.resolve_eq_ok target
    have within : base.names <+: dir.names := by
      obtain ⟨names, found⟩ := Option.isSome_iff_exists.mp below
      exact ⟨names, (Path.below?_eq_some.mp found).2.symm⟩
    have touches := touches_generate rooted configured log
    refine Or.inr ⟨base, dir, settings, _, start, configured, within, rfl, touches,
      touches.contained_iff within, fun clear => ?_, fun ⟨location, count, leads⟩ => ?_⟩
    · refine (touches.contained_iff within).mpr fun artifact location bytes reached => Or.inr ?_
      exact ⟨artifact, touches.own_of_clear absolute plain (clear artifact) reached⟩
    · rw [Host.resolve_of_leads leads usable] at target
      split at target
      · cases target
      · rw [← Except.ok.inj target]
        exact (leads.clear clear_nil List.not_mem_nil).1
  · have unconfigured (dir : Path) (settings : Settings) :
        ¬Configures host root none given dir settings := fun configured => chosen ⟨_, _, configured⟩
    refine Or.inl ⟨unconfigured, ?_⟩
    rw [outcome_unconfigured unconfigured]

open scoped Installed in
/-- Where the circle cut the resolution short, the run is not contained. -/
theorem generate_footprint_circle : circleStart.tree.Rooted ∧ ∃ after,
    (outcome (generate circleRoot none (some circleSettings)) ⟨circleStart, []⟩).2.host = after ∧
      Touches circleStart circleDir after ∧ ¬Contained circleStart after circleRoot circleDir := by
  have rooted : circleStart.tree.Rooted :=
    (sound_of_entries (by decide) (by decide) (by decide)).rooted
  obtain ⟨starts, located⟩ := circleStart_resolves
  refine ⟨rooted, ?_⟩
  rcases generate_footprint rooted [] with
    ⟨unconfigured, _⟩ | ⟨base, dir, settings, after, start, configured, _, left, touches, contained, _⟩
  · exact absurd ⟨Or.inl rfl, Or.inr ⟨rfl, located⟩⟩ (unconfigured circleDir circleSettings)
  · obtain rfl : circleSettings = settings :=
      Option.some.inj (configured.loaded.resolve_right fun loaded => nomatch loaded.1)
    obtain rfl : circleDir = dir :=
      Except.ok.inj (located.symm.trans (configured.located.resolve_left nofun).2)
    obtain rfl : circleRoot = base := Except.ok.inj (starts.symm.trans start)
    refine ⟨after, left, touches, fun within => ?_⟩
    obtain rfl := circleStart_generates.symm.trans left
    have there : (circleHost [(circleSymbols, .file []), (circleSnapshots, .file [])]).At circleDir
      ["outside".toList] := ⟨by decide, by cbv⟩
    have present : (circleHost [(circleSymbols, .file []), (circleSnapshots, .file [])]).tree.entry?
      (["outside".toList] ++ [Artifact.symbols.fileName]) = some (.file []) := by decide
    have reached := there.lookup_file (fileName_isName .symbols) present
    rcases contained.mp within .symbols _ _ reached with same | ⟨own, same⟩
    · revert same
      decide
    · revert same
      cases own <;> decide

end Index
end SymbolIndex
