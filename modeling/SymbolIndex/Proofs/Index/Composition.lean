import SymbolIndex.Proofs.Command.Symbols
import SymbolIndex.Proofs.Index.Again
import SymbolIndex.Proofs.Settings.Load

/-! An index is compositional over the files of a project: it is what each of them yields alone, a
change of one file changes its block, and a run where an index was just written writes it again. -/
namespace SymbolIndex.Index
open Job SymbolIndex.Tree
variable {host made : Host} {last : World} {root dir : Path} {outDir : Option Path}
  {given : Option Settings} {settings : Settings} {summary : Summary} {blocks : List Block}
  {top : Location} {log : List LogEntry}

section Compositional
variable [Schema.Package] [Ignore.Package] [Json.Package]

section Linkless

omit [Schema.Package] [Ignore.Package] in
/-- Writing leaves the root where it was, and what was watched. -/
theorem writeBlocks_kept (rooted : made.tree.Rooted)
    (written : outcome (writeBlocks dir blocks) ⟨made, log⟩ = (.ok summary, last)) :
    (∀ top, last.host.At root top ↔ made.At root top) ∧
      ∀ place, made.Watches root place → last.host.Watches root place := by
  obtain ⟨_, _, between, first, second, writes₁, writes₂⟩ := writeBlocks_writes rooted written
  have rooted₁ := writes₁.tree.rooted rooted
  refine ⟨fun top => ?_, fun place watched => ?_⟩
  · exact (writes₂.rewrites.at_iff rooted₁).trans (writes₁.rewrites.at_iff rooted)
  · exact writes₂.rewrites.watches rooted₁ (writes₁.rewrites.watches rooted watched)

variable (sound : host.tree.Sound) (linkless : host.tree.Linkless)
  (generated : outcome (generate root outDir given) ⟨host, log⟩ = (.ok summary, last))
include sound linkless generated

theorem linkless_of_generate : last.host.tree.Linkless ∧ last.host.Walkable := by
  obtain ⟨dir, settings, made, files, _, surveys, _, written⟩ := generate_spec generated
  obtain ⟨rooted, _⟩ := Host.makeDirectories_grown sound.rooted surveys.created
  obtain ⟨adds, _⟩ := Host.makeDirectories_spec surveys.created
  obtain ⟨_, _, _, _, _, writes₁, writes₂⟩ := writeBlocks_writes rooted written
  have linkless' : last.host.tree.Linkless := (adds.sameLinks.trans
    (writes₁.tree.sameLinks.trans writes₂.tree.sameLinks)).linkless linkless
  obtain ⟨_, _, wrote, _⟩ :=
    written_of_writeBlocks surveys written sound fun _ _ target _ => linkless' _ target
  have walkable := Host.makeDirectories_walkable (Host.walkable_of_sound sound) dir
  rw [surveys.created] at walkable
  exact ⟨linkless', wrote.walkable walkable⟩

/-- In a project without links, only a settings file or an ignore file is watched. -/
theorem not_watches_of_generate {place : Location} (there : host.At root top)
    (other : ∀ names, top ++ names = place → ¬Host.IsWatched names) : ¬last.host.Watches root place := by
  obtain ⟨linkless', walkable⟩ := linkless_of_generate sound linkless generated
  obtain ⟨dir, settings, made, files, _, surveys, _, written⟩ := generate_spec generated
  obtain ⟨rooted, _⟩ := Host.makeDirectories_grown sound.rooted surveys.created
  obtain ⟨adds, _⟩ := Host.makeDirectories_spec surveys.created
  have there' := ((writeBlocks_kept rooted written).1 top).mpr (there.extends adds.keeps adds.cwd)
  exact Host.not_watches_of_linkless there' walkable linkless' other

/-- In a project without links, a run may be made again. -/
theorem repeatable_of_linkless (directory : host.isDirectory root = true)
    (configured : Configures host root outDir given dir settings) :
    Repeatable host last.host root dir given := by
  obtain ⟨top, there⟩ := Host.isDirectory_iff.mp directory
  obtain ⟨linkless', _⟩ := linkless_of_generate sound linkless generated
  refine ⟨directory, fun _ top target _ present => absurd present (linkless _ target),
    fun _ _ target _ => linkless' _ target, ?_⟩
  rintro artifact place ⟨found, reached, rfl⟩
  obtain ⟨dir', settings', made, files, _, surveys, _, written⟩ := generate_spec generated
  obtain ⟨rfl, rfl⟩ := configured.unique surveys.configured
  obtain ⟨rooted, _⟩ := Host.makeDirectories_grown sound.rooted surveys.created
  obtain ⟨location, _, wrote, _⟩ :=
    written_of_writeBlocks surveys written sound fun _ _ target _ => linkless' _ target
  have ends := (wrote.at_after rooted wrote.there).location_child (fileName_isName artifact)
    (fun target => linkless' _ target) reached
  rw [ends]
  refine not_watches_of_generate sound linkless generated there fun names here watched => ?_
  have inside : names ≠ [] := by
    rintro rfl
    rcases watched with same | same <;> cases same
  exact Host.not_watched_output (Host.getLast?_output inside here) watched

end Linkless

/-- An index is compositional over the files of a project: it holds what each source yields alone, a
file with new bytes, to which no settings and no ignore file leads, changes its own block only, and a run
where the index was just written changes nothing. -/
theorem generate_compositional (sound : host.tree.Sound)
    (generated : outcome (generate root outDir given) ⟨host, log⟩ = (.ok summary, last)) :
    ∃ dir settings made sources, Gathers host root outDir given dir settings made sources ∧
      Reports last.host dir (sourceBlocks settings.language sources) summary ∧
      (∀ (w : Workspace) n old, w.origin? n = some (.extractor .python old) →
        w.snapshots n (sources.map Prod.snd) = sources.map fun source => extract source.2) ∧
      (∀ host' log' summary' last' place bytes, host'.tree.Sound →
        host.Rewrites host' place bytes → ¬host'.Watches root place →
        outcome (generate root outDir given) ⟨host', log'⟩ = (.ok summary', last') →
        ¬last'.host.Watches root place →
        ∃ made' sources', Gathers host' root outDir given dir settings made' sources' ∧
          Reports last'.host dir (sourceBlocks settings.language sources') summary' ∧
          ApartFrom last.host root place (sourceBlocks settings.language sources)
            (sourceBlocks settings.language sources')) ∧
      (Repeatable host last.host root dir given → ∀ log', ∃ again,
        outcome (generate root outDir given) ⟨last.host, log'⟩ = (.ok summary, again) ∧
          again.host = last.host) := by
  obtain ⟨dir, settings, made, files, _, surveys, supported, written⟩ := generate_spec generated
  obtain ⟨rooted, _⟩ := Host.makeDirectories_grown sound.rooted surveys.created
  refine ⟨dir, settings, made, _, surveys.gathers sound, ?_, fun w n old known => ?_, ?_,
    fun repeatable log' => generate_again sound surveys supported written repeatable log'⟩
  · rw [sourceBlocks_readText?]
    exact reports_of_writeBlocks rooted written
  · rw [Workspace.snapshots_eq known, List.map_map]
    rfl
  · intro host' log' summary' last' place bytes sound' rewrites unwatched generated' unwatched'
    obtain ⟨dir', settings', made', files', _, surveys', _, written'⟩ := generate_spec generated'
    obtain ⟨rfl, rfl, both⟩ := surveys.rewritten sound sound' rewrites unwatched surveys'
    obtain ⟨rooted', _⟩ := Host.makeDirectories_grown sound'.rooted surveys'.created
    refine ⟨made', _, surveys'.gathers sound', ?_, ?_⟩
    · rw [sourceBlocks_readText?]
      exact reports_of_writeBlocks rooted' written'
    · rw [sourceBlocks_readText?, sourceBlocks_readText?]
      exact surveys.apartFrom sound sound' rewrites both
        (fun watched => unwatched' ((writeBlocks_kept rooted' written').2 place watched)) surveys'
        (writeBlocks_kept rooted written).1 _

end Compositional

section Samples
open scoped Installed

/-- A host with these entries, that works at its root. -/
def hostOf (entries : List (Location × Entry)) : Host where
  tree := ⟨entries⟩
  cwd := ⟨['/'], []⟩
  home := ⟨['/'], []⟩
  temporary := ⟨['/'], []⟩

def topRoot : Path := ⟨['/'], []⟩

/-- The directory for the index that the default settings name there. -/
def topDir : Path := ⟨['/'], [".symlex".toList]⟩

def indexEntry : Location × Entry := ([".symlex".toList], .directory)

def firstSource : Location × Entry := (["a.py".toList], .file (Utf8.encode "x = 1".toList))

def secondSource : Location × Entry := (["b.py".toList], .file (Utf8.encode "y = 2".toList))

/-- A run without arguments goes by the default settings, where no others are found. -/
theorem surveys_default {files : List (List Text)} (loaded : Settings.load host root = .ok .default)
    (resolved : Settings.resolveOutputDir host root Settings.default.index.outputDir = .ok dir)
    (created : host.makeDirectories dir = (made, none))
    (found : Sources.find made root (sourceFilter .default .standard dir root) = .ok files) :
    Surveys host root none none dir .default made files :=
  ⟨⟨Or.inr ⟨rfl, loaded⟩, Or.inr ⟨rfl, resolved⟩⟩, created, found⟩

theorem load_hostOf {entries : List (Location × Entry)}
    (unset : (hostOf entries).lookup true (topRoot.child Settings.fileName) =
      .ok (.absent [Settings.fileName])) :
    Settings.load (hostOf entries) topRoot = .ok .default := Command.load_default unset

theorem solo_surveys : Surveys (hostOf [firstSource]) topRoot none none topDir .default
    (hostOf [firstSource, indexEntry]) [["a.py".toList]] :=
  surveys_default (load_hostOf (by cbv)) (by cbv) (by cbv) (by cbv)

theorem pair_surveys : Surveys (hostOf [firstSource, secondSource]) topRoot none none topDir .default
    (hostOf [firstSource, secondSource, indexEntry]) [["a.py".toList], ["b.py".toList]] :=
  surveys_default (load_hostOf (by cbv)) (by cbv) (by cbv) (by cbv)

/-- A host with one more entry, which is a file. -/
theorem rewrites_concat (entries : List (Location × Entry)) (location : Location) (bytes : List UInt8)
    (inside : location ≠ []) (above : (hostOf entries).tree.entry? location.dropLast = some .directory)
    (absent : (hostOf entries).tree.entry? location = none) :
    (hostOf entries).Rewrites (hostOf (entries ++ [(location, .file bytes)])) location bytes := by
  have same : (hostOf entries).tree.put location (.file bytes) =
      (hostOf (entries ++ [(location, .file bytes)])).tree := by
    rw [Tree.put, absent]
    rfl
  refine ⟨⟨inside, above, fun entry present => ?_, fun other => ?_⟩, rfl, rfl⟩
  · rw [absent] at present
    cases present
  · rw [← same, entry?_put inside]

theorem generate_compositional_pair : ∃ summary last summary' last' dir blocks blocks' again,
    outcome (generate topRoot none none) ⟨hostOf [firstSource], []⟩ = (.ok summary, last) ∧
    outcome (generate topRoot none none) ⟨hostOf [firstSource, secondSource], []⟩ =
      (.ok summary', last') ∧
    Reports last.host dir blocks summary ∧ Reports last'.host dir blocks' summary' ∧
    ApartFrom last.host topRoot ["b.py".toList] blocks blocks' ∧
    outcome (generate topRoot none none) ⟨last.host, []⟩ = (.ok summary, again) ∧
    again.host = last.host := by
  have sound : (hostOf [firstSource]).tree.Sound :=
    sound_of_entries (by decide) (by decide) (by decide)
  have sound' : (hostOf [firstSource, secondSource]).tree.Sound :=
    sound_of_entries (by decide) (by decide) (by decide)
  have linkless : (hostOf [firstSource]).tree.Linkless := linkless_of_entries (by decide)
  have linkless' : (hostOf [firstSource, secondSource]).tree.Linkless :=
    linkless_of_entries (by decide)
  have there : (hostOf [firstSource, indexEntry]).At topDir [".symlex".toList] :=
    ⟨by decide, by cbv⟩
  have there' : (hostOf [firstSource, secondSource, indexEntry]).At topDir [".symlex".toList] :=
    ⟨by decide, by cbv⟩
  have rooted : (hostOf [firstSource, indexEntry]).tree.Rooted :=
    (sound_of_entries (by decide) (by decide) (by decide)).rooted
  have rooted' : (hostOf [firstSource, secondSource, indexEntry]).tree.Rooted :=
    (sound_of_entries (by decide) (by decide) (by decide)).rooted
  obtain ⟨summary, last, generated, _⟩ := solo_surveys.generate rfl rooted there (by decide)
    (Installed.takes_plain _ _) []
  obtain ⟨summary', last', generated', _⟩ := pair_surveys.generate rfl rooted' there' (by decide)
    (Installed.takes_plain _ _) []
  have other : ∀ names, [] ++ names = ["b.py".toList] → ¬Host.IsWatched names := by
    rintro names rfl (same | same) <;> revert same <;> decide
  have unwatched := Host.not_watches_of_linkless (Host.at_top _) (Host.walkable_of_sound sound')
    linkless' other
  have unwatched' := not_watches_of_generate sound' linkless' generated' (Host.at_top _) other
  obtain ⟨dir, settings, _, _, gathers, reports, _, changed, repeated⟩ :=
    generate_compositional sound generated
  obtain ⟨_, _, _, reports', apart⟩ := changed _ _ _ _ _ _ sound'
    (rewrites_concat [firstSource] ["b.py".toList] _ (by simp) rfl (by decide)) unwatched generated'
    unwatched'
  obtain ⟨again, ran, same⟩ := repeated
    (repeatable_of_linkless sound linkless generated (by cbv) gathers.configured) []
  exact ⟨summary, last, summary', last', dir, _, _, again, generated, generated', reports, reports',
    apart, ran, same⟩

/-- A project whose ignore file is a link to where nothing is. -/
def ignoreLink : Location × Entry := ([".gitignore".toList], .link "rules".toList)

def ignoreRules : Location × Entry := (["rules".toList], .file (Utf8.encode "a.py\n".toList))

/-- Without the rules the source file is found, and with them it is not. -/
theorem unruled_surveys : Surveys (hostOf [firstSource, ignoreLink]) topRoot none none topDir .default
    (hostOf [firstSource, ignoreLink, indexEntry]) [["a.py".toList]] :=
  surveys_default (load_hostOf (by cbv)) (by cbv) (by cbv) (by cbv)

theorem ruled_surveys : Surveys (hostOf [firstSource, ignoreLink, ignoreRules]) topRoot none none topDir
    .default (hostOf [firstSource, ignoreLink, ignoreRules, indexEntry]) [] :=
  surveys_default (load_hostOf (by cbv)) (by cbv) (by cbv) (by cbv)

/-- A project whose settings file is a link that leads somewhere once its index has a directory. -/
def settingsLink : Location × Entry := (["symlex.toml".toList], .link ".symlex/../conf".toList)

def brokenSettings : Location × Entry := (["conf".toList], .file (Utf8.encode "x".toList))

/-- The link leads nowhere as long as there is no directory for the index. -/
theorem unset_surveys : Surveys (hostOf [firstSource, settingsLink, brokenSettings]) topRoot none none
    topDir .default (hostOf [firstSource, settingsLink, brokenSettings, indexEntry])
    [["a.py".toList]] := by
  have lost : (hostOf [firstSource, settingsLink, brokenSettings]).lookup true
    (topRoot.child Settings.fileName) = .error .notFound := by cbv
  exact surveys_default (Host.Dangling.load (Or.inl lost)) (by cbv) (by cbv) (by cbv)

theorem set_lookup : (hostOf [firstSource, settingsLink, brokenSettings, indexEntry]).lookup true
    (topRoot.child Settings.fileName) = .ok (.present ["conf".toList] (.file (Utf8.encode "x".toList))) := by
  cbv

theorem load_broken {host : Host} (plain : host.platform = .plain)
    (reached : host.lookup true (topRoot.child Settings.fileName) =
      .ok (.present ["conf".toList] (.file (Utf8.encode "x".toList)))) :
    Settings.load host topRoot =
      .error (.config (.invalidToml (topRoot.child Settings.fileName))) := by
  have usable : Host.isUsable (topRoot.child Settings.fileName) = true := by decide
  have read : host.readBytes (topRoot.child Settings.fileName) = .ok (Utf8.encode "x".toList) := by
    rw [Host.readBytes, if_pos usable, reached]
  have broken : Toml.read "x".toList = .error .malformed := by cbv
  rw [Settings.load_of_readBytes read, Settings.ofBytes, Utf8.decode_encode]
  dsimp only
  rw [plain, broken]
  rfl

/-- The file of symbols of that host does not hold its symbols. -/
theorem linkedBlock_bytes : symbolBytes [Command.linkedBlock] ≠
    encodeLines [Command.linkedBlock.snapshot.toValue] := by
  intro same
  have own : ∀ block ∈ [Command.linkedBlock], ∀ record ∈ block.symbols,
      record.path = block.snapshot.path := by
    intro block listed record member
    obtain rfl := List.mem_singleton.mp listed
    obtain ⟨symbol, _, rfl⟩ := List.mem_map.mp member
    rfl
  exact Command.linkedBlock_ne same (Command.agrees_of_block own rfl)

/-- Links break it: one among the files of the index, one to the ignore rules, and one to the settings. -/
theorem links_break_composition :
    (∃ summary last, outcome (generate topRoot none none) ⟨Command.linkedHost, []⟩ = (.ok summary, last) ∧
      Gathers Command.linkedHost topRoot none none Command.linkedDir .default Command.linkedHost
        [(["a.py".toList], "x = 1".toList)] ∧
      last.host.readBytes (Command.linkedDir.child Artifact.symbols.fileName) ≠ .ok (symbolBytes
        (sourceBlocks Settings.default.language [(["a.py".toList], "x = 1".toList)]))) ∧
    (∃ summary last summary' last' sources sources' bytes,
      (hostOf [firstSource, ignoreLink]).Rewrites (hostOf [firstSource, ignoreLink, ignoreRules])
        ["rules".toList] bytes ∧
      outcome (generate topRoot none none) ⟨hostOf [firstSource, ignoreLink], []⟩ =
        (.ok summary, last) ∧
      outcome (generate topRoot none none) ⟨hostOf [firstSource, ignoreLink, ignoreRules], []⟩ =
        (.ok summary', last') ∧
      Gathers (hostOf [firstSource, ignoreLink]) topRoot none none topDir .default
        (hostOf [firstSource, ignoreLink, indexEntry]) sources ∧
      Gathers (hostOf [firstSource, ignoreLink, ignoreRules]) topRoot none none topDir .default
        (hostOf [firstSource, ignoreLink, ignoreRules, indexEntry]) sources' ∧
      ¬ApartFrom last.host topRoot ["rules".toList]
        (sourceBlocks Settings.default.language sources) (sourceBlocks Settings.default.language sources')) ∧
    ∃ summary last, outcome (generate topRoot none none)
        ⟨hostOf [firstSource, settingsLink, brokenSettings], []⟩ = (.ok summary, last) ∧
      ∀ log summary' again,
        outcome (generate topRoot none none) ⟨last.host, log⟩ ≠ (.ok summary', again) := by
  refine ⟨?_, ?_, ?_⟩
  · obtain ⟨summary, last, generated, _, read⟩ := Command.linkedHost_generates
    rw [run_eq_outcome] at generated
    have gathers := Command.linkedHost_surveys.gathers Command.linkedHost_sound
    rw [List.filterMap_cons, readText?, Command.linkedHost_reads] at gathers
    refine ⟨summary, last, generated, gathers, ?_⟩
    rw [read]
    exact fun same => linkedBlock_bytes (Except.ok.inj same).symm
  · have sound : (hostOf [firstSource, ignoreLink]).tree.Sound :=
      sound_of_entries (by decide) (by decide) (by decide)
    have sound' : (hostOf [firstSource, ignoreLink, ignoreRules]).tree.Sound :=
      sound_of_entries (by decide) (by decide) (by decide)
    have rooted : (hostOf [firstSource, ignoreLink, indexEntry]).tree.Rooted :=
      (sound_of_entries (by decide) (by decide) (by decide)).rooted
    have rooted' : (hostOf [firstSource, ignoreLink, ignoreRules, indexEntry]).tree.Rooted :=
      (sound_of_entries (by decide) (by decide) (by decide)).rooted
    obtain ⟨summary, last, generated, _, larger, cwd, _⟩ :=
      unruled_surveys.generate rfl rooted ⟨by decide, by cbv⟩ (by decide)
        (Installed.takes_plain _ _) []
    obtain ⟨summary', last', generated', _⟩ :=
      ruled_surveys.generate rfl rooted' ⟨by decide, by cbv⟩ (by decide)
        (Installed.takes_plain _ _) []
    refine ⟨summary, last, summary', last', _, _, _,
      rewrites_concat [firstSource, ignoreLink] ["rules".toList] _ (by simp) rfl (by decide), generated,
      generated', unruled_surveys.gathers sound,
      ruled_surveys.gathers sound', fun apart => ?_⟩
    have there : last.host.At topRoot [] := (Host.at_top _).extends larger cwd
    have same := apart.inside [] ["rules".toList] there rfl
    have read : (hostOf [firstSource, ignoreLink, indexEntry]).readText
      (Sources.pathBelow topRoot ["a.py".toList]) = .ok "x = 1".toList := by cbv
    rw [List.filterMap_cons, readText?, read] at same
    have other : Path.relativeText ["a.py".toList] ≠ Path.relativeText ["rules".toList] := by decide
    exact other (by simpa [sourceBlocks, blockOf] using same)
  · have rooted : (hostOf [firstSource, settingsLink, brokenSettings, indexEntry]).tree.Rooted :=
      (sound_of_entries (by decide) (by decide) (by decide)).rooted
    obtain ⟨summary, last, generated, _, larger, cwd, plain⟩ :=
      unset_surveys.generate rfl rooted ⟨by decide, by cbv⟩ (by decide)
        (Installed.takes_plain _ _) []
    refine ⟨summary, last, generated, fun log summary' again generated' => ?_⟩
    have reached := walk_extends larger set_lookup
    have broken := @load_broken last.host plain (by rw [Host.lookup, cwd]; exact reached)
    obtain ⟨_, _, _, _, _, surveys, _⟩ := generate_spec generated'
    rcases surveys.configured.loaded with given | ⟨_, loaded⟩
    · cases given
    · cases broken.symm.trans loaded

end Samples

end SymbolIndex.Index
