import SymbolIndex.Proofs.Index.Gathered
import SymbolIndex.Proofs.Registry
import SymbolIndex.Proofs.Verify.Determinism

/-! The source files that an index leaves out for the place of its directory. A run goes by the first
name on the way from the root to its directory: it leaves out all that lies in that top directory, which
is more than its own directory where that lies further down. -/
namespace SymbolIndex

namespace Registry
variable {registry : Registry} {name extension : Text}

/-- In a registry of lower-case extensions those of a language are the ones it is looked up by. -/
theorem mem_extensionsOf_iff (lowered : ∀ key ∈ registry.owners.keys, Text.lower key = key) :
    Text.lower extension ∈ (registry.extensionsOf name).map Text.lower ↔
      registry.languageFor extension = .ok name := by
  rw [languageFor_eq_ok, ← mem_extensionsOf, List.mem_map]
  have kept {key : Text} (listed : key ∈ registry.extensionsOf name) : Text.lower key = key :=
    lowered key (Dictionary.mem_keys.mpr ⟨name, mem_extensionsOf.mp listed⟩)
  constructor
  · rintro ⟨key, listed, same⟩
    rwa [← same, kept listed]
  · intro listed
    exact ⟨_, listed, kept listed⟩

theorem lower_standard : ∀ key ∈ Registry.standard.owners.keys, Text.lower key = key := by decide

end Registry

/-- A place lies in the directory that a path leads to. -/
def Host.Under (host : Host) (dir : Path) (place : Location) : Prop :=
  ∃ location, host.At dir location ∧ location <+: place

theorem Host.At.under_iff {host : Host} {dir : Path} {location place : Location}
    (there : host.At dir location) : host.Under dir place ↔ location <+: place :=
  ⟨fun ⟨_, other, above⟩ => there.unique other ▸ above, fun above => ⟨location, there, above⟩⟩

namespace Index
open Job SymbolIndex.Tree
variable {host made after : Host} {root dir : Path} {outDir : Option Path} {given : Option Settings}
  {settings : Settings} {summary : Summary} {last : World} {names : List Text}
  {files : List (List Text)} {blocks : List Block} {top : Location} {registered : Text}
  {log : List LogEntry}

section Recorded
variable [Schema.Package] [Json.Package]

/-- The snapshots in the directory have a record of the file. -/
def Recorded (after : Host) (dir : Path) (names : List Text) : Prop :=
  ∃ bytes, after.readBytes (dir.child Artifact.snapshots.fileName) = .ok bytes ∧
    ∃ line ∈ byteLines bytes, ∃ value record, lineValue? line = some value ∧
      FileSnapshot.ofValue value = .ok record ∧ record.path = Path.relativeText names

omit [Schema.Package] [Json.Package] in
theorem readBlock?_version {block : Block} (read : readBlock? host root registered names = some block) :
    block.snapshot.version = schemaVersion := by
  obtain ⟨text, _, rfl⟩ := readBlock?_eq_some read
  rfl

/-- A run left a record of what one of its blocks is about. -/
theorem Reports.recorded_iff [Schema.Lawful] [Json.Lawful] (reports : Reports after dir blocks summary)
    (current : ∀ block ∈ blocks, block.snapshot.version = schemaVersion) :
    Recorded after dir names ↔ ∃ block ∈ blocks, block.snapshot.path = Path.relativeText names := by
  have holds := holds_snapshotBytes current (reports.spelled .snapshots)
  constructor
  · rintro ⟨bytes, read, line, listed, value, record, parsed, valid, same⟩
    obtain rfl := Except.ok.inj (reports.snapshots.symm.trans read)
    obtain ⟨i, found⟩ := List.mem_iff_getElem?.mp listed
    have bound : i < (blocks.map (·.snapshot)).length :=
      holds.count ▸ (List.getElem?_eq_some_iff.mp found).1
    obtain ⟨line', value', record', found', parsed', valid', agrees⟩ :=
      holds.each i _ (List.getElem?_eq_getElem bound)
    obtain rfl := Option.some.inj (found.symm.trans found')
    obtain rfl := Option.some.inj (parsed.symm.trans parsed')
    obtain rfl := Except.ok.inj (valid.symm.trans valid')
    obtain ⟨block, member, stored⟩ := List.mem_map.mp (List.getElem_mem bound)
    exact ⟨block, member, by rw [stored, ← agrees.path, same]⟩
  · rintro ⟨block, member, same⟩
    obtain ⟨i, found⟩ := List.mem_iff_getElem?.mp (List.mem_map_of_mem (f := (·.snapshot)) member)
    obtain ⟨line, value, record, listed, parsed, valid, agrees⟩ := holds.each i _ found
    exact ⟨_, reports.snapshots, line, List.mem_of_getElem? listed, value, record, parsed, valid,
      agrees.path.trans same⟩

end Recorded

section Eligible

variable [Ignore.Package]

/-- An ignore file that counts for a run ignores the file. -/
def Ignored (made : Host) (root : Path) (settings : Settings) (names : List Text) : Prop :=
  ∃ test, Sources.ignoreTest made root settings.index.nestedIgnore = .ok (some test) ∧
    test (Sources.pathBelow root names).text = .ok true

/-- A file that an index is to cover, wherever its own directory is: a text below the root that is
reached without links, has an extension of the language, is not ignored, and passes the patterns. -/
structure Eligible (host made : Host) (root : Path) (settings : Settings) (top : Location)
    (names : List Text) : Prop where
  there : host.At root top
  file : ∃ text, host.tree.entry? (top ++ names) = some (.file (Utf8.encode text))
  language : Registry.standard.languageFor (Sources.pathBelow root names).suffix =
    .ok settings.language
  unignored : ¬Ignored made root settings names
  included : settings.index.includePatterns = [] ∨
    Glob.matchesAny (Path.relativeText names) settings.index.includePatterns = true
  unexcluded : Glob.matchesAny (Path.relativeText names) settings.index.excludePatterns = false

/-- The top directory of the file is the one on the way from the root to the directory. -/
def OnTheWay (root dir : Path) (names : List Text) : Prop :=
  ∃ first inner, dir.below? root = some (first :: inner) ∧ names.head? = some first

omit [Ignore.Package] in
theorem skips_iff (settings : Settings) (named : ∀ name ∈ names, name ≠ []) :
    (sourceFilter settings .standard dir root).skips names = true ↔ OnTheWay root dir names := by
  rw [Sources.Filter.skips, sourceFilter, outputDirName]
  cases below : dir.below? root with
  | none => simp [OnTheWay, below]
  | some rest =>
    cases rest with
    | nil => simp [OnTheWay, below]
    | cons first inner =>
      have shown (same : names.head? = some first) : first ≠ [] :=
        named first (List.mem_of_mem_head? same)
      simpa [OnTheWay, below] using shown

variable (eligible : Eligible host made root settings top names) (sound : host.tree.Sound)
include eligible sound

theorem Eligible.inside : names ≠ [] := by
  rintro rfl
  obtain ⟨text, present⟩ := eligible.file
  rw [List.append_nil] at present
  obtain ⟨directory, _⟩ := sound.rooted.present_of_walk rfl eligible.there.reached
  cases present.symm.trans directory

theorem Eligible.named : ∀ name ∈ names, IsEntryName name := by
  obtain ⟨text, present⟩ := eligible.file
  exact fun name member => sound.isEntryName present name (List.mem_append_right top member)

variable [Schema.Package] (surveys : Surveys host root outDir given dir settings made files)
include surveys

/-- The file is still there once the directory is made, and it can be read. -/
theorem Eligible.kept : made.At root top ∧ ∃ text,
    made.tree.entry? (top ++ names) = some (.file (Utf8.encode text)) ∧
      made.readText (Sources.pathBelow root names) = .ok (Text.normaliseNewlines text) := by
  obtain ⟨text, present⟩ := eligible.file
  obtain ⟨rooted, added, grows, _⟩ := Host.makeDirectories_grown sound.rooted surveys.created
  have there := eligible.there.extends grows.tree.extends grows.cwd
  have present' := grows.tree.extends _ _ present
  have named := eligible.named sound
  have reached := there.lookup_below rooted (eligible.inside sound)
    (fun name member => (named name member).isName) present' (by simp)
  refine ⟨there, text, present', Host.readText_eq_ok.mpr ⟨_, text, ?_, Utf8.decode_encode text, rfl⟩⟩
  rw [Host.readBytes, if_pos (there.usable_append named), reached]

omit [Schema.Package] sound surveys in
/-- Neither ignore files nor patterns refuse the file. -/
theorem Eligible.judged {ignored : Option Ignore.Test}
    (tested : Sources.ignoreTest made root settings.index.nestedIgnore = .ok ignored)
    (answers : ∃ judged, (sourceFilter settings .standard dir root).judges root ignored names =
      .ok judged) :
    (sourceFilter settings .standard dir root).judges root ignored names = .ok true := by
  have passes : (sourceFilter settings .standard dir root).takesName names = true := by
    rw [Sources.Filter.takesName, Bool.and_eq_true, Bool.or_eq_true, List.isEmpty_iff]
    exact ⟨eligible.included, by simp [sourceFilter, eligible.unexcluded]⟩
  cases ignored with
  | none => rw [Sources.Filter.judges, passes]
  | some test =>
    obtain ⟨judged, answer⟩ := answers
    rw [Sources.Filter.judges, passes] at answer ⊢
    cases asked : test (Sources.pathBelow root names).text with
    | error failure =>
      rw [asked] at answer
      cases answer
    | ok skipped =>
      cases skipped with
      | true => exact absurd ⟨test, tested, asked⟩ eligible.unignored
      | false => rfl

/-- A run finds the file unless its top directory is the one on the way to that of the index. -/
theorem Eligible.mem_iff : names ∈ files ↔ ¬OnTheWay root dir names := by
  obtain ⟨there, text, present, _⟩ := eligible.kept sound surveys
  have lists := surveys.lists sound there
  have foreign := foreign_sourceFilter settings dir root
  have inside := eligible.inside sound
  obtain ⟨ignored, kept, tested, taken, _⟩ := Sources.find_eq_ok.mp surveys.found
  have wanted : ((sourceFilter settings .standard dir root).extensions.map Text.lower).contains
      (Text.lower (Sources.pathBelow root names).suffix) = true := by
    rw [List.contains_eq_mem, decide_eq_true_iff]
    exact (Registry.mem_extensionsOf_iff Registry.lower_standard).mpr eligible.language
  rw [lists.mem_find foreign surveys.found tested, ← skips_iff settings fun name member =>
    (eligible.named sound name member).nonempty, Bool.not_eq_true]
  -- The run went through, so the filter has an answer for this file too.
  have answers := Sources.keepTaken_answers taken (lists.mem_descendants.mpr ⟨inside, present⟩)
  rw [lists.takes_file foreign inside present] at answers
  cases skipped : (sourceFilter settings .standard dir root).skips names with
  | true => simp [Sources.Filter.decides, skipped]
  | false =>
    rw [Sources.Filter.decides, wanted, skipped] at answers ⊢
    have judged := eligible.judged tested answers
    exact iff_of_true ⟨inside, ⟨_, present⟩, judged⟩ rfl

/-- The file has a block of its own exactly if a run finds it. -/
theorem Eligible.block_iff (registered : Text) :
    (∃ block ∈ files.filterMap (readBlock? made root registered),
      block.snapshot.path = Path.relativeText names) ↔ names ∈ files := by
  obtain ⟨there, text, present, read⟩ := eligible.kept sound surveys
  constructor
  · rintro ⟨block, member, same⟩
    obtain ⟨other, listed, done⟩ := List.mem_filterMap.mp member
    obtain ⟨_, _, rfl⟩ := readBlock?_eq_some done
    obtain ⟨_, parts⟩ := surveys.distinct sound listed
    have named := fun name member => (eligible.named sound name member).toIsPart
    exact Sources.relativeText_injective (parts other listed) named same ▸ listed
  · intro listed
    have block : readBlock? made root registered names =
        some (blockOf (Path.relativeText names) registered (extract (Text.normaliseNewlines text))) := by
      rw [readBlock?, read]
    exact ⟨_, List.mem_filterMap.mpr ⟨names, listed, block⟩, rfl⟩

end Eligible

/-- What lies in the directory itself lies in the top directory on the way there. -/
theorem onTheWay_of_prefix {first : Text} {inner : List Text}
    (below : dir.below? root = some (first :: inner)) (within : first :: inner <+: names) :
    OnTheWay root dir names := by
  obtain ⟨rest, rfl⟩ := within
  exact ⟨first, inner, below, rfl⟩

/-- A run leaves out the files of the top directory on the way to its own directory, and records all
others that are eligible. Leaving out its own directory alone would come to the same for a file only
if the file does not lie beside that directory in the top one. -/
theorem generate_records [Schema.Package] [Schema.Lawful] [Ignore.Package] [Json.Package] [Json.Lawful]
    (sound : host.tree.Sound)
    (generated : (generate root outDir given).run host = (.ok summary, last)) :
    ∃ dir settings made, Configures host root outDir given dir settings ∧
      host.makeDirectories dir = (made, none) ∧
      ∀ top names, Eligible host made root settings top names →
        (Recorded last.host dir names ↔ ¬OnTheWay root dir names) ∧
        ∀ first inner, dir.below? root = some (first :: inner) →
          made.At dir (top ++ first :: inner) →
          ((Recorded last.host dir names ↔ ¬made.Under dir (top ++ names)) ↔
            (OnTheWay root dir names → made.Under dir (top ++ names))) ∧
          (inner = [] → (Recorded last.host dir names ↔ ¬made.Under dir (top ++ names))) := by
  obtain ⟨dir, settings, made, files, log, surveys, _, written⟩ := generate_spec generated
  obtain ⟨rooted, _⟩ := Host.makeDirectories_grown sound.rooted surveys.created
  have reports := reports_of_writeBlocks rooted written
  refine ⟨dir, settings, made, surveys.configured, surveys.created, fun top names eligible => ?_⟩
  have recorded : Recorded last.host dir names ↔ ¬OnTheWay root dir names := by
    rw [reports.recorded_iff, eligible.block_iff sound surveys, eligible.mem_iff sound surveys]
    intro block member
    obtain ⟨_, _, read⟩ := List.mem_filterMap.mp member
    exact readBlock?_version read
  refine ⟨recorded, fun first inner below there => ?_⟩
  have under : made.Under dir (top ++ names) ↔ first :: inner <+: names := by
    rw [there.under_iff, List.prefix_append_right_inj]
  have way : made.Under dir (top ++ names) → OnTheWay root dir names :=
    fun lies => onTheWay_of_prefix below (under.mp lies)
  have agrees : (Recorded last.host dir names ↔ ¬made.Under dir (top ++ names)) ↔
      (OnTheWay root dir names → made.Under dir (top ++ names)) := by
    rw [recorded, not_iff_not]
    exact ⟨Iff.mp, fun inside => ⟨inside, way⟩⟩
  refine ⟨agrees, ?_⟩
  rintro rfl
  refine agrees.mpr fun ⟨name, rest, below', same⟩ => under.mpr ?_
  obtain ⟨rfl, _⟩ := List.cons.inj (Option.some.inj (below.symm.trans below'))
  obtain ⟨more, rfl⟩ := List.head?_eq_some_iff.mp same
  exact List.prefix_append [first] more

section Beside
open scoped Installed

/-- The project once its index has a directory. -/
def nestedMade : Host :=
  { nestedHost with tree := nestedHost.tree.put nestedDir.names .directory }

/-- The source file beside the directory of the index. -/
def besideNames : List Text := ["pkg".toList, "a.py".toList]

theorem nestedHost_makes : nestedHost.makeDirectories nestedDir = (nestedMade, none) := by cbv

theorem nestedHost_configures : Configures nestedHost nestedRoot none none nestedDir nestedSettings :=
  ⟨.inr ⟨rfl, by cbv⟩, .inr ⟨rfl, by cbv⟩⟩

theorem besideNames_eligible :
    Eligible nestedHost nestedMade nestedRoot nestedSettings ["proj".toList] besideNames where
  there := nestedHost_project.there
  file := ⟨"x = 1\n".toList, by cbv⟩
  language := by cbv
  unignored := by
    have tested : Sources.ignoreTest nestedMade nestedRoot nestedSettings.index.nestedIgnore =
      .ok none := by cbv
    rintro ⟨test, other, _⟩
    cases tested.symm.trans other
  included := .inl rfl
  unexcluded := rfl

theorem besideNames_notUnder : ¬nestedMade.Under nestedDir (["proj".toList] ++ besideNames) := by
  have there : nestedMade.At nestedDir nestedDir.names := ⟨by decide, by cbv⟩
  rw [there.under_iff]
  decide

theorem generate_records_beside : ∃ summary last,
    (generate nestedRoot none none).run nestedHost = (.ok summary, last) ∧
      Eligible nestedHost nestedMade nestedRoot nestedSettings ["proj".toList] besideNames ∧
      ¬nestedMade.Under nestedDir (["proj".toList] ++ besideNames) ∧
      ¬Recorded last.host nestedDir besideNames := by
  have surveys : Surveys nestedHost nestedRoot none none nestedDir nestedSettings nestedMade [] :=
    ⟨nestedHost_configures, nestedHost_makes, by cbv⟩
  have rooted := (Host.makeDirectories_grown nestedHost_project.sound.rooted nestedHost_makes).1
  have there : nestedMade.At nestedDir nestedDir.names := ⟨by decide, by cbv⟩
  obtain ⟨summary, last, generated, _⟩ := surveys.generate rfl rooted there (by cbv)
    (Installed.takes_plain _ _) []
  obtain ⟨dir, settings, made, configured, created, records⟩ :=
    generate_records nestedHost_project.sound generated
  obtain ⟨rfl, rfl⟩ := nestedHost_configures.unique configured
  obtain ⟨rfl, _⟩ := Prod.mk.inj (nestedHost_makes.symm.trans created)
  have way : OnTheWay nestedRoot nestedDir besideNames :=
    ⟨"pkg".toList, ["out".toList], by decide, rfl⟩
  exact ⟨summary, last, generated, besideNames_eligible, besideNames_notUnder, fun recorded =>
    (records _ _ besideNames_eligible).1.mp recorded way⟩

end Beside

end Index
end SymbolIndex
