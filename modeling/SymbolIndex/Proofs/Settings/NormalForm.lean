import SymbolIndex.Proofs.Schema.Field
import SymbolIndex.Proofs.Schema.Symbol
import SymbolIndex.Proofs.Workspace.Templates
import SymbolIndex.Settings.Load

/-! Settings that were accepted are in normal form: written out and read again they are the same.
What was accepted has no keys of its own, and no template in it has a blank keyword, nor does a
provider that is made from it. -/
namespace SymbolIndex
open Schema

/-- A table without keys other than these. -/
def Value.KeysAmong (names : List String) (value : Value) : Prop :=
  ∃ entries, value = .table entries ∧ ∀ entry ∈ entries, entry.1 ∈ names.map String.toList

namespace Settings
variable {value : Value} {settings : Settings} {entries : List (Text × Value)}

/-- No key is there that the schema does not name, on none of its levels. -/
structure Declared (value : Value) : Prop where
  whole : value.KeysAmong ["language", "completion", "index"]
  completion : ∀ part, value.get? "completion".toList = some part →
    part.KeysAmong ["builtins_file", "templates", "replace_default_templates"]
  index : ∀ part, value.get? "index".toList = some part →
    part.KeysAmong ["output_dir", "include", "exclude", "nested_gitignore"]

/-- No template has a blank keyword. -/
def KeywordsShow (templates : Dictionary Text) : Prop :=
  ∀ keyword ∈ templates.keys, Text.allBlank keyword = false

/-! ### Reading -/

section Reading
variable [Schema.Package]

theorem readCompletionSettings_eq_accepted {completion : CompletionSettings} :
    readCompletionSettings entries = .accepted completion ↔
      onlyFields ["builtins_file", "templates", "replace_default_templates"] entries = .accepted () ∧
      optionalField "builtins_file" none readTextOrNull entries = .accepted completion.builtinsFile ∧
      optionalField "templates" .empty readTemplates entries = .accepted completion.templates ∧
      optionalField "replace_default_templates" false readBool entries =
        .accepted completion.replaceDefaultTemplates := by
  rw [readCompletionSettings]
  simp only [Checked.seq_eq_accepted, Checked.map_eq_accepted]
  constructor
  · rintro ⟨_, ⟨_, ⟨_, ⟨⟨⟩, only, rfl⟩, file, reads, rfl⟩, templates, more, rfl⟩, replace, last, rfl⟩
    exact ⟨only, reads, more, last⟩
  · rintro ⟨only, file, templates, replace⟩
    exact ⟨_, ⟨_, ⟨_, ⟨(), only, rfl⟩, _, file, rfl⟩, _, templates, rfl⟩, _, replace, rfl⟩

theorem readIndexSettings_eq_accepted {index : IndexSettings} :
    readIndexSettings entries = .accepted index ↔
      onlyFields ["output_dir", "include", "exclude", "nested_gitignore"] entries = .accepted () ∧
      optionalField "output_dir" IndexSettings.defaultOutputDir readText entries =
        .accepted index.outputDir ∧
      optionalField "include" [] (readList readText) entries = .accepted index.includePatterns ∧
      optionalField "exclude" [] (readList readText) entries = .accepted index.excludePatterns ∧
      optionalField "nested_gitignore" false readBool entries = .accepted index.nestedIgnore := by
  rw [readIndexSettings]
  simp only [Checked.seq_eq_accepted, Checked.map_eq_accepted]
  constructor
  · rintro ⟨_, ⟨_, ⟨_, ⟨_, ⟨⟨⟩, only, rfl⟩, _, dir, rfl⟩, _, included, rfl⟩, _, excluded, rfl⟩, _,
      nested, rfl⟩
    exact ⟨only, dir, included, excluded, nested⟩
  · rintro ⟨only, dir, included, excluded, nested⟩
    exact ⟨_, ⟨_, ⟨_, ⟨_, ⟨(), only, rfl⟩, _, dir, rfl⟩, _, included, rfl⟩, _, excluded, rfl⟩, _,
      nested, rfl⟩

theorem readSettings_eq_accepted : readSettings entries = .accepted settings ↔
    onlyFields ["language", "completion", "index"] entries = .accepted () ∧
    optionalField "language" Settings.default.language readText entries =
      .accepted settings.language ∧
    optionalField "completion" .default (readModel readCompletionSettings) entries =
      .accepted settings.completion ∧
    optionalField "index" .default (readModel readIndexSettings) entries =
      .accepted settings.index := by
  rw [readSettings]
  simp only [Checked.seq_eq_accepted, Checked.map_eq_accepted]
  constructor
  · rintro ⟨_, ⟨_, ⟨_, ⟨⟨⟩, only, rfl⟩, _, language, rfl⟩, _, completion, rfl⟩, _, index, rfl⟩
    exact ⟨only, language, completion, index⟩
  · rintro ⟨only, language, completion, index⟩
    exact ⟨_, ⟨_, ⟨_, ⟨(), only, rfl⟩, _, language, rfl⟩, _, completion, rfl⟩, _, index, rfl⟩

variable [Schema.Lawful]

theorem ofValue_eq_ok : Settings.ofValue value = .ok settings ↔
    ∃ entries, value = .table entries ∧ readSettings entries = .accepted settings := by
  rw [Settings.ofValue, Checked.toExcept_eq_ok, readModel_eq_accepted]

/-- Templates that were accepted have no blank keyword. -/
theorem keywordsShow_of_readTemplates {templates : Dictionary Text}
    (accepted : readTemplates value = .accepted templates) : KeywordsShow templates := by
  cases value with
  | null =>
    obtain rfl := Checked.accepted.inj accepted
    exact fun keyword none => absurd none List.not_mem_nil
  | table entries =>
    rw [readTemplates] at accepted
    split at accepted
    · cases accepted
    · rename_i shown
      obtain ⟨_, ⟨⟩, keys⟩ := keys_of_readDictionary accepted
      intro keyword member
      rw [keys, mem_unique] at member
      obtain ⟨entry, listed, rfl⟩ := List.mem_map.mp member
      simpa using List.find?_eq_none.mp shown entry listed
  | _ =>
    obtain ⟨_, ⟨⟩, _⟩ := keys_of_readDictionary accepted

/-- Templates without blank keywords are read back from the table that shows them. -/
theorem readTemplates_table {templates : Dictionary Text} (shows : KeywordsShow templates) :
    readTemplates (.table (templates.entries.map fun entry => (entry.1, .text entry.2))) =
      .accepted templates := by
  have shown : (templates.entries.map fun entry => (entry.1, Value.text entry.2)).find?
      (Text.allBlank ·.1) = none := by
    refine List.find?_eq_none.mpr fun entry member => ?_
    obtain ⟨template, listed, rfl⟩ := List.mem_map.mp member
    simp [shows template.1 (List.mem_map_of_mem listed)]
  rw [readTemplates, shown]
  dsimp only
  rw [readDictionary_table, readEntries, List.map_map, sequence_map _ fun entry => entry]
  · rw [List.map_id']
    exact congrArg Checked.accepted (Dictionary.ofList_entries templates)
  · intro entry _
    simp only [Function.comp_apply, readText_text]
    rfl

/-! ### Writing -/

/-- Settings without blank keywords are read back from the document that shows them. -/
theorem ofValue_toValue (shows : KeywordsShow settings.completion.templates) :
    Settings.ofValue settings.toValue = .ok settings := by
  refine ofValue_eq_ok.mpr ⟨_, rfl, readSettings_eq_accepted.mpr ⟨?_, ?_, ?_, ?_⟩⟩
  · exact onlyFields_of_keys rfl
  · exact optionalField_eq rfl (readText_text _)
  · refine optionalField_eq rfl (Eq.trans (readModel_table _) <|
      readCompletionSettings_eq_accepted.mpr ⟨?_, ?_, ?_, ?_⟩)
    · exact onlyFields_of_keys rfl
    · refine optionalField_eq rfl ?_
      cases settings.completion.builtinsFile with
      | none => rfl
      | some file =>
        change (readText (.text file)).map some = _
        rw [readText_text]
        rfl
    · exact optionalField_eq rfl (readTemplates_table shows)
    · exact optionalField_eq rfl (readBool_boolean _)
  · refine optionalField_eq rfl (Eq.trans (readModel_table _) <|
      readIndexSettings_eq_accepted.mpr ⟨?_, ?_, ?_, ?_, ?_⟩)
    · exact onlyFields_of_keys rfl
    · exact optionalField_eq rfl (readText_text _)
    · exact optionalField_eq rfl (readList_texts _)
    · exact optionalField_eq rfl (readList_texts _)
    · exact optionalField_eq rfl (readBool_boolean _)

/-! ### What is accepted -/

theorem declared_of_accepted (accepted : Settings.ofValue value = .ok settings) : Declared value := by
  obtain ⟨entries, rfl, read⟩ := ofValue_eq_ok.mp accepted
  obtain ⟨only, _, completion, index⟩ := readSettings_eq_accepted.mp read
  refine ⟨⟨entries, rfl, onlyFields_eq_accepted.mp only⟩, fun part found => ?_, fun part found => ?_⟩
  · have found : field? "completion".toList entries = some part := found
    rw [optionalField_eq_accepted, found] at completion
    obtain ⟨fields, rfl, more⟩ := readModel_eq_accepted.mp completion
    exact ⟨fields, rfl, onlyFields_eq_accepted.mp (readCompletionSettings_eq_accepted.mp more).1⟩
  · have found : field? "index".toList entries = some part := found
    rw [optionalField_eq_accepted, found] at index
    obtain ⟨fields, rfl, more⟩ := readModel_eq_accepted.mp index
    exact ⟨fields, rfl, onlyFields_eq_accepted.mp (readIndexSettings_eq_accepted.mp more).1⟩

omit [Schema.Package] [Schema.Lawful] in
theorem keywordsShow_empty : KeywordsShow .empty := fun _ none => absurd none List.not_mem_nil

theorem keywordsShow_of_accepted (accepted : Settings.ofValue value = .ok settings) :
    KeywordsShow settings.completion.templates := by
  obtain ⟨entries, rfl, read⟩ := ofValue_eq_ok.mp accepted
  obtain ⟨_, _, completion, _⟩ := readSettings_eq_accepted.mp read
  rw [optionalField_eq_accepted] at completion
  split at completion
  · obtain ⟨fields, _, more⟩ := readModel_eq_accepted.mp completion
    have templates := (readCompletionSettings_eq_accepted.mp more).2.2.1
    rw [optionalField_eq_accepted] at templates
    split at templates
    · exact keywordsShow_of_readTemplates templates
    · exact templates ▸ keywordsShow_empty
  · exact completion ▸ keywordsShow_empty

end Reading

/-! ### Providers -/

/-- The templates of a configuration are those of the settings, besides the default ones unless they
are replaced. -/
theorem templates_completionConfig {host : Host} {root : Path} {completion : CompletionSettings}
    {config : Completion.Config} (built : completionConfig host root completion = .ok config) :
    config.templates = (if completion.replaceDefaultTemplates then .empty
      else Completion.defaultTemplates).putAll completion.templates.entries := by
  simp only [completionConfig] at built
  generalize (if completion.replaceDefaultTemplates then Dictionary.empty
    else Completion.defaultTemplates) = defaults at built ⊢
  split at built
  · split at built
    · rw [← Except.ok.inj built]
    · cases built
  · rw [← Except.ok.inj built]

theorem keywordsShow_defaultTemplates : KeywordsShow Completion.defaultTemplates := by
  unfold KeywordsShow
  decide

theorem keywordsShow_completionConfig {host : Host} {root : Path} {completion : CompletionSettings}
    {config : Completion.Config} (shows : KeywordsShow completion.templates)
    (built : completionConfig host root completion = .ok config) : KeywordsShow config.templates := by
  intro keyword member
  rw [templates_completionConfig built, Dictionary.keys_putAll, List.mem_append] at member
  rcases member with default | own
  · split at default
    · exact absurd default List.not_mem_nil
    · exact keywordsShow_defaultTemplates keyword default
  · exact shows keyword (mem_unique.mp (List.mem_filter.mp own).1)

/-- Settings that were accepted are read back from the document that shows them. What was accepted has no
key that the schema does not name and no template with a blank keyword, nor has a provider that is made
from it, unless the host registers one. -/
theorem validated_settings_normal [Schema.Package] [Schema.Lawful]
    (accepted : Settings.ofValue value = .ok settings) :
    Settings.ofValue settings.toValue = .ok settings ∧ Declared value ∧
    KeywordsShow settings.completion.templates ∧
    ∀ host root config, completionConfig host root settings.completion = .ok config →
      ∀ allowed w log n following, Workspace.Run allowed w log → Workspace.MadeFrom log n config →
        w.providers[n]? = some following →
        ∀ keyword, following.provider.isTemplate keyword = true → Text.allBlank keyword = false ∨
          ∃ v expansion, (v, Workspace.Action.addTemplate n keyword expansion) ∈ log := by
  have shows := keywordsShow_of_accepted accepted
  refine ⟨ofValue_toValue shows, declared_of_accepted accepted, shows, ?_⟩
  intro host root config built allowed w log n following run made present keyword template
  exact (run.keyword_origin made present template).imp_left
    (keywordsShow_completionConfig shows built keyword)

/-- A document that spells its truth values in other ways, and leaves most of the fields out. -/
def laxDocument : Value :=
  .table [("completion".toList, .table [
      ("builtins_file".toList, .null),
      ("templates".toList, .table [("with".toList, .text "with ".toList)]),
      ("replace_default_templates".toList, .text "Yes".toList)]),
    ("index".toList, .table [("nested_gitignore".toList, .integer 1)])]

/-- The settings that the document amounts to. -/
def laxSettings : Settings where
  language := "python".toList
  completion := ⟨none, .ofList [("with".toList, "with ".toList)], true⟩
  index := ⟨".symlex".toList, [], [], true⟩

/-- What completion starts from with these settings. -/
def laxConfig : Completion.Config :=
  ⟨Vocabulary.builtinSymbols, .ofList [("with".toList, "with ".toList)]⟩

open scoped Installed in
theorem validated_settings_normal_lax :
    Settings.ofValue laxDocument = .ok laxSettings ∧
    Settings.ofValue laxSettings.toValue = .ok laxSettings ∧
    ∃ following, (Workspace.empty.addProvider laxConfig none).providers[0]? = some following ∧
      following.provider.isTemplate "with".toList = true ∧
      following.provider.isTemplate " ".toList = false := by
  have accepted : Settings.ofValue laxDocument = .ok laxSettings := by rfl
  obtain ⟨normal, _, _, provides⟩ := validated_settings_normal accepted
  have run : Workspace.Run (fun _ _ => True) (Workspace.empty.addProvider laxConfig none)
      [(.empty, .addProvider laxConfig none)] :=
    @Workspace.Run.step _ _ _ (.addProvider laxConfig none) .start (by rintro _ ⟨⟩) trivial
  have made : Workspace.MadeFrom [(.empty, .addProvider laxConfig none)] 0 laxConfig := by
    intro v made goal listed _
    obtain ⟨⟩ := List.mem_singleton.mp listed
    rfl
  refine ⟨accepted, normal, _, rfl, rfl, Bool.eq_false_iff.mpr fun template => ?_⟩
  have host : Host := ⟨⟨[]⟩, ⟨['/'], []⟩, ⟨['/'], []⟩, ⟨['/'], []⟩, .plain⟩
  rcases provides host ⟨['/'], []⟩ laxConfig rfl _ _ _ 0 _ run made rfl _ template with
    shown | ⟨v, expansion, listed⟩
  · exact absurd shown (by decide)
  · simp at listed

end Settings
end SymbolIndex
