import SymbolIndex.Index.Record
import SymbolIndex.Proofs.Json.RoundTrip
import SymbolIndex.Proofs.Schema.Field
import SymbolIndex.Proofs.Schema.Symbol

/-! Records of an index read back from their written fields, whatever the order of the keys. -/
namespace SymbolIndex
variable {α : Type}
open Json Schema

namespace Schema
variable {entries : List (Text × Value)}

/-- The fields of a canonical table are those of the table, made canonical. -/
theorem canonical_table (distinct : (entries.map Prod.fst).Nodup) :
    ∃ sorted, canonical (.table entries) = .table sorted ∧
      ∀ entry ∈ entries, field? entry.1 sorted = some (canonical entry.2) := by
  have keys : ((sortEntries (canonicalEntries entries)).map Prod.fst).Nodup := by
    rw [((sortEntries_perm _).map Prod.fst).nodup_iff, canonicalEntries_eq, List.map_map]
    exact distinct
  refine ⟨sortEntries (canonicalEntries entries), rfl, fun entry member => ?_⟩
  refine field?_of_mem keys (mem_sortEntries.mpr ?_)
  rw [canonicalEntries_eq]
  exact List.mem_map.mpr ⟨entry, member, rfl⟩

variable [Package] [Schema.Lawful]

/-- A table of texts or of lists is read as the dictionary that it shows, its keys in order. -/
theorem readDictionary_tableOf (read : Value → Checked α) (encode : α → Value)
    (reads : ∀ value, read (canonical (encode value)) = .accepted value) (source : Dictionary α) :
    ∃ sorted, readDictionary read (canonical (Index.tableOf encode source)) = .accepted sorted ∧
      ∀ key, sorted.get? key = source.get? key := by
  have distinct : ((sortEntries source.entries).map Prod.fst).Nodup :=
    ((sortEntries_perm source.entries).map Prod.fst).nodup_iff.mpr source.distinct
  refine ⟨.ofList (sortEntries source.entries), ?_, fun key => ?_⟩
  · have written : canonical (Index.tableOf encode source) =
        .table ((sortEntries source.entries).map fun entry => (entry.1, canonical (encode entry.2))) := by
      rw [Index.tableOf, canonical, canonicalEntries_eq, List.map_map]
      exact congrArg Value.table (map_sortEntries (fun value => canonical (encode value)) _).symm
    rw [written, readDictionary_table, readEntries, List.map_map, sequence_map _ fun entry => entry]
    · simp [Checked.map]
    · intro entry _
      simp [reads, Checked.within, Checked.map]
  · rw [Dictionary.get?, Dictionary.entries_ofList distinct, Dictionary.get?,
      ← Dictionary.find?_key_perm (sortEntries_perm source.entries).symm source.distinct]

end Schema

/-- The numbers of the record have at most 64 bits. -/
structure SymbolRecord.Fits (record : SymbolRecord) : Prop where
  line : record.line < Nat.pow 2 64
  column : record.column < Nat.pow 2 64
  length : record.length < Nat.pow 2 64

namespace Index

theorem natCast_plain {n depth : Nat} (small : n < Nat.pow 2 64) : (Value.integer n).Plain depth := by
  refine .integer ?_ ?_
  · have : (0 : Int) ≤ Nat.pow 2 63 := Int.natCast_nonneg _
    omega
  · exact Int.ofNat_lt.mpr small

theorem version_plain {depth : Nat} : (Value.integer schemaVersion).Plain depth :=
  .integer (by decide) (by decide)

/-- What a symbol is written as. -/
def FileSymbol.entries (record : FileSymbol) : List (Text × Value) :=
  record.symbol.fields ++
    [("schema_version".toList, .integer record.version), ("path".toList, .text record.path)]

theorem FileSymbol.toValue_eq (record : FileSymbol) : record.toValue = .table record.entries := rfl

theorem FileSymbol.entries_distinct (record : FileSymbol) :
    (record.entries.map Prod.fst).Nodup := by
  show ["name".toList, "kind".toList, "line".toList, "column".toList, "length".toList,
    "scope".toList, "parameters".toList, "schema_version".toList, "path".toList].Nodup
  decide

/-- What a snapshot is written as. -/
def FileSnapshot.entries (record : FileSnapshot) : List (Text × Value) :=
  [("schema_version".toList, .integer record.version), ("path".toList, .text record.path),
    ("language".toList, .text record.language), ("symbols".toList, .texts record.symbols),
    ("object_types".toList, tableOf .text record.objectTypes),
    ("class_members".toList, tableOf .texts record.classMembers),
    ("function_parameters".toList, tableOf .text record.functionParameters)]

theorem FileSnapshot.toValue_eq (record : FileSnapshot) : record.toValue = .table record.entries := rfl

theorem FileSnapshot.entries_distinct (record : FileSnapshot) :
    (record.entries.map Prod.fst).Nodup := by
  show ["schema_version".toList, "path".toList, "language".toList, "symbols".toList,
    "object_types".toList, "class_members".toList, "function_parameters".toList].Nodup
  decide

theorem FileSymbol.toValue_plain {record : FileSymbol} (version : record.version = schemaVersion)
    (fits : record.symbol.Fits) : record.toValue.Plain 1 := by
  refine .table record.entries_distinct ?_
  simp only [version, SymbolRecord.fields, List.cons_append, List.nil_append, List.forall_mem_cons]
  exact ⟨.text _, .text _, natCast_plain fits.line, natCast_plain fits.column,
    natCast_plain fits.length, .text _, .text _, version_plain, .text _, List.forall_mem_nil _⟩

theorem texts_plain (items : List Text) : (Value.texts items).Plain 1 := by
  apply Value.Plain.list
  intro value listed
  obtain ⟨item, _, rfl⟩ := List.mem_map.mp listed
  exact .text item

theorem tableOf_plain {encode : α → Value} {depth : Nat} (each : ∀ value, (encode value).Plain depth)
    (source : Dictionary α) : (tableOf encode source).Plain (depth + 1) := by
  refine .table ?_ fun entry listed => ?_
  · rw [List.map_map]
    exact source.distinct
  · obtain ⟨original, _, rfl⟩ := List.mem_map.mp listed
    exact each original.2

theorem FileSnapshot.toValue_plain {record : FileSnapshot}
    (version : record.version = schemaVersion) : record.toValue.Plain 3 := by
  have texts (items : List Text) : (Value.texts items).Plain 2 := (texts_plain items).mono (by decide)
  have table (source : Dictionary Text) : (tableOf .text source).Plain 2 :=
    (tableOf_plain (fun s => (.text s : (Value.text s).Plain 0)) source).mono (by decide)
  refine .table record.entries_distinct ?_
  simp only [version, List.forall_mem_cons]
  exact ⟨version_plain, .text _, .text _, texts _, table _, tableOf_plain texts_plain _, table _,
    List.forall_mem_nil _⟩

theorem canonical_texts (items : List Text) : canonical (.texts items) = .texts items := by
  simp [Value.texts, canonical, canonicalItems_eq, Function.comp_def]

variable [Schema.Package] [Schema.Lawful]

/-- A symbol is read back from its written form. -/
theorem FileSymbol.ofValue_canonical (record : FileSymbol) :
    ofValue (canonical record.toValue) = .ok record := by
  obtain ⟨sorted, written, found⟩ := canonical_table record.entries_distinct
  rw [toValue_eq, written, ofValue, readModel_table]
  obtain ⟨fields, others⟩ := List.forall_mem_append.mp found
  simp only [List.forall_mem_cons] at others
  obtain ⟨hasVersion, hasPath, _⟩ := others
  have scalar : ∀ entry ∈ record.symbol.fields, canonical entry.2 = entry.2 := by
    simp only [SymbolRecord.fields, List.forall_mem_cons]
    exact ⟨rfl, rfl, rfl, rfl, rfl, rfl, rfl, List.forall_mem_nil _⟩
  have symbol : readSymbol sorted = .accepted record.symbol :=
    readSymbol_eq fun entry listed => by rw [fields entry listed, scalar entry listed]
  have version : optionalField "schema_version" schemaVersion readInt sorted =
    .accepted record.version := optionalField_eq hasVersion (readInt_integer _)
  have path : required "path" readText sorted = .accepted record.path :=
    required_eq hasPath (readText_text _)
  rw [read, version, path, symbol]
  rfl

/-- The same in every field; dictionaries are compared by what their keys hold. -/
structure FileSnapshot.SameAs (record other : FileSnapshot) : Prop where
  version : record.version = other.version
  path : record.path = other.path
  language : record.language = other.language
  symbols : record.symbols = other.symbols
  objectTypes : ∀ key, record.objectTypes.get? key = other.objectTypes.get? key
  classMembers : ∀ key, record.classMembers.get? key = other.classMembers.get? key
  functionParameters : ∀ key, record.functionParameters.get? key = other.functionParameters.get? key

/-- A snapshot is read back from its written form but for the order of its dictionaries. -/
theorem FileSnapshot.ofValue_canonical (record : FileSnapshot) :
    ∃ read, ofValue (canonical record.toValue) = .ok read ∧ read.SameAs record := by
  obtain ⟨types, readTypes, sameTypes⟩ :=
    readDictionary_tableOf readText .text readText_text record.objectTypes
  obtain ⟨members, readMembers, sameMembers⟩ :=
    readDictionary_tableOf (readList readText) .texts
      (fun value => by rw [canonical_texts, readList_texts]) record.classMembers
  obtain ⟨parameters, readParameters, sameParameters⟩ :=
    readDictionary_tableOf readText .text readText_text record.functionParameters
  refine ⟨⟨record.version, record.path, record.language, record.symbols, types, members, parameters⟩,
    ?_, ⟨rfl, rfl, rfl, rfl, sameTypes, sameMembers, sameParameters⟩⟩
  obtain ⟨sorted, written, found⟩ := canonical_table record.entries_distinct
  rw [toValue_eq, written, ofValue, readModel_table]
  simp only [entries, List.forall_mem_cons] at found
  obtain ⟨hasVersion, hasPath, hasLanguage, hasSymbols, hasTypes, hasMembers, hasParameters, _⟩ :=
    found
  have version : optionalField "schema_version" schemaVersion readInt sorted =
    .accepted record.version := optionalField_eq hasVersion (readInt_integer _)
  have path : required "path" readText sorted = .accepted record.path :=
    required_eq hasPath (readText_text _)
  have language : required "language" readText sorted = .accepted record.language :=
    required_eq hasLanguage (readText_text _)
  have symbols : required "symbols" (readList readText) sorted = .accepted record.symbols :=
    required_eq hasSymbols (by rw [canonical_texts, readList_texts])
  have objectTypes : required "object_types" (readDictionary readText) sorted = .accepted types :=
    required_eq hasTypes readTypes
  have classMembers : required "class_members" (readDictionary (readList readText)) sorted =
    .accepted members := required_eq hasMembers readMembers
  have functionParameters : required "function_parameters" (readDictionary readText) sorted =
    .accepted parameters := required_eq hasParameters readParameters
  rw [read, version, path, language, symbols, objectTypes, classMembers, functionParameters]
  rfl

end Index
end SymbolIndex
