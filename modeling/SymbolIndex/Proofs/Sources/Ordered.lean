import Mathlib.Data.List.Sort
import SymbolIndex.Proofs.Host.Rewrite
import SymbolIndex.Proofs.Sources.Listed
import SymbolIndex.Proofs.Sources.Steady

/-! The source files that are found, exactly: the files below the root for which their names and the
ignore files decide, each once and in the strict order of their texts. -/
namespace SymbolIndex

namespace Sources
variable {host : Host} {root : Path} {names : List Text} {entry : Entry} {filter : Filter}
  {files others kept : List (List Text)} {list : List (List Text × Entry)}
  {ignored : Option Ignore.Test} {takes : List Text → Entry → Except Failure Bool}

/-- The first path stands before the second by the code points of their texts. -/
def Precedes (one two : List Text) : Prop :=
  Text.CodeLt (Path.relativeText one) (Path.relativeText two)

instance : Std.Irrefl Precedes := ⟨fun _ => Text.codeLt_irrefl _⟩

instance : Std.Antisymm Precedes :=
  ⟨fun _ _ first second => absurd (first.trans second) (Text.codeLt_irrefl _)⟩

/-- Sorting puts different paths in strict order. -/
theorem sortByText_strict (distinct : kept.Nodup)
    (named : ∀ names ∈ kept, ∀ name ∈ names, Path.IsPart name) :
    (sortByText kept).Pairwise Precedes := by
  have sorted : (sortByText kept).Pairwise fun a b =>
      Text.le (Path.relativeText a) (Path.relativeText b) = true :=
    @List.pairwise_mergeSort _ (fun a b => Text.le (Path.relativeText a) (Path.relativeText b))
      (fun _ _ _ => Text.le_trans) (fun _ _ => Text.le_total _ _) kept
  have apart : (sortByText kept).Nodup := (List.mergeSort_perm _ _).nodup_iff.mpr distinct
  refine (sorted.and apart).imp_of_mem fun {a b} memberA memberB ordered => ?_
  refine (Text.le_iff.mp ordered.1).resolve_right fun same => ordered.2 ?_
  exact relativeText_injective (named a (List.mem_mergeSort.mp memberA))
    (named b (List.mem_mergeSort.mp memberB)) same

theorem mem_keepTaken_iff (done : keepTaken takes list = .ok kept) :
    names ∈ kept ↔ ∃ entry, (names, entry) ∈ list ∧ takes names entry = .ok true := by
  refine ⟨mem_keepTaken done, ?_⟩
  induction list generalizing kept with
  | nil => simp
  | cons first more ih =>
    obtain ⟨taken, rest, here, later, rfl⟩ := keepTaken_cons_eq_ok.mp done
    rintro ⟨entry, listed, chosen⟩
    rcases List.mem_cons.mp listed with rfl | among
    · obtain rfl : taken = true := Except.ok.inj (here.symm.trans chosen)
      exact List.mem_cons_self
    · have inside := ih later ⟨entry, among, chosen⟩
      cases taken with
      | true => exact List.mem_cons_of_mem _ inside
      | false => exact inside

theorem mem_find_iff [Ignore.Package] (found : find host root filter = .ok files)
    (tested : ignoreTest host root filter.nestedIgnore = .ok ignored) : names ∈ files ↔
      ∃ entry, (names, entry) ∈ host.descendants root ∧
        filter.takes host root ignored names entry = .ok true := by
  obtain ⟨ignored', kept, tested', taken, rfl⟩ := find_eq_ok.mp found
  obtain rfl := Except.ok.inj (tested.symm.trans tested')
  rw [sortByText, List.mem_mergeSort, mem_keepTaken_iff taken]

/-- What a filter says of a file, going by its names and the ignore files. -/
def Filter.decides (filter : Filter) (root : Path) (ignored : Option Ignore.Test)
    (names : List Text) : Except Failure Bool :=
  if (filter.extensions.map Text.lower).contains (Text.lower (pathBelow root names).suffix) &&
      !filter.skips names then filter.judges root ignored names
  else .ok false

/-- Index files are not source files. -/
def Filter.Foreign (filter : Filter) : Prop :=
  Text.lower ".jsonl".toList ∉ filter.extensions.map Text.lower

/-- Files that are wanted do not have the name of an index file. -/
theorem Filter.Foreign.getLast?_ne (foreign : filter.Foreign)
    (wanted : (filter.extensions.map Text.lower).contains
      (Text.lower (pathBelow root names).suffix) = true) (artifact : Index.Artifact) :
    names.getLast? ≠ some artifact.fileName := by
  intro last
  rw [Host.suffix_output last, List.contains_eq_mem, decide_eq_true_iff] at wanted
  exact foreign wanted

theorem Filter.decides_output (foreign : filter.Foreign) {artifact : Index.Artifact}
    (last : names.getLast? = some artifact.fileName) : filter.decides root ignored names = .ok false := by
  have unwanted : (filter.extensions.map Text.lower).contains
      (Text.lower (pathBelow root names).suffix) = false :=
    Bool.eq_false_iff.mpr fun wanted => foreign.getLast?_ne wanted artifact last
  rw [decides, unwanted]
  rfl

end Sources

namespace Host
variable {host made : Host} {root dir : Path} {top : Location} {names : List Text} {entry : Entry}
  {bytes : List UInt8} {filter : Sources.Filter} {files : List (List Text)}
  {ignored : Option Ignore.Test}
open SymbolIndex.Tree

/-- Entries have names by which a walk can come to them. -/
def Walkable (host : Host) : Prop :=
  ∀ location entry, host.tree.entry? location = some entry → ∀ name ∈ location, IsName name

theorem walkable_of_sound (sound : host.tree.Sound) : host.Walkable :=
  fun _ _ present name member => (sound.isEntryName present name member).isName

/-- A directory whose files and links have names that a file system accepts, but for the files of an
index: the path given for these may have other names. -/
structure Lists (host : Host) (root : Path) (top : Location) : Prop where
  rooted : host.tree.Rooted
  tidy : host.tree.Tidy
  there : host.At root top
  walkable : host.Walkable
  named : ∀ names entry, host.tree.entry? (top ++ names) = some entry → entry ≠ .directory →
    (∀ artifact : Index.Artifact, names.getLast? ≠ some artifact.fileName) →
    ∀ name ∈ names, IsEntryName name

theorem makeDirectories_tidy (tidy : host.tree.Tidy) (dir : Path) :
    (host.makeDirectories dir).1.tree.Tidy := by
  apply @makeDirectories_keeps host dir (fun made => made.tree.Tidy) tidy
  intro before front after _ _ tidy entered
  obtain ⟨location, found, rfl⟩ := addEntry_eq_ok entered
  exact tidy.put (absent_of_walk found).1 .directory

theorem makeDirectories_walkable (walkable : host.Walkable) (dir : Path) :
    (host.makeDirectories dir).1.Walkable := by
  apply @makeDirectories_keeps host dir Walkable walkable
  intro before front after _ usable walkable entered
  obtain ⟨place, found, rfl, there⟩ := at_of_addEntry usable entered
  intro location entry present
  rw [entry?_put (absent_of_walk found).1] at present
  split at present
  · rename_i here
    exact here ▸ there.isName
  · exact walkable location entry present

/-- A sound host where a directory was made. -/
theorem lists_of_makeDirectories (sound : host.tree.Sound)
    (done : host.makeDirectories dir = (made, none)) (there : made.At root top) :
    made.Lists root top := by
  obtain ⟨rooted, added, grows, directories⟩ := makeDirectories_grown sound.rooted done
  have tidy := makeDirectories_tidy sound.tidy dir
  have walkable := makeDirectories_walkable (walkable_of_sound sound) dir
  rw [done] at tidy walkable
  refine ⟨rooted, tidy, there, walkable, fun names entry present solid _ name member => ?_⟩
  rcases grows.tree.mem_added present with old | new
  · exact sound.isEntryName old name (List.mem_append_right top member)
  · exact absurd (directories _ new) solid

/-- The names of the ignore files that count below the root. -/
def ignoreNames (host : Host) (root : Path) : List (List Text) :=
  ((host.descendants root).map Prod.fst).filter fun names =>
    names.getLast? = some Sources.ignoreFileName && host.isFile (Sources.pathBelow root names)

theorem ignoreFiles_nested (host : Host) (root : Path) : Sources.ignoreFiles host root true =
    (Sources.sortByText (host.ignoreNames root)).map (Sources.pathBelow root) := rfl

namespace Lists
variable (lists : host.Lists root top)
include lists

theorem mem_descendants : (names, entry) ∈ host.descendants root ↔
    names ≠ [] ∧ host.tree.entry? (top ++ names) = some entry := by
  rw [lists.there.descendants, mem_below]
  refine and_congr_right fun inside => ?_
  exact (entry?_eq_some lists.tidy.distinct (by simp [inside])).symm

/-- What is below the root is found by its names, links apart. -/
theorem lookup (inside : names ≠ []) (present : host.tree.entry? (top ++ names) = some entry)
    (solid : ∀ target, entry ≠ .link target) :
    host.lookup true (Sources.pathBelow root names) = .ok (.present (top ++ names) entry) :=
  lists.there.lookup_below lists.rooted inside
    (fun name member => lists.walkable _ _ present name (List.mem_append_right top member))
    present solid

theorem isWithin (inside : names ≠ []) (present : host.tree.entry? (top ++ names) = some (.file bytes))
    (other : ∀ artifact : Index.Artifact, names.getLast? ≠ some artifact.fileName) :
    Sources.isWithin host root (Sources.pathBelow root names) = true := by
  have usable := lists.there.usable_append (lists.named names _ present (by simp) other)
  have reached := lists.lookup inside present (by simp)
  rw [Sources.isWithin, resolve_of_lookup lists.rooted (.refl _) rfl usable reached,
    resolve_of_lookup lists.rooted (.refl _) rfl lists.there.usable lists.there.reached]
  simp [Path.below?, List.isPrefixOf_iff_prefix]

/-- Links do not lead files below the root out of it, so that the filter goes by the names. -/
theorem takes_file (foreign : filter.Foreign) (inside : names ≠ [])
    (present : host.tree.entry? (top ++ names) = some (.file bytes)) :
    filter.takes host root ignored names (.file bytes) = filter.decides root ignored names := by
  rw [Sources.Filter.takes_file, Sources.Filter.suits, Sources.Filter.decides]
  cases wanted : (filter.extensions.map Text.lower).contains
      (Text.lower (Sources.pathBelow root names).suffix) with
  | false => rfl
  | true => rw [lists.isWithin inside present (foreign.getLast?_ne wanted), Bool.and_true]

theorem descendants_distinct : ((host.descendants root).map Prod.fst).Nodup := by
  rw [lists.there.descendants]
  exact nodup_below lists.tidy.distinct top

/-- Ignore files further down are in strict order. -/
theorem ignoreNames_strict : (Sources.sortByText (host.ignoreNames root)).Pairwise Sources.Precedes := by
  refine Sources.sortByText_strict (lists.descendants_distinct.filter _) fun names member => ?_
  obtain ⟨listed, kept⟩ := List.mem_filter.mp member
  rw [Bool.and_eq_true, decide_eq_true_eq] at kept
  obtain ⟨⟨names, entry⟩, among, rfl⟩ := List.mem_map.mp listed
  obtain ⟨inside, present⟩ := lists.mem_descendants.mp among
  have solid : entry ≠ .directory := by
    rintro rfl
    have reached := lists.lookup inside present (by simp)
    rw [isFile_of_directory reached] at kept
    cases kept.2
  have other (artifact : Index.Artifact) : names.getLast? ≠ some artifact.fileName := fun last =>
    not_watched_output last (Or.inr kept.1)
  exact fun name inside => (lists.named names entry present solid other name inside).toIsPart

variable [Ignore.Package] (foreign : filter.Foreign) (found : Sources.find host root filter = .ok files)
include foreign found

/-- The files found are those of which the filter decides so. -/
theorem mem_find (tested : Sources.ignoreTest host root filter.nestedIgnore = .ok ignored) :
    names ∈ files ↔ names ≠ [] ∧ (∃ bytes, host.tree.entry? (top ++ names) = some (.file bytes)) ∧
      filter.decides root ignored names = .ok true := by
  rw [Sources.mem_find_iff found tested]
  constructor
  · rintro ⟨entry, listed, taken⟩
    obtain ⟨inside, present⟩ := lists.mem_descendants.mp listed
    cases entry with
    | file bytes => exact ⟨inside, ⟨bytes, present⟩, lists.takes_file foreign inside present ▸ taken⟩
    | _ => cases taken
  · rintro ⟨inside, ⟨bytes, present⟩, decided⟩
    exact ⟨_, lists.mem_descendants.mpr ⟨inside, present⟩,
      (lists.takes_file foreign inside present).trans decided⟩

omit foreign in
theorem ne_nil_of_mem_find (member : names ∈ files) : names ≠ [] := by
  obtain ⟨bytes, listed⟩ := Sources.mem_find found member
  exact (lists.mem_descendants.mp listed).1

theorem named_of_mem_find (member : names ∈ files) :
    (∀ artifact : Index.Artifact, names.getLast? ≠ some artifact.fileName) ∧
      ∀ name ∈ names, IsEntryName name := by
  obtain ⟨ignored, _, tested, _⟩ := Sources.find_eq_ok.mp found
  obtain ⟨_, ⟨_, present⟩, decided⟩ := (lists.mem_find foreign found tested).mp member
  have other (artifact : Index.Artifact) : names.getLast? ≠ some artifact.fileName := by
    intro last
    rw [Sources.Filter.decides_output foreign last] at decided
    cases decided
  exact ⟨other, lists.named names _ present (by simp) other⟩

/-- They are found in strict order. -/
theorem find_strict : files.Pairwise Sources.Precedes := by
  have named (names : List Text) (member : names ∈ files) : ∀ name ∈ names, Path.IsPart name :=
    fun name inside => ((lists.named_of_mem_find foreign found member).2 name inside).toIsPart
  obtain ⟨_, kept, _, taken, rfl⟩ := Sources.find_eq_ok.mp found
  have distinct := lists.descendants_distinct.sublist (Sources.keepTaken_sublist taken)
  exact Sources.sortByText_strict distinct fun names member =>
    named names (List.mem_mergeSort.mpr member)

end Lists

end Host
end SymbolIndex
