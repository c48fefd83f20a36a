import SymbolIndex.Proofs.Sources.Ordered

/-! Two hosts that differ in one file to which no settings file and no ignore file leads: both have
the same settings, the same ignore files count, and elsewhere the same source files are found. -/
namespace SymbolIndex.Host
variable {before after : Host} {root : Path} {top place other : Location} {bytes : List UInt8}
  {names : List Text} {filter : Sources.Filter} {files files' : List (List Text)}
  {ignored : Option Ignore.Test} {artifact : Index.Artifact}
open SymbolIndex.Tree

/-- The settings file of a project leads to a location, or one of its ignore files does: the one of
its root or one of those further down. -/
def Watches (host : Host) (root : Path) (place : Location) : Prop :=
  ∃ names, IsWatched names ∧ (names.length = 1 ∨ names ∈ (host.descendants root).map Prod.fst) ∧
    host.LeadsTo (Sources.pathBelow root names) place

/-- Without links, settings files and ignore files lead to themselves. -/
theorem not_watches_of_linkless (there : before.At root top) (walkable : before.Walkable)
    (linkless : before.tree.Linkless) (other : ∀ names, top ++ names = place → ¬IsWatched names) :
    ¬before.Watches root place := by
  rintro ⟨names, watched, listed, found, reached, rfl⟩
  have inside : names ≠ [] := by
    rcases watched with rfl | last
    · simp
    · rintro rfl
      cases last
  have plain : ['.', '.'] ∉ names := by
    intro up
    rcases listed with single | below
    · obtain ⟨name, rfl⟩ := List.length_eq_one_iff.mp single
      obtain rfl := List.mem_singleton.mp up
      revert watched
      rintro (same | same) <;> revert same <;> decide
    · obtain ⟨⟨names, entry⟩, member, rfl⟩ := List.mem_map.mp below
      rw [there.descendants] at member
      obtain ⟨_, present⟩ := Option.isSome_iff_exists.mp (entry?_of_mem_below member)
      exact (walkable _ _ present _ (List.mem_append_right top up)).1 rfl
  obtain ⟨left, onward⟩ := walk_append there.reached
  obtain ⟨first, rest, rfl⟩ := List.exists_cons_of_ne_nil inside
  rw [lookup, Sources.pathBelow, Path.join_append, onward] at reached
  exact other _ (walk_straight plain (fun _ target _ => linkless _ target) reached).symm watched

section Rewrites
variable (rewrites : before.Rewrites after place bytes)
include rewrites

theorem Rewrites.entry?_of_ne (apart : top ++ names ≠ place) :
    after.tree.entry? (top ++ names) = before.tree.entry? (top ++ names) := by
  rw [rewrites.tree.entry?, if_neg apart]

theorem Rewrites.entry?_place : after.tree.entry? place = some (.file bytes) := by
  rw [rewrites.tree.entry?, if_pos rfl]

variable (rooted : before.tree.Rooted)
include rooted

theorem Rewrites.mem_descendants (listed : names ∈ (before.descendants root).map Prod.fst) :
    names ∈ (after.descendants root).map Prod.fst := by
  obtain ⟨⟨names, entry⟩, member, rfl⟩ := List.mem_map.mp listed
  obtain ⟨top, there⟩ := at_of_mem_descendants member
  rw [there.descendants] at member
  obtain ⟨inside, _⟩ := mem_below.mp member
  have present := entry?_of_mem_below member
  have kept : (after.tree.entry? (top ++ names)).isSome := by
    by_cases here : top ++ names = place
    · rw [here, rewrites.entry?_place]
      rfl
    · rwa [rewrites.entry?_of_ne here]
  obtain ⟨entry', present'⟩ := Option.isSome_iff_exists.mp kept
  refine List.mem_map.mpr ⟨(names, entry'), ?_, rfl⟩
  rw [((rewrites.at_iff rooted).mpr there).descendants]
  exact mem_below.mpr ⟨inside, mem_entries (by simp [inside]) present'⟩

/-- What is watched stays so. -/
theorem Rewrites.watches (watched : before.Watches root other) : after.Watches root other := by
  obtain ⟨names, kind, listed, leads⟩ := watched
  exact ⟨names, kind, listed.imp_right (rewrites.mem_descendants rooted),
    (rewrites.leadsTo_iff rooted).mpr leads⟩

variable (unwatched : ¬after.Watches root place)
include unwatched

/-- A watched name directly in the root does not lead to the file. -/
theorem Rewrites.child_apart {name : Text} (watched : IsWatched [name]) :
    ¬before.LeadsTo (root.child name) place := fun leads =>
  unwatched ⟨[name], watched, Or.inl rfl, (rewrites.leadsTo_iff rooted).mpr leads⟩

theorem Rewrites.load [Schema.Package] : Settings.load after root = Settings.load before root := by
  have apart : ¬before.LeadsTo (root.child Settings.fileName) place :=
    rewrites.child_apart rooted unwatched (Or.inl rfl)
  have asked := rewrites.probe_eq rooted (root.child Settings.fileName)
  have known := rewrites.isFile_apart rooted apart
  cases file : before.isFile (root.child Settings.fileName) with
  | false => simp only [Settings.load, asked, known, file, Bool.false_eq_true, if_false]
  | true =>
    have read := rewrites.readBytes_apart rooted apart file
    simp only [Settings.load, asked, known, read, rewrites.platform]

variable (lists : before.Lists root top) (lists' : after.Lists root top)
include lists lists'

omit rooted lists in
/-- No ignore file below the root is the file. -/
theorem Rewrites.ne_place (inside : names ≠ []) (ignore : names.getLast? = some Sources.ignoreFileName) :
    top ++ names ≠ place := by
  intro here
  have present : after.tree.entry? (top ++ names) = some (.file bytes) :=
    here ▸ rewrites.entry?_place
  have listed := lists'.mem_descendants.mpr ⟨inside, present⟩
  exact unwatched ⟨names, Or.inr ignore, Or.inr (List.mem_map.mpr ⟨_, listed, rfl⟩), _,
    lists'.lookup inside present (by simp), here⟩

/-- The same ignore files count. -/
theorem Rewrites.ignoreFiles (nested : Bool) :
    Sources.ignoreFiles after root nested = Sources.ignoreFiles before root nested := by
  cases nested with
  | false =>
    have apart : ¬before.LeadsTo (root.child Sources.ignoreFileName) place :=
      rewrites.child_apart rooted unwatched (Or.inr rfl)
    simp only [Sources.ignoreFiles, rewrites.isFile_apart rooted apart, Bool.false_eq_true, if_false]
  | true =>
    have same (names : List Text) (ignore : names.getLast? = some Sources.ignoreFileName)
        (entry : Entry) : (names, entry) ∈ after.descendants root ↔
          (names, entry) ∈ before.descendants root := by
      rw [lists'.mem_descendants, lists.mem_descendants]
      refine and_congr_right fun inside => ?_
      rw [rewrites.entry?_of_ne (rewrites.ne_place unwatched lists' inside ignore)]
    have file (names : List Text) (ignore : names.getLast? = some Sources.ignoreFileName)
        (listed : names ∈ (after.descendants root).map Prod.fst) :
        after.isFile (Sources.pathBelow root names) = before.isFile (Sources.pathBelow root names) := by
      refine rewrites.isFile_apart rooted fun leads => unwatched ?_
      exact ⟨names, Or.inr ignore, Or.inr listed, (rewrites.leadsTo_iff rooted).mpr leads⟩
    rw [ignoreFiles_nested, ignoreFiles_nested]
    congr 1
    refine lists'.ignoreNames_strict.eq_of_mem_iff lists.ignoreNames_strict fun names => ?_
    rw [Sources.sortByText, Sources.sortByText, List.mem_mergeSort, List.mem_mergeSort, ignoreNames,
      ignoreNames, List.mem_filter, List.mem_filter]
    by_cases ignore : names.getLast? = some Sources.ignoreFileName
    · have listed : names ∈ (after.descendants root).map Prod.fst ↔
          names ∈ (before.descendants root).map Prod.fst := by
        simp only [List.mem_map, Prod.exists, exists_and_right, exists_eq_right, same names ignore]
      rw [← listed]
      exact and_congr_right fun member => by rw [file names ignore member]
    · simp [ignore]

variable [Ignore.Package]

/-- Ignore files say the same. -/
theorem Rewrites.ignoreTest (nested : Bool) :
    Sources.ignoreTest after root nested = Sources.ignoreTest before root nested := by
  have same : ∀ path ∈ Sources.ignoreFiles before root nested,
      after.readBytes path = before.readBytes path := by
    intro path listed
    refine rewrites.readBytes_apart rooted (fun leads => unwatched ?_)
      (Sources.isFile_of_mem_ignoreFiles listed)
    have leads' := (rewrites.leadsTo_iff rooted).mpr leads
    cases nested with
    | false =>
      simp only [Sources.ignoreFiles, Bool.false_eq_true, if_false] at listed
      split at listed
      · rw [List.mem_singleton.mp listed] at leads'
        exact ⟨[Sources.ignoreFileName], Or.inr rfl, Or.inl rfl, leads'⟩
      · cases listed
    | true =>
      obtain ⟨names, sorted, rfl⟩ := List.mem_map.mp (ignoreFiles_nested before root ▸ listed)
      obtain ⟨among, kept⟩ := List.mem_filter.mp (List.mem_mergeSort.mp sorted)
      rw [Bool.and_eq_true, decide_eq_true_eq] at kept
      exact ⟨names, Or.inr kept.1, Or.inr (rewrites.mem_descendants rooted among), leads'⟩
  rw [Sources.ignoreTest, Sources.ignoreTest, rewrites.ignoreFiles rooted unwatched lists lists',
    Sources.loadTests_congr same rewrites.cwd]

variable (foreign : filter.Foreign) (found : Sources.find before root filter = .ok files)
include foreign found

/-- Elsewhere the same source files are found. -/
theorem Rewrites.mem_find (found' : Sources.find after root filter = .ok files')
    (apart : top ++ names ≠ place) : names ∈ files' ↔ names ∈ files := by
  obtain ⟨ignored, _, tested, _⟩ := Sources.find_eq_ok.mp found
  have tested' := (rewrites.ignoreTest rooted unwatched lists lists' filter.nestedIgnore).trans tested
  rw [lists.mem_find foreign found tested, lists'.mem_find foreign found' tested',
    rewrites.entry?_of_ne apart]

/-- A rewritten index file changes nothing about the source files. -/
theorem Rewrites.find_output (output : place.getLast? = some artifact.fileName) :
    Sources.find after root filter = .ok files := by
  have outputNames {names : List Text} (inside : names ≠ []) (here : top ++ names = place) :
      names.getLast? = some artifact.fileName := by
    rw [← here, List.getLast?_append_of_ne_nil _ inside] at output
    exact output
  obtain ⟨ignored, kept, tested, taken, rfl⟩ := Sources.find_eq_ok.mp found
  have tested' := (rewrites.ignoreTest rooted unwatched lists lists' filter.nestedIgnore).trans tested
  obtain ⟨kept', taken'⟩ : ∃ kept', Sources.keepTaken (filter.takes after root ignored)
      (after.descendants root) = .ok kept' := by
    refine Sources.keepTaken_ok fun names entry listed => ?_
    obtain ⟨inside, present⟩ := lists'.mem_descendants.mp listed
    cases entry with
    | file bytes =>
      rw [lists'.takes_file foreign inside present]
      by_cases here : top ++ names = place
      · exact ⟨false, Sources.Filter.decides_output foreign (outputNames inside here)⟩
      · rw [rewrites.entry?_of_ne here] at present
        rw [← lists.takes_file foreign inside present]
        exact Sources.keepTaken_answers taken (lists.mem_descendants.mpr ⟨inside, present⟩)
    | _ => exact ⟨false, rfl⟩
  have found' : Sources.find after root filter = .ok (Sources.sortByText kept') :=
    Sources.find_eq_ok.mpr ⟨ignored, kept', tested', taken', rfl⟩
  rw [found']
  congr 1
  refine (lists'.find_strict foreign found').eq_of_mem_iff (lists.find_strict foreign found)
    fun names => ?_
  by_cases here : top ++ names = place
  · have out {host : Host} {files : List (List Text)} (lists : host.Lists root top)
        (found : Sources.find host root filter = .ok files) : names ∉ files := fun member =>
      (lists.named_of_mem_find foreign found member).1 artifact
        (outputNames (lists.ne_nil_of_mem_find found member) here)
    exact iff_of_false (out lists' found') (out lists found)
  · exact rewrites.mem_find rooted unwatched lists lists' foreign found found' here

omit lists' unwatched rooted in
/-- Source files elsewhere are read alike. -/
theorem Rewrites.readText_apart (member : names ∈ files) (apart : top ++ names ≠ place) :
    after.readText (Sources.pathBelow root names) = before.readText (Sources.pathBelow root names) := by
  obtain ⟨bytes, below⟩ := Sources.mem_find found member
  obtain ⟨inside, present⟩ := lists.mem_descendants.mp below
  have reached := lists.lookup inside present (by simp)
  have usable := lists.there.usable_append (lists.named_of_mem_find foreign found member).2
  have file : before.isFile (Sources.pathBelow root names) = true :=
    isFile_iff.mpr ⟨bytes, by rw [readBytes, if_pos usable, reached]⟩
  have elsewhere : ¬before.LeadsTo (Sources.pathBelow root names) place := by
    rintro ⟨end', reached', here⟩
    obtain rfl := Except.ok.inj (reached.symm.trans reached')
    exact apart here
  rw [readText, readText, rewrites.readBytes_apart lists.rooted elsewhere file]

end Rewrites

theorem Rewrites.walkable (rewrites : before.Rewrites after place bytes) (walkable : before.Walkable)
    (named : ∀ name ∈ place, IsName name) : after.Walkable := by
  intro location entry present
  by_cases here : location = place
  · exact here ▸ named
  · rw [rewrites.tree.entry?, if_neg here] at present
    exact walkable location entry present

/-- The files of an index may be written below the root. -/
theorem Lists.output (lists : before.Lists root top) (rewrites : before.Rewrites after place bytes)
    (tidy : after.tree.Tidy) (named : ∀ name ∈ place, IsName name)
    (output : place.getLast? = some artifact.fileName) : after.Lists root top := by
  refine ⟨rewrites.tree.rooted lists.rooted, tidy, (rewrites.at_iff lists.rooted).mpr lists.there,
    rewrites.walkable lists.walkable named, fun names entry present solid other => ?_⟩
  · by_cases here : top ++ names = place
    · rcases List.eq_nil_or_concat names with rfl | ⟨front, last, rfl⟩
      · simp
      · refine absurd ?_ (other artifact)
        rw [← here, List.getLast?_append_of_ne_nil _ (by simp)] at output
        exact output
    · rw [rewrites.entry?_of_ne here] at present
      exact lists.named names entry present solid other

end SymbolIndex.Host
