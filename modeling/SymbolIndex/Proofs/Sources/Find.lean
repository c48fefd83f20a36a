import SymbolIndex.Proofs.Host.Resolve
import SymbolIndex.Proofs.Text.Order

/-! The source files of a project: what ignore files refuse to answer, the whole search fails with,
and a filter that skips a directory takes what the filter without it takes elsewhere. -/
namespace SymbolIndex.Sources
variable {host : Host} {root path : Path} {top : Location} {names : List Text} {entry : Entry}
  {filter : Filter} {nested : Bool} {files kept all : List (List Text)}
  {ignored : Option Ignore.Test} {failure : Failure}
  {takes takes' : List Text → Entry → Except Failure Bool} {list extra : List (List Text × Entry)}

/-- The filter without the directory that it leaves out. -/
def Filter.everywhere (filter : Filter) : Filter := { filter with outputDir := [] }

/-- Whether a path lies in the directory that the filter leaves out. -/
def Filter.skips (filter : Filter) (names : List Text) : Bool :=
  !filter.outputDir.isEmpty && names.head? = some filter.outputDir

/-- Whether a path is a source file of the language within the directory. -/
def Filter.suits (filter : Filter) (host : Host) (root : Path) (names : List Text) : Bool :=
  (filter.extensions.map Text.lower).contains (Text.lower (pathBelow root names).suffix) &&
    isWithin host root (pathBelow root names)

/-- What ignore files and patterns say of a path. -/
def Filter.judges (filter : Filter) (root : Path) (ignored : Option Ignore.Test)
    (names : List Text) : Except Failure Bool :=
  match ignored with
  | none => .ok (filter.takesName names)
  | some ignored => do
    let skipped ← (ignored (pathBelow root names).text).mapError .ignoreRules
    .ok (!skipped && filter.takesName names)

theorem Filter.takes_file (bytes : List UInt8) : filter.takes host root ignored names (.file bytes) =
    if filter.suits host root names && !filter.skips names then filter.judges root ignored names
    else .ok false := rfl

theorem Filter.skips_everywhere : filter.everywhere.skips names = false := rfl

theorem Filter.suits_everywhere :
    filter.everywhere.suits host root names = filter.suits host root names := rfl

theorem isFile_of_mem_ignoreFiles (member : path ∈ ignoreFiles host root nested) :
    host.isFile path = true := by
  unfold ignoreFiles at member
  split at member
  · obtain ⟨names, listed, rfl⟩ := List.mem_map.mp member
    have kept := (List.mem_filter.mp (List.mem_mergeSort.mp listed)).2
    rw [Bool.and_eq_true] at kept
    exact kept.2
  · dsimp only at member
    split at member
    · rename_i file
      rw [List.mem_singleton.mp member]
      exact file
    · cases member

theorem Filter.takes_error (failed : filter.takes host root ignored names entry = .error failure) :
    ∃ bytes, entry = .file bytes ∧ filter.suits host root names = true ∧
      filter.skips names = false ∧ filter.judges root ignored names = .error failure := by
  cases entry with
  | file bytes =>
    rw [Filter.takes_file] at failed
    split at failed
    · rename_i chosen
      rw [Bool.and_eq_true, Bool.not_eq_true'] at chosen
      exact ⟨bytes, rfl, chosen.1, chosen.2, failed⟩
    · cases failed
  | _ => cases failed

section Keep

theorem keepTaken_cons_eq_ok : keepTaken takes ((names, entry) :: list) = .ok kept ↔
    ∃ taken rest, takes names entry = .ok taken ∧ keepTaken takes list = .ok rest ∧
      kept = if taken then names :: rest else rest := by
  simp only [keepTaken, exceptBind_eq_ok, Except.ok.injEq, exists_and_left, eq_comm (b := kept)]

theorem keepTaken_congr
    (same : ∀ names entry, (names, entry) ∈ list → takes names entry = takes' names entry) :
    keepTaken takes list = keepTaken takes' list := by
  induction list with
  | nil => rfl
  | cons first rest ih =>
    rw [keepTaken, keepTaken, same first.1 first.2 List.mem_cons_self,
      ih fun names entry member => same names entry (List.mem_cons_of_mem first member)]

theorem keepTaken_append
    (none : ∀ names entry, (names, entry) ∈ extra → takes names entry = .ok false) :
    keepTaken takes (list ++ extra) = keepTaken takes list := by
  induction list with
  | nil =>
    induction extra with
    | nil => rfl
    | cons first rest ih =>
      have left := ih fun names entry member => none names entry (List.mem_cons_of_mem first member)
      rw [List.nil_append] at left ⊢
      exact keepTaken_cons_eq_ok.mpr ⟨false, [], none _ _ List.mem_cons_self, left, rfl⟩
  | cons first rest ih => rw [List.cons_append, keepTaken, keepTaken, ih]

theorem mem_keepTaken (done : keepTaken takes list = .ok kept) (member : names ∈ kept) :
    ∃ entry, (names, entry) ∈ list ∧ takes names entry = .ok true := by
  induction list generalizing kept with
  | nil =>
    obtain rfl := Except.ok.inj done
    cases member
  | cons first more ih =>
    obtain ⟨taken, rest, here, later, rfl⟩ := keepTaken_cons_eq_ok.mp done
    have onward (inside : names ∈ rest) :
        ∃ entry, (names, entry) ∈ first :: more ∧ takes names entry = .ok true := by
      obtain ⟨entry, listed, chosen⟩ := ih later inside
      exact ⟨entry, List.mem_cons_of_mem first listed, chosen⟩
    cases taken with
    | false => exact onward (by simpa using member)
    | true =>
      rcases List.mem_cons.mp (by simpa using member) with rfl | inside
      · exact ⟨first.2, List.mem_cons_self, here⟩
      · exact onward inside

/-- Where something is kept, the test answers for everything. -/
theorem keepTaken_answers (done : keepTaken takes list = .ok kept) (listed : (names, entry) ∈ list) :
    ∃ taken, takes names entry = .ok taken := by
  induction list generalizing kept with
  | nil => cases listed
  | cons first more ih =>
    obtain ⟨taken, rest, here, later, rfl⟩ := keepTaken_cons_eq_ok.mp done
    rcases List.mem_cons.mp listed with rfl | inside
    · exact ⟨taken, here⟩
    · exact ih later inside

theorem keepTaken_ok
    (answers : ∀ names entry, (names, entry) ∈ list → ∃ taken, takes names entry = .ok taken) :
    ∃ kept, keepTaken takes list = .ok kept := by
  induction list with
  | nil => exact ⟨[], rfl⟩
  | cons first more ih =>
    obtain ⟨taken, here⟩ := answers first.1 first.2 List.mem_cons_self
    obtain ⟨rest, later⟩ :=
      ih fun names entry member => answers names entry (List.mem_cons_of_mem first member)
    exact ⟨_, keepTaken_cons_eq_ok.mpr ⟨taken, rest, here, later, rfl⟩⟩

/-- What keeping fails with, the test of some entry fails with. -/
theorem keepTaken_error (failed : keepTaken takes list = .error failure) :
    ∃ names entry, (names, entry) ∈ list ∧ takes names entry = .error failure := by
  induction list with
  | nil => cases failed
  | cons first more ih =>
    rw [keepTaken] at failed
    rcases exceptBind_eq_error.mp failed with here | ⟨_, _, failed⟩
    · exact ⟨first.1, first.2, List.mem_cons_self, here⟩
    · rcases exceptBind_eq_error.mp failed with later | ⟨_, _, failed⟩
      · obtain ⟨names, entry, listed, refused⟩ := ih later
        exact ⟨names, entry, List.mem_cons_of_mem first listed, refused⟩
      · cases failed

/-- A test that takes less keeps that much less. -/
theorem keepTaken_filter {some : List Text → Bool}
    (less : ∀ names entry, (names, entry) ∈ list → ∀ taken taken', takes names entry = .ok taken →
      takes' names entry = .ok taken' → taken = (taken' && some names))
    (done : keepTaken takes list = .ok kept) (done' : keepTaken takes' list = .ok all) :
    kept = all.filter some := by
  induction list generalizing kept all with
  | nil =>
    obtain rfl := Except.ok.inj done
    obtain rfl := Except.ok.inj done'
    rfl
  | cons first more ih =>
    obtain ⟨taken, rest, here, later, rfl⟩ := keepTaken_cons_eq_ok.mp done
    obtain ⟨taken', rest', here', later', rfl⟩ := keepTaken_cons_eq_ok.mp done'
    obtain rfl := less first.1 first.2 List.mem_cons_self taken taken' here here'
    obtain rfl := ih (fun names entry member => less names entry (List.mem_cons_of_mem first member))
      later later'
    cases taken' <;> cases chosen : some first.1 <;> simp [chosen]

end Keep

section Search
variable [Ignore.Package]

theorem find_eq_ok : find host root filter = .ok files ↔ ∃ ignored kept,
    ignoreTest host root filter.nestedIgnore = .ok ignored ∧
      keepTaken (filter.takes host root ignored) (host.descendants root) = .ok kept ∧
      files = sortByText kept := by
  simp only [find, exceptBind_eq_ok, Except.ok.injEq, exists_and_left, eq_comm (b := files)]

/-- Files are found below the directory. -/
theorem mem_find (found : find host root filter = .ok files) (member : names ∈ files) :
    ∃ bytes, (names, .file bytes) ∈ host.descendants root := by
  obtain ⟨ignored, kept, _, taken, rfl⟩ := find_eq_ok.mp found
  obtain ⟨entry, listed, chosen⟩ := mem_keepTaken taken (List.mem_mergeSort.mp member)
  cases entry with
  | file bytes => exact ⟨bytes, listed⟩
  | _ => cases chosen

/-- Ignore files that are read alike say the same. -/
theorem loadTests_congr {after : Host} {paths : List Path}
    (same : ∀ path ∈ paths, after.readBytes path = host.readBytes path) (cwd : after.cwd = host.cwd) :
    loadTests after paths = loadTests host paths := by
  induction paths with
  | nil => rfl
  | cons path rest ih =>
    rw [loadTests, loadTests, same path List.mem_cons_self, cwd,
      ih fun other listed => same other (List.mem_cons_of_mem path listed)]

end Search

section Sorted

/-- Names that are written alike are the same. -/
theorem relativeText_injective {a b : List Text} (namesA : ∀ name ∈ a, Path.IsPart name)
    (namesB : ∀ name ∈ b, Path.IsPart name) (same : Path.relativeText a = Path.relativeText b) :
    a = b := by
  have readA : Path.ofText (Path.relativeText a) = ⟨[], a⟩ :=
    Path.IsRead.ofText_text ⟨Or.inl rfl, namesA⟩
  have readB : Path.ofText (Path.relativeText b) = ⟨[], b⟩ :=
    Path.IsRead.ofText_text ⟨Or.inl rfl, namesB⟩
  rw [same, readB] at readA
  exact (Path.mk.inj readA).2.symm

/-- Sorted paths stay sorted when some are left out. -/
theorem sortByText_filter (named : ∀ names ∈ kept, ∀ name ∈ names, Path.IsPart name)
    (some : List Text → Bool) : sortByText (kept.filter some) = (sortByText kept).filter some := by
  have ordered (paths : List (List Text)) : (sortByText paths).Pairwise fun a b =>
      Text.le (Path.relativeText a) (Path.relativeText b) = true :=
    @List.pairwise_mergeSort _ (fun a b => Text.le (Path.relativeText a) (Path.relativeText b))
      (fun _ _ _ => Text.le_trans) (fun _ _ => Text.le_total _ _) paths
  refine List.Perm.eq_of_pairwise ?_ (ordered _) ((ordered kept).filter some)
    ((List.mergeSort_perm _ _).trans ((List.mergeSort_perm kept _).symm.filter some))
  intro a b memberA memberB first second
  have insideA := (List.mem_filter.mp (List.mem_mergeSort.mp memberA)).1
  have insideB := List.mem_mergeSort.mp (List.mem_filter.mp memberB).1
  exact relativeText_injective (named a insideA) (named b insideB) (Text.le_antisymm first second)

end Sorted

section Everywhere
variable [Ignore.Package]

/-- What a filter that skips a directory takes is what it takes everywhere, outside that directory. -/
theorem find_everywhere (sound : host.tree.Sound) (there : host.At root top)
    (found : find host root filter = .ok files)
    (found' : find host root filter.everywhere = .ok all) : files = all.filter (!filter.skips ·) := by
  obtain ⟨ignored, kept, tested, taken, rfl⟩ := find_eq_ok.mp found
  obtain ⟨ignored', kept', tested', taken', rfl⟩ := find_eq_ok.mp found'
  obtain rfl := Except.ok.inj (tested.symm.trans tested')
  rw [keepTaken_filter ?_ taken taken', sortByText_filter]
  · intro names member
    obtain ⟨entry, listed, _⟩ := mem_keepTaken taken' member
    rw [there.descendants] at listed
    exact fun name inside => ((Host.has_of_below sound listed).named name inside).toIsPart
  · intro names entry _ taken taken' answer answer'
    cases entry with
    | file bytes =>
      rw [Filter.takes_file] at answer answer'
      rw [Filter.suits_everywhere, Filter.skips_everywhere] at answer'
      have judges : filter.everywhere.judges root ignored names = filter.judges root ignored names := rfl
      rw [judges] at answer'
      cases suits : filter.suits host root names <;> cases skipped : filter.skips names <;> simp_all
    | _ =>
      obtain rfl := Except.ok.inj answer
      obtain rfl := Except.ok.inj answer'
      rfl

/-- The rules may refuse to answer for a file that the filter skips, and only the search everywhere
asks them. -/
theorem find_everywhere_error (found : find host root filter = .ok files)
    (failed : find host root filter.everywhere = .error failure) :
    ∃ ignored names bytes, ignoreTest host root filter.nestedIgnore = .ok ignored ∧
      (names, .file bytes) ∈ host.descendants root ∧ filter.suits host root names = true ∧
      filter.skips names = true ∧ filter.judges root ignored names = .error failure := by
  obtain ⟨ignored, kept, tested, taken, rfl⟩ := find_eq_ok.mp found
  rcases exceptBind_eq_error.mp failed with untested | ⟨ignored', tested', failed⟩
  · cases tested.symm.trans untested
  obtain rfl := Except.ok.inj (tested.symm.trans tested')
  rcases exceptBind_eq_error.mp failed with untaken | ⟨_, _, done⟩
  · obtain ⟨names, entry, listed, refused⟩ := keepTaken_error untaken
    obtain ⟨bytes, rfl, suits, _, refused⟩ := Filter.takes_error refused
    refine ⟨ignored, names, bytes, tested, listed, suits, ?_, refused⟩
    by_contra kept
    obtain ⟨taken, answer⟩ := keepTaken_answers taken listed
    rw [Filter.suits_everywhere] at suits
    rw [Filter.takes_file, suits, Bool.not_eq_true _ |>.mp kept] at answer
    cases answer.symm.trans refused
  · cases done

end Everywhere

end SymbolIndex.Sources
