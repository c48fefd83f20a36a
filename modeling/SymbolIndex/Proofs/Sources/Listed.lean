import SymbolIndex.Proofs.Host.Overwrite
import SymbolIndex.Proofs.Sources.Find

/-! The source files found on a host that grew by directories: they are files of the host itself, and
each is found once. -/
namespace SymbolIndex
namespace Tree
variable {tree : Tree}

/-- What is below a location has names of its own. -/
theorem nodup_below (distinct : (tree.entries.map Prod.fst).Nodup) (location : Location) :
    ((tree.below location).map Prod.fst).Nodup := by
  have places : (tree.entries.filter fun entry =>
      location.isPrefixOf entry.1 && location.length < entry.1.length).Pairwise fun one two =>
        one.1 ≠ two.1 := (List.pairwise_map.mp distinct).sublist List.filter_sublist
  refine List.pairwise_map.mpr (List.pairwise_map.mpr (places.imp_of_mem ?_))
  intro one two first second apart same
  simp only [List.mem_filter, Bool.and_eq_true, List.isPrefixOf_iff_prefix] at first second
  obtain ⟨rest, one_eq⟩ := first.2.1
  obtain ⟨more, two_eq⟩ := second.2.1
  refine apart ?_
  rw [← one_eq, ← two_eq] at same ⊢
  simpa using same

end Tree

/-- Only a directory has something below it. -/
theorem Host.at_of_mem_descendants {host : Host} {root : Path} {names : List Text} {entry : Entry}
    (listed : (names, entry) ∈ host.descendants root) : ∃ top, host.At root top := by
  unfold descendants at listed
  split at listed
  · rename_i usable
    split at listed
    · rename_i top reached
      exact ⟨top, usable, reached⟩
    · cases listed
  · cases listed

namespace Sources
variable {host made : Host} {root : Path} {top : Location} {names : List Text} {filter : Filter}
  {files kept : List (List Text)} {takes : List Text → Entry → Except Failure Bool}
  {list added : List (List Text × Entry)}

theorem keepTaken_sublist (done : keepTaken takes list = .ok kept) :
    kept.Sublist (list.map Prod.fst) := by
  induction list generalizing kept with
  | nil =>
    obtain rfl := Except.ok.inj done
    exact .slnil
  | cons first more ih =>
    obtain ⟨taken, rest, _, later, rfl⟩ := keepTaken_cons_eq_ok.mp done
    cases taken with
    | true => exact (ih later).cons_cons first.1
    | false => exact (ih later).cons first.1

section Grown
variable [Ignore.Package] (sound : host.tree.Sound) (grows : host.Grows made added)
  (directories : ∀ entry ∈ added, entry.2 = .directory)
  (found : find made root filter = .ok files)

/-- Files are found only below a directory. -/
theorem at_of_mem_find (found : find made root filter = .ok files) (member : names ∈ files) :
    ∃ top, made.At root top := by
  obtain ⟨bytes, listed⟩ := mem_find found member
  exact Host.at_of_mem_descendants listed

include grows directories found

/-- Directories that were added are not taken. -/
theorem find_added (there : made.At root top) : ∃ takes kept,
    keepTaken takes (host.tree.below top) = .ok kept ∧ files = sortByText kept ∧
      ∀ names entry, takes names entry = .ok true → ∃ bytes, entry = .file bytes := by
  obtain ⟨ignored, kept, _, taken, rfl⟩ := find_eq_ok.mp found
  refine ⟨filter.takes made root ignored, kept, ?_, rfl, fun names entry chosen => ?_⟩
  · rw [there.descendants, grows.tree.below] at taken
    rw [← taken]
    refine (keepTaken_append fun names entry member => ?_).symm
    obtain rfl : entry = .directory := directories _ (Tree.mem_below.mp member).2
    rfl
  · cases entry with
    | file bytes => exact ⟨bytes, rfl⟩
    | _ => cases chosen

include sound

theorem has_of_find (there : made.At root top) (member : names ∈ files) :
    ∃ bytes, host.Has top names (.file bytes) := by
  obtain ⟨takes, kept, taken, rfl, file⟩ := find_added grows directories found there
  obtain ⟨entry, listed, chosen⟩ := mem_keepTaken taken (List.mem_mergeSort.mp member)
  obtain ⟨bytes, rfl⟩ := file names entry chosen
  exact ⟨bytes, Host.has_of_below sound listed⟩

theorem nodup_find (there : made.At root top) : files.Nodup := by
  obtain ⟨takes, kept, taken, rfl, _⟩ := find_added grows directories found there
  have distinct := (Tree.nodup_below sound.distinct top).sublist (keepTaken_sublist taken)
  exact (List.mergeSort_perm _ _).nodup_iff.mpr distinct

end Grown

end Sources
end SymbolIndex
