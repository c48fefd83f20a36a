import SymbolIndex.Path

/-! Paths and their texts: a path that was read is read again from its text, and names without
double points go through every change of form as they are. -/
namespace SymbolIndex
namespace Text
variable {separator c : Char} {piece : Text} {pieces : List Text}

theorem splitAt_of_notMem (clean : separator ∉ piece) : splitAt separator piece = [piece] := by
  induction piece with
  | nil => rfl
  | cons c rest ih =>
    rw [List.mem_cons, not_or] at clean
    rw [splitAt, if_neg (Ne.symm clean.1), ih clean.2]

theorem splitAt_append_cons (clean : separator ∉ piece) (rest : Text) :
    splitAt separator (piece ++ separator :: rest) = piece :: splitAt separator rest := by
  induction piece with
  | nil => simp [splitAt]
  | cons c more ih =>
    rw [List.mem_cons, not_or] at clean
    rw [List.cons_append, splitAt, if_neg (Ne.symm clean.1), ih clean.2]

/-- The pieces between separators are never empty as a list. -/
theorem splitAt_ne_nil (separator : Char) (text : Text) : splitAt separator text ≠ [] := by
  cases text with
  | nil => simp [splitAt]
  | cons c rest =>
    rw [splitAt]
    split
    · simp
    · split <;> simp

theorem notMem_of_mem_splitAt {text : Text} (member : piece ∈ splitAt separator text) :
    separator ∉ piece := by
  induction text generalizing piece with
  | nil => simp_all [splitAt]
  | cons c rest ih =>
    rw [splitAt] at member
    split at member
    · rcases List.mem_cons.mp member with rfl | later
      · simp
      · exact ih later
    · rename_i other
      split at member
      · rename_i none
        exact absurd none (splitAt_ne_nil separator rest)
      · rename_i first more split
        rw [split] at ih
        rcases List.mem_cons.mp member with rfl | later
        · rw [List.mem_cons, not_or]
          exact ⟨Ne.symm other, ih List.mem_cons_self⟩
        · exact ih (List.mem_cons_of_mem first later)

theorem splitAt_join (clean : ∀ piece ∈ pieces, separator ∉ piece) (some : pieces ≠ []) :
    splitAt separator (join [separator] pieces) = pieces := by
  induction pieces with
  | nil => exact absurd rfl some
  | cons piece more ih =>
    have here := clean piece List.mem_cons_self
    cases more with
    | nil => exact splitAt_of_notMem here
    | cons next rest =>
      have later := ih (fun other listed => clean other (List.mem_cons_of_mem piece listed)) (by simp)
      rw [join, List.append_assoc, List.singleton_append, splitAt_append_cons here, later]
      simp

theorem mem_join {separator : Text} (apart : c ∉ separator) :
    c ∈ join separator pieces ↔ ∃ piece ∈ pieces, c ∈ piece := by
  induction pieces with
  | nil => simp [join]
  | cons piece more ih =>
    cases more with
    | nil => simp [join]
    | cons next rest => simp [join, apart, ih]

end Text

namespace Path
variable {path base cwd : Path} {name : Text} {names done : List Text} {absolute : Bool}

/-- A name as it stands in a path that was read. -/
structure IsPart (name : Text) : Prop where
  nonempty : name ≠ []
  notPoint : name ≠ ['.']
  noSlash : '/' ∉ name

/-- A path as reading gives it. -/
structure IsRead (path : Path) : Prop where
  root : path.root = [] ∨ path.root = ['/'] ∨ path.root = ['/', '/']
  parts : ∀ name ∈ path.names, IsPart name

theorem isRead_ofText (source : Text) : (ofText source).IsRead := by
  refine ⟨?_, ?_⟩
  · rw [ofText, rootOf]
    split <;> simp
  · intro name member
    obtain ⟨piece, kept⟩ := List.mem_filter.mp member
    simp only [Bool.and_eq_true, Bool.not_eq_true', List.isEmpty_eq_false_iff, decide_eq_true_eq]
      at kept
    exact ⟨kept.1, kept.2, Text.notMem_of_mem_splitAt piece⟩

theorem rootOf_append (root : path.root = [] ∨ path.root = ['/'] ∨ path.root = ['/', '/'])
    {c : Char} (other : c ≠ '/') (more : Text) : rootOf (path.root ++ c :: more) = path.root := by
  rcases root with root | root | root <;> rw [root] <;> simp [rootOf, other]

theorem splitAt_root_append (root : path.root = [] ∨ path.root = ['/'] ∨ path.root = ['/', '/'])
    (source : Text) :
    (Text.splitAt '/' (path.root ++ source)).filter (fun name => !name.isEmpty && name ≠ ['.']) =
      (Text.splitAt '/' source).filter fun name => !name.isEmpty && name ≠ ['.'] := by
  rcases root with root | root | root <;> rw [root] <;> simp [Text.splitAt]

/-- A path that was read is read again from its text. -/
theorem IsRead.ofText_text (read : path.IsRead) : ofText path.text = path := by
  obtain ⟨root, names⟩ := path
  cases names with
  | nil =>
    rcases read.root with same | same | same <;> obtain rfl : root = _ := same <;> rfl
  | cons first rest =>
    have here := read.parts first List.mem_cons_self
    obtain ⟨c, more, spelled⟩ := List.exists_cons_of_ne_nil here.nonempty
    have other : c ≠ '/' := fun same => here.noSlash (by simp [spelled, same])
    have split := Text.splitAt_join (fun name listed => (read.parts name listed).noSlash)
      (List.cons_ne_nil first rest)
    have kept : (first :: rest).filter (fun name => !name.isEmpty && name ≠ ['.']) =
        first :: rest := by
      refine List.filter_eq_self.mpr fun name listed => ?_
      obtain ⟨nonempty, notPoint, _⟩ := read.parts name listed
      simp [nonempty, notPoint]
    have starts : ∃ more, Text.join ['/'] (first :: rest) = c :: more := by
      cases rest <;> simp [Text.join, spelled]
    have written : text ⟨root, first :: rest⟩ = root ++ Text.join ['/'] (first :: rest) := by
      simp [text]
    have parts := splitAt_root_append read.root (Text.join ['/'] (first :: rest))
    rw [split, kept] at parts
    obtain ⟨more, starts⟩ := starts
    have rooted := rootOf_append read.root other more
    rw [ofText, written, parts, starts, rooted]

theorem collapse_of_notMem (plain : ['.', '.'] ∉ names) :
    collapse absolute done names = done.reverse ++ names := by
  induction names generalizing done with
  | nil => simp [collapse]
  | cons name rest ih =>
    rw [List.mem_cons, not_or] at plain
    simp only [collapse, Ne.symm plain.1, if_false, ih plain.2, List.reverse_cons,
      List.append_assoc, List.singleton_append]

/-- An absolute path that was collapsed has no double points. -/
theorem notMem_collapse (above : ['.', '.'] ∉ done) : ['.', '.'] ∉ collapse true done names := by
  generalize rooted : true = absolute
  fun_induction collapse absolute done names <;> grind

theorem name_child : (path.child name).name = name := by
  simp [Path.name, child]

theorem join_append (names : List Text) :
    cwd.join { path with names := path.names ++ names } =
      { cwd.join path with names := (cwd.join path).names ++ names } := by
  unfold join isAbsolute
  split <;> simp

theorem below?_eq_some :
    path.below? base = some names ↔ path.root = base.root ∧ path.names = base.names ++ names := by
  rw [below?]
  split
  · rename_i under
    simp only [Bool.and_eq_true, decide_eq_true_iff, List.isPrefixOf_iff_prefix] at under
    obtain ⟨same, rest, split⟩ := under
    simp [← split, same]
  · rename_i apart
    refine ⟨nofun, fun ⟨same, split⟩ => absurd ?_ apart⟩
    simp [same, split, List.isPrefixOf_iff_prefix]

end Path
end SymbolIndex
