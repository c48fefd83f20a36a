import SymbolIndex.Host.Tree

/-! Walks through a file tree: what they say of the entry they end at, how they go on, and what is
left of them when entries are added. -/
namespace SymbolIndex.Tree
variable {tree before after : Tree} {location other here : Location} {entry : Entry} {name : Text}
  {followLast : Bool} {links : Nat} {names rest : List Text} {bytes : List UInt8}

theorem entry?_of_ne_nil (inside : location ≠ []) :
    tree.entry? location = (tree.entries.find? (·.1 = location)).map Prod.snd := by
  rw [Tree.entry?, if_neg (by simpa using inside)]

theorem mem_entries (inside : location ≠ []) (present : tree.entry? location = some entry) :
    (location, entry) ∈ tree.entries := by
  rw [entry?_of_ne_nil inside, Option.map_eq_some_iff] at present
  obtain ⟨⟨place, found⟩, listed, rfl⟩ := present
  obtain rfl : place = location := by simpa using List.find?_some listed
  exact List.mem_of_find?_eq_some listed

theorem find?_replace (entries : List (Location × Entry)) (location other : Location) (entry : Entry) :
    ((entries.map fun old => if old.1 = location then (location, entry) else old).find?
        (·.1 = other)).map Prod.snd =
      if other = location then
        (entries.find? (·.1 = location)).map fun _ => entry
      else (entries.find? (·.1 = other)).map Prod.snd := by
  induction entries with
  | nil => simp
  | cons old rest ih =>
    by_cases here : old.1 = location
    · by_cases asked : other = location
      · simp [here, asked]
      · simpa [here, Ne.symm asked, asked] using ih
    · by_cases asked : old.1 = other
      · have apart : other ≠ location := fun same => here (asked.trans same)
        simp [asked, apart]
      · simpa [here, asked] using ih

/-- Writing one entry changes nothing at other locations. -/
theorem entry?_put (inside : location ≠ []) (entry : Entry) (other : Location) :
    Tree.entry? (tree.put location entry) other =
      if other = location then some entry else tree.entry? other := by
  by_cases root : other = []
  · subst root
    rw [if_neg (Ne.symm inside)]
    rfl
  rw [entry?_of_ne_nil root, entry?_of_ne_nil root, put]
  split
  · rename_i present
    rw [entry?_of_ne_nil inside, Option.isSome_map] at present
    obtain ⟨old, found⟩ := Option.isSome_iff_exists.mp present
    rw [find?_replace, found, Option.map_some]
  · rename_i absent
    rw [entry?_of_ne_nil inside, Option.isSome_map, Bool.not_eq_true, Option.isSome_eq_false_iff,
      Option.isNone_iff_eq_none] at absent
    rw [List.find?_append]
    by_cases asked : other = location
    · simp [asked, absent]
    · simp [asked, Ne.symm asked]

/-- Every entry of one tree is an entry of the other. -/
def Extends (before after : Tree) : Prop :=
  ∀ location entry, before.entry? location = some entry → after.entry? location = some entry

theorem Extends.refl (tree : Tree) : tree.Extends tree := fun _ _ present => present

theorem Extends.trans {middle : Tree} (first : before.Extends middle) (second : middle.Extends after) :
    before.Extends after :=
  fun location entry present => second location entry (first location entry present)

theorem extends_put (inside : location ≠ []) (absent : tree.entry? location = none) (entry : Entry) :
    tree.Extends (tree.put location entry) := by
  intro other old present
  have apart : other ≠ location := by
    rintro rfl
    simp [absent] at present
  rw [entry?_put inside, if_neg apart, present]

/-- A name that a walk looks up. -/
def IsName (name : Text) : Prop := name ≠ ['.', '.'] ∧ (Utf8.encode name).length ≤ 255

/-- One step of a walk. -/
theorem walk_cons (named : IsName name) : tree.walk followLast links here (name :: rest) =
    match tree.entry? (here ++ [name]) with
    | none => if rest.isEmpty then .ok (.absent (here ++ [name])) else .error .notFound
    | some .directory => walk tree followLast links (here ++ [name]) rest
    | some (.file bytes) =>
      if rest.isEmpty then .ok (.present (here ++ [name]) (.file bytes)) else .error .notDirectory
    | some (.link target) =>
      if rest.isEmpty && !followLast then .ok (.present (here ++ [name]) (.link target))
      else
        match links with
        | 0 => .error .tooManyLinks
        | left + 1 =>
          walk tree followLast left (if (Path.ofText target).isAbsolute then [] else here)
            ((Path.ofText target).names ++ rest) := by
  rw [walk]
  exact (if_neg named.1).trans (if_neg (Nat.not_lt.mpr named.2))

theorem walk_up : tree.walk followLast links here (['.', '.'] :: rest) =
    tree.walk followLast links here.dropLast rest := by
  rw [walk, if_pos rfl]

theorem walk_nil : tree.walk followLast links here [] = .ok (.present here .directory) := by
  rw [walk]

/-- A walk that does not end in the void ends as before. -/
theorem walk_settled (larger : before.Extends after)
    (found : before.walk followLast links here names ≠ .error .notFound)
    (full : ∀ location, before.walk followLast links here names ≠ .ok (.absent location)) :
    after.walk followLast links here names = before.walk followLast links here names := by
  fun_induction before.walk followLast links here names with
  | case1 links here => rw [walk_nil]
  | case2 links here rest ih =>
    rw [walk_up]
    exact ih found full
  | case3 links here name rest up long => rw [walk, if_neg up, if_pos long]
  | case4 links here name rest up long next absent last => exact absurd rfl (full next)
  | case5 links here name rest up long next absent more => exact absurd rfl found
  | case6 links here name rest up long next present ih =>
    rw [walk_cons ⟨up, by omega⟩, larger _ _ present]
    exact ih found full
  | case7 links here name rest up long next bytes present last =>
    rw [walk_cons ⟨up, by omega⟩, larger _ _ present]
    simp only [last, if_true]
    rfl
  | case8 links here name rest up long next bytes present more =>
    rw [walk_cons ⟨up, by omega⟩, larger _ _ present]
    simp [more]
  | case9 links here name rest up long next target present last =>
    rw [walk_cons ⟨up, by omega⟩, larger _ _ present]
    simp only [last, if_true]
    rfl
  | case10 here name rest up long next target present more =>
    rw [walk_cons ⟨up, by omega⟩, larger _ _ present]
    simp only [more]
    rfl
  | case11 here name rest up long next target present more left path ih =>
    rw [walk_cons ⟨up, by omega⟩, larger _ _ present]
    simp only [more]
    exact ih found full

/-- A walk that ends at an entry ends there in every larger tree. -/
theorem walk_extends (larger : before.Extends after)
    (reached : before.walk followLast links here names = .ok (.present location entry)) :
    after.walk followLast links here names = .ok (.present location entry) := by
  rw [walk_settled larger (by simp [reached]) (by simp [reached]), reached]

/-- A walk to a directory can go on from there. -/
theorem walk_append (reached : tree.walk true links here names = .ok (.present location .directory)) :
    ∃ left, ∀ followLast name rest, tree.walk followLast links here (names ++ name :: rest) =
      tree.walk followLast left location (name :: rest) := by
  generalize follows : true = follow at reached
  fun_induction tree.walk follow links here names with
  | case1 links here =>
    obtain ⟨rfl, _⟩ := Found.present.inj (Except.ok.inj reached)
    exact ⟨links, fun _ _ _ => rfl⟩
  | case2 links here names ih =>
    obtain ⟨left, onward⟩ := ih reached
    exact ⟨left, fun followLast name rest => by rw [List.cons_append, walk_up, onward]⟩
  | case6 links here name names up long next present ih =>
    obtain ⟨left, onward⟩ := ih reached
    exact ⟨left, fun followLast other rest => by
      rw [List.cons_append, walk_cons ⟨up, by omega⟩, present, onward]⟩
  | case11 here name names up long next target present more left path ih =>
    obtain ⟨left, onward⟩ := ih reached
    refine ⟨left, ?_⟩
    intro followLast other rest
    rw [List.cons_append, walk_cons ⟨up, by omega⟩, present, ← onward, List.append_assoc]
    simp [path]
  | _ => simp at reached

/-- Whatever is in a tree is in a directory of it. -/
def Rooted (tree : Tree) : Prop :=
  ∀ location name entry,
    tree.entry? (location ++ [name]) = some entry → tree.entry? location = some .directory

theorem Rooted.dropLast (rooted : tree.Rooted) (present : tree.entry? location = some .directory) :
    tree.entry? location.dropLast = some .directory := by
  rcases List.eq_nil_or_concat location with rfl | ⟨front, last, rfl⟩
  · exact present
  · rw [List.concat_eq_append] at present ⊢
    rw [List.dropLast_concat]
    exact rooted front last _ present

/-- Nothing is below a place where there is nothing. -/
theorem Rooted.append_eq_none (rooted : tree.Rooted) (absent : tree.entry? location = none)
    (names : List Text) : tree.entry? (location ++ names) = none := by
  induction names generalizing location with
  | nil => simpa using absent
  | cons name rest ih =>
    have next : tree.entry? (location ++ [name]) = none := by
      cases present : tree.entry? (location ++ [name]) with
      | none => rfl
      | some entry =>
        rw [rooted _ _ _ present] at absent
        cases absent
    simpa using ih next

theorem mem_below :
    (names, entry) ∈ tree.below location ↔
      names ≠ [] ∧ (location ++ names, entry) ∈ tree.entries := by
  constructor
  · intro member
    obtain ⟨⟨place, entry⟩, kept, same⟩ := List.mem_map.mp member
    obtain ⟨listed, under⟩ := List.mem_filter.mp kept
    obtain ⟨rfl, rfl⟩ := Prod.mk.inj same
    simp only [Bool.and_eq_true, List.isPrefixOf_iff_prefix, decide_eq_true_eq] at under
    obtain ⟨⟨names, rfl⟩, longer⟩ := under
    rw [List.drop_left]
    refine ⟨?_, listed⟩
    rintro rfl
    simp at longer
  · rintro ⟨some, member⟩
    refine List.mem_map.mpr ⟨_, List.mem_filter.mpr ⟨member, ?_⟩, by simp⟩
    simp [List.length_pos_iff.mpr some]

theorem entry?_of_mem_below (member : (names, entry) ∈ tree.below location) :
    (tree.entry? (location ++ names)).isSome := by
  obtain ⟨inside, listed⟩ := mem_below.mp member
  rw [entry?_of_ne_nil (by simp [inside]), Option.isSome_map, List.find?_isSome]
  exact ⟨_, listed, by simp⟩

theorem Rooted.below_eq_nil (rooted : tree.Rooted) (absent : tree.entry? location = none) :
    tree.below location = [] := by
  refine List.eq_nil_iff_forall_not_mem.mpr fun ⟨names, entry⟩ member => ?_
  have present := entry?_of_mem_below member
  rw [rooted.append_eq_none absent] at present
  cases present

/-- Where a walk finds nothing, there is nothing. -/
theorem absent_of_walk (reached : tree.walk followLast links here names = .ok (.absent location)) :
    location ≠ [] ∧ tree.entry? location = none := by
  fun_induction tree.walk followLast links here names with
  | case2 links here rest ih => exact ih reached
  | case4 links here name rest up long next absent last =>
    obtain rfl := Found.absent.inj (Except.ok.inj reached)
    exact ⟨by simp [next], absent⟩
  | case6 links here name rest up long next present ih => exact ih reached
  | case11 here name rest up long next target present more left path ih => exact ih reached
  | _ => simp at reached

/-- A walk that follows every link ends at an entry that is none. -/
theorem Rooted.present_of_walk (rooted : tree.Rooted) (start : tree.entry? here = some .directory)
    (reached : tree.walk true links here names = .ok (.present location entry)) :
    tree.entry? location = some entry ∧ ∀ target, entry ≠ .link target := by
  generalize follows : true = follow at reached
  fun_induction tree.walk follow links here names with
  | case1 links here =>
    obtain ⟨rfl, rfl⟩ := Found.present.inj (Except.ok.inj reached)
    exact ⟨start, by simp⟩
  | case2 links here rest ih => exact ih (rooted.dropLast start) reached
  | case6 links here name rest up long next present ih => exact ih present reached
  | case7 links here name rest up long next bytes present last =>
    obtain ⟨rfl, rfl⟩ := Found.present.inj (Except.ok.inj reached)
    exact ⟨present, by simp⟩
  | case11 here name rest up long next target present more left path ih =>
    refine ih ?_ reached
    split
    · rfl
    · exact start
  | _ => simp_all

/-- Where a walk finds a file, that file is an entry. -/
theorem entry?_of_walk
    (reached : tree.walk followLast links here names = .ok (.present location (.file bytes))) :
    tree.entry? location = some (.file bytes) := by
  fun_induction tree.walk followLast links here names with
  | case2 links here rest ih => exact ih reached
  | case6 links here name rest up long next present ih => exact ih reached
  | case7 links here name rest up long next old present last =>
    obtain ⟨rfl, same⟩ := Found.present.inj (Except.ok.inj reached)
    exact same ▸ present
  | case11 here name rest up long next target present more left path ih => exact ih reached
  | _ => simp at reached

/-- A walk that follows links does not end at one. -/
theorem not_link_of_walk (reached : tree.walk true links here names = .ok (.present location entry))
    (target : Text) : entry ≠ .link target := by
  generalize follows : true = follow at reached
  fun_induction tree.walk follow links here names with
  | case1 links here => simp [← (Found.present.inj (Except.ok.inj reached)).2]
  | case2 links here rest ih => exact ih reached
  | case6 links here name rest up long next present ih => exact ih reached
  | case7 links here name rest up long next old present last =>
    simp [← (Found.present.inj (Except.ok.inj reached)).2]
  | case11 here name rest up long next target present more left path ih => exact ih reached
  | _ => simp_all

/-- A walk to a directory is the same where all that is no file is kept. -/
theorem walk_directory (kept : ∀ location entry, before.entry? location = some entry →
      (∀ old, entry ≠ .file old) → after.entry? location = some entry)
    (reached : before.walk true links here names = .ok (.present location .directory)) :
    after.walk true links here names = .ok (.present location .directory) := by
  generalize follows : true = follow at reached ⊢
  fun_induction before.walk follow links here names with
  | case1 links here => rwa [walk_nil]
  | case2 links here rest ih =>
    rw [walk_up]
    exact ih reached
  | case6 links here name rest up long next present ih =>
    rw [walk_cons ⟨up, by omega⟩, kept _ _ present (by simp)]
    exact ih reached
  | case11 here name rest up long next target present more left path ih =>
    rw [walk_cons ⟨up, by omega⟩, kept _ _ present (by simp)]
    simp only [more, Bool.false_eq_true, if_false]
    exact ih reached
  | _ => simp_all

/-- A walk that found nothing finds what was put there. -/
theorem walk_filled (larger : before.Extends after) (filled : after.entry? location = some entry)
    (solid : ∀ target, entry ≠ .link target)
    (reached : before.walk followLast links here names = .ok (.absent location)) :
    after.walk true links here names = .ok (.present location entry) := by
  fun_induction before.walk followLast links here names with
  | case2 links here rest ih =>
    rw [walk_up]
    exact ih reached
  | case4 links here name rest up long next absent last =>
    obtain rfl := Found.absent.inj (Except.ok.inj reached)
    rw [walk_cons ⟨up, by omega⟩, filled]
    cases entry with
    | file bytes => simp [last, next]
    | directory => simp [List.isEmpty_iff.mp last, walk_nil, next]
    | link target => exact absurd rfl (solid target)
  | case6 links here name rest up long next present ih =>
    rw [walk_cons ⟨up, by omega⟩, larger _ _ present]
    exact ih reached
  | case11 here name rest up long next target present more left path ih =>
    rw [walk_cons ⟨up, by omega⟩, larger _ _ present]
    simpa using ih reached
  | _ => simp at reached

/-- A walk that ends at an entry ends at one when it does not follow a link in last place. -/
theorem walk_unfollowed
    (reached : tree.walk true links here names = .ok (.present location entry)) :
    ∃ other found, tree.walk false links here names = .ok (.present other found) := by
  generalize follows : true = follow at reached
  fun_induction tree.walk follow links here names with
  | case1 links here => exact ⟨here, .directory, walk_nil⟩
  | case2 links here rest ih =>
    rw [walk_up]
    exact ih reached
  | case6 links here name rest up long next present ih =>
    rw [walk_cons ⟨up, by omega⟩, present]
    exact ih reached
  | case7 links here name rest up long next bytes present last =>
    rw [walk_cons ⟨up, by omega⟩, present]
    exact ⟨next, .file bytes, if_pos last⟩
  | case11 here name rest up long next target present more left path ih =>
    rw [walk_cons ⟨up, by omega⟩, present]
    by_cases last : rest.isEmpty = true
    · exact ⟨next, .link target, by simp [last, next]⟩
    · obtain ⟨other, found, onward⟩ := ih reached
      exact ⟨other, found, by simpa [last, path] using onward⟩
  | _ => simp_all

end SymbolIndex.Tree
