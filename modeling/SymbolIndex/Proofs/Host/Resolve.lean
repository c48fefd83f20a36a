import SymbolIndex.Proofs.Host.Growth
import SymbolIndex.Proofs.Host.Sound

/-! Resolution: a path that leads to an entry resolves to the place of that entry. The walk replaces
a link by the names of its target, while resolution enters each link once and remembers where it
led, so both are compared with a relation that counts the links on the way. -/
namespace SymbolIndex
namespace Tree
variable {tree : Tree} {here location other place middle : Location} {name target : Text}
  {names rest : List Text} {count first second fuel : Nat} {entry : Entry}

/-- Where the target of a link in a directory is taken from. -/
def linkBase (here : Location) (target : Text) : Location :=
  if (Path.ofText target).isAbsolute then [] else here

/-- Names lead from a directory to a place by so many links. What has no entry stands for itself. -/
inductive Leads (tree : Tree) : Location → List Text → Location → Nat → Prop
  | stop {here : Location} : Leads tree here [] here 0
  | up {here location : Location} {rest : List Text} {count : Nat}
      (onward : Leads tree here.dropLast rest location count) :
      Leads tree here (['.', '.'] :: rest) location count
  | down {here location : Location} {name : Text} {rest : List Text} {count : Nat}
      (plain : name ≠ ['.', '.'])
      (solid : ∀ target, tree.entry? (here ++ [name]) ≠ some (.link target))
      (onward : Leads tree (here ++ [name]) rest location count) :
      Leads tree here (name :: rest) location count
  | link {here middle location : Location} {name target : Text} {rest : List Text}
      {first second : Nat} (plain : name ≠ ['.', '.'])
      (present : tree.entry? (here ++ [name]) = some (.link target))
      (inside : Leads tree (linkBase here target) (Path.ofText target).names middle first)
      (onward : Leads tree middle rest location second) :
      Leads tree here (name :: rest) location (first + second + 1)

/-- There is one way. -/
theorem Leads.unique {count' : Nat} (one : Leads tree here names location count)
    (two : Leads tree here names other count') : location = other ∧ count = count' := by
  induction one generalizing other count' with
  | stop =>
    cases two
    exact ⟨rfl, rfl⟩
  | up onward ih =>
    cases two with
    | up onward' => exact ih onward'
    | down plain => exact absurd rfl plain
    | link plain => exact absurd rfl plain
  | down plain solid onward ih =>
    cases two with
    | up => exact absurd rfl plain
    | down _ _ onward' => exact ih onward'
    | link _ present => exact absurd present (solid _)
  | link plain present inside onward ihInside ihOnward =>
    cases two with
    | up => exact absurd rfl plain
    | down _ solid => exact absurd present (solid _)
    | link _ present' inside' onward' =>
      obtain rfl := Entry.link.inj (Option.some.inj (present.symm.trans present'))
      obtain ⟨rfl, rfl⟩ := ihInside inside'
      obtain ⟨rfl, rfl⟩ := ihOnward onward'
      exact ⟨rfl, rfl⟩

/-- The way along names in two parts goes by the end of the first. -/
theorem Leads.split (leads : Leads tree here (names ++ rest) location count) :
    ∃ middle first second, Leads tree here names middle first ∧
      Leads tree middle rest location second := by
  induction names generalizing here count with
  | nil => exact ⟨here, 0, count, .stop, leads⟩
  | cons name more ih =>
    cases leads with
    | up onward =>
      obtain ⟨middle, first, second, before, after⟩ := ih onward
      exact ⟨middle, first, second, .up before, after⟩
    | down plain solid onward =>
      obtain ⟨middle, first, second, before, after⟩ := ih onward
      exact ⟨middle, first, second, .down plain solid before, after⟩
    | link plain present inside onward =>
      obtain ⟨middle, first, second, before, after⟩ := ih onward
      exact ⟨middle, _, second, .link plain present inside before, after⟩

/-- A walk that follows every link goes where the names lead. -/
theorem leads_of_walk {links : Nat}
    (reached : tree.walk true links here names = .ok (.present location entry)) :
    ∃ count, Leads tree here names location count := by
  generalize follows : true = follow at reached
  fun_induction tree.walk follow links here names with
  | case1 links here =>
    obtain ⟨rfl, _⟩ := Found.present.inj (Except.ok.inj reached)
    exact ⟨0, .stop⟩
  | case2 links here rest ih =>
    obtain ⟨count, onward⟩ := ih reached
    exact ⟨count, .up onward⟩
  | case6 links here name rest up long next present ih =>
    obtain ⟨count, onward⟩ := ih reached
    exact ⟨count, .down up (by simp [next, present] at *) onward⟩
  | case7 links here name rest up long next bytes present last =>
    obtain ⟨rfl, _⟩ := Found.present.inj (Except.ok.inj reached)
    rw [List.isEmpty_iff.mp last]
    exact ⟨0, .down up (by simp [next, present] at *) .stop⟩
  | case11 here name rest up long next target present more left path ih =>
    obtain ⟨count, onward⟩ := ih reached
    obtain ⟨middle, first, second, inside, after⟩ := onward.split
    exact ⟨first + second + 1, .link up present inside after⟩
  | _ => simp_all

/-- What a resolution has noted on a place: nothing, that the link there is being resolved, or where
it leads. -/
abbrev note? (seen : List (Location × Option Location)) (place : Location) :
    Option (Option Location) :=
  (seen.find? (·.1 = place)).map Prod.snd

variable {seen after : List (Location × Option Location)} {noted : Option Location}

theorem note?_cons : note? ((place, noted) :: seen) other =
    if place = other then some noted else note? seen other := by
  by_cases same : place = other <;> simp [note?, same]

/-- How many links a resolution has not entered. -/
def unseen (tree : Tree) (seen : List (Location × Option Location)) : Nat :=
  (tree.entries.filter fun entry => (entry.2 matches .link _) && (note? seen entry.1).isNone).length

theorem unseen_le (kept : ∀ place, note? after place = none → note? seen place = none) :
    tree.unseen after ≤ tree.unseen seen := by
  rw [unseen, unseen, ← List.countP_eq_length_filter, ← List.countP_eq_length_filter]
  refine List.countP_mono_left fun entry _ counted => ?_
  rw [Bool.and_eq_true, Option.isNone_iff_eq_none] at counted ⊢
  exact ⟨counted.1, kept _ counted.2⟩

theorem unseen_cons_lt (present : tree.entry? place = some (.link target)) (inside : place ≠ [])
    (new : note? seen place = none) : tree.unseen ((place, noted) :: seen) < tree.unseen seen := by
  rw [entry?_of_ne_nil inside, Option.map_eq_some_iff] at present
  obtain ⟨⟨there, entry⟩, found, rfl⟩ := present
  obtain rfl : there = place := by simpa using List.find?_some found
  have member := List.mem_of_find?_eq_some found
  have fewer : (tree.entries.filter fun entry =>
      (entry.2 matches .link _) && (note? ((there, noted) :: seen) entry.1).isNone) =
      (tree.entries.filter fun entry =>
        (entry.2 matches .link _) && (note? seen entry.1).isNone).filter (·.1 ≠ there) := by
    rw [List.filter_filter]
    refine List.filter_congr fun entry _ => ?_
    rw [note?_cons]
    by_cases same : there = entry.1
    · simp [same]
    · simp [same, Ne.symm same]
  rw [unseen, fewer]
  refine List.length_filter_lt_length_iff_exists.mpr ⟨_, List.mem_filter.mpr ⟨member, ?_⟩, by simp⟩
  simp [new]

/-- Every link noted with a place leads there. -/
def Known (tree : Tree) (seen : List (Location × Option Location)) : Prop :=
  ∀ here name place, note? seen (here ++ [name]) = some (some place) →
    ∃ count, Leads tree here [name] place count

/-- Every link that is being resolved has more links ahead than these. -/
def Waiting (tree : Tree) (seen : List (Location × Option Location)) (count : Nat) : Prop :=
  ∀ here name place total, note? seen (here ++ [name]) = some none →
    Leads tree here [name] place total → count < total

theorem Waiting.mono (waiting : Waiting tree seen count) (fewer : first ≤ count) :
    Waiting tree seen first := by
  intro here name place total noted leads
  have less := waiting here name place total noted leads
  omega

theorem Known.wait (known : Known tree seen) (here : Location) (name : Text) :
    Known tree ((here ++ [name], none) :: seen) := by
  intro here' name' place noted
  rw [note?_cons] at noted
  split at noted
  · cases noted
  · exact known here' name' place noted

theorem Waiting.wait (waiting : Waiting tree seen count)
    (leads : Leads tree here [name] place (first + 1)) (fewer : first ≤ count) :
    Waiting tree ((here ++ [name], none) :: seen) first := by
  intro here' name' place' total noted leads'
  rw [note?_cons] at noted
  split at noted
  · rename_i same
    obtain ⟨rfl, named⟩ := List.append_inj' same rfl
    obtain rfl := List.singleton_inj.mp named
    obtain ⟨_, rfl⟩ := leads.unique leads'
    omega
  · have less := waiting here' name' place' total noted leads'
    omega

theorem Known.note (known : Known tree seen) (leads : Leads tree here [name] place count) :
    Known tree ((here ++ [name], some place) :: seen) := by
  intro here' name' place' noted
  rw [note?_cons] at noted
  split at noted
  · rename_i same
    obtain ⟨rfl, named⟩ := List.append_inj' same rfl
    obtain rfl := List.singleton_inj.mp named
    obtain rfl := Option.some.inj (Option.some.inj noted)
    exact ⟨count, leads⟩
  · exact known here' name' place' noted

/-- What a resolution that comes to its end leaves of the notes: links that it did not resolve are
noted as before. -/
structure Carries (tree : Tree) (seen after : List (Location × Option Location)) : Prop where
  known : Known tree after
  same : ∀ place, (∀ target, note? after place ≠ some (some target)) →
    note? after place = note? seen place

/-- Once its target is resolved, a link is no longer noted as waiting. -/
theorem Carries.same_of_noted {inner : List (Location × Option Location)}
    (carries : Carries tree ((place, none) :: seen) inner) (asked : Location)
    (unresolved : ∀ target, note? ((place, some other) :: inner) asked ≠ some (some target)) :
    note? ((place, some other) :: inner) asked = note? seen asked := by
  have apart : place ≠ asked := fun same => unresolved other (by rw [note?_cons, if_pos same])
  rw [note?_cons, if_neg apart] at unresolved ⊢
  rw [carries.same asked unresolved, note?_cons, if_neg apart]

theorem Waiting.carried {inner : List (Location × Option Location)} (waiting : Waiting tree seen count)
    (carries : Carries tree ((place, none) :: seen) inner) :
    Waiting tree ((place, some other) :: inner) count := by
  intro here name place' total noted leads
  have same := carries.same_of_noted (here ++ [name]) fun target resolved => by
    cases noted.symm.trans resolved
  exact waiting here name place' total (same ▸ noted) leads

theorem Carries.unseen_le {inner : List (Location × Option Location)}
    (carries : Carries tree ((place, none) :: seen) inner) (other : Location) :
    tree.unseen ((place, some other) :: inner) ≤ tree.unseen ((place, none) :: seen) := by
  refine Tree.unseen_le fun asked noted => ?_
  rw [note?_cons] at noted
  split at noted
  · cases noted
  · rw [← carries.same asked (by simp [noted]), noted]

theorem Carries.trans {inner : List (Location × Option Location)}
    (second : Carries tree ((place, some other) :: inner) after)
    (first : Carries tree ((place, none) :: seen) inner) : Carries tree seen after := by
  refine ⟨second.known, fun asked unresolved => ?_⟩
  have later := second.same asked unresolved
  rw [later, first.same_of_noted asked (by simpa [later] using unresolved)]

section Steps
variable (plain : name ≠ ['.', '.'])
include plain

theorem resolveFrom_down (solid : ∀ target, tree.entry? (here ++ [name]) ≠ some (.link target)) :
    tree.resolveFrom fuel here seen (name :: rest) =
      tree.resolveFrom fuel (here ++ [name]) seen rest := by
  rw [resolveFrom, if_neg plain]
  dsimp only
  split
  · rename_i target present
    exact absurd present (solid target)
  · rfl

theorem resolveFrom_known (present : tree.entry? (here ++ [name]) = some (.link target))
    (noted : note? seen (here ++ [name]) = some (some place)) :
    tree.resolveFrom fuel here seen (name :: rest) = tree.resolveFrom fuel place seen rest := by
  rw [resolveFrom, if_neg plain]
  simp only [present, noted]

theorem resolveFrom_link (present : tree.entry? (here ++ [name]) = some (.link target))
    (noted : note? seen (here ++ [name]) = none)
    (inner : tree.resolveFrom fuel (linkBase here target) ((here ++ [name], none) :: seen)
      (Path.ofText target).names = ⟨middle, true, after⟩) :
    tree.resolveFrom (fuel + 1) here seen (name :: rest) =
      tree.resolveFrom fuel middle ((here ++ [name], some middle) :: after) rest := by
  rw [linkBase] at inner
  rw [resolveFrom, if_neg plain]
  simp only [present, noted, inner, if_true]

end Steps

/-- Names that lead to a place are resolved to it: no link on the way is one that waits for this
very resolution, and there is fuel for all of them. -/
theorem resolveFrom_of_leads (leads : Leads tree here names location count) (known : Known tree seen)
    (waiting : Waiting tree seen count) (room : tree.unseen seen ≤ fuel) :
    ∃ after, tree.resolveFrom fuel here seen names = ⟨location, true, after⟩ ∧
      Carries tree seen after := by
  induction leads generalizing seen fuel with
  | stop => exact ⟨seen, by rw [resolveFrom], known, fun _ _ => rfl⟩
  | up onward ih =>
    rw [resolveFrom, if_pos rfl]
    exact ih known waiting room
  | down plain solid onward ih =>
    rw [resolveFrom_down plain solid]
    exact ih known waiting room
  | @link here middle location name target rest first second plain present inside onward ihInside
      ihOnward =>
    have whole : Leads tree here [name] middle (first + 0 + 1) := .link plain present inside .stop
    cases noted : note? seen (here ++ [name]) with
    | some note =>
      cases note with
      | none =>
        -- a link that waits for itself would lead nowhere
        have less := waiting here name middle _ noted whole
        omega
      | some place =>
        obtain ⟨_, leads⟩ := known here name place noted
        obtain ⟨rfl, _⟩ := leads.unique whole
        rw [resolveFrom_known plain present noted]
        exact ihOnward known (waiting.mono (by omega)) room
    | none =>
      have fewer : tree.unseen ((here ++ [name], none) :: seen) < tree.unseen seen :=
        unseen_cons_lt present (by simp) noted
      obtain ⟨left, rfl⟩ : ∃ left, fuel = left + 1 := ⟨fuel - 1, by omega⟩
      have spare : tree.unseen ((here ++ [name], none) :: seen) ≤ left := by omega
      -- while the target is resolved, the link is noted as waiting for it
      obtain ⟨inner, resolved, carries⟩ := ihInside (known.wait here name)
        (waiting.wait whole (by omega)) spare
      rw [resolveFrom_link plain present noted resolved]
      obtain ⟨after, finished, carries'⟩ := ihOnward (carries.known.note whole)
        ((waiting.mono (by omega)).carried carries) (Nat.le_trans (carries.unseen_le middle) spare)
      exact ⟨after, finished, carries'.trans carries⟩

/-- No link stands on the way down to a location. -/
def Clear (tree : Tree) (location : Location) : Prop :=
  ∀ front target, front <+: location → tree.entry? front ≠ some (.link target)

theorem clear_nil : Clear tree [] := by
  intro front target above
  rw [List.prefix_nil.mp above]
  exact nofun

theorem Clear.above (clear : Clear tree location) (above : other <+: location) : Clear tree other :=
  fun front target ahead => clear front target (ahead.trans above)

theorem Clear.concat (clear : Clear tree location)
    (solid : ∀ target, tree.entry? (location ++ [name]) ≠ some (.link target)) :
    Clear tree (location ++ [name]) := by
  intro front target ahead
  rcases List.prefix_concat_iff.mp ahead with rfl | above
  · exact solid target
  · exact clear front target above

/-- Where names lead, all links on the way are followed. -/
theorem Leads.clear (leads : Leads tree here names location count) (start : Clear tree here)
    (plain : ['.', '.'] ∉ here) : Clear tree location ∧ ['.', '.'] ∉ location := by
  induction leads with
  | stop => exact ⟨start, plain⟩
  | @up here _ _ _ onward ih =>
    exact ih (start.above (List.dropLast_prefix here)) fun up => plain (List.dropLast_subset here up)
  | down named solid onward ih =>
    refine ih (start.concat solid) fun up => ?_
    rcases List.mem_append.mp up with before | last
    · exact plain before
    · exact named (List.mem_singleton.mp last).symm
  | @link here _ _ _ target _ _ _ named present inside onward ihInside ihOnward =>
    have base : Clear tree (linkBase here target) ∧ ['.', '.'] ∉ linkBase here target := by
      rw [linkBase]
      split
      · exact ⟨clear_nil, List.not_mem_nil⟩
      · exact ⟨start, plain⟩
    obtain ⟨clear, plain'⟩ := ihInside base.1 base.2
    exact ihOnward clear plain'

end Tree

namespace Host
variable {host after : Host} {path : Path} {location : Location} {entry : Entry} {names : List Text}
open SymbolIndex.Tree

/-- The place of an entry is reached by its own names. -/
theorem lookup_location (rooted : host.tree.Rooted) (named : ∀ name ∈ location, IsName name)
    (present : host.tree.entry? location = some entry) (solid : ∀ target, entry ≠ .link target) :
    host.lookup true ⟨['/'], location⟩ = .ok (.present location entry) := by
  by_cases inside : location = []
  · subst inside
    obtain rfl := Option.some.inj present
    exact walk_nil
  · exact (at_top host).lookup_below rooted inside named present solid

/-- A path with names that lead to a location is resolved to it. -/
theorem resolve_of_leads {count : Nat} (leads : Leads host.tree [] (host.cwd.join path).names location count)
    (usable : isUsable path = true) : host.resolve path =
      match host.lookup true ⟨['/'], location⟩ with
      | .error .tooManyLinks => .error (.linkLoop ⟨['/'], location⟩)
      | _ => .ok ⟨['/'], location⟩ := by
  have kept : Path.collapse true [] location = location :=
    Path.collapse_of_notMem (leads.clear clear_nil List.not_mem_nil).2
  have known : Known host.tree [] := fun _ _ _ noted => by cases noted
  have waiting : Waiting host.tree [] count := fun _ _ _ _ noted => by cases noted
  rw [resolve, if_pos usable]
  dsimp only
  generalize counted : List.length _ = fuel
  have room : host.tree.unseen [] ≤ fuel := by
    refine Nat.le_of_eq ((congrArg List.length (List.filter_congr fun entry _ => ?_)).trans counted)
    cases entry.2 <;> rfl
  obtain ⟨_, resolved, _⟩ := resolveFrom_of_leads leads known waiting room
  cases looked : host.lookup true ⟨['/'], location⟩ with
  | ok found => simp only [resolved, kept, looked]
  | error failure => cases failure <;> simp only [resolved, kept, looked]

/-- A path that leads to an entry resolves to the place of the entry, in every larger tree too. -/
theorem resolve_of_lookup (rooted : host.tree.Rooted) (larger : host.tree.Extends after.tree)
    (cwd : after.cwd = host.cwd) (usable : isUsable path = true)
    (reached : host.lookup true path = .ok (.present location entry)) :
    after.resolve path = .ok ⟨['/'], location⟩ := by
  obtain ⟨present, solid⟩ := rooted.present_of_walk rfl reached
  have named : ∀ name ∈ location, IsName name := isName_of_walk (by simp) reached
  have found : after.lookup true ⟨['/'], location⟩ = .ok (.present location entry) :=
    walk_extends larger (lookup_location rooted named present solid)
  rw [lookup, ← cwd] at reached
  obtain ⟨count, leads⟩ := leads_of_walk (walk_extends larger reached)
  rw [resolve_of_leads leads usable, found]

/-- A resolved path is absolute and has no double points. -/
theorem resolve_eq_ok {resolved : Path} (done : host.resolve path = .ok resolved) :
    isUsable path = true ∧ resolved.root = ['/'] ∧ ['.', '.'] ∉ resolved.names := by
  unfold resolve at done
  split at done
  · rename_i usable
    dsimp only at done
    split at done
    · cases done
    · rw [← Except.ok.inj done]
      exact ⟨usable, rfl, Path.notMem_collapse (by simp)⟩
  · cases done

theorem notMem_resolve {resolved : Path} (done : host.resolve path = .ok resolved) :
    ['.', '.'] ∉ resolved.names := (resolve_eq_ok done).2.2

/-- What was below a directory stays within it. -/
theorem Has.isWithin (has : host.Has location names entry) (sound : host.tree.Sound)
    (there : host.At path location) (larger : host.tree.Extends after.tree)
    (cwd : after.cwd = host.cwd) (solid : ∀ target, entry ≠ .link target) :
    Sources.isWithin after path (Sources.pathBelow path names) = true := by
  have usable := there.usable_append has.named
  have reached := has.lookup sound there solid
  rw [Sources.isWithin, resolve_of_lookup sound.rooted larger cwd usable reached,
    resolve_of_lookup sound.rooted larger cwd there.usable there.reached]
  simp [Path.below?, List.isPrefixOf_iff_prefix]

end Host
end SymbolIndex
