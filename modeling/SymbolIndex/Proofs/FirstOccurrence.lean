import Mathlib.Data.List.Basic
import SymbolIndex.FirstOccurrence

/-! Which members stay when the first of every key is kept: those that come first of their key.
Keys may be told apart in another way, and groups may be taken one after another. -/
namespace SymbolIndex
variable {α γ κ ι : Type} {key : α → κ} {items : List α} {a : α}

/-- The member is there, and none before it has its key. -/
def FirstOf (key : α → κ) (items : List α) (a : α) : Prop :=
  ∃ before after, items = before ++ a :: after ∧ key a ∉ before.map key

theorem firstOf_cons {b : α} :
    FirstOf key (b :: items) a ↔ a = b ∨ FirstOf key items a ∧ key a ≠ key b := by
  constructor
  · rintro ⟨before, after, split, fresh⟩
    cases before with
    | nil => exact Or.inl (List.cons.inj split).1.symm
    | cons c before =>
      obtain ⟨rfl, rest⟩ := List.cons.inj split
      rw [List.map_cons, List.mem_cons, not_or] at fresh
      exact Or.inr ⟨⟨before, after, rest, fresh.2⟩, fresh.1⟩
  · rintro (rfl | ⟨⟨before, after, split, fresh⟩, other⟩)
    · exact ⟨[], items, rfl, List.not_mem_nil⟩
    · refine ⟨b :: before, after, by rw [split, List.cons_append], ?_⟩
      rw [List.map_cons, List.mem_cons, not_or]
      exact ⟨other, fresh⟩

variable [DecidableEq κ]

theorem mem_firstBy_iff : a ∈ firstBy key items ↔ FirstOf key items a := by
  induction items with
  | nil => simp [firstBy, FirstOf]
  | cons b rest ih =>
    rw [firstBy, List.mem_cons, List.mem_filter, ih, firstOf_cons, decide_eq_true_eq]

/-- The first of a key heads the members that have the key. -/
theorem FirstOf.head?_filter (first : FirstOf key items a) :
    (items.filter (key · = key a)).head? = some a := by
  obtain ⟨before, after, rfl, fresh⟩ := first
  have none : before.filter (key · = key a) = [] := by
    refine List.filter_eq_nil_iff.mpr fun b member same => fresh ?_
    exact List.mem_map.mpr ⟨b, member, by simpa using same⟩
  rw [List.filter_append, none, List.nil_append, List.filter_cons_of_pos (by simp), List.head?_cons]

theorem firstBy_sublist (key : α → κ) (items : List α) : (firstBy key items).Sublist items := by
  induction items with
  | nil => exact List.Sublist.slnil
  | cons b rest ih => exact (List.filter_sublist.trans ih).cons_cons b

/-- Behind other members those stay whose keys are new. -/
theorem firstBy_append (key : α → κ) (before after : List α) : firstBy key (before ++ after) =
    firstBy key before ++ (firstBy key after).filter (key · ∉ before.map key) := by
  induction before with
  | nil => simp [firstBy]
  | cons b before ih =>
    rw [List.cons_append, firstBy, firstBy, ih, List.filter_append, List.filter_filter,
      List.cons_append]
    simp [not_or]

/-- Of members that stand between others, the first of every key is kept, if none before them has
their keys. -/
theorem filter_firstBy_between {before after : List α} {p : α → Bool}
    (own : ∀ a ∈ items, p a = true) (outside : ∀ a ∈ before ++ after, p a = false)
    (fresh : ∀ a ∈ items, key a ∉ before.map key) :
    (firstBy key (before ++ (items ++ after))).filter p = firstBy key items := by
  have front : (firstBy key before).filter p = [] := List.filter_eq_nil_iff.mpr fun a kept => by
    simp [outside a (List.mem_append_left after (mem_of_mem_firstBy kept))]
  have back (q : α → Bool) : ((firstBy key after).filter q).filter p = [] :=
    List.filter_eq_nil_iff.mpr fun a kept => by
      have member := mem_of_mem_firstBy (List.mem_filter.mp kept).1
      simp [outside a (List.mem_append_right before member)]
  have whole : (firstBy key items).filter p = firstBy key items :=
    List.filter_eq_self.mpr fun a kept => own a (mem_of_mem_firstBy kept)
  rw [firstBy_append, List.filter_append, front, List.nil_append, List.filter_comm, firstBy_append,
    List.filter_append, back, List.append_nil, whole]
  exact List.filter_eq_self.mpr fun a kept => decide_eq_true (fresh a (mem_of_mem_firstBy kept))

theorem unique_cons [DecidableEq α] (a : α) (items : List α) :
    unique (a :: items) = a :: (unique items).filter (· ≠ a) := rfl

/-- A list without repetitions is kept as it is. -/
theorem unique_of_nodup [DecidableEq α] (distinct : items.Nodup) : unique items = items := by
  induction items with
  | nil => rfl
  | cons b rest ih =>
    obtain ⟨fresh, later⟩ := List.nodup_cons.mp distinct
    rw [unique_cons, ih later, List.filter_eq_self.mpr]
    exact fun a member => decide_eq_true fun same => fresh (same ▸ member)

/-- What is kept is in the order in which it first occurs. -/
theorem unique_ordered [DecidableEq α] [BEq α] [LawfulBEq α] (items : List α) :
    (unique items).Pairwise (items.idxOf · < items.idxOf ·) := by
  induction items with
  | nil => exact List.Pairwise.nil
  | cons b rest ih =>
    have behind {a : α} (member : a ∈ (unique rest).filter (· ≠ b)) :
        (b :: rest).idxOf a = rest.idxOf a + 1 := by
      have other : a ≠ b := by simpa using (List.mem_filter.mp member).2
      exact List.idxOf_cons_ne rest (Ne.symm other)
    rw [unique_cons]
    refine List.pairwise_cons.mpr ⟨fun a member => ?_, ?_⟩
    · rw [List.idxOf_cons_self, behind member]
      exact Nat.succ_pos _
    · refine (ih.filter _).imp_of_mem fun member also before => ?_
      rw [behind member, behind also]
      exact Nat.succ_lt_succ before

/-- The keys that are kept are all keys, each once. -/
theorem map_firstBy (key : α → κ) (items : List α) :
    (firstBy key items).map key = unique (items.map key) := by
  induction items with
  | nil => rfl
  | cons b rest ih =>
    rw [firstBy, List.map_cons, List.map_cons, unique_cons, ← ih, List.filter_map]
    rfl

/-- Leaving out whole keys before or after makes no difference. -/
theorem firstBy_filter (key : α → κ) (p : α → Bool) (items : List α)
    (whole : ∀ a ∈ items, ∀ b ∈ items, key a = key b → p a = p b) :
    firstBy key (items.filter p) = (firstBy key items).filter p := by
  induction items with
  | nil => rfl
  | cons b rest ih =>
    have later := ih fun a member c also =>
      whole a (List.mem_cons_of_mem b member) c (List.mem_cons_of_mem b also)
    rw [firstBy]
    by_cases keeps : p b = true
    · rw [List.filter_cons_of_pos keeps, List.filter_cons_of_pos keeps, firstBy, later,
        List.filter_filter, List.filter_filter]
      simp only [Bool.and_comm]
    · rw [List.filter_cons_of_neg keeps, List.filter_cons_of_neg keeps, later, List.filter_filter]
      refine List.filter_congr fun a member => ?_
      have listed := List.mem_cons_of_mem b (mem_of_mem_firstBy member)
      cases kept : p a with
      | false => rfl
      | true =>
        have other : key a ≠ key b := fun same =>
          keeps ((whole a listed b List.mem_cons_self same).symm.trans kept)
        simp [other]

/-- Keys that tell the same members apart keep the same members. -/
theorem firstBy_congr [DecidableEq ι] {other : α → ι}
    (same : ∀ a ∈ items, ∀ b ∈ items, key a = key b ↔ other a = other b) :
    firstBy key items = firstBy other items := by
  induction items with
  | nil => rfl
  | cons b rest ih =>
    rw [firstBy, firstBy, ← ih fun a member c also =>
      same a (List.mem_cons_of_mem b member) c (List.mem_cons_of_mem b also)]
    refine congrArg (b :: ·) (List.filter_congr fun a member => ?_)
    have listed := List.mem_cons_of_mem b (mem_of_mem_firstBy member)
    simp only [ne_eq, same a listed b List.mem_cons_self]

/-- What is taken from labelled lists in their order is still grouped by the labels. -/
theorem eq_flatMap_filter_of_sublist [DecidableEq γ] {f : γ → List α} {label : α → γ}
    {groups : List γ} (distinct : groups.Nodup)
    (labelled : ∀ group ∈ groups, ∀ a ∈ f group, label a = group)
    (taken : items.Sublist (groups.flatMap f)) :
    items = groups.flatMap fun group => items.filter (label · = group) := by
  induction groups generalizing items with
  | nil => simpa using taken
  | cons group rest ih =>
    obtain ⟨fresh, distinct⟩ := List.nodup_cons.mp distinct
    rw [List.flatMap_cons] at taken
    obtain ⟨here, later, rfl, first, second⟩ := List.sublist_append_iff.mp taken
    have own : ∀ a ∈ here, label a = group := fun a member =>
      labelled group List.mem_cons_self a (first.subset member)
    have other : ∀ a ∈ later, label a ∈ rest := by
      intro a member
      obtain ⟨g, listed, inside⟩ := List.mem_flatMap.mp (second.subset member)
      exact labelled g (List.mem_cons_of_mem group listed) a inside ▸ listed
    have behind := ih distinct (fun g listed => labelled g (List.mem_cons_of_mem group listed)) second
    have left : (here ++ later).filter (label · = group) = here := by
      rw [List.filter_append, List.filter_eq_self.mpr, List.filter_eq_nil_iff.mpr, List.append_nil]
      · exact fun a member same => fresh (of_decide_eq_true same ▸ other a member)
      · exact fun a member => decide_eq_true (own a member)
    have right : ∀ g ∈ rest, (here ++ later).filter (label · = g) = later.filter (label · = g) := by
      intro g listed
      rw [List.filter_append, List.filter_eq_nil_iff.mpr, List.nil_append]
      exact fun a member same => fresh (own a member ▸ of_decide_eq_true same ▸ listed)
    rw [List.flatMap_cons, left, List.flatMap_congr right, ← behind]

end SymbolIndex
