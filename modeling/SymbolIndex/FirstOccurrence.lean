/-! Lists without repetitions, keeping of each key the member that comes first. -/
namespace SymbolIndex

/-- Keep the first member of every key, in the order they come. -/
def firstBy {α κ : Type} [DecidableEq κ] (key : α → κ) : List α → List α
  | [] => []
  | a :: rest => a :: (firstBy key rest).filter (key · ≠ key a)

def unique {α : Type} [DecidableEq α] (items : List α) : List α := firstBy id items

theorem mem_of_mem_firstBy {α κ : Type} [DecidableEq κ] {key : α → κ} {items : List α} {a : α}
    (kept : a ∈ firstBy key items) : a ∈ items := by
  induction items with
  | nil => exact kept
  | cons b rest ih =>
    rcases List.mem_cons.mp kept with same | later
    · exact same ▸ List.mem_cons_self
    · exact List.mem_cons_of_mem b (ih (List.mem_filter.mp later).1)

/-- Every key has a member among the first ones. -/
theorem exists_mem_firstBy {α κ : Type} [DecidableEq κ] {key : α → κ} {items : List α} {a : α}
    (member : a ∈ items) : ∃ b ∈ firstBy key items, key b = key a := by
  induction items with
  | nil => simp at member
  | cons b rest ih =>
    by_cases same : key a = key b
    · exact ⟨b, List.mem_cons_self, same.symm⟩
    · rcases List.mem_cons.mp member with here | later
      · exact absurd (congrArg key here) same
      · obtain ⟨kept, found, matching⟩ := ih later
        exact ⟨kept, List.mem_cons_of_mem b (List.mem_filter.mpr ⟨found, by simp [matching, same]⟩),
          matching⟩

theorem nodup_map_firstBy {α κ : Type} [DecidableEq κ] (key : α → κ) (items : List α) :
    ((firstBy key items).map key).Nodup := by
  induction items with
  | nil => exact List.nodup_nil
  | cons b rest ih =>
    simp only [firstBy, List.map_cons, List.nodup_cons]
    refine ⟨?_, ?_⟩
    · intro again
      obtain ⟨a, kept, same⟩ := List.mem_map.mp again
      simpa [same] using (List.mem_filter.mp kept).2
    · exact ih.sublist (List.Sublist.map key List.filter_sublist)

theorem firstBy_map {α β κ : Type} [DecidableEq κ] (key : β → κ) (f : α → β) (items : List α) :
    firstBy key (items.map f) = (firstBy (key ∘ f) items).map f := by
  induction items with
  | nil => rfl
  | cons a rest ih =>
    rw [List.map_cons, firstBy, ih, firstBy, List.map_cons, List.filter_map]
    rfl

theorem mem_unique {α : Type} [DecidableEq α] {items : List α} {a : α} :
    a ∈ unique items ↔ a ∈ items := by
  refine ⟨mem_of_mem_firstBy, fun member => ?_⟩
  obtain ⟨b, kept, same⟩ : ∃ b ∈ firstBy id items, id b = id a := exists_mem_firstBy member
  exact (show b = a from same) ▸ kept

theorem nodup_unique {α : Type} [DecidableEq α] (items : List α) : (unique items).Nodup := by
  simpa [unique] using nodup_map_firstBy id items

end SymbolIndex
