import SymbolIndex.Text.Order

/-! The order by folded form is total, so a sorted list without repetitions rises strictly. -/
namespace SymbolIndex.Text
variable {s t u : Text} {items : List Text}

/-- Strict lexicographic order by code point. -/
def CodeLt (s t : Text) : Prop := List.Lex (fun a b : Char => a.toNat < b.toNat) s t

/-- The first text stands before the second: by folded form, and by code point where those are
equal. -/
def FoldedLt (s t : Text) : Prop := CodeLt (fold s) (fold t) ∨ fold s = fold t ∧ CodeLt s t

section Strict
variable (less : Text → Text → Prop) (chain : ∀ {s t u}, less s t → less t u → less s u)
include chain

theorem lessOrEq_trans (first : less s t ∨ s = t) (second : less t u ∨ t = u) : less s u ∨ s = u := by
  rcases first with below | rfl
  · rcases second with above | rfl
    · exact Or.inl (chain below above)
    · exact Or.inl below
  · exact second

theorem lessOrEq_antisymm (strict : ∀ s, ¬less s s) (first : less s t ∨ s = t)
    (second : less t s ∨ t = s) : s = t := by
  rcases first with below | same
  · rcases second with above | same
    · exact absurd (chain below above) (strict s)
    · exact same.symm
  · exact same

end Strict

theorem codeLt_cons {a b : Char} :
    CodeLt (a :: s) (b :: t) ↔ a.toNat < b.toNat ∨ a = b ∧ CodeLt s t := List.cons_lex_cons_iff

theorem codeLt_irrefl (s : Text) : ¬CodeLt s s := by
  induction s with
  | nil => exact nofun
  | cons a s ih =>
    rw [codeLt_cons]
    rintro (less | ⟨_, later⟩)
    · exact Nat.lt_irrefl _ less
    · exact ih later

theorem CodeLt.trans (first : CodeLt s t) (second : CodeLt t u) : CodeLt s u := by
  induction first generalizing u with
  | nil => cases second <;> exact .nil
  | rel less =>
    cases second with
    | rel less' => exact .rel (Nat.lt_trans less less')
    | cons later => exact .rel less
  | cons rest ih =>
    cases second with
    | rel less => exact .rel less
    | cons later => exact .cons (ih later)

theorem le_iff : le s t = true ↔ CodeLt s t ∨ s = t := by
  induction s generalizing t with
  | nil =>
    cases t with
    | nil => simp [le]
    | cons b t => exact ⟨fun _ => Or.inl .nil, fun _ => rfl⟩
  | cons a s ih =>
    cases t with
    | nil => simp [le, CodeLt]
    | cons b t =>
      rw [le, Bool.or_eq_true, Bool.and_eq_true, ih, codeLt_cons, List.cons.injEq, and_or_left,
        or_assoc]
      simp [Char.lt_def, UInt32.lt_iff_toNat_lt]

theorem le_trans (first : le s t = true) (second : le t u = true) : le s u = true := by
  rw [le_iff] at first second ⊢
  exact lessOrEq_trans CodeLt CodeLt.trans first second

theorem le_antisymm (first : le s t = true) (second : le t s = true) : s = t := by
  rw [le_iff] at first second
  exact lessOrEq_antisymm CodeLt CodeLt.trans codeLt_irrefl first second

theorem foldedLe_iff : foldedLe s t = true ↔ FoldedLt s t ∨ s = t := by
  by_cases same : fold s = fold t
  · rw [foldedLe, if_pos same, le_iff]
    simp [FoldedLt, same, codeLt_irrefl]
  · have other : s ≠ t := fun equal => same (congrArg fold equal)
    rw [foldedLe, if_neg same, le_iff]
    simp [FoldedLt, same, other]

theorem FoldedLt.trans (first : FoldedLt s t) (second : FoldedLt t u) : FoldedLt s u := by
  rcases first with less | ⟨same, less⟩ <;> rcases second with less' | ⟨same', less'⟩
  · exact Or.inl (less.trans less')
  · exact Or.inl (same' ▸ less)
  · exact Or.inl (same ▸ less')
  · exact Or.inr ⟨same.trans same', less.trans less'⟩

theorem foldedLe_trans (s t u : Text) (first : foldedLe s t = true) (second : foldedLe t u = true) :
    foldedLe s u = true := by
  rw [foldedLe_iff] at first second ⊢
  exact lessOrEq_trans FoldedLt FoldedLt.trans first second

theorem FoldedLt.irrefl (s : Text) : ¬FoldedLt s s := by
  rintro (less | ⟨_, less⟩) <;> exact codeLt_irrefl _ less

theorem foldedLe_antisymm (first : foldedLe s t = true) (second : foldedLe t s = true) : s = t := by
  rw [foldedLe_iff] at first second
  exact lessOrEq_antisymm FoldedLt FoldedLt.trans FoldedLt.irrefl first second

theorem le_total (s t : Text) : (le s t || le t s) = true := by
  induction s generalizing t with
  | nil => rfl
  | cons a s ih =>
    cases t with
    | nil => rfl
    | cons b t =>
      simp only [Bool.or_eq_true, le_iff, codeLt_cons, List.cons.injEq] at ih ⊢
      rcases Nat.lt_trichotomy a.toNat b.toNat with less | same | more
      · exact Or.inl (Or.inl (Or.inl less))
      · have same : a = b := Char.toNat_inj.mp same
        subst same
        simpa using ih t
      · exact Or.inr (Or.inl (Or.inl more))

theorem foldedLe_total (s t : Text) : (foldedLe s t || foldedLe t s) = true := by
  by_cases same : fold s = fold t
  · simp only [foldedLe, same, if_true]
    exact le_total s t
  · simp only [foldedLe, same, Ne.symm same, if_false]
    exact le_total (fold s) (fold t)

/-- Sorting puts different texts in strict order. -/
theorem sortFolded_strict (distinct : items.Nodup) : (sortFolded items).Pairwise FoldedLt := by
  have sorted := List.pairwise_mergeSort foldedLe_trans foldedLe_total items
  have apart : (sortFolded items).Nodup := (List.mergeSort_perm items foldedLe).nodup_iff.mpr distinct
  refine sorted.imp₂ (fun s t ordered other => ?_) apart
  rcases foldedLe_iff.mp ordered with less | same
  · exact less
  · exact absurd same other

theorem mem_sortFolded : s ∈ sortFolded items ↔ s ∈ items := List.mem_mergeSort

/-- Sorting by code point puts different texts in strict order. -/
theorem sort_strict (distinct : items.Nodup) : (sort items).Pairwise CodeLt := by
  have sorted := @List.pairwise_mergeSort _ le (fun _ _ _ => le_trans) le_total items
  have apart : (sort items).Nodup := (List.mergeSort_perm items le).nodup_iff.mpr distinct
  refine sorted.imp₂ (fun s t ordered other => ?_) apart
  exact (le_iff.mp ordered).resolve_right other

theorem mem_sort : s ∈ sort items ↔ s ∈ items := List.mem_mergeSort

end SymbolIndex.Text
