import SymbolIndex.Completion.Rank
import SymbolIndex.Proofs.Text.Order

/-! Members in the order of how well they match, which is one total order of texts, and the one way in
which a token splits at its last point. -/
namespace SymbolIndex.Completion
variable {token object typed s t : Text} {members : List Text}

/-- The first member stands no later than the second: it matches better, or as well and is no later
in the order of texts. -/
def RankedLe (typed s t : Text) : Prop :=
  matchRank typed s < matchRank typed t ∨
    matchRank typed s = matchRank typed t ∧ Text.foldedLe s t = true

theorem matchRank_le_two (typed member : Text) : matchRank typed member ≤ 2 := by
  rw [matchRank]
  split
  · exact Nat.zero_le 2
  · split <;> decide

/-- Every text starts with nothing. -/
theorem matchRank_nil (member : Text) : matchRank [] member = 0 := rfl

/-- The members of one rank, in order. -/
def rankGroup (members : List Text) (typed : Text) (rank : Nat) : List Text :=
  Text.sortFolded (members.filter (matchRank typed · = rank))

/-- Without a prefix all members match best, so there too the ranks follow one another. -/
theorem rankMembers_eq (members : List Text) (typed : Text) : rankMembers members typed =
    rankGroup members typed 0 ++ rankGroup members typed 1 ++ rankGroup members typed 2 := by
  cases typed with
  | nil =>
    have all : members.filter (matchRank [] · = 0) = members := List.filter_eq_self.mpr fun _ _ => rfl
    have none (rank : Nat) (late : 0 < rank) : members.filter (matchRank [] · = rank) = [] :=
      List.filter_eq_nil_iff.mpr fun s _ => by simp [matchRank_nil, Nat.ne_of_lt late]
    have empty : Text.sortFolded [] = [] := List.mergeSort_nil
    rw [rankGroup, rankGroup, rankGroup, all, none 1 (by decide), none 2 (by decide), empty,
      List.append_nil, List.append_nil]
    rfl
  | cons c typed => rfl

theorem mem_rankGroup {rank : Nat} :
    s ∈ rankGroup members typed rank ↔ s ∈ members ∧ matchRank typed s = rank := by
  simp [rankGroup, Text.mem_sortFolded]

theorem count_rankGroup (members : List Text) (typed : Text) (rank : Nat) (s : Text) :
    (rankGroup members typed rank).count s =
      if matchRank typed s = rank then members.count s else 0 := by
  rw [rankGroup, Text.sortFolded, (List.mergeSort_perm _ _).count_eq]
  split
  · rename_i ranked
    exact List.count_filter (by simpa using ranked)
  · rename_i other
    exact List.count_eq_zero.mpr fun member => other (by simpa using (List.mem_filter.mp member).2)

/-- Ranking loses no member and adds none. -/
theorem rankMembers_perm (members : List Text) (typed : Text) :
    (rankMembers members typed).Perm members := by
  refine List.perm_iff_count.mpr fun s => ?_
  have bound := matchRank_le_two typed s
  rw [rankMembers_eq, List.count_append, List.count_append, count_rankGroup, count_rankGroup,
    count_rankGroup]
  split <;> split <;> split <;> omega

theorem rankGroup_sorted (members : List Text) (typed : Text) (rank : Nat) :
    (rankGroup members typed rank).Pairwise (RankedLe typed) := by
  have sorted : (rankGroup members typed rank).Pairwise (Text.foldedLe · ·) :=
    List.pairwise_mergeSort Text.foldedLe_trans Text.foldedLe_total _
  refine sorted.imp_of_mem fun {s t} first second ordered => Or.inr ⟨?_, ordered⟩
  exact (mem_rankGroup.mp first).2.trans (mem_rankGroup.mp second).2.symm

theorem rankMembers_sorted (members : List Text) (typed : Text) :
    (rankMembers members typed).Pairwise (RankedLe typed) := by
  have apart {low high : Nat} (less : low < high) {s t : Text}
      (first : s ∈ rankGroup members typed low) (second : t ∈ rankGroup members typed high) :
      RankedLe typed s t := by
    refine Or.inl ?_
    rwa [(mem_rankGroup.mp first).2, (mem_rankGroup.mp second).2]
  rw [rankMembers_eq]
  refine List.pairwise_append.mpr ⟨List.pairwise_append.mpr ⟨rankGroup_sorted members typed 0,
    rankGroup_sorted members typed 1, fun s first t second => apart (by decide) first second⟩,
    rankGroup_sorted members typed 2, fun s first t second => ?_⟩
  rcases List.mem_append.mp first with best | next
  · exact apart (by decide) best second
  · exact apart (by decide) next second

/-! ### One order -/

/-- What a member is sorted by: its rank, its folded form and the member itself. -/
def rankKey (typed member : Text) : Nat × Text × Text :=
  (matchRank typed member, Text.fold member, member)

/-- The first member stands before the second: its key is less, the parts compared in turn. -/
def RankedLt (typed s t : Text) : Prop :=
  Prod.Lex (· < ·) (Prod.Lex Text.CodeLt Text.CodeLt) (rankKey typed s) (rankKey typed t)

theorem rankedLt_iff : RankedLt typed s t ↔
    matchRank typed s < matchRank typed t ∨
      matchRank typed s = matchRank typed t ∧ Text.FoldedLt s t := by
  rw [RankedLt, rankKey, rankKey, Prod.lex_def, Prod.lex_def]
  rfl

theorem rankedLe_iff : RankedLe typed s t ↔ RankedLt typed s t ∨ s = t := by
  rw [RankedLe, rankedLt_iff, Text.foldedLe_iff]
  constructor
  · rintro (better | ⟨level, before | same⟩)
    · exact Or.inl (Or.inl better)
    · exact Or.inl (Or.inr ⟨level, before⟩)
    · exact Or.inr same
  · rintro ((better | ⟨level, before⟩) | rfl)
    · exact Or.inl better
    · exact Or.inr ⟨level, Or.inl before⟩
    · exact Or.inr ⟨rfl, Or.inr rfl⟩

/-- Members that stand no later than one another are the same. -/
theorem RankedLe.antisymm (first : RankedLe typed s t) (second : RankedLe typed t s) : s = t := by
  rcases first with better | ⟨level, before⟩ <;> rcases second with better' | ⟨level', before'⟩
  · exact absurd better' (Nat.lt_asymm better)
  · exact absurd level' (Nat.ne_of_gt better)
  · exact absurd level (Nat.ne_of_gt better')
  · exact Text.foldedLe_antisymm before before'

/-- A list of the members in their order is the one that ranking gives. -/
theorem eq_rankMembers {ranked : List Text} (same : ranked.Perm members)
    (sorted : ranked.Pairwise (RankedLe typed)) : ranked = rankMembers members typed :=
  List.Perm.eq_of_pairwise (fun _ _ _ _ first second => first.antisymm second) sorted
    (rankMembers_sorted members typed) (same.trans (rankMembers_perm members typed).symm)

/-- The folded forms of a prefix and a member decide the rank. -/
theorem matchRank_spec (typed member : Text) :
    (matchRank typed member = 0 ↔ Text.fold typed <+: Text.fold member) ∧
    (matchRank typed member = 1 ↔
      Text.fold typed <:+: Text.fold member ∧ ¬Text.fold typed <+: Text.fold member) ∧
    (matchRank typed member = 2 ↔ ¬Text.fold typed <:+: Text.fold member) := by
  have starts : Text.fold typed <+: Text.fold member → Text.fold typed <:+: Text.fold member :=
    List.IsPrefix.isInfix
  rw [matchRank]
  simp only [List.isPrefixOf_iff_prefix, Text.contains_iff]
  by_cases first : Text.fold typed <+: Text.fold member
  · simp [first, starts first]
  · by_cases within : Text.fold typed <:+: Text.fold member <;> simp [first, within]

/-- The ranked list is the one permutation of the members in the order of rank, folded form and member, so
that ranking once more changes nothing. -/
theorem rankMembers_one_order (members : List Text) (typed : Text) :
    (∀ ranked, ranked = rankMembers members typed ↔
      ranked.Perm members ∧ ranked.Pairwise fun s t => RankedLt typed s t ∨ s = t) ∧
    (∀ member,
      (matchRank typed member = 0 ↔ Text.fold typed <+: Text.fold member) ∧
      (matchRank typed member = 1 ↔
        Text.fold typed <:+: Text.fold member ∧ ¬Text.fold typed <+: Text.fold member) ∧
      (matchRank typed member = 2 ↔ ¬Text.fold typed <:+: Text.fold member)) ∧
    rankMembers members typed =
      rankGroup members typed 0 ++ rankGroup members typed 1 ++ rankGroup members typed 2 ∧
    (∀ others, rankMembers others typed = rankMembers members typed ↔ others.Perm members) ∧
    rankMembers (rankMembers members typed) typed = rankMembers members typed := by
  have perm := rankMembers_perm members typed
  have sorted := rankMembers_sorted members typed
  refine ⟨fun ranked => ?_, matchRank_spec typed, rankMembers_eq members typed, fun others => ?_, ?_⟩
  · simp only [← rankedLe_iff]
    constructor
    · rintro rfl
      exact ⟨perm, sorted⟩
    · rintro ⟨same, ordered⟩
      exact eq_rankMembers same ordered
  · have perm' := rankMembers_perm others typed
    constructor
    · intro same
      exact perm'.symm.trans (same ▸ perm)
    · intro same
      exact eq_rankMembers (perm'.trans same) (rankMembers_sorted others typed)
  · exact (eq_rankMembers (List.Perm.refl _) sorted).symm

/-! ### Tokens -/

theorem exists_last_point (pointed : '.' ∈ token) :
    ∃ object typed, token = object ++ '.' :: typed ∧ '.' ∉ typed := by
  obtain ⟨after, before, split, unpointed⟩ :=
    List.eq_append_cons_of_mem (List.mem_reverse.mpr pointed)
  refine ⟨before.reverse, after.reverse, ?_, by simpa using unpointed⟩
  have whole := congrArg List.reverse split
  simpa using whole

/-- A token splits at its last point if anything stands before that. -/
theorem splitMemberAccess_append (object : Text) (unpointed : '.' ∉ typed) :
    splitMemberAccess (object ++ '.' :: typed) =
      if object.isEmpty then none else some (object, typed) := by
  have after : ((object ++ '.' :: typed).reverse.takeWhile (· ≠ '.')).reverse = typed := by
    have run : ∀ c ∈ typed.reverse, decide (c ≠ '.') = true := fun c member =>
      decide_eq_true fun point => unpointed (point ▸ List.mem_reverse.mp member)
    rw [List.reverse_append, List.reverse_cons, List.append_assoc, List.takeWhile_append_of_pos run]
    simp
  have before : (object ++ '.' :: typed).take ((object ++ '.' :: typed).length - typed.length - 1) =
      object := by
    rw [List.length_append, List.length_cons,
      show object.length + (typed.length + 1) - typed.length - 1 = object.length by omega,
      List.take_left]
  simp only [splitMemberAccess, after, before]
  cases object <;> simp

theorem splitMemberAccess_eq_some : splitMemberAccess token = some (object, typed) ↔
    token = object ++ '.' :: typed ∧ object ≠ [] ∧ '.' ∉ typed := by
  constructor
  · intro split
    have pointed : '.' ∈ token := by
      refine Decidable.by_contra fun none => ?_
      simp [splitMemberAccess, none] at split
    obtain ⟨before, after, rfl, unpointed⟩ := exists_last_point pointed
    rw [splitMemberAccess_append before unpointed] at split
    cases before with
    | nil => cases split
    | cons c before =>
      obtain ⟨rfl, rfl⟩ := Prod.mk.inj (Option.some.inj split)
      exact ⟨rfl, List.cons_ne_nil _ _, unpointed⟩
  · rintro ⟨rfl, content, unpointed⟩
    rw [splitMemberAccess_append object unpointed, if_neg (by simpa using content)]

/-- A token is no member access exactly if it has no point after its first character. -/
theorem splitMemberAccess_eq_none :
    splitMemberAccess token = none ↔ ∀ i, 1 ≤ i → token[i]? ≠ some '.' := by
  constructor
  · intro bare i late point
    obtain ⟨object, typed, rfl, unpointed⟩ := exists_last_point (List.mem_of_getElem? point)
    rw [splitMemberAccess_append object unpointed] at bare
    cases object with
    | nil =>
      rw [List.nil_append, ← Nat.sub_add_cancel late, List.getElem?_cons_succ] at point
      exact unpointed (List.mem_of_getElem? point)
    | cons c object => cases bare
  · intro bare
    refine Option.eq_none_iff_forall_ne_some.mpr fun ⟨object, typed⟩ split => ?_
    obtain ⟨rfl, content, _⟩ := splitMemberAccess_eq_some.mp split
    exact bare object.length (List.length_pos_iff.mpr content) (by simp)

end SymbolIndex.Completion
