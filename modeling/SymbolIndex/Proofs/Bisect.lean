import SymbolIndex.Bisect

/-! The binary search cuts a sorted table where it passes the value it looks for. -/
namespace SymbolIndex
variable {starts : Array Nat} {x : Int} {low high : Nat}

/-- Members never fall from one position to a later one. -/
def Ascending (starts : Array Nat) : Prop :=
  ∀ i j, i ≤ j → j < starts.size → starts.getD i 0 ≤ starts.getD j 0

/-- Everything before position `k` is at most `x`, everything from it on is more. -/
structure CutAt (starts : Array Nat) (x : Int) (k : Nat) : Prop where
  within : k ≤ starts.size
  below : ∀ i, i < k → (starts.getD i 0 : Int) ≤ x
  above : ∀ i, k ≤ i → i < starts.size → x < starts.getD i 0

/-- Narrowing keeps what lies outside the bounds on its side. -/
theorem countUpToWithin_cutAt (ascending : Ascending starts) (ordered : low ≤ high)
    (inside : high ≤ starts.size) (below : ∀ i, i < low → (starts.getD i 0 : Int) ≤ x)
    (above : ∀ i, high ≤ i → i < starts.size → x < starts.getD i 0) :
    CutAt starts x (countUpToWithin starts x low high) := by
  induction low, high using countUpToWithin.induct starts x with
  | case1 low high narrow middle less ih =>
    have centre : middle < high := by omega
    rw [countUpToWithin, if_pos narrow, if_pos less]
    apply ih (by omega) (by omega) below
    intro i late bound
    have := ascending middle i late bound
    omega
  | case2 low high narrow middle notLess ih =>
    have centre : middle < high := by omega
    rw [countUpToWithin, if_pos narrow, if_neg notLess]
    refine ih (by omega) inside (fun i early => ?_) above
    have := ascending i middle (by omega) (by omega)
    omega
  | case3 low high done =>
    have same : low = high := by omega
    subst same
    rw [countUpToWithin, if_neg done]
    exact ⟨inside, below, above⟩

theorem countUpTo_cutAt (ascending : Ascending starts) (x : Int) :
    CutAt starts x (countUpTo starts x) :=
  countUpToWithin_cutAt ascending (Nat.zero_le _) (Nat.le_refl _) (fun i early => by omega)
    (fun i late bound => by omega)

end SymbolIndex
