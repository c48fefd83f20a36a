import SymbolIndex.Text.Order

/-! How members are ordered behind a member prefix, and how a token splits into an expression and
such a prefix. -/
namespace SymbolIndex.Completion

/-- How well a member matches a prefix: zero when it starts with it, one when it contains it
elsewhere, two otherwise. Case does not count. -/
def matchRank (typed member : Text) : Nat :=
  let needle := Text.fold typed
  let folded := Text.fold member
  if needle.isPrefixOf folded then 0 else if Text.contains needle folded then 1 else 2

/-- Members in three groups, the best matches first, each group sorted without regard to case. -/
def rankMembers (members : List Text) (typed : Text) : List Text :=
  if typed.isEmpty then Text.sortFolded members
  else
    Text.sortFolded (members.filter (matchRank typed · = 0)) ++
      Text.sortFolded (members.filter (matchRank typed · = 1)) ++
      Text.sortFolded (members.filter (matchRank typed · = 2))

/-- The expression before the last point and the member prefix after it. A token without a point
after its first character is no member access. -/
def splitMemberAccess (token : Text) : Option (Text × Text) :=
  let typed := (token.reverse.takeWhile (· ≠ '.')).reverse
  let expression := token.take (token.length - typed.length - 1)
  if '.' ∈ token && !expression.isEmpty then some (expression, typed) else none

end SymbolIndex.Completion
