import SymbolIndex.Proofs.Completion.Provider
import SymbolIndex.Proofs.Completion.Rank

/-! From a token to the candidates of one provider: the base candidates for a bare token, the ranked
members behind an expression otherwise. A completion leaves the text that was typed and the model on
show, and finds its candidates without either. -/
namespace SymbolIndex.Completion
variable {token object typed : Text} {source : Option MemberSource} {p q : Provider}

/-- The members behind an expression: its own if it has any, or else those of its type. -/
inductive MembersBehind (object : Text) : Option MemberSource → List Text → Prop
  | unattached : MembersBehind object none []
  | own {source : MemberSource} (listed : source.membersOf object ≠ []) :
      MembersBehind object (some source) (source.membersOf object)
  | ofType {source : MemberSource} (unlisted : source.membersOf object = [])
      (known : source.typeOf object ≠ []) :
      MembersBehind object (some source) (source.membersOf (source.typeOf object))
  | unknown {source : MemberSource} (unlisted : source.membersOf object = [])
      (untyped : source.typeOf object = []) : MembersBehind object (some source) []

namespace Provider

theorem membersFor_behind (source : Option MemberSource) (object : Text) :
    MembersBehind object source (membersFor source object) := by
  cases source with
  | none => exact .unattached
  | some source =>
    by_cases unlisted : source.membersOf object = []
    · by_cases untyped : source.typeOf object = []
      · simpa [membersFor, unlisted, untyped] using MembersBehind.unknown unlisted untyped
      · simpa [membersFor, unlisted, untyped] using MembersBehind.ofType unlisted untyped
    · simpa [membersFor, unlisted] using MembersBehind.own unlisted

/-- The model is what was offered last. -/
theorem complete_model (p : Provider) (source : Option MemberSource) (token : Text) :
    (p.complete source token).2.model = (p.complete source token).1.candidates := by
  unfold complete
  cases splitMemberAccess token <;> rfl

/-- A bare token is answered with the base candidates for it. -/
theorem complete_bare (bare : splitMemberAccess token = none) :
    (p.complete source token).1.candidates =
      baseCandidates { p with typed := Text.strip token } := by
  unfold complete
  rw [bare]
  rfl

/-- A member access is answered with the ranked members but for the one that is typed. -/
theorem complete_access (access : splitMemberAccess token = some (object, typed)) :
    (p.complete source token).1.candidates =
      rankMembers ((membersFor source object).filter fun m => typed = [] ∨ m ≠ typed) typed := by
  unfold complete
  rw [access]
  by_cases idle : typed = []
  · subst idle
    rw [List.filter_eq_self.mpr fun _ _ => by simp]
    rfl
  · simp [idle]

/-- What a provider was given: without the text that was typed and the model on show. -/
def given (p : Provider) : Provider := { p with typed := [], model := [] }

theorem given_complete (p : Provider) (source : Option MemberSource) (token : Text) :
    (p.complete source token).2.given = p.given := by
  unfold complete
  cases splitMemberAccess token <;> rfl

theorem given_eq_iff : p.given = q.given ↔ p.builtinSymbols = q.builtinSymbols ∧
    p.templates = q.templates ∧ p.userSymbols = q.userSymbols := by simp [given]

/-- What a provider answers is found from what it was given. -/
theorem complete_congr (same : p.given = q.given) (source : Option MemberSource) (token : Text) :
    (p.complete source token).1 = (q.complete source token).1 := by
  obtain ⟨builtins, templates, users⟩ := given_eq_iff.mp same
  unfold complete
  cases splitMemberAccess token with
  | none => simp only [rebuild, baseCandidates, builtins, templates, users]
  | some access => rfl

end Provider
end SymbolIndex.Completion
