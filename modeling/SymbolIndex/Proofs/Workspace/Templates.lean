import SymbolIndex.Proofs.Workspace.BaseModel

/-! Template keywords of a provider: those that it was made with, and those that the host registered
since. -/
namespace SymbolIndex.Workspace
variable {w v : Workspace} {log : List (Workspace × Action)} {action : Action} {n : Nat}
  {config : Completion.Config} {following : FollowingProvider} {keyword : Text}

/-- Whenever the `n`-th provider is made, it is made from these inputs. -/
def MadeFrom (log : List (Workspace × Action)) (n : Nat) (config : Completion.Config) : Prop :=
  ∀ v made goal, (v, Action.addProvider made goal) ∈ log → n = v.providers.length → made = config

theorem keywords_completed (ledger : Completion.Ledger) (token : Text) (candidates : List Text) :
    (ledger.completed token candidates).keywords = ledger.keywords := by
  rw [Completion.Ledger.completed]
  split <;> rfl

/-- The keywords of a provider come with its making, or are registered. -/
theorem keyword_of_enter {ledger : Completion.Ledger}
    (member : keyword ∈ (enter n ledger v action).keywords) :
    keyword ∈ ledger.keywords ∨
      (∃ made goal, action = .addProvider made goal ∧ n = v.providers.length ∧
        keyword ∈ made.templates.keys) ∨
      ∃ expansion, action = .addTemplate n keyword expansion := by
  cases action with
  | addProvider made goal =>
    rw [enter] at member
    split at member
    · rename_i last
      exact Or.inr (Or.inl ⟨made, goal, rfl, last, member⟩)
    · exact Or.inl member
  | addTemplate m registered expansion =>
    rw [enter] at member
    split at member
    · rename_i same
      rcases List.mem_cons.mp member with rfl | known
      · exact Or.inr (Or.inr ⟨expansion, by rw [same]⟩)
      · exact Or.inl known
    · exact Or.inl member
  | complete m token =>
    rw [enter] at member
    split at member
    · exact Or.inl (keywords_completed ledger token _ ▸ member)
    · exact Or.inl member
  | setSource m goal =>
    rw [enter] at member
    split at member <;> exact Or.inl member
  | extract source text tell =>
    rw [enter] at member
    split at member <;> exact Or.inl member
  | setSymbols m names =>
    rw [enter] at member
    split at member <;> exact Or.inl member
  | _ => exact Or.inl member

/-- All template keywords of a provider are those that it was made with or registered since. -/
theorem keyword_of_ledgerOf (made : MadeFrom log n config)
    (member : keyword ∈ (ledgerOf log n).keywords) : keyword ∈ config.templates.keys ∨
      ∃ v expansion, (v, Action.addTemplate n keyword expansion) ∈ log := by
  induction log with
  | nil => exact absurd member List.not_mem_nil
  | cons entry rest ih =>
    rcases keyword_of_enter member with known | ⟨config, goal, action, last, own⟩ | ⟨expansion, action⟩
    · refine (ih (fun v made' goal listed => made v made' goal (List.mem_cons_of_mem entry listed))
        known).imp_right ?_
      exact fun ⟨v, expansion, listed⟩ => ⟨v, expansion, List.mem_cons_of_mem entry listed⟩
    · have here : (entry.1, Action.addProvider config goal) ∈ entry :: rest := by
        rw [← action]
        exact List.mem_cons_self
      exact Or.inl (made _ _ _ here last ▸ own)
    · refine Or.inr ⟨entry.1, expansion, ?_⟩
      rw [← action]
      exact List.mem_cons_self

theorem Run.keyword_origin {allowed : Workspace → Action → Prop} (run : Run allowed w log)
    (made : MadeFrom log n config) (present : w.providers[n]? = some following)
    (template : following.provider.isTemplate keyword = true) : keyword ∈ config.templates.keys ∨
      ∃ v expansion, (v, Action.addTemplate n keyword expansion) ∈ log := by
  have listed : keyword ∈ following.provider.templates.keys :=
    Dictionary.mem_keys.mpr (Option.isSome_iff_exists.mp template)
  exact keyword_of_ledgerOf made (((run.recorded n following present).1.keywords keyword).mp listed)

end SymbolIndex.Workspace
