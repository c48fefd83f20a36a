import SymbolIndex.Completion.Provider
import SymbolIndex.Proofs.Text.Order

/-! What a provider offers, and how its operations are told from an account of what it was asked. -/
namespace SymbolIndex.Completion

namespace Provider
variable {provider : Provider} {name : Text}

/-- The base candidates are in strict order. -/
theorem baseCandidates_strict (provider : Provider) :
    provider.baseCandidates.Pairwise Text.FoldedLt := by
  have sorted := Text.sortFolded_strict (nodup_unique
    (provider.builtinSymbols ++ provider.userSymbols ++ provider.templates.keys))
  unfold baseCandidates
  split
  · exact sorted
  · exact sorted.filter _

/-- The base candidates are the builtin symbols, the user symbols and the template keywords, but for
the text that is being typed. -/
theorem mem_baseCandidates : name ∈ provider.baseCandidates ↔
    (name ∈ provider.builtinSymbols ∨ name ∈ provider.userSymbols ∨
      name ∈ provider.templates.keys) ∧ (provider.typed ≠ [] → name ≠ provider.typed) := by
  unfold baseCandidates
  by_cases idle : provider.typed = []
  · simp [idle, Text.mem_sortFolded, mem_unique]
  · simp [idle, Text.mem_sortFolded, mem_unique]

end Provider

/-- What a provider was asked so far: its builtin symbols, the keywords of its templates, the text
of the last bare completion, and the candidates of the last member completion unless the base model
was built again since. -/
structure Ledger where
  builtinSymbols : List Text
  keywords : List Text
  typed : Text
  members : Option (List Text)

namespace Ledger
variable {ledger : Ledger} {provider : Provider}

/-- The account of a provider that was just made. -/
def opened (config : Config) : Ledger := ⟨config.builtinSymbols, config.templates.keys, [], none⟩

/-- The base model was built again. -/
def rebuilt (ledger : Ledger) : Ledger := { ledger with members := none }

/-- The provider is as the account says, whatever its user symbols are. -/
structure Describes (ledger : Ledger) (provider : Provider) : Prop where
  builtinSymbols : provider.builtinSymbols = ledger.builtinSymbols
  keywords : ∀ keyword, keyword ∈ provider.templates.keys ↔ keyword ∈ ledger.keywords
  typed : provider.typed = ledger.typed
  model : provider.model = ledger.members.getD provider.baseCandidates

theorem describes_ofConfig (config : Config) : (opened config).Describes (.ofConfig config) :=
  ⟨rfl, fun _ => Iff.rfl, rfl, rfl⟩

theorem Describes.updateUserSymbols (describes : ledger.Describes provider) (symbols : List Text) :
    ledger.rebuilt.Describes (provider.updateUserSymbols symbols) :=
  ⟨describes.builtinSymbols, describes.keywords, describes.typed, rfl⟩

/-- The account after a template was registered. -/
def registered (ledger : Ledger) (keyword : Text) : Ledger :=
  { ledger.rebuilt with keywords := keyword :: ledger.keywords }

theorem Describes.addTemplate (describes : ledger.Describes provider) (keyword expansion : Text) :
    (ledger.registered keyword).Describes (provider.addTemplate keyword expansion) where
  builtinSymbols := describes.builtinSymbols
  keywords other := by
    have known := describes.keywords other
    exact Dictionary.mem_keys_putEntry.trans ((or_congr_right known).trans List.mem_cons.symm)
  typed := describes.typed
  model := rfl

/-- The account after a completion with these candidates. -/
def completed (ledger : Ledger) (token : Text) (candidates : List Text) : Ledger :=
  match splitMemberAccess token with
  | none => { ledger with typed := Text.strip token, members := none }
  | some _ => { ledger with members := some candidates }

theorem Describes.complete (describes : ledger.Describes provider) (source : Option MemberSource)
    (token : Text) :
    (ledger.completed token (provider.complete source token).1.candidates).Describes
      (provider.complete source token).2 := by
  unfold completed Provider.complete
  cases splitMemberAccess token with
  | none => exact ⟨describes.builtinSymbols, describes.keywords, rfl, rfl⟩
  | some access => exact ⟨describes.builtinSymbols, describes.keywords, describes.typed, rfl⟩

end Ledger
end SymbolIndex.Completion
