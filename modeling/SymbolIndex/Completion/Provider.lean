import SymbolIndex.Completion.Rank
import SymbolIndex.Completion.Template
import SymbolIndex.FirstOccurrence

/-! The candidate model of an editor: builtin symbols, the latest symbols of the document and
template keywords, or the ranked members of an expression. -/
namespace SymbolIndex.Completion

structure MemberSource where
  membersOf : Text → List Text
  typeOf : Text → Text

/-- The outcome of one completion: the candidates, the text that counts as typed, and for a member
access the expression in front. The host shows a member popup however few candidates it has. -/
structure Result where
  candidates : List Text
  typed : Text
  forcePopup : Bool
  expression : Text

def Result.isMemberAccess (result : Result) : Bool := !result.expression.isEmpty

structure Config where
  builtinSymbols : List Text
  templates : Dictionary Text

def Config.default : Config := ⟨[], defaultTemplates⟩

/-- The active candidate list and everything it is rebuilt from. -/
structure Provider where
  builtinSymbols : List Text
  templates : Dictionary Text
  userSymbols : List Text
  typed : Text
  model : List Text
deriving DecidableEq

namespace Provider

/-- Builtin symbols, user symbols and template keywords without the token being typed. -/
def baseCandidates (provider : Provider) : List Text :=
  let sorted := Text.sortFolded
    (unique (provider.builtinSymbols ++ provider.userSymbols ++ provider.templates.keys))
  if provider.typed.isEmpty then sorted else sorted.filter (· ≠ provider.typed)

def rebuild (provider : Provider) : Provider := { provider with model := provider.baseCandidates }

def ofConfig (config : Config) : Provider :=
  rebuild ⟨config.builtinSymbols, config.templates, [], [], []⟩

def updateUserSymbols (provider : Provider) (symbols : List Text) : Provider :=
  rebuild { provider with userSymbols := symbols }

def addTemplate (provider : Provider) (keyword expansion : Text) : Provider :=
  rebuild { provider with templates := provider.templates.put keyword expansion }

/-- The expansion of a keyword, empty when there is no such template. -/
def templateFor (provider : Provider) (keyword : Text) : Text :=
  (provider.templates.get? keyword).getD []

def isTemplate (provider : Provider) (keyword : Text) : Bool := provider.templates.contains keyword

def candidateAt (provider : Provider) (index : Int) : Text :=
  if index < 0 then [] else (provider.model[index.toNat]?).getD []

def membersFor (source : Option MemberSource) (expression : Text) : List Text :=
  match source with
  | none => []
  | some source =>
    let members := source.membersOf expression
    if members.isEmpty then
      let type := source.typeOf expression
      if type.isEmpty then members else source.membersOf type
    else members

/-- Make a token the current input: the model becomes the candidates for it. -/
def complete (provider : Provider) (source : Option MemberSource) (token : Text) :
    Result × Provider :=
  match splitMemberAccess token with
  | none =>
    let updated := rebuild { provider with typed := Text.strip token }
    (⟨updated.model, token, false, []⟩, updated)
  | some (expression, typed) =>
    let members := membersFor source expression
    let offered := if typed.isEmpty then members else members.filter (· ≠ typed)
    let ranked := rankMembers offered typed
    (⟨ranked, typed, true, expression⟩, { provider with model := ranked })

end Provider
end SymbolIndex.Completion
