import SymbolIndex.Proofs.Extraction.Symbols
import SymbolIndex.Proofs.Workspace.Providers

/-! What base models are built from, whoever fails when told: the symbols a provider was last told
stay with it when it leaves its source, and the text of its last bare completion stays out of its
model whatever is completed since. -/
namespace SymbolIndex.Completion.Ledger
variable {ledger : Ledger} {provider : Provider}

/-- The account is right about everything but the candidates on show. -/
structure Records (ledger : Ledger) (provider : Provider) : Prop where
  builtinSymbols : provider.builtinSymbols = ledger.builtinSymbols
  keywords : ∀ keyword, keyword ∈ provider.templates.keys ↔ keyword ∈ ledger.keywords
  typed : provider.typed = ledger.typed

theorem Describes.records (describes : ledger.Describes provider) : ledger.Records provider :=
  ⟨describes.builtinSymbols, describes.keywords, describes.typed⟩

theorem Records.updateUserSymbols (records : ledger.Records provider) (symbols : List Text) :
    ledger.Records (provider.updateUserSymbols symbols) :=
  ⟨records.builtinSymbols, records.keywords, records.typed⟩

theorem Records.rebuilt (records : ledger.Records provider) : ledger.rebuilt.Records provider :=
  ⟨records.builtinSymbols, records.keywords, records.typed⟩

theorem Records.addTemplate (records : ledger.Records provider) (keyword expansion : Text) :
    (ledger.registered keyword).Records (provider.addTemplate keyword expansion) where
  builtinSymbols := records.builtinSymbols
  keywords other := by
    have known := records.keywords other
    exact Dictionary.mem_keys_putEntry.trans ((or_congr_right known).trans List.mem_cons.symm)
  typed := records.typed

theorem Records.complete (records : ledger.Records provider) (source : Option MemberSource)
    (token : Text) (candidates : List Text) :
    (ledger.completed token candidates).Records (provider.complete source token).2 := by
  unfold completed Provider.complete
  cases splitMemberAccess token with
  | none => exact ⟨records.builtinSymbols, records.keywords, rfl⟩
  | some access => exact ⟨records.builtinSymbols, records.keywords, records.typed⟩

end SymbolIndex.Completion.Ledger

namespace SymbolIndex.Workspace
variable {w v : Workspace} {log : List (Workspace × Action)} {action : Action} {n : Nat}
  {allowed : Workspace → Action → Prop} {following : FollowingProvider}
open Completion (Ledger Provider)

/-- The symbols that an action tells the `n`-th provider: when it is made, moves to a source, is
reached by the delivery of an extraction, or is given symbols by hand. -/
def Action.tells (w : Workspace) (n : Nat) : Action → Option (List Text)
  | .addProvider _ goal =>
    if n = w.providers.length then some (goal.elim [] w.symbolsOf) else none
  | .setSource m goal => if n = m ∧ w.sourceOf n ≠ goal then goal.map w.symbolsOf else none
  | .extract source text tell =>
    match w.origin? source with
    | some (.extractor language _) =>
      (language.snapshot? text).bind fun snapshot =>
        if .provider n ∈ w.reached source language snapshot tell then some snapshot.symbols else none
    | _ => none
  | .setSymbols m names => if n = m then some names else none
  | _ => none

/-- The actions that build the base model of the `n`-th provider again. -/
def Action.Rebuilds (w : Workspace) (n : Nat) (action : Action) : Prop :=
  (action.tells w n).isSome ∨ (∃ keyword expansion, action = .addTemplate n keyword expansion) ∨
    ∃ token, Completion.splitMemberAccess token = none ∧ action = .complete n token

/-- What an action asks of the `n`-th provider itself. -/
def Action.asksOf (w : Workspace) (n : Nat) (provider : Provider) : Action → Provider
  | .addTemplate m keyword expansion =>
    if n = m then provider.addTemplate keyword expansion else provider
  | .complete m token =>
    if n = m then (provider.complete (w.memberSource n) token).2 else provider
  | _ => provider

/-- What becomes of the `n`-th provider, if it is there. -/
def Action.edits (w : Workspace) (n : Nat) (action : Action) (provider : Provider) : Provider :=
  let asked := action.asksOf w n provider
  match action.tells w n with
  | some names => asked.updateUserSymbols names
  | none => asked

/-- The symbols that the `n`-th provider was last told. -/
def toldOf (log : List (Workspace × Action)) (n : Nat) : List Text :=
  (log.findSome? fun entry => entry.2.tells entry.1 n).getD []

/-- The token that an action asks the `n`-th provider for, without blanks around it; none when it is
made. -/
def Action.asks (w : Workspace) (n : Nat) : Action → Option Text
  | .addProvider _ _ => if n = w.providers.length then some [] else none
  | .complete m token => if n = m then some (Text.strip token) else none
  | _ => none

/-- The token that the `n`-th provider was last asked for, bare or of a member. -/
def tokenOf (log : List (Workspace × Action)) (n : Nat) : Text :=
  (log.findSome? fun entry => entry.2.asks entry.1 n).getD []

/-! ### What one action does to a provider -/

theorem provider_setSource {m : Nat} {goal : Option Nat}
    (present : (w.setSource m goal).providers[n]? = some following) :
    ∃ before, w.providers[n]? = some before ∧
      following.provider = (Action.setSource m goal).edits w n before.provider := by
  simp only [Action.edits, Action.tells, Action.asksOf]
  cases mover : w.providers[m]? with
  | none =>
    rw [setSource, mover] at present
    have apart : n ≠ m := by
      rintro rfl
      rw [mover] at present
      cases present
    exact ⟨following, present, by simp [apart]⟩
  | some before =>
    by_cases stays : before.source = goal
    · rw [setSource, mover] at present
      simp only [if_pos stays] at present
      have still : ¬(n = m ∧ w.sourceOf n ≠ goal) := by
        rintro ⟨rfl, moves⟩
        rw [sourceOf, mover] at moves
        exact moves stays
      exact ⟨following, present, by rw [if_neg still]⟩
    · rw [providers_setSource mover stays] at present
      obtain ⟨held, was, rfl⟩ := Option.map_eq_some_iff.mp present
      refine ⟨held, was, ?_⟩
      by_cases here : n = m
      · subst here
        obtain rfl := Option.some.inj (was.symm.trans mover)
        have moves : w.sourceOf n ≠ goal := by
          rw [sourceOf, was]
          exact stays
        cases goal <;> simp [moves]
      · simp [here, Ne.symm here]

theorem provider_addProvider {config : Completion.Config} {goal : Option Nat}
    (present : (w.addProvider config goal).providers[n]? = some following) :
    (w.providers[n]? = some following ∧ n ≠ w.providers.length) ∨ n = w.providers.length ∧
      following.provider = (Provider.ofConfig config).updateUserSymbols (goal.elim [] w.symbolsOf) := by
  have made : (w.addProvider config goal).providers[n]? =
      if n = w.providers.length then
        some ⟨(Provider.ofConfig config).updateUserSymbols (goal.elim [] w.symbolsOf), goal⟩
      else w.providers[n]? := by
    let added : Workspace := { w with providers := w.providers ++ [⟨.ofConfig config, none⟩] }
    have last : added.providers[w.providers.length]? = some ⟨.ofConfig config, none⟩ :=
      List.getElem?_concat_length
    change (added.setSource w.providers.length goal).providers[n]? = _
    cases goal with
    | none =>
      rw [setSource, last]
      exact getElem?_concat _ _ n
    | some source =>
      rw [providers_setSource last (by simp), getElem?_concat]
      by_cases here : n = w.providers.length
      · simp [here, symbolsOf, origin?, added]
      · simp [here, Ne.symm here]
  rw [made] at present
  split at present
  · rename_i last
    obtain rfl := Option.some.inj present
    exact Or.inr ⟨last, rfl⟩
  · rename_i apart
    exact Or.inl ⟨present, apart⟩

theorem provider_extract {source : Nat} {text : Text} {tell : Telling} (hosted : Hosted tell)
    (present : (w.extract source text tell).1.providers[n]? = some following) :
    ∃ before, w.providers[n]? = some before ∧
      following.provider = (Action.extract source text tell).edits w n before.provider := by
  simp only [Action.edits, Action.tells, Action.asksOf]
  cases known : w.origin? source with
  | none =>
    rw [extract, known] at present
    exact ⟨following, present, rfl⟩
  | some origin =>
    cases origin with
    | fixed symbols members types =>
      rw [extract, known] at present
      exact ⟨following, present, rfl⟩
    | extractor language old =>
      cases scanned : language.snapshot? text with
      | none =>
        rw [extract_unscanned known scanned] at present
        exact ⟨following, present, by simp [scanned]⟩
      | some snapshot =>
        rw [extract_eq known scanned, providers_install hosted] at present
        obtain ⟨before, held, rfl⟩ := Option.map_eq_some_iff.mp present
        refine ⟨before, held, ?_⟩
        by_cases here : .provider n ∈ w.reached source language snapshot tell
        · simp [scanned, here]
        · simp [scanned, here]

theorem provider_editProvider {m : Nat} {edit : Provider → Provider}
    (present : (w.editProvider m edit).providers[n]? = some following) :
    ∃ before, w.providers[n]? = some before ∧
      following.provider = if n = m then edit before.provider else before.provider := by
  rw [editProvider, List.getElem?_modify] at present
  obtain ⟨before, held, rfl⟩ := Option.map_eq_some_iff.mp present
  refine ⟨before, held, ?_⟩
  by_cases here : n = m
  · simp [here]
  · simp [here, Ne.symm here]

theorem provider_complete {m : Nat} {token : Text}
    (present : (w.complete m token).1.providers[n]? = some following) :
    ∃ before, w.providers[n]? = some before ∧
      following.provider = (Action.complete m token).edits w n before.provider := by
  simp only [Action.edits, Action.tells, Action.asksOf]
  cases asked : w.providers[m]? with
  | none =>
    rw [complete, asked] at present
    have apart : n ≠ m := by
      rintro rfl
      exact absurd (present.symm.trans asked) (by simp)
    exact ⟨following, present, by rw [if_neg apart]⟩
  | some mover =>
    rw [complete, asked] at present
    obtain ⟨before, held, edited⟩ := provider_editProvider present
    refine ⟨before, held, edited.trans ?_⟩
    by_cases here : n = m
    · subst here
      obtain rfl := Option.some.inj (held.symm.trans asked)
      rfl
    · rw [if_neg here, if_neg here]

/-- After an action a provider is the one from before, edited, or it is new. -/
theorem provider_perform (possible : action.Possible w)
    (present : (w.perform action).providers[n]? = some following) :
    (∃ before, w.providers[n]? = some before ∧
      following.provider = action.edits w n before.provider) ∨
    ∃ config goal, action = .addProvider config goal ∧ n = w.providers.length ∧
      following.provider = (Provider.ofConfig config).updateUserSymbols (goal.elim [] w.symbolsOf) := by
  cases action with
  | setSource m goal => exact Or.inl (provider_setSource present)
  | addProvider config goal =>
    rcases provider_addProvider present with ⟨old, apart⟩ | ⟨last, made⟩
    · exact Or.inl ⟨following, old, by simp [Action.edits, Action.tells, Action.asksOf, apart]⟩
    · exact Or.inr ⟨config, goal, rfl, last, made⟩
  | extract source text tell => exact Or.inl (provider_extract possible present)
  | addTemplate m keyword expansion => exact Or.inl (provider_editProvider present)
  | setSymbols m names =>
    obtain ⟨before, held, same⟩ := provider_editProvider present
    refine Or.inl ⟨before, held, same.trans ?_⟩
    simp only [Action.edits, Action.tells, Action.asksOf]
    split <;> rfl
  | complete m token => exact Or.inl (provider_complete present)
  | addLocator goal =>
    cases goal with
    | none => exact Or.inl ⟨following, present, rfl⟩
    | some source =>
      change (attach _ _ source).providers[n]? = some following at present
      rw [providers_attach] at present
      exact Or.inl ⟨following, present, rfl⟩
  | attach m source => exact Or.inl ⟨following, providers_attach w m source ▸ present, rfl⟩
  | detach m => exact Or.inl ⟨following, providers_detach w m ▸ present, rfl⟩
  | addExtractor language => exact Or.inl ⟨following, present, rfl⟩
  | listen source kind listener => exact Or.inl ⟨following, present, rfl⟩
  | subscribe source kind m => exact Or.inl ⟨following, present, rfl⟩
  | unsubscribe source kind m => exact Or.inl ⟨following, present, rfl⟩

/-! ### The account of a run -/

theorem records_enter {ledger : Ledger} {provider : Provider} (records : ledger.Records provider)
    (kept : ∀ config goal, action = .addProvider config goal → n ≠ w.providers.length) :
    (enter n ledger w action).Records (action.asksOf w n provider) := by
  cases action with
  | addProvider config goal =>
    rw [enter, if_neg (kept config goal rfl)]
    exact records
  | setSource m goal =>
    rw [enter]
    split
    · exact records.rebuilt
    · exact records
  | extract source text tell =>
    rw [enter]
    split
    · exact records.rebuilt
    · exact records
  | addTemplate m keyword expansion =>
    rw [enter, Action.asksOf]
    split
    · exact records.addTemplate keyword expansion
    · exact records
  | setSymbols m names =>
    rw [enter]
    split
    · exact records.rebuilt
    · exact records
  | complete m token =>
    rw [enter, Action.asksOf]
    split
    · exact records.complete _ token _
    · exact records
  | _ => exact records

theorem records_edits {ledger : Ledger} {provider : Provider} (records : ledger.Records provider)
    (kept : ∀ config goal, action = .addProvider config goal → n ≠ w.providers.length) :
    (enter n ledger w action).Records (action.edits w n provider) := by
  have asked := records_enter records kept
  rw [Action.edits]
  cases action.tells w n with
  | some names => exact asked.updateUserSymbols names
  | none => exact asked

theorem userSymbols_asksOf (provider : Provider) :
    (action.asksOf w n provider).userSymbols = provider.userSymbols := by
  cases action with
  | addTemplate m keyword expansion =>
    rw [Action.asksOf]
    split <;> rfl
  | complete m token =>
    rw [Action.asksOf]
    split
    · exact userSymbols_complete provider _ token
    · rfl
  | _ => rfl

theorem userSymbols_edits (provider : Provider) : (action.edits w n provider).userSymbols =
    (action.tells w n).getD provider.userSymbols := by
  rw [Action.edits]
  cases action.tells w n with
  | some names => rfl
  | none => exact userSymbols_asksOf provider

/-- Every provider is as the log says: its account is right, and its user symbols are those last
told. -/
def Recorded (w : Workspace) (log : List (Workspace × Action)) : Prop :=
  ∀ (n : Nat) (following : FollowingProvider), w.providers[n]? = some following →
    (ledgerOf log n).Records following.provider ∧ following.provider.userSymbols = toldOf log n

theorem toldOf_cons (n : Nat) :
    toldOf ((w, action) :: log) n = (action.tells w n).getD (toldOf log n) := by
  rw [toldOf, toldOf, List.findSome?_cons]
  cases action.tells w n <;> rfl

theorem recorded_perform (recorded : w.Recorded log) (possible : action.Possible w) :
    (w.perform action).Recorded ((w, action) :: log) := by
  intro n following present
  rw [toldOf_cons]
  rcases provider_perform possible present with ⟨before, held, same⟩ | ⟨config, goal, rfl, last, same⟩
  · obtain ⟨records, told⟩ := recorded n before held
    rw [same, userSymbols_edits, told]
    refine ⟨records_edits records ?_, rfl⟩
    rintro config goal rfl
    exact Nat.ne_of_lt (List.getElem?_eq_some_iff.mp held).1
  · rw [same]
    refine ⟨?_, ?_⟩
    · change (enter n (ledgerOf log n) w (.addProvider config goal)).Records _
      rw [enter, if_pos last]
      exact (Ledger.describes_ofConfig config).records.updateUserSymbols _
    · simp only [Action.tells, if_pos last]
      rfl

theorem Run.recorded (run : Run allowed w log) : w.Recorded log := by
  induction run with
  | start =>
    intro _ _ held
    cases held
  | step before possible permitted ih => exact recorded_perform ih possible

/-! ### Base models -/

theorem model_edits (rebuilds : action.Rebuilds w n) (provider : Provider) :
    (action.edits w n provider).model = (action.edits w n provider).baseCandidates := by
  rw [Action.edits]
  cases told : action.tells w n with
  | some names => rfl
  | none =>
    rcases rebuilds with tells | ⟨keyword, expansion, rfl⟩ | ⟨token, bare, rfl⟩
    · simp [told] at tells
    · simp only [Action.asksOf, if_true]
      rfl
    · simp only [Action.asksOf, if_true, Provider.complete, bare]
      rfl

/-- A name that base models draw on: a builtin symbol, a symbol last told or the keyword of a
template. -/
def Drawn (log : List (Workspace × Action)) (n : Nat) (name : Text) : Prop :=
  name ∈ (ledgerOf log n).builtinSymbols ∨ name ∈ toldOf log n ∨ name ∈ (ledgerOf log n).keywords

/-- A model of the drawn names in strict order, without the text of the last bare completion. -/
structure Offers (log : List (Workspace × Action)) (n : Nat) (model : List Text) : Prop where
  strict : model.Pairwise Text.FoldedLt
  mem_iff : ∀ name, name ∈ model ↔
    Drawn log n name ∧ ((ledgerOf log n).typed ≠ [] → name ≠ (ledgerOf log n).typed)

theorem Recorded.offers (recorded : w.Recorded log) (present : w.providers[n]? = some following)
    (base : following.provider.model = following.provider.baseCandidates) :
    Offers log n following.provider.model := by
  obtain ⟨records, told⟩ := recorded n following present
  rw [base]
  refine ⟨Provider.baseCandidates_strict _, fun name => ?_⟩
  rw [Provider.mem_baseCandidates, records.builtinSymbols, records.keywords, records.typed, told]
  exact Iff.rfl

/-- Whatever builds the base model again leaves the names drawn on. -/
theorem offers_perform (recorded : w.Recorded log) (possible : action.Possible w)
    (rebuilds : action.Rebuilds w n)
    (present : (w.perform action).providers[n]? = some following) :
    Offers ((w, action) :: log) n following.provider.model := by
  refine (recorded_perform recorded possible).offers present ?_
  rcases provider_perform possible present with ⟨before, held, same⟩ | ⟨config, goal, _, _, same⟩
  · rw [same]
    exact model_edits rebuilds before.provider
  · rw [same]
    rfl

/-- The one name that can be missing is the text of the last bare completion. -/
theorem Offers.missing_iff {model : List Text} {P Q : Text → Prop} (offers : Offers log n model)
    (drawn : ∀ name, P name → Drawn log n name) :
    (∀ name, P name → name ∉ model → Q name) ↔
      ((ledgerOf log n).typed ≠ [] → P (ledgerOf log n).typed → Q (ledgerOf log n).typed) := by
  constructor
  · intro passes started holds
    apply passes _ holds
    intro member
    exact ((offers.mem_iff _).mp member).2 started rfl
  · intro passes name holds missing
    by_contra fails
    apply missing
    refine (offers.mem_iff name).mpr ⟨drawn name holds, fun started same => ?_⟩
    subst same
    exact fails (passes started holds)

/-- Right after an action that builds its base model again, a provider offers all that it offers but the
text of its last bare completion, which need not be the token it was last asked for. -/
theorem rebuilt_models_hide_last_bare_token (run : Run allowed w ((v, action) :: log))
    (rebuilds : action.Rebuilds v n) (present : w.providers[n]? = some following) :
    let entries := (v, action) :: log
    let typed := (ledgerOf entries n).typed
    Offers entries n following.provider.model ∧
    ((∀ name, Drawn entries n name → name ∉ following.provider.model → name = tokenOf entries n) ↔
      (typed ≠ [] → Drawn entries n typed → typed = tokenOf entries n)) ∧
    ((∀ keyword ∈ (ledgerOf entries n).keywords, keyword ∈ following.provider.model) ↔
      (typed ≠ [] → typed ∉ (ledgerOf entries n).keywords)) := by
  intro entries typed
  cases run with
  | step before possible permitted =>
    have offers := offers_perform before.recorded possible rebuilds present
    refine ⟨offers, offers.missing_iff fun _ drawn => drawn, ?_⟩
    have keywords := offers.missing_iff (Q := fun _ => False)
      fun keyword (listed : keyword ∈ (ledgerOf entries n).keywords) => Or.inr (Or.inr listed)
    simpa only [imp_false, not_not] using keywords

/-- A provider with one template. -/
def templateProvider : Workspace :=
  Workspace.empty.addProvider ⟨[], Dictionary.empty.put "if".toList "if x:".toList⟩ none

/-- Its keyword is completed, and then a member. -/
def askedProvider : Workspace :=
  (templateProvider.perform (.complete 0 "if".toList)).perform (.complete 0 "a.b".toList)

theorem askedProvider_run : Run (fun _ _ => True)
    (askedProvider.perform (.addTemplate 0 "k".toList "v".toList))
    [(askedProvider, .addTemplate 0 "k".toList "v".toList),
      (templateProvider.perform (.complete 0 "if".toList), .complete 0 "a.b".toList),
      (templateProvider, .complete 0 "if".toList),
      (.empty, .addProvider ⟨[], Dictionary.empty.put "if".toList "if x:".toList⟩ none)] := by
  have made : Run (fun _ _ => True) templateProvider _ :=
    @Run.step _ _ _ (.addProvider _ none) .start (by rintro _ ⟨⟩) trivial
  have typed := @Run.step _ _ _ (.complete 0 "if".toList) made trivial trivial
  have asked := @Run.step _ _ _ (.complete 0 "a.b".toList) typed trivial trivial
  exact @Run.step _ _ _ (.addTemplate 0 "k".toList "v".toList) asked trivial trivial

theorem rebuilt_models_hide_last_bare_token_if :
    ∃ following, (askedProvider.perform (.addTemplate 0 "k".toList "v".toList)).providers[0]? =
        some following ∧
      "k".toList ∈ following.provider.model ∧ "if".toList ∉ following.provider.model ∧
      following.provider.isTemplate "if".toList = true := by
  obtain ⟨following, held, template⟩ : ∃ following,
      (askedProvider.perform (.addTemplate 0 "k".toList "v".toList)).providers[0]? = some following ∧
        following.provider.isTemplate "if".toList = true := ⟨_, rfl, rfl⟩
  obtain ⟨offers, _, _⟩ := rebuilt_models_hide_last_bare_token askedProvider_run
    (Or.inr (Or.inl ⟨_, _, rfl⟩)) held
  refine ⟨following, held, (offers.mem_iff _).mpr ⟨?_, ?_⟩, fun member => ?_, template⟩
  · exact Or.inr (Or.inr (by decide))
  · decide
  · exact ((offers.mem_iff _).mp member).2 (by decide) (by decide)

/-! ### Leaving a source -/

/-- A provider that leaves its source stays as it is. -/
theorem providers_leave (present : w.providers[n]? = some following) :
    (w.setSource n none).providers[n]? = some ⟨following.provider, none⟩ := by
  by_cases idle : following.source = none
  · rw [setSource, present]
    simp only [if_pos idle]
    rw [present, ← idle]
  · rw [providers_setSource present idle, present]
    simp

theorem possible_of_untold (rebuilds : action.Rebuilds w n) (untold : action.tells w n = none) :
    action.Possible v := by
  rcases rebuilds with tells | ⟨keyword, expansion, rfl⟩ | ⟨token, bare, rfl⟩
  · simp [untold] at tells
  · trivial
  · trivial

/-- Without being told of symbols, a provider that builds its base model again stays at its
source. -/
theorem providers_untold {provider : Provider} {source : Option Nat}
    (present : w.providers[n]? = some ⟨provider, source⟩) (rebuilds : action.Rebuilds w n)
    (untold : action.tells w n = none) :
    (w.perform action).providers[n]? = some ⟨action.edits w n provider, source⟩ := by
  rw [Action.edits, untold]
  rcases rebuilds with tells | ⟨keyword, expansion, rfl⟩ | ⟨token, bare, rfl⟩
  · simp [untold] at tells
  · simp only [perform, editProvider, List.getElem?_modify, present, Action.asksOf, if_true]
    rfl
  · simp only [perform, complete, present, editProvider, List.getElem?_modify, Action.asksOf, if_true]
    rfl

theorem Run.mono {other : Workspace → Action → Prop} (run : Run allowed w log)
    (weaker : ∀ v action, allowed v action → other v action) : Run other w log := by
  induction run with
  | start => exact .start
  | step _ possible permitted ih => exact .step ih possible (weaker _ _ permitted)

/-- A provider that leaves its source is subscribed to nothing, and otherwise just as it was: it goes on
offering the symbols it was last told. -/
theorem detached_providers_keep_symbols (run : Run allowed w log)
    (present : w.providers[n]? = some following) :
    let left := w.perform (.setSource n none)
    let entries := (w, .setSource n none) :: log
    (∀ source kind, .provider n ∉ (left.channel source kind).subscribers) ∧
    left.providers[n]? = some ⟨following.provider, none⟩ ∧
    (following.provider.model = following.provider.baseCandidates →
      Offers entries n following.provider.model) ∧
    toldOf entries n = toldOf log n ∧
    ((∀ v action, allowed v action → action.SymbolsFlow v) → ∀ source,
      following.source = some source → toldOf log n = w.symbolsOf source) ∧
    ∀ next : Action, next.Rebuilds left n → next.tells left n = none →
      ∃ offered, (left.perform next).providers[n]? = some ⟨offered, none⟩ ∧
        let later := (left, next) :: entries
        toldOf later n = toldOf log n ∧ Offers later n offered.model ∧
        ((∀ name ∈ offered.model,
            name ∈ (ledgerOf later n).builtinSymbols ∨ name ∈ (ledgerOf later n).keywords) ↔
          ∀ name ∈ toldOf log n, name ∈ (ledgerOf later n).builtinSymbols ∨
            name ∈ (ledgerOf later n).keywords ∨
            (ledgerOf later n).typed ≠ [] ∧ name = (ledgerOf later n).typed) := by
  intro left entries
  have possible : (Action.setSource n none).Possible w := by simp [Action.Possible]
  have recorded : left.Recorded entries := recorded_perform run.recorded possible
  have subscribed : left.Subscribed := subscribed_perform run.subscribed possible
  have here : left.providers[n]? = some ⟨following.provider, none⟩ := providers_leave present
  have kept : toldOf entries n = toldOf log n := by
    rw [toldOf_cons]
    simp [Action.tells]
  refine ⟨?_, here, fun base => ?_, kept, ?_, ?_⟩
  · intro source kind member
    have target := (subscribed.mem_iff (x := .provider n) (by simp)).mp member
    rw [target?_provider here] at target
    cases target
  · have offers := recorded.offers here base
    exact offers
  · intro flows source follows
    rw [← (run.recorded n following present).2]
    exact (run.mono flows).fed n following present source follows
  · intro next rebuilds untold
    have there := providers_untold here rebuilds untold
    have possible : next.Possible left := possible_of_untold rebuilds untold
    have offers := offers_perform recorded possible rebuilds there
    have told : toldOf ((left, next) :: entries) n = toldOf log n := by
      rw [toldOf_cons, untold, Option.getD_none, kept]
    refine ⟨_, there, told, offers, ?_⟩
    constructor
    · intro plain name listed
      by_contra uncovered
      simp only [not_or, not_and] at uncovered
      have member := (offers.mem_iff name).mpr ⟨Or.inr (Or.inl (told.symm ▸ listed)), uncovered.2.2⟩
      exact (plain name member).elim uncovered.1 uncovered.2.1
    · intro covered name member
      obtain ⟨drawn, shown⟩ := (offers.mem_iff name).mp member
      rcases drawn with builtin | listed | keyword
      · exact Or.inl builtin
      · rcases covered name (told ▸ listed) with builtin | keyword | ⟨started, same⟩
        · exact Or.inl builtin
        · exact Or.inr keyword
        · exact absurd same (shown started)
      · exact Or.inr keyword

theorem detached_providers_keep_symbols_followedExtractor :
    let scanned := (followedExtractor.extract 0 "x = 1".toList).1
    let left := scanned.perform (.setSource 0 none)
    ∃ offered, (left.perform (.addTemplate 0 "k".toList "v".toList)).providers[0]? =
        some ⟨offered, none⟩ ∧
      "x".toList ∈ offered.model ∧ offered.builtinSymbols = [] ∧
      offered.isTemplate "x".toList = false := by
  intro scanned left
  obtain ⟨following, held, follows⟩ : ∃ following, scanned.providers[0]? = some following ∧
      following.source = some 0 := ⟨_, rfl, rfl⟩
  obtain ⟨_, _, _, _, flows, next⟩ := detached_providers_keep_symbols followedExtractor_run held
  obtain ⟨offered, there, told, offers, _⟩ := next (.addTemplate 0 "k".toList "v".toList)
    (Or.inr (Or.inl ⟨_, _, rfl⟩)) rfl
  obtain ⟨plain, foreign⟩ : offered.builtinSymbols = [] ∧ offered.isTemplate "x".toList = false := by
    have same : (left.perform (.addTemplate 0 "k".toList "v".toList)).providers[0]? =
        some ⟨((Provider.ofConfig .default).updateUserSymbols
          (SymbolIndex.extract "x = 1".toList).symbols).addTemplate "k".toList "v".toList, none⟩ := rfl
    obtain rfl : _ = offered :=
      congrArg FollowingProvider.provider (Option.some.inj (same.symm.trans there))
    exact ⟨rfl, by decide⟩
  refine ⟨offered, there, (offers.mem_iff _).mpr ⟨Or.inr (Or.inl ?_), ?_⟩, plain, foreign⟩
  · rw [told, flows (fun _ _ flow => flow) 0 follows]
    change _ ∈ (SymbolIndex.extract "x = 1".toList).symbols
    rw [SymbolIndex.extract, if_neg (by decide)]
    exact Findings.mem_symbols.mpr (by decide)
  · intro started
    exact absurd rfl started

end SymbolIndex.Workspace
