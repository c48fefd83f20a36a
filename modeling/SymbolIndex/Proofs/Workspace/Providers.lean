import SymbolIndex.Proofs.Completion.Provider
import SymbolIndex.Proofs.Workspace.Run

/-! Providers follow their sources: whatever a host does, a provider offers what the log of actions
and the present symbols of its source say, as long as nobody fails when told of symbols. -/
namespace SymbolIndex.Workspace
variable {w v : Workspace} {log : List (Workspace × Action)} {action : Action} {source n : Nat}
  {language : Language} {old snapshot : Snapshot} {tell : Telling} {text : Text}
  {following : FollowingProvider} {ledgers : Nat → Completion.Ledger}
open Completion (Ledger)

/-- An extraction during which nobody fails on symbols. Other actions tell nobody symbols. -/
def Action.SymbolsReach (w : Workspace) : Action → Prop
  | .extract source text tell => ∀ language old snapshot,
    w.origin? source = some (.extractor language old) →
    language.snapshot? text = some snapshot →
    (w.symbolsDelivery source language snapshot tell).2 = none
  | _ => True

/-- Nobody fails on symbols, and no provider is given symbols by hand. -/
def Action.SymbolsFlow (w : Workspace) (action : Action) : Prop :=
  action.SymbolsReach w ∧ ∀ n names, action ≠ .setSymbols n names

/-! ### The account of a provider -/

/-- The source that a provider follows. -/
def sourceOf (w : Workspace) (n : Nat) : Option Nat :=
  w.providers[n]?.bind FollowingProvider.source

/-- The account of the `n`-th provider after one more action. Its base model is built again when it
is made, moves to a source, hears symbols, gets a template or user symbols, or completes a bare
token. -/
def enter (n : Nat) (ledger : Ledger) (w : Workspace) : Action → Ledger
  | .addProvider config _ => if n = w.providers.length then .opened config else ledger
  | .setSource m goal =>
    if n = m ∧ goal.isSome ∧ w.sourceOf n ≠ goal then ledger.rebuilt else ledger
  | .extract source text _ =>
    if w.sourceOf n = some source ∧ w.installs source text then ledger.rebuilt else ledger
  | .addTemplate m keyword _ => if n = m then ledger.registered keyword else ledger
  | .setSymbols m _ => if n = m then ledger.rebuilt else ledger
  | .complete m token =>
    if n = m then ledger.completed token (((w.complete m token).2.map (·.candidates)).getD [])
    else ledger
  | _ => ledger

/-- The account of the `n`-th provider after a whole log. -/
def ledgerOf (log : List (Workspace × Action)) (n : Nat) : Ledger :=
  log.foldr (fun entry ledger => enter n ledger entry.1 entry.2) ⟨[], [], [], none⟩

/-- Every provider is as its account says. -/
def Described (w : Workspace) (ledgers : Nat → Ledger) : Prop :=
  ∀ (n : Nat) (following : FollowingProvider), w.providers[n]? = some following →
    (ledgers n).Describes following.provider

theorem Described.congr (described : w.Described ledgers) (providers : v.providers = w.providers) :
    v.Described ledgers := by
  intro n following present
  rw [providers] at present
  exact described n following present

/-- One provider and its account are edited, the others stay. -/
theorem Described.editProvider (described : w.Described ledgers) (m : Nat)
    (edit : Completion.Provider → Completion.Provider) (note : Ledger → Ledger)
    (keeps : ∀ following, w.providers[m]? = some following →
      (ledgers m).Describes following.provider →
        (note (ledgers m)).Describes (edit following.provider)) :
    (w.editProvider m edit).Described fun n => if n = m then note (ledgers n) else ledgers n := by
  intro n following present
  rw [Workspace.editProvider, List.getElem?_modify] at present
  obtain ⟨before, held, same⟩ := Option.map_eq_some_iff.mp present
  by_cases here : n = m
  · subst here
    simp only [if_true] at same ⊢
    exact same ▸ keeps before held (described n before held)
  · simp only [if_neg (Ne.symm here)] at same
    simp only [if_neg here]
    exact same ▸ described n before held

theorem described_setSource (described : w.Described ledgers) (m : Nat) (goal : Option Nat) :
    (w.setSource m goal).Described fun n =>
      if n = m ∧ goal.isSome ∧ w.sourceOf n ≠ goal then (ledgers n).rebuilt else ledgers n := by
  cases present : w.providers[m]? with
  | none =>
    intro n following held
    rw [setSource, present] at held
    have apart : n ≠ m := by
      rintro rfl
      rw [present] at held
      cases held
    simpa only [if_neg fun all : n = m ∧ _ => apart all.1] using described n following held
  | some mover =>
    have followed : w.sourceOf m = mover.source := by rw [sourceOf, present, Option.bind_some]
    by_cases stays : mover.source = goal
    · intro n following held
      have still : ¬(n = m ∧ goal.isSome ∧ w.sourceOf n ≠ goal) := by
        rintro ⟨rfl, _, moves⟩
        exact moves (followed.trans stays)
      rw [setSource, present] at held
      simp only [if_pos stays] at held
      simp only [if_neg still]
      exact described n following held
    · intro n following held
      rw [providers_setSource present stays] at held
      obtain ⟨before, was, same⟩ := Option.map_eq_some_iff.mp held
      by_cases here : n = m
      · subst here
        obtain rfl := Option.some.inj (was.symm.trans present)
        simp only [if_true] at same
        cases goal with
        | none =>
          simp only [Option.isSome_none, Bool.false_eq_true, false_and, and_false, if_false]
          exact same ▸ described n before was
        | some s =>
          simp only [Option.isSome_some, true_and, followed, if_pos stays]
          exact same ▸ (described n before was).updateUserSymbols (w.symbolsOf s)
      · rw [if_neg (Ne.symm here)] at same
        simp only [if_neg fun all : n = m ∧ _ => here all.1]
        exact same ▸ described n before was

theorem described_addProvider (described : w.Described ledgers) (config : Completion.Config)
    (goal : Option Nat) :
    (w.addProvider config goal).Described fun n =>
      if n = w.providers.length then .opened config else ledgers n := by
  have added : Described { w with providers := w.providers ++ [⟨.ofConfig config, none⟩] }
      fun n => if n = w.providers.length then .opened config else ledgers n := by
    intro n following present
    rcases getElem?_concat_eq_some present with before | ⟨rfl, rfl⟩
    · have inside : n ≠ w.providers.length :=
        Nat.ne_of_lt (List.getElem?_eq_some_iff.mp before).1
      simpa only [if_neg inside] using described n following before
    · simpa only [if_true] using Ledger.describes_ofConfig config
  intro n following present
  have moved := described_setSource added w.providers.length goal n following present
  by_cases here : n = w.providers.length
  · simp only [here, if_true] at moved ⊢
    split at moved
    · exact moved
    · exact moved
  · simpa only [if_neg here, if_neg fun all : n = w.providers.length ∧ _ => here all.1] using moved

theorem described_install (described : w.Described ledgers) (subscribed : w.Subscribed)
    (hosted : Hosted tell)
    (finished : (w.symbolsDelivery source language snapshot tell).2 = none) :
    (w.install source language snapshot tell).1.Described fun n =>
      if w.sourceOf n = some source then (ledgers n).rebuilt else ledgers n := by
  intro n following present
  rw [providers_install hosted, reached_of_finished finished] at present
  obtain ⟨before, held, same⟩ := Option.map_eq_some_iff.mp present
  have followed : w.sourceOf n = before.source := by rw [sourceOf, held, Option.bind_some]
  have told := subscribed.provider_mem_iff held source
  rw [← followed] at told
  by_cases here : w.sourceOf n = some source
  · rw [if_pos (told.mpr here)] at same
    simp only [if_pos here]
    exact same ▸ (described n before held).updateUserSymbols snapshot.symbols
  · rw [if_neg fun listed => here (told.mp listed)] at same
    simp only [if_neg here]
    exact same ▸ described n before held

theorem described_complete (described : w.Described ledgers) (m : Nat) (token : Text) :
    (w.complete m token).1.Described fun n =>
      if n = m then
        (ledgers n).completed token (((w.complete m token).2.map (·.candidates)).getD [])
      else ledgers n := by
  cases present : w.providers[m]? with
  | none =>
    intro n following held
    rw [complete, present] at held
    have apart : n ≠ m := by
      rintro rfl
      rw [present] at held
      cases held
    simp only [if_neg apart]
    exact described n following held
  | some asked =>
    have performed : w.complete m token =
        (w.editProvider m fun _ => (asked.provider.complete (w.memberSource m) token).2,
          some (asked.provider.complete (w.memberSource m) token).1) := by
      rw [complete, present]
    rw [performed]
    refine described.editProvider m _ (·.completed token _) fun following held fits => ?_
    obtain rfl := Option.some.inj (held.symm.trans present)
    exact fits.complete _ token

theorem described_perform (described : w.Described ledgers) (subscribed : w.Subscribed)
    (possible : action.Possible w) (reach : action.SymbolsReach w) :
    (w.perform action).Described fun n => enter n (ledgers n) w action := by
  cases action with
  | addProvider config goal => exact described_addProvider described config goal
  | setSource m goal => exact described_setSource described m goal
  | extract source text tell =>
    change (w.extract source text tell).1.Described fun n =>
      if w.sourceOf n = some source ∧ w.installs source text then (ledgers n).rebuilt
      else ledgers n
    rcases extract_cases w source text tell with
      ⟨fails, same⟩ | ⟨succeeds, language, old, snapshot, known, scanned, same⟩
    · simpa [same, fails] using described
    · have finished := reach language old snapshot known scanned
      simpa [same, succeeds] using described_install described subscribed possible finished
  | addTemplate m keyword expansion =>
    exact described.editProvider m (·.addTemplate keyword expansion) (·.registered keyword)
      fun _ _ fits => fits.addTemplate keyword expansion
  | setSymbols m names =>
    exact described.editProvider m (·.updateUserSymbols names) Ledger.rebuilt
      fun _ _ fits => fits.updateUserSymbols names
  | complete m token => exact described_complete described m token
  | addExtractor language => exact described.congr rfl
  | addLocator goal =>
    cases goal with
    | none => exact described.congr rfl
    | some source => exact described.congr (providers_attach _ _ source)
  | attach m source => exact described.congr (providers_attach w m source)
  | detach m => exact described.congr (providers_detach w m)
  | listen source kind listener => exact described.congr rfl
  | subscribe source kind m => exact described.congr rfl
  | unsubscribe source kind m => exact described.congr rfl

theorem Run.described {allowed : Workspace → Action → Prop} (run : Run allowed w log)
    (reach : ∀ w action, allowed w action → action.SymbolsReach w) :
    w.Described (ledgerOf log) := by
  induction run with
  | start =>
    intro _ _ held
    cases held
  | step before possible permitted ih =>
    exact described_perform ih before.subscribed possible (reach _ _ permitted)

/-! ### User symbols -/

/-- A provider with a source has the symbols of that source for user symbols. -/
def Fed (w : Workspace) : Prop :=
  ∀ (n : Nat) (following : FollowingProvider), w.providers[n]? = some following →
    ∀ source, following.source = some source →
      following.provider.userSymbols = w.symbolsOf source

theorem symbolsOf_congr (same : ∀ source, v.origin? source = w.origin? source) :
    v.symbolsOf = w.symbolsOf :=
  funext fun source => by rw [symbolsOf, symbolsOf, same]

theorem Fed.congr (fed : w.Fed) (providers : v.providers = w.providers)
    (symbols : v.symbolsOf = w.symbolsOf) : v.Fed := by
  intro n following present
  rw [providers] at present
  rw [symbols]
  exact fed n following present

theorem Fed.editProvider (fed : w.Fed) (m : Nat)
    (edit : Completion.Provider → Completion.Provider)
    (keeps : ∀ following, w.providers[m]? = some following →
      (edit following.provider).userSymbols = following.provider.userSymbols) :
    (w.editProvider m edit).Fed := by
  intro n following present source follows
  rw [Workspace.editProvider, List.getElem?_modify] at present
  obtain ⟨before, held, same⟩ := Option.map_eq_some_iff.mp present
  by_cases here : m = n
  · subst here
    rw [if_pos rfl] at same
    subst same
    exact (keeps before held).trans (fed m before held source follows)
  · rw [if_neg here] at same
    exact same ▸ fed n before held source (same ▸ follows)

theorem fed_setSource (fed : w.Fed) (m : Nat) (goal : Option Nat) : (w.setSource m goal).Fed := by
  cases present : w.providers[m]? with
  | none =>
    rw [setSource, present]
    exact fed
  | some mover =>
    by_cases stays : mover.source = goal
    · rw [setSource, present]
      simpa only [if_pos stays] using fed
    · intro n following held source follows
      rw [symbolsOf_congr (origin?_setSource w m goal)]
      rw [providers_setSource present stays] at held
      obtain ⟨before, was, same⟩ := Option.map_eq_some_iff.mp held
      by_cases here : m = n
      · rw [if_pos here] at same
        subst same
        obtain rfl : goal = some source := follows
        rfl
      · rw [if_neg here] at same
        exact same ▸ fed n before was source (same ▸ follows)

theorem fed_addProvider (fed : w.Fed) (config : Completion.Config) (goal : Option Nat) :
    (w.addProvider config goal).Fed := by
  have added : Fed { w with providers := w.providers ++ [⟨.ofConfig config, none⟩] } := by
    intro n following present source follows
    rcases getElem?_concat_eq_some present with before | ⟨_, rfl⟩
    · exact fed n following before source follows
    · cases follows
  exact fed_setSource added _ goal

theorem fed_install (fed : w.Fed) (subscribed : w.Subscribed) (hosted : Hosted tell)
    (known : w.origin? source = some (.extractor language old))
    (finished : (w.symbolsDelivery source language snapshot tell).2 = none) :
    (w.install source language snapshot tell).1.Fed := by
  intro n following present other follows
  have sources : (w.install source language snapshot tell).1.sources =
      (w.withOrigin source (.extractor language snapshot)).sources := sources_install hosted
  rw [providers_install hosted, reached_of_finished finished] at present
  obtain ⟨before, held, same⟩ := Option.map_eq_some_iff.mp present
  have told := subscribed.provider_mem_iff held source
  rw [symbolsOf, origin?_congr sources]
  by_cases here : before.source = some source
  · rw [if_pos (told.mpr here)] at same
    subst same
    obtain rfl : source = other := Option.some.inj (here.symm.trans follows)
    rw [origin?_withOrigin known]
    rfl
  · rw [if_neg fun listed => here (told.mp listed)] at same
    subst same
    have apart : source ≠ other := fun equal => here (equal ▸ follows)
    rw [origin?_withOrigin_of_ne apart]
    exact fed n before held other follows

theorem userSymbols_complete (provider : Completion.Provider)
    (source : Option Completion.MemberSource) (token : Text) :
    (provider.complete source token).2.userSymbols = provider.userSymbols := by
  unfold Completion.Provider.complete
  cases Completion.splitMemberAccess token <;> rfl

theorem fed_perform (fed : w.Fed) (subscribed : w.Subscribed) (possible : action.Possible w)
    (flow : action.SymbolsFlow w) : (w.perform action).Fed := by
  cases action with
  | addProvider config goal => exact fed_addProvider fed config goal
  | setSource m goal => exact fed_setSource fed m goal
  | extract source text tell =>
    change (w.extract source text tell).1.Fed
    rcases extract_cases w source text tell with
      ⟨_, same⟩ | ⟨_, language, old, snapshot, known, scanned, same⟩
    · rw [same]
      exact fed
    · rw [same]
      exact fed_install fed subscribed possible known (flow.1 language old snapshot known scanned)
  | addTemplate m keyword expansion => exact fed.editProvider m _ fun _ _ => rfl
  | setSymbols m names => exact absurd rfl (flow.2 m names)
  | complete m token =>
    change (w.complete m token).1.Fed
    rcases complete_cases w m token with same | ⟨asked, present, same⟩
    · rw [same]
      exact fed
    · rw [same]
      refine fed.editProvider m _ fun following held => ?_
      obtain rfl := Option.some.inj (held.symm.trans present)
      exact userSymbols_complete _ _ token
  | addExtractor language =>
    exact fed.congr rfl (funext fun source =>
      origin?_addExtractor_getD w language source Origin.symbols rfl)
  | addLocator goal =>
    cases goal with
    | none => exact fed.congr rfl rfl
    | some source =>
      exact fed.congr (providers_attach _ _ source) (symbolsOf_congr (origin?_attach _ _ source))
  | attach m source =>
    exact fed.congr (providers_attach w m source) (symbolsOf_congr (origin?_attach w m source))
  | detach m => exact fed.congr (providers_detach w m) (symbolsOf_congr (origin?_detach w m))
  | listen source kind listener =>
    exact fed.congr rfl (symbolsOf_congr fun _ => origin?_editChannel _ _)
  | subscribe source kind m => exact fed.congr rfl (symbolsOf_congr fun _ => origin?_editChannel _ _)
  | unsubscribe source kind m =>
    exact fed.congr rfl (symbolsOf_congr fun _ => origin?_editChannel _ _)

theorem Run.fed (run : Run Action.SymbolsFlow w log) : w.Fed := by
  induction run with
  | start =>
    intro _ _ held
    cases held
  | step before possible flow ih => exact fed_perform ih before.subscribed possible flow

/-- After every run in which nobody fails on symbols and none are given by hand, a provider offers the
present symbols of the source it follows, or the members it was last asked for. -/
theorem providers_follow_sources (run : Run Action.SymbolsFlow w log)
    (present : w.providers[n]? = some following) :
    (∀ source kind, (w.channel source kind).subscribers.count (.provider n) =
      if following.source = some source ∧ kind = .symbols then 1 else 0) ∧
    ∀ source, following.source = some source → ∃ origin, w.origin? source = some origin ∧
      match (ledgerOf log n).members with
      | some candidates => following.provider.model = candidates
      | none =>
        following.provider.model.Pairwise Text.FoldedLt ∧
        ∀ name, name ∈ following.provider.model ↔
          (name ∈ (ledgerOf log n).builtinSymbols ∨ name ∈ origin.symbols ∨
            name ∈ (ledgerOf log n).keywords) ∧
          ((ledgerOf log n).typed ≠ [] → name ≠ (ledgerOf log n).typed) := by
  have target := target?_provider present
  have fits := run.described (fun _ _ flow => flow.1) n following present
  constructor
  · intro source kind
    refine (run.subscribed (.provider n) (by simp) source kind).trans ?_
    rw [target]
    cases following.source <;> cases kind <;> simp
  · intro source follows
    rw [follows] at target
    have known : source < w.sources.length := run.subscribed.known target
    have here : w.origin? source = some w.sources[source].origin := by
      rw [origin?, List.getElem?_eq_getElem known]
      rfl
    have fed : following.provider.userSymbols = w.sources[source].origin.symbols := by
      rw [run.fed n following present source follows, symbolsOf, here]
      rfl
    refine ⟨_, here, ?_⟩
    have model := fits.model
    cases shown : (ledgerOf log n).members with
    | some candidates =>
      rw [shown] at model
      exact model
    | none =>
      rw [shown, Option.getD_none] at model
      rw [model]
      refine ⟨Completion.Provider.baseCandidates_strict _, fun name => ?_⟩
      rw [Completion.Provider.mem_baseCandidates, fits.builtinSymbols, fits.keywords, fits.typed,
        fed]

/-- An extractor and a provider with the default templates that follows it. -/
def followedExtractor : Workspace := (Workspace.empty.addExtractor .python).addProvider .default (some 0)

theorem followedExtractor_run : Run Action.SymbolsFlow
    (followedExtractor.extract 0 "x = 1".toList).1
    [(followedExtractor, .extract 0 "x = 1".toList call),
      (Workspace.empty.addExtractor .python, .addProvider .default (some 0)),
      (.empty, .addExtractor .python)] := by
  have made := @Run.step Action.SymbolsFlow _ _ (.addExtractor .python) .start trivial
    ⟨trivial, by simp⟩
  have following := @Run.step Action.SymbolsFlow _ _ (.addProvider .default (some 0)) made
    (by rintro _ ⟨⟩; decide) ⟨trivial, by simp⟩
  refine @Run.step _ _ _ (.extract 0 "x = 1".toList call) following hosted_call ⟨?_, by simp⟩
  intro language old snapshot known scanned
  rfl

theorem providers_follow_sources_followedExtractor :
    ∃ following, (followedExtractor.extract 0 "x = 1".toList).1.providers[0]? = some following ∧
      following.source = some 0 ∧
      following.provider.model.Pairwise Text.FoldedLt ∧
      "main".toList ∈ following.provider.model := by
  have held : (followedExtractor.extract 0 "x = 1".toList).1.providers[0]? =
      some ⟨(Completion.Provider.ofConfig .default).updateUserSymbols
        (SymbolIndex.extract "x = 1".toList).symbols, some 0⟩ := rfl
  obtain ⟨_, offers⟩ := providers_follow_sources followedExtractor_run held
  obtain ⟨origin, _, strict, members⟩ := offers 0 rfl
  refine ⟨_, held, rfl, strict, (members _).mpr ⟨Or.inr (Or.inr ?_), fun started => absurd rfl started⟩⟩
  decide

end SymbolIndex.Workspace
