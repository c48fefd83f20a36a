import SymbolIndex.Proofs.Completion.Candidates
import SymbolIndex.Proofs.Workspace.Providers

/-! Completion within a host. What a completion leaves with a provider is the text that was typed
and the model on show. No action reads either of them, so hosts that differ in no more than that
stay so whatever is done with them, and complete every token alike. -/
namespace SymbolIndex
open Completion (Provider)

/-- What a follower was given. -/
def FollowingProvider.given (following : FollowingProvider) : FollowingProvider :=
  { following with provider := following.provider.given }

namespace Workspace
variable {w v u : Workspace} {n : Nat} {token : Text} {tell : Telling} {action : Action}
  {following : FollowingProvider}

def withProviders (w : Workspace) (providers : List FollowingProvider) : Workspace :=
  { w with providers := providers }

/-- A provider is off its source. -/
def leaveSource (w : Workspace) (n : Nat) : Option Nat → Workspace
  | some old => w.editChannel old .symbols (·.unsubscribe (.provider n))
  | none => w

/-- A provider that moves leaves its source, and then takes over what the new one has. -/
theorem setSource_moves {goal : Option Nat} (present : w.providers[n]? = some following)
    (moves : following.source ≠ goal) : w.setSource n goal =
      let left := w.leaveSource n following.source
      let moved := left.withProviders (left.providers.modify n fun p => { p with source := goal })
      goal.elim moved fun new =>
        (moved.editChannel new .symbols (·.subscribe (.provider n))).editProvider n
          (·.updateUserSymbols (w.symbolsOf new)) := by
  obtain ⟨provider, source⟩ := following
  rw [setSource, present]
  simp only [if_neg moves]
  have found (v : Workspace) (providers : List FollowingProvider) (source : Nat) :
      origin? { v with providers := providers } source = v.origin? source := rfl
  cases source <;> cases goal <;> simp only [origin?_editChannel, found] <;> rfl

/-- The second workspace differs from the first in no more than what completions leave. -/
inductive Alike (w : Workspace) : Workspace → Prop
  | mk (providers : List FollowingProvider)
      (given : providers.map FollowingProvider.given = w.providers.map FollowingProvider.given) :
      Alike w (w.withProviders providers)

/-- What a subscriber does, and whether it fails, does not depend on what completions left. -/
def Unaware (tell : Telling) : Prop :=
  ∀ payload subscriber w v, Alike w v →
    Alike (tell payload subscriber w).1 (tell payload subscriber v).1 ∧
      (tell payload subscriber v).2 = (tell payload subscriber w).2

namespace Alike

theorem refl (w : Workspace) : Alike w w := .mk w.providers rfl

theorem symm (alike : Alike w v) : Alike v w := by
  cases alike with
  | mk providers given => exact .mk w.providers given.symm

theorem trans (first : Alike w v) (second : Alike v u) : Alike w u := by
  cases first with
  | mk middle given =>
    cases second with
    | mk last also => exact .mk last (also.trans given)

/-- The same provider was given the same things. -/
theorem provider? (alike : Alike w v) (n : Nat) :
    v.providers[n]?.map FollowingProvider.given = w.providers[n]?.map FollowingProvider.given := by
  cases alike with
  | mk providers given =>
    have same := congrArg (·[n]?) given
    rwa [List.getElem?_map, List.getElem?_map] at same

/-- An action that neither reads nor changes a provider. -/
theorem frame (alike : Alike w v) (act : Workspace → Workspace)
    (apart : ∀ providers, act (w.withProviders providers) = (act w).withProviders providers)
    (keeps : (act w).providers = w.providers) : Alike (act w) (act v) := by
  cases alike with
  | mk providers given =>
    rw [apart]
    exact .mk providers (keeps ▸ given)

theorem editChannel (alike : Alike w v) (source : Nat) (kind : ChannelKind)
    (edit : Channel Subscriber → Channel Subscriber) :
    Alike (w.editChannel source kind edit) (v.editChannel source kind edit) :=
  alike.frame (·.editChannel source kind edit) (fun _ => rfl) rfl

/-- A change of one provider that asks for no more than what it was given. -/
theorem modify (alike : Alike w v) (n : Nat) (edit : FollowingProvider → FollowingProvider)
    (unaware : ∀ p q : FollowingProvider, p.given = q.given → (edit p).given = (edit q).given) :
    Alike (w.withProviders (w.providers.modify n edit))
      (v.withProviders (v.providers.modify n edit)) := by
  have each := alike.provider?
  cases alike with
  | mk providers given =>
    refine .mk (providers.modify n edit) (List.ext_getElem? fun m => ?_)
    have same := each m
    simp only [withProviders, List.getElem?_map, List.getElem?_modify] at same ⊢
    by_cases here : n = m
    · cases left : providers[m]? <;> cases right : w.providers[m]? <;>
        simp only [left, right, Option.map_none, Option.map_some, Option.some.injEq, reduceCtorEq]
          at same
      · rfl
      · simpa [here] using unaware _ _ same
    · simpa [here] using same

theorem editProvider (alike : Alike w v) (n : Nat) {edit : Provider → Provider}
    (unaware : ∀ p q : Provider, p.given = q.given → (edit p).given = (edit q).given) :
    Alike (w.editProvider n edit) (v.editProvider n edit) := by
  refine alike.modify n (fun p => { p with provider := edit p.provider }) fun p q same => ?_
  obtain ⟨provider, source⟩ := p
  obtain ⟨other, _⟩ := q
  obtain ⟨given, rfl⟩ := FollowingProvider.mk.inj same
  simp only [FollowingProvider.given, unaware provider other given]

theorem addTemplate (alike : Alike w v) (n : Nat) (keyword expansion : Text) :
    Alike (w.editProvider n (·.addTemplate keyword expansion))
      (v.editProvider n (·.addTemplate keyword expansion)) := by
  refine alike.editProvider n fun p q same => ?_
  obtain ⟨builtins, templates, users⟩ := Provider.given_eq_iff.mp same
  exact Provider.given_eq_iff.mpr ⟨builtins, congrArg (·.put keyword expansion) templates, users⟩

theorem updateUserSymbols (alike : Alike w v) (n : Nat) (symbols : List Text) :
    Alike (w.editProvider n (·.updateUserSymbols symbols))
      (v.editProvider n (·.updateUserSymbols symbols)) := by
  refine alike.editProvider n fun p q same => ?_
  obtain ⟨builtins, templates, _⟩ := Provider.given_eq_iff.mp same
  exact Provider.given_eq_iff.mpr ⟨builtins, templates, rfl⟩

theorem origin? (alike : Alike w v) (source : Nat) : v.origin? source = w.origin? source := by
  cases alike
  rfl

theorem setSource (alike : Alike w v) (n : Nat) (goal : Option Nat) :
    Alike (w.setSource n goal) (v.setSource n goal) := by
  have same := alike.provider? n
  cases present : w.providers[n]? with
  | none =>
    rw [present, Option.map_none, Option.map_eq_none_iff] at same
    rwa [Workspace.setSource, Workspace.setSource, present, same]
  | some following =>
    rw [present, Option.map_some, Option.map_eq_some_iff] at same
    obtain ⟨⟨provider, source⟩, found, given⟩ := same
    obtain ⟨was, _⟩ := following
    obtain ⟨_, rfl⟩ := FollowingProvider.mk.inj given
    by_cases stays : source = goal
    · rw [Workspace.setSource, Workspace.setSource, present, found]
      simpa only [if_pos stays] using alike
    · rw [setSource_moves present stays, setSource_moves found stays]
      have left : Alike (w.leaveSource n source) (v.leaveSource n source) := by
        cases source with
        | none => exact alike
        | some old => exact alike.editChannel old .symbols (·.unsubscribe (.provider n))
      have moved := left.modify n (fun p => { p with source := goal }) fun p q same => by
        obtain ⟨given, _⟩ := FollowingProvider.mk.inj same
        exact congrArg (FollowingProvider.mk · goal) given
      cases goal with
      | none => exact moved
      | some new =>
        have told : v.symbolsOf new = w.symbolsOf new := by
          rw [symbolsOf, symbolsOf, alike.origin? new]
        simp only [Option.elim_some, told]
        exact (moved.editChannel new .symbols (·.subscribe (.provider n))).updateUserSymbols n _

theorem addProvider (alike : Alike w v) (config : Completion.Config) (goal : Option Nat) :
    Alike (w.addProvider config goal) (v.addProvider config goal) := by
  have added : Alike (w.withProviders (w.providers ++ [⟨.ofConfig config, none⟩]))
      (v.withProviders (v.providers ++ [⟨.ofConfig config, none⟩])) := by
    cases alike with
    | mk providers given =>
      refine .mk (providers ++ [⟨.ofConfig config, none⟩]) ?_
      rw [List.map_append, given, withProviders, List.map_append]
  have lengths : v.providers.length = w.providers.length := by
    cases alike with
    | mk providers given => simpa [withProviders] using congrArg List.length given
  have moved := added.setSource w.providers.length goal
  unfold Workspace.addProvider
  rw [lengths]
  exact moved

theorem detach (alike : Alike w v) (n : Nat) : Alike (w.detach n) (v.detach n) := by
  refine alike.frame (·.detach n) (fun providers => ?_) (providers_detach w n)
  simp only [Workspace.detach, withProviders]
  cases w.locators[n]? with
  | none => rfl
  | some locator =>
    obtain ⟨records, source⟩ := locator
    cases source <;> rfl

theorem withLocators (alike : Alike w v) (edit : List Locator → List Locator) :
    Alike { w with locators := edit w.locators } { v with locators := edit v.locators } :=
  alike.frame (fun w => { w with locators := edit w.locators }) (fun _ => rfl) rfl

theorem attach (alike : Alike w v) (n source : Nat) :
    Alike (w.attach n source) (v.attach n source) := by
  have joined := (alike.detach n).editChannel source .positions (·.subscribe (.locator n))
  unfold Workspace.attach
  simp only [joined.origin? source]
  exact joined.withLocators _

theorem addLocator (alike : Alike w v) (goal : Option Nat) :
    Alike (w.addLocator goal) (v.addLocator goal) := by
  have added := alike.withLocators (· ++ [⟨[], none⟩])
  have lengths : v.locators.length = w.locators.length := by
    cases alike
    rfl
  cases goal with
  | none => exact added
  | some source =>
    have attached := added.attach w.locators.length source
    unfold Workspace.addLocator
    rw [lengths]
    exact attached

/-- A delivery goes as far as it would have gone, with the same outcome. -/
theorem deliver (unaware : Unaware tell) (payload : Payload) {subscribers : List Subscriber}
    (alike : Alike w v) :
    Alike (Channel.deliver (tell payload) subscribers w).1
      (Channel.deliver (tell payload) subscribers v).1 ∧
    (Channel.deliver (tell payload) subscribers v).2 =
      (Channel.deliver (tell payload) subscribers w).2 := by
  induction subscribers generalizing w v with
  | nil => exact ⟨alike, rfl⟩
  | cons subscriber later ih =>
    obtain ⟨told, outcome⟩ := unaware payload subscriber w v alike
    rw [Channel.deliver, Channel.deliver]
    cases first : tell payload subscriber w with
    | mk next failure =>
      cases second : tell payload subscriber v with
      | mk other failed =>
        rw [first, second] at told outcome
        obtain rfl : failed = failure := outcome
        cases failed with
        | some failure => exact ⟨told, rfl⟩
        | none => exact ih told

theorem publish (unaware : Unaware tell) (payload : Payload) (alike : Alike w v) (source : Nat)
    (kind : ChannelKind) :
    Alike (w.publish source kind payload tell).1 (v.publish source kind payload tell).1 := by
  have same : v.channel source kind = w.channel source kind := by
    cases alike
    rfl
  unfold Workspace.publish
  rw [same]
  exact (deliver unaware payload alike).1

theorem install (unaware : Unaware tell) (alike : Alike w v) (source : Nat) (language : Language)
    (snapshot : Snapshot) :
    Alike (w.install source language snapshot tell).1 (v.install source language snapshot tell).1 :=
  have replaced := alike.frame (fun w => { w with sources := w.sources.modify source fun s =>
    { s with origin := .extractor language snapshot } }) (fun _ => rfl) rfl
  have told := publish unaware (.symbols snapshot.symbols) replaced source .symbols
  publish unaware (.positions snapshot.positions) told source .positions

theorem extract (unaware : Unaware tell) (alike : Alike w v) (source : Nat) (text : Text) :
    Alike (w.extract source text tell).1 (v.extract source text tell).1 := by
  have same : v.installs source text = w.installs source text := by
    rw [installs, installs, alike.origin? source]
  rcases extract_cases w source text tell with
    ⟨idle, kept⟩ | ⟨_, language, old, snapshot, known, scanned, done⟩
  · rcases extract_cases v source text tell with ⟨_, also⟩ | ⟨busy, _⟩
    · rwa [kept, also]
    · simp [busy, idle] at same
  · have found := (alike.origin? source).trans known
    rw [done, extract_eq found scanned]
    exact install unaware alike source language snapshot

end Alike

/-- Providers, locators and listeners do not look at what completions left. -/
theorem unaware_call : Unaware call := by
  intro payload subscriber w v alike
  cases subscriber with
  | listener n =>
    cases alike with
    | mk providers given =>
      simp only [call, withProviders]
      cases w.listeners[n]? with
      | none => exact ⟨.mk providers given, rfl⟩
      | some listener => exact ⟨.mk providers given, rfl⟩
  | provider n =>
    cases payload with
    | symbols names => exact ⟨alike.updateUserSymbols n names, rfl⟩
    | positions records => exact ⟨alike, rfl⟩
  | locator n =>
    cases payload with
    | symbols names => exact ⟨alike, rfl⟩
    | positions records => exact ⟨alike.withLocators _, rfl⟩

/-- Whoever is told of an extraction does not look at what completions left. -/
def Action.Unaware : Action → Prop
  | .extract _ _ tell => Workspace.Unaware tell
  | _ => True

/-- A completion changes nothing but what completions leave. -/
theorem alike_complete (w : Workspace) (n : Nat) (token : Text) : Alike w (w.complete n token).1 := by
  rcases complete_cases w n token with same | ⟨following, present, same⟩
  · rw [same]
    exact .refl w
  · rw [same]
    refine .mk _ (List.ext_getElem? fun m => ?_)
    simp only [List.getElem?_map, List.getElem?_modify]
    by_cases here : n = m
    · subst here
      simp [present, FollowingProvider.given, Provider.given_complete]
    · simp [here]

/-- Whatever is done with two workspaces that are alike, they stay so. -/
theorem Alike.perform (alike : Alike w v) (unaware : action.Unaware) :
    Alike (w.perform action) (v.perform action) := by
  cases action with
  | addExtractor language =>
    exact alike.frame (·.addExtractor language) (fun _ => rfl) rfl
  | addLocator goal => exact alike.addLocator goal
  | addProvider config goal => exact alike.addProvider config goal
  | extract source text tell => exact alike.extract unaware source text
  | listen source kind listener =>
    exact alike.frame (·.listen source kind listener) (fun _ => rfl) rfl
  | subscribe source kind m =>
    exact alike.editChannel source kind (·.subscribe (.listener m))
  | unsubscribe source kind m =>
    exact alike.editChannel source kind (·.unsubscribe (.listener m))
  | attach n source => exact alike.attach n source
  | detach n => exact alike.detach n
  | setSource n goal => exact alike.setSource n goal
  | addTemplate n keyword expansion => exact alike.addTemplate n keyword expansion
  | setSymbols n names => exact alike.updateUserSymbols n names
  | complete n token =>
    exact ((alike_complete w n token).symm.trans alike).trans (alike_complete v n token)

/-- A provider asks the origin that it follows for members. -/
theorem memberSource_eq (w : Workspace) (n : Nat) :
    w.memberSource n = ((w.sourceOf n).bind w.origin?).map Origin.memberSource := by
  unfold memberSource sourceOf
  cases w.providers[n]? with
  | none => rfl
  | some following =>
    obtain ⟨provider, source⟩ := following
    cases source with
    | none => rfl
    | some source =>
      change (w.origin? source).bind (fun origin => some origin.memberSource) =
        (w.origin? source).map Origin.memberSource
      cases w.origin? source <;> rfl

theorem Alike.memberSource_eq (alike : Alike w v) (n : Nat) : v.memberSource n = w.memberSource n := by
  have source (given : FollowingProvider) : given.given.source = given.source := rfl
  have followed : v.sourceOf n = w.sourceOf n := by
    have same := congrArg (·.bind FollowingProvider.source) (alike.provider? n)
    simpa [sourceOf, Option.bind_map, Function.comp_def, source] using same
  have origins : v.origin? = w.origin? := funext alike.origin?
  rw [Workspace.memberSource_eq, Workspace.memberSource_eq, followed, origins]

/-- Completions find the same candidates. -/
theorem Alike.complete_eq (alike : Alike w v) (n : Nat) (token : Text) :
    (v.complete n token).2 = (w.complete n token).2 := by
  have same := alike.provider? n
  cases present : w.providers[n]? with
  | none =>
    rw [present, Option.map_none, Option.map_eq_none_iff] at same
    rw [complete, complete, present, same]
  | some following =>
    rw [present, Option.map_some, Option.map_eq_some_iff] at same
    obtain ⟨other, found, given⟩ := same
    have given := congrArg FollowingProvider.provider given
    rw [complete, complete, present, found, alike.memberSource_eq n]
    exact congrArg some (Provider.complete_congr given _ token)

/-- The workspace after one action and another. -/
def performAll (w : Workspace) (actions : List Action) : Workspace := actions.foldl perform w

def Action.completes : Action → Bool
  | .complete _ _ => true
  | _ => false

/-- A run is alike to the one without its completions. -/
theorem Alike.run (alike : Alike w v) {actions : List Action}
    (unaware : ∀ action ∈ actions, action.Unaware) :
    Alike (w.performAll (actions.filter (!·.completes))) (v.performAll actions) := by
  induction actions generalizing w v with
  | nil => exact alike
  | cons action actions ih =>
    obtain ⟨first, later⟩ := List.forall_mem_cons.mp unaware
    cases kind : action.completes with
    | false =>
      rw [List.filter_cons_of_pos (by simp [kind])]
      exact ih (alike.perform first) later
    | true =>
      rw [List.filter_cons_of_neg (by simp [kind])]
      refine ih (alike.trans ?_) later
      cases action with
      | complete n token => exact alike_complete v n token
      | _ => cases kind

open Completion (MembersBehind RankedLe rankMembers)

/-- A token with a point after its first character splits at its last point and is offered the members
behind the expression by rank; a bare one is offered all symbols and template keywords but itself. -/
theorem candidates_by_token (w : Workspace) (n : Nat) (token : Text)
    (present : w.providers[n]? = some following) :
    ∃ result, (w.complete n token).2 = some result ∧
      (∃ after, (w.complete n token).1.providers[n]? = some after ∧
        after.provider.model = result.candidates) ∧
      ((∀ i, 1 ≤ i → token[i]? ≠ some '.') →
        result.candidates.Pairwise Text.FoldedLt ∧
        ∀ name, name ∈ result.candidates ↔
          (name ∈ following.provider.builtinSymbols ∨ name ∈ following.provider.userSymbols ∨
            name ∈ following.provider.templates.keys) ∧
          (Text.strip token ≠ [] → name ≠ Text.strip token)) ∧
      (∀ i, 1 ≤ i → token[i]? = some '.' → ∃ object typed members,
        token = object ++ '.' :: typed ∧ object ≠ [] ∧ '.' ∉ typed ∧
        MembersBehind object ((following.source.bind w.origin?).map Origin.memberSource) members ∧
        let offered := members.filter fun m => typed = [] ∨ m ≠ typed
        result.candidates = rankMembers offered typed ∧ result.candidates.Perm offered ∧
          result.candidates.Pairwise (RankedLe typed)) ∧
      ∀ (start : Workspace) (actions : List Action), (∀ action ∈ actions, action.Unaware) →
        w = start.performAll actions →
        ((start.performAll (actions.filter (!·.completes))).complete n token).2 = some result := by
  have asked : w.memberSource n = (following.source.bind w.origin?).map Origin.memberSource := by
    rw [memberSource_eq, sourceOf, present]
    rfl
  have answer : w.complete n token =
      (w.editProvider n fun _ => (following.provider.complete (w.memberSource n) token).2,
        some (following.provider.complete (w.memberSource n) token).1) := by
    rw [complete, present]
  rw [← asked]
  refine ⟨(following.provider.complete (w.memberSource n) token).1, by rw [answer], ?_, ?_, ?_, ?_⟩
  · refine ⟨{ following with
      provider := (following.provider.complete (w.memberSource n) token).2 }, ?_,
      Provider.complete_model following.provider (w.memberSource n) token⟩
    simp [answer, editProvider, present]
  · intro bare
    rw [Provider.complete_bare (Completion.splitMemberAccess_eq_none.mpr bare)]
    exact ⟨Provider.baseCandidates_strict _, fun name => Provider.mem_baseCandidates⟩
  · intro i late point
    obtain ⟨⟨object, typed⟩, access⟩ := Option.ne_none_iff_exists'.mp fun bare =>
      Completion.splitMemberAccess_eq_none.mp bare i late point
    obtain ⟨split, content, unpointed⟩ := Completion.splitMemberAccess_eq_some.mp access
    refine ⟨object, typed, Provider.membersFor (w.memberSource n) object, split, content, unpointed,
      Provider.membersFor_behind _ _, ?_⟩
    intro offered
    rw [Provider.complete_access access]
    exact ⟨rfl, Completion.rankMembers_perm offered typed,
      Completion.rankMembers_sorted offered typed⟩
  · rintro start actions unaware rfl
    have same := ((Alike.refl start).run unaware).complete_eq n token
    rw [← same, answer]

/-- A host with a provider that follows fixed answers, where `a` has the members of its type, and with an
extractor beside them. -/
def typedHost : Workspace :=
  let members := Dictionary.empty.put "T".toList ["low".toList, "flow".toList, "lo".toList]
  let types := Dictionary.empty.put "a".toList "T".toList
  ((empty.addFixed [] members types).addExtractor .python).addProvider ⟨["if".toList], .empty⟩ (some 0)

/-- The member that is typed in full is not among the candidates. -/
theorem candidates_by_token_members : ∃ result,
    ((typedHost.extract 1 "x = 1".toList).1.complete 0 "a.lo".toList).2 = some result ∧
      result.candidates.Perm ["low".toList, "flow".toList] ∧
      ((((typedHost.complete 0 "i".toList).1.extract 1 "x = 1".toList).1.complete 0 "b.".toList).1.complete 0
        "a.lo".toList).2 = some result := by
  let asked := [Action.complete 0 "i".toList, .extract 1 "x = 1".toList call,
    .complete 0 "b.".toList]
  have present : (typedHost.performAll asked).providers[0]? = some _ := rfl
  obtain ⟨result, offered, _, _, access, alone⟩ :=
    candidates_by_token (typedHost.performAll asked) 0 "a.lo".toList present
  obtain ⟨object, typed, members, split, content, unpointed, behind, _, same, _⟩ :=
    access 1 (by decide) (by decide)
  have unaware : ∀ action ∈ asked, action.Unaware := by simp [asked, Action.Unaware, unaware_call]
  refine ⟨result, alone typedHost asked unaware rfl, ?_, offered⟩
  have parts : Completion.splitMemberAccess "a.lo".toList = some ("a".toList, "lo".toList) := by decide
  rw [Completion.splitMemberAccess_eq_some.mpr ⟨split, content, unpointed⟩] at parts
  obtain ⟨rfl, rfl⟩ := Prod.mk.inj (Option.some.inj parts)
  have listed : members = ["low".toList, "flow".toList, "lo".toList] := by
    cases behind with
    | own listed => exact absurd rfl listed
    | ofType => rfl
    | unknown _ untyped => cases untyped
  subst listed
  exact same

end Workspace
end SymbolIndex
