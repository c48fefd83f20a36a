import SymbolIndex.Proofs.Workspace.Atomic
import SymbolIndex.Proofs.Workspace.Subscription

/-! Everything a host can do with a workspace, one action after another. No action leaves a provider
or a locator subscribed where it should not be. -/
namespace SymbolIndex.Workspace

/-- What a host does with a workspace. An extraction says how the subscribers answer it. -/
inductive Action
  | addExtractor (language : Language)
  | addLocator (source : Option Nat)
  | addProvider (config : Completion.Config) (source : Option Nat)
  | extract (source : Nat) (text : Text) (tell : Telling)
  | listen (source : Nat) (kind : ChannelKind) (listener : Listener)
  | subscribe (source : Nat) (kind : ChannelKind) (listener : Nat)
  | unsubscribe (source : Nat) (kind : ChannelKind) (listener : Nat)
  | attach (locator source : Nat)
  | detach (locator : Nat)
  | setSource (provider : Nat) (source : Option Nat)
  | addTemplate (provider : Nat) (keyword expansion : Text)
  | setSymbols (provider : Nat) (names : List Text)
  | complete (provider : Nat) (token : Text)

/-- The workspace after an action. A failed extraction leaves what it had done. -/
def perform (w : Workspace) : Action → Workspace
  | .addExtractor language => w.addExtractor language
  | .addLocator source => w.addLocator source
  | .addProvider config source => w.addProvider config source
  | .extract source text tell => (w.extract source text tell).1
  | .listen source kind listener => w.listen source kind listener
  | .subscribe source kind n => w.editChannel source kind (·.subscribe (.listener n))
  | .unsubscribe source kind n => w.editChannel source kind (·.unsubscribe (.listener n))
  | .attach n source => w.attach n source
  | .detach n => w.detach n
  | .setSource n source => w.setSource n source
  | .addTemplate n keyword expansion => w.editProvider n (·.addTemplate keyword expansion)
  | .setSymbols n names => w.editProvider n (·.updateUserSymbols names)
  | .complete n token => (w.complete n token).1

/-- The sources and the locator that an action names are there, and providers and locators answer
an extraction as they do. -/
def Action.Possible (w : Workspace) : Action → Prop
  | .addLocator source | .addProvider _ source | .setSource _ source =>
    ∀ s, source = some s → s < w.sources.length
  | .attach n source => n < w.locators.length ∧ source < w.sources.length
  | .extract _ _ tell => Hosted tell
  | _ => True

/-- A run from the empty workspace, every action of which is possible and allowed where it is
performed. The log holds the actions, the latest first, with the workspaces before them. -/
inductive Run (allowed : Workspace → Action → Prop) : Workspace → List (Workspace × Action) → Prop
  | start : Run allowed .empty []
  | step {w : Workspace} {log : List (Workspace × Action)} {action : Action}
      (run : Run allowed w log) (possible : action.Possible w) (permitted : allowed w action) :
      Run allowed (w.perform action) ((w, action) :: log)


variable {w v : Workspace} {log : List (Workspace × Action)} {action : Action}
  {allowed : Workspace → Action → Prop} {source n : Nat} {kind : ChannelKind} {x : Subscriber}
  {tell : Telling} {text : Text}

/-! ### Targets -/

theorem target?_congr
    (providers : ∀ n : Nat, v.providers[n]?.bind FollowingProvider.source =
      w.providers[n]?.bind FollowingProvider.source)
    (locators : ∀ n : Nat, v.locators[n]?.bind Locator.source = w.locators[n]?.bind Locator.source)
    (x : Subscriber) : v.target? x = w.target? x := by
  cases x with
  | listener n => rfl
  | provider n => rw [target?, target?, providers]
  | locator n => rw [target?, target?, locators]

theorem target?_editProvider (edit : Completion.Provider → Completion.Provider) (x : Subscriber) :
    (w.editProvider n edit).target? x = w.target? x := by
  apply target?_congr
  · intro m
    simp only [editProvider, List.getElem?_modify]
    cases w.providers[m]? with
    | none => rfl
    | some p => by_cases here : n = m <;> simp [here]
  · intro m
    rfl

theorem Hosted.target?_tell (hosted : Hosted tell) (payload : Payload) (subscriber : Subscriber)
    (w : Workspace) (x : Subscriber) : (tell payload subscriber w).1.target? x = w.target? x := by
  cases subscriber with
  | listener m =>
    obtain ⟨_, providers, locators⟩ := hosted.listener payload m w
    exact target?_congr (fun _ => by rw [providers]) (fun _ => by rw [locators]) x
  | provider m =>
    rw [hosted.provider]
    cases payload with
    | symbols names => exact target?_editProvider _ x
    | positions records => rfl
  | locator m =>
    rw [hosted.locator]
    cases payload with
    | symbols names => rfl
    | positions records =>
      apply target?_congr
      · intro k
        rfl
      · intro k
        simp only [call, List.getElem?_modify]
        cases w.locators[k]? with
        | none => rfl
        | some l => by_cases here : m = k <;> simp [here]

theorem Hosted.target?_install (hosted : Hosted tell) {language : Language} {snapshot : Snapshot}
    (x : Subscriber) : (w.install source language snapshot tell).1.target? x = w.target? x := by
  have kept {payload : Payload} {subscribers : List Subscriber} (start : Workspace) :
      (Channel.deliver (tell payload) subscribers start).1.target? x = start.target? x :=
    Channel.deliver_keeps (P := fun state : Workspace => state.target? x = start.target? x)
      (fun subscriber state same => (hosted.target?_tell payload subscriber state x).trans same) _
      rfl
  exact (kept _).trans (kept _)

/-! ### Subscriptions -/

/-- Whether an extraction gets as far as a new snapshot. -/
def installs (w : Workspace) (source : Nat) (text : Text) : Bool :=
  match w.origin? source with
  | some (.extractor language _) => (language.snapshot? text).isSome
  | _ => false

/-- An extraction changes nothing, or it installs a snapshot. -/
theorem extract_cases (w : Workspace) (source : Nat) (text : Text) (tell : Telling) :
    (w.installs source text = false ∧ (w.extract source text tell).1 = w) ∨
    w.installs source text = true ∧ ∃ language old snapshot,
      w.origin? source = some (.extractor language old) ∧
      language.snapshot? text = some snapshot ∧
      (w.extract source text tell).1 = (w.install source language snapshot tell).1 := by
  cases known : w.origin? source with
  | none =>
    rw [extract, installs, known]
    exact Or.inl ⟨rfl, rfl⟩
  | some origin =>
    cases origin with
    | fixed symbols members types =>
      rw [extract, installs, known]
      exact Or.inl ⟨rfl, rfl⟩
    | extractor language old =>
      rw [installs, known]
      cases scanned : language.snapshot? text with
      | none =>
        rw [extract_unscanned known scanned]
        simp [scanned]
      | some snapshot =>
        rw [extract_eq known scanned]
        exact Or.inr ⟨by simp [scanned], language, old, snapshot, rfl, scanned, rfl⟩

/-- What stands at a place in a list with one more item. -/
theorem getElem?_concat {α : Type} (items : List α) (a : α) (n : Nat) :
    (items ++ [a])[n]? = if n = items.length then some a else items[n]? := by
  by_cases last : n = items.length
  · rw [if_pos last, last, List.getElem?_concat_length]
  · rw [if_neg last, List.getElem?_append]
    split
    · rfl
    · rename_i long
      rw [List.getElem?_eq_none (by simp; omega), List.getElem?_eq_none (Nat.le_of_not_lt long)]

theorem channel_addExtractor (language : Language) (source : Nat) (kind : ChannelKind) :
    (w.addExtractor language).channel source kind = w.channel source kind := by
  unfold channel addExtractor
  simp only [getElem?_concat]
  by_cases new : source = w.sources.length
  · rw [if_pos new, List.getElem?_eq_none (Nat.le_of_eq new.symm)]
    cases kind <;> rfl
  · rw [if_neg new]

theorem origin?_addExtractor (w : Workspace) (language : Language) (source : Nat) :
    (w.addExtractor language).origin? source =
      if source = w.sources.length then some (.extractor language .empty) else w.origin? source := by
  unfold origin? addExtractor
  simp only [getElem?_concat]
  split <;> rfl

/-- A new extractor has nothing yet, so what sources have is as if it were not there. -/
theorem origin?_addExtractor_getD {α : Type} (w : Workspace) (language : Language) (source : Nat)
    (view : Origin → List α) (blank : view (.extractor language .empty) = []) :
    (((w.addExtractor language).origin? source).map view).getD [] =
      ((w.origin? source).map view).getD [] := by
  rw [origin?_addExtractor]
  by_cases new : source = w.sources.length
  · have unknown : w.origin? source = none := by
      rw [origin?, List.getElem?_eq_none (Nat.le_of_eq new.symm)]
      rfl
    rw [if_pos new, unknown]
    exact blank
  · rw [if_neg new]

theorem subscribed_addExtractor (subscribed : w.Subscribed) (language : Language) :
    (w.addExtractor language).Subscribed :=
  subscribed.congr (fun x _ source kind => by rw [heard, heard, channel_addExtractor])
    fun _ => rfl

theorem subscribed_editProvider (subscribed : w.Subscribed)
    (edit : Completion.Provider → Completion.Provider) : (w.editProvider n edit).Subscribed :=
  subscribed.congr (fun _ _ _ _ => rfl) (target?_editProvider edit)

theorem subscribed_subscribe (subscribed : w.Subscribed) (m : Nat) :
    (w.editChannel source kind (·.subscribe (.listener m))).Subscribed := by
  refine subscribed.congr (fun x follower other kind' => ?_) fun _ => rfl
  exact heard_editChannel (fun channel => by rw [Channel.count_subscribe, if_neg (follower m)]) _ _

theorem subscribed_unsubscribe (subscribed : w.Subscribed) (m : Nat) :
    (w.editChannel source kind (·.unsubscribe (.listener m))).Subscribed := by
  refine subscribed.congr (fun x follower other kind' => ?_) fun _ => rfl
  exact heard_editChannel (fun channel => by rw [Channel.count_unsubscribe, if_neg (follower m)]) _ _

theorem complete_cases (w : Workspace) (n : Nat) (token : Text) :
    (w.complete n token).1 = w ∨ ∃ following, w.providers[n]? = some following ∧
      (w.complete n token).1 = w.editProvider n fun _ =>
        (following.provider.complete (w.memberSource n) token).2 := by
  unfold complete
  cases w.providers[n]? with
  | none => exact Or.inl rfl
  | some following => exact Or.inr ⟨following, rfl, rfl⟩

theorem subscribed_detach (subscribed : w.Subscribed) (n : Nat) : (w.detach n).Subscribed := by
  cases present : w.locators[n]? with
  | none =>
    rw [detach, present]
    exact subscribed
  | some locator =>
    refine subscribed.move (.locator n) none (by simp) (by simp) (sources_detach present)
      ?_ ?_
    · rw [target?, locators_detach, present]
      simp
    · intro y apart
      cases y with
      | listener m => rfl
      | provider m => rw [target?, target?, providers_detach]
      | locator m =>
        have other : n ≠ m := fun same => apart (congrArg _ same.symm)
        simp [target?, locators_detach, other]

theorem subscribed_attach (subscribed : w.Subscribed) (present : n < w.locators.length)
    (known : source < w.sources.length) : (w.attach n source).Subscribed := by
  have present := List.getElem?_eq_getElem present
  refine subscribed.move (.locator n) (some (source, .positions)) (by simp) ?_
    (sources_attach present) ?_ ?_
  · rintro _ _ ⟨⟩
    exact known
  · rw [target?, locators_attach, present]
    simp
  · intro y apart
    cases y with
    | listener m => rfl
    | provider m => rw [target?, target?, providers_attach]
    | locator m =>
      have other : n ≠ m := fun same => apart (congrArg _ same.symm)
      simp [target?, locators_attach, other]

theorem subscribed_setSource {goal : Option Nat} (subscribed : w.Subscribed) (n : Nat)
    (known : ∀ s, goal = some s → s < w.sources.length) : (w.setSource n goal).Subscribed := by
  cases present : w.providers[n]? with
  | none =>
    rw [setSource, present]
    exact subscribed
  | some following =>
    by_cases stays : following.source = goal
    · rw [setSource, present]
      simpa only [if_pos stays] using subscribed
    · refine subscribed.move (.provider n) (goal.map (·, .symbols)) (by simp) ?_
        (sources_setSource present stays) ?_ ?_
      · intro source kind here
        obtain ⟨s, same, pair⟩ := Option.map_eq_some_iff.mp here
        obtain ⟨rfl, _⟩ := Prod.mk.inj pair
        exact known s same
      · rw [target?, providers_setSource present stays, present]
        simp
      · intro y apart
        cases y with
        | listener m => rfl
        | locator m => rw [target?, target?, locators_setSource]
        | provider m =>
          have other : n ≠ m := fun same => apart (congrArg _ same.symm)
          simp [target?, providers_setSource present stays, other]

theorem getElem?_concat_bind {α β : Type} {f : α → Option β} {a : α} (silent : f a = none)
    (items : List α) (n : Nat) : (items ++ [a])[n]?.bind f = items[n]?.bind f := by
  rw [getElem?_concat]
  split
  · rename_i last
    rw [List.getElem?_eq_none (Nat.le_of_eq last.symm)]
    exact silent
  · rfl

/-- What is found in a list with one more item was found before, or is that item. -/
theorem getElem?_concat_eq_some {α : Type} {items : List α} {a b : α} {n : Nat}
    (found : (items ++ [a])[n]? = some b) : items[n]? = some b ∨ n = items.length ∧ b = a := by
  rw [getElem?_concat] at found
  split at found
  · rename_i last
    exact Or.inr ⟨last, (Option.some.inj found).symm⟩
  · exact Or.inl found

theorem subscribed_addLocator {goal : Option Nat} (subscribed : w.Subscribed)
    (known : ∀ s, goal = some s → s < w.sources.length) : (w.addLocator goal).Subscribed := by
  have added : Subscribed { w with locators := w.locators ++ [⟨[], none⟩] } := by
    refine subscribed.congr (fun _ _ _ _ => rfl) fun x => ?_
    apply target?_congr
    · intro m
      rfl
    · exact getElem?_concat_bind rfl w.locators
  cases goal with
  | none => exact added
  | some source => exact subscribed_attach added (by simp) (known source rfl)

theorem subscribed_addProvider {config : Completion.Config} {goal : Option Nat}
    (subscribed : w.Subscribed) (known : ∀ s, goal = some s → s < w.sources.length) :
    (w.addProvider config goal).Subscribed := by
  refine subscribed_setSource ?_ _ known
  refine subscribed.congr (fun _ _ _ _ => rfl) fun x => ?_
  apply target?_congr
  · exact getElem?_concat_bind rfl w.providers
  · intro m
    rfl

theorem subscribed_extract (subscribed : w.Subscribed) (hosted : Hosted tell) :
    (w.extract source text tell).1.Subscribed := by
  rcases extract_cases w source text tell with
    ⟨_, same⟩ | ⟨_, language, old, snapshot, _, _, same⟩
  · rw [same]
    exact subscribed
  · rw [same]
    refine subscribed.congr (fun x _ other kind => ?_) fun x => hosted.target?_install x
    rw [heard_congr (sources_install hosted), heard, heard, channel_withOrigin]

/-- No action breaks a subscription. -/
theorem subscribed_perform (subscribed : w.Subscribed) (possible : action.Possible w) :
    (w.perform action).Subscribed := by
  cases action with
  | addExtractor language => exact subscribed_addExtractor subscribed language
  | addLocator goal => exact subscribed_addLocator subscribed possible
  | addProvider config goal => exact subscribed_addProvider subscribed possible
  | extract source text tell => exact subscribed_extract subscribed possible
  | attach n source => exact subscribed_attach subscribed possible.1 possible.2
  | detach n => exact subscribed_detach subscribed n
  | setSource n goal => exact subscribed_setSource subscribed n possible
  | listen source kind listener =>
    have added : Subscribed { w with listeners := w.listeners ++ [listener] } :=
      subscribed.congr (fun _ _ _ _ => rfl) fun _ => rfl
    exact subscribed_subscribe added _
  | subscribe source kind m => exact subscribed_subscribe subscribed m
  | unsubscribe source kind m => exact subscribed_unsubscribe subscribed m
  | addTemplate n keyword expansion => exact subscribed_editProvider subscribed _
  | setSymbols n names => exact subscribed_editProvider subscribed _
  | complete n token =>
    change (w.complete n token).1.Subscribed
    rcases complete_cases w n token with same | ⟨following, _, same⟩
    · rw [same]
      exact subscribed
    · rw [same]
      exact subscribed_editProvider subscribed _

theorem Run.subscribed (run : Run allowed w log) : w.Subscribed := by
  induction run with
  | start => exact subscribed_empty
  | step _ possible _ ih => exact subscribed_perform ih possible

end SymbolIndex.Workspace
