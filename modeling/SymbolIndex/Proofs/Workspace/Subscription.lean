import SymbolIndex.Proofs.Workspace.Delivery

/-! Who hears which channel: each provider and each locator is subscribed to what it follows, once,
and to nothing else, and moving to another source keeps it so. -/
namespace SymbolIndex.Workspace
variable {w v : Workspace} {source other n : Nat} {kind : ChannelKind} {x y : Subscriber}
  {goal : Option (Nat × ChannelKind)} {tell : Telling} {language : Language} {snapshot : Snapshot}

/-! ### How often a subscriber stands in a channel -/

/-- How often a subscriber stands in a channel. -/
def heard (w : Workspace) (x : Subscriber) (source : Nat) (kind : ChannelKind) : Nat :=
  (w.channel source kind).subscribers.count x

theorem heard_congr (same : v.sources = w.sources) (x : Subscriber) (source : Nat)
    (kind : ChannelKind) : v.heard x source kind = w.heard x source kind := by
  unfold heard
  rw [channel_congr (congrArg (·[source]?) same)]

theorem channel_of_length_le (unknown : w.sources.length ≤ source) :
    w.channel source kind = .empty := by
  unfold channel
  rw [List.getElem?_eq_none unknown]

theorem channel_editChannel (w : Workspace) (source : Nat) (kind : ChannelKind)
    (edit : Channel Subscriber → Channel Subscriber) (other : Nat) (kind' : ChannelKind) :
    (w.editChannel source kind edit).channel other kind' =
      if source < w.sources.length ∧ other = source ∧ kind' = kind then edit (w.channel other kind')
      else w.channel other kind' := by
  unfold channel editChannel
  simp only [List.getElem?_modify]
  by_cases known : other < w.sources.length
  · rw [List.getElem?_eq_getElem known]
    by_cases here : source = other
    · subst here
      cases kind <;> cases kind' <;> simp [known]
    · cases kind' <;> simp [here, Ne.symm here]
  · rw [List.getElem?_eq_none (Nat.le_of_not_lt known)]
    have apart : ¬(source < w.sources.length ∧ other = source ∧ kind' = kind) :=
      fun all => known (all.2.1 ▸ all.1)
    rw [if_neg apart]
    rfl

theorem heard_subscribe (known : source < w.sources.length) (y : Subscriber) (other : Nat)
    (kind' : ChannelKind) :
    (w.editChannel source kind (·.subscribe x)).heard y other kind' =
      if y = x ∧ other = source ∧ kind' = kind then max 1 (w.heard x source kind)
      else w.heard y other kind' := by
  unfold heard
  rw [channel_editChannel]
  by_cases here : other = source ∧ kind' = kind
  · obtain ⟨rfl, rfl⟩ := here
    simp only [known, and_self, if_true, and_true, Channel.count_subscribe]
  · rw [if_neg fun all => here all.2, if_neg fun all => here all.2]

theorem heard_unsubscribe (y : Subscriber) (other : Nat) (kind' : ChannelKind) :
    (w.editChannel source kind (·.unsubscribe x)).heard y other kind' =
      if y = x ∧ other = source ∧ kind' = kind then w.heard x source kind - 1
      else w.heard y other kind' := by
  unfold heard
  rw [channel_editChannel]
  by_cases here : other = source ∧ kind' = kind
  · obtain ⟨rfl, rfl⟩ := here
    by_cases known : other < w.sources.length
    · simp only [known, and_self, if_true, and_true, Channel.count_unsubscribe]
    · rw [if_neg fun all => known all.1, channel_of_length_le (Nat.le_of_not_lt known)]
      simp [Channel.empty]
  · rw [if_neg fun all => here all.2, if_neg fun all => here all.2]

/-- Edits that concern somebody else do not change how often one is heard. -/
theorem heard_editChannel {edit : Channel Subscriber → Channel Subscriber}
    (apart : ∀ channel, (edit channel).subscribers.count x = channel.subscribers.count x)
    (other : Nat) (kind' : ChannelKind) :
    (w.editChannel source kind edit).heard x other kind' = w.heard x other kind' := by
  unfold heard
  rw [channel_editChannel]
  split
  · exact apart _
  · rfl

/-! ### Who follows what -/

/-- The channel that a provider or a locator means to hear. -/
def target? (w : Workspace) : Subscriber → Option (Nat × ChannelKind)
  | .listener _ => none
  | .provider n => (w.providers[n]?.bind (·.source)).map (·, .symbols)
  | .locator n => (w.locators[n]?.bind (·.source)).map (·, .positions)

/-- Providers and locators are subscribed to what they follow, once, and to nothing else. -/
def Subscribed (w : Workspace) : Prop :=
  ∀ x, (∀ n, x ≠ .listener n) → ∀ source kind,
    w.heard x source kind = if w.target? x = some (source, kind) then 1 else 0

theorem subscribed_empty : Subscribed .empty := by
  intro x _ source kind
  cases x <;> rfl

/-- Nothing changes where subscriptions and targets stay. -/
theorem Subscribed.congr (subscribed : w.Subscribed)
    (heards : ∀ x, (∀ n, x ≠ .listener n) → ∀ source kind,
      v.heard x source kind = w.heard x source kind)
    (targets : ∀ x, v.target? x = w.target? x) : v.Subscribed := by
  intro x follower source kind
  rw [heards x follower, targets]
  exact subscribed x follower source kind

/-- A provider or a locator is told exactly what the channel it means to hear carries. -/
theorem Subscribed.mem_iff (subscribed : w.Subscribed) (follower : ∀ n, x ≠ .listener n) :
    x ∈ (w.channel source kind).subscribers ↔ w.target? x = some (source, kind) := by
  rw [← List.count_pos_iff]
  change 0 < w.heard x source kind ↔ _
  rw [subscribed x follower]
  by_cases here : w.target? x = some (source, kind) <;> simp [here]

/-- What is followed exists. -/
theorem Subscribed.known (subscribed : w.Subscribed)
    (target : w.target? x = some (source, kind)) : source < w.sources.length := by
  have follower : ∀ n, x ≠ .listener n := by
    rintro n rfl
    cases target
  have counted := subscribed x follower source kind
  rw [if_pos target] at counted
  by_contra unknown
  rw [heard, channel_of_length_le (Nat.le_of_not_lt unknown)] at counted
  cases counted

/-- A subscriber leaves what it follows and joins another channel, or none. -/
def reseat (w : Workspace) (x : Subscriber) (goal : Option (Nat × ChannelKind)) : Workspace :=
  let left := match w.target? x with
    | some (source, kind) => w.editChannel source kind (·.unsubscribe x)
    | none => w
  match goal with
  | some (source, kind) => left.editChannel source kind (·.subscribe x)
  | none => left

theorem length_editChannel (edit : Channel Subscriber → Channel Subscriber) :
    (w.editChannel source kind edit).sources.length = w.sources.length := by
  simp [editChannel]

/-- Whoever left is heard nowhere, and nobody else is touched. -/
theorem Subscribed.heard_left (subscribed : w.Subscribed) (follower : ∀ n, x ≠ .listener n)
    (y : Subscriber) (source : Nat) (kind : ChannelKind) :
    (w.reseat x none).heard y source kind = if y = x then 0 else w.heard y source kind := by
  have counted := subscribed x follower
  unfold reseat
  cases target : w.target? x with
  | none =>
    by_cases same : y = x
    · rw [if_pos same, same, counted, target, if_neg (by simp)]
    · rw [if_neg same]
  | some place =>
    obtain ⟨old, oldKind⟩ := place
    simp only [heard_unsubscribe]
    by_cases same : y = x
    · subst same
      by_cases here : source = old ∧ kind = oldKind
      · obtain ⟨rfl, rfl⟩ := here
        simp [counted, target]
      · have apart : ¬(old = source ∧ oldKind = kind) := fun all => here ⟨all.1.symm, all.2.symm⟩
        simp [here, counted, target, apart]
    · simp [same]

theorem Subscribed.heard_reseat (subscribed : w.Subscribed) (follower : ∀ n, x ≠ .listener n)
    (known : ∀ source kind, goal = some (source, kind) → source < w.sources.length)
    (y : Subscriber) (source : Nat) (kind : ChannelKind) :
    (w.reseat x goal).heard y source kind =
      if y = x then if goal = some (source, kind) then 1 else 0 else w.heard y source kind := by
  have left := subscribed.heard_left follower
  cases goal with
  | none => simpa using left y source kind
  | some place =>
    obtain ⟨new, newKind⟩ := place
    have there : new < (w.reseat x none).sources.length := by
      have length : (w.reseat x none).sources.length = w.sources.length := by
        unfold reseat
        cases w.target? x <;> simp [length_editChannel]
      exact length ▸ known new newKind rfl
    have joined : w.reseat x (some (new, newKind)) =
        (w.reseat x none).editChannel new newKind (·.subscribe x) := rfl
    rw [joined, heard_subscribe there, left, left]
    by_cases same : y = x
    · by_cases here : source = new ∧ kind = newKind
      · simp [same, here]
      · have apart : ¬(new = source ∧ newKind = kind) := fun all => here ⟨all.1.symm, all.2.symm⟩
        simp [same, here, apart]
    · simp [same]

/-- Moving one subscriber from what it follows to something else leaves all subscriptions right. -/
theorem Subscribed.move (subscribed : w.Subscribed) (x : Subscriber)
    (goal : Option (Nat × ChannelKind)) (follower : ∀ n, x ≠ .listener n)
    (known : ∀ source kind, goal = some (source, kind) → source < w.sources.length)
    (sources : v.sources = (w.reseat x goal).sources) (here : v.target? x = goal)
    (elsewhere : ∀ y, y ≠ x → v.target? y = w.target? y) : v.Subscribed := by
  intro y other source kind
  rw [heard_congr sources, subscribed.heard_reseat follower known]
  by_cases same : y = x
  · rw [if_pos same, same, here]
  · rw [if_neg same, elsewhere y same]
    exact subscribed y other source kind

/-! ### What moving a provider or a locator does -/

theorem origin?_editChannel (edit : Channel Subscriber → Channel Subscriber) (other : Nat) :
    (w.editChannel source kind edit).origin? other = w.origin? other := by
  unfold origin? editChannel
  rw [List.getElem?_modify]
  cases w.sources[other]? with
  | none => rfl
  | some s => cases kind <;> by_cases here : source = other <;> simp [here]

theorem origin?_congr (same : v.sources = w.sources) (source : Nat) :
    v.origin? source = w.origin? source := by
  unfold origin?
  rw [same]

/-- The symbols that a source has now, none if there is no such source. -/
def symbolsOf (w : Workspace) (source : Nat) : List Text :=
  ((w.origin? source).map Origin.symbols).getD []

/-- The records that a source has now, none if there is no such source. -/
def recordsOf (w : Workspace) (source : Nat) : List SymbolRecord :=
  ((w.origin? source).map Origin.positions).getD []

theorem target?_locator {locator : Locator} (present : w.locators[n]? = some locator) :
    w.target? (.locator n) = locator.source.map (·, .positions) := by
  rw [target?, present]
  rfl

theorem target?_provider {following : FollowingProvider}
    (present : w.providers[n]? = some following) :
    w.target? (.provider n) = following.source.map (·, .symbols) := by
  rw [target?, present]
  rfl

/-- A provider is told of symbols by the source it follows. -/
theorem Subscribed.provider_mem_iff (subscribed : w.Subscribed) {following : FollowingProvider}
    (present : w.providers[n]? = some following) (source : Nat) :
    .provider n ∈ (w.channel source .symbols).subscribers ↔ following.source = some source := by
  rw [subscribed.mem_iff (x := .provider n) (by simp), target?_provider present]
  simp

/-- A locator is told of positions by the source it is attached to. -/
theorem Subscribed.locator_mem_iff (subscribed : w.Subscribed) {locator : Locator}
    (present : w.locators[n]? = some locator) (source : Nat) :
    .locator n ∈ (w.channel source .positions).subscribers ↔ locator.source = some source := by
  rw [subscribed.mem_iff (x := .locator n) (by simp), target?_locator present]
  simp

theorem sources_detach {locator : Locator} (present : w.locators[n]? = some locator) :
    (w.detach n).sources = (w.reseat (.locator n) none).sources := by
  rw [detach, reseat, present, target?_locator present]
  cases locator with
  | mk records source => cases source <;> rfl

theorem locators_detach (w : Workspace) (n m : Nat) :
    (w.detach n).locators[m]? =
      w.locators[m]?.map fun l => if n = m then ⟨[], none⟩ else l := by
  unfold detach
  cases present : w.locators[n]? with
  | none =>
    by_cases here : n = m
    · subst here
      simp [present]
    · simp [here]
  | some locator =>
    cases locator with
    | mk records source => cases source <;> simp [editChannel, List.getElem?_modify]

theorem providers_detach (w : Workspace) (n : Nat) : (w.detach n).providers = w.providers := by
  unfold detach
  cases w.locators[n]? with
  | none => rfl
  | some locator =>
    cases locator with
    | mk records source => cases source <;> rfl

theorem origin?_reseat (w : Workspace) (x : Subscriber) (goal : Option (Nat × ChannelKind))
    (source : Nat) : (w.reseat x goal).origin? source = w.origin? source := by
  unfold reseat
  cases w.target? x <;> cases goal <;> simp [origin?_editChannel]

theorem sources_attach {locator : Locator} (present : w.locators[n]? = some locator) :
    (w.attach n source).sources = (w.reseat (.locator n) (some (source, .positions))).sources := by
  have joined : (w.attach n source).sources =
      ((w.detach n).editChannel source .positions (·.subscribe (.locator n))).sources := rfl
  have seated : w.reseat (.locator n) (some (source, .positions)) =
      (w.reseat (.locator n) none).editChannel source .positions (·.subscribe (.locator n)) := rfl
  rw [joined, seated, editChannel, editChannel, sources_detach present]

theorem origin?_detach (w : Workspace) (n other : Nat) :
    (w.detach n).origin? other = w.origin? other := by
  cases present : w.locators[n]? with
  | none => rw [detach, present]
  | some locator => rw [origin?_congr (sources_detach present), origin?_reseat]

theorem origin?_attach (w : Workspace) (n source other : Nat) :
    (w.attach n source).origin? other = w.origin? other := by
  have joined : (w.attach n source).sources =
      ((w.detach n).editChannel source .positions (·.subscribe (.locator n))).sources := rfl
  rw [origin?_congr joined, origin?_editChannel, origin?_detach]

theorem locators_attach (w : Workspace) (n source m : Nat) :
    (w.attach n source).locators[m]? =
      w.locators[m]?.map fun l => if n = m then ⟨w.recordsOf source, some source⟩ else l := by
  unfold attach
  simp only [origin?_editChannel, origin?_detach, List.getElem?_modify]
  change (fun l => _) <$> (w.detach n).locators[m]? = _
  rw [locators_detach]
  cases w.locators[m]? with
  | none => rfl
  | some l => by_cases here : n = m <;> simp [here, recordsOf]

theorem providers_attach (w : Workspace) (n source : Nat) :
    (w.attach n source).providers = w.providers := providers_detach w n

theorem sources_setSource {following : FollowingProvider} {goal : Option Nat}
    (present : w.providers[n]? = some following) (moves : following.source ≠ goal) :
    (w.setSource n goal).sources =
      (w.reseat (.provider n) (goal.map (·, .symbols))).sources := by
  unfold setSource reseat
  rw [present, target?_provider present]
  cases following with
  | mk provider source =>
    simp only [if_neg moves]
    cases source <;> cases goal <;> rfl

theorem origin?_setSource (w : Workspace) (n : Nat) (goal : Option Nat) (other : Nat) :
    (w.setSource n goal).origin? other = w.origin? other := by
  cases present : w.providers[n]? with
  | none => rw [setSource, present]
  | some following =>
    by_cases stays : following.source = goal
    · rw [setSource, present]
      simp only [if_pos stays]
    · rw [origin?_congr (sources_setSource present stays), origin?_reseat]

theorem locators_setSource (w : Workspace) (n : Nat) (goal : Option Nat) :
    (w.setSource n goal).locators = w.locators := by
  unfold setSource
  cases w.providers[n]? with
  | none => rfl
  | some following =>
    cases following with
    | mk provider source =>
      by_cases stays : source = goal
      · simp only [if_pos stays]
      · simp only [if_neg stays]
        cases source <;> cases goal <;> rfl

/-- A provider that moves to a source takes over its symbols; one that leaves for none keeps what
it has. -/
theorem providers_setSource {following : FollowingProvider} {goal : Option Nat}
    (present : w.providers[n]? = some following) (moves : following.source ≠ goal) (m : Nat) :
    (w.setSource n goal).providers[m]? = w.providers[m]?.map fun p =>
      if n = m then
        ⟨goal.elim p.provider fun source => p.provider.updateUserSymbols (w.symbolsOf source), goal⟩
      else p := by
  have found (v : Workspace) (providers : List FollowingProvider) (source : Nat) :
      origin? { v with providers := providers } source = v.origin? source := rfl
  have kept (v : Workspace) (source : Nat) (kind : ChannelKind)
      (edit : Channel Subscriber → Channel Subscriber) :
      (v.editChannel source kind edit).providers = v.providers := rfl
  rw [setSource, present]
  simp only [if_neg moves]
  cases following with
  | mk provider source =>
    cases goal with
    | none =>
      cases source with
      | none => exact absurd rfl moves
      | some old =>
        simp only [List.getElem?_modify]
        rfl
    | some new =>
      cases source <;>
        simp only [editProvider, found, kept, origin?_editChannel, List.getElem?_modify] <;>
        cases w.providers[m]? with
        | none => rfl
        | some p => by_cases here : n = m <;> simp [here, symbolsOf]

end SymbolIndex.Workspace
