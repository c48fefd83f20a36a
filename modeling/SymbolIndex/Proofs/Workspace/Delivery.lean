import SymbolIndex.Proofs.Channel
import SymbolIndex.Workspace.Attachment

/-! What a delivery changes: sources and their channels stay as they are, and whoever is told takes
over what is delivered, everybody else keeps what he has. -/
namespace SymbolIndex

namespace Workspace
variable {w done : Workspace} {source n : Nat} {kind : ChannelKind} {payload : Payload}
  {records : List SymbolRecord} {names : List Text} {language : Language} {snapshot : Snapshot}
  {subscribers : List Subscriber} {tell : Telling}

theorem channel_congr {v : Workspace} (same : w.sources[source]? = v.sources[source]?)
    (kind : ChannelKind) : w.channel source kind = v.channel source kind := by
  unfold channel
  rw [same]

/-- Nobody who is told something extracts with this source or changes its subscriptions. -/
def KeepsSource (tell : Telling) (source : Nat) : Prop :=
  ∀ payload subscriber w, (tell payload subscriber w).1.sources[source]? = w.sources[source]?

/-- Providers and locators take over what they are told. Listeners of the host may do anything else
and may fail, but they touch no source, provider or locator. -/
structure Hosted (tell : Telling) : Prop where
  provider : ∀ payload n w, tell payload (.provider n) w = call payload (.provider n) w
  locator : ∀ payload n w, tell payload (.locator n) w = call payload (.locator n) w
  listener : ∀ payload n w, (tell payload (.listener n) w).1.sources = w.sources ∧
    (tell payload (.listener n) w).1.providers = w.providers ∧
    (tell payload (.listener n) w).1.locators = w.locators

theorem hosted_call : Hosted call where
  provider _ _ _ := rfl
  locator _ _ _ := rfl
  listener payload n w := by
    rw [call]
    split <;> exact ⟨rfl, rfl, rfl⟩

theorem Hosted.keepsSource (hosted : Hosted tell) (source : Nat) : KeepsSource tell source := by
  intro payload subscriber w
  cases subscriber with
  | listener n => rw [(hosted.listener payload n w).1]
  | provider n =>
    rw [hosted.provider]
    cases payload <;> rfl
  | locator n =>
    rw [hosted.locator]
    cases payload <;> rfl

theorem source_publish {other : Nat} (keeps : KeepsSource tell other) :
    (w.publish source kind payload tell).1.sources[other]? = w.sources[other]? :=
  Channel.deliver_keeps (P := fun state : Workspace => state.sources[other]? = w.sources[other]?)
    (fun subscriber state same => (keeps payload subscriber state).trans same) _ rfl

/-! ### What becomes of providers and locators -/

theorem Hosted.locators_symbols (hosted : Hosted tell) (subscriber : Subscriber) (w : Workspace) :
    (tell (.symbols names) subscriber w).1.locators = w.locators := by
  cases subscriber with
  | listener m => exact (hosted.listener _ m w).2.2
  | provider m => rw [hosted.provider]; rfl
  | locator m => rw [hosted.locator]; rfl

theorem Hosted.providers_positions (hosted : Hosted tell) (subscriber : Subscriber)
    (w : Workspace) : (tell (.positions records) subscriber w).1.providers = w.providers := by
  cases subscriber with
  | listener m => exact (hosted.listener _ m w).2.1
  | provider m => rw [hosted.provider]; rfl
  | locator m => rw [hosted.locator]; rfl

theorem Hosted.locators_positions (hosted : Hosted tell) (subscriber : Subscriber)
    (w : Workspace) (n : Nat) :
    (tell (.positions records) subscriber w).1.locators[n]? = w.locators[n]?.map fun l =>
      if subscriber = .locator n then { l with positions := records } else l := by
  cases subscriber with
  | listener m => simp [(hosted.listener _ m w).2.2]
  | provider m => simp [hosted.provider, call]
  | locator m => simp [hosted.locator, call, List.getElem?_modify]

theorem Hosted.providers_symbols (hosted : Hosted tell) (subscriber : Subscriber)
    (w : Workspace) (n : Nat) :
    (tell (.symbols names) subscriber w).1.providers[n]? = w.providers[n]?.map fun p =>
      if subscriber = .provider n then { p with provider := p.provider.updateUserSymbols names }
      else p := by
  cases subscriber with
  | listener m => simp [(hosted.listener _ m w).2.1]
  | provider m => simp [hosted.provider, call, editProvider, List.getElem?_modify]
  | locator m => simp [hosted.locator, call]

/-- A delivery that nobody stops gives every subscribed locator the records, and no other. -/
theorem Hosted.locators_deliver (hosted : Hosted tell)
    (finished : (Channel.deliver (tell (.positions records)) subscribers w).2 = none) (n : Nat) :
    (Channel.deliver (tell (.positions records)) subscribers w).1.locators[n]? =
      w.locators[n]?.map fun l =>
        if .locator n ∈ subscribers then { l with positions := records } else l := by
  induction subscribers generalizing w with
  | nil => simp [Channel.deliver]
  | cons subscriber later ih =>
    have told : (tell (.positions records) subscriber w).1.locators[n]? = _ :=
      hosted.locators_positions subscriber w n
    rw [Channel.deliver] at finished ⊢
    cases result : tell (.positions records) subscriber w with
    | mk next failure =>
      rw [result] at told finished
      cases failure with
      | some failure => cases finished
      | none =>
        refine (ih finished).trans ?_
        rw [told, Option.map_map]
        refine congrFun (congrArg Option.map (funext fun l => ?_)) _
        by_cases here : subscriber = .locator n
        · simp [here]
        · simp [here, Ne.symm here]

/-- A delivery gives the symbols to the providers that it gets to call, and to no other. -/
theorem Hosted.providers_deliver (hosted : Hosted tell) (n : Nat) :
    (Channel.deliver (tell (.symbols names)) subscribers w).1.providers[n]? =
      w.providers[n]?.map fun p =>
        if .provider n ∈ Channel.called (tell (.symbols names)) subscribers w then
          { p with provider := p.provider.updateUserSymbols names } else p := by
  induction subscribers generalizing w with
  | nil => simp [Channel.deliver, Channel.called]
  | cons subscriber later ih =>
    have told : (tell (.symbols names) subscriber w).1.providers[n]? = _ :=
      hosted.providers_symbols subscriber w n
    rw [Channel.deliver, Channel.called]
    cases result : tell (.symbols names) subscriber w with
    | mk next failure =>
      rw [result] at told
      cases failure with
      | some failure => simpa [eq_comm] using told
      | none =>
        refine ih.trans ?_
        rw [told, Option.map_map]
        refine congrFun (congrArg Option.map (funext fun p => ?_)) _
        by_cases here : subscriber = .provider n
        · simp [here, Completion.Provider.updateUserSymbols, Completion.Provider.rebuild,
            Completion.Provider.baseCandidates]
        · simp [here, Ne.symm here]

/-! ### Installing a snapshot -/

/-- The workspace with another origin at a source, before anybody is told. -/
def withOrigin (w : Workspace) (source : Nat) (origin : Origin) : Workspace :=
  { w with sources := w.sources.modify source fun s => { s with origin := origin } }

theorem channel_withOrigin (w : Workspace) (source other : Nat) (origin : Origin)
    (kind : ChannelKind) :
    (w.withOrigin source origin).channel other kind = w.channel other kind := by
  unfold channel withOrigin
  simp only [List.getElem?_modify]
  cases present : w.sources[other]? with
  | none => rfl
  | some s => cases kind <;> by_cases here : source = other <;> simp [here]

theorem origin?_withOrigin {origin old : Origin} (known : w.origin? source = some old) :
    (w.withOrigin source origin).origin? source = some origin := by
  obtain ⟨s, present, _⟩ := Option.map_eq_some_iff.mp known
  simp [origin?, withOrigin, present]

theorem origin?_withOrigin_of_ne {other : Nat} {origin : Origin} (apart : source ≠ other) :
    (w.withOrigin source origin).origin? other = w.origin? other := by
  simp [origin?, withOrigin, apart]

/-- The first delivery of an installation: the symbols, once the snapshot is in place. -/
def symbolsDelivery (w : Workspace) (source : Nat) (language : Language) (snapshot : Snapshot)
    (tell : Telling) : Workspace × Option Text :=
  (w.withOrigin source (.extractor language snapshot)).publish source .symbols
    (.symbols snapshot.symbols) tell

/-- The second delivery of an installation: the positions, whether or not the first one failed. -/
def positionsDelivery (w : Workspace) (source : Nat) (language : Language) (snapshot : Snapshot)
    (tell : Telling) : Workspace × Option Text :=
  (w.symbolsDelivery source language snapshot tell).1.publish source .positions
    (.positions snapshot.positions) tell

/-- Installation makes both deliveries; the second failure hides the first. -/
theorem install_eq (w : Workspace) (source : Nat) (language : Language) (snapshot : Snapshot)
    (tell : Telling) :
    w.install source language snapshot tell =
      ((w.positionsDelivery source language snapshot tell).1,
        (w.positionsDelivery source language snapshot tell).2.or
          (w.symbolsDelivery source language snapshot tell).2) := rfl

theorem sources_install (hosted : Hosted tell) :
    (w.install source language snapshot tell).1.sources =
      (w.withOrigin source (.extractor language snapshot)).sources :=
  List.ext_getElem? fun other =>
    (source_publish (hosted.keepsSource other)).trans (source_publish (hosted.keepsSource other))

/-- The second delivery goes to those who subscribed before the installation. -/
theorem positionsDelivery_eq (keeps : KeepsSource tell source) :
    w.positionsDelivery source language snapshot tell =
      Channel.deliver (tell (.positions snapshot.positions))
        (w.channel source .positions).subscribers
        (w.symbolsDelivery source language snapshot tell).1 := by
  have quiet : (w.symbolsDelivery source language snapshot tell).1.sources[source]? =
      (w.withOrigin source (.extractor language snapshot)).sources[source]? := source_publish keeps
  rw [positionsDelivery, publish, channel_congr quiet, channel_withOrigin]

theorem symbolsDelivery_eq :
    w.symbolsDelivery source language snapshot tell =
      Channel.deliver (tell (.symbols snapshot.symbols)) (w.channel source .symbols).subscribers
        (w.withOrigin source (.extractor language snapshot)) := by
  rw [symbolsDelivery, publish, channel_withOrigin]

/-- The `n`-th locator holds exactly these records. -/
def Holds (w : Workspace) (n : Nat) (records : List SymbolRecord) : Prop :=
  ∃ locator, w.locators[n]? = some locator ∧ locator.positions = records

/-- An installation whose second delivery nobody stops gives the locators subscribed to the source
the new records, and no other. -/
theorem locators_install (hosted : Hosted tell)
    (finished : (w.positionsDelivery source language snapshot tell).2 = none) (n : Nat) :
    (w.install source language snapshot tell).1.locators[n]? = w.locators[n]?.map fun l =>
      if .locator n ∈ (w.channel source .positions).subscribers then
        { l with positions := snapshot.positions } else l := by
  have quiet : (w.symbolsDelivery source language snapshot tell).1.locators = w.locators :=
    Channel.deliver_keeps (P := fun state : Workspace => state.locators = w.locators)
      (fun subscriber state same => (hosted.locators_symbols subscriber state).trans same) _ rfl
  rw [positionsDelivery_eq (hosted.keepsSource source)] at finished
  rw [install_eq, positionsDelivery_eq (hosted.keepsSource source), hosted.locators_deliver finished n,
    quiet]

/-- The subscribers that hear of new symbols when a snapshot is installed. -/
def reached (w : Workspace) (source : Nat) (language : Language) (snapshot : Snapshot)
    (tell : Telling) : List Subscriber :=
  Channel.called (tell (.symbols snapshot.symbols)) (w.channel source .symbols).subscribers
    (w.withOrigin source (.extractor language snapshot))

theorem reached_of_finished (finished : (w.symbolsDelivery source language snapshot tell).2 = none) :
    w.reached source language snapshot tell = (w.channel source .symbols).subscribers := by
  rw [symbolsDelivery_eq] at finished
  exact Channel.called_of_finished finished

/-- An installation gives the new symbols to the providers that its first delivery reaches, and to
no other. -/
theorem providers_install (hosted : Hosted tell) (n : Nat) :
    (w.install source language snapshot tell).1.providers[n]? = w.providers[n]?.map fun p =>
      if .provider n ∈ w.reached source language snapshot tell then
        { p with provider := p.provider.updateUserSymbols snapshot.symbols } else p := by
  have quiet : (w.install source language snapshot tell).1.providers =
      (w.symbolsDelivery source language snapshot tell).1.providers :=
    Channel.deliver_keeps
      (P := fun state : Workspace =>
        state.providers = (w.symbolsDelivery source language snapshot tell).1.providers)
      (fun subscriber state same => (hosted.providers_positions subscriber state).trans same) _ rfl
  rw [quiet, symbolsDelivery_eq, hosted.providers_deliver n]
  rfl

/-- Once a snapshot is installed without failure, the source has it and the locators attached to
the source hold its records. -/
theorem holds_install {origin : Origin} (known : w.origin? source = some origin)
    (attached : .locator n ∈ (w.channel source .positions).subscribers)
    (present : n < w.locators.length)
    (installed : w.install source language snapshot = (done, none)) :
    done.origin? source = some (.extractor language snapshot) ∧
      done.Holds n snapshot.positions := by
  have sources : (w.install source language snapshot).1.sources =
      (w.withOrigin source (.extractor language snapshot)).sources := sources_install hosted_call
  have finished : (w.positionsDelivery source language snapshot call).2 = none := by
    rw [install_eq] at installed
    exact (Option.or_eq_none_iff.mp (Prod.mk.inj installed).2).1
  have told := locators_install hosted_call finished n
  rw [installed] at sources told
  constructor
  · rw [origin?, sources]
    exact origin?_withOrigin known
  · rw [List.getElem?_eq_getElem present, Option.map_some, if_pos attached] at told
    exact ⟨_, told, rfl⟩

end Workspace
end SymbolIndex
