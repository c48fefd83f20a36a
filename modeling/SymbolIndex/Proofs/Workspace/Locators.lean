import SymbolIndex.Proofs.Workspace.Run

/-! Locators never go stale: whatever a host does, every attached locator holds the records its
source has now, as long as nobody fails when told of positions. -/
namespace SymbolIndex.Workspace
variable {w v : Workspace} {log : List (Workspace × Action)} {action : Action} {source n : Nat}
  {language : Language} {old snapshot : Snapshot} {tell : Telling} {text : Text}

/-- An extraction during which nobody fails on positions. Other actions tell no positions. -/
def Action.PositionsReach (w : Workspace) : Action → Prop
  | .extract source text tell => ∀ language old snapshot,
    w.origin? source = some (.extractor language old) →
    language.snapshot? text = some snapshot →
    (w.positionsDelivery source language snapshot tell).2 = none
  | _ => True

/-- Every locator holds the records of its source, and none without a source. -/
def Current (w : Workspace) : Prop :=
  ∀ (n : Nat) (locator : Locator), w.locators[n]? = some locator →
    locator.positions = locator.source.elim [] w.recordsOf

theorem recordsOf_congr (same : ∀ source, v.origin? source = w.origin? source) :
    v.recordsOf = w.recordsOf :=
  funext fun source => by rw [recordsOf, recordsOf, same]

theorem Current.congr (current : w.Current) (locators : v.locators = w.locators)
    (records : v.recordsOf = w.recordsOf) : v.Current := by
  intro n locator present
  rw [locators] at present
  rw [records]
  exact current n locator present

/-- One locator is replaced by one that holds what its own source has, the others stay. -/
theorem Current.move (current : w.Current) {moved : Locator}
    (locators : ∀ m : Nat,
      v.locators[m]? = w.locators[m]?.map fun l => if n = m then moved else l)
    (origins : ∀ source, v.origin? source = w.origin? source)
    (holds : moved.positions = moved.source.elim [] w.recordsOf) : v.Current := by
  intro m locator present
  rw [recordsOf_congr origins]
  rw [locators] at present
  obtain ⟨before, held, same⟩ := Option.map_eq_some_iff.mp present
  by_cases here : n = m
  · rw [if_pos here] at same
    exact same ▸ holds
  · rw [if_neg here] at same
    exact same ▸ current m before held

theorem current_detach (current : w.Current) (n : Nat) : (w.detach n).Current :=
  current.move (locators_detach w n) (origin?_detach w n) rfl

theorem current_attach (current : w.Current) (n source : Nat) : (w.attach n source).Current :=
  current.move (locators_attach w n source) (origin?_attach w n source) rfl

theorem current_addLocator (current : w.Current) (goal : Option Nat) :
    (w.addLocator goal).Current := by
  have added : Current { w with locators := w.locators ++ [⟨[], none⟩] } := by
    intro m locator present
    rcases getElem?_concat_eq_some present with before | ⟨_, rfl⟩
    · exact current m locator before
    · rfl
  cases goal with
  | none => exact added
  | some source => exact current_attach added _ source

theorem current_setSource (current : w.Current) (n : Nat) (goal : Option Nat) :
    (w.setSource n goal).Current :=
  current.congr (locators_setSource w n goal) (recordsOf_congr (origin?_setSource w n goal))

theorem current_install (current : w.Current) (subscribed : w.Subscribed) (hosted : Hosted tell)
    (known : w.origin? source = some (.extractor language old))
    (finished : (w.positionsDelivery source language snapshot tell).2 = none) :
    (w.install source language snapshot tell).1.Current := by
  intro m locator present
  have sources : (w.install source language snapshot tell).1.sources =
      (w.withOrigin source (.extractor language snapshot)).sources := sources_install hosted
  rw [locators_install hosted finished] at present
  obtain ⟨before, held, same⟩ := Option.map_eq_some_iff.mp present
  have told := subscribed.locator_mem_iff held source
  by_cases here : before.source = some source
  · rw [if_pos (told.mpr here)] at same
    rw [← same, here, Option.elim_some, recordsOf, origin?_congr sources,
      origin?_withOrigin known]
    rfl
  · rw [if_neg fun listed => here (told.mp listed)] at same
    rw [← same, current m before held]
    cases target : before.source with
    | none => rfl
    | some other =>
      have apart : source ≠ other := fun equal => here (equal ▸ target)
      rw [Option.elim_some, Option.elim_some, recordsOf, recordsOf, origin?_congr sources,
        origin?_withOrigin_of_ne apart]

/-- One action keeps locators current. -/
theorem current_perform (current : w.Current) (subscribed : w.Subscribed)
    (possible : action.Possible w) (reach : action.PositionsReach w) :
    (w.perform action).Current := by
  cases action with
  | addExtractor language =>
    exact current.congr rfl (funext fun source =>
      origin?_addExtractor_getD w language source Origin.positions rfl)
  | addLocator goal => exact current_addLocator current goal
  | addProvider config goal =>
    have added : Current { w with providers := w.providers ++ [⟨.ofConfig config, none⟩] } :=
      current.congr rfl rfl
    exact current_setSource added _ goal
  | extract source text tell =>
    change (w.extract source text tell).1.Current
    rcases extract_cases w source text tell with
      ⟨_, same⟩ | ⟨_, language, old, snapshot, known, scanned, same⟩
    · rw [same]
      exact current
    · rw [same]
      exact current_install current subscribed possible known
        (reach language old snapshot known scanned)
  | attach n source => exact current_attach current n source
  | detach n => exact current_detach current n
  | setSource n goal => exact current_setSource current n goal
  | listen source kind listener =>
    exact current.congr rfl (recordsOf_congr fun _ => origin?_editChannel _ _)
  | subscribe source kind m =>
    exact current.congr rfl (recordsOf_congr fun _ => origin?_editChannel _ _)
  | unsubscribe source kind m =>
    exact current.congr rfl (recordsOf_congr fun _ => origin?_editChannel _ _)
  | addTemplate n keyword expansion => exact current.congr rfl rfl
  | setSymbols n names => exact current.congr rfl rfl
  | complete n token =>
    change (w.complete n token).1.Current
    rcases complete_cases w n token with same | ⟨following, _, same⟩
    · rw [same]
      exact current
    · rw [same]
      exact current.congr rfl rfl

theorem Run.current (run : Run Action.PositionsReach w log) : w.Current := by
  induction run with
  | start =>
    intro _ _ held
    cases held
  | step before possible reach ih => exact current_perform ih before.subscribed possible reach

/-- After every run in which nobody fails on positions, an attached locator holds what its source has now
and a detached one nothing, and each is subscribed once where it is attached. -/
theorem locators_follow_sources (run : Run Action.PositionsReach w log) {locator : Locator}
    (present : w.locators[n]? = some locator) :
    (∀ source, locator.source = some source →
      (w.origin? source).map Origin.positions = some locator.positions) ∧
    (locator.source = none → locator.positions = []) ∧
    ∀ source kind, (w.channel source kind).subscribers.count (.locator n) =
      if locator.source = some source ∧ kind = .positions then 1 else 0 := by
  have target := target?_locator present
  refine ⟨fun source attached => ?_, fun detached => ?_, fun source kind => ?_⟩
  · rw [attached] at target
    have known : source < w.sources.length := run.subscribed.known target
    rw [run.current n locator present, attached, Option.elim_some, recordsOf, origin?,
      List.getElem?_eq_getElem known]
    rfl
  · rw [run.current n locator present, detached]
    rfl
  · refine (run.subscribed (.locator n) (by simp) source kind).trans ?_
    rw [target]
    cases locator.source <;> cases kind <;> simp

/-- An extractor whose listener on symbols fails, and a locator attached to it. -/
def brokenOutline : Workspace :=
  ((Workspace.empty.addExtractor .python).listen 0 .symbols
    ⟨"outline".toList, some "no outline".toList⟩).addLocator (some 0)

theorem brokenOutline_run :
    ∃ log, Run Action.PositionsReach (brokenOutline.extract 0 "x = 1".toList).1 log := by
  have made := @Run.step Action.PositionsReach _ _ (.addExtractor .python) .start trivial trivial
  have heard := @Run.step Action.PositionsReach _ _
    (.listen 0 .symbols ⟨"outline".toList, some "no outline".toList⟩) made trivial trivial
  have attached := @Run.step Action.PositionsReach _ _ (.addLocator (some 0)) heard
    (by rintro _ ⟨⟩; decide) trivial
  refine ⟨_, @Run.step _ _ _ (.extract 0 "x = 1".toList call) attached hosted_call ?_⟩
  intro language old snapshot known scanned
  rfl

/-- The extraction fails, and yet the locator holds what the extractor has. -/
theorem locators_follow_sources_brokenOutline :
    (brokenOutline.extract 0 "x = 1".toList).2 = .error (.raised "no outline".toList) ∧
    ∃ locator, (brokenOutline.extract 0 "x = 1".toList).1.locators[0]? = some locator ∧
      locator.source = some 0 ∧
      ((brokenOutline.extract 0 "x = 1".toList).1.origin? 0).map Origin.positions =
        some locator.positions := by
  obtain ⟨log, run⟩ := brokenOutline_run
  have held : (brokenOutline.extract 0 "x = 1".toList).1.locators[0]? =
      some ⟨(SymbolIndex.extract "x = 1".toList).positions, some 0⟩ := rfl
  exact ⟨rfl, _, held, rfl, (locators_follow_sources run held).1 0 rfl⟩

end SymbolIndex.Workspace
