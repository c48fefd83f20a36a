import Mathlib.Data.List.Induction
import SymbolIndex.Channel

/-! Deliveries of a channel over whole runs, in which subscribers change the channel and fail while they
are called. The account of a run is its history: every change to the channel, by the host or by a
subscriber, in the order they were made. -/
namespace SymbolIndex.Exchange

/-- What a host does with a channel. A publication says how the subscribers it calls react. -/
inductive Action (κ π ε : Type)
  | edit (change : ChannelEdit κ)
  | publish (react : κ → Reaction κ ε) (payload : π)

variable {κ π ε : Type} {channel : Channel κ} {history : List (ChannelEdit κ)}
  {change : ChannelEdit κ} {subscriber : κ} {time : Nat}

/-! ### Histories -/

/-- A history leaves a subscriber in the channel: it was added and not removed since. -/
def Subscribed (history : List (ChannelEdit κ)) (subscriber : κ) : Prop :=
  ∃ before after, history = before ++ .subscribe subscriber :: after ∧
    .unsubscribe subscriber ∉ after

/-- At this time of a history a subscriber was added that was not in the channel. -/
def Enters (history : List (ChannelEdit κ)) (time : Nat) (subscriber : κ) : Prop :=
  history[time]? = some (.subscribe subscriber) ∧ ¬Subscribed (history.take time) subscriber

/-- The last time at which a subscriber entered the channel. -/
def LastEntered (history : List (ChannelEdit κ)) (time : Nat) (subscriber : κ) : Prop :=
  Enters history time subscriber ∧ ∀ later, Enters history later subscriber → later ≤ time

theorem subscribed_concat : Subscribed (history ++ [change]) subscriber ↔
    change = .subscribe subscriber ∨
      Subscribed history subscriber ∧ change ≠ .unsubscribe subscriber := by
  constructor
  · rintro ⟨before, after, split, kept⟩
    cases after using List.reverseRecOn with
    | nil =>
      obtain ⟨_, same⟩ := List.append_inj' split rfl
      exact Or.inl (List.cons.inj same).1
    | append_singleton after last =>
      rw [← List.cons_append, ← List.append_assoc] at split
      obtain ⟨rfl, same⟩ := List.append_inj' split rfl
      obtain rfl := (List.cons.inj same).1
      rw [List.mem_append, not_or, List.mem_singleton] at kept
      exact Or.inr ⟨⟨before, after, rfl, kept.1⟩, Ne.symm kept.2⟩
  · rintro (rfl | ⟨⟨before, after, rfl, kept⟩, other⟩)
    · exact ⟨history, [], rfl, by simp⟩
    · refine ⟨before, after ++ [change], by simp, ?_⟩
      rw [List.mem_append, not_or, List.mem_singleton]
      exact ⟨kept, Ne.symm other⟩

theorem Enters.lt (enters : Enters history time subscriber) : time < history.length :=
  (List.getElem?_eq_some_iff.mp enters.1).1

/-- Who enters with one more change, enters as before or by that change. -/
theorem enters_concat : Enters (history ++ [change]) time subscriber ↔
    Enters history time subscriber ∨
      time = history.length ∧ change = .subscribe subscriber ∧ ¬Subscribed history subscriber := by
  rcases Nat.lt_trichotomy time history.length with before | rfl | beyond
  · rw [Enters, List.getElem?_append_left before, List.take_append_of_le_length (Nat.le_of_lt before)]
    exact ⟨Or.inl, fun either => either.resolve_right fun last => Nat.ne_of_lt before last.1⟩
  · have unknown : ¬Enters history history.length subscriber := fun enters => Nat.lt_irrefl _ enters.lt
    rw [or_iff_right unknown]
    simp [Enters]
  · have unknown : ¬Enters history time subscriber := fun enters => Nat.lt_asymm beyond enters.lt
    have past : ¬Enters (history ++ [change]) time subscriber := fun enters => by
      have bound := enters.lt
      rw [List.length_append, List.length_singleton] at bound
      exact Nat.not_lt_of_ge (Nat.le_of_lt_succ bound) beyond
    rw [or_iff_right unknown]
    exact ⟨fun enters => absurd enters past, fun last => absurd last.1 (Nat.ne_of_gt beyond)⟩

/-- Who is in the channel does not enter it again. -/
theorem LastEntered.concat (entered : LastEntered history time subscriber)
    (present : Subscribed history subscriber) : LastEntered (history ++ [change]) time subscriber := by
  refine ⟨enters_concat.mpr (Or.inl entered.1), fun later enters => ?_⟩
  rcases enters_concat.mp enters with before | ⟨_, _, absent⟩
  · exact entered.2 later before
  · exact absurd present absent

theorem lastEntered_concat (absent : ¬Subscribed history subscriber) :
    LastEntered (history ++ [.subscribe subscriber]) history.length subscriber := by
  refine ⟨enters_concat.mpr (Or.inr ⟨rfl, rfl, absent⟩), fun later enters => ?_⟩
  rcases enters_concat.mp enters with before | ⟨now, _⟩
  · exact Nat.le_of_lt before.lt
  · exact Nat.le_of_eq now

/-- Who is in the channel entered it at some time. -/
theorem Subscribed.exists_lastEntered (present : Subscribed history subscriber) :
    ∃ time, LastEntered history time subscriber := by
  induction history using List.reverseRecOn with
  | nil =>
    obtain ⟨before, after, split, _⟩ := present
    simp at split
  | append_singleton history change ih =>
    by_cases earlier : Subscribed history subscriber
    · obtain ⟨time, entered⟩ := ih earlier
      exact ⟨time, entered.concat earlier⟩
    · obtain rfl := (subscribed_concat.mp present).resolve_right fun kept => earlier kept.1
      exact ⟨_, lastEntered_concat earlier⟩

/-! ### The order of a channel -/

/-- A channel holds each subscriber of a history once, by the time it last entered. -/
structure Ordered (channel : Channel κ) (history : List (ChannelEdit κ)) : Prop where
  distinct : channel.subscribers.Nodup
  mem_iff : ∀ subscriber, subscriber ∈ channel.subscribers ↔ Subscribed history subscriber
  byEntry : channel.subscribers.Pairwise fun first second => ∃ time later, time < later ∧
    LastEntered history time first ∧ LastEntered history later second

theorem ordered_empty : Ordered (.empty : Channel κ) [] where
  distinct := List.nodup_nil
  mem_iff subscriber := by simp [Channel.empty, Subscribed]
  byEntry := List.Pairwise.nil

/-- The members of a channel keep their times through one more change. -/
theorem Ordered.byEntry_concat (ordered : Ordered channel history) (change : ChannelEdit κ) :
    channel.subscribers.Pairwise fun first second => ∃ time later, time < later ∧
      LastEntered (history ++ [change]) time first ∧
      LastEntered (history ++ [change]) later second := by
  refine ordered.byEntry.imp_of_mem fun {first second} here there ⟨time, later, less, one, other⟩ => ?_
  exact ⟨time, later, less, one.concat ((ordered.mem_iff first).mp here),
    other.concat ((ordered.mem_iff second).mp there)⟩

variable [DecidableEq κ]

theorem Ordered.subscribe (ordered : Ordered channel history) (subscriber : κ) :
    Ordered (channel.subscribe subscriber) (history ++ [.subscribe subscriber]) := by
  rw [Channel.subscribe]
  split
  · rename_i here
    refine ⟨ordered.distinct, fun other => ?_, ordered.byEntry_concat _⟩
    rw [subscribed_concat, ordered.mem_iff]
    constructor
    · exact fun present => Or.inr ⟨present, by simp⟩
    · rintro (same | ⟨present, _⟩)
      · obtain rfl := ChannelEdit.subscribe.inj same
        exact (ordered.mem_iff subscriber).mp here
      · exact present
  · rename_i absent
    refine ⟨?_, fun other => ?_, ?_⟩
    · rw [List.nodup_append]
      refine ⟨ordered.distinct, by simp, fun other here last isNew same => absent ?_⟩
      rwa [← List.mem_singleton.mp isNew, ← same]
    · rw [subscribed_concat, List.mem_append, List.mem_singleton, ordered.mem_iff]
      simp [or_comm, eq_comm]
    · refine List.pairwise_append.mpr ⟨ordered.byEntry_concat _, List.pairwise_singleton _ _, ?_⟩
      intro first here last isNew
      obtain rfl := List.mem_singleton.mp isNew
      have present := (ordered.mem_iff first).mp here
      obtain ⟨time, entered⟩ := present.exists_lastEntered
      have unknown := (ordered.mem_iff last).not.mp absent
      exact ⟨time, _, entered.1.lt, entered.concat present, lastEntered_concat unknown⟩

theorem Ordered.unsubscribe (ordered : Ordered channel history) (subscriber : κ) :
    Ordered (channel.unsubscribe subscriber) (history ++ [.unsubscribe subscriber]) where
  distinct := ordered.distinct.erase subscriber
  mem_iff other := by
    rw [subscribed_concat, Channel.unsubscribe, ordered.distinct.mem_erase_iff, ordered.mem_iff]
    simp [and_comm, eq_comm]
  byEntry := (ordered.byEntry_concat _).sublist List.erase_sublist

theorem Ordered.edit (ordered : Ordered channel history) (change : ChannelEdit κ) :
    Ordered (change.apply channel) (history ++ [change]) := by
  cases change with
  | subscribe subscriber => exact ordered.subscribe subscriber
  | unsubscribe subscriber => exact ordered.unsubscribe subscriber

theorem Ordered.edits (ordered : Ordered channel history) (changes : List (ChannelEdit κ)) :
    Ordered (changes.foldl ChannelEdit.apply channel) (history ++ changes) := by
  induction changes generalizing channel history with
  | nil => rwa [List.append_nil]
  | cons change rest ih =>
    rw [List.append_cons]
    exact ih (ordered.edit change)

/-! ### Deliveries -/

variable {react : κ → Reaction κ ε} {payload : π} {exchange : Exchange κ π}
  {outcome : Exchange κ π × Option ε}

/-- What a delivery to these subscribers does: it calls them in their order and with its payload, up
to and including the first that fails. All that those called did to the channel stays done, and the
failure is passed on. -/
def Delivers (react : κ → Reaction κ ε) (payload : π) (subscribers : List κ) (exchange : Exchange κ π)
    (outcome : Exchange κ π × Option ε) : Prop :=
  ∃ called rest, subscribers = called ++ rest ∧
    outcome.1.calls = exchange.calls ++ called.map (·, payload) ∧
    outcome.1.channel =
      (called.flatMap fun subscriber => (react subscriber).edits).foldl ChannelEdit.apply exchange.channel ∧
    match outcome.2 with
    | none => rest = [] ∧ ∀ subscriber ∈ called, (react subscriber).failure = none
    | some failure => ∃ before last, called = before ++ [last] ∧
      (∀ subscriber ∈ before, (react subscriber).failure = none) ∧ (react last).failure = some failure

/-- A delivery that goes on after its first call delivers to the rest what that call left. -/
theorem Delivers.cons {subscriber : κ} {later : List κ} (passed : (react subscriber).failure = none)
    (delivers : Delivers react payload later (call react payload subscriber exchange).1 outcome) :
    Delivers react payload (subscriber :: later) exchange outcome := by
  obtain ⟨called, rest, rfl, calls, channel, ends⟩ := delivers
  refine ⟨subscriber :: called, rest, rfl, ?_, ?_, ?_⟩
  · rw [calls, List.map_cons, List.append_cons]
    rfl
  · rw [channel, call, List.flatMap_cons, List.foldl_append]
  · cases failed : outcome.2 with
    | none =>
      simp only [failed] at ends
      exact ⟨ends.1, List.forall_mem_cons.mpr ⟨passed, ends.2⟩⟩
    | some failure =>
      simp only [failed] at ends
      obtain ⟨before, last, rfl, none, fails⟩ := ends
      exact ⟨subscriber :: before, last, rfl, List.forall_mem_cons.mpr ⟨passed, none⟩, fails⟩

theorem delivers_deliver (react : κ → Reaction κ ε) (payload : π) (subscribers : List κ)
    (exchange : Exchange κ π) : Delivers react payload subscribers exchange
      (Channel.deliver (call react payload) subscribers exchange) := by
  induction subscribers generalizing exchange with
  | nil => exact ⟨[], [], rfl, by simp [Channel.deliver], rfl, rfl, by simp⟩
  | cons subscriber later ih =>
    rw [Channel.deliver]
    split
    · rename_i next result
      have passed : (react subscriber).failure = none := congrArg Prod.snd result
      have step := ih (call react payload subscriber exchange).1
      rw [result] at step
      exact Delivers.cons passed (by rwa [result])
    · rename_i next failure result
      have failed : (react subscriber).failure = some failure := congrArg Prod.snd result
      obtain rfl : (call react payload subscriber exchange).1 = next := congrArg Prod.fst result
      exact ⟨[subscriber], later, rfl, rfl, by simp [call], [], subscriber, rfl, by simp, failed⟩

/-! ### Runs -/

/-- The changes that an action makes to the channel. Those of a publication are made by the
subscribers that it calls. -/
def Action.edits (exchange : Exchange κ π) : Action κ π ε → List (ChannelEdit κ)
  | .edit change => [change]
  | .publish react payload =>
    ((exchange.publish react payload).1.calls.drop exchange.calls.length).flatMap
      fun call => (react call.1).edits

/-- The exchange after an action, whether or not a subscriber failed. -/
def perform (exchange : Exchange κ π) : Action κ π ε → Exchange κ π
  | .edit change => { exchange with channel := change.apply exchange.channel }
  | .publish react payload => (exchange.publish react payload).1

/-- The exchange after a run, and the history of its channel. -/
def after (actions : List (Action κ π ε)) : Exchange κ π × List (ChannelEdit κ) :=
  actions.foldl (fun (exchange, history) action =>
    (exchange.perform action, history ++ action.edits exchange)) (⟨.empty, []⟩, [])

theorem after_concat (actions : List (Action κ π ε)) (action : Action κ π ε) :
    after (actions ++ [action]) =
      ((after actions).1.perform action, (after actions).2 ++ action.edits (after actions).1) := by
  rw [after, List.foldl_append]
  rfl

/-- An action changes the channel by its edits, one after another. -/
theorem channel_perform (exchange : Exchange κ π) (action : Action κ π ε) :
    (exchange.perform action).channel =
      (action.edits exchange).foldl ChannelEdit.apply exchange.channel := by
  cases action with
  | edit change => rfl
  | publish react payload =>
    obtain ⟨called, rest, _, calls, channel, _⟩ :=
      delivers_deliver react payload exchange.channel.subscribers exchange
    rw [perform, Action.edits, publish, calls, channel, List.drop_left, List.flatMap_map]

theorem ordered_after (actions : List (Action κ π ε)) :
    Ordered (after actions).1.channel (after actions).2 := by
  induction actions using List.reverseRecOn with
  | nil => exact ordered_empty
  | append_singleton actions action ih =>
    rw [after_concat]
    simp only [channel_perform]
    exact ih.edits _

/-- After any run, in which subscribers may change the channel and fail, a publication calls whoever is
subscribed when it begins, in the order of their last entry, up to the first that fails. -/
theorem deliveries_follow_subscriptions (actions : List (Action κ π ε)) :
    Ordered (after actions).1.channel (after actions).2 ∧
      ∀ (react : κ → Reaction κ ε) (payload : π),
        Delivers react payload (after actions).1.channel.subscribers (after actions).1
          ((after actions).1.publish react payload) :=
  ⟨ordered_after actions, fun react payload => delivers_deliver react payload _ _⟩

end SymbolIndex.Exchange
