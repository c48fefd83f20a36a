import Mathlib.Data.List.Count
import SymbolIndex.Channel

/-! Deliveries call by call, and how often a subscriber stands in a channel. -/
namespace SymbolIndex.Channel
variable {κ σ ε : Type} {call : κ → σ → σ × Option ε} {subscribers : List κ} {state : σ}
  {calls : List (κ × σ)} {P : σ → Prop}

/-- The calls of one delivery, each with the state in which it was made: one subscriber after
another, up to and including the first that fails. -/
inductive Calls (call : κ → σ → σ × Option ε) :
    List κ → σ → List (κ × σ) → σ × Option ε → Prop
  | finished {state : σ} : Calls call [] state [] (state, none)
  | failed {subscriber : κ} {later : List κ} {state next : σ} {failure : ε}
      (result : call subscriber state = (next, some failure)) :
      Calls call (subscriber :: later) state [(subscriber, state)] (next, some failure)
  | passed {subscriber : κ} {later : List κ} {state next : σ} {calls : List (κ × σ)}
      {outcome : σ × Option ε} (result : call subscriber state = (next, none))
      (rest : Calls call later next calls outcome) :
      Calls call (subscriber :: later) state ((subscriber, state) :: calls) outcome

/-- A delivery makes the calls it should. -/
theorem exists_calls_deliver (call : κ → σ → σ × Option ε) (subscribers : List κ) (state : σ) :
    ∃ calls, Calls call subscribers state calls (deliver call subscribers state) := by
  induction subscribers generalizing state with
  | nil => exact ⟨[], .finished⟩
  | cons subscriber later ih =>
    rw [deliver]
    split
    · rename_i next result
      obtain ⟨calls, rest⟩ := ih next
      exact ⟨_, .passed result rest⟩
    · rename_i next failure result
      exact ⟨_, .failed result⟩

/-- What every call keeps holds in every state in which a call is made, and at the end. -/
theorem Calls.keeps {outcome : σ × Option ε} (made : Calls call subscribers state calls outcome)
    (keeps : ∀ subscriber state, P state → P (call subscriber state).1) (holds : P state) :
    (∀ visit ∈ calls, P visit.2) ∧ P outcome.1 := by
  induction made with
  | finished => exact ⟨by simp, holds⟩
  | @failed subscriber later state next failure result =>
    have kept := keeps subscriber state holds
    rw [result] at kept
    exact ⟨List.forall_mem_singleton.mpr holds, kept⟩
  | @passed subscriber later state next calls outcome result rest ih =>
    have kept := keeps subscriber state holds
    rw [result] at kept
    obtain ⟨each, final⟩ := ih kept
    exact ⟨List.forall_mem_cons.mpr ⟨holds, each⟩, final⟩

theorem deliver_keeps (keeps : ∀ subscriber state, P state → P (call subscriber state).1)
    (subscribers : List κ) (holds : P state) : P (deliver call subscribers state).1 := by
  obtain ⟨calls, made⟩ := exists_calls_deliver call subscribers state
  exact (made.keeps keeps holds).2

/-- The subscribers that a delivery gets to call: all up to the first that fails. -/
def called (call : κ → σ → σ × Option ε) : List κ → σ → List κ
  | [], _ => []
  | subscriber :: later, state =>
    subscriber :: match call subscriber state with
      | (next, none) => called call later next
      | (_, some _) => []

/-- A delivery that nobody stops calls everybody. -/
theorem called_of_finished (finished : (deliver call subscribers state).2 = none) :
    called call subscribers state = subscribers := by
  induction subscribers generalizing state with
  | nil => rfl
  | cons subscriber later ih =>
    rw [deliver] at finished
    split at finished
    · rename_i next result
      have others : called call later next = later := ih finished
      simp only [called, result, others]
    · cases finished

variable [DecidableEq κ]

/-- A subscriber that was in a channel stays there as often as it was, and one that was not is
there once. -/
theorem count_subscribe (channel : Channel κ) (subscriber other : κ) :
    (channel.subscribe subscriber).subscribers.count other =
      if other = subscriber then max 1 (channel.subscribers.count subscriber)
      else channel.subscribers.count other := by
  rw [subscribe]
  by_cases here : subscriber ∈ channel.subscribers
  · rw [if_pos here]
    have counted := List.count_pos_iff.mpr here
    by_cases same : other = subscriber
    · rw [if_pos same, same, Nat.max_eq_right counted]
    · rw [if_neg same]
  · rw [if_neg here, List.count_append]
    by_cases same : other = subscriber
    · simp [same, List.count_eq_zero_of_not_mem here]
    · simp [same, Ne.symm same]

theorem count_unsubscribe (channel : Channel κ) (subscriber other : κ) :
    (channel.unsubscribe subscriber).subscribers.count other =
      if other = subscriber then channel.subscribers.count subscriber - 1
      else channel.subscribers.count other := by
  rw [unsubscribe]
  by_cases same : other = subscriber
  · rw [if_pos same, same, List.count_erase_self]
  · rw [if_neg same, List.count_erase_of_ne same]

end SymbolIndex.Channel
