/-! Notification channels: ordered subscribers, each at most once, called one after another until
one fails. Who subscribes or unsubscribes during a delivery affects later deliveries only. -/
namespace SymbolIndex

/-- The subscribers of one kind of notification, in the order they came. -/
structure Channel (κ : Type) where
  subscribers : List κ
deriving DecidableEq

namespace Channel
variable {κ σ ε : Type} [DecidableEq κ]

def empty : Channel κ := ⟨[]⟩

/-- Add a subscriber at the end, unless it is there. -/
def subscribe (channel : Channel κ) (subscriber : κ) : Channel κ :=
  if subscriber ∈ channel.subscribers then channel else ⟨channel.subscribers ++ [subscriber]⟩

def unsubscribe (channel : Channel κ) (subscriber : κ) : Channel κ :=
  ⟨channel.subscribers.erase subscriber⟩

def count (channel : Channel κ) : Nat := channel.subscribers.length

/-- Call subscribers in order on a changing state, up to the first that fails. -/
def deliver (call : κ → σ → σ × Option ε) : List κ → σ → σ × Option ε
  | [], state => (state, none)
  | subscriber :: later, state =>
    match call subscriber state with
    | (state, none) => deliver call later state
    | (state, some failure) => (state, some failure)

end Channel

inductive ChannelEdit (κ : Type)
  | subscribe (subscriber : κ)
  | unsubscribe (subscriber : κ)

def ChannelEdit.apply {κ : Type} [DecidableEq κ] (channel : Channel κ) :
    ChannelEdit κ → Channel κ
  | .subscribe subscriber => channel.subscribe subscriber
  | .unsubscribe subscriber => channel.unsubscribe subscriber

structure Reaction (κ ε : Type) where
  edits : List (ChannelEdit κ)
  failure : Option ε

structure Exchange (κ π : Type) where
  channel : Channel κ
  calls : List (κ × π)

namespace Exchange
variable {κ π ε : Type} [DecidableEq κ]

/-- Call one subscriber: the call is noted, then the reaction takes effect. -/
def call (react : κ → Reaction κ ε) (payload : π) (subscriber : κ) (exchange : Exchange κ π) :
    Exchange κ π × Option ε :=
  let reaction := react subscriber
  (⟨reaction.edits.foldl ChannelEdit.apply exchange.channel, exchange.calls ++ [(subscriber, payload)]⟩,
    reaction.failure)

/-- Deliver a payload to everyone subscribed when the delivery begins. -/
def publish (react : κ → Reaction κ ε) (payload : π) (exchange : Exchange κ π) :
    Exchange κ π × Option ε :=
  Channel.deliver (call react payload) exchange.channel.subscribers exchange

end Exchange
end SymbolIndex
