import SymbolIndex.Language
import SymbolIndex.Channel
import SymbolIndex.Completion.Provider
import SymbolIndex.Locate.Definition

/-! Extractors, completion providers and locators that follow one another through channels. Each
is named by its position among its kind. -/
namespace SymbolIndex

/-- Who may subscribe to a channel: a listener of the host, a provider or a locator. -/
inductive Subscriber
  | listener (n : Nat)
  | provider (n : Nat)
  | locator (n : Nat)
deriving DecidableEq

structure Listener where
  name : Text
  failure : Option Text
deriving DecidableEq

inductive Payload
  | symbols (names : List Text)
  | positions (records : List SymbolRecord)
deriving DecidableEq

structure Event where
  listener : Text
  payload : Payload
deriving DecidableEq

/-- Where symbols come from: an extractor with its last snapshot, or fixed answers. -/
inductive Origin
  | extractor (language : Language) (snapshot : Snapshot)
  | fixed (symbols : List Text) (members : Dictionary (List Text)) (types : Dictionary Text)

namespace Origin

def symbols : Origin → List Text
  | .extractor _ snapshot => snapshot.symbols
  | .fixed symbols _ _ => symbols

def positions : Origin → List SymbolRecord
  | .extractor _ snapshot => snapshot.positions
  | .fixed _ _ _ => []

def snapshot : Origin → Snapshot
  | .extractor _ snapshot => snapshot
  | .fixed _ _ _ => .empty

def membersOf : Origin → Text → List Text
  | .extractor language snapshot, name => snapshot.membersOf language.fallbackMembers name
  | .fixed _ members _, name => (members.get? name).getD []

def typeOf : Origin → Text → Text
  | .extractor _ snapshot, name => snapshot.typeOf name
  | .fixed _ _ types, name => (types.get? name).getD []

def memberSource (origin : Origin) : Completion.MemberSource := ⟨origin.membersOf, origin.typeOf⟩

end Origin

structure Source where
  origin : Origin
  symbolsChanged : Channel Subscriber
  positionsChanged : Channel Subscriber

inductive ChannelKind
  | symbols
  | positions
deriving DecidableEq

structure FollowingProvider where
  provider : Completion.Provider
  source : Option Nat

/-- The records a locator holds and the source it is attached to. -/
structure Locator where
  positions : List SymbolRecord
  source : Option Nat

/-- Everything alive in one host, and the calls its listeners received. -/
structure Workspace where
  sources : List Source
  providers : List FollowingProvider
  locators : List Locator
  listeners : List Listener
  events : List Event

namespace Workspace

def empty : Workspace := ⟨[], [], [], [], []⟩

def origin? (w : Workspace) (source : Nat) : Option Origin := w.sources[source]?.map (·.origin)

def channel (w : Workspace) (source : Nat) (kind : ChannelKind) : Channel Subscriber :=
  match w.sources[source]?, kind with
  | some source, .symbols => source.symbolsChanged
  | some source, .positions => source.positionsChanged
  | none, _ => .empty

def editChannel (w : Workspace) (source : Nat) (kind : ChannelKind)
    (edit : Channel Subscriber → Channel Subscriber) : Workspace :=
  { w with sources := w.sources.modify source fun s =>
      match kind with
      | .symbols => { s with symbolsChanged := edit s.symbolsChanged }
      | .positions => { s with positionsChanged := edit s.positionsChanged } }

def editProvider (w : Workspace) (n : Nat)
    (edit : Completion.Provider → Completion.Provider) : Workspace :=
  { w with providers := w.providers.modify n fun p => { p with provider := edit p.provider } }

end Workspace
end SymbolIndex
