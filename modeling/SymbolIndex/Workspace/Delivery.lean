import SymbolIndex.Workspace.Basic

/-! Extraction and the notifications that follow it. The whole snapshot is in place before the
first subscriber is called, and subscribers to positions are told even when one to symbols
fails. -/
namespace SymbolIndex

/-- Why an extraction fails: the language has no scan of the document, or a subscriber raised an
error. -/
inductive ExtractionError
  | noScan
  | raised (message : Text)
deriving DecidableEq

def ExtractionError.message : ExtractionError → Text
  | .noScan => []
  | .raised message => message

namespace Workspace

/-- Call one subscriber. Providers and locators take over what they are told and never fail. -/
def call (payload : Payload) : Subscriber → Workspace → Workspace × Option Text
  | .listener n, w =>
    match w.listeners[n]? with
    | some listener => ({ w with events := w.events ++ [⟨listener.name, payload⟩] }, listener.failure)
    | none => (w, none)
  | .provider n, w =>
    match payload with
    | .symbols names => (w.editProvider n (·.updateUserSymbols names), none)
    | .positions _ => (w, none)
  | .locator n, w =>
    match payload with
    | .positions records =>
      ({ w with locators := w.locators.modify n fun l => { l with positions := records } }, none)
    | .symbols _ => (w, none)

/-- What telling a subscriber something does, and whether the subscriber fails. -/
abbrev Telling := Payload → Subscriber → Workspace → Workspace × Option Text

/-- Tell every subscriber of a channel, in order, until one fails. -/
def publish (w : Workspace) (source : Nat) (kind : ChannelKind) (payload : Payload)
    (tell : Telling := call) : Workspace × Option Text :=
  Channel.deliver (tell payload) (w.channel source kind).subscribers w

/-- Put a snapshot in place and tell both channels. A failure on the second one hides a failure
on the first. -/
def install (w : Workspace) (source : Nat) (language : Language) (snapshot : Snapshot)
    (tell : Telling := call) : Workspace × Option Text :=
  let replaced := { w with sources := w.sources.modify source fun s =>
    { s with origin := .extractor language snapshot } }
  let (afterSymbols, first) := replaced.publish source .symbols (.symbols snapshot.symbols) tell
  let (done, second) :=
    afterSymbols.publish source .positions (.positions snapshot.positions) tell
  (done, second.or first)

/-- Extract a document with an extractor; other sources ignore documents. Subscribers do what
`tell` says, which is to take over what they are told unless another host is meant. -/
def extract (w : Workspace) (source : Nat) (text : Text) (tell : Telling := call) :
    Workspace × Except ExtractionError (List Text) :=
  match w.origin? source with
  | some (.extractor language _) =>
    match language.snapshot? text with
    | none => (w, .error .noScan)
    | some snapshot =>
      match w.install source language snapshot tell with
      | (done, none) => (done, .ok snapshot.symbols)
      | (done, some message) => (done, .error (.raised message))
  | _ => (w, .ok [])

end Workspace
end SymbolIndex
