import SymbolIndex.Workspace.Delivery

/-! Creation of sources, listeners, providers and locators, and how they come to follow a source
and leave it again. -/
namespace SymbolIndex.Workspace

def addExtractor (w : Workspace) (language : Language) : Workspace :=
  { w with sources := w.sources ++ [⟨.extractor language .empty, .empty, .empty⟩] }

def addFixed (w : Workspace) (symbols : List Text) (members : Dictionary (List Text))
    (types : Dictionary Text) : Workspace :=
  { w with sources := w.sources ++ [⟨.fixed symbols members types, .empty, .empty⟩] }

def listen (w : Workspace) (source : Nat) (kind : ChannelKind) (listener : Listener) : Workspace :=
  let added := { w with listeners := w.listeners ++ [listener] }
  added.editChannel source kind (·.subscribe (.listener w.listeners.length))

/-- Unsubscribe the listener last created under a name. -/
def unlisten (w : Workspace) (source : Nat) (kind : ChannelKind) (name : Text) : Workspace :=
  match (w.listeners.zipIdx.reverse.find? (·.1.name = name)) with
  | some (_, n) => w.editChannel source kind (·.unsubscribe (.listener n))
  | none => w

/-- Let a provider follow a source, or none. Its symbols are replaced only when there is a new
source to take them from. -/
def setSource (w : Workspace) (n : Nat) (source : Option Nat) : Workspace :=
  match w.providers[n]? with
  | none => w
  | some current =>
    if current.source = source then w
    else
      let left := match current.source with
        | some old => w.editChannel old .symbols (·.unsubscribe (.provider n))
        | none => w
      let moved := { left with providers := left.providers.modify n fun p => { p with source := source } }
      match source with
      | none => moved
      | some new =>
        let joined := moved.editChannel new .symbols (·.subscribe (.provider n))
        joined.editProvider n
          (·.updateUserSymbols ((joined.origin? new).map Origin.symbols |>.getD []))

def addProvider (w : Workspace) (config : Completion.Config) (source : Option Nat) : Workspace :=
  let added := { w with providers := w.providers ++
    [FollowingProvider.mk (.ofConfig config) none] }
  added.setSource w.providers.length source

def memberSource (w : Workspace) (n : Nat) : Option Completion.MemberSource := do
  let following ← w.providers[n]?
  let source ← following.source
  let origin ← w.origin? source
  some origin.memberSource

def complete (w : Workspace) (n : Nat) (token : Text) : Workspace × Option Completion.Result :=
  match w.providers[n]? with
  | none => (w, none)
  | some following =>
    let (result, updated) := following.provider.complete (w.memberSource n) token
    (w.editProvider n fun _ => updated, some result)

/-- Take a locator off its source; it holds no records afterwards. -/
def detach (w : Workspace) (n : Nat) : Workspace :=
  match w.locators[n]? with
  | none => w
  | some locator =>
    let left := match locator.source with
      | some old => w.editChannel old .positions (·.unsubscribe (.locator n))
      | none => w
    { left with locators := left.locators.modify n fun _ => ⟨[], none⟩ }

/-- Attach a locator to a source, off any other, and take over its current records. -/
def attach (w : Workspace) (n source : Nat) : Workspace :=
  let joined := (w.detach n).editChannel source .positions (·.subscribe (.locator n))
  let records := (joined.origin? source).map Origin.positions |>.getD []
  { joined with locators := joined.locators.modify n fun _ => ⟨records, some source⟩ }

def addLocator (w : Workspace) (source : Option Nat) : Workspace :=
  let added := { w with locators := w.locators ++ [⟨[], none⟩] }
  match source with
  | some source => added.attach w.locators.length source
  | none => added

end SymbolIndex.Workspace
