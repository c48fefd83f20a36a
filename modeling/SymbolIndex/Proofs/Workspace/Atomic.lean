import SymbolIndex.Proofs.Workspace.Delivery

/-! Extraction is atomic: the snapshot is replaced as a whole before anybody is told, symbols are
delivered before positions, and no failure of a subscriber undoes the one or skips the other. -/
namespace SymbolIndex.Workspace
variable {w : Workspace} {source : Nat} {language : Language} {old snapshot : Snapshot} {text : Text}
  {tell : Telling}

/-- What an extraction returns when the two deliveries ended this way: a failure on positions, else
a failure on symbols, else the symbols. -/
def outcomeOf (symbols : List Text) : Option Text → Option Text →
    Except ExtractionError (List Text)
  | _, some message => .error (.raised message)
  | some message, none => .error (.raised message)
  | none, none => .ok symbols

theorem extract_eq (known : w.origin? source = some (.extractor language old))
    (scanned : language.snapshot? text = some snapshot) :
    w.extract source text tell = ((w.install source language snapshot tell).1,
      outcomeOf snapshot.symbols (w.symbolsDelivery source language snapshot tell).2
        (w.positionsDelivery source language snapshot tell).2) := by
  rw [extract, known]
  simp only [scanned, install_eq]
  cases (w.positionsDelivery source language snapshot tell).2 with
  | some message => rfl
  | none => cases (w.symbolsDelivery source language snapshot tell).2 <;> rfl

/-- An extraction that fails before anybody is told leaves no trace. -/
theorem extract_unscanned (known : w.origin? source = some (.extractor language old))
    (unscanned : language.snapshot? text = none) :
    w.extract source text tell = (w, .error .noScan) := by
  rw [extract, known]
  simp only [unscanned]

/-- The two deliveries of an extraction that leave the workspace `done`: both start out from the
new snapshot, and everybody who is called finds it in place. -/
structure Published (w : Workspace) (source : Nat) (language : Language) (snapshot : Snapshot)
    (tell : Telling) (first second : List (Subscriber × Workspace))
    (told done : Workspace) (onSymbols onPositions : Option Text) : Prop where
  symbols : Channel.Calls (tell (.symbols snapshot.symbols))
    (w.channel source .symbols).subscribers
    (w.withOrigin source (.extractor language snapshot)) first (told, onSymbols)
  positions : Channel.Calls (tell (.positions snapshot.positions))
    (w.channel source .positions).subscribers told second (done, onPositions)
  visible : ∀ visit ∈ first ++ second,
    visit.2.origin? source = some (.extractor language snapshot)
  installed : done.origin? source = some (.extractor language snapshot)

theorem exists_published (keeps : KeepsSource tell source)
    (known : w.origin? source = some (.extractor language old)) (snapshot : Snapshot) :
    ∃ first second, Published w source language snapshot tell first second
      (w.symbolsDelivery source language snapshot tell).1
      (w.install source language snapshot tell).1
      (w.symbolsDelivery source language snapshot tell).2
      (w.positionsDelivery source language snapshot tell).2 := by
  have kept (payload : Payload) (subscriber : Subscriber) (state : Workspace)
      (here : state.origin? source = some (.extractor language snapshot)) :
      (tell payload subscriber state).1.origin? source =
        some (.extractor language snapshot) := by
    rw [origin?, keeps payload subscriber state]
    exact here
  obtain ⟨first, symbols⟩ := Channel.exists_calls_deliver (tell (.symbols snapshot.symbols))
    (w.channel source .symbols).subscribers (w.withOrigin source (.extractor language snapshot))
  rw [← symbolsDelivery_eq] at symbols
  obtain ⟨second, positions⟩ := Channel.exists_calls_deliver
    (tell (.positions snapshot.positions)) (w.channel source .positions).subscribers
    (w.symbolsDelivery source language snapshot tell).1
  rw [← positionsDelivery_eq keeps] at positions
  obtain ⟨early, between⟩ := symbols.keeps (kept _) (origin?_withOrigin known)
  obtain ⟨late, final⟩ := positions.keeps (kept _) between
  exact ⟨first, second, symbols, positions, List.forall_mem_append.mpr ⟨early, late⟩, final⟩

/-- If the scan fails nothing changes and nobody is told. Otherwise the new snapshot is in place before
the first call, and positions are delivered whatever came of the symbols. -/
theorem extract_atomic (keeps : KeepsSource tell source)
    (known : w.origin? source = some (.extractor language old)) (text : Text) :
    (language.snapshot? text = none → w.extract source text tell = (w, .error .noScan)) ∧
    ∀ snapshot, language.snapshot? text = some snapshot →
      ∃ first second told done onSymbols onPositions,
        w.extract source text tell = (done, outcomeOf snapshot.symbols onSymbols onPositions) ∧
        Published w source language snapshot tell first second told done onSymbols onPositions := by
  constructor
  · exact extract_unscanned known
  · intro snapshot scanned
    obtain ⟨first, second, published⟩ := exists_published keeps known snapshot
    exact ⟨first, second, _, _, _, _, extract_eq known scanned, published⟩

/-- An extractor with two listeners, both of which fail. -/
def failingListeners : Workspace :=
  ((Workspace.empty.addExtractor .python).listen 0 .symbols
    ⟨"outline".toList, some "no outline".toList⟩).listen 0 .positions
    ⟨"marks".toList, some "no marks".toList⟩

theorem extract_atomic_failing :
    (Language.python.snapshot? "x = 1".toList = none →
      failingListeners.extract 0 "x = 1".toList = (failingListeners, .error .noScan)) ∧
    ∀ snapshot, Language.python.snapshot? "x = 1".toList = some snapshot →
      ∃ first second told done onSymbols onPositions,
        failingListeners.extract 0 "x = 1".toList =
          (done, outcomeOf snapshot.symbols onSymbols onPositions) ∧
        Published failingListeners 0 .python snapshot call first second told done onSymbols
          onPositions :=
  extract_atomic (hosted_call.keepsSource 0) rfl "x = 1".toList

example : (failingListeners.extract 0 "x = 1".toList).2 = .error (.raised "no marks".toList) := rfl

end SymbolIndex.Workspace
