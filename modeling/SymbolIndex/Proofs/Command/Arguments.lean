import SymbolIndex.Command.Request
import SymbolIndex.Proofs.Job

/-! Reading a command line: what fills the positional arguments of a command stands on the line. -/
namespace SymbolIndex.Command
variable {options : Options} {argv : List Text} {slots rest : List Slot} {slot : Slot}
  {given file text : Text} {progress after : Progress} {value : Option Text} {effects : List Effect}
  {recognised : Recognised} {next : Option Slot} {used fuel : Nat}
  {pending left : List Positional} {request : Request} {verbose extras : Bool}

section Slots

theorem eq_of_slotOf (done : slotOf options text = .ok (.argument given)) : given = text := by
  unfold slotOf at done
  repeat' split at done
  all_goals simp_all

/-- Plain arguments are those of the line. -/
theorem mem_of_slotsOf (done : slotsOf options argv = .ok slots) (member : .argument given ∈ slots) :
    given ∈ argv := by
  induction argv generalizing slots with
  | nil =>
    obtain rfl := Except.ok.inj done
    cases member
  | cons text more ih =>
    rw [slotsOf] at done
    split at done
    · obtain rfl := Except.ok.inj done
      simpa using Or.inr member
    · obtain ⟨slot, here, done⟩ := exceptBind_eq_ok.mp done
      obtain ⟨later, there, done⟩ := exceptBind_eq_ok.mp done
      obtain rfl := Except.ok.inj done
      rcases List.mem_cons.mp member with rfl | inside
      · exact eq_of_slotOf here ▸ List.mem_cons_self
      · exact List.mem_cons_of_mem text (ih there inside)

end Slots

section Options

theorem arguments_apply (done : progress.apply value effects = .ok after) :
    after.arguments = progress.arguments := by
  induction effects generalizing progress with
  | nil => rw [← Except.ok.inj done]
  | cons effect more ih =>
    cases effect with
    | help => cases done
    | verbose =>
      have later : after.arguments = { progress with verbose := true }.arguments := ih done
      exact later
    | directory =>
      have later : after.arguments = { progress with directory := value }.arguments := ih done
      exact later

/-- Options leave the positional arguments alone. -/
theorem arguments_takeOption
    (done : takeOption options progress recognised next = .ok (after, used)) :
    after.arguments = progress.arguments := by
  unfold takeOption at done
  split at done
  · obtain ⟨expansion, _, done⟩ := exceptBind_eq_ok.mp done
    obtain ⟨applied, effect, done⟩ := exceptBind_eq_ok.mp done
    obtain ⟨rfl, _⟩ := Prod.mk.inj (Except.ok.inj done)
    exact (arguments_apply effect : applied.arguments = _)
  · split at done
    · split at done
      · obtain ⟨applied, effect, done⟩ := exceptBind_eq_ok.mp done
        obtain ⟨rfl, _⟩ := Prod.mk.inj (Except.ok.inj done)
        exact arguments_apply effect
      · cases done
    · obtain ⟨applied, effect, done⟩ := exceptBind_eq_ok.mp done
      obtain ⟨rfl, _⟩ := Prod.mk.inj (Except.ok.inj done)
      exact arguments_apply effect

end Options

section Turns

/-- Progress that takes its positional arguments from these slots. -/
def TakesFrom (slots : List Slot) (progress after : Progress) : Prop :=
  ∀ given ∈ after.arguments, given ∈ progress.arguments ∨ .argument given ∈ slots

theorem TakesFrom.of_arguments (same : after.arguments = progress.arguments) :
    TakesFrom slots progress after := fun _ member => Or.inl (same ▸ member)

theorem TakesFrom.trans {middle : Progress} (first : TakesFrom slots progress middle)
    (second : TakesFrom rest middle after) (fewer : rest ⊆ slots) : TakesFrom slots progress after := by
  intro given member
  rcases second given member with old | new
  · exact first given old
  · exact Or.inr (fewer new)

theorem TakesFrom.mono (taken : TakesFrom rest progress after) (fewer : rest ⊆ slots) :
    TakesFrom slots progress after := (TakesFrom.of_arguments rfl).trans taken fewer

theorem dropMarkers_subset : dropMarkers slots ⊆ slots := by
  fun_induction dropMarkers slots with
  | case1 rest ih => exact List.subset_cons_of_subset _ ih
  | case2 slots => exact List.Subset.refl _

theorem fill_spec (done : fill progress pending slots = .ok (after, left, rest)) :
    TakesFrom slots progress after ∧ rest ⊆ slots := by
  induction pending generalizing progress slots with
  | nil =>
    obtain ⟨rfl, _, rfl⟩ := by simpa [fill] using done
    exact ⟨.of_arguments rfl, List.Subset.refl _⟩
  | cons positional later ih =>
    have fewer : dropMarkers slots ⊆ slots := dropMarkers_subset
    rw [fill] at done
    split at done
    · rename_i given more found
      rw [found] at fewer
      split at done
      · obtain ⟨taken, inside⟩ := ih done
        have here : TakesFrom slots progress { progress with arguments := progress.arguments ++ [given] } := by
          intro other member
          rcases List.mem_append.mp member with old | new
          · exact Or.inl old
          · exact Or.inr (List.mem_singleton.mp new ▸ fewer List.mem_cons_self)
        have onward : dropMarkers more ⊆ slots :=
          List.Subset.trans dropMarkers_subset (List.Subset.trans (List.subset_cons_self _ _) fewer)
        exact ⟨here.trans taken onward, List.Subset.trans inside onward⟩
      · cases done
    · split at done
      · obtain ⟨taken, inside⟩ := ih done
        exact ⟨taken.mono fewer, List.Subset.trans inside fewer⟩
      · obtain ⟨rfl, _, rfl⟩ := by simpa using done
        exact ⟨.of_arguments rfl, List.Subset.refl _⟩

/-- Whatever the turns of options and arguments, positional arguments come from the slots. -/
theorem takeTurns_spec (done : takeTurns options fuel progress pending slots = .ok (after, left)) :
    TakesFrom slots progress after := by
  induction fuel generalizing progress pending slots with
  | zero =>
    obtain ⟨rfl, _⟩ := by simpa [takeTurns] using done
    exact .of_arguments rfl
  | succ fuel ih =>
    rw [takeTurns.eq_def] at done
    dsimp only at done
    split at done
    · obtain ⟨⟨middle, used⟩, option, done⟩ := exceptBind_eq_ok.mp done
      exact (TakesFrom.of_arguments (arguments_takeOption option)).trans (ih done)
        (List.drop_subset _ _)
    · have later : TakesFrom _ { progress with extras := true } after := ih done
      exact later.mono (List.subset_cons_self _ _)
    · obtain ⟨⟨filled, left, rest⟩, filling, done⟩ := exceptBind_eq_ok.mp done
      obtain ⟨taken, inside⟩ := fill_spec filling
      dsimp only at done
      split at done
      · exact taken.trans (ih done) inside
      · split at done
        · obtain ⟨rfl, _⟩ := by simpa using done
          exact taken
        · have later : TakesFrom _ { filled with extras := _ } after := ih done
          exact taken.trans later (List.dropWhile_subset _)

theorem mem_of_readArguments (done : readArguments options pending argv = .ok progress)
    (member : given ∈ progress.arguments) : given ∈ argv := by
  rw [readArguments] at done
  obtain ⟨slots, read, done⟩ := exceptBind_eq_ok.mp done
  obtain ⟨⟨after, left⟩, turns, done⟩ := exceptBind_eq_ok.mp done
  dsimp only at done
  split at done
  · obtain rfl := Except.ok.inj done
    rcases takeTurns_spec turns given member with old | new
    · cases old
    · exact mem_of_slotsOf read new
  · cases done

end Turns

/-- A line that asks for the symbols of a file asks for no other file. -/
theorem eq_symbols_of_parse (done : parse ["symbols".toList, file] = .ok (verbose, request)) :
    request = .symbols file := by
  rw [parse] at done
  obtain ⟨slots, read, done⟩ := exceptBind_eq_ok.mp done
  rw [slotsOf, if_neg (by decide)] at read
  obtain ⟨slot, first, read⟩ := exceptBind_eq_ok.mp read
  obtain ⟨rest, _, read⟩ := exceptBind_eq_ok.mp read
  obtain rfl := Except.ok.inj read
  obtain rfl : .argument "symbols".toList = slot := Except.ok.inj first
  rw [readCommand] at done
  obtain ⟨⟨asked, extras⟩, made, done⟩ := exceptBind_eq_ok.mp done
  have asked_eq : asked = request := by
    dsimp only at done
    split at done
    · cases done
    · exact (Prod.mk.inj (Except.ok.inj done)).2
  subst asked_eq
  simp only [requestOf, String.ofList_toList] at made
  obtain ⟨progress, arguments, made⟩ := exceptBind_eq_ok.mp made
  split at made
  · rename_i given only
    obtain ⟨rfl, _⟩ := Prod.mk.inj (Except.ok.inj made)
    have listed := mem_of_readArguments arguments (only ▸ List.mem_singleton_self given)
    rw [List.mem_singleton.mp listed]
  · cases made

/-- A file that is not written like an option is asked for. -/
theorem parse_symbols (plain : file.head? ≠ some '-') :
    parse ["symbols".toList, file] = .ok (false, .symbols file) := by
  have slot (options : Options) : slotOf options file = .ok (.argument file) := if_pos plain
  have unmarked : file ≠ ['-', '-'] := fun same => plain (same ▸ rfl)
  have slots (options : Options) : slotsOf options [file] = .ok [.argument file] := by
    rw [slotsOf, if_neg unmarked, slot]
    rfl
  have read : readArguments helpOptions [.text] [file] = .ok { Progress.start with arguments := [file] } := by
    rw [readArguments, slots]
    rfl
  have request : requestOf "symbols".toList [file] = .ok (.symbols file, false) := by
    simp only [requestOf, String.ofList_toList, read]
    rfl
  have first : slotsOf mainOptions ["symbols".toList, file] =
      .ok [.argument "symbols".toList, .argument file] := by
    rw [slotsOf, slots]
    rfl
  rw [parse, first]
  change readCommand .start [.argument "symbols".toList, .argument file] ["symbols".toList, file] = _
  rw [readCommand, request]
  rfl

end SymbolIndex.Command
