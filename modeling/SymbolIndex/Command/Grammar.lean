import SymbolIndex.Text.Digit

/-! The grammar of a command line: which arguments are options, and how options and positional
arguments take their turns. Long options may be cut short as long as they stay unique; what looks
like a negative number, or holds a space, is no option. -/
namespace SymbolIndex.Command

inductive Effect
  | help
  | verbose
  | directory
deriving DecidableEq

def Effect.takesValue : Effect → Bool
  | .directory => true
  | _ => false

abbrev Options := List (Text × Effect)

/-- An option as it is recognised: its effect, whether a single dash introduces it, whether an
equals sign attaches its value, and the text attached to it. -/
structure Recognised where
  effect : Effect
  short : Bool
  equals : Bool
  attached : Option Text

inductive Slot
  | argument (text : Text)
  | marker
  | option (recognised : Recognised)
  | unknown (text : Text)

/-- How the reading of a command line can end early: by a call for help or by a mistake. -/
inductive Stop
  | help
  | usage
deriving DecidableEq

def looksNegative (text : Text) : Bool :=
  match text with
  | '-' :: unsigned =>
    let number := if unsigned.getLast? = some '\n' then unsigned.dropLast else unsigned
    let isDigit (c : Char) : Bool := (Text.digitValue? c).isSome
    let whole := number.takeWhile isDigit
    match number.drop whole.length with
    | [] => !whole.isEmpty
    | '.' :: fraction => !fraction.isEmpty && fraction.all isDigit
    | _ => false
  | _ => false

def isShort (name : Text) : Bool := name[1]? ≠ some '-'

def splitEquals (text : Text) : Text × Option Text :=
  let name := text.takeWhile (· ≠ '=')
  (name, if name.length < text.length then some (text.drop (name.length + 1)) else none)

/-- The options an argument may be short for. A single dash may also join a letter and what is
attached to it. -/
def candidates (options : Options) (text : Text) : List Recognised :=
  if isShort text then
    options.filterMap fun (name, effect) =>
      if name = text.take 2 then some ⟨effect, true, false, some (text.drop 2)⟩
      else if text.isPrefixOf name then some ⟨effect, isShort name, false, none⟩
      else none
  else
    let (start, value) := splitEquals text
    options.filterMap fun (name, effect) =>
      if start.isPrefixOf name then some ⟨effect, false, value.isSome, value⟩ else none

/-- How an argument counts before any marker. -/
def slotOf (options : Options) (text : Text) : Except Stop Slot :=
  if text.head? ≠ some '-' then .ok (.argument text)
  else
    match options.find? (·.1 = text) with
    | some (name, effect) => .ok (.option ⟨effect, isShort name, false, none⟩)
    | none =>
      if text.length = 1 then .ok (.argument text)
      else
        let (start, value) := splitEquals text
        match value, options.find? (·.1 = start) with
        | some value, some (name, effect) =>
          .ok (.option ⟨effect, isShort name, true, some value⟩)
        | _, _ =>
          match candidates options text with
          | [only] => .ok (.option only)
          | _ :: _ :: _ => .error .usage
          | [] =>
            if looksNegative text || ' ' ∈ text then .ok (.argument text) else .ok (.unknown text)

/-- How all arguments count; after a double dash every one is a plain argument. -/
def slotsOf (options : Options) : List Text → Except Stop (List Slot)
  | [] => .ok []
  | text :: rest =>
    if text = ['-', '-'] then .ok (.marker :: rest.map .argument)
    else do
      let slot ← slotOf options text
      let slots ← slotsOf options rest
      .ok (slot :: slots)

/-- The effects of one argument, the value attached to the last of them, and letters that are no
options. -/
structure Expansion where
  effects : List Effect
  value : Option Text
  unknown : Bool

def expand (options : Options) (effect : Effect) (short equals : Bool) :
    (attached : Text) → Except Stop Expansion
  | [] =>
    if effect.takesValue then .ok ⟨[effect], some [], false⟩ else .error .usage
  | c :: rest =>
    if effect.takesValue then .ok ⟨[effect], some (c :: rest), false⟩
    else if !short || equals || c = '-' then .error .usage
    else
      match options.find? (·.1 = ['-', c]) with
      | none => .ok ⟨[effect], none, true⟩
      | some (_, next) =>
        match rest with
        | [] => .ok ⟨[effect, next], none, false⟩
        | '=' :: _ => .error .usage
        | _ => do
          let later ← expand options next true false rest
          .ok { later with effects := effect :: later.effects }

structure Progress where
  verbose : Bool
  directory : Option Text
  arguments : List Text
  extras : Bool

def Progress.start : Progress := ⟨false, none, [], false⟩

def Progress.apply (progress : Progress) (value : Option Text) :
    List Effect → Except Stop Progress
  | [] => .ok progress
  | .help :: _ => .error .help
  | .verbose :: rest => { progress with verbose := true }.apply value rest
  | .directory :: rest => { progress with directory := value }.apply value rest

/-- Take one option; its value may be the next argument. Gives the number of slots used. -/
def takeOption (options : Options) (progress : Progress) (recognised : Recognised)
    (next : Option Slot) : Except Stop (Progress × Nat) := do
  match recognised.attached with
  | some attached =>
    let expansion ← expand options recognised.effect recognised.short recognised.equals attached
    let progress ← progress.apply expansion.value expansion.effects
    .ok ({ progress with extras := progress.extras || expansion.unknown }, 1)
  | none =>
    if recognised.effect.takesValue then
      match next with
      | some (.argument value) => do
        let progress ← progress.apply (some value) [recognised.effect]
        .ok (progress, 2)
      | _ => .error .usage
    else
      let progress ← progress.apply none [recognised.effect]
      .ok (progress, 1)

/-- A positional argument: a text, an integer, or a text that may be left out. -/
inductive Positional
  | text
  | integer
  | optional
deriving DecidableEq

def Positional.accepts : Positional → Text → Bool
  | .integer, written => (Text.toInt? written).isSome
  | _, _ => true

/-- Leading markers and what follows them. -/
def dropMarkers : List Slot → List Slot
  | .marker :: rest => dropMarkers rest
  | slots => slots

/-- Fill positional arguments, as many as the slots before the next option allow. Gives those
still open and the slots left. -/
def fill (progress : Progress) : List Positional → List Slot →
    Except Stop (Progress × List Positional × List Slot)
  | [], slots => .ok (progress, [], slots)
  | positional :: later, slots =>
    match dropMarkers slots with
    | .argument given :: rest =>
      if positional.accepts given then
        fill { progress with arguments := progress.arguments ++ [given] } later (dropMarkers rest)
      else .error .usage
    | others =>
      if positional = .optional then fill progress later others
      else .ok (progress, positional :: later, slots)

def Slot.isOption : Slot → Bool
  | .option _ | .unknown _ => true
  | _ => false

/-- Options and positional arguments in turns, until the slots are used up. -/
def takeTurns (options : Options) (fuel : Nat) (progress : Progress) (pending : List Positional)
    (slots : List Slot) : Except Stop (Progress × List Positional) :=
  match fuel with
  | 0 => .ok (progress, pending)
  | fuel + 1 =>
    match slots with
    | .option recognised :: rest => do
      let (progress, used) ← takeOption options progress recognised rest.head?
      takeTurns options fuel progress pending (slots.drop used)
    | .unknown _ :: rest => takeTurns options fuel { progress with extras := true } pending rest
    | _ => do
      let (filled, left, rest) ← fill progress pending slots
      if rest.length < slots.length then takeTurns options fuel filled left rest
      else
        let begun := slots.dropWhile (!·.isOption)
        let progress := { filled with extras := filled.extras || begun.length < slots.length }
        if begun.isEmpty then .ok (progress, left) else takeTurns options fuel progress left begun

/-- Read the arguments of one command. Whatever is open at the end must be optional, and nothing
may be left over. -/
def readArguments (options : Options) (positionals : List Positional) (argv : List Text) :
    Except Stop Progress := do
  let slots ← slotsOf options argv
  let (progress, left) ← takeTurns options (2 * slots.length + 1) .start positionals slots
  if left.all (· = .optional) then .ok progress else .error .usage

end SymbolIndex.Command
