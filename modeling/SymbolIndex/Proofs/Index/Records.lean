import Mathlib.Data.List.TakeDrop
import SymbolIndex.Proofs.Host.Overwrite
import SymbolIndex.Proofs.Index.Collect
import SymbolIndex.Proofs.Index.Lines

/-! A file of records is written whole or cut short: after the last record that has a written form, or
where its room ends. -/
namespace SymbolIndex

/-- A file at a location has room for as many bytes. -/
def Platform.Fits (platform : Platform) (location : Location) (count : Nat) : Prop :=
  ∀ limit, platform.room location = some limit → count ≤ limit

namespace Host
variable {host : Host} {path : Path} {found : Tree.Found} {bytes : List UInt8}

theorem fitting_prefix : host.fitting path bytes <+: bytes := by
  unfold fitting
  split
  · rename_i found _
    cases host.platform.room found.location with
    | none => exact List.prefix_refl bytes
    | some limit => exact List.take_prefix limit bytes
  · exact List.prefix_refl bytes

/-- All bytes fit where the file has room for them. -/
theorem fitting_eq_iff (reached : host.lookup true path = .ok found) :
    host.fitting path bytes = bytes ↔ host.platform.Fits found.location bytes.length := by
  unfold fitting Platform.Fits
  simp only [reached]
  cases host.platform.room found.location <;> simp [List.take_eq_self_iff]

theorem fitting_of_unlimited (unlimited : ∀ location, host.platform.room location = none) :
    host.fitting path bytes = bytes := by
  unfold fitting
  split
  · rw [unlimited]
    rfl
  · rfl

end Host

namespace Index
open Job SymbolIndex.Tree
variable [Json.Package] {host made after : Host} {world last : World} {path dir : Path}
  {location : Location} {values : List Value} {blocks : List Block} {failure : Failure}
  {summary : Summary} {log : List LogEntry}

/-- Records are written to a file, all of them. -/
structure WritesAll (host : Host) (path : Path) (values : List Value) (after : Host) : Prop where
  spelled : refusal? values = none
  room : host.fitting path (encodeLines values) = encodeLines values
  wrote : host.writeBytes path (encodeLines values) = .ok after

theorem shortfall?_eq_none : shortfall? host path values = none ↔
    host.fitting path (encodeLines values) = encodeLines values ∧ refusal? values = none := by
  unfold shortfall?
  split <;> simp_all

theorem writeRecords_eq_ok : outcome (writeRecords path values) world = (.ok (), last) ↔
    ∃ after, WritesAll world.host path values after ∧ last = { world with host := after } := by
  rw [writeRecords, host_bind, bind_eq_ok]
  constructor
  · rintro ⟨_, middle, first, done⟩
    obtain ⟨after, wrote, rfl⟩ := change_eq_ok.mp first
    split at done
    · cases (Prod.mk.inj done).1
    · rename_i whole
      obtain ⟨room, spelled⟩ := shortfall?_eq_none.mp whole
      rw [room] at wrote
      exact ⟨after, ⟨spelled, room, wrote⟩, (Prod.mk.inj done).2.symm⟩
  · rintro ⟨after, ⟨spelled, room, wrote⟩, rfl⟩
    refine ⟨(), _, change_eq_ok.mpr ⟨after, by rwa [room], rfl⟩, ?_⟩
    rw [shortfall?_eq_none.mpr ⟨room, spelled⟩]
    rfl

/-- Records are not all written: the file is not touched, or cut short. -/
inductive WritesLess (host : Host) (path : Path) (values : List Value) (failure : Failure) (after : Host) :
    Prop
  | unopened (refused : host.writeBytes path (host.fitting path (encodeLines values)) = .error failure)
    (same : after = host) : WritesLess host path values failure after
  | cutShort (wrote : host.writeBytes path (host.fitting path (encodeLines values)) = .ok after)
    (short : shortfall? host path values = some failure) : WritesLess host path values failure after

theorem writeRecords_eq_error : outcome (writeRecords path values) world = (.error failure, last) ↔
    ∃ after, WritesLess world.host path values failure after ∧ last = { world with host := after } := by
  rw [writeRecords, host_bind, bind_eq_error, change_eq_error]
  constructor
  · rintro (⟨refused, rfl⟩ | ⟨_, middle, first, failed⟩)
    · exact ⟨_, .unopened refused rfl, rfl⟩
    · obtain ⟨after, wrote, rfl⟩ := change_eq_ok.mp first
      split at failed
      · rename_i short
        obtain ⟨same, rfl⟩ := Prod.mk.inj failed
        exact ⟨after, .cutShort wrote (Except.error.inj same ▸ short), rfl⟩
      · cases (Prod.mk.inj failed).1
  · rintro ⟨after, refused | ⟨wrote, short⟩, rfl⟩
    · rename_i same
      exact Or.inl ⟨refused, by rw [same]⟩
    · refine Or.inr ⟨(), _, change_eq_ok.mpr ⟨after, wrote, rfl⟩, ?_⟩
      rw [short]
      rfl

/-- The records of an index of the blocks, by the file that they go to. -/
def Artifact.records (artifact : Artifact) (blocks : List Block) : List Value :=
  match artifact with
  | .symbols => (blocks.flatMap (·.symbols)).map FileSymbol.toValue
  | .snapshots => blocks.map (·.snapshot.toValue)

/-- The bytes of the two files of an index. -/
def symbolBytes (blocks : List Block) : List UInt8 := encodeLines (Artifact.symbols.records blocks)

def snapshotBytes (blocks : List Block) : List UInt8 := encodeLines (Artifact.snapshots.records blocks)

/-- The files of an index are written one after the other. -/
theorem writeBlocks_eq_ok : (∃ log',
      outcome (writeBlocks dir blocks) ⟨made, log⟩ = (.ok summary, ⟨after, log'⟩)) ↔
    (∃ between,
      WritesAll made (dir.child Artifact.symbols.fileName) (Artifact.symbols.records blocks) between ∧
      WritesAll between (dir.child Artifact.snapshots.fileName) (Artifact.snapshots.records blocks)
        after) ∧
    summary = ⟨blocks.length, (blocks.flatMap (·.symbols)).length,
      [dir.child Artifact.symbols.fileName, dir.child Artifact.snapshots.fileName]⟩ := by
  unfold writeBlocks
  constructor
  · rintro ⟨log', done⟩
    obtain ⟨_, world₁, first, done⟩ := bind_eq_ok.mp done
    obtain ⟨between, wrote₁, rfl⟩ := writeRecords_eq_ok.mp first
    obtain ⟨_, world₂, second, done⟩ := bind_eq_ok.mp done
    obtain ⟨written, wrote₂, rfl⟩ := writeRecords_eq_ok.mp second
    obtain ⟨_, world₃, reported, done⟩ := bind_eq_ok.mp done
    obtain ⟨_, rfl⟩ := Prod.mk.inj reported
    obtain ⟨same, ended⟩ := Prod.mk.inj done
    obtain rfl : written = after := congrArg World.host ended
    exact ⟨⟨between, wrote₁, wrote₂⟩, (Except.ok.inj same).symm⟩
  · rintro ⟨⟨between, wrote₁, wrote₂⟩, rfl⟩
    exact ⟨_, bind_eq_ok.mpr ⟨(), _, writeRecords_eq_ok.mpr ⟨_, wrote₁, rfl⟩,
      bind_eq_ok.mpr ⟨(), _, writeRecords_eq_ok.mpr ⟨_, wrote₂, rfl⟩, rfl⟩⟩⟩

/-- Writing fails at the first file or, when that is written, at the second. -/
theorem writeBlocks_eq_error : (∃ log',
      outcome (writeBlocks dir blocks) ⟨made, log⟩ = (.error failure, ⟨after, log'⟩)) ↔
    WritesLess made (dir.child Artifact.symbols.fileName) (Artifact.symbols.records blocks) failure after ∨
      ∃ between,
        WritesAll made (dir.child Artifact.symbols.fileName) (Artifact.symbols.records blocks) between ∧
        WritesLess between (dir.child Artifact.snapshots.fileName) (Artifact.snapshots.records blocks)
          failure after := by
  unfold writeBlocks
  constructor
  · rintro ⟨log', failed⟩
    rcases bind_eq_error.mp failed with first | ⟨_, world₁, first, failed⟩
    · obtain ⟨_, less, same⟩ := writeRecords_eq_error.mp first
      obtain rfl := congrArg World.host same
      exact Or.inl less
    obtain ⟨between, wrote, rfl⟩ := writeRecords_eq_ok.mp first
    rcases bind_eq_error.mp failed with second | ⟨_, world₂, _, failed⟩
    · obtain ⟨_, less, same⟩ := writeRecords_eq_error.mp second
      obtain rfl := congrArg World.host same
      exact Or.inr ⟨between, wrote, less⟩
    · cases (Prod.mk.inj failed).1
  · rintro (less | ⟨between, wrote, less⟩)
    · exact ⟨log, bind_eq_error.mpr (Or.inl (writeRecords_eq_error.mpr ⟨after, less, rfl⟩))⟩
    · exact ⟨log, bind_eq_error.mpr (Or.inr ⟨(), _, writeRecords_eq_ok.mpr ⟨between, wrote, rfl⟩,
        bind_eq_error.mpr (Or.inl (writeRecords_eq_error.mpr ⟨after, less, rfl⟩))⟩)⟩

theorem refusal?_append (values more : List Value) :
    refusal? (values ++ more) = (refusal? values).or (refusal? more) := by
  induction values with
  | nil => rfl
  | cons value rest ih =>
    rw [List.cons_append, refusal?, refusal?]
    cases Json.dumps .compact value with
    | ok line => exact ih
    | error reason => rfl

omit [Json.Package] in
theorem Artifact.records_cons (artifact : Artifact) (block : Block) (rest : List Block) :
    artifact.records (block :: rest) = artifact.records [block] ++ artifact.records rest := by
  cases artifact <;> simp [Artifact.records]

/-- A record without a written form is one of some block. -/
theorem refusal?_records {artifact : Artifact} {reason : Text}
    (refused : refusal? (artifact.records blocks) = some reason) :
    ∃ block ∈ blocks, refusal? (artifact.records [block]) = some reason := by
  induction blocks with
  | nil => cases artifact <;> cases refused
  | cons block rest ih =>
    rw [Artifact.records_cons, refusal?_append, Option.or_eq_some_iff] at refused
    rcases refused with here | ⟨_, later⟩
    · exact ⟨block, List.mem_cons_self, here⟩
    · obtain ⟨other, member, found⟩ := ih later
      exact ⟨other, List.mem_cons_of_mem block member, found⟩

theorem refusal?_of_mem {artifact : Artifact} {block : Block} (member : block ∈ blocks)
    (spelled : refusal? (artifact.records blocks) = none) :
    refusal? (artifact.records [block]) = none := by
  induction blocks with
  | nil => cases member
  | cons first rest ih =>
    rw [Artifact.records_cons, refusal?_append, Option.or_eq_none_iff] at spelled
    rcases List.mem_cons.mp member with rfl | inside
    · exact spelled.1
    · exact ih inside spelled.2

/-- Every record that is written takes up some bytes. -/
theorem length_encodeLines_add_le {fewer : List Value} (sub : fewer.Sublist values)
    (spelled : refusal? values = none) :
    (encodeLines fewer).length + values.length ≤ (encodeLines values).length + fewer.length := by
  rw [refusal?_eq_none] at spelled
  induction sub with
  | slnil => exact Nat.le_refl _
  | cons value _ ih =>
    obtain ⟨⟨text, here⟩, later⟩ := List.forall_mem_cons.mp spelled
    have less := ih later
    rw [encodeLines_cons here]
    simp only [List.length_append, List.length_cons]
    omega
  | cons_cons value _ ih =>
    obtain ⟨⟨text, here⟩, later⟩ := List.forall_mem_cons.mp spelled
    have less := ih later
    rw [encodeLines_cons here, encodeLines_cons here]
    simp only [List.length_append, List.length_cons]
    omega

/-- A platform has no objection to the two files of an index in a directory, and room for them. -/
structure Admits (platform : Platform) (location : Location) (blocks : List Block) : Prop where
  allowed : ∀ artifact : Artifact, platform.refuses (location ++ [artifact.fileName]) = none
  room : ∀ artifact : Artifact,
    platform.Fits (location ++ [artifact.fileName]) (encodeLines (artifact.records blocks)).length

/-- The same, and every record has a written form. -/
structure Takes (platform : Platform) (location : Location) (blocks : List Block) : Prop
    extends Admits platform location blocks where
  spelled : ∀ artifact : Artifact, refusal? (artifact.records blocks) = none

section Directory
variable (there : made.At dir location)
include there

/-- A file is new where its directory has no entry of that name. -/
theorem writesAll_child {name : Text} (named : IsName name)
    (absent : made.tree.entry? (location ++ [name]) = none) :
    WritesAll made (dir.child name) values after ↔
      Host.isUsable (dir.child name) = true ∧ refusal? values = none ∧
        made.platform.refuses (location ++ [name]) = none ∧
        made.platform.Fits (location ++ [name]) (encodeLines values).length ∧
        after = { made with tree := made.tree.put (location ++ [name]) (.file (encodeLines values)) } := by
  have reached := there.lookup_absent named absent true
  constructor
  · rintro ⟨spelled, room, wrote⟩
    obtain ⟨usable, found, found', _, allowed, rfl⟩ := Host.writeBytes_eq_ok.mp wrote
    obtain rfl := Except.ok.inj (reached.symm.trans found')
    exact ⟨usable, spelled, allowed, (Host.fitting_eq_iff reached).mp room, rfl⟩
  · rintro ⟨usable, spelled, allowed, room, rfl⟩
    exact ⟨spelled, (Host.fitting_eq_iff reached).mpr room,
      there.writeBytes_ok named usable absent allowed _⟩

/-- The one thing that can go wrong with a new file where the platform takes it is a record without a
written form. -/
theorem writesLess_child {name : Text} (named : IsName name)
    (usable : Host.isUsable (dir.child name) = true)
    (absent : made.tree.entry? (location ++ [name]) = none)
    (allowed : made.platform.refuses (location ++ [name]) = none)
    (room : made.platform.Fits (location ++ [name]) (encodeLines values).length)
    (less : WritesLess made (dir.child name) values failure after) :
    (∃ reason, refusal? values = some reason ∧ failure = .unwritable reason) ∧
      after = { made with tree := made.tree.put (location ++ [name]) (.file (encodeLines values)) } := by
  have fits : made.fitting (dir.child name) (encodeLines values) = encodeLines values :=
    (Host.fitting_eq_iff (there.lookup_absent named absent true)).mpr room
  have written := there.writeBytes_ok named usable absent allowed (encodeLines values)
  cases less with
  | unopened refused same =>
    rw [fits, written] at refused
    cases refused
  | cutShort wrote short =>
    rw [fits, written] at wrote
    rw [shortfall?, if_neg (by simpa using fits)] at short
    obtain ⟨reason, refused, same⟩ := Option.map_eq_some_iff.mp short
    exact ⟨⟨reason, refused, same.symm⟩, (Except.ok.inj wrote).symm⟩

variable (absent : ∀ artifact : Artifact, made.tree.entry? (location ++ [artifact.fileName]) = none)
include absent

omit [Json.Package] in
/-- The second file is as new once the first is written. -/
theorem symbols_put {bytes : List UInt8} (put : after =
    { made with tree := made.tree.put (location ++ [Artifact.symbols.fileName]) (.file bytes) }) :
    made.tree.Extends after.tree ∧ after.At dir location ∧
      after.tree.entry? (location ++ [Artifact.snapshots.fileName]) = none := by
  subst put
  have inside : location ++ [Artifact.symbols.fileName] ≠ [] := by simp
  have larger := extends_put inside (absent .symbols) (.file bytes)
  refine ⟨larger, there.extends larger rfl, ?_⟩
  rw [entry?_put inside, if_neg (by simpa using fileName_ne), absent]

/-- An index is written where neither of its files is, if the platform takes it. -/
theorem takes_iff : (∃ between after,
      WritesAll made (dir.child Artifact.symbols.fileName) (Artifact.symbols.records blocks) between ∧
      WritesAll between (dir.child Artifact.snapshots.fileName) (Artifact.snapshots.records blocks)
        after) ↔
    (∀ artifact : Artifact, Host.isUsable (dir.child artifact.fileName) = true) ∧
      Takes made.platform location blocks := by
  constructor
  · rintro ⟨between, after, first, second⟩
    obtain ⟨usable₁, spelled₁, allowed₁, room₁, put⟩ :=
      (writesAll_child there (fileName_isName _) (absent _)).mp first
    obtain ⟨_, there', absent'⟩ := symbols_put there absent put
    obtain ⟨usable₂, spelled₂, allowed₂, room₂, _⟩ :=
      (writesAll_child there' (fileName_isName _) absent').mp second
    subst put
    refine ⟨fun artifact => ?_, ⟨fun artifact => ?_, fun artifact => ?_⟩, fun artifact => ?_⟩ <;>
      cases artifact <;> assumption
  · rintro ⟨usable, ⟨allowed, room⟩, spelled⟩
    obtain ⟨_, there', absent'⟩ := symbols_put there absent rfl
    exact ⟨_, _,
      (writesAll_child there (fileName_isName _) (absent _)).mpr
        ⟨usable _, spelled _, allowed _, room _, rfl⟩,
      (writesAll_child there' (fileName_isName _) absent').mpr
        ⟨usable _, spelled _, allowed _, room _, rfl⟩⟩

/-- Where the platform admits an index, it can fail for a record without a written form alone. -/
theorem writeBlocks_new_error (usable : ∀ artifact : Artifact,
      Host.isUsable (dir.child artifact.fileName) = true)
    (admits : Admits made.platform location blocks)
    (failed : outcome (writeBlocks dir blocks) ⟨made, log⟩ = (.error failure, last)) :
    (∃ (artifact : Artifact) (reason : Text), refusal? (artifact.records blocks) = some reason ∧
      failure = .unwritable reason) ∧ made.tree.Extends last.host.tree ∧ last.host.cwd = made.cwd := by
  rcases writeBlocks_eq_error.mp ⟨last.log, failed⟩ with less | ⟨between, all, less⟩
  · obtain ⟨⟨reason, refused, same⟩, put⟩ := writesLess_child there (fileName_isName _) (usable _)
      (absent _) (admits.allowed _) (admits.room .symbols) less
    refine ⟨⟨.symbols, reason, refused, same⟩, (symbols_put there absent put).1, by rw [put]⟩
  · obtain ⟨_, _, _, _, put⟩ := (writesAll_child there (fileName_isName _) (absent _)).mp all
    obtain ⟨larger, there', absent'⟩ := symbols_put there absent put
    have platform : between.platform = made.platform := by rw [put]
    obtain ⟨⟨reason, refused, same⟩, put'⟩ := writesLess_child there' (fileName_isName _) (usable _)
      absent' (platform ▸ admits.allowed _) (platform ▸ admits.room .snapshots) less
    refine ⟨⟨.snapshots, reason, refused, same⟩, larger.trans ?_, by rw [put', put]⟩
    rw [put']
    exact extends_put (by simp) absent' _

end Directory

end Index

namespace Installed
open Index

theorem refusal?_eq_none (values : List Value) : refusal? values = none :=
  Index.refusal?_eq_none.mpr fun _ _ => ⟨_, rfl⟩

theorem encodeLines_eq (values : List Value) : encodeLines values =
    Utf8.encode (values.flatMap fun value => Json.render .compact value ++ ['\n']) := by
  induction values with
  | nil => rfl
  | cons value rest ih =>
    rw [List.flatMap_cons, Utf8.encode_append, ← ih]
    rfl

/-- A machine without limits takes every index. -/
theorem takes_plain (location : Location) (blocks : List Block) : Takes .plain location blocks :=
  ⟨⟨fun _ => rfl, fun _ _ => nofun⟩, fun _ => refusal?_eq_none _⟩

end Installed
end SymbolIndex
