import Mathlib.Data.List.TakeWhile
import SymbolIndex.Proofs.Text.Utf8

/-! Bytes read block by block: a block may end inside a character, whose first bytes are kept for the
next one, so the blocks of a text give the text. -/
namespace SymbolIndex.Utf8
variable {c : Char} {lead : UInt8} {tail bytes pending front more : List UInt8} {text : Text}
  {position : Nat}

/-- The first bytes of a character, without its last ones, are read once more come. -/
theorem Spells.incomplete (spells : Spells c lead tail) (begun : front <+: tail)
    (short : front.length < tail.length) : Utf8.readSequence lead front = .incomplete := by
  obtain ⟨missing, rfl⟩ := begun
  have long := spells.announces
  rw [List.length_append] at long short
  obtain ⟨size, announces⟩ : ∃ size, announced lead = size + 2 :=
    Nat.exists_eq_add_of_le' (by omega)
  rw [Utf8.readSequence, announces]
  cases front with
  | nil => rfl
  | cons second later =>
    rw [List.length_cons] at long short
    have allowed := spells.second second rfl
    have all : ∀ byte ∈ later, mayContinue byte = true := fun byte member =>
      spells.later byte (List.mem_append_left missing member)
    have kept : later.take size = later := List.take_of_length_le (by omega)
    have read : later.takeWhile mayContinue = later := List.takeWhile_eq_self_iff.mpr all
    have unfinished : later.length ≠ size := by omega
    simp [allowed, kept, read, unfinished]

/-- Bytes that a text begins with are read as far as its characters are whole. The others stay, and
begin what is left of the text. -/
theorem readFrom_begun (begun : front ++ more = encode text) : ∃ done left rest,
    text = done ++ rest ∧ readFrom position 0 front = ⟨done, left, none⟩ ∧
      left ++ more = encode rest ∧ readFrom 0 0 left = ⟨[], left, none⟩ := by
  induction text generalizing front position with
  | nil =>
    obtain ⟨rfl, rfl⟩ := List.append_eq_nil_iff.mp begun
    exact ⟨[], [], [], rfl, rfl, rfl, rfl⟩
  | cons c text ih =>
    obtain ⟨lead, tail, bytes, spells⟩ := exists_spells c
    cases front with
    | nil => exact ⟨[], [], c :: text, rfl, rfl, begun, rfl⟩
    | cons byte front =>
      rw [encode_cons, bytes, List.cons_append, List.cons_append] at begun
      obtain ⟨rfl, onward⟩ := List.cons.inj begun
      rcases Nat.lt_or_ge front.length tail.length with short | whole
      · have inside : front <+: tail := by
          refine List.prefix_of_prefix_length_le ?_ (List.prefix_append tail (encode text))
            (Nat.le_of_lt short)
          exact ⟨more, onward⟩
        have waits (position : Nat) : readFrom position 0 (byte :: front) =
            ⟨[], byte :: front, none⟩ := by
          rw [readFrom, spells.incomplete inside short]
        refine ⟨[], byte :: front, c :: text, rfl, waits position, ?_, waits 0⟩
        rw [encode_cons, bytes, List.cons_append, List.cons_append, onward]
      · obtain ⟨later, rfl⟩ : tail <+: front :=
          List.prefix_of_prefix_length_le (List.prefix_append tail (encode text))
            ⟨more, onward⟩ whole
        rw [List.append_assoc] at onward
        obtain ⟨done, left, rest, split, read, kept, waits⟩ :=
          @ih later (position + 1 + tail.length) (List.append_cancel_left onward)
        refine ⟨c :: done, left, rest, by rw [split, List.cons_append], ?_, kept, waits⟩
        rw [readFrom, spells.readSequence]
        simp only [spells.announces, Nat.add_sub_cancel, readFrom_skip, read]

/-- One block of the bytes of a text, read behind those that await more. -/
theorem readFrom_block (spelled : pending ++ bytes = encode text) : ∃ done left rest,
    text = done ++ rest ∧
      readFrom 0 0 (pending ++ bytes.take blockSize) = ⟨done, left, none⟩ ∧
      left ++ bytes.drop blockSize = encode rest ∧ readFrom 0 0 left = ⟨[], left, none⟩ :=
  readFrom_begun (by rw [List.append_assoc, List.take_append_drop, spelled])

/-- Blocks whose bytes spell a text, behind bytes that await more, give that text. -/
theorem decodeBlocks_pending (spelled : pending ++ bytes = encode text)
    (waits : readFrom 0 0 pending = ⟨[], pending, none⟩) :
    decodeBlocks pending bytes = (text, none) := by
  fun_induction decodeBlocks pending bytes generalizing text with
  | case1 pending =>
    rw [List.append_nil] at spelled
    rw [spelled, readFrom_encode] at waits
    obtain ⟨rfl, _, _⟩ := Partial.mk.inj waits
    rw [spelled]
    rfl
  | case2 pending bytes nonempty read error =>
    rename_i refused
    obtain ⟨done, left, rest, _, reads, _, _⟩ := readFrom_block spelled
    cases refused.symm.trans (congrArg Partial.error reads)
  | case3 pending bytes nonempty read accepted after error later =>
    rename_i ih
    obtain ⟨done, left, rest, rfl, reads, onward, awaits⟩ := readFrom_block spelled
    obtain rfl : read.text = done := congrArg Partial.text reads
    obtain rfl : read.pending = left := congrArg Partial.pending reads
    obtain ⟨rfl, rfl⟩ := Prod.mk.inj (later.symm.trans (ih onward awaits))
    rfl

/-- Where blocks begin and end makes no difference to the text that the bytes spell. -/
theorem decodeBlocks_encode (text : Text) : decodeBlocks [] (encode text) = (text, none) :=
  decodeBlocks_pending rfl rfl

end SymbolIndex.Utf8
