import Mathlib.Data.List.Basic
import SymbolIndex.Text.Utf8

/-! Exactly the bytes of a text decode, and they decode to that text; only a newline has the byte of
one. -/
namespace SymbolIndex.Utf8
variable {c : Char} {lead byte : UInt8} {tail rest bytes : List UInt8} {text : Text} {n m : Nat}

/-- A lead byte and the bytes it announces, all of them allowed where they stand, for one
character. -/
structure Spells (c : Char) (lead : UInt8) (tail : List UInt8) : Prop where
  announces : announced lead = tail.length + 1
  second : ∀ byte ∈ tail.head?, maySecond lead byte = true
  later : ∀ byte ∈ tail.drop 1, mayContinue byte = true
  code : assemble lead tail = c.toNat

theorem assemble_nil (lead : UInt8) : assemble lead [] = lead.toNat := rfl

theorem assemble_one (lead second : UInt8) :
    assemble lead [second] = lead.toNat % 32 * 64 + second.toNat % 64 := rfl

theorem assemble_two (lead second third : UInt8) : assemble lead [second, third] =
    (lead.toNat % 16 * 64 + second.toNat % 64) * 64 + third.toNat % 64 := rfl

theorem assemble_three (lead second third fourth : UInt8) :
    assemble lead [second, third, fourth] =
      ((lead.toNat % 8 * 64 + second.toNat % 64) * 64 + third.toNat % 64) * 64 +
        fourth.toNat % 64 := rfl

theorem Spells.readSequence (spells : Spells c lead tail) (rest : List UInt8) :
    readSequence lead (tail ++ rest) = .character c := by
  have same : Char.ofNat c.toNat = c := Char.ofNat_toNat c
  unfold Utf8.readSequence
  rw [spells.announces]
  cases tail with
  | nil => simpa [← spells.code, assemble] using same
  | cons second more =>
    have allowed := spells.second second rfl
    have kept : (more ++ []).takeWhile mayContinue = more ++ [].takeWhile mayContinue :=
      List.takeWhile_append_of_pos spells.later
    rw [List.append_nil, List.takeWhile_nil, List.append_nil] at kept
    simp [allowed, kept, spells.code, same]

theorem toNat_byte (small : n < 256) : (UInt8.ofNat n).toNat = n := UInt8.toNat_ofNat_of_lt' small

theorem byte_eq_iff (small : n < 256) (other : m < 256) :
    UInt8.ofNat n = UInt8.ofNat m ↔ n = m := by
  rw [← UInt8.toNat_inj, toNat_byte small, toNat_byte other]

theorem mayContinue_byte (low : 0x80 ≤ m) (high : m ≤ 0xBF) : mayContinue (UInt8.ofNat m) = true := by
  simp [mayContinue]
  omega

theorem maySecond_byte (small : n < 256) (low : 0x80 ≤ m) (high : m ≤ 0xBF)
    (overlong : n = 0xE0 → 0xA0 ≤ m) (surrogate : n = 0xED → m ≤ 0x9F)
    (overlong' : n = 0xF0 → 0x90 ≤ m) (last : n = 0xF4 → m ≤ 0x8F) :
    maySecond (UInt8.ofNat n) (UInt8.ofNat m) = true := by
  have lead (k : Nat) (fits : k < 256) : UInt8.ofNat n = UInt8.ofNat k ↔ n = k :=
    byte_eq_iff small fits
  have e0 := lead 0xE0 (by decide)
  have f0 := lead 0xF0 (by decide)
  have ed := lead 0xED (by decide)
  have f4 := lead 0xF4 (by decide)
  simp only [maySecond, toNat_byte (show m < 256 by omega), Bool.and_eq_true, decide_eq_true_eq]
  constructor
  · split
    · exact overlong (e0.mp ‹_›)
    split
    · exact overlong' (f0.mp ‹_›)
    · exact low
  · split
    · exact surrogate (ed.mp ‹_›)
    split
    · exact last (f4.mp ‹_›)
    · exact high

theorem announced_byte (small : n < 256) : announced (UInt8.ofNat n) =
    if n < 0x80 then 1 else if n < 0xC2 then 0 else if n < 0xE0 then 2 else if n < 0xF0 then 3
    else if n < 0xF5 then 4 else 0 := by
  rw [announced, toNat_byte small]

/-- The continuation byte that holds six bits of a code point. -/
theorem toNat_continuation (n : Nat) : (UInt8.ofNat (0x80 + n % 64)).toNat % 64 = n % 64 := by
  rw [toNat_byte (by omega)]
  omega

theorem mayContinue_continuation (n : Nat) : mayContinue (UInt8.ofNat (0x80 + n % 64)) = true :=
  mayContinue_byte (by omega) (by omega)

/-- Every character is spelled by its bytes. -/
theorem exists_spells (c : Char) : ∃ lead tail, encodeChar c = lead :: tail ∧ Spells c lead tail := by
  have bound : c.toNat < 0xD800 ∨ 0xDFFF < c.toNat ∧ c.toNat < 0x110000 := c.valid
  generalize code : c.toNat = n at bound
  simp only [encodeChar, code]
  split
  · rename_i one
    have small : n < 256 := by omega
    refine ⟨_, _, rfl, ?_, by simp, by simp, ?_⟩
    · rw [announced_byte small, if_pos one, List.length_nil]
    · rw [assemble_nil, toNat_byte small, code]
  split
  · rename_i large two
    have small : 0xC0 + n / 64 < 256 := by omega
    refine ⟨_, _, rfl, ?_, ?_, by simp, ?_⟩
    · rw [announced_byte small, if_neg (by omega), if_neg (by omega), if_pos (by omega)]
      rfl
    · intro byte member
      obtain rfl : _ = byte := Option.some.inj member
      exact maySecond_byte small (by omega) (by omega) (by omega) (by omega) (by omega) (by omega)
    · simp only [assemble_one, toNat_byte small, toNat_continuation, code]
      omega
  split
  · rename_i large two
    have small : 0xE0 + n / 4096 < 256 := by omega
    refine ⟨_, _, rfl, ?_, ?_, ?_, ?_⟩
    · rw [announced_byte small, if_neg (by omega), if_neg (by omega), if_neg (by omega),
        if_pos (by omega)]
      rfl
    · intro byte member
      obtain rfl : _ = byte := Option.some.inj member
      exact maySecond_byte small (by omega) (by omega) (by omega) (by omega) (by omega) (by omega)
    · intro byte member
      obtain rfl := List.mem_singleton.mp member
      exact mayContinue_continuation _
    · simp only [assemble_two, toNat_byte small, toNat_continuation, code]
      omega
  · have small : 0xF0 + n / 262144 < 256 := by omega
    refine ⟨_, _, rfl, ?_, ?_, ?_, ?_⟩
    · rw [announced_byte small, if_neg (by omega), if_neg (by omega), if_neg (by omega),
        if_neg (by omega), if_pos (by omega)]
      rfl
    · intro byte member
      obtain rfl : _ = byte := Option.some.inj member
      exact maySecond_byte small (by omega) (by omega) (by omega) (by omega) (by omega) (by omega)
    · intro byte member
      rcases List.mem_cons.mp member with rfl | member
      · exact mayContinue_continuation _
      · obtain rfl := List.mem_singleton.mp member
        exact mayContinue_continuation _
    · simp only [assemble_three, toNat_byte small, toNat_continuation, code]
      omega

theorem encode_cons (c : Char) (text : Text) : encode (c :: text) = encodeChar c ++ encode text := rfl

theorem encode_append (text more : Text) : encode (text ++ more) = encode text ++ encode more :=
  List.flatMap_append

theorem readFrom_skip (position : Nat) (tail rest : List UInt8) :
    readFrom position tail.length (tail ++ rest) = readFrom (position + tail.length) 0 rest := by
  induction tail generalizing position with
  | nil => rfl
  | cons byte tail ih =>
    rw [List.length_cons, List.cons_append, readFrom, ih]
    congr 1
    omega

theorem readFrom_encode (position : Nat) (text : Text) :
    readFrom position 0 (encode text) = ⟨text, [], none⟩ := by
  induction text generalizing position with
  | nil => rfl
  | cons c text ih =>
    obtain ⟨lead, tail, bytes, spells⟩ := exists_spells c
    rw [encode_cons, bytes, List.cons_append, readFrom, spells.readSequence]
    simp only [spells.announces, Nat.add_sub_cancel, readFrom_skip, ih]

/-- What is encoded decodes to itself. -/
theorem decode_encode (text : Text) : decode (encode text) = .ok text := by
  simp [decode, readFrom_encode, cutOff]

/-- How long a sequence is, by the number of its lead byte. -/
theorem tail_cases (announces : announced lead = tail.length + 1) :
    (tail = [] ∧ lead.toNat < 0x80) ∨
    (∃ second, tail = [second] ∧ 0xC2 ≤ lead.toNat ∧ lead.toNat < 0xE0) ∨
    (∃ second third, tail = [second, third] ∧ 0xE0 ≤ lead.toNat ∧ lead.toNat < 0xF0) ∨
    ∃ second third fourth, tail = [second, third, fourth] ∧ 0xF0 ≤ lead.toNat ∧
      lead.toNat < 0xF5 := by
  simp only [announced] at announces
  split at announces
  · exact .inl ⟨List.length_eq_zero_iff.mp (by omega), by assumption⟩
  split at announces
  · omega
  split at announces
  · obtain ⟨second, rfl⟩ := List.length_eq_one_iff.mp (show tail.length = 1 by omega)
    exact .inr (.inl ⟨second, rfl, by omega, by assumption⟩)
  split at announces
  · obtain ⟨second, third, rfl⟩ := List.length_eq_two.mp (show tail.length = 2 by omega)
    exact .inr (.inr (.inl ⟨second, third, rfl, by omega, by assumption⟩))
  split at announces
  · obtain ⟨second, third, fourth, rfl⟩ := List.length_eq_three.mp (show tail.length = 3 by omega)
    exact .inr (.inr (.inr ⟨second, third, fourth, rfl, by omega, by assumption⟩))
  · omega

theorem mayContinue_bounds (allowed : mayContinue byte = true) :
    0x80 ≤ byte.toNat ∧ byte.toNat ≤ 0xBF := by
  simpa [mayContinue] using allowed

/-- The bounds of a second byte, closer after four of the lead bytes. -/
theorem maySecond_bounds (allowed : maySecond lead byte = true) :
    (0x80 ≤ byte.toNat ∧ byte.toNat ≤ 0xBF) ∧ (lead.toNat = 0xE0 → 0xA0 ≤ byte.toNat) ∧
      (lead.toNat = 0xED → byte.toNat ≤ 0x9F) ∧ (lead.toNat = 0xF0 → 0x90 ≤ byte.toNat) ∧
      (lead.toNat = 0xF4 → byte.toNat ≤ 0x8F) := by
  have named (k : UInt8) : lead = k ↔ lead.toNat = k.toNat := UInt8.toNat_inj.symm
  simp only [maySecond, Bool.and_eq_true, decide_eq_true_eq, named, UInt8.reduceToNat] at allowed
  grind

/-- The code point that allowed bytes spell is one of a character. -/
theorem isValidChar_assemble (announces : announced lead = tail.length + 1)
    (second : ∀ byte ∈ tail.head?, maySecond lead byte = true)
    (later : ∀ byte ∈ tail.drop 1, mayContinue byte = true) :
    (assemble lead tail).isValidChar := by
  obtain ⟨rfl, low⟩ | ⟨s, rfl, low, high⟩ | ⟨s, t, rfl, low, high⟩ | ⟨s, t, u, rfl, low, high⟩ :=
    tail_cases announces
  · rw [assemble_nil, Nat.isValidChar]
    omega
  · have := maySecond_bounds (second s rfl)
    rw [assemble_one, Nat.isValidChar]
    omega
  · have := maySecond_bounds (second s rfl)
    have := mayContinue_bounds (later t (by simp))
    rw [assemble_two, Nat.isValidChar]
    omega
  · have := maySecond_bounds (second s rfl)
    have := mayContinue_bounds (later t (by simp))
    have := mayContinue_bounds (later u (by simp))
    rw [assemble_three, Nat.isValidChar]
    omega

theorem byte_of_toNat (byte : UInt8) (same : n = byte.toNat) : UInt8.ofNat n = byte := by
  rw [same, UInt8.ofNat_toNat]

/-- The bytes that spell a character are the bytes of that character. -/
theorem Spells.encodeChar_eq (spells : Spells c lead tail) : encodeChar c = lead :: tail := by
  have code := spells.code
  obtain ⟨rfl, low⟩ | ⟨s, rfl, low, high⟩ | ⟨s, t, rfl, low, high⟩ | ⟨s, t, u, rfl, low, high⟩ :=
    tail_cases spells.announces
  · rw [assemble_nil] at code
    rw [encodeChar, if_pos (by omega)]
    rw [byte_of_toNat lead code.symm]
  · have := maySecond_bounds (spells.second s rfl)
    rw [assemble_one] at code
    rw [encodeChar, if_neg (by omega), if_pos (by omega)]
    dsimp only
    rw [byte_of_toNat lead (by omega), byte_of_toNat s (by omega)]
  · have := maySecond_bounds (spells.second s rfl)
    have := mayContinue_bounds (spells.later t (by simp))
    rw [assemble_two] at code
    rw [encodeChar, if_neg (by omega), if_neg (by omega), if_pos (by omega)]
    dsimp only
    rw [byte_of_toNat lead (by omega), byte_of_toNat s (by omega),
      byte_of_toNat t (by omega)]
  · have := maySecond_bounds (spells.second s rfl)
    have := mayContinue_bounds (spells.later t (by simp))
    have := mayContinue_bounds (spells.later u (by simp))
    rw [assemble_three] at code
    rw [encodeChar, if_neg (by omega), if_neg (by omega), if_neg (by omega)]
    dsimp only
    rw [byte_of_toNat lead (by omega), byte_of_toNat s (by omega),
      byte_of_toNat t (by omega), byte_of_toNat u (by omega)]


/-- A character is read from the bytes that spell it. -/
theorem exists_spells_of_readSequence (read : readSequence lead rest = .character c) :
    ∃ tail more, rest = tail ++ more ∧ Spells c lead tail := by
  have spell (tail more : List UInt8) (bytes : rest = tail ++ more)
      (announces : announced lead = tail.length + 1)
      (second : ∀ byte ∈ tail.head?, maySecond lead byte = true)
      (later : ∀ byte ∈ tail.drop 1, mayContinue byte = true)
      (same : Char.ofNat (assemble lead tail) = c) :
      ∃ tail more, rest = tail ++ more ∧ Spells c lead tail :=
    ⟨tail, more, bytes, announces, second, later, by
      rw [← same, Char.ofNat, dif_pos (isValidChar_assemble announces second later)]
      rfl⟩
  unfold readSequence at read
  split at read
  · cases read
  · rename_i one
    exact spell [] rest rfl one (by simp) (by simp) (Reading.character.inj read)
  · rename_i size startless single
    split at read
    · cases read
    · rename_i second more
      split at read
      · rename_i allowed
        simp only at read
        split at read
        · rename_i whole
          -- No byte was dropped, for as many were kept as could be.
          rw [List.drop_one, List.tail_cons] at whole read
          generalize count : announced lead - 2 = owed at whole read
          have size : announced lead = owed + 2 := by
            have long : announced lead ≠ 0 ∧ announced lead ≠ 1 := ⟨startless, single⟩
            omega
          have kept : (more.take owed).takeWhile mayContinue = more.take owed := by
            refine (List.takeWhile_prefix mayContinue).eq_of_length_le ?_
            rw [List.length_cons] at whole
            have := List.length_take_le owed more
            omega
          have all : ∀ byte ∈ more.take owed, mayContinue byte = true := fun byte listed =>
            List.all_eq_true.mp List.all_takeWhile byte (kept.symm ▸ listed)
          rw [kept] at whole read
          refine spell (second :: more.take owed) (more.drop owed) ?_ ?_ ?_ all
            (Reading.character.inj read)
          · rw [List.cons_append, List.take_append_drop]
          · rw [whole, size]
            omega
          · intro byte first
            exact Option.some.inj first ▸ allowed
        · split at read <;> cases read
      · cases read

/-- What was read and what is pending make up the bytes, where none is refused. -/
theorem encode_readFrom (position : Nat) (bytes : List UInt8)
    (accepted : (readFrom position 0 bytes).error = none) :
    encode (readFrom position 0 bytes).text ++ (readFrom position 0 bytes).pending = bytes := by
  match bytes with
  | [] => rfl
  | lead :: rest =>
    rw [readFrom] at accepted ⊢
    cases read : readSequence lead rest with
    | incomplete => rfl
    | refused length fault => simp [read] at accepted
    | character c =>
      obtain ⟨tail, more, whole, spells⟩ := exists_spells_of_readSequence read
      have passed : readFrom (position + 1) (announced lead - 1) rest =
          readFrom (position + 1 + tail.length) 0 more := by
        rw [whole, spells.announces, Nat.add_sub_cancel, readFrom_skip]
      simp only [read, passed] at accepted ⊢
      have onward := encode_readFrom _ more accepted
      rw [encode_cons, spells.encodeChar_eq, List.append_assoc, onward, whole]
      rfl
termination_by bytes.length
decreasing_by
  rw [whole, List.length_cons, List.length_append]
  omega

/-- Exactly the bytes of a text decode to it. -/
theorem decode_eq_ok : decode bytes = .ok text ↔ bytes = encode text := by
  constructor
  · intro spelled
    simp only [decode] at spelled
    split at spelled
    · cases spelled
    · cases spelled
    · rename_i accepted whole
      obtain rfl := Except.ok.inj spelled
      cases pending : (readFrom 0 0 bytes).pending with
      | nil => simpa [pending] using (encode_readFrom 0 bytes accepted).symm
      | cons byte more => simp [pending, cutOff] at whole
  · rintro rfl
    exact decode_encode text

theorem length_readFrom_le (position skip : Nat) (bytes : List UInt8) :
    (readFrom position skip bytes).text.length ≤ bytes.length := by
  induction bytes generalizing position skip with
  | nil => simp [readFrom]
  | cons byte rest ih =>
    cases skip with
    | succ left =>
      have := ih (position + 1) left
      rw [readFrom, List.length_cons]
      omega
    | zero =>
      rw [readFrom]
      split
      · have := ih (position + 1) (announced byte - 1)
        simp only [List.length_cons]
        omega
      · simp
      · simp

/-- Every character takes at least one byte. -/
theorem length_le_of_decode (spelled : decode bytes = .ok text) :
    text.length ≤ bytes.length := by
  simp only [decode] at spelled
  split at spelled
  · cases spelled
  · cases spelled
  · obtain rfl := Except.ok.inj spelled
    exact length_readFrom_le 0 0 bytes

/-- Beyond ASCII all bytes of a character lie beyond ASCII. -/
theorem mem_encodeChar_ascii (member : byte ∈ encodeChar c) (ascii : byte.toNat < 0x80) :
    byte.toNat = c.toNat := by
  have bound : c.toNat < 0xD800 ∨ 0xDFFF < c.toNat ∧ c.toNat < 0x110000 := c.valid
  have outside (k : Nat) (low : 0x80 ≤ k) (high : k < 256) : byte ≠ UInt8.ofNat k := by
    intro same
    rw [same, toNat_byte high] at ascii
    omega
  simp only [encodeChar] at member
  split at member
  · obtain rfl := List.mem_singleton.mp member
    exact toNat_byte (by omega)
  split at member
  · simp only [List.mem_cons, List.not_mem_nil, or_false] at member
    rcases member with same | same <;> exact absurd same (outside _ (by omega) (by omega))
  split at member
  · simp only [List.mem_cons, List.not_mem_nil, or_false] at member
    rcases member with same | same | same <;> exact absurd same (outside _ (by omega) (by omega))
  · simp only [List.mem_cons, List.not_mem_nil, or_false] at member
    rcases member with same | same | same | same <;>
      exact absurd same (outside _ (by omega) (by omega))

theorem newline_notMem_encode (clean : '\n' ∉ text) : 0x0A ∉ encode text := by
  intro member
  obtain ⟨c, listed, here⟩ := List.mem_flatMap.mp member
  have same : (0x0A : UInt8).toNat = c.toNat := mem_encodeChar_ascii here (by decide)
  have newline : c = '\n' := Char.toNat_inj.mp same.symm
  exact clean (newline ▸ listed)

end SymbolIndex.Utf8
