import SymbolIndex.Json.Printer
import SymbolIndex.Json.Token

/-! Scalars and marks as written are read back as the tokens they were. -/
namespace SymbolIndex.Json
variable {c : Char} {text rest source after : Text} {token : Token} {n : Nat}

theorem hexDigit?_hexChar (small : n < 16) : hexDigit? (hexChar n) = some n := by
  revert n
  decide

/-- An escape of a control character names that character. -/
theorem readEscape?_control (control : c.toNat < 0x20) (rest : Text) :
    readEscape? ('u' :: '0' :: '0' :: hexChar (c.toNat / 16) :: hexChar (c.toNat % 16) :: rest) =
      some (c, 5) := by
  have high : hexDigit? (hexChar (c.toNat / 16)) = some (c.toNat / 16) :=
    hexDigit?_hexChar (by omega)
  have low : hexDigit? (hexChar (c.toNat % 16)) = some (c.toNat % 16) :=
    hexDigit?_hexChar (by omega)
  have zero : hexDigit? '0' = some 0 := rfl
  have whole : c.toNat / 16 * 16 + c.toNat % 16 = c.toNat := by omega
  have first : isHighHalf c.toNat = false := by simp [isHighHalf]; omega
  have second : isLowHalf c.toNat = false := by simp [isLowHalf]; omega
  simp [readEscape?, readUnit?, hex4?, high, low, zero, whole, first, second, Char.ofNat_toNat]

/-- A character is read back from its written form. -/
theorem readString?_escapeChar (c : Char) (rest : Text) :
    readString? 0 (escapeChar c ++ rest) =
      (readString? 0 rest).map fun read => (c :: read.1, read.2) := by
  unfold escapeChar
  iterate 7
    split
    · rename_i same
      subst same
      rfl
  split
  · rename_i control
    simp [readString?, readEscape?_control control]
  · rename_i quote backslash _ _ _ _ _ control
    simp [readString?, quote, backslash, control]

theorem readString?_renderText (text rest : Text) :
    readString? 0 (text.flatMap escapeChar ++ '"' :: rest) = some (text, rest) := by
  induction text with
  | nil => rfl
  | cons c text ih =>
    rw [List.flatMap_cons, List.append_assoc, readString?_escapeChar, ih]
    rfl

theorem digitsValue_ofNat (n : Nat) : digitsValue (Text.ofNat n) = n :=
  Nat.ofDigitChars_ten_toDigits

theorem isDigit_of_mem_ofNat (member : c ∈ Text.ofNat n) : c.isDigit = true :=
  Nat.isDigit_of_mem_toDigits (by decide) (by decide) member

/-- Only the number zero is written with a leading zero. -/
theorem head?_ofNat (positive : 0 < n) : (Text.ofNat n).head? ≠ some '0' := by
  induction n using Nat.strongRecOn with
  | ind n ih =>
    by_cases small : n < 10
    · have digit : ∀ n < 10, 0 < n → [Nat.digitChar n].head? ≠ some '0' := by decide
      rw [Text.ofNat, Nat.toDigits_of_lt_base small]
      exact digit n small positive
    · have shorter : 0 < n / 10 := by omega
      have digits : Text.ofNat n = Text.ofNat (n / 10) ++ [Nat.digitChar (n % 10)] :=
        Nat.toDigits_of_base_le (by decide) (by omega)
      rw [digits, List.head?_append]
      cases first : (Text.ofNat (n / 10)).head? with
      | none => exact absurd (List.head?_eq_none_iff.mp first) Nat.toDigits_ne_nil
      | some c => exact fun same => ih (n / 10) (by omega) shorter (first.trans same)

/-- Nothing follows that could go on with a number or a word. -/
def Closed (rest : Text) : Prop := ∀ c ∈ rest.head?, c = ',' ∨ c = ']' ∨ c = '}'

theorem Closed.notDigit (closed : Closed rest) : ∀ c ∈ rest.head?, c.isDigit = false := by
  intro c first
  rcases closed c first with rfl | rfl | rfl <;> rfl

theorem Closed.readFraction? (closed : Closed rest) : readFraction? rest = some ([], rest) := by
  unfold Json.readFraction?
  split
  · rcases closed '.' rfl with same | same | same <;> cases same
  · rfl

theorem Closed.readExponent? (closed : Closed rest) : readExponent? rest = some (none, rest) := by
  unfold Json.readExponent?
  split
  · rename_i c after
    rcases closed c rfl with rfl | rfl | rfl <;> rfl
  · rfl

theorem takeWhile_digits (closed : Closed rest) :
    (Text.ofNat n ++ rest).takeWhile Char.isDigit = Text.ofNat n := by
  have stops : rest.takeWhile Char.isDigit = [] := by
    cases rest with
    | nil => rfl
    | cons c rest => exact List.takeWhile_cons_of_neg (by simp [closed.notDigit c rfl])
  rw [List.takeWhile_append_of_pos fun c => isDigit_of_mem_ofNat, stops, List.append_nil]

theorem ofNat_standsAlone (n : Nat) :
    ((Text.ofNat n).isEmpty || ((Text.ofNat n).head? = some '0' && 1 < (Text.ofNat n).length)) =
      false := by
  have nonempty : (Text.ofNat n).isEmpty = false := by
    rw [List.isEmpty_eq_false_iff]
    exact Nat.toDigits_ne_nil
  rcases Nat.eq_zero_or_pos n with rfl | positive
  · rfl
  · simp [nonempty, head?_ofNat positive]

theorem ofNat_append_ne_minus (n : Nat) (rest after : Text) : Text.ofNat n ++ rest ≠ '-' :: after := by
  intro same
  obtain ⟨d, ds, written⟩ := List.exists_cons_of_ne_nil (Nat.toDigits_ne_nil (b := 10) (n := n))
  have digit : d.isDigit = true := isDigit_of_mem_ofNat (n := n) (by simp [Text.ofNat, written])
  rw [Text.ofNat, written] at same
  obtain ⟨rfl, _⟩ := List.cons.inj same
  cases digit

/-- A written integer is read back, whatever closes it. -/
theorem readNumber?_ofInt (closed : Closed rest) (n : Int) :
    readNumber? (Text.ofInt n ++ rest) = some (.integer n, rest) := by
  unfold readNumber?
  split
  rename_i negative unsigned signed
  have parts : unsigned = Text.ofNat n.natAbs ++ rest ∧
      (if negative then -(n.natAbs : Int) else n.natAbs) = n := by
    cases n with
    | ofNat n =>
      split at signed
      · exact absurd ‹_› (ofNat_append_ne_minus n rest _)
      · obtain ⟨rfl, rfl⟩ := Prod.mk.inj signed
        exact ⟨rfl, rfl⟩
    | negSucc n =>
      obtain ⟨rfl, rfl⟩ := Prod.mk.inj signed
      exact ⟨rfl, rfl⟩
  obtain ⟨rfl, value⟩ := parts
  simp only [takeWhile_digits closed, ofNat_standsAlone, List.drop_left, closed.readFraction?,
    digitsValue_ofNat, value]
  simp [closed.readExponent?]

theorem exists_cons_ofInt (n : Int) :
    ∃ c tail, Text.ofInt n = c :: tail ∧ (c = '-' ∨ c.isDigit = true) := by
  cases n with
  | ofNat n =>
    obtain ⟨d, ds, written⟩ := List.exists_cons_of_ne_nil (Nat.toDigits_ne_nil (b := 10) (n := n))
    exact ⟨d, ds, written, Or.inr (isDigit_of_mem_ofNat (n := n) (by simp [Text.ofNat, written]))⟩
  | negSucc n => exact ⟨'-', _, rfl, Or.inl rfl⟩

/-- No blank stands in front of the token. -/
theorem tokens?_eq (open_ : ∀ c ∈ source.head?, isSpace c = false)
    (reads : readToken? source = some (token, rest)) (shorter : rest.length < source.length) :
    tokens? source = (tokens? rest).map (token :: ·) := by
  have begun : source.dropWhile isSpace = source := by
    cases source with
    | nil => rfl
    | cons c source => exact List.dropWhile_cons_of_neg (by simp [open_ c rfl])
  rw [tokens?, begun]
  cases source with
  | nil => simp at shorter
  | cons c source =>
    simp only [reads]
    rw [if_pos shorter]

theorem tokens?_mark (visible : isSpace c = false)
    (reads : readToken? (c :: rest) = some (token, rest)) :
    tokens? (c :: rest) = (tokens? rest).map (token :: ·) := by
  refine tokens?_eq (fun d first => ?_) reads (by simp)
  obtain rfl : c = d := Option.some.inj first
  exact visible

theorem tokens?_renderText (text rest : Text) :
    tokens? (renderText text ++ rest) = (tokens? rest).map (.scalar (.text text) :: ·) := by
  have written : renderText text ++ rest = '"' :: (text.flatMap escapeChar ++ '"' :: rest) := by
    simp [renderText]
  rw [written]
  refine tokens?_eq (fun d first => ?_) ?_ (by simp; omega)
  · obtain rfl : '"' = d := Option.some.inj first
    rfl
  · rw [readToken?, readString?_renderText]
    rfl

/-- What starts a number starts nothing else. -/
theorem readToken?_number (number : (c = '-' || c.isDigit) = true) :
    readToken? (c :: rest) =
      (readNumber? (c :: rest)).map fun read => (.scalar read.1, read.2) := by
  unfold readToken?
  split
  case h_1 same => cases same
  all_goals
    rename_i same
    obtain ⟨rfl, rfl⟩ := List.cons.inj same
    first
      | exact absurd number (by decide)
      | rw [if_pos number]

theorem isSpace_number (number : (c = '-' || c.isDigit) = true) : isSpace c = false := by
  have other (d : Char) (space : (d = '-' || d.isDigit) = false) : c ≠ d := by
    rintro rfl
    exact Bool.false_ne_true (space.symm.trans number)
  simp [isSpace, other ' ' (by decide), other '\t' (by decide), other '\n' (by decide),
    other '\r' (by decide)]

theorem tokens?_ofInt (closed : Closed rest) (n : Int) :
    tokens? (Text.ofInt n ++ rest) = (tokens? rest).map (.scalar (.integer n) :: ·) := by
  have reads := readNumber?_ofInt closed n
  obtain ⟨c, tail, written, starts⟩ := exists_cons_ofInt n
  have number : (c = '-' || c.isDigit) = true := by simpa using starts
  rw [written, List.cons_append] at reads ⊢
  refine tokens?_eq (fun d first => ?_) ?_ (by simp only [List.length_cons, List.length_append]; omega)
  · obtain rfl : c = d := Option.some.inj first
    exact isSpace_number number
  · rw [readToken?_number number, reads]
    rfl

end SymbolIndex.Json
