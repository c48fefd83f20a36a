import SymbolIndex.Proofs.Index.Lines

/-! Validation accounts for every line of a file: a line is blank, or it is counted, or it is reported
for what is wrong with it. Each is settled after the lines before it, for only the first record of
another version is reported as such. -/
namespace SymbolIndex.Index
variable {artifact : Artifact} {line : List UInt8} {before lines : List (List UInt8)}
  {version other : Int} {reported : Bool}

/-! ### One line -/

/-- Whether nothing shows in a line. -/
def isBlankLine (line : List UInt8) : Bool := line.all isBlankByte

theorem stripBytes_isEmpty (line : List UInt8) : (stripBytes line).isEmpty = isBlankLine line := by
  have drops (bytes : List UInt8) : (bytes.dropWhile isBlankByte).isEmpty = isBlankLine bytes := by
    induction bytes with
    | nil => rfl
    | cons byte rest ih => cases shown : isBlankByte byte <;> simp_all [isBlankLine]
  rw [stripBytes, List.isEmpty_reverse, drops, isBlankLine, List.all_reverse, ← isBlankLine,
    ← drops line]
  cases rest : line.dropWhile isBlankByte with
  | nil => rfl
  | cons byte more =>
    have shown : isBlankByte byte = false := by
      have first := List.head?_dropWhile_not isBlankByte line
      simpa [rest] using first
    simp [isBlankLine, shown]

variable [Json.Package]

theorem lineValue?_eq (line : List UInt8) :
    lineValue? line = if isBlankLine line then none else Json.loads (stripBytes line) := by
  simp only [lineValue?, stripBytes_isEmpty]

theorem not_blank_of_read {value : Value} (read : lineValue? line = some value) :
    isBlankLine line = false := by
  refine Bool.eq_false_iff.mpr fun blank => ?_
  rw [lineValue?_eq, if_pos blank] at read
  cases read

variable [Schema.Package]

/-- The line is a document that satisfies the schema of the file, with this version. -/
def HoldsRecord (artifact : Artifact) (line : List UInt8) (version : Int) : Prop :=
  ∃ value, lineValue? line = some value ∧ artifact.readVersion value = .ok version

/-- A line with a record of a version that is not the current one. -/
def Mismatched (artifact : Artifact) (line : List UInt8) : Prop :=
  ∃ version, HoldsRecord artifact line version ∧ version ≠ schemaVersion

/-- What becomes of a line: what is reported of it, and whether it is counted. -/
structure Account where
  finding : Option Finding
  counted : Bool

/-- How a line is settled after the lines before it. A record of another version is counted, and it is
reported if it is the first of that kind. -/
inductive Settles (artifact : Artifact) (before : List (List UInt8)) (line : List UInt8) :
    Account → Prop
  | blank (blank : isBlankLine line = true) : Settles artifact before line ⟨none, false⟩
  | unread (shown : isBlankLine line = false) (unread : lineValue? line = none) :
    Settles artifact before line ⟨some .invalidJson, false⟩
  | refused {value : Value} {error : SchemaError} (read : lineValue? line = some value)
    (refused : artifact.readVersion value = .error error) :
    Settles artifact before line ⟨some (.schema error), false⟩
  | current (record : HoldsRecord artifact line schemaVersion) :
    Settles artifact before line ⟨none, true⟩
  | mismatch {version : Int} (record : HoldsRecord artifact line version)
    (other : version ≠ schemaVersion) (first : ∀ earlier ∈ before, ¬Mismatched artifact earlier) :
    Settles artifact before line ⟨some (.version version), true⟩
  | mismatchAgain (mismatched : Mismatched artifact line)
    (again : ∃ earlier ∈ before, Mismatched artifact earlier) : Settles artifact before line ⟨none, true⟩

section Reading

theorem readRecordLine_blank (blank : isBlankLine line = true) :
    readRecordLine artifact line = .blank := by
  simp [readRecordLine, stripBytes_isEmpty, blank]

theorem readRecordLine_unread (shown : isBlankLine line = false) (unread : lineValue? line = none) :
    readRecordLine artifact line = .invalidJson := by
  rw [lineValue?_eq, if_neg (by simp [shown])] at unread
  simp only [readRecordLine, stripBytes_isEmpty, shown, Bool.false_eq_true, if_false, unread]

theorem readRecordLine_read {value : Value} {result : Except SchemaError Int}
    (read : lineValue? line = some value) (versioned : artifact.readVersion value = result) :
    readRecordLine artifact line =
      match result with
      | .error error => .refused error
      | .ok version => .record version := by
  have shown := not_blank_of_read read
  rw [lineValue?_eq, if_neg (by simp [shown])] at read
  simp only [readRecordLine, stripBytes_isEmpty, shown, Bool.false_eq_true, if_false, read, versioned]
  cases result <;> rfl

theorem HoldsRecord.not_blank (record : HoldsRecord artifact line version) :
    isBlankLine line = false := not_blank_of_read record.choose_spec.1

theorem HoldsRecord.unique (one : HoldsRecord artifact line version)
    (two : HoldsRecord artifact line other) : version = other := by
  obtain ⟨value, read, versioned⟩ := one
  obtain ⟨value', read', versioned'⟩ := two
  cases read.symm.trans read'
  exact Except.ok.inj (versioned.symm.trans versioned')

theorem readRecordLine_eq_record :
    readRecordLine artifact line = .record version ↔ HoldsRecord artifact line version := by
  constructor
  · intro reads
    cases blank : isBlankLine line with
    | true =>
      rw [readRecordLine_blank blank] at reads
      cases reads
    | false =>
      cases read : lineValue? line with
      | none =>
        rw [readRecordLine_unread blank read] at reads
        cases reads
      | some value =>
        cases versioned : artifact.readVersion value with
        | error error =>
          rw [readRecordLine_read read versioned] at reads
          cases reads
        | ok found =>
          rw [readRecordLine_read read versioned] at reads
          exact ⟨value, read, versioned.trans (congrArg _ (LineOutcome.record.inj reads))⟩
  · rintro ⟨value, read, versioned⟩
    rw [readRecordLine_read read versioned]

/-- The account of a line by how it reads, and by whether a wrong version was reported before. -/
def LineOutcome.account (reported : Bool) : LineOutcome → Account
  | .blank => ⟨none, false⟩
  | .invalidJson => ⟨some .invalidJson, false⟩
  | .refused error => ⟨some (.schema error), false⟩
  | .record version =>
    if version ≠ schemaVersion && !reported then ⟨some (.version version), true⟩ else ⟨none, true⟩

/-- A line is settled in one way. -/
theorem settles_iff {account : Account}
    (flagged : reported = true ↔ ∃ earlier ∈ before, Mismatched artifact earlier) :
    Settles artifact before line account ↔
      account = (readRecordLine artifact line).account reported := by
  constructor
  · intro settles
    cases settles with
    | blank blank => rw [readRecordLine_blank blank]; rfl
    | unread shown unread => rw [readRecordLine_unread shown unread]; rfl
    | refused read refused => rw [readRecordLine_read read refused]; rfl
    | current record => rw [readRecordLine_eq_record.mpr record]; rfl
    | @mismatch version record other first =>
      have unreported : reported = false := Bool.eq_false_iff.mpr fun before =>
        have ⟨line, listed, mismatched⟩ := flagged.mp before
        first line listed mismatched
      simp [readRecordLine_eq_record.mpr record, LineOutcome.account, other, unreported]
    | mismatchAgain mismatched again =>
      obtain ⟨version, record, other⟩ := mismatched
      simp [readRecordLine_eq_record.mpr record, LineOutcome.account, flagged.mpr again]
  · rintro rfl
    cases blank : isBlankLine line with
    | true =>
      rw [readRecordLine_blank blank]
      exact .blank blank
    | false =>
      cases read : lineValue? line with
      | none =>
        rw [readRecordLine_unread blank read]
        exact .unread blank read
      | some value =>
        cases versioned : artifact.readVersion value with
        | error error =>
          rw [readRecordLine_read read versioned]
          exact .refused read versioned
        | ok version =>
          have record : HoldsRecord artifact line version := ⟨value, read, versioned⟩
          rw [readRecordLine_eq_record.mpr record, LineOutcome.account]
          by_cases current : version = schemaVersion
          · subst current
            exact .current record
          · cases reported with
            | false =>
              rw [if_pos (by simp [current])]
              refine .mismatch record current fun line listed mismatched => ?_
              exact absurd (flagged.mpr ⟨line, listed, mismatched⟩) Bool.false_ne_true
            | true =>
              rw [if_neg (by simp)]
              exact .mismatchAgain ⟨version, record, current⟩ (flagged.mp rfl)

end Reading

/-! ### The lines of a file -/

/-- Whether a line is reported and not counted: it is no document, or the schema refuses it. -/
def Account.isRejected (account : Account) : Bool :=
  match account.finding with
  | some .invalidJson | some (.schema _) => true
  | _ => false

/-- Whether a line is reported for its version. -/
def Account.isMismatch (account : Account) : Bool :=
  match account.finding with
  | some (.version _) => true
  | _ => false

/-- Each line in turn is settled after the lines before it. -/
inductive Ledger (artifact : Artifact) : (before lines : List (List UInt8)) → List Account → Prop
  | nil {before : List (List UInt8)} : Ledger artifact before [] []
  | cons {before rest : List (List UInt8)} {line : List UInt8} {account : Account}
    {later : List Account} (here : Settles artifact before line account)
    (onward : Ledger artifact (before ++ [line]) rest later) :
    Ledger artifact before (line :: rest) (account :: later)

section Lines
variable {ledger : List Account}

theorem Ledger.length_eq (settled : Ledger artifact before lines ledger) :
    ledger.length = lines.length := by
  induction settled with
  | nil => rfl
  | cons here onward ih => rw [List.length_cons, List.length_cons, ih]

theorem Ledger.unique {others : List Account} (one : Ledger artifact before lines ledger)
    (two : Ledger artifact before lines others) : others = ledger := by
  induction one generalizing others with
  | nil => cases two; rfl
  | @cons before _ _ _ _ here onward ih =>
    cases two with
    | cons here' onward' =>
      classical
      have flagged : decide (∃ earlier ∈ before, Mismatched artifact earlier) = true ↔
        ∃ earlier ∈ before, Mismatched artifact earlier := decide_eq_true_iff
      rw [(settles_iff flagged).mp here, (settles_iff flagged).mp here', ih onward']

/-- A blank line gives nothing, and any other is either counted or rejected. -/
theorem Settles.apart {account : Account} (settles : Settles artifact before line account) :
    if isBlankLine line then account = ⟨none, false⟩ else account.counted = !account.isRejected := by
  cases settles with
  | blank blank => rw [if_pos blank]
  | unread shown unread => rw [if_neg (by simp [shown])]; rfl
  | refused read refused => rw [if_neg (by simp [not_blank_of_read read])]; rfl
  | current record => rw [if_neg (by simp [record.not_blank])]; rfl
  | mismatch record other first => rw [if_neg (by simp [record.not_blank])]; rfl
  | mismatchAgain mismatched again =>
    obtain ⟨version, record, other⟩ := mismatched
    rw [if_neg (by simp [record.not_blank])]
    rfl

theorem Ledger.apart (settled : Ledger artifact before lines ledger) :
    List.Forall₂ (fun line account => if isBlankLine line then account = ⟨none, false⟩
      else account.counted = !account.isRejected) lines ledger := by
  induction settled with
  | nil => exact .nil
  | cons here onward ih => exact .cons here.apart ih

/-- After a line of another version, no version is reported. -/
theorem Ledger.unreported (settled : Ledger artifact before lines ledger)
    (mismatched : ∃ earlier ∈ before, Mismatched artifact earlier) :
    ledger.countP (·.isMismatch) = 0 := by
  induction settled with
  | nil => rfl
  | cons here onward ih =>
    obtain ⟨line, listed, other⟩ := mismatched
    rw [List.countP_cons, ih ⟨line, List.mem_append_left _ listed, other⟩]
    cases here with
    | mismatch record different first => exact absurd other (first line listed)
    | _ => rfl

/-- At most one line is reported for its version. -/
theorem Ledger.once (settled : Ledger artifact before lines ledger) :
    ledger.countP (·.isMismatch) ≤ 1 := by
  induction settled with
  | nil => exact Nat.zero_le 1
  | @cons before rest line account later here onward ih =>
    rw [List.countP_cons]
    cases here with
    | @mismatch version record other first =>
      rw [onward.unreported ⟨line, by simp, version, record, other⟩]
      exact Nat.le_refl 1
    | _ => exact ih

end Lines

end SymbolIndex.Index
