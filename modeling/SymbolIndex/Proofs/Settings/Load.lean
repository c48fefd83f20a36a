import SymbolIndex.Schema.Lax
import SymbolIndex.Settings.Load
import SymbolIndex.Proofs.Host.Directory
import SymbolIndex.Proofs.Text.Utf8

/-! Loading the settings of a project. A settings file that can be read gives settings or a fault of
the settings exactly if its bytes are those of a text that is neither nested too deep nor has an integer
that is too long; other failures are not reported as faults of the settings. -/
namespace SymbolIndex.Settings
variable {host : Host} {root path : Path} {bytes : List UInt8} {platform : Platform}

section Loading
variable [Schema.Package]

/-- What the bytes of a settings file amount to. -/
inductive Amounts (platform : Platform) (path : Path) (bytes : List UInt8) : Except Failure Settings → Prop
  | settings {text : Text} {value : Value} {settings : Settings} (spelled : bytes = Utf8.encode text)
    (shallow : platform.overflows text = false) (read : Toml.read text = .ok value)
    (valid : Settings.ofValue value = .ok settings) : Amounts platform path bytes (.ok settings)
  | noToml {text : Text} (spelled : bytes = Utf8.encode text)
    (shallow : platform.overflows text = false) (unread : Toml.read text = .error .malformed) :
    Amounts platform path bytes (.error (.config (.invalidToml path)))
  | refused {text : Text} {value : Value} {error : SchemaError} (spelled : bytes = Utf8.encode text)
    (shallow : platform.overflows text = false) (read : Toml.read text = .ok value)
    (refused : Settings.ofValue value = .error error) :
    Amounts platform path bytes (.error (.config (.invalidSettings path error)))
  | noText {error : Utf8Error} (unspelled : ∀ text, bytes ≠ Utf8.encode text)
    (found : Utf8.decode bytes = .error error) : Amounts platform path bytes (.error (.decode error))
  | tooDeep {text : Text} (spelled : bytes = Utf8.encode text)
    (deep : platform.overflows text = true) : Amounts platform path bytes (.error .tooDeep)
  | longInteger {text : Text} {digits : Nat} (spelled : bytes = Utf8.encode text)
    (shallow : platform.overflows text = false) (long : Toml.read text = .error (.longInteger digits)) :
    Amounts platform path bytes (.error (.longInteger digits))

/-- A text within the limits of the interpreter that reads settings. -/
def Within (platform : Platform) (text : Text) : Prop :=
  platform.overflows text = false ∧ ∀ digits, Toml.read text ≠ .error (.longInteger digits)

/-- A file that can be read is what the settings are loaded from. -/
theorem load_of_readBytes (read : host.readBytes (root.child fileName) = .ok bytes) :
    load host root = ofBytes host.platform (root.child fileName) bytes := by
  have probed : host.probe (root.child fileName) = .ok () := by
    obtain ⟨usable, location, reached⟩ := Host.readBytes_eq_ok read
    rw [Host.probe, if_pos usable, reached]
  have file : host.isFile (root.child fileName) = true := Host.isFile_iff.mpr ⟨bytes, read⟩
  simp only [load, probed, file, read]
  rfl

theorem ofBytes_amounts (platform : Platform) (path : Path) (bytes : List UInt8) :
    Amounts platform path bytes (ofBytes platform path bytes) := by
  unfold ofBytes
  cases decoded : Utf8.decode bytes with
  | error error =>
    refine .noText (fun text spelled => ?_) decoded
    rw [Utf8.decode_eq_ok.mpr spelled] at decoded
    cases decoded
  | ok text =>
    have spelled := Utf8.decode_eq_ok.mp decoded
    cases depth : platform.overflows text with
    | true =>
      simp only [depth, if_true]
      exact .tooDeep spelled depth
    | false =>
      simp only [depth, Bool.false_eq_true, if_false]
      cases document : Toml.read text with
      | error fault =>
        cases fault with
        | malformed => exact .noToml spelled depth document
        | longInteger digits => exact .longInteger spelled depth document
      | ok value =>
        dsimp only
        cases checked : Settings.ofValue value with
        | ok settings => exact .settings spelled depth document checked
        | error error => exact .refused spelled depth document checked

/-- Bytes of a text within the limits fail only as settings, others never do. -/
theorem Amounts.config_iff {result : Except Failure Settings}
    (amounts : Amounts platform path bytes result) :
    (∀ failure, result = .error failure → ∃ fault, failure = .config fault) ↔
      ∃ text, bytes = Utf8.encode text ∧ Within platform text := by
  have same {text text' : Text} (spelled : bytes = Utf8.encode text) (other : bytes = Utf8.encode text') :
      text' = text := by
    have decoded := Utf8.decode_eq_ok.mpr spelled
    rw [Utf8.decode_eq_ok.mpr other] at decoded
    exact Except.ok.inj decoded
  cases amounts with
  | @settings text value settings spelled shallow read valid =>
    exact iff_of_true nofun ⟨text, spelled, shallow, by simp [read]⟩
  | @noToml text spelled shallow unread =>
    exact iff_of_true (fun _ failed => ⟨_, (Except.error.inj failed).symm⟩)
      ⟨text, spelled, shallow, by simp [unread]⟩
  | @refused text value error spelled shallow read refused =>
    exact iff_of_true (fun _ failed => ⟨_, (Except.error.inj failed).symm⟩)
      ⟨text, spelled, shallow, by simp [read]⟩
  | @noText error unspelled found =>
    refine iff_of_false (fun only => ?_) fun ⟨text, spelled, _⟩ => unspelled text spelled
    obtain ⟨fault, same⟩ := only _ rfl
    cases same
  | @tooDeep text spelled deep =>
    refine iff_of_false (fun only => ?_) fun ⟨text', other, shallow, _⟩ => ?_
    · obtain ⟨fault, same⟩ := only _ rfl
      cases same
    · obtain rfl := same spelled other
      cases deep.symm.trans shallow
  | @longInteger text digits spelled shallow long =>
    refine iff_of_false (fun only => ?_) fun ⟨text', other, _, short⟩ => ?_
    · obtain ⟨fault, same⟩ := only _ rfl
      cases same
    · obtain rfl := same spelled other
      exact short digits long

/-- A settings file that can be read gives settings, or fails as settings, exactly if its bytes are
those of a text within the limits; otherwise another failure comes through. -/
theorem load_config_iff (read : host.readBytes (root.child fileName) = .ok bytes) :
    ((∀ failure, load host root = .error failure → ∃ fault, failure = .config fault) ↔
      ∃ text, bytes = Utf8.encode text ∧ Within host.platform text) ∧
    Amounts host.platform (root.child fileName) bytes (load host root) := by
  rw [load_of_readBytes read]
  exact ⟨(ofBytes_amounts _ _ _).config_iff, ofBytes_amounts _ _ _⟩

end Loading

open scoped Installed

/-- A project whose settings file is one byte that starts no character. -/
def wordlessHost : Host where
  tree := ⟨[(["symlex.toml".toList], .file [0xFF])]⟩
  cwd := ⟨['/'], []⟩
  home := ⟨['/'], []⟩
  temporary := ⟨['/'], []⟩

theorem load_config_iff_wordless :
    wordlessHost.readBytes (Path.child ⟨['/'], []⟩ fileName) = .ok [0xFF] ∧
      ¬∀ failure, load wordlessHost ⟨['/'], []⟩ = .error failure → ∃ fault, failure = .config fault := by
  have read : wordlessHost.readBytes (Path.child ⟨['/'], []⟩ fileName) = .ok [0xFF] :=
    (Host.at_top _).readBytes ⟨by decide, by decide⟩ (by decide) (by decide)
  refine ⟨read, fun only => ?_⟩
  obtain ⟨text, spelled, _⟩ := (load_config_iff read).1.mp only
  have decoded := Utf8.decode_eq_ok.mpr spelled
  have refused : Utf8.decode [0xFF] = .error ⟨0, 1, 0xFF, .startByte⟩ := by decide
  cases refused.symm.trans decoded

end SymbolIndex.Settings
