import SymbolIndex.Path
import SymbolIndex.Text.Utf8

/-! The reader of ignore files is a library of its own. Nothing is assumed of what it answers, nor
that it answers at all. -/
namespace SymbolIndex.Ignore

/-- What the reader refuses with: bytes that are no text, a faulty value, or anything else. -/
inductive Complaint
  | undecodable (error : Utf8Error)
  | value (reason : Text)
  | other (name reason : Text)

/-- Whether a complaint concerns a value, as bad bytes do too. -/
def Complaint.isValue : Complaint → Bool
  | .other _ _ => false
  | _ => true

def Complaint.message : Complaint → Text
  | .undecodable error => error.message
  | .value reason | .other _ reason => reason

/-- Whether a written path is ignored. -/
abbrev Test := Text → Except Complaint Bool

class Package where
  /-- The test that the bytes of an ignore file at a path amount to, in a current directory. -/
  matcher (cwd path : Path) (bytes : List UInt8) : Except Complaint Test

end SymbolIndex.Ignore
