import SymbolIndex.Path
import SymbolIndex.Text.Utf8
import SymbolIndex.Registry
import SymbolIndex.Schema.Fault
import SymbolIndex.Ignore.Package

/-! Everything that can go wrong while files are read, written and understood. -/
namespace SymbolIndex

inductive Refusal
  | denied | readOnly | noSpace
deriving DecidableEq

inductive OsFault
  | notFound | exists | notDirectory | isDirectory | nameTooLong | tooManyLinks
  | refused (refusal : Refusal)
deriving DecidableEq

def Refusal.text : Refusal → Text
  | .denied => "[Errno 13] Permission denied".toList
  | .readOnly => "[Errno 30] Read-only file system".toList
  | .noSpace => "[Errno 28] No space left on device".toList

def OsFault.text : OsFault → Text
  | .notFound => "[Errno 2] No such file or directory".toList
  | .exists => "[Errno 17] File exists".toList
  | .notDirectory => "[Errno 20] Not a directory".toList
  | .isDirectory => "[Errno 21] Is a directory".toList
  | .nameTooLong => "[Errno 36] File name too long".toList
  | .tooManyLinks => "[Errno 40] Too many levels of symbolic links".toList
  | .refused refusal => refusal.text

inductive ConfigFault
  | emptyOutputDir
  | absoluteOutputDir
  | escapingOutputDir (dir : Text)
  | invalidToml (path : Path)
  | invalidSettings (path : Path) (error : SchemaError)
  | unreadableTable (path : Path) (reason : Text)

def ConfigFault.message : ConfigFault → Text
  | .emptyOutputDir => "output_dir must be a non-empty relative path".toList
  | .absoluteOutputDir => "output_dir must be a relative path within the project root".toList
  | .escapingOutputDir dir => "output_dir '".toList ++ dir ++ "' escapes the project root".toList
  | .invalidToml path => "Invalid TOML in ".toList ++ path.text
  | .invalidSettings path error =>
    "Invalid config in ".toList ++ path.text ++ ": ".toList ++ error.message
  | .unreadableTable path reason =>
    "Cannot read builtins_file ".toList ++ path.text ++ ": ".toList ++ reason

/-- The ways in which work on files fails. A file may fill up half way, a record may have no
written form, and a settings file may be too much for the interpreter that reads it. -/
inductive Failure
  | os (fault : OsFault) (path : Path)
  | full
  | decode (error : Utf8Error)
  | unwritable (reason : Text)
  | longInteger (digits : Nat)
  | tooDeep
  | nullInPath (inspecting : Bool)
  | linkLoop (path : Path)
  | noHome
  | config (fault : ConfigFault)
  | registry (error : RegistryError)
  | noScan
  | ignoreRules (complaint : Ignore.Complaint)
  | artifactsMissing (path : Path)
  | artifactsNotDirectory (path : Path)

def Failure.message : Failure → Text
  | .os fault path => fault.text ++ ": ".toList ++ Text.quoted path.text
  | .full => Refusal.noSpace.text
  | .decode error => error.message
  | .unwritable reason => reason
  | .longInteger digits =>
    "Exceeds the limit (4300 digits) for integer string conversion: value has ".toList ++
      Text.ofNat digits ++ " digits; use sys.set_int_max_str_digits() to increase the limit".toList
  | .tooDeep => "maximum recursion depth exceeded".toList
  | .nullInPath true => "lstat: embedded null character in path".toList
  | .nullInPath false => "embedded null byte".toList
  | .linkLoop path => "Symlink loop from ".toList ++ Text.quoted path.text
  | .noHome => "Could not determine home directory.".toList
  | .config fault => fault.message
  | .registry error => error.message
  | .noScan => []
  | .ignoreRules complaint => complaint.message
  | .artifactsMissing path => "Artifacts directory does not exist: ".toList ++ path.text
  | .artifactsNotDirectory path => "Artifacts path is not a directory: ".toList ++ path.text

end SymbolIndex
