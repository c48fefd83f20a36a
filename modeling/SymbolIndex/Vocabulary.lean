import SymbolIndex.Text.Order
import SymbolIndex.FirstOccurrence

/-! The words the extracted language gives a meaning of its own, the names it predefines, and the
members of its literal shapes. -/
namespace SymbolIndex.Vocabulary

/-- Keywords that extraction reports, in the order of their position records. -/
def keywords : List Text :=
  ["and", "as", "assert", "async", "await", "break", "class", "continue", "def", "del", "elif",
   "else", "except", "False", "finally", "for", "from", "global", "if", "import", "in", "is",
   "lambda", "None", "nonlocal", "not", "or", "pass", "raise", "return", "True", "try", "while",
   "with", "yield"].map String.toList

/-- All keywords of the language, with those that are keywords in some places only. -/
def languageKeywords : List Text :=
  ["False", "None", "True", "and", "as", "assert", "async", "await", "break", "class",
   "continue", "def", "del", "elif", "else", "except", "finally", "for", "from", "global", "if",
   "import", "in", "is", "lambda", "nonlocal", "not", "or", "pass", "raise", "return", "try",
   "while", "with", "yield", "_", "case", "match"].map String.toList

def predefinedNames : List Text :=
  ["abs", "aiter", "all", "anext", "any", "ArithmeticError", "ascii", "AssertionError",
   "AttributeError", "BaseException", "BaseExceptionGroup", "bin", "BlockingIOError", "bool",
   "breakpoint", "BrokenPipeError", "BufferError", "bytearray", "bytes", "BytesWarning",
   "callable", "ChildProcessError", "chr", "classmethod", "compile", "complex",
   "ConnectionAbortedError", "ConnectionError", "ConnectionRefusedError", "ConnectionResetError",
   "copyright", "credits", "delattr", "DeprecationWarning", "dict", "dir", "divmod", "Ellipsis",
   "EncodingWarning", "enumerate", "EnvironmentError", "EOFError", "eval", "Exception",
   "ExceptionGroup", "exec", "exit", "False", "FileExistsError", "FileNotFoundError", "filter",
   "float", "FloatingPointError", "format", "frozenset", "FutureWarning", "GeneratorExit",
   "getattr", "globals", "hasattr", "hash", "help", "hex", "id", "ImportError", "ImportWarning",
   "IndentationError", "IndexError", "input", "int", "InterruptedError", "IOError",
   "IsADirectoryError", "isinstance", "issubclass", "iter", "KeyboardInterrupt", "KeyError",
   "len", "license", "list", "locals", "LookupError", "map", "max", "MemoryError", "memoryview",
   "min", "ModuleNotFoundError", "NameError", "next", "None", "NotADirectoryError",
   "NotImplemented", "NotImplementedError", "object", "oct", "open", "ord", "OSError",
   "OverflowError", "PendingDeprecationWarning", "PermissionError", "pow", "print",
   "ProcessLookupError", "property", "quit", "range", "RecursionError", "ReferenceError", "repr",
   "ResourceWarning", "reversed", "round", "RuntimeError", "RuntimeWarning", "set", "setattr",
   "slice", "sorted", "staticmethod", "StopAsyncIteration", "StopIteration", "str", "sum",
   "super", "SyntaxError", "SyntaxWarning", "SystemError", "SystemExit", "TabError",
   "TimeoutError", "True", "tuple", "type", "TypeError", "UnboundLocalError",
   "UnicodeDecodeError", "UnicodeEncodeError", "UnicodeError", "UnicodeTranslateError",
   "UnicodeWarning", "UserWarning", "ValueError", "vars", "Warning", "ZeroDivisionError", "zip"].map String.toList

/-- Keywords and predefined names, the symbols offered when no table is configured. -/
def builtinSymbols : List Text := Text.sortFolded (unique (languageKeywords ++ predefinedNames))

def initialiser : Text := "__init__".toList

def isPrivate (name : Text) : Bool := name.head? = some '_'

/-- Names offered to users: all but private ones, and the initialiser. -/
def isOffered (name : Text) : Bool := !isPrivate name || name = initialiser

def stringMembers : List Text :=
  ["upper", "lower", "strip", "split", "join", "replace", "find"].map String.toList

def listMembers : List Text :=
  ["append", "extend", "insert", "remove", "pop", "clear", "sort", "count"].map String.toList

def dictMembers : List Text :=
  ["keys", "values", "items", "get", "update", "pop", "clear"].map String.toList

/-- Members of an expression that looks like a string, list or dict, or names one of the types. -/
def shapeMembers (expression : Text) : List Text :=
  if expression = "str".toList || expression.head?.any (fun c => c = '\'' || c = '"') then
    stringMembers
  else if expression = "list".toList || expression.getLast? = some ']' then listMembers
  else if expression = "dict".toList || expression.getLast? = some '}' then dictMembers
  else []

end SymbolIndex.Vocabulary
