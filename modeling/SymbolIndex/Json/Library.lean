import SymbolIndex.Json.Narrow
import SymbolIndex.Json.Printer
import SymbolIndex.Text.Utf8

/-! The printer and the reader as one library. -/
namespace SymbolIndex.Installed
open Json

scoped instance jsonPackage : Json.Package where
  dumps layout value := .ok (render layout value)
  loads bytes :=
    match Utf8.decode bytes with
    | .ok text => readNarrow? text
    | .error _ => none

end SymbolIndex.Installed
