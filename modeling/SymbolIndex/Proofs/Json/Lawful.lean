import SymbolIndex.Json.Library
import SymbolIndex.Proofs.Json.RoundTrip
import SymbolIndex.Proofs.Text.Utf8

/-! What is assumed of a JSON library: the compact form of a table is a line in braces, and plain
values are read back from it. That a value has a written form at all is not assumed. -/
namespace SymbolIndex
namespace Json

class Lawful [Package] : Prop where
  newline_notMem {value : Value} {text : Text} (plain : value.Plain maxDepth)
    (written : dumps .compact value = .ok text) : '\n' ∉ text
  braces {entries : List (Text × Value)} {text : Text}
    (written : dumps .compact (.table entries) = .ok text) : ∃ body, text = '{' :: (body ++ ['}'])
  loads_dumps {value : Value} {text : Text} (plain : value.Plain maxDepth)
    (written : dumps .compact value = .ok text) :
    loads (Utf8.encode text) = some (canonical value)

end Json

namespace Installed
open Json

scoped instance jsonLawful : Json.Lawful where
  newline_notMem := by
    rintro value _ plain ⟨⟩
    exact newline_notMem_renderAt plain 0
  braces := by
    rintro entries _ ⟨⟩
    rw [render, renderAt, enclose_compact]
    exact ⟨_, rfl⟩
  loads_dumps := by
    rintro value _ plain ⟨⟩
    simp only [loads, Utf8.decode_encode]
    exact readNarrow?_render plain

end Installed
end SymbolIndex
