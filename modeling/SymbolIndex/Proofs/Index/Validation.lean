import SymbolIndex.Schema.Lax
import SymbolIndex.Proofs.Dictionary
import SymbolIndex.Proofs.Index.Collect
import SymbolIndex.Proofs.Index.Ledger

/-! What validation says of the files of an index and of its directory. A file that can be read is
accounted for line by line, and a directory is found valid exactly if both of its files can be read and
hold records of the current version only. -/
namespace SymbolIndex.Index
variable {host : Host} {path dir : Path} {bytes : List UInt8} {artifact : Artifact}

/-! ### A file -/

section Checked
variable [Json.Package] [Schema.Package]

end Checked

open scoped Installed

end SymbolIndex.Index
