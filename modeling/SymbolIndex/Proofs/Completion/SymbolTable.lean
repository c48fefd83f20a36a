import SymbolIndex.Completion.SymbolTable
import SymbolIndex.Proofs.FirstOccurrence
import SymbolIndex.Proofs.Host.Directory
import SymbolIndex.Proofs.Text.Blocks
import SymbolIndex.Proofs.Text.Rows

/-! A symbol table lists each of its names once, and is found again when it is written anew: names
have no blanks around them and no line endings inside, so each is a row of its own. -/
namespace SymbolIndex.Completion
variable {text written name : Text} {rows names : List Text} {host : Host} {path : Path}

/-- The names that the rows of a table list: each row that is neither blank nor a comment lists what
is left of it without the blanks around it, and no name is listed again. -/
structure ListsOnce (rows names : List Text) : Prop where
  distinct : names.Nodup
  ends : ∀ name ∈ names, ∀ c, name.head? = some c ∨ name.getLast? = some c → Text.isBlank c = false
  shown : ∀ name ∈ names, name ≠ [] ∧ name.head? ≠ some '#'
  listed : ∀ name, name ∈ names ↔ ∃ row ∈ rows, Text.allBlank row = false ∧
    (Text.strip row).head? ≠ some '#' ∧ Text.strip row = name
  ordered : names.Pairwise ((rows.map Text.strip).idxOf · < (rows.map Text.strip).idxOf ·)

theorem isSymbolLine_iff : isSymbolLine name = true ↔ name ≠ [] ∧ name.head? ≠ some '#' := by
  simp [isSymbolLine]

theorem symbolsOfTable_eq (cut : Text.Rows text rows) :
    symbolsOfTable text = (unique (rows.map Text.strip)).filter isSymbolLine := by
  rw [symbolsOfTable, cut.strip_lines]
  refine firstBy_filter id isSymbolLine _ fun name _ other _ same => ?_
  rw [show name = other from same]

theorem mem_symbolsOfTable (cut : Text.Rows text rows) : name ∈ symbolsOfTable text ↔
    ∃ row ∈ rows, isSymbolLine (Text.strip row) = true ∧ Text.strip row = name := by
  rw [symbolsOfTable_eq cut, List.mem_filter, mem_unique, List.mem_map]
  constructor
  · rintro ⟨⟨row, member, rfl⟩, shows⟩
    exact ⟨row, member, shows, rfl⟩
  · rintro ⟨row, member, shows, rfl⟩
    exact ⟨⟨row, member, rfl⟩, shows⟩

theorem listsOnce_symbolsOfTable (cut : Text.Rows text rows) :
    ListsOnce rows (symbolsOfTable text) where
  distinct := nodup_unique _
  ends name member c atEnd := by
    obtain ⟨row, _, _, rfl⟩ := (mem_symbolsOfTable cut).mp member
    exact atEnd.elim Text.head?_trim Text.getLast?_trim
  shown name member := by
    obtain ⟨row, _, shows, rfl⟩ := (mem_symbolsOfTable cut).mp member
    exact isSymbolLine_iff.mp shows
  listed name := by
    rw [mem_symbolsOfTable cut]
    refine exists_congr fun row => and_congr_right fun _ => ?_
    rw [isSymbolLine_iff, and_assoc, Ne, Text.strip, Text.trim_eq_nil_iff, Bool.not_eq_true,
      Text.allBlank]
  ordered := by
    rw [symbolsOfTable_eq cut]
    exact (unique_ordered (rows.map Text.strip)).filter isSymbolLine

namespace ListsOnce

theorem strip_eq (lists : ListsOnce rows names) (member : name ∈ names) : Text.strip name = name :=
  Text.trim_of_ends (fun c first => lists.ends name member c (Or.inl first)) fun c last =>
    lists.ends name member c (Or.inr last)

/-- Names that a table lists, taken as rows, make a table that lists them again. -/
theorem symbolsOfTable_eq (lists : ListsOnce rows names) (cut : Text.Rows written names) :
    symbolsOfTable written = names := by
  have stripped : names.map Text.strip = names :=
    (List.map_congr_left fun name member => lists.strip_eq member).trans (List.map_id names)
  rw [Completion.symbolsOfTable_eq cut, stripped, unique_of_nodup lists.distinct]
  exact List.filter_eq_self.mpr fun name member => isSymbolLine_iff.mpr (lists.shown name member)

/-- Written one in a row, the names are the rows. -/
theorem rows_ofRows (lists : ListsOnce rows names) (cut : Text.Rows text rows) :
    Text.Rows (Text.ofRows names) names := by
  have unbroken : ∀ name ∈ names, '\n' ∉ name ∧ '\r' ∉ name := by
    intro name member
    obtain ⟨row, there, _, _, rfl⟩ := (lists.listed name).mp member
    obtain ⟨noNewline, noReturn⟩ := cut.unbroken there
    exact ⟨fun newline => noNewline (Text.mem_of_mem_trim newline),
      fun carriageReturn => noReturn (Text.mem_of_mem_trim carriageReturn)⟩
  exact Text.rows_ofRows (fun name member => (unbroken name member).1)
    fun name member => (unbroken name member).2

end ListsOnce

theorem loadSymbolTable_encode (stored : host.readBytes path = .ok (Utf8.encode text)) :
    loadSymbolTable host path = .ok (symbolsOfTable text) := by
  simp [loadSymbolTable, stored, bind, Except.bind, Utf8.decodeBlocks_encode]

/-- A symbol table in UTF-8 loads as the names that its rows list, and these written one in a row load as
the same names. -/
theorem symbol_tables_reload (stored : host.readBytes path = .ok (Utf8.encode text)) :
    (∃ rows, Text.Rows text rows) ∧ ∃ names, loadSymbolTable host path = .ok names ∧
      (∀ rows, Text.Rows text rows → ListsOnce rows names) ∧
      Text.Rows (Text.ofRows names) names ∧
      ∀ (other : Host) (copy : Path) (written : Text), Text.Rows written names →
        other.readBytes copy = .ok (Utf8.encode written) → loadSymbolTable other copy = .ok names := by
  obtain ⟨rows, cut⟩ := Text.exists_rows text
  have lists := listsOnce_symbolsOfTable cut
  refine ⟨⟨rows, cut⟩, symbolsOfTable text, loadSymbolTable_encode stored,
    fun rows => listsOnce_symbolsOfTable, lists.rows_ofRows cut, ?_⟩
  intro other copy written again copied
  rw [loadSymbolTable_encode copied, lists.symbolsOfTable_eq again]

/-- A table whose comment is indented, whose lines end in all three ways, and which repeats a name;
beside it the names that it lists. -/
def tableHost : Host where
  tree := ⟨[(["table".toList], .file (Utf8.encode "  #A\r\n A \r\rB\u2028#\nA\n".toList)),
    (["copy".toList], .file (Utf8.encode "A\nB\u2028#\n".toList))]⟩
  cwd := ⟨['/'], []⟩
  home := ⟨['/'], []⟩
  temporary := ⟨['/'], []⟩

theorem symbol_tables_reload_endings :
    tableHost.readBytes ⟨['/'], ["table".toList]⟩ =
        .ok (Utf8.encode "  #A\r\n A \r\rB\u2028#\nA\n".toList) ∧
      loadSymbolTable tableHost ⟨['/'], ["table".toList]⟩ =
        .ok ["A".toList, "B\u2028#".toList] ∧
      loadSymbolTable tableHost ⟨['/'], ["copy".toList]⟩ =
        .ok ["A".toList, "B\u2028#".toList] := by
  have stored : tableHost.readBytes ⟨['/'], ["table".toList]⟩ =
      .ok (Utf8.encode "  #A\r\n A \r\rB\u2028#\nA\n".toList) :=
    (Host.at_top _).readBytes ⟨by decide, by decide⟩ (by decide) (by decide)
  have copied : tableHost.readBytes ⟨['/'], ["copy".toList]⟩ =
      .ok (Utf8.encode (Text.ofRows ["A".toList, "B\u2028#".toList])) :=
    (Host.at_top _).readBytes ⟨by decide, by decide⟩ (by decide) (by decide)
  obtain ⟨_, names, loads, _, written, reloads⟩ := symbol_tables_reload stored
  have listed : symbolsOfTable "  #A\r\n A \r\rB\u2028#\nA\n".toList =
      ["A".toList, "B\u2028#".toList] := by decide
  obtain rfl := Except.ok.inj ((loadSymbolTable_encode stored).symm.trans loads)
  rw [listed] at loads written reloads
  exact ⟨stored, loads, reloads _ _ _ written copied⟩

end SymbolIndex.Completion
