import SymbolIndex.Proofs.Json.Token

/-! The compact form of a value is read as the tokens of the value, its tables in the order of
their keys. -/
namespace SymbolIndex

/-- Values that documents keep as they are: integers of 64 bits, no decimals, each key of a table
once, and lists and tables nested no deeper than `depth`. -/
inductive Value.Plain : (depth : Nat) → Value → Prop
  | null {depth : Nat} : Plain depth .null
  | boolean {depth : Nat} (b : Bool) : Plain depth (.boolean b)
  | integer {depth : Nat} {n : Int} (low : -Nat.pow 2 63 ≤ n) (high : n < Nat.pow 2 64) :
      Plain depth (.integer n)
  | text {depth : Nat} (s : Text) : Plain depth (.text s)
  | list {depth : Nat} {items : List Value} (each : ∀ value ∈ items, Plain depth value) :
      Plain (depth + 1) (.list items)
  | table {depth : Nat} {entries : List (Text × Value)}
      (distinct : (entries.map Prod.fst).Nodup) (each : ∀ entry ∈ entries, Plain depth entry.2) :
      Plain (depth + 1) (.table entries)

namespace Json
variable {α β : Type} {depth level : Nat} {value : Value} {rest : Text}

theorem map_sortEntries (f : α → β) (entries : List (Text × α)) :
    (sortEntries entries).map (fun entry => (entry.1, f entry.2)) =
      sortEntries (entries.map fun entry => (entry.1, f entry.2)) :=
  List.map_mergeSort fun _ _ _ _ => rfl

theorem mem_sortEntries {entry : Text × α} {entries : List (Text × α)} :
    entry ∈ sortEntries entries ↔ entry ∈ entries := List.mem_mergeSort

theorem sortEntries_perm (entries : List (Text × α)) : (sortEntries entries).Perm entries :=
  List.mergeSort_perm _ _

mutual

/-- A value with all its tables in the order of their keys. -/
def canonical : Value → Value
  | .list items => .list (canonicalItems items)
  | .table entries => .table (sortEntries (canonicalEntries entries))
  | value => value

def canonicalItems : List Value → List Value
  | [] => []
  | value :: rest => canonical value :: canonicalItems rest

def canonicalEntries : List (Text × Value) → List (Text × Value)
  | [] => []
  | (key, value) :: rest => (key, canonical value) :: canonicalEntries rest

end

theorem canonicalItems_eq (items : List Value) : canonicalItems items = items.map canonical := by
  induction items with
  | nil => rfl
  | cons value rest ih => rw [canonicalItems, ih, List.map_cons]

theorem canonicalEntries_eq (entries : List (Text × Value)) :
    canonicalEntries entries = entries.map fun entry => (entry.1, canonical entry.2) := by
  induction entries with
  | nil => rfl
  | cons entry rest ih => rw [canonicalEntries, ih, List.map_cons]

/-- Runs of tokens with a comma between neighbours. -/
def separated : List (List Token) → List Token
  | [] => []
  | run :: more => run ++ more.flatMap (.comma :: ·)

mutual

/-- The tokens that write a value, keys in the order of the entries. -/
def tokensOf : Value → List Token
  | .list items => .openList :: (separated (itemTokens items) ++ [.closeList])
  | .table entries => .openTable :: (separated (entryTokens entries) ++ [.closeTable])
  | value => [.scalar value]

def itemTokens : List Value → List (List Token)
  | [] => []
  | value :: rest => tokensOf value :: itemTokens rest

def entryTokens : List (Text × Value) → List (List Token)
  | [] => []
  | (key, value) :: rest => (.scalar (.text key) :: .colon :: tokensOf value) :: entryTokens rest

end

theorem itemTokens_eq (items : List Value) : itemTokens items = items.map tokensOf := by
  induction items with
  | nil => rfl
  | cons value rest ih => rw [itemTokens, ih, List.map_cons]

theorem entryTokens_eq (entries : List (Text × Value)) :
    entryTokens entries =
      entries.map fun entry => .scalar (.text entry.1) :: .colon :: tokensOf entry.2 := by
  induction entries with
  | nil => rfl
  | cons entry rest ih => rw [entryTokens, ih, List.map_cons]

theorem renderItems_eq (layout : Layout) (level : Nat) (items : List Value) :
    renderItems layout level items = items.map (renderAt layout level) := by
  induction items with
  | nil => rfl
  | cons value rest ih => rw [renderItems, ih, List.map_cons]

theorem renderEntries_eq (layout : Layout) (level : Nat) (entries : List (Text × Value)) :
    renderEntries layout level entries =
      entries.map fun entry => (entry.1, renderAt layout level entry.2) := by
  induction entries with
  | nil => rfl
  | cons entry rest ih => rw [renderEntries, ih, List.map_cons]

/-- Members in compact form stand between the brackets with commas alone. -/
theorem enclose_compact (level : Nat) (opening closing : Char) (members : List Text) :
    enclose .compact level opening closing members =
      opening :: (Text.join [','] members ++ [closing]) := by
  cases members with
  | nil => rfl
  | cons member more => simp [enclose, Layout.lineBreak]

theorem join_comma (member : Text) (more : List Text) :
    Text.join [','] (member :: more) = member ++ more.flatMap (',' :: ·) := by
  induction more generalizing member with
  | nil => simp [Text.join]
  | cons next more ih => simp [Text.join, ih]

section Members
variable {members : List α} {written : α → Text} {run : α → List Token} {c : Char}

theorem closed_members (close : c = ']' ∨ c = '}') (members : List Text) (rest : Text) :
    Closed (members.flatMap (',' :: ·) ++ c :: rest) := by
  intro d first
  cases members with
  | nil =>
    obtain rfl : c = d := Option.some.inj first
    exact Or.inr close
  | cons member more =>
    obtain rfl : ',' = d := Option.some.inj first
    exact Or.inl rfl

theorem tokens?_later (close : c = ']' ∨ c = '}')
    (each : ∀ member ∈ members, ∀ rest, Closed rest →
      tokens? (written member ++ rest) = (tokens? rest).map (run member ++ ·)) :
    tokens? ((members.map written).flatMap (',' :: ·) ++ c :: rest) =
      (tokens? (c :: rest)).map ((members.map run).flatMap (.comma :: ·) ++ ·) := by
  induction members with
  | nil => simp
  | cons member more ih =>
    have later := ih fun other listed => each other (List.mem_cons_of_mem member listed)
    have closed := closed_members close (more.map written) rest
    have mark (text : Text) : tokens? (',' :: text) = (tokens? text).map (.comma :: ·) :=
      tokens?_mark rfl rfl
    simp only [List.map_cons, List.flatMap_cons, List.cons_append, List.append_assoc]
    rw [mark, each member List.mem_cons_self _ closed, later]
    simp [Function.comp_def]

/-- Members read one by one are read as a row. -/
theorem tokens?_join (members : List α) (written : α → Text) (run : α → List Token)
    (close : c = ']' ∨ c = '}') (rest : Text)
    (each : ∀ member ∈ members, ∀ rest, Closed rest →
      tokens? (written member ++ rest) = (tokens? rest).map (run member ++ ·)) :
    tokens? (Text.join [','] (members.map written) ++ c :: rest) =
      (tokens? (c :: rest)).map (separated (members.map run) ++ ·) := by
  cases members with
  | nil => simp [Text.join, separated]
  | cons member more =>
    have closed := closed_members close (more.map written) rest
    rw [List.map_cons, join_comma, List.append_assoc, each member List.mem_cons_self _ closed,
      tokens?_later close fun other listed => each other (List.mem_cons_of_mem member listed)]
    simp [separated, Function.comp_def]

end Members

theorem tokens?_entry (key : Text)
    (reads : tokens? (renderAt .compact level value ++ rest) =
      (tokens? rest).map (tokensOf (canonical value) ++ ·)) :
    tokens? ((renderText key ++ Layout.compact.keyMark ++ renderAt .compact level value) ++ rest) =
      (tokens? rest).map
        ((.scalar (.text key) :: .colon :: tokensOf (canonical value)) ++ ·) := by
  have mark (text : Text) : tokens? (':' :: text) = (tokens? text).map (.colon :: ·) :=
    tokens?_mark rfl rfl
  rw [List.append_assoc, List.append_assoc, tokens?_renderText, Layout.keyMark, List.singleton_append,
    mark, reads]
  simp [Function.comp_def]

/-- The compact form of a plain value is read as its tokens. -/
theorem tokens?_renderAt (plain : value.Plain depth) (level : Nat) (closed : Closed rest) :
    tokens? (renderAt .compact level value ++ rest) =
      (tokens? rest).map (tokensOf (canonical value) ++ ·) := by
  induction plain generalizing level rest with
  | null => exact tokens?_eq (by simp [renderAt, isSpace]) rfl (by simp [renderAt]; omega)
  | boolean b =>
    cases b with
    | true => exact tokens?_eq (by simp [renderAt, isSpace]) rfl (by simp [renderAt]; omega)
    | false => exact tokens?_eq (by simp [renderAt, isSpace]) rfl (by simp [renderAt]; omega)
  | @integer _ n low high => exact tokens?_ofInt closed n
  | text s => exact tokens?_renderText s rest
  | @list _ items each ih =>
    have opening (text : Text) : tokens? ('[' :: text) = (tokens? text).map (.openList :: ·) :=
      tokens?_mark rfl rfl
    have closing : tokens? (']' :: rest) = (tokens? rest).map (.closeList :: ·) :=
      tokens?_mark rfl rfl
    have row := tokens?_join items (renderAt .compact (level + 1))
      (fun value => tokensOf (canonical value)) (Or.inl rfl) rest
      fun value listed rest closed => ih value listed (level + 1) closed
    rw [renderAt, enclose_compact, renderItems_eq, List.cons_append, opening, List.append_assoc,
      List.singleton_append, row, closing]
    simp [canonical, tokensOf, canonicalItems_eq, itemTokens_eq, Function.comp_def]
  | @table _ entries distinct each ih =>
    have opening (text : Text) : tokens? ('{' :: text) = (tokens? text).map (.openTable :: ·) :=
      tokens?_mark rfl rfl
    have closing : tokens? ('}' :: rest) = (tokens? rest).map (.closeTable :: ·) :=
      tokens?_mark rfl rfl
    have row := tokens?_join (sortEntries entries) _ _ (Or.inr rfl) rest
      fun entry listed rest closed =>
        tokens?_entry entry.1 (ih entry (mem_sortEntries.mp listed) (level + 1) closed)
    rw [renderAt, enclose_compact, renderEntries_eq, ← map_sortEntries, List.map_map,
      List.cons_append, opening, List.append_assoc, List.singleton_append]
    simp only [Function.comp_def]
    rw [row, closing]
    simp [canonical, tokensOf, canonicalEntries_eq, ← map_sortEntries, entryTokens_eq,
      Function.comp_def]

theorem newline_notMem_escapeChar (c : Char) : '\n' ∉ escapeChar c := by
  unfold escapeChar
  iterate 7
    split
    · decide
  split
  · rename_i control
    have hex : ∀ n < 16, hexChar n ≠ '\n' := by decide
    have high := hex (c.toNat / 16) (by omega)
    have low := hex (c.toNat % 16) (by omega)
    simp [high.symm, low.symm]
  · rename_i newline _ _ _
    simpa using Ne.symm newline

theorem newline_notMem_renderText (text : Text) : '\n' ∉ renderText text := by
  simp [renderText, newline_notMem_escapeChar]

theorem newline_notMem_ofInt (n : Int) : '\n' ∉ Text.ofInt n := by
  have digits (n : Nat) : '\n' ∉ Text.ofNat n := fun member => by
    cases isDigit_of_mem_ofNat member
  cases n with
  | ofNat n => exact digits n
  | negSucc n => simpa [Text.ofInt] using digits (n + 1)

theorem newline_notMem_join {members : List Text} (each : ∀ member ∈ members, '\n' ∉ member) :
    '\n' ∉ Text.join [','] members := by
  cases members with
  | nil => simp [Text.join]
  | cons member more =>
    rw [join_comma]
    simpa using each

/-- A plain value is written on one line. -/
theorem newline_notMem_renderAt (plain : value.Plain depth) (level : Nat) :
    '\n' ∉ renderAt .compact level value := by
  induction plain generalizing level with
  | null => simp [renderAt]
  | boolean b => cases b <;> simp [renderAt]
  | @integer _ n _ _ => exact newline_notMem_ofInt n
  | text s => exact newline_notMem_renderText s
  | @list _ items each ih =>
    have row : '\n' ∉ Text.join [','] (items.map (renderAt .compact (level + 1))) := by
      apply newline_notMem_join
      intro member listed
      obtain ⟨value, present, rfl⟩ := List.mem_map.mp listed
      exact ih value present (level + 1)
    rw [renderAt, enclose_compact, renderItems_eq]
    simpa using row
  | @table _ entries distinct each ih =>
    rw [renderAt, enclose_compact, renderEntries_eq, ← map_sortEntries, List.map_map]
    have row : '\n' ∉ Text.join [','] ((sortEntries entries).map fun entry =>
        renderText entry.1 ++ Layout.compact.keyMark ++ renderAt .compact (level + 1) entry.2) := by
      apply newline_notMem_join
      intro member listed
      obtain ⟨entry, present, rfl⟩ := List.mem_map.mp listed
      have value := ih entry (mem_sortEntries.mp present) (level + 1)
      simp [newline_notMem_renderText, Layout.keyMark, value]
    simpa [Function.comp_def] using row

theorem infix_join {piece : Text} {pieces : List Text} (member : piece ∈ pieces) (separator : Text) :
    piece <:+: Text.join separator pieces := by
  fun_induction Text.join separator pieces with
  | case1 => cases member
  | case2 only => exact (List.mem_singleton.mp member ▸ List.infix_refl _)
  | case3 first more other ih =>
    rcases List.mem_cons.mp member with rfl | later
    · exact (List.prefix_append _ _).isInfix.trans (List.prefix_append _ _).isInfix
    · exact (ih later).trans (List.suffix_append _ _).isInfix

/-- Each key of a table is written. -/
theorem key_infix_render {entries : List (Text × Value)} {entry : Text × Value}
    (member : entry ∈ entries) : renderText entry.1 <:+: render .compact (.table entries) := by
  have row : renderText entry.1 ++ Layout.compact.keyMark ++ renderAt .compact 1 entry.2 <:+:
      Text.join [','] ((sortEntries entries).map fun entry =>
        renderText entry.1 ++ Layout.compact.keyMark ++ renderAt .compact 1 entry.2) := by
    refine infix_join ?_ _
    exact List.mem_map.mpr ⟨entry, mem_sortEntries.mpr member, rfl⟩
  have key : renderText entry.1 <:+:
      renderText entry.1 ++ Layout.compact.keyMark ++ renderAt .compact 1 entry.2 := by
    rw [List.append_assoc]
    exact (List.prefix_append _ _).isInfix
  rw [render, renderAt, enclose_compact, renderEntries_eq, ← map_sortEntries, List.map_map]
  exact (key.trans row).trans ((List.prefix_append _ _).isInfix.trans (List.suffix_cons _ _).isInfix)

end Json
end SymbolIndex
