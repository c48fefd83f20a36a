import SymbolIndex.Json.Narrow
import SymbolIndex.Proofs.Dictionary
import SymbolIndex.Proofs.Json.Written

/-! Reading the compact form of a value gives that value, its tables in the order of their keys. -/
namespace SymbolIndex
open Json

variable {depth : Nat} {value : Value} {stack : List Frame} {rest : List Token}

theorem Value.Plain.mono {deeper : Nat} (plain : value.Plain depth) (bound : depth ≤ deeper) :
    value.Plain deeper := by
  induction plain generalizing deeper with
  | null => exact .null
  | boolean b => exact .boolean b
  | integer low high => exact .integer low high
  | text s => exact .text s
  | list each ih =>
    obtain ⟨inner, rfl⟩ := Nat.exists_eq_add_one_of_ne_zero (Nat.ne_zero_of_lt bound)
    exact .list fun value listed => ih value listed (Nat.le_of_succ_le_succ bound)
  | table distinct each ih =>
    obtain ⟨inner, rfl⟩ := Nat.exists_eq_add_one_of_ne_zero (Nat.ne_zero_of_lt bound)
    exact .table distinct fun entry listed => ih entry listed (Nat.le_of_succ_le_succ bound)

theorem Value.Plain.canonical (plain : value.Plain depth) : (canonical value).Plain depth := by
  induction plain with
  | null => exact .null
  | boolean b => exact .boolean b
  | integer low high => exact .integer low high
  | text s => exact .text s
  | @list _ items each ih =>
    rw [Json.canonical, canonicalItems_eq]
    apply Value.Plain.list
    intro value listed
    obtain ⟨item, member, rfl⟩ := List.mem_map.mp listed
    exact ih item member
  | @table _ entries distinct each ih =>
    rw [Json.canonical, canonicalEntries_eq]
    refine .table ?_ fun entry listed => ?_
    · have keys := (sortEntries_perm (entries.map fun entry => (entry.1, Json.canonical entry.2))).map
        Prod.fst
      rw [keys.nodup_iff, List.map_map]
      exact distinct
    · obtain ⟨original, member, rfl⟩ := List.mem_map.mp (mem_sortEntries.mp listed)
      exact ih original member

namespace Json

/-- Go on with the innermost open container once a value is complete. -/
def resume (stack : List Frame) (value : Value) (rest : List Token) : Option Value :=
  match stack with
  | [] => if rest.isEmpty then some value else none
  | frame :: outer => assemble? (frame.add value :: outer) .separator rest

/-- Where a value may begin. -/
def Expectation.Begins (expected : Expectation) : Prop :=
  expected = .value ∨ expected = .firstItem

variable {expected : Expectation}

theorem assemble?_scalar (begins : expected.Begins) :
    assemble? stack expected (.scalar value :: rest) = resume stack value rest := by
  rcases begins with rfl | rfl <;> cases stack <;> rfl

theorem assemble?_openList (begins : expected.Begins) (shallow : stack.length < maxDepth) :
    assemble? stack expected (.openList :: rest) =
      assemble? (.list [] :: stack) .firstItem rest := by
  rcases begins with rfl | rfl <;> rw [assemble?, if_pos shallow]

theorem assemble?_openTable (begins : expected.Begins) (shallow : stack.length < maxDepth) :
    assemble? stack expected (.openTable :: rest) =
      assemble? (.table [] [] :: stack) .firstKey rest := by
  rcases begins with rfl | rfl <;> rw [assemble?, if_pos shallow]

theorem assemble?_firstKey {done : List (Text × Value)} {key next : Text} :
    assemble? (.table done key :: stack) .firstKey (.scalar (.text next) :: .colon :: rest) =
      assemble? (.table done next :: stack) .value rest := rfl

/-- What reading the tokens of a value does, whatever is open around it. -/
def Assembles (depth : Nat) (value : Value) : Prop :=
  ∀ (stack : List Frame) (expected : Expectation) (rest : List Token), expected.Begins →
    stack.length + depth ≤ maxDepth →
    assemble? stack expected (tokensOf value ++ rest) = resume stack value rest

theorem assemble?_laterItems {items done : List Value} (each : ∀ value ∈ items, Assembles depth value)
    (shallow : stack.length + 1 + depth ≤ maxDepth) :
    assemble? (.list done :: stack) .separator
        ((items.map tokensOf).flatMap (.comma :: ·) ++ .closeList :: rest) =
      resume stack (.list (done.reverse ++ items)) rest := by
  induction items generalizing done with
  | nil =>
    cases stack <;> simp [assemble?, resume, Frame.close]
  | cons value more ih =>
    have here := each value List.mem_cons_self (.list done :: stack) .value
      ((more.map tokensOf).flatMap (.comma :: ·) ++ .closeList :: rest) (Or.inl rfl) (by simpa using shallow)
    have later := @ih (value :: done) fun other listed => each other (List.mem_cons_of_mem value listed)
    simp only [List.map_cons, List.flatMap_cons, List.cons_append, List.append_assoc]
    rw [assemble?, here, resume, Frame.add, later]
    simp

theorem assemble?_laterEntries {entries done : List (Text × Value)} {key : Text}
    (distinct : ((done ++ entries).map Prod.fst).Nodup)
    (each : ∀ entry ∈ entries, Assembles depth entry.2)
    (shallow : stack.length + 1 + depth ≤ maxDepth) :
    assemble? (.table done key :: stack) .separator
        ((entryTokens entries).flatMap (.comma :: ·) ++ .closeTable :: rest) =
      resume stack (.table (done ++ entries)) rest := by
  induction entries generalizing done key with
  | nil =>
    cases stack <;> simp [entryTokens, assemble?, resume, Frame.close]
  | cons entry more ih =>
    have fresh : entry.1 ∉ done.map Prod.fst := by
      simp only [List.map_append, List.map_cons, List.nodup_append] at distinct
      exact fun member => distinct.2.2 _ member _ List.mem_cons_self rfl
    have put := Dictionary.putEntry_of_notMem fresh entry.2
    have here := each entry List.mem_cons_self (.table done entry.1 :: stack) .value
      ((entryTokens more).flatMap (.comma :: ·) ++ .closeTable :: rest) (Or.inl rfl) (by simpa using shallow)
    have later := @ih (done ++ [entry]) entry.1 (by simpa using distinct)
      fun other listed => each other (List.mem_cons_of_mem entry listed)
    simp only [entryTokens, List.flatMap_cons, List.cons_append, List.append_assoc]
    rw [assemble?, assemble?, assemble?, here, resume, Frame.add, put, later]
    simp

/-- The tokens of a plain value are read as that value. -/
theorem assembles_of_plain (plain : value.Plain depth) : Assembles depth value := by
  induction plain with
  | null => exact fun stack expected rest begins _ => assemble?_scalar begins
  | boolean b => exact fun stack expected rest begins _ => assemble?_scalar begins
  | integer low high => exact fun stack expected rest begins _ => assemble?_scalar begins
  | text s => exact fun stack expected rest begins _ => assemble?_scalar begins
  | @list depth items each ih =>
    intro stack expected rest begins shallow
    rw [tokensOf, itemTokens_eq, List.cons_append, List.append_assoc, List.singleton_append,
      assemble?_openList begins (by omega)]
    cases items with
    | nil => cases stack <;> simp [separated, assemble?, resume, Frame.close]
    | cons value more =>
      have deeper : stack.length + 1 + depth ≤ maxDepth := by omega
      rw [List.map_cons, separated, List.append_assoc,
        ih value List.mem_cons_self (.list [] :: stack) .firstItem _ (Or.inr rfl) (by simpa using deeper),
        resume, Frame.add,
        assemble?_laterItems (fun other listed => ih other (List.mem_cons_of_mem value listed)) deeper]
      rfl
  | @table depth entries distinct each ih =>
    intro stack expected rest begins shallow
    rw [tokensOf, List.cons_append, List.append_assoc, List.singleton_append,
      assemble?_openTable begins (by omega)]
    cases entries with
    | nil => cases stack <;> simp [entryTokens, separated, assemble?, resume, Frame.close]
    | cons entry more =>
      have deeper : stack.length + 1 + depth ≤ maxDepth := by omega
      rw [entryTokens, separated, List.cons_append, List.cons_append, List.append_assoc,
        List.cons_append, assemble?_firstKey,
        ih entry List.mem_cons_self (.table [] entry.1 :: stack) .value _ (Or.inl rfl) (by simpa using deeper),
        resume, Frame.add, Dictionary.putEntry,
        assemble?_laterEntries distinct (fun other listed => ih other (List.mem_cons_of_mem entry listed))
          deeper]
      rfl

theorem narrowItems?_eq_some {items : List Value} (each : ∀ value ∈ items, narrow? value = some value) :
    narrowItems? items = some items := by
  induction items with
  | nil => rfl
  | cons value more ih =>
    have later := ih fun other listed => each other (List.mem_cons_of_mem value listed)
    simp [narrowItems?, each value List.mem_cons_self, later]

theorem narrowEntries?_eq_some {entries : List (Text × Value)}
    (each : ∀ entry ∈ entries, narrow? entry.2 = some entry.2) :
    narrowEntries? entries = some entries := by
  induction entries with
  | nil => rfl
  | cons entry more ih =>
    have later := ih fun other listed => each other (List.mem_cons_of_mem entry listed)
    simp [narrowEntries?, each entry List.mem_cons_self, later]

theorem narrow?_of_plain (plain : value.Plain depth) : narrow? value = some value := by
  induction plain with
  | null => rfl
  | boolean b => rfl
  | integer low high =>
    refine if_pos ?_
    rw [Bool.and_eq_true, decide_eq_true_eq, decide_eq_true_eq]
    exact ⟨low, high⟩
  | text s => rfl
  | list each ih => rw [narrow?, narrowItems?_eq_some ih, Option.map_some]
  | table distinct each ih => rw [narrow?, narrowEntries?_eq_some ih, Option.map_some]

/-- A plain value that is not nested too deep is read back from its compact form. -/
theorem readNarrow?_render (plain : value.Plain maxDepth) :
    readNarrow? (render .compact value) = some (canonical value) := by
  have empty : tokens? [] = some [] := by simp [tokens?]
  have written := tokens?_renderAt plain 0 (show Closed [] by simp [Closed])
  have assembled := assembles_of_plain plain.canonical [] .value [] (Or.inl rfl) (by simp)
  rw [List.append_nil, empty] at written
  simp only [List.append_nil] at assembled
  simp [readNarrow?, read?, render, written, assembled, resume, narrow?_of_plain plain.canonical]

end Json
end SymbolIndex
