import SymbolIndex.Schema.Package

/-! Lists, tables and the fields of models, whatever is taken for their parts. -/
namespace SymbolIndex.Schema
variable {α : Type} [Package]

def readNat (value : Value) : Checked Nat :=
  (readInt value).andThen fun n => if n < 0 then .fault .belowZero else .accepted n.toNat

def readTextOrNull : Value → Checked (Option Text)
  | .null => .accepted none
  | value => (readText value).map some

/-- The members of a list, each fault under the index of its member. -/
def readMembers (read : Value → Checked α) (items : List Value) : Checked (List α) :=
  .sequence (items.zipIdx.map fun (item, i) => (read item).within (.index i))

def readList (read : Value → Checked α) (value : Value) : Checked (List α) :=
  (listItems value).andThen (readMembers read)

/-- A list that is kept as it was given. -/
def readTuple (read : Value → Checked α) (value : Value) : Checked (List α) :=
  (tupleItems value).andThen (readMembers read)

/-- The values of a table, each fault under its key. -/
def readEntries (read : Value → Checked α) (entries : List (Text × Value)) :
    Checked (Dictionary α) :=
  (Checked.sequence (entries.map fun (key, value) =>
    ((read value).within (.key key)).map fun read => (key, read))).map Dictionary.ofList

def readDictionary (read : Value → Checked α) (value : Value) : Checked (Dictionary α) :=
  (dictEntries value).andThen (readEntries read)

def field? (name : Text) (entries : List (Text × Value)) : Option Value :=
  (entries.find? (·.1 = name)).map Prod.snd

def required (name : String) (read : Value → Checked α) (entries : List (Text × Value)) :
    Checked α :=
  match field? name.toList entries with
  | some value => (read value).within (.key name.toList)
  | none => .rejected [⟨[.key name.toList], .missing⟩]

/-- A field with a value of its own when it is left out. -/
def optionalField (name : String) (default : α) (read : Value → Checked α)
    (entries : List (Text × Value)) : Checked α :=
  match field? name.toList entries with
  | some value => (read value).within (.key name.toList)
  | none => .accepted default

def onlyFields (names : List String) (entries : List (Text × Value)) : Checked Unit :=
  let extra := entries.filter fun entry => !(names.map String.toList).contains entry.1
  if extra.isEmpty then .accepted ()
  else .rejected (extra.map fun entry => ⟨[.key entry.1], .extraForbidden⟩)

def readModel (read : List (Text × Value) → Checked α) (value : Value) : Checked α :=
  (modelFields value).andThen read

end SymbolIndex.Schema
