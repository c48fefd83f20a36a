import SymbolIndex.Findings
import SymbolIndex.Vocabulary
import SymbolIndex.LineIndex
import SymbolIndex.Snapshot

/-! Position records in a fixed order of groups: keywords, classes, functions, variables,
attributes, imports, imports from modules. Every keyword occurrence has a record; of the other
symbols each key has one, at its first occurrence. -/
namespace SymbolIndex

/-- What distinguishes the records other than keywords. A variable outside classes has no scope,
while an attribute outside classes has the empty one. -/
inductive RecordKey
  | classDef (name : Text)
  | function (scope name : Text)
  | variable (scope : Option Text) (name : Text)
  | importName (name : Text)
deriving DecidableEq

namespace Findings

def recordOf (index : LineIndex) (kind : SymbolKind) (capture : Capture)
    (scope parameters : Text) : SymbolRecord :=
  let place := index.lineColumn capture.start
  ⟨capture.text, kind, place.1, place.2, capture.text.length, scope, parameters⟩

def keywordRecords (index : LineIndex) (text : Text) : List SymbolRecord :=
  Vocabulary.keywords.flatMap fun word =>
    ((Pattern.wholeWord word).occurrences text).map fun found =>
      recordOf index .keyword found.name [] []

def classCandidates (found : Findings) (index : LineIndex) : List (RecordKey × SymbolRecord) :=
  found.scopes.ranges.map fun range =>
    (.classDef range.name, recordOf index .classDef ⟨range.nameStart, range.name⟩
      (found.scopes.classAt range.nameStart) [])

def functionCandidates (found : Findings) (index : LineIndex) : List (RecordKey × SymbolRecord) :=
  found.functions.map fun header =>
    let scope := found.scopes.classAt header.name.start
    (.function scope header.name.text,
      recordOf index .function header.name scope header.parameters)

def variableCandidates (found : Findings) (index : LineIndex) : List (RecordKey × SymbolRecord) :=
  (found.assignments.filter (!Vocabulary.keywords.contains ·.name.text)).map fun assigned =>
    let scope := found.scopes.classAt assigned.name.start
    (.variable (if scope.isEmpty then none else some scope) assigned.name.text,
      recordOf index .variable assigned.name scope [])

def attributeCandidates (found : Findings) (index : LineIndex) : List (RecordKey × SymbolRecord) :=
  found.attributes.map fun assigned =>
    let scope := found.scopes.classAt assigned.name.start
    (.variable (some scope) assigned.name.text, recordOf index .variable assigned.name scope [])

def importCandidates (found : Findings) (index : LineIndex) : List (RecordKey × SymbolRecord) :=
  (found.plainImports.map (·.name) ++ found.fromImports.map (·.bound)).map fun bound =>
    (.importName bound.text, recordOf index .importName bound [] [])

/-- All records that are kept once per key, in the order of their groups. -/
def candidates (found : Findings) (index : LineIndex) : List (RecordKey × SymbolRecord) :=
  found.classCandidates index ++ found.functionCandidates index ++
    found.variableCandidates index ++ found.attributeCandidates index ++
    found.importCandidates index

def positions (found : Findings) : List SymbolRecord :=
  let index := LineIndex.ofText found.text
  keywordRecords index found.text ++
    (firstBy Prod.fst (found.candidates index)).map Prod.snd

end Findings
end SymbolIndex
