import SymbolIndex.Json.Token

/-! Values from tokens, by a machine that keeps the open lists and tables on a stack. -/
namespace SymbolIndex.Json

/-- A container that is still open. Members come in reverse. -/
inductive Frame
  | list (items : List Value)
  | table (entries : List (Text × Value)) (key : Text)

inductive Expectation
  | value
  | firstItem
  | firstKey
  | key
  | colon
  | separator

def maxDepth : Nat := 1024

def Frame.add (value : Value) : Frame → Frame
  | .list items => .list (value :: items)
  | .table entries key => .table (Dictionary.putEntry key value entries) key

def Frame.close : Frame → Value
  | .list items => .list items.reverse
  | .table entries _ => .table entries

/-- Read the tokens that complete the open containers into one value. -/
def assemble? : List Frame → Expectation → List Token → Option Value
  | _, _, [] => none
  | stack, expected, token :: rest =>
    let complete (stack : List Frame) (value : Value) : Option Value :=
      match stack with
      | [] => if rest.isEmpty then some value else none
      | frame :: outer => assemble? (frame.add value :: outer) .separator rest
    match expected, token, stack with
    | .value, .scalar value, _ => complete stack value
    | .firstItem, .scalar value, _ => complete stack value
    | .value, .openList, _ | .firstItem, .openList, _ =>
      if stack.length < maxDepth then assemble? (.list [] :: stack) .firstItem rest else none
    | .value, .openTable, _ | .firstItem, .openTable, _ =>
      if stack.length < maxDepth then assemble? (.table [] [] :: stack) .firstKey rest else none
    | .firstItem, .closeList, frame :: outer => complete outer frame.close
    | .firstKey, .closeTable, frame :: outer => complete outer frame.close
    | .firstKey, .scalar (.text key), .table entries _ :: outer
    | .key, .scalar (.text key), .table entries _ :: outer =>
      assemble? (.table entries key :: outer) .colon rest
    | .colon, .colon, _ => assemble? stack .value rest
    | .separator, .comma, .list _ :: _ => assemble? stack .value rest
    | .separator, .comma, .table _ _ :: _ => assemble? stack .key rest
    | .separator, .closeList, .list items :: outer => complete outer (Frame.list items).close
    | .separator, .closeTable, .table entries key :: outer =>
      complete outer (Frame.table entries key).close
    | _, _, _ => none

def read? (source : Text) : Option Value := (tokens? source).bind (assemble? [] .value)

end SymbolIndex.Json
