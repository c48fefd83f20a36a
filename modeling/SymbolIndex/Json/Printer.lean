import SymbolIndex.Json.Number
import SymbolIndex.Json.Package

/-! Written values: keys in code-point order, either without blanks or indented by two spaces a
level. Only quotes, backslashes and control characters are escaped. -/
namespace SymbolIndex.Json

def hexChar (n : Nat) : Char := Nat.digitChar n

def escapeChar (c : Char) : Text :=
  if c = '"' then ['\\', '"']
  else if c = '\\' then ['\\', '\\']
  else if c = '\x08' then ['\\', 'b']
  else if c = '\t' then ['\\', 't']
  else if c = '\n' then ['\\', 'n']
  else if c = '\x0c' then ['\\', 'f']
  else if c = '\r' then ['\\', 'r']
  else if c.toNat < 0x20 then
    ['\\', 'u', '0', '0', hexChar (c.toNat / 16), hexChar (c.toNat % 16)]
  else [c]

def renderText (text : Text) : Text := '"' :: text.flatMap escapeChar ++ ['"']

def sortEntries {α : Type} (entries : List (Text × α)) : List (Text × α) :=
  entries.mergeSort fun a b => Text.le a.1 b.1

def Layout.keyMark : Layout → Text
  | .compact => [':']
  | .indented => [':', ' ']

def Layout.lineBreak (layout : Layout) (level : Nat) : Text :=
  match layout with
  | .compact => []
  | .indented => '\n' :: List.replicate (2 * level) ' '

/-- Members between brackets; an empty container is written without a break. -/
def enclose (layout : Layout) (level : Nat) (opening closing : Char) (members : List Text) : Text :=
  if members.isEmpty then [opening, closing]
  else
    opening :: Text.join [','] (members.map (layout.lineBreak (level + 1) ++ ·)) ++
      layout.lineBreak level ++ [closing]

mutual

def renderAt (layout : Layout) (level : Nat) : Value → Text
  | .null => "null".toList
  | .boolean true => "true".toList
  | .boolean false => "false".toList
  | .integer n => Text.ofInt n
  | .decimal x => renderDecimal x
  | .text s => renderText s
  | .moment written => renderText written
  | .list items => enclose layout level '[' ']' (renderItems layout (level + 1) items)
  | .table entries =>
    enclose layout level '{' '}' ((sortEntries (renderEntries layout (level + 1) entries)).map
      fun entry => renderText entry.1 ++ layout.keyMark ++ entry.2)

def renderItems (layout : Layout) (level : Nat) : List Value → List Text
  | [] => []
  | value :: rest => renderAt layout level value :: renderItems layout level rest

def renderEntries (layout : Layout) (level : Nat) : List (Text × Value) → List (Text × Text)
  | [] => []
  | (key, value) :: rest => (key, renderAt layout level value) :: renderEntries layout level rest

end

def render (layout : Layout) (value : Value) : Text := renderAt layout 0 value

end SymbolIndex.Json
