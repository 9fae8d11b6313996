import SpriteStage.Json.Value

/-!
# Printing JSON

One item or member a line, two spaces of indentation a level; an empty array or object stays on
its line. Characters below the space are escaped, with a letter where there is one.
-/

namespace SpriteStage.JsonValue

/-- A digit of an escape. -/
def hexChar (n : Nat) : Char := if n < 10 then Char.ofNat (48 + n) else Char.ofNat (87 + n)

/-- How a character is written in a text. -/
def escaped (c : Char) : List Char :=
  if c = '"' || c = '\\' then ['\\', c]
  else if c = '\x08' then ['\\', 'b']
  else if c = '\x0c' then ['\\', 'f']
  else if c = '\n' then ['\\', 'n']
  else if c = '\r' then ['\\', 'r']
  else if c = '\t' then ['\\', 't']
  else if c.toNat < 0x20 then
    ['\\', 'u', '0', '0', hexChar (c.toNat / 16), hexChar (c.toNat % 16)]
  else [c]

/-- A text between quotes. -/
def quoted (s : String) : String :=
  String.ofList ('"' :: (s.toList.flatMap escaped ++ ['"']))

/-- A line end and the indentation of a level. -/
def newLine (level : Nat) : String := "\n" ++ String.ofList (List.replicate (2 * level) ' ')

/-- Parts between brackets, each on a line of its own. -/
def bracketed (opening closing : String) (level : Nat) (parts : List String) : String :=
  if parts = [] then opening ++ closing
  else
    opening ++ newLine (level + 1) ++ ("," ++ newLine (level + 1)).intercalate parts ++
      newLine level ++ closing

/-- A decimal by its coefficient and its exponent. -/
def decimalText (negative : Bool) (d : Decimal) : String :=
  (if negative then "-" else "") ++ s!"{d.coefficient}e{d.exponent}"

mutual

/-- A value whose first line is already indented to `level`. -/
def printAt (level : Nat) : JsonValue → String
  | null | unreadable => "null"
  | bool b => toString b
  | integer n => toString n
  | real negative d => decimalText negative d
  | string s => quoted s
  | array items => bracketed "[" "]" level (printItems (level + 1) items)
  | object members => bracketed "\x7b" "\x7d" level (printMembers (level + 1) members)

/-- The items of an array. -/
def printItems (level : Nat) : List JsonValue → List String
  | [] => []
  | item :: rest => printAt level item :: printItems level rest

/-- The members of an object. -/
def printMembers (level : Nat) : List (String × JsonValue) → List String
  | [] => []
  | (name, value) :: rest =>
      (quoted name ++ ": " ++ printAt level value) :: printMembers level rest

end

/-- A value over several lines. -/
def pretty (v : JsonValue) : String := printAt 0 v

end SpriteStage.JsonValue
