import SpriteStage.Number.Decimal

/-!
# JSON values

What a JSON text stands for. Members of an object keep their order, and a name may come twice.

A text may hold half of a surrogate pair as an escape; such a text, and an object with such a name,
is well formed but cannot be read, which matters only to whoever needs it.
-/

namespace SpriteStage

/-- A JSON value. -/
inductive JsonValue
  | null
  | bool (b : Bool)
  /-- A number written as a whole one, negative zero apart. -/
  | integer (n : Int)
  /-- Any other number. -/
  | real (negative : Bool) (magnitude : Decimal)
  | string (text : String)
  | array (items : List JsonValue)
  | object (members : List (String × JsonValue))
  /-- A text or a name in it is not a sequence of characters. -/
  | unreadable

namespace JsonValue

/-- The whole number, if it is one. -/
def integer? : JsonValue → Option Int
  | integer n => some n
  | _ => none

/-- The text, if it is one. -/
def string? : JsonValue → Option String
  | string s => some s
  | _ => none

/-- The value of a name that occurs exactly once. -/
def only? (name : String) (members : List (String × JsonValue)) : Option JsonValue :=
  match members.filter (·.1 == name) with
  | [member] => some member.2
  | _ => none

/-- The values of a record: an array of exactly as many items as there are names, or an object
with each name exactly once; other members do not matter. -/
def record? (names : List String) : JsonValue → Option (List JsonValue)
  | array items => if items.length = names.length then some items else none
  | object members => names.mapM (only? · members)
  | _ => none

end JsonValue

end SpriteStage
