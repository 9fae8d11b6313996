import SpriteStage.Error
import SpriteStage.Formula.Postfix
import SpriteStage.RenderOptions.Basic
import SpriteStage.Text.Blank

/-!
# Reading the words of directives

A value reader knows a screen size and turns words into numbers.

* `value` takes a plain decimal as it stands and anything else as a formula;
* `number` rounds a value to a coordinate, halves away from zero;
* the first word that has no reading is reported.
-/

namespace SpriteStage

/-- The value of a text as a formula. -/
def Formula.value (screen : ScreenSize) (cs : List Char) : Except Fault Binary64 := do
  run (← toPostfix (← scan screen cs))

/-- The value of a plain decimal with at most one sign, when it is finite. -/
def Formula.plain? (cs : List Char) : Option Binary64 :=
  let (negative, digits) := match cs with
    | '-' :: rest => (true, rest)
    | '+' :: rest => (false, rest)
    | _ => (false, cs)
  ((Decimal.read? digits).map (·.toBinary64 negative)).filter Binary64.isFinite

/-- Reads the words of directives against a screen size. -/
structure ValueReader where
  screen : ScreenSize
  deriving DecidableEq, Repr

namespace ValueReader

/-- The value of a word. -/
def value (r : ValueReader) (token : String) : Except Error Binary64 :=
  let text := Text.trimChars token.toList
  if text = [] then .error (.parse token "empty value")
  else match Formula.plain? text with
    | some v => .ok v
    | none => (Formula.value r.screen text).mapError fun fault =>
        .parse (String.ofList text) fault.message

/-- The values of the words. -/
def values (r : ValueReader) (tokens : List String) : Except Error (List Binary64) :=
  tokens.mapM r.value

/-- A value as a coordinate; `token` is blamed when it is out of range. -/
def coordinate (value : Binary64) (token : String) : Except Error Int32 :=
  match value.toCoordinate? with
  | some i => .ok i
  | none => .error (.parse token "value out of integer range")

/-- The value of a word as a coordinate. -/
def number (r : ValueReader) (token : String) : Except Error Int32 := do
  coordinate (← r.value token) token

/-- The values of the words as coordinates. -/
def numbers (r : ValueReader) (tokens : List String) : Except Error (List Int32) :=
  tokens.mapM r.number

/-- The value of a word as an index, which is a coordinate that is not negative. -/
def index (r : ValueReader) (token : String) : Except Error Nat := do
  let i ← r.number token
  if i.toInt < 0 then .error (.parse token "index must not be negative") else .ok i.toInt.toNat

end ValueReader

/-- Why a list of option keywords is refused, as an error. -/
def RenderOptions.Refusal.toError : RenderOptions.Refusal → Error
  | .unknown word => .unknownOption word
  | .conflict word earlier => .parse word s!"conflicts with '{earlier.describe}'"

/-- The options of a list of keywords. -/
def RenderOptions.parse (words : List String) : Except Error RenderOptions :=
  (RenderOptions.ofKeywords words).mapError Refusal.toError

end SpriteStage
