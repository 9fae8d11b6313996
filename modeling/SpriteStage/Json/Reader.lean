import SpriteStage.Json.Value

/-!
# Reading JSON

A text is one value with blanks around it; the blanks of JSON are space, tab, line feed and
carriage return. `JsonValue.parse?` gives no value for anything that is not well formed.
-/

namespace SpriteStage.JsonValue

/-- The blanks of JSON. -/
def isJsonBlank (c : Char) : Bool := c == ' ' || c == '\t' || c == '\n' || c == '\r'

/-- Leave out leading blanks. -/
def skip (cs : List Char) : List Char := cs.dropWhile isJsonBlank

/-! ### Texts -/

/-- The character of an escape of one letter. -/
def escape? : Char → Option Char
  | '"' => some '"'
  | '\\' => some '\\'
  | '/' => some '/'
  | 'b' => some '\x08'
  | 'f' => some '\x0c'
  | 'n' => some '\n'
  | 'r' => some '\r'
  | 't' => some '\t'
  | _ => none

/-- The value of a hexadecimal digit. -/
def hexDigit? (c : Char) : Option Nat :=
  if c.isDigit then some (c.toNat - '0'.toNat)
  else if 'a' ≤ c ∧ c ≤ 'f' then some (c.toNat - 'a'.toNat + 10)
  else if 'A' ≤ c ∧ c ≤ 'F' then some (c.toNat - 'A'.toNat + 10)
  else none

/-- The numbers of the characters up to the closing quote, with surrogates as they are written, and
what follows the quote. -/
def units? : List Char → Option (List Nat × List Char)
  | [] => none
  | '"' :: rest => some ([], rest)
  | '\\' :: 'u' :: a :: b :: c :: d :: rest => do
      let unit := 4096 * (← hexDigit? a) + 256 * (← hexDigit? b) + 16 * (← hexDigit? c) +
        (← hexDigit? d)
      let (units, rest) ← units? rest
      return (unit :: units, rest)
  | '\\' :: c :: rest => do
      let c ← escape? c
      let (units, rest) ← units? rest
      return (c.toNat :: units, rest)
  | c :: rest =>
      if c.toNat < 0x20 then none
      else do
        let (units, rest) ← units? rest
        return (c.toNat :: units, rest)

/-- The characters of the numbers; surrogates have to come in pairs. -/
def pairUp? : List Nat → Option (List Char)
  | [] => some []
  | u :: us =>
      if 0xD800 ≤ u ∧ u < 0xDC00 then
        match us with
        | v :: rest =>
            if 0xDC00 ≤ v ∧ v < 0xE000 then
              (pairUp? rest).map
                (Char.ofNat (0x10000 + 1024 * (u - 0xD800) + (v - 0xDC00)) :: ·)
            else none
        | [] => none
      else if 0xDC00 ≤ u ∧ u < 0xE000 then none
      else (pairUp? us).map (Char.ofNat u :: ·)

/-- The text up to the closing quote, if its surrogates pair up, and what follows the quote. -/
def text? (cs : List Char) : Option (Option String × List Char) := do
  let (units, rest) ← units? cs
  return ((pairUp? units).map String.ofList, rest)

/-! ### Numbers -/

/-- Digits at the start, at least one. -/
def digits? (cs : List Char) : Option (List Char × List Char) :=
  match cs.takeWhile Char.isDigit with
  | [] => none
  | ds => some (ds, cs.dropWhile Char.isDigit)

/-- Digits without a leading zero, except zero itself. -/
def whole? (cs : List Char) : Option (List Char × List Char) := do
  let (ds, rest) ← digits? cs
  match ds with
  | '0' :: _ :: _ => none
  | _ => return (ds, rest)

/-- A point and digits, or nothing. -/
def fraction? (cs : List Char) : Option (List Char × List Char) :=
  match cs with
  | '.' :: tail => (digits? tail).map fun (ds, rest) => ('.' :: ds, rest)
  | _ => some ([], cs)

/-- An exponent, or nothing. -/
def exponent? (cs : List Char) : Option (List Char × List Char) :=
  match cs with
  | c :: tail =>
      if c = 'e' || c = 'E' then
        match tail with
        | s :: more =>
            if s = '+' || s = '-' then (digits? more).map fun (ds, rest) => (c :: s :: ds, rest)
            else (digits? tail).map fun (ds, rest) => (c :: ds, rest)
        | [] => none
      else some ([], cs)
  | [] => some ([], cs)

/-- A number after its sign. -/
def number? (negative : Bool) (cs : List Char) : Option (JsonValue × List Char) := do
  let (whole, rest) ← whole? cs
  let (fraction, rest) ← fraction? rest
  let (exponent, rest) ← exponent? rest
  let magnitude ← Decimal.read? (whole ++ fraction ++ exponent)
  let n := Decimal.ofDigits whole
  if fraction.isEmpty && exponent.isEmpty && !(negative && n == 0) then
    return (integer (if negative then -(n : Int) else n), rest)
  else return (real negative magnitude, rest)

/-! ### Values -/

mutual

/-- A value at the start of a text, with `fuel` characters at most. -/
def value? (fuel : Nat) (cs : List Char) : Option (JsonValue × List Char) :=
  match fuel with
  | 0 => none
  | fuel + 1 =>
      match skip cs with
      | 'n' :: 'u' :: 'l' :: 'l' :: rest => some (null, rest)
      | 't' :: 'r' :: 'u' :: 'e' :: rest => some (bool true, rest)
      | 'f' :: 'a' :: 'l' :: 's' :: 'e' :: rest => some (bool false, rest)
      | '"' :: rest => do
          let (text, rest) ← text? rest
          return (text.elim unreadable string, rest)
      | '[' :: rest =>
          match skip rest with
          | ']' :: rest => some (array [], rest)
          | rest => do
              let (items, rest) ← items? fuel rest
              return (array items, rest)
      | '{' :: rest =>
          match skip rest with
          | '}' :: rest => some (object [], rest)
          | rest => do
              let (members, rest) ← members? fuel rest
              let named := members.mapM fun (name, value) => name.map (·, value)
              return (named.elim unreadable object, rest)
      | '-' :: rest => number? true rest
      | rest => number? false rest

/-- One or more items up to the closing bracket. -/
def items? (fuel : Nat) (cs : List Char) : Option (List JsonValue × List Char) :=
  match fuel with
  | 0 => none
  | fuel + 1 => do
      let (item, rest) ← value? fuel cs
      match skip rest with
      | ']' :: rest => return ([item], rest)
      | ',' :: rest => do
          let (items, rest) ← items? fuel rest
          return (item :: items, rest)
      | _ => none

/-- One or more members up to the closing brace; a name that cannot be read has no text. -/
def members? (fuel : Nat) (cs : List Char) :
    Option (List (Option String × JsonValue) × List Char) :=
  match fuel with
  | 0 => none
  | fuel + 1 =>
      match skip cs with
      | '"' :: rest => do
          let (name, rest) ← text? rest
          match skip rest with
          | ':' :: rest => do
              let (value, rest) ← value? fuel rest
              match skip rest with
              | '}' :: rest => return ([(name, value)], rest)
              | ',' :: rest => do
                  let (members, rest) ← members? fuel rest
                  return ((name, value) :: members, rest)
              | _ => none
          | _ => none
      | _ => none

end

/-- The value of a whole text. Every step of the reading takes a character, so the length of the
text bounds the steps. -/
def parse? (s : String) : Option JsonValue := do
  let cs := s.toList
  let (value, rest) ← value? (cs.length + 1) cs
  if skip rest = [] then return value else none

end SpriteStage.JsonValue
