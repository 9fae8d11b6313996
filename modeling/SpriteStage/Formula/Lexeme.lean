import SpriteStage.Geometry
import SpriteStage.Number.Decimal

/-!
# Lexemes of a formula

A formula is cut into numbers, operators and parentheses.

* a number is a decimal, a decimal followed by `%w` or `%h` (hundredths of the screen's width or
  height), or one of the names `screenWidth` and `screenHeight`;
* a plus or a minus is a sign at the start, after an operator and after an opening parenthesis; a
  sign plus has no lexeme, a sign minus is the operator `negate`;
* `scan` reports the first fault from the left.
-/

namespace SpriteStage.Formula

/-- The operators; `negate` is the sign. -/
inductive Operator
  | plus
  | minus
  | times
  | divide
  | negate
  deriving DecidableEq, Repr

/-- A piece of a formula. -/
inductive Lexeme
  | number (value : Binary64)
  | operator (op : Operator)
  | opening
  | closing
  deriving DecidableEq, Repr

/-- Why a text is no formula or has no value. -/
inductive Fault
  | invalidNumber (literal : String)
  | percentUnit
  | unknownKeyword (word : String)
  | unexpectedCharacter (c : Char)
  | unbalancedClosing
  | unbalancedOpening
  | malformed
  | divisionByZero
  | notFinite
  deriving DecidableEq, Repr

/-- The wording of a fault. -/
def Fault.message : Fault → String
  | .invalidNumber literal => s!"invalid number '{literal}'"
  | .percentUnit => "percentage must end in 'w' or 'h'"
  | .unknownKeyword word => s!"unknown keyword '{word}'"
  | .unexpectedCharacter c => s!"unexpected character '{c}'"
  | .unbalancedClosing => "unbalanced ')'"
  | .unbalancedOpening => "unbalanced '('"
  | .malformed => "malformed expression"
  | .divisionByZero => "division by zero"
  | .notFinite => "result is not a finite number"

/-! ### Literals and words -/

/-- The digits and points a literal starts with. -/
def isMantissaChar (c : Char) : Bool := c.isDigit || c == '.'

/-- A character of a name. -/
def isNameChar (c : Char) : Bool := c.isAlphanum || c == '_'

/-- A character that starts a name. -/
def isNameStart (c : Char) : Bool := c.isAlpha || c == '_'

/-- The length of the exponent at the start of a text; without a digit there is none. -/
def exponentLength : List Char → Nat
  | [] => 0
  | c :: cs =>
      if c = 'e' || c = 'E' then
        let sign := match cs with
          | d :: _ => if d = '+' || d = '-' then 1 else 0
          | [] => 0
        let digits := ((cs.drop sign).takeWhile Char.isDigit).length
        if digits = 0 then 0 else 1 + sign + digits
      else 0

/-- The length of the literal at the start of a text: digits and points, then an exponent. -/
def literalLength (cs : List Char) : Nat :=
  let mantissa := (cs.takeWhile isMantissaChar).length
  mantissa + exponentLength (cs.drop mantissa)

/-- A literal that starts with a digit or a point is not empty. -/
theorem literalLength_pos {c : Char} (h : isMantissaChar c = true) (cs : List Char) :
    0 < literalLength (c :: cs) := by
  simp only [literalLength, List.takeWhile_cons, h, if_true, List.length_cons]
  omega

/-- The value of a name. -/
def keyword? (screen : ScreenSize) (word : List Char) : Option Binary64 :=
  if word = "screenWidth".toList then some (.ofCoordinate screen.width)
  else if word = "screenHeight".toList then some (.ofCoordinate screen.height)
  else none

/-- So many hundredths of a length. -/
def percent (value : Binary64) (length : Int32) : Binary64 :=
  value / .ofInt 100 * .ofCoordinate length

/-- The value of a literal with what follows it, and how much of that it takes. -/
def scaled (screen : ScreenSize) (value : Binary64) :
    List Char → Except Fault (Binary64 × Nat)
  | '%' :: 'w' :: _ => .ok (percent value screen.width, 2)
  | '%' :: 'h' :: _ => .ok (percent value screen.height, 2)
  | '%' :: _ => .error .percentUnit
  | _ => .ok (value, 0)

/-! ### Scanning -/

/-- The operator or parenthesis of a character where a sign may not stand. -/
def symbol? : Char → Option Lexeme
  | '+' => some (.operator .plus)
  | '-' => some (.operator .minus)
  | '*' => some (.operator .times)
  | '/' => some (.operator .divide)
  | '(' => some .opening
  | ')' => some .closing
  | _ => none

/-- Whether a sign may follow. -/
def Lexeme.allowsSign : Lexeme → Bool
  | .operator _ | .opening => true
  | .number _ | .closing => false

/-- The lexemes of a text; `sign` says whether a plus or minus here is a sign. -/
def scanFrom (screen : ScreenSize) (sign : Bool) (cs : List Char) :
    Except Fault (List Lexeme) :=
  match cs with
  | [] => .ok []
  | c :: rest =>
      if _start : isMantissaChar c then
        let length := literalLength (c :: rest)
        let literal := (c :: rest).take length
        let tail := (c :: rest).drop length
        match Decimal.read? literal with
        | none => .error (.invalidNumber (String.ofList literal))
        | some d => do
            let (value, used) ← scaled screen (d.toBinary64 false) tail
            let more ← scanFrom screen false (tail.drop used)
            return .number value :: more
      else if isNameStart c then
        let word := c :: rest.takeWhile isNameChar
        match keyword? screen word with
        | none => .error (.unknownKeyword (String.ofList word))
        | some value => do
            let more ← scanFrom screen false (rest.dropWhile isNameChar)
            return .number value :: more
      else if sign && c == '+' then scanFrom screen true rest
      else if sign && c == '-' then do
        let more ← scanFrom screen true rest
        return .operator .negate :: more
      else match symbol? c with
        | none => .error (.unexpectedCharacter c)
        | some lexeme => do
            let more ← scanFrom screen lexeme.allowsSign rest
            return lexeme :: more
  termination_by cs.length
  decreasing_by
    · have := literalLength_pos _start rest
      simp only [List.length_drop, List.length_cons]
      omega
    · have := (List.dropWhile_suffix (l := rest) isNameChar).length_le
      simp only [List.length_cons]
      omega
    all_goals simp

/-- The lexemes of a formula. -/
def scan (screen : ScreenSize) (cs : List Char) : Except Fault (List Lexeme) :=
  scanFrom screen true cs

@[simp] theorem scanFrom_nil (screen : ScreenSize) (sign : Bool) :
    scanFrom screen sign [] = .ok [] := by
  simp [scanFrom]

end SpriteStage.Formula
