import SpriteStage.Number.Binary64

/-!
# Unsigned decimals

A decimal is a coefficient times a power of ten. Its text is digits with at most one point and at
least one digit, then an exponent or nothing: a letter `e` of either case, a sign or nothing, and
at least one digit.

* `Decimal.read?` accepts exactly such texts;
* `Decimal.toBinary64` is the correctly rounded value.
-/

namespace SpriteStage

/-- The number `coefficient * 10^exponent`. -/
structure Decimal where
  coefficient : Nat
  exponent : Int
  deriving DecidableEq, Repr

namespace Decimal

/-- The value of a text of digits in base ten. -/
def ofDigits (ds : List Char) : Nat :=
  ds.foldl (fun n c => 10 * n + (c.toNat - '0'.toNat)) 0

@[simp] theorem ofDigits_nil : ofDigits [] = 0 := rfl

/-- A text of one or more digits. -/
def digits? (ds : List Char) : Option Nat :=
  if !ds.isEmpty && ds.all Char.isDigit then some (ofDigits ds) else none

/-- What follows the digits of a decimal: nothing, or an exponent. -/
def exponent? : List Char → Option Int
  | [] => some 0
  | c :: cs =>
      if c = 'e' || c = 'E' then
        match cs with
        | '+' :: ds => (digits? ds).map Int.ofNat
        | '-' :: ds => (digits? ds).map fun n : Nat => -(n : Int)
        | ds => (digits? ds).map Int.ofNat
      else none

@[simp] theorem exponent?_nil : exponent? [] = some 0 := rfl

/-- Read an unsigned decimal. -/
def read? (cs : List Char) : Option Decimal :=
  let whole := cs.takeWhile Char.isDigit
  let rest := cs.dropWhile Char.isDigit
  let (fraction, rest) := match rest with
    | '.' :: tail => (tail.takeWhile Char.isDigit, tail.dropWhile Char.isDigit)
    | _ => ([], rest)
  match digits? (whole ++ fraction), exponent? rest with
  | some n, some e => some ⟨n, e - fraction.length⟩
  | _, _ => none

@[simp] theorem read?_nil : read? [] = none := rfl

/-- The nearest binary64, ties to even.

From `10^400` on the value is past every finite one, and a value below `2^(-1080)` is below half
of the least positive one; neither end needs the power of ten itself. -/
def toBinary64 (negative : Bool) (d : Decimal) : Binary64 :=
  if d.coefficient = 0 then .finite negative 0 0
  else if 400 ≤ d.exponent then .infinite negative
  else if 0 ≤ d.exponent then .round negative (d.coefficient * Nat.pow 10 d.exponent.toNat) 0
  else if Binary64.bitLength d.coefficient + 3 * d.exponent < -1080 then .finite negative 0 0
  else .quotient negative d.coefficient (Nat.pow 10 (-d.exponent).toNat) 0

/-- The sign of a decimal can be taken before or after rounding. -/
theorem neg_toBinary64 (negative : Bool) (d : Decimal) :
    (d.toBinary64 negative).neg = d.toBinary64 (!negative) := by
  unfold toBinary64
  split
  · rfl
  · split
    · rfl
    · split
      · exact Binary64.neg_round _ _ _
      · split
        · rfl
        · exact Binary64.neg_quotient _ _ _ _

end Decimal

end SpriteStage
