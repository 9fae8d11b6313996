/-!
# Bounded unsigned integers

Reading a whole number digit by digit in some base, with an optional `+`, up to a greatest value.
The first thing that is wrong from the left is what is reported.
-/

namespace SpriteStage.Unsigned

/-- Why a text is not a bounded unsigned integer. -/
inductive Fault
  | empty
  | invalidDigit
  | tooLarge
  deriving DecidableEq, Repr

/-- The wording of a fault. -/
def Fault.message : Fault → String
  | .empty => "cannot parse integer from empty string"
  | .invalidDigit => "invalid digit found in string"
  | .tooLarge => "number too large to fit in target type"

/-- The value of a digit below `base`, letters of either case standing for ten and up. -/
def digit? (base : Nat) (c : Char) : Option Nat :=
  let n :=
    if c.isDigit then some (c.toNat - '0'.toNat)
    else if c.isLower then some (c.toNat - 'a'.toNat + 10)
    else if c.isUpper then some (c.toNat - 'A'.toNat + 10)
    else none
  n.filter (· < base)

/-- Append the digits to `value`, never going past `greatest`. -/
def extend (base greatest : Nat) (value : Nat) : List Char → Except Fault Nat
  | [] => .ok value
  | c :: cs =>
      match digit? base c with
      | none => .error .invalidDigit
      | some d =>
          let next := base * value + d
          if next ≤ greatest then extend base greatest next cs else .error .tooLarge

@[simp] theorem extend_nil (base greatest value : Nat) :
    extend base greatest value [] = .ok value := rfl

/-- Read an unsigned integer of at most `greatest`. -/
def read (base greatest : Nat) : List Char → Except Fault Nat
  | [] => .error .empty
  | ['+'] => .error .invalidDigit
  | '+' :: ds => extend base greatest 0 ds
  | ds => extend base greatest 0 ds

end SpriteStage.Unsigned
