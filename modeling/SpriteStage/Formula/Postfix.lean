import SpriteStage.Formula.Lexeme

/-!
# Postfix order

Instructions for a stack of numbers, made from lexemes with a stack of waiting operators.

* an operator first lets go of the waiting operators that bind at least as tightly (for the sign:
  more tightly), back to the last opening parenthesis;
* a closing parenthesis lets go of all operators back to the opening one;
* only the balance of parentheses is checked here, `run` finds every other misplaced piece.
-/

namespace SpriteStage.Formula

/-- A step of a stack calculation. -/
inductive Instruction
  | push (value : Binary64)
  | apply (op : Operator)
  deriving DecidableEq, Repr

/-- What waits for its right operand or for a closing parenthesis. -/
inductive Waiting
  | operator (op : Operator)
  | opening
  deriving DecidableEq, Repr

/-! ### Binding -/

/-- How tightly an operator binds. -/
def Operator.precedence : Operator → Nat
  | .plus | .minus => 2
  | .times | .divide => 3
  | .negate => 4

/-- Whether `waiting` is applied before an operator `next` to its right. -/
def Operator.precedes (waiting next : Operator) : Bool :=
  next.precedence < waiting.precedence ||
    (waiting.precedence == next.precedence && next != .negate)

/-! ### Conversion -/

/-- The waiting operators that come before `next`, nearest first, and what keeps waiting. -/
def release (next : Operator) : List Waiting → List Operator × List Waiting
  | .operator op :: rest =>
      if op.precedes next then
        let (ops, kept) := release next rest
        (op :: ops, kept)
      else ([], .operator op :: rest)
  | stack => ([], stack)

/-- The operators back to the last opening parenthesis, nearest first, and what waits before it. -/
def close? : List Waiting → Option (List Operator × List Waiting)
  | [] => none
  | .opening :: rest => some ([], rest)
  | .operator op :: rest => (close? rest).map fun (ops, kept) => (op :: ops, kept)

/-- The operators of a stack without parentheses, nearest first. -/
def flush? : List Waiting → Option (List Operator)
  | [] => some []
  | .opening :: _ => none
  | .operator op :: rest => (flush? rest).map (op :: ·)

/-- The instructions for the lexemes, with `stack` waiting. -/
def postfixFrom (stack : List Waiting) : List Lexeme → Except Fault (List Instruction)
  | [] =>
      match flush? stack with
      | none => .error .unbalancedOpening
      | some ops => .ok (ops.map .apply)
  | .number value :: rest => do return .push value :: (← postfixFrom stack rest)
  | .operator op :: rest => do
      let (ops, kept) := release op stack
      return ops.map .apply ++ (← postfixFrom (.operator op :: kept) rest)
  | .opening :: rest => postfixFrom (.opening :: stack) rest
  | .closing :: rest =>
      match close? stack with
      | none => .error .unbalancedClosing
      | some (ops, kept) => do return ops.map .apply ++ (← postfixFrom kept rest)

/-- The instructions for the lexemes of a formula. -/
def toPostfix (items : List Lexeme) : Except Fault (List Instruction) := postfixFrom [] items

@[simp] theorem toPostfix_nil : toPostfix [] = .ok [] := rfl

/-! ### Calculation -/

/-- Apply an operator to the numbers on top of the stack. -/
def Operator.apply : Operator → List Binary64 → Except Fault (List Binary64)
  | .negate, a :: stack => .ok (-a :: stack)
  | .plus, b :: a :: stack => .ok ((a + b) :: stack)
  | .minus, b :: a :: stack => .ok ((a - b) :: stack)
  | .times, b :: a :: stack => .ok ((a * b) :: stack)
  | .divide, b :: a :: stack =>
      if b.isZero then .error .divisionByZero else .ok ((a / b) :: stack)
  | _, _ => .error .malformed

/-- One step on a stack. -/
def Instruction.step (stack : List Binary64) : Instruction → Except Fault (List Binary64)
  | .push value => .ok (value :: stack)
  | .apply op => op.apply stack

/-- All steps from an empty stack; one finite number must remain. -/
def run (steps : List Instruction) : Except Fault Binary64 := do
  match ← steps.foldlM Instruction.step [] with
  | [value] => if value.isFinite then .ok value else .error .notFinite
  | _ => .error .malformed

end SpriteStage.Formula
