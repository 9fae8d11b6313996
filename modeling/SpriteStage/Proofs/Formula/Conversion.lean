import SpriteStage.Formula.ValueReader
import SpriteStage.Proofs.Formula.Grammar

/-!
# Conversion to postfix order

The conversion looks at the lexemes one by one and at nothing but parentheses when it refuses, so it
can be described without its stack.

* `Overdrawn`: some beginning closes more parentheses than are open; `Converted` says from this and
  from the number of parentheses how a conversion ends (`converted_postfixFrom`);
* what is not a parenthesis comes out once, and the numbers come out in order
  (`perm_of_postfixFrom`, `numbers_of_postfixFrom`);
* `Yard` is the same conversion with lexemes on both sides, where parentheses could come out; it is
  the conversion to instructions (`convert_eq`), so a calculation never meets one
  (`value_eq_evaluate`).
-/

namespace SpriteStage.Formula

variable {depth depth' : Nat} {item : Lexeme} {items rest : List Lexeme}
  {stack kept : List Waiting} {ops : List Operator} {steps : List Instruction}
  {result : Except Fault (List Instruction)}

/-! ### Kinds of lexemes -/

/-- Whether a lexeme is an opening or a closing parenthesis. -/
def Lexeme.isParenthesis : Lexeme → Bool
  | .opening | .closing => true
  | .number _ | .operator _ => false

/-- The value of a number. -/
def Lexeme.number? : Lexeme → Option Binary64
  | .number value => some value
  | .operator _ | .opening | .closing => none

/-- The lexeme of an instruction. -/
def Instruction.lexeme : Instruction → Lexeme
  | .push value => .number value
  | .apply op => .operator op

/-- The lexeme that waits. -/
def Waiting.lexeme : Waiting → Lexeme
  | .operator op => .operator op
  | .opening => .opening

@[simp] theorem isParenthesis_lexeme (i : Instruction) : i.lexeme.isParenthesis = false := by
  cases i <;> rfl

@[simp] theorem lexeme_comp_apply : Instruction.lexeme ∘ Instruction.apply = .operator := rfl

@[simp] theorem lexeme_comp_operator : Waiting.lexeme ∘ Waiting.operator = .operator := rfl

/-! ### Balance -/

/-- Some beginning closes more parentheses than are open, with so many open before it. -/
def Overdrawn (depth : Nat) (items : List Lexeme) : Prop :=
  ∃ front, front <+: items ∧ depth + front.count .opening < front.count .closing

theorem not_overdrawn_nil : ¬ Overdrawn depth [] := by
  rintro ⟨front, hf, hc⟩
  simp [List.prefix_nil.1 hf] at hc

/-- The empty beginning closes nothing. -/
theorem overdrawn_cons : Overdrawn depth (item :: rest) ↔ ∃ front, front <+: rest ∧
    depth + (item :: front).count .opening < (item :: front).count .closing := by
  constructor
  · rintro ⟨front, hf, hc⟩
    rcases List.prefix_cons_iff.1 hf with rfl | ⟨rest, rfl, hrest⟩
    · simp at hc
    · exact ⟨rest, hrest, hc⟩
  · rintro ⟨front, hf, hc⟩
    exact ⟨item :: front, (List.prefix_cons_inj item).2 hf, hc⟩

theorem overdrawn_of_not_isParenthesis (h : item.isParenthesis = false) :
    Overdrawn depth (item :: rest) ↔ Overdrawn depth rest := by
  rw [overdrawn_cons]
  cases item <;> simp_all [Lexeme.isParenthesis, Overdrawn]

theorem overdrawn_opening : Overdrawn depth (.opening :: rest) ↔ Overdrawn (depth + 1) rest := by
  rw [overdrawn_cons]
  simp [Overdrawn, Nat.add_assoc, Nat.add_comm 1]

theorem overdrawn_closing_zero : Overdrawn 0 (.closing :: rest) :=
  ⟨[.closing], List.prefix_append [_] rest, by simp⟩

theorem overdrawn_closing : Overdrawn (depth + 1) (.closing :: rest) ↔ Overdrawn depth rest := by
  rw [overdrawn_cons]
  simp [Overdrawn, Nat.add_right_comm _ 1]

/-! ### How a conversion ends -/

/-- How a conversion ends when so many parentheses are open before the lexemes. -/
inductive Converted (depth : Nat) (items : List Lexeme) :
    Except Fault (List Instruction) → Prop
  | overdrawn (h : Overdrawn depth items) : Converted depth items (.error .unbalancedClosing)
  | unclosed (h : ¬ Overdrawn depth items)
      (hc : items.count .closing < depth + items.count .opening) :
      Converted depth items (.error .unbalancedOpening)
  | done (h : ¬ Overdrawn depth items)
      (hc : items.count .closing = depth + items.count .opening) (steps : List Instruction) :
      Converted depth items (.ok steps)

/-- What has come out before does not matter. -/
theorem Converted.map (h : Converted depth items result)
    (f : List Instruction → List Instruction) :
    Converted depth items (result >>= fun steps => pure (f steps)) := by
  cases h with
  | overdrawn h => exact .overdrawn h
  | unclosed h hc => exact .unclosed h hc
  | done h hc steps => exact .done h hc (f steps)

/-- The conversion of a list ends like that of its rest, with the parentheses open that its first
lexeme leaves. -/
theorem Converted.cons (h : Converted depth' rest result)
    (ho : Overdrawn depth (item :: rest) ↔ Overdrawn depth' rest)
    (hc : (item :: rest).count .closing + (depth' + rest.count .opening) =
      rest.count .closing + (depth + (item :: rest).count .opening)) :
    Converted depth (item :: rest) result := by
  cases h with
  | overdrawn h => exact .overdrawn (ho.2 h)
  | unclosed h hlt => exact .unclosed (mt ho.1 h) (by omega)
  | done h heq steps => exact .done (mt ho.1 h) (by omega) steps

theorem openings_of_close?_eq_none (h : close? stack = none) : openings stack = 0 := by
  induction stack with
  | nil => rfl
  | cons w rest ih =>
    cases w with
    | opening => cases h
    | operator op => exact ih (Option.map_eq_none_iff.1 h)

theorem openings_of_flush?_eq_none (h : flush? stack = none) : 0 < openings stack := by
  induction stack with
  | nil => cases h
  | cons w rest ih =>
    cases w with
    | opening => exact Nat.succ_pos _
    | operator op => exact ih (Option.map_eq_none_iff.1 h)

/-- **How a conversion ends is a matter of its parentheses.** -/
theorem converted_postfixFrom (stack : List Waiting) (items : List Lexeme) :
    Converted (openings stack) items (postfixFrom stack items) := by
  induction items generalizing stack with
  | nil =>
    rw [postfixFrom]
    split
    · next hf =>
      refine .unclosed not_overdrawn_nil ?_
      simpa using openings_of_flush?_eq_none hf
    · next ops hf =>
      refine .done not_overdrawn_nil ?_ _
      simpa using (openings_of_flush? hf).symm
  | cons item rest ih =>
    cases item with
    | number value =>
      exact ((ih stack).map _).cons (overdrawn_of_not_isParenthesis rfl) (by simp)
    | operator op =>
      have hrest := ih (.operator op :: (release op stack).2)
      rw [openings, openings_release] at hrest
      exact (hrest.map _).cons (overdrawn_of_not_isParenthesis rfl) (by simp)
    | opening =>
      exact (ih (.opening :: stack)).cons overdrawn_opening (by simp [openings]; omega)
    | closing =>
      rw [postfixFrom]
      split
      · next hc =>
        rw [openings_of_close?_eq_none hc]
        exact .overdrawn overdrawn_closing_zero
      · next ops kept hc =>
        rw [openings_of_close? hc]
        exact ((ih kept).map _).cons overdrawn_closing (by simp; omega)

/-! ### What comes out -/

/-- What is let go of was in front. -/
theorem release_append (next : Operator) (stack : List Waiting) :
    (release next stack).1.map .operator ++ (release next stack).2 = stack := by
  induction stack with
  | nil => rfl
  | cons w rest ih =>
    cases w with
    | opening => rfl
    | operator op =>
      rw [release]
      split
      · exact congrArg (Waiting.operator op :: ·) ih
      · rfl

theorem eq_of_close? (h : close? stack = some (ops, kept)) :
    stack = ops.map .operator ++ .opening :: kept := by
  induction stack generalizing ops with
  | nil => cases h
  | cons w rest ih =>
    cases w with
    | opening =>
      cases h
      rfl
    | operator op =>
      obtain ⟨⟨ops', kept'⟩, hp, he⟩ := Option.map_eq_some_iff.1 h
      cases he
      exact congrArg (Waiting.operator op :: ·) (ih hp)

theorem eq_of_flush? (h : flush? stack = some ops) : stack = ops.map .operator := by
  induction stack generalizing ops with
  | nil =>
    cases h
    rfl
  | cons w rest ih =>
    cases w with
    | opening => cases h
    | operator op =>
      obtain ⟨ops', hp, he⟩ := Option.map_eq_some_iff.1 h
      subst he
      exact congrArg (Waiting.operator op :: ·) (ih hp)

/-- The lexemes that are no parentheses. -/
def kernel (items : List Lexeme) : List Lexeme := items.filter (!·.isParenthesis)

@[simp] theorem kernel_nil : kernel [] = [] := rfl

@[simp] theorem kernel_append (items rest : List Lexeme) :
    kernel (items ++ rest) = kernel items ++ kernel rest := List.filter_append ..

@[simp] theorem kernel_operator_cons (op : Operator) (rest : List Lexeme) :
    kernel (.operator op :: rest) = .operator op :: kernel rest := rfl

@[simp] theorem kernel_opening_cons (rest : List Lexeme) : kernel (.opening :: rest) = kernel rest :=
  rfl

@[simp] theorem kernel_closing_cons (rest : List Lexeme) : kernel (.closing :: rest) = kernel rest :=
  rfl

@[simp] theorem kernel_operators (ops : List Operator) :
    kernel (ops.map .operator) = ops.map .operator := by
  simp [kernel, Lexeme.isParenthesis]

/-- **What comes out is what came in and what waited**, less the parentheses. -/
theorem perm_of_postfixFrom (h : postfixFrom stack items = .ok steps) :
    (steps.map Instruction.lexeme).Perm (kernel items ++ kernel (stack.map Waiting.lexeme)) := by
  induction items generalizing stack steps with
  | nil =>
    rw [postfixFrom] at h
    split at h
    · cases h
    · next ops hf =>
      cases h
      simp [eq_of_flush? hf]
  | cons item rest ih =>
    cases item with
    | number value =>
      obtain ⟨steps', hrest, he⟩ := exists_of_bind_eq_ok h
      cases he
      exact (ih hrest).cons (Lexeme.number value)
    | operator op =>
      obtain ⟨steps', hrest, he⟩ := exists_of_bind_eq_ok h
      cases he
      have hperm := ih hrest
      have hstack := congrArg (List.map Waiting.lexeme) (release_append op stack)
      rw [List.map_append, List.map_map, lexeme_comp_operator] at hstack
      rw [← hstack]
      refine List.perm_iff_count.2 fun l => ?_
      have hcount := hperm.count_eq l
      simp [List.count_cons, Waiting.lexeme] at hcount ⊢
      omega
    | opening =>
      have hrest : postfixFrom (.opening :: stack) rest = .ok steps := h
      have hperm := ih hrest
      exact hperm
    | closing =>
      rw [postfixFrom] at h
      split at h
      · cases h
      · next ops kept hc =>
        obtain ⟨steps', hrest, he⟩ := exists_of_bind_eq_ok h
        cases he
        have hperm := ih hrest
        refine List.perm_iff_count.2 fun l => ?_
        have hcount := hperm.count_eq l
        simp [eq_of_close? hc, Waiting.lexeme] at hcount ⊢
        omega

/-- The values of the numbers. -/
def numbers (items : List Lexeme) : List Binary64 := items.filterMap Lexeme.number?

@[simp] theorem numbers_append (items rest : List Lexeme) :
    numbers (items ++ rest) = numbers items ++ numbers rest := List.filterMap_append

@[simp] theorem numbers_operator_cons (op : Operator) (rest : List Lexeme) :
    numbers (.operator op :: rest) = numbers rest := rfl

@[simp] theorem numbers_closing_cons (rest : List Lexeme) :
    numbers (.closing :: rest) = numbers rest := rfl

@[simp] theorem numbers_operators (ops : List Operator) : numbers (ops.map .operator) = [] := by
  simp [numbers, Lexeme.number?]

/-- **The numbers come out in order**, since they never wait. -/
theorem numbers_of_postfixFrom (h : postfixFrom stack items = .ok steps) :
    numbers (steps.map Instruction.lexeme) = numbers items := by
  induction items generalizing stack steps with
  | nil =>
    rw [postfixFrom] at h
    split at h
    · cases h
    · next ops hf =>
      cases h
      simp [numbers, Lexeme.number?]
  | cons item rest ih =>
    cases item with
    | number value =>
      obtain ⟨steps', hrest, he⟩ := exists_of_bind_eq_ok h
      cases he
      exact congrArg (value :: ·) (ih hrest)
    | operator op =>
      obtain ⟨steps', hrest, he⟩ := exists_of_bind_eq_ok h
      cases he
      simpa using ih hrest
    | opening =>
      have hrest : postfixFrom (.opening :: stack) rest = .ok steps := h
      exact ih hrest
    | closing =>
      rw [postfixFrom] at h
      split at h
      · cases h
      · next ops kept hc =>
        obtain ⟨steps', hrest, he⟩ := exists_of_bind_eq_ok h
        cases he
        simpa using ih hrest

/-! ### The conversion with lexemes on both sides -/

/-- What has come out, and what waits, nearest first. -/
structure Yard where
  output : List Lexeme
  waiting : List Lexeme

namespace Yard

/-- Let go of the operators that come before `next`, back to anything else that waits. -/
def release (next : Operator) (output : List Lexeme) : List Lexeme → Yard
  | .operator op :: rest =>
      if op.precedes next then release next (output ++ [.operator op]) rest
      else ⟨output, .operator op :: rest⟩
  | waiting => ⟨output, waiting⟩

/-- Let go of what waits, back to an opening parenthesis, which goes too. -/
def close (output : List Lexeme) : List Lexeme → Except Fault Yard
  | [] => .error .unbalancedClosing
  | item :: rest =>
      if item = .opening then .ok ⟨output, rest⟩ else close (output ++ [item]) rest

/-- Let go of all that waits. -/
def flush (output : List Lexeme) : List Lexeme → Except Fault (List Lexeme)
  | [] => .ok output
  | item :: rest =>
      if item = .opening then .error .unbalancedOpening else flush (output ++ [item]) rest

/-- Take in a lexeme. -/
def step (y : Yard) : Lexeme → Except Fault Yard
  | .number value => .ok { y with output := y.output ++ [.number value] }
  | .operator op =>
      let y := release op y.output y.waiting
      .ok { y with waiting := .operator op :: y.waiting }
  | .opening => .ok { y with waiting := .opening :: y.waiting }
  | .closing => close y.output y.waiting

/-- Take in lexemes, then let go of all that waits. -/
def convertFrom (y : Yard) (items : List Lexeme) : Except Fault (List Lexeme) := do
  let y ← items.foldlM step y
  flush y.output y.waiting

/-- The lexemes in postfix order. -/
def convert (items : List Lexeme) : Except Fault (List Lexeme) := convertFrom ⟨[], []⟩ items

variable {output : List Lexeme}

theorem release_eq (next : Operator) (output : List Lexeme) (stack : List Waiting) :
    release next output (stack.map Waiting.lexeme) =
      ⟨output ++ (Formula.release next stack).1.map .operator,
        (Formula.release next stack).2.map Waiting.lexeme⟩ := by
  induction stack generalizing output with
  | nil => simp [release, Formula.release]
  | cons w rest ih =>
    cases w with
    | opening => simp [release, Formula.release, Waiting.lexeme]
    | operator op =>
      simp only [List.map_cons, Waiting.lexeme, release, Formula.release]
      split
      · simp [ih]
      · simp [Waiting.lexeme]

theorem close_eq (output : List Lexeme) (stack : List Waiting) :
    close output (stack.map Waiting.lexeme) =
      match close? stack with
      | none => .error .unbalancedClosing
      | some (ops, kept) => .ok ⟨output ++ ops.map .operator, kept.map Waiting.lexeme⟩ := by
  induction stack generalizing output with
  | nil => rfl
  | cons w rest ih =>
    cases w with
    | opening => simp [close, close?, Waiting.lexeme]
    | operator op =>
      simp only [List.map_cons, Waiting.lexeme, close, close?, reduceCtorEq, if_false, ih]
      cases close? rest <;> simp

theorem flush_eq (output : List Lexeme) (stack : List Waiting) :
    flush output (stack.map Waiting.lexeme) =
      match flush? stack with
      | none => .error .unbalancedOpening
      | some ops => .ok (output ++ ops.map .operator) := by
  induction stack generalizing output with
  | nil => simp [flush, flush?]
  | cons w rest ih =>
    cases w with
    | opening => simp [flush, flush?, Waiting.lexeme]
    | operator op =>
      simp only [List.map_cons, Waiting.lexeme, flush, flush?, reduceCtorEq, if_false, ih]
      cases flush? rest <;> simp

theorem convertFrom_cons (y : Yard) (item : Lexeme) (rest : List Lexeme) :
    convertFrom y (item :: rest) = y.step item >>= fun y => convertFrom y rest := by
  rw [convertFrom, List.foldlM_cons, bind_assoc]
  rfl

theorem map_bind_prepend (result : Except Fault (List Instruction)) (front : List Instruction)
    (output : List Lexeme) :
    (result >>= fun steps => pure (front ++ steps)).map
        (fun steps => output ++ steps.map Instruction.lexeme) =
      result.map fun steps => (output ++ front.map Instruction.lexeme) ++
        steps.map Instruction.lexeme := by
  cases result with
  | error fault => rfl
  | ok steps => exact congrArg Except.ok (by simp)

/-- What has come out before stays in front. -/
theorem convertFrom_eq (output : List Lexeme) (stack : List Waiting) (items : List Lexeme) :
    convertFrom ⟨output, stack.map Waiting.lexeme⟩ items =
      (postfixFrom stack items).map fun steps => output ++ steps.map Instruction.lexeme := by
  induction items generalizing output stack with
  | nil =>
    show flush output (stack.map Waiting.lexeme) = _
    rw [flush_eq, postfixFrom]
    cases flush? stack with
    | none => rfl
    | some ops => exact congrArg Except.ok (by simp)
  | cons item rest ih =>
    rw [convertFrom_cons]
    cases item with
    | number value =>
      exact (ih (output ++ [.number value]) stack).trans
        (map_bind_prepend (postfixFrom stack rest) [.push value] output).symm
    | operator op =>
      have hrest := ih (output ++ (Formula.release op stack).1.map .operator)
        (.operator op :: (Formula.release op stack).2)
      rw [step, release_eq]
      refine hrest.trans ?_
      rw [postfixFrom]
      refine Eq.trans ?_ (map_bind_prepend _ _ output).symm
      simp
    | opening => exact ih output (.opening :: stack)
    | closing =>
      rw [step, close_eq, postfixFrom]
      cases close? stack with
      | none => rfl
      | some p =>
        refine (ih (output ++ p.1.map .operator) p.2).trans ?_
        refine Eq.trans ?_ (map_bind_prepend _ _ output).symm
        simp

/-- **Both conversions are one**, and no parenthesis comes out. -/
theorem convert_eq (items : List Lexeme) :
    convert items = (toPostfix items).map (·.map Instruction.lexeme) :=
  convertFrom_eq [] [] items

end Yard

/-! ### The calculation with lexemes -/

/-- One step of a calculation with lexemes; `met` is the answer to a parenthesis. -/
def Lexeme.calculate (met : Except Fault (List Binary64)) (stack : List Binary64) :
    Lexeme → Except Fault (List Binary64)
  | .number value => .ok (value :: stack)
  | .operator op => op.apply stack
  | .opening | .closing => met

/-- All steps from an empty stack; one finite number must remain. -/
def evaluate (met : Except Fault (List Binary64)) (items : List Lexeme) :
    Except Fault Binary64 := do
  match ← items.foldlM (Lexeme.calculate met) [] with
  | [value] => if value.isFinite then .ok value else .error .notFinite
  | _ => .error .malformed

theorem evaluate_lexemes (met : Except Fault (List Binary64)) (steps : List Instruction) :
    evaluate met (steps.map Instruction.lexeme) = run steps := by
  have hstep : (fun stack i => Lexeme.calculate met stack (Instruction.lexeme i)) =
      Instruction.step := by
    funext stack i
    cases i <;> rfl
  rw [evaluate, List.foldlM_map, hstep]
  rfl

/-- A calculation from a text never meets a parenthesis, whatever the answer to one would be. -/
theorem value_eq_evaluate (screen : ScreenSize) (cs : List Char)
    (met : Except Fault (List Binary64)) :
    value screen cs = (do evaluate met (← Yard.convert (← scan screen cs))) := by
  rw [value]
  cases scan screen cs with
  | error fault => rfl
  | ok items =>
    show _ = Yard.convert items >>= evaluate met
    rw [Yard.convert_eq]
    show (toPostfix items >>= run) = _
    cases toPostfix items with
    | error fault => rfl
    | ok steps => exact (evaluate_lexemes met steps).symm

/-! ### Every list of lexemes -/

theorem overdrawn_zero_iff : Overdrawn 0 items ↔
    ∃ front, front <+: items ∧ front.count .opening < front.count .closing := by
  simp [Overdrawn]

theorem not_overdrawn_zero_iff : ¬ Overdrawn 0 items ↔
    ∀ front, front <+: items → front.count .closing ≤ front.count .opening := by
  simp [Overdrawn]

/-- Whether a conversion was refused, and in which words. -/
def Refused (result : Except Fault (List Instruction)) (message : String) : Prop :=
  ∃ fault, result = .error fault ∧ fault.message = message

theorem Converted.refused_closing_iff (h : Converted depth items result) :
    Refused result "unbalanced ')'" ↔ Overdrawn depth items := by
  cases h with
  | overdrawn h => exact iff_of_true ⟨_, rfl, rfl⟩ h
  | unclosed h hc =>
    refine iff_of_false ?_ h
    rintro ⟨fault, hf, hm⟩
    cases hf
    exact absurd hm (by decide)
  | done h hc steps =>
    refine iff_of_false ?_ h
    rintro ⟨fault, hf, -⟩
    cases hf

theorem Converted.refused_opening_iff (h : Converted depth items result) :
    Refused result "unbalanced '('" ↔
      ¬ Overdrawn depth items ∧ items.count .closing < depth + items.count .opening := by
  cases h with
  | overdrawn h =>
    refine iff_of_false ?_ (absurd h ·.1)
    rintro ⟨fault, hf, hm⟩
    cases hf
    exact absurd hm (by decide)
  | unclosed h hc => exact iff_of_true ⟨_, rfl, rfl⟩ ⟨h, hc⟩
  | done h hc steps =>
    refine iff_of_false ?_ fun hlt => Nat.ne_of_lt hlt.2 hc
    rintro ⟨fault, hf, -⟩
    cases hf

theorem Converted.exists_steps (h : Converted depth items result) (ho : ¬ Overdrawn depth items)
    (hc : depth + items.count .opening ≤ items.count .closing) : ∃ steps, result = .ok steps := by
  cases h with
  | overdrawn h => exact absurd h ho
  | unclosed h hlt => exact absurd hlt (Nat.not_lt.2 hc)
  | done h heq steps => exact ⟨steps, rfl⟩

/-- **The conversion refuses what is not balanced and keeps every item of the rest.** It reports a
closing parenthesis if some beginning of the lexemes closes more than it opens, and otherwise an
opening one if more are opened than closed. Otherwise there are instructions, for the numbers and
operators of the list and nothing else, with the numbers in their order. The conversion that could
put out parentheses as well puts out the same, so that no calculation from a text depends on the
answer to a parenthesis. -/
theorem conversion_keeps_items (items : List Lexeme) :
    (Refused (toPostfix items) "unbalanced ')'" ↔
      ∃ front, front <+: items ∧ front.count .opening < front.count .closing) ∧
    (Refused (toPostfix items) "unbalanced '('" ↔
      (∀ front, front <+: items → front.count .closing ≤ front.count .opening) ∧
        items.count .closing < items.count .opening) ∧
    ((∀ front, front <+: items → front.count .closing ≤ front.count .opening) →
      items.count .opening ≤ items.count .closing →
      ∃ steps output, toPostfix items = .ok steps ∧ Yard.convert items = .ok output ∧
        output = steps.map Instruction.lexeme ∧ output.Perm (kernel items) ∧
        numbers output = numbers items ∧ ∀ item ∈ output, item.isParenthesis = false) ∧
    Yard.convert items = (toPostfix items).map (·.map Instruction.lexeme) ∧
    ∀ screen cs met,
      value screen cs = (do evaluate met (← Yard.convert (← scan screen cs))) := by
  have hend : Converted 0 items (toPostfix items) := converted_postfixFrom [] items
  refine ⟨?_, ?_, fun hfronts hcount => ?_, Yard.convert_eq items, value_eq_evaluate⟩
  · rw [hend.refused_closing_iff, overdrawn_zero_iff]
  · rw [hend.refused_opening_iff, not_overdrawn_zero_iff, Nat.zero_add]
  · obtain ⟨steps, hsteps⟩ :=
      hend.exists_steps (not_overdrawn_zero_iff.2 hfronts) (by rwa [Nat.zero_add])
    have hperm := perm_of_postfixFrom hsteps
    rw [List.map_nil, kernel_nil, List.append_nil] at hperm
    have houtput : Yard.convert items = .ok (steps.map Instruction.lexeme) := by
      rw [Yard.convert_eq, hsteps]
      rfl
    exact ⟨steps, _, hsteps, houtput, rfl, hperm, numbers_of_postfixFrom hsteps, by simp⟩

/-- As many are opened as closed, but too late. -/
example : toPostfix [.closing, .opening] = .error .unbalancedClosing := rfl

end SpriteStage.Formula
