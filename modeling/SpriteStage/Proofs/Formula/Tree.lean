import SpriteStage.Formula.ValueReader
import SpriteStage.Proofs.Formula.Literal

/-!
# What a formula means

The trees of the infix grammar, with their texts and values, and the way of a text through the
scanner, the postfix order and the stack.

* `Tree level`: the expressions, terms, factors and primaries of the grammar; sums and products
  lean to the left;
* `scanFrom_render`: the text of a tree is cut into its lexemes;
* `postfixFrom_lexemes`: these become its instructions, whatever waits on the stack of operators;
* `foldlM_instructions`: these put its value on the stack of numbers, unless a division by zero
  stops them;
* `value_render`: so a token is read as the value of the tree that it is the text of.
-/

namespace SpriteStage.Formula

/-! ### Trees -/

/-- A side of the screen. -/
inductive Side
  | width
  | height
  deriving DecidableEq, Repr

namespace Side

/-- How long a side is. -/
def length (screen : ScreenSize) : Side → Int32
  | width => screen.width
  | height => screen.height

/-- What follows the percent sign. -/
def unit : Side → Char
  | width => 'w'
  | height => 'h'

/-- The name of a side. -/
def name : Side → List Char
  | width => "screenWidth".toList
  | height => "screenHeight".toList

end Side

/-- The levels of the grammar, from the loosest to the tightest. -/
inductive Level
  | expression
  | term
  | factor
  | primary
  deriving DecidableEq, Repr

/-- The trees of the grammar. -/
inductive Tree : Level → Type
  /-- A literal, or so many hundredths of a side. -/
  | literal (l : Literal) (unit : Option Side) : Tree .primary
  | screen (side : Side) : Tree .primary
  | group (e : Tree .expression) : Tree .primary
  | operand (p : Tree .primary) : Tree .factor
  | signed (minus : Bool) (f : Tree .factor) : Tree .factor
  | single (f : Tree .factor) : Tree .term
  | product (t : Tree .term) (divide : Bool) (f : Tree .factor) : Tree .term
  | lone (t : Tree .term) : Tree .expression
  | sum (e : Tree .expression) (minus : Bool) (t : Tree .term) : Tree .expression

/-- The operator of a product. -/
def productOperator (divide : Bool) : Operator := if divide then .divide else .times

/-- The operator of a sum. -/
def sumOperator (minus : Bool) : Operator := if minus then .minus else .plus

namespace Tree

variable {level : Level}

/-- The text of a tree. -/
def render : {level : Level} → Tree level → List Char
  | _, literal l none => l.text
  | _, literal l (some side) => l.text ++ ['%', side.unit]
  | _, screen side => side.name
  | _, group e => '(' :: (e.render ++ [')'])
  | _, operand p => p.render
  | _, signed minus f => (if minus then '-' else '+') :: f.render
  | _, single f => f.render
  | _, product t divide f => t.render ++ (if divide then '/' else '*') :: f.render
  | _, lone t => t.render
  | _, sum e minus t => e.render ++ (if minus then '-' else '+') :: t.render

section Screen

variable (screen : ScreenSize)

/-- The value of a tree. -/
def value : {level : Level} → Tree level → Binary64
  | _, literal l none => l.decimal.toBinary64 false
  | _, literal l (some side) => percent (l.decimal.toBinary64 false) (side.length screen)
  | _, .screen side => .ofCoordinate (side.length screen)
  | _, group e => e.value
  | _, operand p => p.value
  | _, signed minus f => if minus then -f.value else f.value
  | _, single f => f.value
  | _, product t divide f => if divide then t.value / f.value else t.value * f.value
  | _, lone t => t.value
  | _, sum e minus t => if minus then e.value - t.value else e.value + t.value

/-- Whether some division in a tree has a zero on its right. -/
def dividesByZero : {level : Level} → Tree level → Bool
  | _, literal _ _ => false
  | _, .screen _ => false
  | _, group e => e.dividesByZero
  | _, operand p => p.dividesByZero
  | _, signed _ f => f.dividesByZero
  | _, single f => f.dividesByZero
  | _, product t divide f =>
      t.dividesByZero || f.dividesByZero || (divide && (f.value screen).isZero)
  | _, lone t => t.dividesByZero
  | _, sum e _ t => e.dividesByZero || t.dividesByZero

/-- The lexemes of a tree; a sign plus has none. -/
def lexemes : {level : Level} → Tree level → List Lexeme
  | _, literal l unit => [.number ((literal l unit).value screen)]
  | _, .screen side => [.number ((Tree.screen side).value screen)]
  | _, group e => .opening :: (e.lexemes ++ [.closing])
  | _, operand p => p.lexemes
  | _, signed minus f => if minus then .operator .negate :: f.lexemes else f.lexemes
  | _, single f => f.lexemes
  | _, product t divide f => t.lexemes ++ .operator (productOperator divide) :: f.lexemes
  | _, lone t => t.lexemes
  | _, sum e minus t => e.lexemes ++ .operator (sumOperator minus) :: t.lexemes

/-- The instructions of a tree: operands first. -/
def instructions : {level : Level} → Tree level → List Instruction
  | _, literal l unit => [.push ((literal l unit).value screen)]
  | _, .screen side => [.push ((Tree.screen side).value screen)]
  | _, group e => e.instructions
  | _, operand p => p.instructions
  | _, signed minus f => f.instructions ++ if minus then [.apply .negate] else []
  | _, single f => f.instructions
  | _, product t divide f => t.instructions ++ (f.instructions ++ [.apply (productOperator divide)])
  | _, lone t => t.instructions
  | _, sum e minus t => e.instructions ++ (t.instructions ++ [.apply (sumOperator minus)])

end Screen

end Tree

/-! ### From the text to the lexemes -/

section Scanning

variable {screen : ScreenSize} {rest : List Char} {sign : Bool}

/-- A text that ends an operand: nothing, a binary operator or a closing parenthesis. -/
def EndsOperand (rest : List Char) : Prop := ∀ c ∈ rest.head?, c ∈ ['+', '-', '*', '/', ')']

theorem endsOperand_cons {c : Char} (h : c ∈ ['+', '-', '*', '/', ')']) (rest : List Char) :
    EndsOperand (c :: rest) := by
  intro d hd
  obtain rfl : c = d := Option.some.inj hd
  exact h

theorem EndsOperand.endsRun {p : Char → Bool} (h : EndsOperand rest)
    (hp : ['+', '-', '*', '/', ')'].any p = false) : EndsRun p rest :=
  fun c hc => by simpa using List.any_eq_false.1 hp c (h c hc)

theorem scanFrom_literal (l : Literal) (hm : EndsRun isMantissaChar rest)
    (hn : EndsRun isNameChar rest) :
    scanFrom screen sign (l.text ++ rest) =
      scaled screen (l.decimal.toBinary64 false) rest >>= fun p =>
        (.number p.1 :: ·) <$> scanFrom screen false (rest.drop p.2) := by
  obtain ⟨c, cs, hcs, hc⟩ := l.exists_cons
  have htext : c :: (cs ++ rest) = l.text ++ rest := by rw [hcs]; rfl
  have hlength := l.literalLength_text hm hn
  rw [← htext, scanFrom, dif_pos hc]
  simp only [htext, hlength, List.take_left, List.drop_left, read?_text, bind_pure_comp]

theorem scanFrom_word {c : Char} {cs : List Char} {v : Binary64} (hm : isMantissaChar c = false)
    (hc : isNameStart c = true) (hcs : ∀ d ∈ cs, isNameChar d = true)
    (hk : keyword? screen (c :: cs) = some v) (hn : EndsRun isNameChar rest) :
    scanFrom screen sign (c :: (cs ++ rest)) = (.number v :: ·) <$> scanFrom screen false rest := by
  rw [scanFrom, dif_neg (by simp [hm]), if_pos hc]
  simp only [takeWhile_append_of_endsRun hcs hn, dropWhile_append_of_endsRun hcs hn, hk,
    bind_pure_comp]

theorem Side.keyword?_name (side : Side) :
    keyword? screen side.name = some (.ofCoordinate (side.length screen)) := by
  cases side with
  | width => rfl
  | height =>
    have hne : Side.height.name ≠ "screenWidth".toList := by decide
    rw [keyword?, if_neg hne]
    rfl

theorem scanFrom_name (side : Side) (hn : EndsRun isNameChar rest) :
    scanFrom screen sign (side.name ++ rest) =
      (.number (.ofCoordinate (side.length screen)) :: ·) <$> scanFrom screen false rest := by
  have hname : side.name = 's' :: side.name.tail := by cases side <;> decide
  have htail : ∀ d ∈ side.name.tail, isNameChar d = true :=
    List.all_eq_true.1 (by cases side <;> rfl)
  rw [hname]
  exact scanFrom_word rfl rfl htail (hname ▸ side.keyword?_name) hn

/-- A character of an operator or a parenthesis starts nothing else. -/
theorem not_isMantissaChar_of_symbol? {c : Char} {lexeme : Lexeme}
    (hc : symbol? c = some lexeme) : isMantissaChar c = false ∧ isNameStart c = false := by
  unfold symbol? at hc
  split at hc <;> first | exact ⟨rfl, rfl⟩ | cases hc

theorem scanFrom_symbol {c : Char} {lexeme : Lexeme} (hc : symbol? c = some lexeme)
    (hsign : sign = true → c ≠ '+' ∧ c ≠ '-') :
    scanFrom screen sign (c :: rest) =
      (lexeme :: ·) <$> scanFrom screen lexeme.allowsSign rest := by
  obtain ⟨hm, hn⟩ := not_isMantissaChar_of_symbol? hc
  have hplus : (sign && c == '+') = false := by
    cases sign with
    | false => rfl
    | true => simpa using (hsign rfl).1
  have hminus : (sign && c == '-') = false := by
    cases sign with
    | false => rfl
    | true => simpa using (hsign rfl).2
  rw [scanFrom]
  simp [hm, hn, hplus, hminus, hc]

theorem scanFrom_sign (minus : Bool) :
    scanFrom screen true ((if minus then '-' else '+') :: rest) =
      if minus then (.operator .negate :: ·) <$> scanFrom screen true rest
      else scanFrom screen true rest := by
  have hm : isMantissaChar (if minus then '-' else '+') = false := by cases minus <;> rfl
  have hn : isNameStart (if minus then '-' else '+') = false := by cases minus <;> rfl
  rw [scanFrom, dif_neg (by simp [hm]), if_neg (by simp [hn])]
  cases minus with
  | false => rfl
  | true => exact bind_pure_comp _ _

theorem scaled_of_endsOperand {v : Binary64} (h : EndsOperand rest) :
    scaled screen v rest = .ok (v, 0) := by
  cases rest with
  | nil => rfl
  | cons c cs =>
    have hc : c ≠ '%' := by
      rintro rfl
      exact absurd (h '%' rfl) (by decide)
    simp [scaled, hc]

/-- The text between two operands is cut into one operator. -/
theorem scanFrom_binary {left right : List Char} {ls rs : List Lexeme} {c : Char} {op : Operator}
    (hc : symbol? c = some (.operator op)) (hends : c ∈ ['+', '-', '*', '/', ')'])
    (hl : ∀ {rest}, EndsOperand rest →
      scanFrom screen true (left ++ rest) = (ls ++ ·) <$> scanFrom screen false rest)
    (hr : scanFrom screen true (right ++ rest) = (rs ++ ·) <$> scanFrom screen false rest) :
    scanFrom screen true (left ++ c :: right ++ rest) =
      (ls ++ .operator op :: rs ++ ·) <$> scanFrom screen false rest := by
  rw [List.append_assoc, List.cons_append, hl (endsOperand_cons hends _),
    scanFrom_symbol hc (by simp)]
  show _ <$> _ <$> scanFrom screen true (right ++ rest) = _
  rw [hr]
  simp

/-- **The text of a tree is cut into its lexemes.** -/
theorem scanFrom_render {level : Level} (t : Tree level) (h : EndsOperand rest) :
    scanFrom screen true (t.render ++ rest) =
      (t.lexemes screen ++ ·) <$> scanFrom screen false rest := by
  induction t generalizing rest with
  | literal l unit =>
    cases unit with
    | none =>
      have hscan := @scanFrom_literal screen rest true l
        (h.endsRun rfl) (h.endsRun rfl)
      rw [scaled_of_endsOperand h] at hscan
      exact hscan
    | some side =>
      have hpercent (p : Char → Bool) (hp : p '%' = false) : EndsRun p ('%' :: side.unit :: rest) :=
        endsRun_cons hp
      have hscaled : scaled screen (l.decimal.toBinary64 false) ('%' :: side.unit :: rest) =
          .ok (percent (l.decimal.toBinary64 false) (side.length screen), 2) := by
        cases side <;> rfl
      have hscan := @scanFrom_literal screen ('%' :: side.unit :: rest) true l
        (hpercent _ rfl) (hpercent _ rfl)
      rw [hscaled] at hscan
      rw [Tree.render, List.append_assoc]
      exact hscan
  | screen side => exact scanFrom_name side (h.endsRun rfl)
  | group e ih =>
    rw [Tree.render, List.cons_append, List.append_assoc, List.singleton_append]
    calc scanFrom screen true ('(' :: (e.render ++ ')' :: rest))
        = (Lexeme.opening :: ·) <$> scanFrom screen true (e.render ++ ')' :: rest) :=
          scanFrom_symbol rfl (by simp)
      _ = (Lexeme.opening :: ·) <$> (e.lexemes screen ++ ·) <$>
            scanFrom screen false (')' :: rest) := by
          rw [ih (endsOperand_cons (by simp) rest)]
      _ = (Lexeme.opening :: ·) <$> (e.lexemes screen ++ ·) <$> (Lexeme.closing :: ·) <$>
            scanFrom screen false rest := by
          rw [scanFrom_symbol rfl (by simp)]
          rfl
      _ = _ := by simp [Tree.lexemes]
  | operand p ih => exact ih h
  | signed minus f ih =>
    rw [Tree.render, List.cons_append, scanFrom_sign, ih h]
    cases minus <;> simp [Tree.lexemes]
  | single f ih => exact ih h
  | product t divide f iht ihf =>
    have hc : symbol? (if divide then '/' else '*') =
        some (.operator (productOperator divide)) := by
      cases divide <;> rfl
    exact scanFrom_binary hc (by cases divide <;> simp) iht (ihf h)
  | lone t ih => exact ih h
  | sum e minus t ihe iht =>
    have hc : symbol? (if minus then '-' else '+') = some (.operator (sumOperator minus)) := by
      cases minus <;> rfl
    exact scanFrom_binary hc (by cases minus <;> simp) ihe (iht h)

end Scanning

/-! ### From the lexemes to the instructions -/

/-- How tightly the operators of a level bind at least; the primaries have none. -/
def Level.precedence : Level → Nat
  | .expression => 2
  | .term => 3
  | .factor => 4
  | .primary => 5

/-- No operator of a level lets go of what waits. -/
def Level.Keeps (level : Level) (stack : List Waiting) : Prop :=
  ∀ op rest, stack = .operator op :: rest →
    ∀ next : Operator, level.precedence ≤ next.precedence → op.precedes next = false

/-- What follows lets go of every operator of a level. -/
def Level.Ends (level : Level) : List Lexeme → Prop
  | [] | .closing :: _ => True
  | .operator next :: _ =>
    ∀ op : Operator, level.precedence ≤ op.precedence → op.precedes next = true
  | _ => False

section Ordering

variable {level level' : Level} {stack : List Waiting} {items : List Lexeme} {op next : Operator}

theorem Level.Keeps.mono (h : level.Keeps stack) (hl : level.precedence ≤ level'.precedence) :
    level'.Keeps stack :=
  fun op rest hs next hn => h op rest hs next (Nat.le_trans hl hn)

theorem Level.Ends.mono (h : level.Ends items) (hl : level.precedence ≤ level'.precedence) :
    level'.Ends items := by
  cases items with
  | nil => trivial
  | cons item rest =>
    cases item with
    | operator next => exact fun op hop => h op (Nat.le_trans hl hop)
    | closing => trivial
    | number v => exact h
    | opening => exact h

theorem release_of_keeps (h : level.Keeps stack) (hn : level.precedence ≤ next.precedence) :
    release next stack = ([], stack) := by
  cases stack with
  | nil => rfl
  | cons w rest =>
    cases w with
    | opening => rfl
    | operator op => simp [release, h op rest rfl next hn]

/-- An operator that lets go of nothing waits itself. -/
theorem postfixFrom_cons (h : level.Keeps stack) (hn : level.precedence ≤ next.precedence) :
    postfixFrom stack (.operator next :: items) = postfixFrom (.operator next :: stack) items := by
  simp [postfixFrom, release_of_keeps h hn]

/-- An operator that binds less tightly is not let go. -/
theorem keeps_of_lt (h : op.precedence < level.precedence) :
    level.Keeps (.operator op :: stack) := by
  rintro _ _ ⟨⟩ next hn
  simp only [Operator.precedes, Bool.or_eq_false_iff, decide_eq_false_iff_not,
    Bool.and_eq_false_iff, beq_eq_false_iff_ne]
  omega

/-- A sign lets go of nothing. -/
theorem keeps_negate : Level.factor.Keeps (.operator .negate :: stack) := by
  rintro _ _ ⟨⟩ next hn
  cases next <;> first | rfl | exact absurd hn (by decide)

/-- A binary operator lets go of those that bind at least as tightly. -/
theorem ends_operator (hn : next ≠ .negate) (h : next.precedence ≤ level.precedence) :
    level.Ends (.operator next :: items) := by
  intro op hop
  have hle : next.precedence < op.precedence ∨ op.precedence = next.precedence := by omega
  simpa [Operator.precedes, hn] using hle

theorem keeps_opening : level.Keeps (.opening :: stack) := by
  rintro _ _ ⟨⟩

/-- An operator that waits on top is let go by what ends its level. -/
theorem postfixFrom_operator (h : level.Ends items) (hop : level.precedence ≤ op.precedence) :
    postfixFrom (.operator op :: stack) items = (.apply op :: ·) <$> postfixFrom stack items := by
  cases items with
  | nil =>
    simp only [postfixFrom, flush?]
    cases flush? stack <;> rfl
  | cons item rest =>
    cases item with
    | number v => exact absurd h id
    | opening => exact absurd h id
    | closing =>
      simp only [postfixFrom, close?]
      cases close? stack with
      | none => rfl
      | some p => simp
    | operator next =>
      simp [postfixFrom, release, h op hop]

/-- A binary operator comes after the instructions of its operands. -/
theorem postfixFrom_binary {ls rs : List Lexeme} {is js : List Instruction} (hop : op ≠ .negate)
    (hlevel : op.precedence = level.precedence) (hk : level.Keeps stack) (he : level.Ends items)
    (hl : ∀ {items}, level.Ends items →
      postfixFrom stack (ls ++ items) = (is ++ ·) <$> postfixFrom stack items)
    (hr : postfixFrom (.operator op :: stack) (rs ++ items) =
      (js ++ ·) <$> postfixFrom (.operator op :: stack) items) :
    postfixFrom stack (ls ++ .operator op :: rs ++ items) =
      (is ++ (js ++ [.apply op]) ++ ·) <$> postfixFrom stack items := by
  rw [List.append_assoc, List.cons_append, hl (ends_operator hop (Nat.le_of_eq hlevel)),
    postfixFrom_cons hk (Nat.le_of_eq hlevel.symm), hr,
    postfixFrom_operator he (Nat.le_of_eq hlevel.symm)]
  simp

/-- **The lexemes of a tree become its instructions.** -/
theorem postfixFrom_lexemes (screen : ScreenSize) (t : Tree level) (hk : level.Keeps stack)
    (he : level.Ends items) :
    postfixFrom stack (t.lexemes screen ++ items) =
      (t.instructions screen ++ ·) <$> postfixFrom stack items := by
  induction t generalizing stack items with
  | literal l unit => simp [Tree.lexemes, Tree.instructions, postfixFrom]
  | screen side => simp [Tree.lexemes, Tree.instructions, postfixFrom]
  | group e ih =>
    rw [Tree.lexemes, List.cons_append, List.append_assoc, List.singleton_append]
    -- inside the parentheses nothing that waits outside is let go
    show postfixFrom (.opening :: stack) (e.lexemes screen ++ .closing :: items) = _
    rw [ih keeps_opening (show Level.expression.Ends (.closing :: items) from trivial)]
    simp [postfixFrom, close?, Tree.instructions]
  | operand p ih => exact ih (hk.mono (by decide)) (he.mono (by decide))
  | signed minus f ih =>
    cases minus with
    | false => simpa [Tree.lexemes, Tree.instructions] using ih hk he
    | true =>
      calc postfixFrom stack (.operator .negate :: (f.lexemes screen ++ items))
          = postfixFrom (.operator .negate :: stack) (f.lexemes screen ++ items) :=
            postfixFrom_cons hk (by decide)
        _ = (f.instructions screen ++ ·) <$> (.apply .negate :: ·) <$> postfixFrom stack items := by
            rw [ih keeps_negate he, postfixFrom_operator he (by decide)]
        _ = _ := by simp [Tree.instructions]
  | single f ih => exact ih (hk.mono (by decide)) (he.mono (by decide))
  | product t divide f iht ihf =>
    have hop : productOperator divide ≠ .negate := by cases divide <;> decide
    have hlevel : (productOperator divide).precedence = Level.term.precedence := by
      cases divide <;> rfl
    have hkeeps : Level.factor.Keeps (.operator (productOperator divide) :: stack) :=
      keeps_of_lt (by rw [hlevel]; decide)
    exact postfixFrom_binary hop hlevel hk he (iht hk) (ihf hkeeps (he.mono (by decide)))
  | lone t ih => exact ih (hk.mono (by decide)) (he.mono (by decide))
  | sum e minus t ihe iht =>
    have hop : sumOperator minus ≠ .negate := by cases minus <;> decide
    have hlevel : (sumOperator minus).precedence = Level.expression.precedence := by
      cases minus <;> rfl
    have hkeeps : Level.term.Keeps (.operator (sumOperator minus) :: stack) :=
      keeps_of_lt (by rw [hlevel]; decide)
    exact postfixFrom_binary hop hlevel hk he (ihe hk) (iht hkeeps (he.mono (by decide)))

end Ordering

/-! ### From the instructions to the value -/

/-- **The instructions of a tree put its value on the stack, or a division by zero stops them.** -/
theorem foldlM_instructions {level : Level} (screen : ScreenSize) (t : Tree level)
    (stack : List Binary64) :
    (t.instructions screen).foldlM Instruction.step stack =
      if t.dividesByZero screen then .error .divisionByZero
      else .ok (t.value screen :: stack) := by
  induction t generalizing stack with
  | literal l unit => rfl
  | screen side => rfl
  | group e ih => exact ih stack
  | operand p ih => exact ih stack
  | signed minus f ih =>
    rw [Tree.instructions, List.foldlM_append, ih, Tree.dividesByZero]
    split
    · rfl
    · cases minus <;> rfl
  | single f ih => exact ih stack
  | product t divide f iht ihf =>
    rw [Tree.instructions, List.foldlM_append, iht, Tree.dividesByZero]
    cases ht : t.dividesByZero screen with
    | true => rfl
    | false =>
      show (f.instructions screen ++ _).foldlM Instruction.step (t.value screen :: stack) = _
      rw [List.foldlM_append, ihf]
      cases hf : f.dividesByZero screen with
      | true => rfl
      | false =>
        cases divide with
        | false => rfl
        | true =>
          show Operator.apply .divide (f.value screen :: t.value screen :: stack) >>= pure = _
          rw [bind_pure, Operator.apply]
          cases (f.value screen).isZero <;> rfl
  | lone t ih => exact ih stack
  | sum e minus t ihe iht =>
    rw [Tree.instructions, List.foldlM_append, ihe, Tree.dividesByZero]
    cases he : e.dividesByZero screen with
    | true => rfl
    | false =>
      show (t.instructions screen ++ _).foldlM Instruction.step (e.value screen :: stack) = _
      rw [List.foldlM_append, iht]
      cases ht : t.dividesByZero screen with
      | true => rfl
      | false => cases minus <;> rfl

/-! ### Reading a token -/

/-- What a formula gives: its value, unless a zero divides or the value is not finite. -/
def Tree.outcome (screen : ScreenSize) {level : Level} (t : Tree level) : Except Fault Binary64 :=
  if t.dividesByZero screen then .error .divisionByZero
  else if (t.value screen).isFinite then .ok (t.value screen)
  else .error .notFinite

theorem scan_render (screen : ScreenSize) (e : Tree .expression) :
    scan screen e.render = .ok (e.lexemes screen) := by
  have := @scanFrom_render screen [] _ e (by simp [EndsOperand])
  simpa [scan, scanFrom, Functor.map, Except.map] using this

/-- The lexemes of an expression have the order of its instructions. -/
theorem toPostfix_lexemes (screen : ScreenSize) (e : Tree .expression) :
    toPostfix (e.lexemes screen) = .ok (e.instructions screen) := by
  have hkeeps : Level.expression.Keeps [] := by rintro _ _ ⟨⟩
  have := postfixFrom_lexemes screen e hkeeps (show Level.expression.Ends [] from trivial)
  simpa [toPostfix, postfixFrom, flush?, Functor.map, Except.map] using this

/-- **The text of an expression is read as the value of the expression.** -/
theorem formulaValue_render (screen : ScreenSize) (e : Tree .expression) :
    Formula.value screen e.render = e.outcome screen := by
  rw [Formula.value, scan_render]
  show (toPostfix (e.lexemes screen) >>= run) = _
  rw [toPostfix_lexemes]
  show run (e.instructions screen) = _
  rw [run, foldlM_instructions, Tree.outcome]
  split
  · rfl
  · rfl

theorem isBlank_of_any {cs : List Char} (h : cs.any Text.isBlank = false) :
    ∀ c ∈ cs, Text.isBlank c = false := by
  simpa using h

theorem isBlank_literal (l : Literal) : ∀ c ∈ l.text, Text.isBlank c = false := by
  intro c hc
  rcases Literal.mem_text hc with hc | hc
  · exact Text.isBlank_of_isDigit hc
  · exact isBlank_of_any rfl c hc

/-- No text of a tree has a blank. -/
theorem isBlank_render {level : Level} (t : Tree level) :
    ∀ c ∈ t.render, Text.isBlank c = false := by
  induction t with
  | literal l unit =>
    cases unit with
    | none => exact isBlank_literal l
    | some side =>
      have hunit : ∀ c ∈ ['%', side.unit], Text.isBlank c = false :=
        isBlank_of_any (by cases side <;> rfl)
      exact List.forall_mem_append.2 ⟨isBlank_literal l, hunit⟩
  | screen side => exact isBlank_of_any (by cases side <;> rfl)
  | group e ih =>
    exact List.forall_mem_cons.2 ⟨rfl, List.forall_mem_append.2 ⟨ih, isBlank_of_any rfl⟩⟩
  | operand p ih => exact ih
  | signed minus f ih => exact List.forall_mem_cons.2 ⟨by cases minus <;> rfl, ih⟩
  | single f ih => exact ih
  | product t divide f iht ihf =>
    exact List.forall_mem_append.2 ⟨iht, List.forall_mem_cons.2 ⟨by cases divide <;> rfl, ihf⟩⟩
  | lone t ih => exact ih
  | sum e minus t ihe iht =>
    exact List.forall_mem_append.2 ⟨ihe, List.forall_mem_cons.2 ⟨by cases minus <;> rfl, iht⟩⟩

theorem render_ne_nil {level : Level} (t : Tree level) : t.render ≠ [] := by
  induction t with
  | literal l unit =>
    obtain ⟨c, cs, hcs, -⟩ := l.exists_cons
    cases unit <;> simp [Tree.render, hcs]
  | screen side => cases side <;> decide
  | operand p ih => exact ih
  | single f ih => exact ih
  | lone t ih => exact ih
  | _ => simp [Tree.render]

/-- A literal with a sign or none, as an expression. -/
def signedLiteral (sign : Option Bool) (l : Literal) : Tree .expression :=
  let operand : Tree .factor := .operand (.literal l none)
  .lone (.single (sign.elim operand fun minus => .signed minus operand))

theorem value_signedLiteral (screen : ScreenSize) (sign : Option Bool) (l : Literal) :
    (signedLiteral sign l).value screen = l.decimal.toBinary64 (sign == some true) := by
  rcases sign with _ | _ | _
  · rfl
  · rfl
  · exact l.decimal.neg_toBinary64 false

theorem outcome_signedLiteral (screen : ScreenSize) (sign : Option Bool) (l : Literal)
    (hfinite : (l.decimal.toBinary64 (sign == some true)).isFinite = true) :
    (signedLiteral sign l).outcome screen = .ok (l.decimal.toBinary64 (sign == some true)) := by
  have hdivides : (signedLiteral sign l).dividesByZero screen = false := by
    rcases sign with _ | _ | _ <;> rfl
  rw [Tree.outcome, hdivides, value_signedLiteral, if_neg (by simp), if_pos hfinite]

theorem render_signedLiteral (sign : Option Bool) (l : Literal) :
    (signedLiteral sign l).render = Exponent.signText sign ++ l.text := by
  rcases sign with _ | _ | _ <;> rfl

/-- A plain decimal is a sign or none with an unsigned decimal. -/
theorem plain?_eq (cs : List Char) :
    ∃ sign rest, cs = Exponent.signText sign ++ rest ∧
      plain? cs = ((Decimal.read? rest).map (·.toBinary64 (sign == some true))).filter
        Binary64.isFinite := by
  unfold plain?
  split
  next negative digits hsign =>
    split at hsign <;> cases hsign
    · exact ⟨some true, digits, rfl, rfl⟩
    · exact ⟨some false, digits, rfl, rfl⟩
    · exact ⟨none, cs, rfl, rfl⟩

/-- What is taken as a plain decimal is the text of a literal with a sign or none. -/
theorem plain?_eq_some {cs : List Char} {v : Binary64} (h : plain? cs = some v) :
    ∃ sign l, (signedLiteral sign l).render = cs ∧ v = l.decimal.toBinary64 (sign == some true) ∧
      v.isFinite = true := by
  obtain ⟨sign, rest, rfl, hplain⟩ := plain?_eq cs
  rw [hplain] at h
  obtain ⟨hread, hfinite⟩ := Option.filter_eq_some_iff.1 h
  obtain ⟨d, hd, rfl⟩ := Option.map_eq_some_iff.1 hread
  obtain ⟨l, rfl, rfl⟩ := exists_literal_of_read? hd
  exact ⟨sign, l, render_signedLiteral sign l, rfl, hfinite⟩

/-- **What is taken as a plain decimal has the same value as a formula.** -/
theorem formulaValue_of_plain? (screen : ScreenSize) {cs : List Char} {v : Binary64}
    (h : plain? cs = some v) : Formula.value screen cs = .ok v := by
  obtain ⟨sign, l, rfl, rfl, hfinite⟩ := plain?_eq_some h
  rw [formulaValue_render, outcome_signedLiteral screen sign l hfinite]

/-- A token is read as a formula, whether it is a plain decimal or not. -/
theorem value_eq_formulaValue (r : ValueReader) {token : String} {cs : List Char}
    (ht : Text.trimChars token.toList = cs) (hcs : cs ≠ []) :
    r.value token = (Formula.value r.screen cs).mapError fun fault =>
      .parse (String.ofList cs) fault.message := by
  subst ht
  rw [ValueReader.value, if_neg hcs]
  -- a plain decimal is taken as it stands, anything else as a formula
  split
  · next v hv =>
    rw [formulaValue_of_plain? r.screen hv]
    rfl
  · rfl

/-- A token that is the text of an expression gives what the expression gives. -/
theorem value_ofList_render (r : ValueReader) (e : Tree .expression) :
    r.value (String.ofList e.render) = (e.outcome r.screen).mapError fun fault =>
      .parse (String.ofList e.render) fault.message := by
  have htrim : Text.trimChars (String.ofList e.render).toList = e.render := by
    have hnone : ∀ c ∈ ([] : List Char), Text.isBlank c = true := by simp
    simpa using Text.trimChars_append hnone (isBlank_render e) hnone
  rw [value_eq_formulaValue r htrim (render_ne_nil e), formulaValue_render]

/-- **A token that is the text of an expression between blanks is read as the value of the
expression**; it is refused exactly when a zero divides or the value is not finite. It does not
matter whether it is a plain decimal. -/
theorem value_render (r : ValueReader) (e : Tree .expression) {lead trail : List Char}
    (hlead : ∀ c ∈ lead, Text.isBlank c = true) (htrail : ∀ c ∈ trail, Text.isBlank c = true) :
    (r.value (String.ofList (lead ++ e.render ++ trail)) =
      if e.dividesByZero r.screen then .error (.parse (String.ofList e.render) "division by zero")
      else if (e.value r.screen).isFinite then .ok (e.value r.screen)
      else .error (.parse (String.ofList e.render) "result is not a finite number")) ∧
    Formula.value r.screen e.render = e.outcome r.screen ∧
    ∀ v, plain? e.render = some v → e.outcome r.screen = .ok v := by
  have htrim : Text.trimChars (String.ofList (lead ++ e.render ++ trail)).toList = e.render := by
    rw [String.toList_ofList]
    exact Text.trimChars_append hlead (isBlank_render e) htrail
  refine ⟨?_, formulaValue_render r.screen e, fun v hv => ?_⟩
  · rw [value_eq_formulaValue r htrim (render_ne_nil e), formulaValue_render, Tree.outcome]
    split
    · rfl
    · split <;> rfl
  · rw [← formulaValue_render, formulaValue_of_plain? r.screen hv]

/-- The expression `2--3*4`. -/
def twoMinusMinusThreeTimesFour : Tree .expression :=
  let digit (c : Char) (h : c.isDigit = true) : Tree .factor :=
    .operand (.literal (.ofDigit c h) none)
  .sum (.lone (.single (digit '2' rfl))) true
    (.product (.single (.signed true (digit '3' rfl))) false (digit '4' rfl))

theorem value_render_between_blanks :
    (∀ c ∈ [' '], Text.isBlank c = true) ∧ (∀ c ∈ ['\t'], Text.isBlank c = true) ∧
      (⟨⟨200, 100⟩⟩ : ValueReader).value " 2--3*4\t" = .ok (.finite false 14 0) := by
  have hlead : ∀ c ∈ [' '], Text.isBlank c = true := List.all_eq_true.1 rfl
  have htrail : ∀ c ∈ ['\t'], Text.isBlank c = true := List.all_eq_true.1 rfl
  refine ⟨hlead, htrail, ?_⟩
  exact (value_render ⟨⟨200, 100⟩⟩ twoMinusMinusThreeTimesFour hlead htrail).1

end SpriteStage.Formula
