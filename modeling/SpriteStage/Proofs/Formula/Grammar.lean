import SpriteStage.Proofs.Formula.Tree

/-!
# Which accepted texts are formulas

The calculation counts what is left on its stack, so it lets pass some texts that no tree has, such
as `()2`. This is exactly what is missing:

* `Alternates`: operands stand where operands are expected and operators where operators are;
* `Nested`: the parentheses are balanced, which the conversion to postfix order does check
  (`nested_of_postfixFrom`);
* a text with both is the text of an expression (`exists_expression`), and the lexemes of a tree
  alternate (`alternates_lexemes`);
* so an accepted token is a formula if and only if its lexemes alternate (`formula_iff_alternates`).
-/

namespace SpriteStage.Formula

/-! ### Operands and operators in turn -/

/-- Whether a lexeme stands where an operand is expected. -/
def Lexeme.beginsOperand : Lexeme → Bool
  | .number _ | .opening | .operator .negate => true
  | .operator _ | .closing => false

/-- Operands and operators stand where they are expected; `operand` says what is expected first. -/
def Alternates (operand : Bool) : List Lexeme → Prop
  | [] => operand = false
  | item :: rest => item.beginsOperand = operand ∧ Alternates item.allowsSign rest

/-- The parentheses are balanced when so many are open. -/
def Nested : Nat → List Lexeme → Prop
  | depth, [] => depth = 0
  | depth, .opening :: rest => Nested (depth + 1) rest
  | 0, .closing :: _ => False
  | depth + 1, .closing :: rest => Nested depth rest
  | depth, _ :: rest => Nested depth rest

variable {screen : ScreenSize} {level : Level} {items more : List Lexeme} {cs rest : List Char}
  {sign : Bool} {depth : Nat}

theorem alternates_binary {ls rs : List Lexeme} {op : Operator} (hop : op ≠ .negate)
    (hl : ∀ {items}, Alternates true (ls ++ items) ↔ Alternates false items)
    (hr : Alternates true (rs ++ items) ↔ Alternates false items) :
    Alternates true (ls ++ .operator op :: rs ++ items) ↔ Alternates false items := by
  have hbegins : (Lexeme.operator op).beginsOperand = false := by
    cases op <;> first | rfl | exact absurd rfl hop
  rw [List.append_assoc, hl, List.cons_append, Alternates, ← hr]
  exact and_iff_right hbegins

/-- **The lexemes of a tree alternate**, from an operand on to what may follow an operand. -/
theorem alternates_lexemes (t : Tree level) :
    Alternates true (t.lexemes screen ++ items) ↔ Alternates false items := by
  induction t generalizing items with
  | literal l unit => exact and_iff_right rfl
  | screen side => exact and_iff_right rfl
  | group e ih =>
    rw [Tree.lexemes, List.cons_append, List.append_assoc, List.singleton_append, Alternates]
    exact (and_iff_right rfl).trans (ih.trans (and_iff_right rfl))
  | operand p ih => exact ih
  | signed minus f ih =>
    cases minus with
    | false => exact ih
    | true => exact (and_iff_right rfl).trans ih
  | single f ih => exact ih
  | product t divide f iht ihf =>
    exact alternates_binary (by cases divide <;> decide) iht ihf
  | lone t ih => exact ih
  | sum e minus t ihe iht =>
    exact alternates_binary (by cases minus <;> decide) ihe iht

/-! ### Balance -/

/-- How many parentheses wait for their closing ones. -/
def openings : List Waiting → Nat
  | [] => 0
  | .opening :: rest => openings rest + 1
  | .operator _ :: rest => openings rest

theorem openings_release (next : Operator) (stack : List Waiting) :
    openings (release next stack).2 = openings stack := by
  induction stack with
  | nil => rfl
  | cons w rest ih =>
    cases w with
    | opening => rfl
    | operator op =>
      rw [release]
      split
      · exact ih
      · rfl

theorem openings_of_close? {stack kept : List Waiting} {ops : List Operator}
    (h : close? stack = some (ops, kept)) : openings stack = openings kept + 1 := by
  induction stack generalizing ops with
  | nil => cases h
  | cons w rest ih =>
    cases w with
    | opening =>
      cases h
      rfl
    | operator op =>
      obtain ⟨⟨ops', kept'⟩, hp, he⟩ := Option.map_eq_some_iff.1 h
      cases he
      exact ih hp

theorem openings_of_flush? {stack : List Waiting} {ops : List Operator}
    (h : flush? stack = some ops) : openings stack = 0 := by
  induction stack generalizing ops with
  | nil => rfl
  | cons w rest ih =>
    cases w with
    | opening => cases h
    | operator op =>
      obtain ⟨ops', hp, -⟩ := Option.map_eq_some_iff.1 h
      exact ih hp

/-- **What is converted to postfix order has balanced parentheses.** -/
theorem nested_of_postfixFrom {stack : List Waiting} {steps : List Instruction}
    (h : postfixFrom stack items = .ok steps) : Nested (openings stack) items := by
  induction items generalizing stack steps with
  | nil =>
    rw [postfixFrom] at h
    split at h
    · cases h
    · next ops hf => exact openings_of_flush? hf
  | cons item rest ih =>
    cases item with
    | number v =>
      obtain ⟨steps', hrest, -⟩ := exists_of_bind_eq_ok h
      exact ih hrest
    | opening => exact ih h
    | operator op =>
      obtain ⟨steps', hrest, -⟩ := exists_of_bind_eq_ok h
      have := ih hrest
      rwa [openings, openings_release] at this
    | closing =>
      rw [postfixFrom] at h
      split at h
      · cases h
      · next ops kept hc =>
        obtain ⟨steps', hrest, -⟩ := exists_of_bind_eq_ok h
        rw [openings_of_close? hc]
        exact ih hrest

/-! ### What the scanner has in front of it -/

theorem exists_literal_of_scaled {l : Literal} {p : Binary64 × Nat} {v : Binary64}
    (h : scaled screen v rest = .ok p) :
    ∃ unit : Option Side, l.text ++ rest = (Tree.literal l unit).render ++ rest.drop p.2 := by
  unfold scaled at h
  split at h
  · cases h
    exact ⟨some .width, by simp [Tree.render, Side.unit]⟩
  · cases h
    exact ⟨some .height, by simp [Tree.render, Side.unit]⟩
  · cases h
  · cases h
    exact ⟨none, rfl⟩

theorem exists_side_of_keyword? {word : List Char} {v : Binary64}
    (h : keyword? screen word = some v) : ∃ side : Side, word = side.name := by
  unfold keyword? at h
  split at h
  · next hw => exact ⟨.width, hw⟩
  · split at h
    · next hw => exact ⟨.height, hw⟩
    · cases h

/-- What the scanner can meet: an operand, a sign, or an operator or a parenthesis. -/
theorem scanFrom_cases {c : Char} (h : scanFrom screen sign (c :: cs) = .ok items) :
    (∃ (p : Tree .primary) (v : Binary64) (rest : List Char) (more : List Lexeme),
      c :: cs = p.render ++ rest ∧ items = .number v :: more ∧
        scanFrom screen false rest = .ok more) ∨
    (∃ (minus : Bool) (more : List Lexeme), sign = true ∧ c = (if minus then '-' else '+') ∧
      items = (if minus then .operator .negate :: more else more) ∧
        scanFrom screen true cs = .ok more) ∨
    (∃ (lexeme : Lexeme) (more : List Lexeme), symbol? c = some lexeme ∧ items = lexeme :: more ∧
      scanFrom screen lexeme.allowsSign cs = .ok more) := by
  rw [scanFrom] at h
  split at h
  · simp only at h
    split at h
    · cases h
    · next d hd =>
      obtain ⟨⟨v, used⟩, hscaled, h⟩ := exists_of_bind_eq_ok h
      obtain ⟨more, hmore, h⟩ := exists_of_bind_eq_ok h
      cases h
      obtain ⟨l, hl, rfl⟩ := exists_literal_of_read? hd
      obtain ⟨unit, hunit⟩ := exists_literal_of_scaled hscaled
      rw [hl, List.take_append_drop] at hunit
      exact .inl ⟨.literal l unit, v, _, more, hunit, rfl, hmore⟩
  · split at h
    · simp only at h
      split at h
      · cases h
      · next v hv =>
        obtain ⟨more, hmore, h⟩ := exists_of_bind_eq_ok h
        cases h
        obtain ⟨side, hside⟩ := exists_side_of_keyword? hv
        refine .inl ⟨.screen side, v, _, more, ?_, rfl, hmore⟩
        rw [Tree.render, ← hside, List.cons_append, List.takeWhile_append_dropWhile]
    · split at h
      · next hplus =>
        obtain ⟨hsign, hc⟩ := Bool.and_eq_true_iff.1 hplus
        exact .inr (.inl ⟨false, items, hsign, by simpa using hc, rfl, h⟩)
      · split at h
        · next hminus =>
          obtain ⟨hsign, hc⟩ := Bool.and_eq_true_iff.1 hminus
          obtain ⟨more, hmore, h⟩ := exists_of_bind_eq_ok h
          cases h
          exact .inr (.inl ⟨true, more, hsign, by simpa using hc, rfl, hmore⟩)
        · split at h
          · cases h
          · next lexeme hc =>
            obtain ⟨more, hmore, h⟩ := exists_of_bind_eq_ok h
            cases h
            exact .inr (.inr ⟨lexeme, more, hc, rfl, hmore⟩)

/-! ### From the lexemes back to a tree -/

/-- What is left of a text: its lexemes alternate, and so many of its parentheses are open. -/
structure Remainder (screen : ScreenSize) (operand : Bool) (depth : Nat) (cs : List Char)
    (items : List Lexeme) : Prop where
  scanned : scanFrom screen operand cs = .ok items
  alternates : Alternates operand items
  nested : Nested depth items

/-- A tree can be read from every remainder that starts with an operand and is shorter than
`bound`, and what is left then goes on in a certain way. -/
def Readable (screen : ScreenSize) (level : Level) (after : List Lexeme → Prop) (bound : Nat) :
    Prop :=
  ∀ cs items depth, cs.length < bound → Remainder screen true depth cs items →
    ∃ (t : Tree level) (rest : List Char) (more : List Lexeme),
      cs = t.render ++ rest ∧ Remainder screen false depth rest more ∧ after more

/-- What may follow an expression: nothing or a closing parenthesis. -/
def EndsExpression (items : List Lexeme) : Prop := items = [] ∨ ∃ more, items = .closing :: more

variable {bound : Nat}

/-- The only symbol that begins an operand is the opening parenthesis. -/
theorem eq_opening_of_symbol? {c : Char} {lexeme : Lexeme} (hc : symbol? c = some lexeme)
    (hb : lexeme.beginsOperand = true) : c = '(' ∧ lexeme = .opening := by
  unfold symbol? at hc
  split at hc <;> cases hc <;> first | exact ⟨rfl, rfl⟩ | cases hb

theorem eq_of_symbol?_closing {c : Char} (hc : symbol? c = some .closing) : c = ')' := by
  unfold symbol? at hc
  split at hc <;> first | rfl | cases hc

/-- A remainder after an operand goes on with an operator or a closing parenthesis. -/
theorem exists_symbol {item : Lexeme} (h : Remainder screen false depth cs (item :: more)) :
    ∃ c rest, cs = c :: rest ∧ symbol? c = some item ∧
      scanFrom screen item.allowsSign rest = .ok more := by
  cases cs with
  | nil =>
    have := h.scanned
    simp at this
  | cons c rest =>
    rcases scanFrom_cases h.scanned with ⟨p, v, rest', more', -, hitems, -⟩ |
      ⟨minus, more', hsign, -⟩ | ⟨lexeme, more', hc, hitems, hmore⟩
    · cases hitems
      cases (show true = false from h.alternates.1)
    · cases hsign
    · cases hitems
      exact ⟨c, rest, rfl, hc, hmore⟩

/-- **A factor can be read where an operand is expected**, when expressions can be read from what
is shorter. -/
theorem readable_factor (h : Readable screen .expression EndsExpression bound) :
    Readable screen .factor (fun _ => True) (bound + 1) := by
  intro cs
  -- the signs in front are taken off one by one
  induction cs with
  | nil =>
    intro items depth _ hr
    have hitems : items = [] := by
      have := hr.scanned
      simpa [scanFrom, eq_comm] using this
    subst hitems
    exact absurd hr.alternates (by simp [Alternates])
  | cons c cs ih =>
    intro items depth hlength hr
    have hshorter : cs.length < bound := Nat.lt_of_succ_lt_succ hlength
    rcases scanFrom_cases hr.scanned with ⟨p, v, rest, more, hcs, rfl, hmore⟩ |
      ⟨minus, more, -, rfl, rfl, hmore⟩ | ⟨lexeme, more, hc, rfl, hmore⟩
    · exact ⟨.operand p, rest, more, hcs, ⟨hmore, hr.alternates.2, hr.nested⟩, trivial⟩
    · have hr' : Remainder screen true depth cs more := by
        cases minus with
        | false => exact ⟨hmore, hr.alternates, hr.nested⟩
        | true => exact ⟨hmore, hr.alternates.2, hr.nested⟩
      obtain ⟨f, rest, more', rfl, hrest, -⟩ := ih more depth (Nat.lt_succ_of_lt hshorter) hr'
      exact ⟨.signed minus f, rest, more', rfl, hrest, trivial⟩
    · obtain ⟨rfl, rfl⟩ := eq_opening_of_symbol? hc hr.alternates.1
      have hinside : Remainder screen true (depth + 1) cs more :=
        ⟨hmore, hr.alternates.2, hr.nested⟩
      obtain ⟨e, rest, more', rfl, hrest, rfl | ⟨more'', rfl⟩⟩ := h cs more _ hshorter hinside
      · -- the parenthesis would stay open
        cases (show depth + 1 = 0 from hrest.nested)
      · obtain ⟨d, rest', rfl, hd, hmore'⟩ := exists_symbol hrest
        obtain rfl := eq_of_symbol?_closing hd
        refine ⟨.operand (.group e), rest', more'', ?_,
          ⟨hmore', hrest.alternates.2, hrest.nested⟩, trivial⟩
        simp [Tree.render]

/-- An operator and a factor make an expression longer. -/
theorem exists_extend (e : Tree .expression) (f : Tree .factor) {c : Char} {op : Operator}
    (hc : symbol? c = some (.operator op)) :
    ∃ e' : Tree .expression, e'.render = e.render ++ c :: f.render := by
  unfold symbol? at hc
  split at hc
  · exact ⟨.sum e false (.single f), rfl⟩
  · exact ⟨.sum e true (.single f), rfl⟩
  · cases e with
    | lone t => exact ⟨.lone (.product t false f), rfl⟩
    | sum e minus t => exact ⟨.sum e minus (.product t false f), by simp [Tree.render]⟩
  · cases e with
    | lone t => exact ⟨.lone (.product t true f), rfl⟩
    | sum e minus t => exact ⟨.sum e minus (.product t true f), by simp [Tree.render]⟩
  all_goals cases hc

/-- An expression is read on as long as operators follow. -/
theorem exists_longest (h : Readable screen .factor (fun _ => True) bound) (e : Tree .expression)
    (hlength : rest.length < bound) (hr : Remainder screen false depth rest more) :
    ∃ (e' : Tree .expression) (rest' : List Char) (more' : List Lexeme),
      e.render ++ rest = e'.render ++ rest' ∧ Remainder screen false depth rest' more' ∧
        EndsExpression more' := by
  induction hn : rest.length using Nat.strongRecOn generalizing e rest more with
  | ind n ih =>
    subst hn
    cases more with
    | nil => exact ⟨e, rest, [], rfl, hr, .inl rfl⟩
    | cons item more =>
      obtain ⟨c, cs, rfl, hc, hmore⟩ := exists_symbol hr
      cases item with
      | number v => cases (show true = false from hr.alternates.1)
      | opening => cases (show true = false from hr.alternates.1)
      | closing => exact ⟨e, c :: cs, _, rfl, hr, .inr ⟨more, rfl⟩⟩
      | operator op =>
        have hnested : Nested depth more := by
          cases depth <;> exact hr.nested
        obtain ⟨f, rest', more', rfl, hrest, -⟩ :=
          h cs more depth (Nat.lt_of_succ_lt hlength) ⟨hmore, hr.alternates.2, hnested⟩
        -- the expression takes the operator and the factor, and less is left
        obtain ⟨e', he'⟩ := exists_extend e f hc
        have hshorter : rest'.length < (c :: (f.render ++ rest')).length := by
          simp only [List.length_cons, List.length_append]
          omega
        obtain ⟨e'', rest'', more'', hcs, hrest', hends⟩ :=
          ih _ hshorter e' (Nat.lt_trans hshorter hlength) hrest rfl
        refine ⟨e'', rest'', more'', ?_, hrest', hends⟩
        rw [← hcs, he', List.append_assoc, List.cons_append]

theorem readable_expression (h : Readable screen .factor (fun _ => True) bound) :
    Readable screen .expression EndsExpression bound := by
  intro cs items depth hlength hr
  obtain ⟨f, rest, more, rfl, hrest, -⟩ := h cs items depth hlength hr
  have hshorter : rest.length < bound := by
    rw [List.length_append] at hlength
    omega
  exact exists_longest h (.lone (.single f)) hshorter hrest

/-- **Expressions can be read from every text whose lexemes alternate and are balanced.** -/
theorem readable_all (bound : Nat) : Readable screen .expression EndsExpression bound := by
  induction bound with
  | zero => exact fun cs items depth hlength => absurd hlength (Nat.not_lt_zero _)
  | succ bound ih => exact readable_expression (readable_factor ih)

theorem exists_expression (hscan : scan screen cs = .ok items) (ha : Alternates true items)
    (hn : Nested 0 items) : ∃ e : Tree .expression, e.render = cs := by
  obtain ⟨e, rest, more, rfl, hrest, rfl | ⟨more', rfl⟩⟩ :=
    readable_all (cs.length + 1) cs items 0 (Nat.lt_succ_self _) ⟨hscan, ha, hn⟩
  · cases rest with
    | nil => exact ⟨e, (List.append_nil _).symm⟩
    | cons c rest =>
      -- whatever is left has a lexeme
      rcases scanFrom_cases hrest.scanned with ⟨p, v, rest', more', -, hitems, -⟩ |
        ⟨minus, more', hsign, -⟩ | ⟨lexeme, more', -, hitems, -⟩
      · cases hitems
      · cases hsign
      · cases hitems
  · exact absurd hrest.nested id

/-! ### Accepted tokens -/

/-- The lexemes of a text that is an expression alternate, and those of no other accepted text. -/
theorem exists_render_iff {v : Binary64} (h : Formula.value screen cs = .ok v) :
    (∃ e : Tree .expression, e.render = cs) ↔
      ∃ items, scan screen cs = .ok items ∧ Alternates true items := by
  constructor
  · rintro ⟨e, rfl⟩
    refine ⟨e.lexemes screen, scan_render screen e, ?_⟩
    have := @alternates_lexemes screen _ [] e
    rw [List.append_nil] at this
    exact this.2 rfl
  · rintro ⟨items, hscan, ha⟩
    obtain ⟨items', hscan', h⟩ := exists_of_bind_eq_ok h
    obtain ⟨steps, hsteps, -⟩ := exists_of_bind_eq_ok h
    rw [hscan] at hscan'
    cases hscan'
    exact exists_expression hscan ha (nested_of_postfixFrom hsteps)

/-- Whatever is refused is refused as a text that cannot be parsed. -/
theorem parse_of_value_eq_error {r : ValueReader} {token : String} {err : Error}
    (h : r.value token = .error err) : ∃ text reason, err = .parse text reason := by
  unfold ValueReader.value at h
  simp only at h
  split at h
  · cases h
    exact ⟨_, _, rfl⟩
  · split at h
    · cases h
    · cases hf : Formula.value r.screen (Text.trimChars token.toList) with
      | error fault =>
        rw [hf] at h
        cases h
        exact ⟨_, _, rfl⟩
      | ok v =>
        rw [hf] at h
        cases h

/-- An accepted token is a text between blanks that is accepted as a formula. -/
theorem formulaValue_of_value {r : ValueReader} {token : String} {v : Binary64}
    (h : r.value token = .ok v) :
    Formula.value r.screen (Text.trimChars token.toList) = .ok v := by
  by_cases hnil : Text.trimChars token.toList = []
  · simp [ValueReader.value, hnil] at h
  · rw [value_eq_formulaValue r rfl hnil] at h
    cases hf : Formula.value r.screen (Text.trimChars token.toList) with
    | error fault =>
      rw [hf] at h
      cases h
    | ok w =>
      rw [hf] at h
      cases h
      rfl

/-- **An accepted token is a formula if and only if its lexemes alternate**, and every other token
is refused as one that cannot be parsed. -/
theorem formula_iff_alternates (r : ValueReader) (token : String) :
    (∃ text reason, r.value token = .error (.parse text reason)) ∨
    ∃ v, r.value token = .ok v ∧
      ((∃ e : Tree .expression, e.render = Text.trimChars token.toList) ↔
        ∃ items, scan r.screen (Text.trimChars token.toList) = .ok items ∧
          Alternates true items) := by
  cases h : r.value token with
  | error err =>
    obtain ⟨text, reason, rfl⟩ := parse_of_value_eq_error h
    exact .inl ⟨text, reason, rfl⟩
  | ok v => exact .inr ⟨v, rfl, exists_render_iff (formulaValue_of_value h)⟩

/-- Empty parentheses are let pass when there is something else to be calculated. -/
theorem empty_parentheses_accepted :
    (⟨⟨200, 100⟩⟩ : ValueReader).value "()2" = .ok (.finite false 2 0) ∧
      ¬ ∃ e : Tree .expression, e.render = Text.trimChars "()2".toList := by
  have htrim : Text.trimChars "()2".toList = "()2".toList := rfl
  have hscan : scan ⟨200, 100⟩ "()2".toList =
      .ok [.opening, .closing, .number (.finite false 2 0)] := by
    show scanFrom _ true ('(' :: ')' :: ((Literal.ofDigit '2' rfl).text ++ [])) = _
    rw [scanFrom_symbol (show symbol? '(' = some .opening from rfl) (by simp),
      scanFrom_symbol (show symbol? ')' = some .closing from rfl) (by decide)]
    show _ <$> _ <$> scanFrom _ false ((Literal.ofDigit '2' rfl).text ++ []) = _
    rw [scanFrom_literal _ endsRun_nil endsRun_nil]
    show _ <$> _ <$> _ <$> scanFrom _ false [] = _
    rw [scanFrom_nil]
    rfl
  refine ⟨?_, ?_⟩
  · rw [value_eq_formulaValue ⟨⟨200, 100⟩⟩ htrim (by decide), Formula.value, hscan]
    rfl
  · rintro ⟨e, he⟩
    have ha := @alternates_lexemes ⟨200, 100⟩ _ [] e
    rw [htrim] at he
    rw [← he, scan_render, Except.ok.injEq] at hscan
    rw [List.append_nil, hscan] at ha
    exact absurd (ha.2 rfl).2.1 (by decide)

end SpriteStage.Formula
