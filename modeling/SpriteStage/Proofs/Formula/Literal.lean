import SpriteStage.Formula.Lexeme

/-!
# Literals

The texts that are read as unsigned decimals, as data.

* `Literal`: digits, a point with digits after it or none, an exponent or none, and at least one
  digit before the exponent;
* `Literal.text` is how it is written, `Literal.decimal` what it stands for;
* `read?_text`, `exists_literal_of_read?`: the reader takes exactly these texts for these decimals;
* `literalLength_text`: the scanner takes a literal as a whole.
-/

namespace SpriteStage.Formula

open Decimal

/-! ### Where a run of characters ends -/

/-- A text that does not go on with a character of a kind. -/
def EndsRun (p : Char → Bool) (cs : List Char) : Prop := ∀ c ∈ cs.head?, p c = false

variable {p : Char → Bool} {cs rest : List Char} {c : Char}

theorem endsRun_nil : EndsRun p [] := by simp [EndsRun]

theorem endsRun_cons (h : p c = false) : EndsRun p (c :: cs) := by simpa [EndsRun] using h

theorem takeWhile_append_of_endsRun (hcs : ∀ c ∈ cs, p c = true) (hrest : EndsRun p rest) :
    (cs ++ rest).takeWhile p = cs := by
  rw [List.takeWhile_append_of_pos hcs]
  cases rest with
  | nil => simp
  | cons c rest => simp [hrest c rfl]

theorem dropWhile_append_of_endsRun (hcs : ∀ c ∈ cs, p c = true) (hrest : EndsRun p rest) :
    (cs ++ rest).dropWhile p = rest := by
  rw [List.dropWhile_append_of_pos hcs]
  cases rest with
  | nil => rfl
  | cons c rest => simp [hrest c rfl]

/-! ### Exponents -/

/-- An exponent: a letter, a sign or none, digits. -/
structure Exponent where
  capital : Bool
  /-- Whether the sign is a minus, if there is one. -/
  sign : Option Bool
  digits : List Char
  isDigit : ∀ c ∈ digits, c.isDigit = true
  ne_nil : digits ≠ []

namespace Exponent

/-- How a sign is written. -/
def signText : Option Bool → List Char
  | none => []
  | some false => ['+']
  | some true => ['-']

/-- How an exponent is written. -/
def text (e : Exponent) : List Char :=
  (if e.capital then 'E' else 'e') :: (signText e.sign ++ e.digits)

/-- What an exponent stands for. -/
def value (e : Exponent) : Int := Binary64.signed (e.sign == some true) (ofDigits e.digits)

end Exponent

theorem digits?_eq_some_iff {ds : List Char} {n : Nat} :
    digits? ds = some n ↔ ds ≠ [] ∧ (∀ c ∈ ds, c.isDigit = true) ∧ ofDigits ds = n := by
  simp [digits?, and_assoc]

/-- A digit is neither a sign nor a point nor a letter. -/
theorem ne_of_isDigit {c d : Char} (hc : c.isDigit = true) (hd : d.isDigit = false) : c ≠ d := by
  rintro rfl
  rw [hc] at hd
  cases hd

theorem exponent?_text (e : Exponent) : exponent? e.text = some e.value := by
  obtain ⟨capital, sign, digits, hdigit, hnil⟩ := e
  have hdigits : digits? digits = some (ofDigits digits) :=
    digits?_eq_some_iff.2 ⟨hnil, hdigit, rfl⟩
  obtain ⟨d, ds, rfl⟩ := List.exists_cons_of_ne_nil hnil
  have hd := hdigit d List.mem_cons_self
  have hplus : d ≠ '+' := ne_of_isDigit hd rfl
  have hminus : d ≠ '-' := ne_of_isDigit hd rfl
  rcases sign with _ | _ | _ <;>
    simp [exponent?, Exponent.text, Exponent.signText, Exponent.value, Binary64.signed, hdigits,
      hplus, hminus]

/-- What is read as an exponent is nothing or an exponent. -/
theorem exponent_of_exponent? {cs : List Char} {n : Int} (h : exponent? cs = some n) :
    (cs = [] ∧ n = 0) ∨ ∃ e : Exponent, e.text = cs ∧ e.value = n := by
  cases cs with
  | nil => exact .inl ⟨rfl, (Option.some.inj h).symm⟩
  | cons c cs =>
    right
    by_cases hc : c = 'e' ∨ c = 'E'
    · have hletter : (if (c == 'E') = true then 'E' else 'e') = c := by
        rcases hc with rfl | rfl <;> rfl
      have hif : (decide (c = 'e') || decide (c = 'E')) = true := by simpa using hc
      simp only [exponent?, hif, if_true] at h
      split at h
      · next ds =>
        obtain ⟨m, hm, rfl⟩ := Option.map_eq_some_iff.1 h
        obtain ⟨hnil, hdigit, rfl⟩ := digits?_eq_some_iff.1 hm
        exact ⟨⟨c == 'E', some false, ds, hdigit, hnil⟩, by
          simp only [Exponent.text, hletter]; rfl, rfl⟩
      · next ds =>
        obtain ⟨m, hm, rfl⟩ := Option.map_eq_some_iff.1 h
        obtain ⟨hnil, hdigit, rfl⟩ := digits?_eq_some_iff.1 hm
        exact ⟨⟨c == 'E', some true, ds, hdigit, hnil⟩, by
          simp only [Exponent.text, hletter]; rfl, rfl⟩
      · obtain ⟨m, hm, rfl⟩ := Option.map_eq_some_iff.1 h
        obtain ⟨hnil, hdigit, rfl⟩ := digits?_eq_some_iff.1 hm
        exact ⟨⟨c == 'E', none, cs, hdigit, hnil⟩, by
          simp only [Exponent.text, hletter]; rfl, rfl⟩
    · have hif : (decide (c = 'e') || decide (c = 'E')) = false := by simpa using hc
      simp only [exponent?, hif] at h
      cases h

/-! ### Literals -/

/-- An unsigned decimal as it is written. -/
structure Literal where
  whole : List Char
  /-- The digits after the point, if there is one. -/
  fraction : Option (List Char)
  exponent : Option Exponent
  whole_isDigit : ∀ c ∈ whole, c.isDigit = true
  fraction_isDigit : ∀ c ∈ fraction.getD [], c.isDigit = true
  ne_nil : whole ++ fraction.getD [] ≠ []

namespace Literal

/-- The digits and the point. -/
def mantissa (l : Literal) : List Char := l.whole ++ l.fraction.elim [] ('.' :: ·)

/-- How a literal is written. -/
def text (l : Literal) : List Char := l.mantissa ++ l.exponent.elim [] Exponent.text

/-- What a literal stands for. -/
def decimal (l : Literal) : Decimal :=
  ⟨ofDigits (l.whole ++ l.fraction.getD []),
    l.exponent.elim 0 Exponent.value - (l.fraction.getD []).length⟩

/-- The literal of one digit. -/
def ofDigit (c : Char) (h : c.isDigit = true) : Literal :=
  ⟨[c], none, none, by simpa using h, by simp, by simp⟩

end Literal

/-- The exponent of a literal is read as what it stands for. -/
theorem exponent?_elim (e : Option Exponent) :
    exponent? (e.elim [] Exponent.text) = some (e.elim 0 Exponent.value) := by
  cases e with
  | none => rfl
  | some e => exact exponent?_text e

/-- An exponent does not start with a digit or a point. -/
theorem endsRun_elim (e : Option Exponent) :
    EndsRun isMantissaChar (e.elim [] Exponent.text) := by
  rcases e with _ | ⟨capital, sign, digits, -, -⟩
  · exact endsRun_nil
  · cases capital <;> exact endsRun_cons rfl

theorem EndsRun.isDigit (h : EndsRun isMantissaChar cs) : EndsRun Char.isDigit cs :=
  fun c hc => (Bool.or_eq_false_iff.1 (h c hc)).1

/-- The reader on digits without a point behind them. -/
theorem read?_of_digits {n : Nat} {e : Int} (hn : digits? cs = some n)
    (he : exponent? rest = some e) (hrest : EndsRun isMantissaChar rest) :
    read? (cs ++ rest) = some ⟨n, e⟩ := by
  obtain ⟨-, hcs, -⟩ := digits?_eq_some_iff.1 hn
  have hpoint : ∀ ds, rest ≠ '.' :: ds := by
    rintro ds rfl
    exact absurd (hrest '.' rfl) (by decide)
  simp [read?, takeWhile_append_of_endsRun hcs hrest.isDigit,
    dropWhile_append_of_endsRun hcs hrest.isDigit, hn, he]

/-- The reader on digits with a point between or beside them. -/
theorem read?_of_point {ds : List Char} {n : Nat} {e : Int} (hn : digits? (cs ++ ds) = some n)
    (he : exponent? rest = some e) (hrest : EndsRun isMantissaChar rest) :
    read? (cs ++ '.' :: (ds ++ rest)) = some ⟨n, e - ds.length⟩ := by
  obtain ⟨-, hdigit, -⟩ := digits?_eq_some_iff.1 hn
  have hcs : ∀ c ∈ cs, c.isDigit = true := fun c hc => hdigit c (List.mem_append_left ds hc)
  have hds : ∀ c ∈ ds, c.isDigit = true := fun c hc => hdigit c (List.mem_append_right cs hc)
  have hpoint : EndsRun Char.isDigit ('.' :: (ds ++ rest)) := endsRun_cons rfl
  simp only [read?, takeWhile_append_of_endsRun hcs hpoint, dropWhile_append_of_endsRun hcs hpoint,
    takeWhile_append_of_endsRun hds hrest.isDigit, dropWhile_append_of_endsRun hds hrest.isDigit,
    hn, he]

/-- **A literal is read as what it stands for.** -/
theorem read?_text (l : Literal) : read? l.text = some l.decimal := by
  obtain ⟨whole, fraction, exponent, hwhole, hfraction, hnil⟩ := l
  have hdigits : digits? (whole ++ fraction.getD []) =
      some (ofDigits (whole ++ fraction.getD [])) :=
    digits?_eq_some_iff.2 ⟨hnil, fun c hc => (List.mem_append.1 hc).elim (hwhole c) (hfraction c),
      rfl⟩
  have hexponent := exponent?_elim exponent
  have hends := endsRun_elim exponent
  cases fraction with
  | none =>
    have hread := read?_of_digits hdigits hexponent hends
    simpa [Literal.text, Literal.mantissa, Literal.decimal] using hread
  | some ds =>
    have hread := read?_of_point hdigits hexponent hends
    simpa [Literal.text, Literal.mantissa, Literal.decimal] using hread

/-- What is read is digits, a point with digits or none, and an exponent or none. -/
theorem read?_eq_some {d : Decimal} (h : read? cs = some d) :
    ∃ whole fraction n e, ∃ rest : List Char,
      cs = whole ++ (Option.elim fraction [] ('.' :: ·) ++ rest) ∧
      digits? (whole ++ fraction.getD []) = some n ∧ exponent? rest = some e ∧
      d = ⟨n, e - (fraction.getD []).length⟩ := by
  have hsplit := List.takeWhile_append_dropWhile (p := Char.isDigit) (l := cs)
  -- the reader looks for a point behind the first run of digits
  by_cases hpoint : ∃ tail, cs.dropWhile Char.isDigit = '.' :: tail
  · obtain ⟨tail, ht⟩ := hpoint
    have htail := List.takeWhile_append_dropWhile (p := Char.isDigit) (l := tail)
    simp only [read?, ht] at h
    split at h
    · next n e hn he =>
      refine ⟨_, some (tail.takeWhile Char.isDigit), n, e, _, ?_, hn, he, (Option.some.inj h).symm⟩
      rw [Option.elim_some, List.cons_append, htail, ← ht, hsplit]
    · cases h
  · have hno : ∀ tail, cs.dropWhile Char.isDigit = '.' :: tail → False := fun tail ht =>
      hpoint ⟨tail, ht⟩
    simp only [read?] at h
    split at h
    · next n e hn he =>
      exact ⟨_, none, n, e, _, hsplit.symm, hn, he, (Option.some.inj h).symm⟩
    · cases h

/-- **What is read is a literal.** -/
theorem exists_literal_of_read? {d : Decimal} (h : read? cs = some d) :
    ∃ l : Literal, l.text = cs ∧ l.decimal = d := by
  obtain ⟨whole, fraction, n, e, rest, rfl, hn, he, rfl⟩ := read?_eq_some h
  obtain ⟨hnil, hdigit, rfl⟩ := digits?_eq_some_iff.1 hn
  have hwhole : ∀ c ∈ whole, c.isDigit = true := fun c hc => hdigit c (List.mem_append_left _ hc)
  have hfraction : ∀ c ∈ fraction.getD [], c.isDigit = true := fun c hc =>
    hdigit c (List.mem_append_right _ hc)
  obtain ⟨rfl, rfl⟩ | ⟨exponent, rfl, rfl⟩ := exponent_of_exponent? he
  · exact ⟨⟨whole, fraction, none, hwhole, hfraction, hnil⟩, by
      simp [Literal.text, Literal.mantissa], rfl⟩
  · exact ⟨⟨whole, fraction, some exponent, hwhole, hfraction, hnil⟩, by
      simp [Literal.text, Literal.mantissa], rfl⟩

/-! ### The length of a literal -/

theorem isMantissaChar_of_isDigit (h : c.isDigit = true) : isMantissaChar c = true := by
  simp [isMantissaChar, h]

theorem EndsRun.append (hcs : EndsRun p cs) (hrest : EndsRun p rest) : EndsRun p (cs ++ rest) := by
  cases cs with
  | nil => exact hrest
  | cons c cs => exact endsRun_cons (hcs c rfl)

theorem exponentLength_text (e : Exponent) (hrest : EndsRun Char.isDigit rest) :
    exponentLength (e.text ++ rest) = e.text.length := by
  obtain ⟨capital, sign, digits, hdigit, hnil⟩ := e
  obtain ⟨d, ds, rfl⟩ := List.exists_cons_of_ne_nil hnil
  have hd := hdigit d List.mem_cons_self
  have hplus : d ≠ '+' := ne_of_isDigit hd rfl
  have hminus : d ≠ '-' := ne_of_isDigit hd rfl
  have htake : (d :: (ds ++ rest)).takeWhile Char.isDigit = d :: ds :=
    takeWhile_append_of_endsRun hdigit hrest
  cases capital <;> rcases sign with _ | _ | _ <;>
    simp [exponentLength, Exponent.text, Exponent.signText, hplus, hminus, htake] <;> omega

theorem exponentLength_of_endsRun (hrest : EndsRun isNameChar rest) : exponentLength rest = 0 := by
  cases rest with
  | nil => rfl
  | cons c cs =>
    have hc := hrest c rfl
    have hsmall : c ≠ 'e' := by rintro rfl; exact absurd hc (by decide)
    have hcapital : c ≠ 'E' := by rintro rfl; exact absurd hc (by decide)
    simp [exponentLength, hsmall, hcapital]

namespace Literal

theorem isMantissaChar_mantissa (l : Literal) : ∀ c ∈ l.mantissa, isMantissaChar c = true := by
  obtain ⟨whole, fraction, exponent, hwhole, hfraction, -⟩ := l
  intro c hc
  rcases List.mem_append.1 hc with hc | hc
  · exact isMantissaChar_of_isDigit (hwhole c hc)
  · cases fraction with
    | none => cases hc
    | some ds =>
      rcases List.mem_cons.1 hc with rfl | hc
      · rfl
      · exact isMantissaChar_of_isDigit (hfraction c hc)

/-- **The scanner takes a literal as a whole.** -/
theorem literalLength_text (l : Literal) (hm : EndsRun isMantissaChar rest)
    (hn : EndsRun isNameChar rest) : literalLength (l.text ++ rest) = l.text.length := by
  have hends := (endsRun_elim l.exponent).append hm
  have hexponent : exponentLength (l.exponent.elim [] Exponent.text ++ rest) =
      (l.exponent.elim [] Exponent.text).length := by
    cases l.exponent with
    | none => exact exponentLength_of_endsRun hn
    | some e => exact exponentLength_text e hm.isDigit
  simp only [literalLength, text, List.append_assoc,
    takeWhile_append_of_endsRun l.isMantissaChar_mantissa hends, List.drop_left, hexponent,
    List.length_append]

/-- A literal has digits and few other characters. -/
theorem mem_text {l : Literal} (hc : c ∈ l.text) :
    c.isDigit = true ∨ c ∈ ['.', 'e', 'E', '+', '-'] := by
  have hc : c ∈ (l.whole ++ l.fraction.elim [] ('.' :: ·)) ++ l.exponent.elim [] Exponent.text := hc
  rcases List.mem_append.1 hc with hc | hc
  · rcases List.mem_append.1 hc with hc | hc
    · exact .inl (l.whole_isDigit c hc)
    · cases hf : l.fraction with
      | none => rw [hf] at hc; cases hc
      | some ds =>
        rw [hf] at hc
        rcases List.mem_cons.1 hc with rfl | hc
        · exact .inr (by simp)
        · exact .inl (l.fraction_isDigit c (by rw [hf]; exact hc))
  · cases he : l.exponent with
    | none => rw [he] at hc; cases hc
    | some e =>
      rw [he] at hc
      rcases List.mem_cons.1 hc with rfl | hc
      · exact .inr (by cases e.capital <;> simp)
      · rcases List.mem_append.1 hc with hc | hc
        · rcases hs : e.sign with _ | _ | _ <;> simp_all [Exponent.signText]
        · exact .inl (e.isDigit c hc)

/-- A literal starts with a digit or a point. -/
theorem exists_cons (l : Literal) : ∃ c cs, l.text = c :: cs ∧ isMantissaChar c = true := by
  have hnil : l.mantissa ≠ [] := by
    obtain ⟨whole, fraction, exponent, -, -, hnil⟩ := l
    cases fraction with
    | none => simpa [mantissa] using hnil
    | some ds => simp [mantissa]
  obtain ⟨c, cs, hcs⟩ := List.exists_cons_of_ne_nil hnil
  refine ⟨c, cs ++ l.exponent.elim [] Exponent.text, by rw [text, hcs]; rfl, ?_⟩
  exact l.isMantissaChar_mantissa c (hcs ▸ List.mem_cons_self)

end Literal

end SpriteStage.Formula
