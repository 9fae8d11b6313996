import SpriteStage.Json.Printer
import SpriteStage.Json.Reader
import SpriteStage.Proofs.Written

/-!
# Printed texts and numbers of JSON

The reader takes exactly the characters that were printed for a text or a number.

* `units?_escaped`: an escaped character is read as the number of the character, with one lemma for
  each way of escaping, and so `text?_escaped`: a text between quotes is read as it was;
* `number?_toString`, `number?_exponent`: so is a whole number and a decimal, if what comes behind
  cannot belong to a number.
-/

namespace SpriteStage.JsonValue

open Formula

variable {c d : Char} {cs rest : List Char}

/-! ### Texts -/

theorem hexDigit?_hexChar {d : Nat} (hd : d < 16) : hexDigit? (hexChar d) = some d := by
  have hall : ∀ d < 16, hexDigit? (hexChar d) = some d := by decide
  exact hall d hd

/-- Put the number of a character in front of what was read. -/
def withUnit (c : Char) (p : List Nat × List Char) : List Nat × List Char := (c.toNat :: p.1, p.2)

theorem units?_letter (hd : d ≠ 'u') (hescape : escape? d = some c) (rest : List Char) :
    units? ('\\' :: d :: rest) = (units? rest).map (withUnit c) := by
  have heq : units? ('\\' :: d :: rest) = (escape? d).bind fun c =>
      (units? rest).bind fun p => some (c.toNat :: p.1, p.2) := by
    rw [units?]
    · rfl
    · rintro _ _ _ _ _ rfl
      exact absurd rfl hd
  rw [heq, hescape, Option.bind_some]
  exact Option.map_eq_bind.symm

theorem units?_number (hc : c.toNat < 0x20) (rest : List Char) :
    units? ('\\' :: 'u' :: '0' :: '0' :: hexChar (c.toNat / 16) :: hexChar (c.toNat % 16) :: rest) =
      (units? rest).map (withUnit c) := by
  have hzero : hexDigit? '0' = some 0 := by decide
  have hhigh := hexDigit?_hexChar (d := c.toNat / 16) (by omega)
  have hlow := hexDigit?_hexChar (d := c.toNat % 16) (by omega)
  have hsum : 16 * (c.toNat / 16) + c.toNat % 16 = c.toNat := Nat.div_add_mod _ _
  rw [units?]
  simp only [hzero, hhigh, hlow, Option.bind_eq_bind, Option.bind_some, Nat.mul_zero, Nat.zero_add,
    hsum]
  exact Option.map_eq_bind.symm

theorem units?_plain (hquote : c ≠ '"') (hslash : c ≠ '\\') (hc : ¬ c.toNat < 0x20)
    (rest : List Char) : units? (c :: rest) = (units? rest).map (withUnit c) := by
  rw [units?]
  · rw [if_neg hc]
    exact Option.map_eq_bind.symm
  · exact hquote
  · rintro _ _ _ _ _ rfl
    exact absurd rfl hslash
  · rintro _ _ rfl
    exact absurd rfl hslash

/-- An escaped character is read as its number. -/
theorem units?_escaped (c : Char) (rest : List Char) :
    units? (escaped c ++ rest) = (units? rest).map (withUnit c) := by
  unfold escaped
  split
  · next h =>
    obtain rfl | rfl : c = '"' ∨ c = '\\' := by simpa using h
    · exact units?_letter (by decide) rfl rest
    · exact units?_letter (by decide) rfl rest
  next hplain =>
  split
  · next h => exact h ▸ units?_letter (by decide) rfl rest
  split
  · next h => exact h ▸ units?_letter (by decide) rfl rest
  split
  · next h => exact h ▸ units?_letter (by decide) rfl rest
  split
  · next h => exact h ▸ units?_letter (by decide) rfl rest
  split
  · next h => exact h ▸ units?_letter (by decide) rfl rest
  split
  · next h => exact units?_number h rest
  · next h =>
    obtain ⟨hquote, hslash⟩ : c ≠ '"' ∧ c ≠ '\\' := by simpa using hplain
    exact units?_plain hquote hslash h rest

theorem units?_flatMap (cs rest : List Char) :
    units? (cs.flatMap escaped ++ '"' :: rest) = some (cs.map Char.toNat, rest) := by
  induction cs with
  | nil => rfl
  | cons c cs ih =>
    rw [List.flatMap_cons, List.append_assoc, units?_escaped, ih]
    rfl

/-- No character is half of a surrogate pair. -/
theorem pairUp?_map (cs : List Char) : pairUp? (cs.map Char.toNat) = some cs := by
  induction cs with
  | nil => rfl
  | cons c cs ih =>
    have hvalid : c.toNat < 0xD800 ∨ 0xDFFF < c.toNat := c.valid.imp id And.left
    have hhigh : ¬ (0xD800 ≤ c.toNat ∧ c.toNat < 0xDC00) := by omega
    have hlow : ¬ (0xDC00 ≤ c.toNat ∧ c.toNat < 0xE000) := by omega
    rw [List.map_cons, pairUp?.eq_def]
    simp only [if_neg hhigh, if_neg hlow, ih, Option.map_some, Char.ofNat_toNat]

theorem text?_escaped (s : String) (rest : List Char) :
    text? (s.toList.flatMap escaped ++ '"' :: rest) = some (some s, rest) := by
  rw [text?, units?_flatMap]
  simp [pairUp?_map]

/-! ### Numbers -/

/-- Whether a number could go on with this character. -/
def isNumberChar (c : Char) : Bool := isMantissaChar c || c == 'e' || c == 'E'

theorem endsRun_isMantissaChar (h : EndsRun isNumberChar rest) : EndsRun isMantissaChar rest :=
  fun c hc => (Bool.or_eq_false_iff.1 (Bool.or_eq_false_iff.1 (h c hc)).1).1

theorem digits?_append {ds : List Char} (hds : ∀ c ∈ ds, c.isDigit = true) (hne : ds ≠ [])
    (hrest : EndsRun Char.isDigit rest) : digits? (ds ++ rest) = some (ds, rest) := by
  obtain ⟨d, ds, rfl⟩ := List.exists_cons_of_ne_nil hne
  rw [digits?, takeWhile_append_of_endsRun hds hrest, dropWhile_append_of_endsRun hds hrest]

theorem toString_ne_nil (n : Nat) : (toString n).toList ≠ [] :=
  (digits?_eq_some_iff.1 (Decimal.digits?_toString n)).1

theorem whole?_toString (n : Nat) (hrest : EndsRun Char.isDigit rest) :
    whole? ((toString n).toList ++ rest) = some ((toString n).toList, rest) := by
  have hdigits : digits? ((toString n).toList ++ rest) = some ((toString n).toList, rest) :=
    digits?_append (fun c => Decimal.isDigit_of_mem_toString) (toString_ne_nil n) hrest
  rw [whole?, hdigits, Option.bind_eq_bind, Option.bind_some]
  dsimp only
  split
  · next h =>
    have hn : n = 0 := Decimal.eq_zero_of_head_toString (by rw [h]; rfl)
    subst hn
    cases h
  · rfl

theorem fraction?_of_endsRun (hrest : EndsRun isMantissaChar rest) :
    fraction? rest = some ([], rest) := by
  unfold fraction?
  split
  · exact absurd (hrest '.' rfl) (by decide)
  · rfl

theorem exponent?_of_endsRun (hrest : EndsRun isNumberChar rest) :
    exponent? rest = some ([], rest) := by
  cases rest with
  | nil => rfl
  | cons c rest =>
    have hc : (decide (c = 'e') || decide (c = 'E')) = false := by
      have hends := hrest c rfl
      rw [isNumberChar, Bool.or_assoc] at hends
      exact (Bool.or_eq_false_iff.1 hends).2
    rw [exponent?.eq_def]
    simp only [hc]
    rfl

theorem exponent?_append (e : Exponent) (hrest : EndsRun Char.isDigit rest) :
    exponent? (e.text ++ rest) = some (e.text, rest) := by
  obtain ⟨capital, sign, ds, hdigit, hnil⟩ := e
  have hdigits := digits?_append hdigit hnil hrest
  obtain ⟨d, ds, rfl⟩ := List.exists_cons_of_ne_nil hnil
  have hd := hdigit d List.mem_cons_self
  have hplus : d ≠ '+' := ne_of_isDigit hd rfl
  have hminus : d ≠ '-' := ne_of_isDigit hd rfl
  rw [List.cons_append] at hdigits
  cases capital <;> rcases sign with _ | _ | _ <;>
    simp [exponent?, Exponent.text, Exponent.signText, hdigits, hplus, hminus]

/-- A whole number behind the letter is an exponent. -/
theorem exists_exponent (n : Int) :
    ∃ e : Exponent, e.text = 'e' :: (toString n).toList ∧ e.value = n := by
  have hdigit (m : Nat) : ∀ c ∈ (toString m).toList, c.isDigit = true :=
    fun c => Decimal.isDigit_of_mem_toString
  have hvalue (m : Nat) := (digits?_eq_some_iff.1 (Decimal.digits?_toString m)).2.2
  cases n with
  | ofNat m =>
    exact ⟨⟨false, none, (toString m).toList, hdigit m, toString_ne_nil m⟩, rfl,
      congrArg Int.ofNat (hvalue m)⟩
  | negSucc m =>
    refine ⟨⟨false, some true, (toString (m + 1)).toList, hdigit _, toString_ne_nil _⟩, ?_, ?_⟩
    · show 'e' :: ("-".toList ++ (toString (m + 1)).toList) = _
      rw [← String.toList_append]
      rfl
    · show -(Decimal.ofDigits (toString (m + 1)).toList : Int) = _
      rw [hvalue]
      rfl

/-- What is read of a number by what is read of its parts. -/
theorem number?_parts {negative : Bool} {d : Decimal}
    {whole fraction exponent rest₁ rest₂ : List Char} (hwhole : whole? cs = some (whole, rest₁))
    (hfraction : fraction? rest₁ = some (fraction, rest₂))
    (hexponent : exponent? rest₂ = some (exponent, rest))
    (hread : Decimal.read? (whole ++ fraction ++ exponent) = some d) :
    number? negative cs =
      some (if fraction.isEmpty && exponent.isEmpty && !(negative && Decimal.ofDigits whole == 0)
        then integer (if negative then -(Decimal.ofDigits whole : Int) else Decimal.ofDigits whole)
        else real negative d, rest) := by
  simp only [number?, hwhole, hfraction, hexponent, hread, Option.bind_eq_bind, Option.bind_some]
  split <;> rfl

/-- Digits are read as a whole number. -/
theorem number?_toString {n : Nat} {negative : Bool} (hn : negative = true → n ≠ 0)
    (hrest : EndsRun isNumberChar rest) :
    number? negative ((toString n).toList ++ rest) =
      some (integer (if negative then -(n : Int) else n), rest) := by
  have hmantissa := endsRun_isMantissaChar hrest
  have hdigits := Decimal.digits?_toString n
  have hread := read?_of_digits hdigits Decimal.exponent?_nil endsRun_nil
  have hzero : (negative && n == 0) = false := by
    cases negative with
    | false => rfl
    | true => simpa using hn rfl
  rw [number?_parts (whole?_toString n hmantissa.isDigit) (fraction?_of_endsRun hmantissa)
    (exponent?_of_endsRun hrest) (by simpa only [List.append_nil] using hread),
    (digits?_eq_some_iff.1 hdigits).2.2, hzero]
  rfl

/-- Digits with an exponent are read as a decimal. -/
theorem number?_exponent (negative : Bool) (d : Decimal) (hrest : EndsRun Char.isDigit rest) :
    number? negative
        ((toString d.coefficient).toList ++ ('e' :: (toString d.exponent).toList ++ rest)) =
      some (real negative d, rest) := by
  obtain ⟨e, htext, hvalue⟩ := exists_exponent d.exponent
  have hends : EndsRun isMantissaChar (e.text ++ rest) := htext ▸ endsRun_cons rfl
  have hread := read?_of_digits (Decimal.digits?_toString d.coefficient) (exponent?_text e)
    (htext ▸ endsRun_cons rfl)
  rw [← htext, number?_parts (whole?_toString _ hends.isDigit) (fraction?_of_endsRun hends)
    (exponent?_append e hrest) (by simpa only [List.append_nil] using hread), htext, hvalue]
  rfl

end SpriteStage.JsonValue
