import Mathlib.Data.List.Basic
import SpriteStage.Error
import SpriteStage.Number.Unsigned
import SpriteStage.Proofs.Formula.Literal

/-!
# Written numbers

A number that is written in a base up to sixteen is read back as it was.

* `toDigits_induction`: a written number is a digit, or a written number with one more digit;
* `Unsigned.read_toDigits`: by the bounded reader in every such base, and so in base ten
  (`read_toString`);
* `Decimal.digits?_toString`: as a text of digits;
* `Decimal.eq_zero_of_head_toString`: there is no zero in front of it, unless it is zero.
-/

namespace SpriteStage

/-- Induction on a written number: it is one digit, or another written number and one more digit. -/
theorem toDigits_induction {base : Nat} {motive : Nat → List Char → Prop} (hone : 1 < base)
    (digit : ∀ n, n < base → motive n [n.digitChar])
    (append : ∀ n, base ≤ n → motive (n / base) (Nat.toDigits base (n / base)) →
      motive n (Nat.toDigits base (n / base) ++ [(n % base).digitChar])) (n : Nat) :
    motive n (Nat.toDigits base n) := by
  induction n using Nat.strongRecOn with
  | ind n ih =>
    by_cases hlt : n < base
    · rw [Nat.toDigits_of_lt_base hlt]
      exact digit n hlt
    · have hle := Nat.le_of_not_lt hlt
      rw [Nat.toDigits_of_base_le hone hle]
      exact append n hle (ih _ (Nat.div_lt_self (by omega) hone))

theorem exists_digitChar {base : Nat} (hone : 1 < base) (n : Nat) :
    ∀ c ∈ Nat.toDigits base n, ∃ d < base, c = d.digitChar := by
  refine toDigits_induction (motive := fun _ ds => ∀ c ∈ ds, ∃ d < base, c = d.digitChar) hone
    (fun n hn => ?_) (fun n _ hquotient => ?_) n
  · exact List.forall_mem_singleton.2 ⟨n, hn, rfl⟩
  · have hmod : n % base < base := Nat.mod_lt n (by omega)
    exact List.forall_mem_append.2 ⟨hquotient, List.forall_mem_singleton.2 ⟨_, hmod, rfl⟩⟩

/-! ### The bounded reader -/

namespace Unsigned

variable {base greatest n d : Nat}

theorem digit?_digitChar (hd : d < base) (hbase : base ≤ 16) :
    digit? base d.digitChar = some d := by
  have hsixteen : ∀ d < 16, digit? 16 (Nat.digitChar d) = some d := by decide
  obtain ⟨hvalue, -⟩ := Option.filter_eq_some_iff.1 (hsixteen d (Nat.lt_of_lt_of_le hd hbase))
  exact Option.filter_eq_some_iff.2 ⟨hvalue, by simpa using hd⟩

/-- The digits of a longer text go on from the value of those in front. -/
theorem extend_append (base greatest value : Nat) (front rest : List Char) :
    extend base greatest value (front ++ rest) =
      extend base greatest value front >>= (extend base greatest · rest) := by
  induction front generalizing value with
  | nil => rfl
  | cons c front ih =>
    rw [List.cons_append, extend, extend]
    split
    · rfl
    · dsimp only
      split
      · exact ih _
      · rfl

theorem extend_toDigits (hone : 1 < base) (hbase : base ≤ 16) (n : Nat) :
    n ≤ greatest → extend base greatest 0 (Nat.toDigits base n) = .ok n := by
  refine toDigits_induction (motive := fun n ds => n ≤ greatest → extend base greatest 0 ds = .ok n)
    hone (fun n hlt hn => ?_) (fun n hle ih hn => ?_) n
  · rw [extend, digit?_digitChar hlt hbase]
    simp [hn]
  · have hdiv : n / base ≤ greatest := Nat.le_trans (Nat.div_le_self n base) hn
    have hmod : n % base < base := Nat.mod_lt n (by omega)
    rw [extend_append, bind_of_eq_ok (ih hdiv), extend, digit?_digitChar hmod hbase]
    simp [Nat.div_add_mod, hn]

/-- **A number that was written is read as it was.** -/
theorem read_toDigits (hone : 1 < base) (hbase : base ≤ 16) (hn : n ≤ greatest) :
    read base greatest (Nat.toDigits base n) = .ok n := by
  have hextend := extend_toDigits hone hbase n hn
  have hplus (ds : List Char) : Nat.toDigits base n ≠ '+' :: ds := by
    have hsign : digit? base '+' = none := by simp [digit?]
    intro heq
    rw [heq, extend, hsign] at hextend
    cases hextend
  unfold read
  split
  · exact absurd ‹_› Nat.toDigits_ne_nil
  · exact absurd ‹_› (hplus [])
  · exact absurd ‹_› (hplus _)
  · exact hextend

theorem read_toString (hn : n ≤ greatest) : read 10 greatest (toString n).toList = .ok n := by
  rw [Nat.toString_eq_ofList_toDigits, String.toList_ofList]
  exact read_toDigits (by omega) (by omega) hn

end Unsigned

/-! ### Texts of digits -/

namespace Decimal

theorem isDigit_of_mem_toString {n : Nat} {c : Char} (h : c ∈ (toString n).toList) :
    c.isDigit = true := by
  rw [Nat.toString_eq_ofList_toDigits, String.toList_ofList] at h
  exact Nat.isDigit_of_mem_toDigits (by omega) (by omega) h

theorem digits?_toString (n : Nat) : digits? (toString n).toList = some n := by
  refine Formula.digits?_eq_some_iff.2 ⟨?_, fun c => isDigit_of_mem_toString, ?_⟩
  · rw [Nat.toString_eq_ofList_toDigits, String.toList_ofList]
    exact Nat.toDigits_ne_nil
  · rw [Nat.toString_eq_ofList_toDigits, String.toList_ofList]
    exact Nat.ofDigitChars_ten_toDigits

theorem eq_zero_of_head_toDigits (n : Nat) : (Nat.toDigits 10 n).head? = some '0' → n = 0 := by
  refine toDigits_induction (motive := fun n ds => ds.head? = some '0' → n = 0) (by omega)
    (fun n _ h => ?_) (fun n hle ih h => ?_) n
  · exact Nat.digitChar_eq_zero.1 (Option.some.inj h)
  · rw [List.head?_append_of_ne_nil _ Nat.toDigits_ne_nil] at h
    have hzero := ih h
    omega

/-- Nothing but zero begins with a zero. -/
theorem eq_zero_of_head_toString {n : Nat} (h : (toString n).toList.head? = some '0') : n = 0 := by
  rw [Nat.toString_eq_ofList_toDigits, String.toList_ofList] at h
  exact eq_zero_of_head_toDigits n h

end Decimal

end SpriteStage
