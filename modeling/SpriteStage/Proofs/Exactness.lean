import Mathlib.Algebra.Order.Field.Power
import Mathlib.Data.Rat.Floor
import Mathlib.Tactic.FieldSimp
import Mathlib.Tactic.Linarith
import Mathlib.Tactic.Ring
import Mathlib.Tactic.WLOG
import SpriteStage.Proofs.Centring

/-!
# Exact results

A finite number stands for a rational. An operation whose exact result fits the format gives that
result, and a number is rounded to a whole number as the rational it stands for.

* `nearest`: the whole number nearest to a rational, with `nearest_eq_iff`;
* `Binary64.value?`, `Representable`: the rational of a number, and the rationals that fit;
* `value?_round`: a value that fits is not changed by rounding;
* `value?_add`, `value?_sub`, `value?_div`: operations whose exact results fit;
* `roundToInt?_of_value?`, `roundToInt?_eq_some_iff`: the whole number of a number.
-/

namespace SpriteStage

/-! ### Nearest whole numbers -/

/-- The whole number nearest to a rational, a half going away from zero. -/
def nearest (q : ℚ) : ℤ := if q < 0 then -⌊-q + 1 / 2⌋ else ⌊q + 1 / 2⌋

theorem nearest_of_nonneg {q : ℚ} (h : 0 ≤ q) : nearest q = ⌊q + 1 / 2⌋ := if_neg h.not_gt

theorem nearest_neg (q : ℚ) : nearest (-q) = -nearest q := by
  rcases lt_trichotomy q 0 with h | rfl | h
  · rw [nearest_of_nonneg (by linarith), nearest, if_pos h, neg_neg]
  · norm_num [nearest]
  · rw [nearest_of_nonneg h.le, nearest, if_pos (by linarith), neg_neg]

@[simp] theorem nearest_intCast (n : ℤ) : nearest n = n := by
  have hhalf : ⌊(1 / 2 : ℚ)⌋ = 0 := by norm_num
  by_cases h : (n : ℚ) < 0
  · rw [nearest, if_pos h, ← Int.cast_neg, Int.floor_intCast_add, hhalf]
    omega
  · rw [nearest, if_neg h, Int.floor_intCast_add, hhalf, Int.add_zero]

/-- **What is nearest**: less than a half away, or a half away on the far side from zero. -/
theorem nearest_eq_iff {q : ℚ} {n : ℤ} :
    nearest q = n ↔ |q - n| < 1 / 2 ∨ |q - n| = 1 / 2 ∧ |q| < |(n : ℚ)| := by
  wlog h : 0 ≤ q generalizing q n
  · have hneg := this (q := -q) (n := -n) (by linarith)
    rw [nearest_neg, neg_inj, Int.cast_neg, abs_neg, abs_neg, ← neg_sub', abs_neg] at hneg
    exact hneg
  rw [nearest_of_nonneg h, Int.floor_eq_iff, abs_of_nonneg h]
  constructor
  · rintro ⟨hlow, hhigh⟩
    rcases hlow.lt_or_eq with hlow | hlow
    · exact .inl (abs_lt.2 ⟨by linarith, by linarith⟩)
    · refine .inr ⟨?_, ?_⟩
      · rw [hlow, abs_of_neg (by linarith)]
        ring
      · rw [hlow, abs_of_pos (by linarith)]
        linarith
  · rintro (hless | ⟨hhalf, hfar⟩)
    · obtain ⟨hlow, hhigh⟩ := abs_lt.1 hless
      exact ⟨by linarith, by linarith⟩
    · rcases abs_choice (q - n) with hside | hside <;> rw [hside] at hhalf
      · -- `n` is the half below, which is no farther from zero
        exfalso
        rcases le_or_gt 0 n with hn | hn
        · rw [abs_of_nonneg (Int.cast_nonneg hn)] at hfar
          linarith
        · have hn' : (n : ℚ) ≤ -1 := by exact_mod_cast Int.le_sub_one_of_lt hn
          linarith
      · exact ⟨by linarith, by linarith⟩

example : nearest (-13 / 2) = -7 ∧ nearest (13 / 2) = 7 := by decide +kernel

namespace Binary64

/-! ### Values -/

/-- The rational that a finite datum stands for. -/
def value? : Binary64 → Option ℚ
  | .finite s m e => some (signed s m * 2 ^ e)
  | _ => none

/-- A rational of at most 53 binary digits within the range of the format. -/
def Representable (q : ℚ) : Prop :=
  ∃ (n : ℕ) (e : ℤ), |q| = n * 2 ^ e ∧ bitLength n ≤ 53 ∧ -1074 ≤ e ∧ bitLength n + e ≤ 1024

variable {a b : Binary64} {p q : ℚ} {m n : ℕ} {d e : ℤ}

theorem value?_eq_some_iff :
    a.value? = some q ↔ ∃ s m e, a = .finite s m e ∧ q = signed s m * 2 ^ e := by
  cases a with
  | finite s m e =>
    constructor
    · rintro h
      exact ⟨s, m, e, rfl, (Option.some.inj h).symm⟩
    · rintro ⟨s, m, e, h, rfl⟩
      cases h
      rfl
  | _ => simp [value?]

/-! ### Digits -/

theorem lt_two_pow_bitLength (m : ℕ) : m < 2 ^ bitLength m := by
  unfold bitLength
  split
  · next hm => simp [hm]
  · exact Nat.lt_log2_self

theorem bitLength_mul_two_pow (h : m ≠ 0) (k : ℕ) : bitLength (m * 2 ^ k) = bitLength m + k := by
  have hpos : m * 2 ^ k ≠ 0 := Nat.mul_ne_zero h (by positivity)
  have hlog : (m * 2 ^ k).log2 = m.log2 + k := by
    rw [Nat.log2_eq_iff hpos, Nat.pow_add, Nat.add_right_comm, Nat.pow_add]
    exact ⟨Nat.mul_le_mul_right _ (Nat.log2_self_le h),
      Nat.mul_lt_mul_of_pos_right Nat.lt_log2_self (by positivity)⟩
  simp only [bitLength, h, hpos, if_false, hlog]
  omega

theorem two_zpow_of_le (h : d ≤ e) : (2 : ℚ) ^ e = 2 ^ (e - d).toNat * 2 ^ d := by
  rw [← zpow_natCast, ← zpow_add₀ two_ne_zero, Int.toNat_of_nonneg (by omega), sub_add_cancel]

/-- Of two ways to write a value, the one with the lesser exponent has more digits, all zero. -/
theorem eq_mul_two_pow (h : (m : ℚ) * 2 ^ d = n * 2 ^ e) (hle : d ≤ e) :
    m = n * 2 ^ (e - d).toNat := by
  rw [two_zpow_of_le hle, ← mul_assoc] at h
  exact_mod_cast mul_right_cancel₀ (zpow_ne_zero d two_ne_zero) h

theorem ne_zero_of_eq (h : (m : ℚ) * 2 ^ d = n * 2 ^ e) (hm : m ≠ 0) : n ≠ 0 := by
  rintro rfl
  rw [Nat.cast_zero, zero_mul] at h
  exact mul_ne_zero (Nat.cast_ne_zero.2 hm) (zpow_ne_zero d two_ne_zero) h

/-- How far the digits of a value reach does not depend on how it is written. -/
theorem bitLength_add_eq (h : (m : ℚ) * 2 ^ d = n * 2 ^ e) (hm : m ≠ 0) :
    bitLength m + d = bitLength n + e := by
  have hn := ne_zero_of_eq h hm
  rcases le_total d e with hle | hle
  · rw [eq_mul_two_pow h hle, bitLength_mul_two_pow hn]
    omega
  · rw [eq_mul_two_pow h.symm hle, bitLength_mul_two_pow hm]
    omega

/-! ### Rounding -/

theorem shiftRounded_mul_two_pow (m k : ℕ) : shiftRounded (m * 2 ^ k) k = m := by
  have hpos : 0 < 2 ^ k := by positivity
  simp [shiftRounded, hpos]

/-- Only zeros are dropped from a value that fits. -/
theorem exists_mul_two_pow_excess (h : (m : ℚ) * 2 ^ d = n * 2 ^ e) (hm : m ≠ 0)
    (hlen : bitLength n ≤ 53) (hlow : -1074 ≤ e) : ∃ k, m = k * 2 ^ excess m d := by
  have hreach := bitLength_add_eq h hm
  rcases le_total d e with hle | hle
  · have hdrop : excess m d ≤ (e - d).toNat := by
      unfold excess
      omega
    obtain ⟨k, hk⟩ := Nat.pow_dvd_pow 2 hdrop
    exact ⟨n * k, by rw [Nat.mul_assoc, Nat.mul_comm k, ← hk, ← eq_mul_two_pow h hle]⟩
  · have hdrop : excess m d = 0 := by
      unfold excess
      omega
    exact ⟨m, by rw [hdrop, Nat.pow_zero, Nat.mul_one]⟩

theorem signed_mul (s : Bool) (m n : ℕ) : signed s (m * n) = signed s m * n := by
  cases s <;> simp [signed]

theorem abs_signed (s : Bool) (m : ℕ) : |(signed s m : ℚ)| = m := by
  cases s <;> simp [signed]

/-- **Rounding leaves a value that fits.** -/
theorem value?_round (s : Bool) (h : Representable ((signed s m : ℚ) * 2 ^ d)) :
    (round s m d).value? = some ((signed s m : ℚ) * 2 ^ d) := by
  obtain ⟨n, e, habs, hlen, hlow, hhigh⟩ := h
  rw [abs_mul, abs_signed, abs_of_pos (zpow_pos two_pos d)] at habs
  by_cases hm : m = 0
  · subst hm
    have hzero := shiftRounded_mul_two_pow 0 (excess 0 d)
    rw [Nat.zero_mul] at hzero
    simp [round, hzero, value?, signed]
  · -- what is left of the significand reaches as far as before, so it is no infinity
    have hreach := bitLength_add_eq habs hm
    obtain ⟨k, hk⟩ := exists_mul_two_pow_excess habs hm hlen hlow
    generalize hdrop : excess m d = drop at hk
    have hk0 : k ≠ 0 := by
      rintro rfl
      exact hm (hk.trans (Nat.zero_mul _))
    have hdigits : bitLength m = bitLength k + drop := hk ▸ bitLength_mul_two_pow hk0 drop
    have hshift : shiftRounded m drop = k := hk ▸ shiftRounded_mul_two_pow k drop
    have hfits : ¬ (1024 < (bitLength k : ℤ) + (d + drop)) := by omega
    simp only [round, hdrop, hshift, hk0, hfits, if_false, value?]
    rw [hk, signed_mul, Int.cast_mul, zpow_add₀ two_ne_zero, zpow_natCast]
    push_cast
    ring_nf

/-! ### Operations -/

theorem value?_neg (h : a.value? = some p) : a.neg.value? = some (-p) := by
  obtain ⟨s, m, e, rfl, rfl⟩ := value?_eq_some_iff.1 h
  simp [neg, value?, signed_not]

/-- **A sum that fits is exact.** -/
theorem value?_add (ha : a.value? = some p) (hb : b.value? = some q)
    (h : Representable (p + q)) : (a + b).value? = some (p + q) := by
  obtain ⟨s, m, d, rfl, rfl⟩ := value?_eq_some_iff.1 ha
  obtain ⟨t, n, e, rfl, rfl⟩ := value?_eq_some_iff.1 hb
  show (add _ _).value? = _
  simp only [add, Nat.pow_eq]
  generalize hlow : min d e = low
  generalize hsum : signed s (m * 2 ^ (d - low).toNat) + signed t (n * 2 ^ (e - low).toNat) = sum
  -- both terms are brought to the lesser exponent
  have hd : low ≤ d := by omega
  have he : low ≤ e := by omega
  have hvalue : (signed s m * 2 ^ d + signed t n * 2 ^ e : ℚ) = sum * 2 ^ low := by
    rw [two_zpow_of_le hd, two_zpow_of_le he, ← hsum, signed_mul, signed_mul]
    push_cast
    ring
  rw [hvalue] at h ⊢
  split
  · next hzero => simp [hzero, value?, signed]
  · have hround := value?_round (decide (sum < 0)) (m := sum.natAbs) (d := low)
    rw [signed_natAbs] at hround
    exact hround h

theorem value?_sub (ha : a.value? = some p) (hb : b.value? = some q)
    (h : Representable (p - q)) : (a - b).value? = some (p - q) := by
  rw [sub_eq_add_neg] at h ⊢
  exact value?_add ha (value?_neg hb) h

/-- A quotient that fits leaves no remainder: more digits are taken than it has. -/
theorem exists_scaled_eq {num den k : ℕ} (hden : den ≠ 0)
    (h : (num : ℚ) / den * 2 ^ d = k * 2 ^ e) (hlen : bitLength k ≤ 53) :
    ∃ j, num * 2 ^ (bitLength den + 55 - bitLength num) = den * j := by
  by_cases hnum : num = 0
  · exact ⟨0, by rw [hnum, Nat.zero_mul, Nat.mul_zero]⟩
  have hcross : (num : ℚ) * 2 ^ d = (den * k : ℕ) * 2 ^ e := by
    have hden' : (den : ℚ) ≠ 0 := Nat.cast_ne_zero.2 hden
    rw [Nat.cast_mul, mul_assoc, ← h]
    field_simp
  have hreach := bitLength_add_eq hcross hnum
  have hproduct : bitLength (den * k) ≤ bitLength den + bitLength k := by
    refine bitLength_le ?_
    rw [Nat.pow_eq, Nat.pow_add]
    exact Nat.mul_lt_mul'' (lt_two_pow_bitLength den) (lt_two_pow_bitLength k)
  generalize hshift : bitLength den + 55 - bitLength num = shift
  have hscaled : ((num * 2 ^ shift : ℕ) : ℚ) * 2 ^ (d - shift) = (den * k : ℕ) * 2 ^ e := by
    rw [← hcross, zpow_sub₀ two_ne_zero, zpow_natCast]
    push_cast
    field_simp
  exact ⟨_, (eq_mul_two_pow hscaled (by omega)).trans (Nat.mul_assoc _ _ _)⟩

theorem value?_quotient (s : Bool) {num den : ℕ} (hden : den ≠ 0)
    (h : Representable ((signed s num : ℚ) / den * 2 ^ d)) :
    (quotient s num den d).value? = some ((signed s num : ℚ) / den * 2 ^ d) := by
  have hden' : (den : ℚ) ≠ 0 := Nat.cast_ne_zero.2 hden
  obtain ⟨n, e, habs, hlen, -⟩ := id h
  rw [abs_mul, abs_div, abs_signed, Nat.abs_cast, abs_of_pos (zpow_pos two_pos d)] at habs
  obtain ⟨j, hj⟩ := exists_scaled_eq hden habs hlen
  generalize hshift : bitLength den + 55 - bitLength num = shift at hj
  have hvalue : (signed s num : ℚ) / den * 2 ^ d =
      (signed s (j * 2) : ℚ) * 2 ^ (d - shift - 1) := by
    have hscaled : (signed s num : ℚ) * 2 ^ shift = den * signed s j := by
      have hint := congrArg (signed s) hj
      rw [Nat.mul_comm den, signed_mul, signed_mul, Int.mul_comm _ (den : ℤ)] at hint
      exact_mod_cast hint
    rw [signed_mul, zpow_sub₀ two_ne_zero, zpow_sub₀ two_ne_zero, zpow_natCast, zpow_one]
    push_cast
    field_simp
    exact hscaled
  rw [hvalue] at h ⊢
  have hround := value?_round s h
  simpa [quotient, hshift, hj, hden, Nat.mul_comm j] using hround

/-- **A quotient that fits is exact.** -/
theorem value?_div (ha : a.value? = some p) (hb : b.value? = some q) (hq : q ≠ 0)
    (h : Representable (p / q)) : (a / b).value? = some (p / q) := by
  obtain ⟨s, m, d, rfl, rfl⟩ := value?_eq_some_iff.1 ha
  obtain ⟨t, n, e, rfl, rfl⟩ := value?_eq_some_iff.1 hb
  have hn : n ≠ 0 := by
    rintro rfl
    simp [signed] at hq
  have hvalue : (signed s m * 2 ^ d / (signed t n * 2 ^ e) : ℚ) =
      (signed (s != t) m : ℚ) / n * 2 ^ (d - e) := by
    rw [zpow_sub₀ two_ne_zero]
    cases s <;> cases t <;> simp [signed] <;> ring
  show (div _ _).value? = _
  rw [hvalue] at h ⊢
  simpa [div, hn] using value?_quotient _ hn h

/-! ### Rounding to whole numbers -/

theorem nearest_mul_two_pow (m k : ℕ) : nearest ((m : ℚ) * 2 ^ (k : ℤ)) = (m * 2 ^ k : ℕ) := by
  rw [zpow_natCast]
  exact_mod_cast nearest_intCast (m * 2 ^ k : ℕ)

/-- Half a unit is added before the digits behind the point are cut off. -/
theorem nearest_div_two_pow (m k : ℕ) :
    nearest ((m : ℚ) * 2 ^ (-k : ℤ)) = ((2 * m + 2 ^ k) / 2 ^ (k + 1) : ℕ) := by
  have hsum : (m : ℚ) * 2 ^ (-k : ℤ) + 1 / 2 = ((2 * m + 2 ^ k : ℕ) : ℤ) / (2 ^ (k + 1) : ℕ) := by
    rw [zpow_neg, zpow_natCast, pow_succ]
    push_cast
    field_simp
  rw [nearest_of_nonneg (by positivity), hsum, Rat.floor_intCast_div_natCast, Int.natCast_ediv]

/-- **A number is rounded to a whole number as the rational it stands for.** -/
theorem roundToInt?_of_value? (h : a.value? = some q) : a.roundToInt? = some (nearest q) := by
  obtain ⟨s, m, e, rfl, rfl⟩ := value?_eq_some_iff.1 h
  have hsign (x : ℕ) (hx : nearest ((m : ℚ) * 2 ^ e) = x) :
      signed s x = nearest ((signed s m : ℚ) * 2 ^ e) := by
    cases s <;> simp [signed, nearest_neg, hx]
  simp only [roundToInt?, Nat.pow_eq, Option.some.injEq]
  refine hsign _ ?_
  split
  · next he =>
    obtain ⟨k, rfl⟩ := Int.eq_ofNat_of_zero_le he
    exact nearest_mul_two_pow m k
  · obtain ⟨k, rfl⟩ : ∃ k : ℕ, e = -k := ⟨(-e).toNat, by omega⟩
    rw [Int.neg_neg, Int.toNat_natCast]
    exact nearest_div_two_pow m k

theorem roundToInt?_eq_some_iff {n : ℤ} :
    a.roundToInt? = some n ↔ ∃ q, a.value? = some q ∧ nearest q = n := by
  constructor
  · intro h
    cases hv : a.value? with
    | some q =>
      rw [roundToInt?_of_value? hv] at h
      exact ⟨q, rfl, Option.some.inj h⟩
    | none =>
      -- what is no rational has no whole number near to it
      cases a with
      | finite s m e => cases hv
      | _ => cases h
  · rintro ⟨q, hv, rfl⟩
    exact roundToInt?_of_value? hv

/-! ### Halves of whole numbers -/

/-- Whole numbers and halves of moderate size fit. -/
theorem representable_of_two_mul {z : ℤ} (h : 2 * q = z) (hz : z.natAbs < 2 ^ 53) :
    Representable q := by
  have hlen : bitLength z.natAbs ≤ 53 := bitLength_le hz
  refine ⟨z.natAbs, -1, ?_, hlen, by omega, by omega⟩
  rw [Nat.cast_natAbs, Int.cast_abs, ← h, abs_mul, abs_two, zpow_neg_one]
  field_simp

theorem value?_ofInt {n : ℤ} (h : bitLength n.natAbs ≤ 53) : (ofInt n).value? = some (n : ℚ) := by
  rw [ofInt_eq h, value?, signed_natAbs, zpow_zero, mul_one]

theorem value?_ofCoordinate (x : Int32) : (ofCoordinate x).value? = some (x.toInt : ℚ) := by
  rw [ofCoordinate_eq, value?, signed_natAbs, zpow_zero, mul_one]

end Binary64

end SpriteStage
