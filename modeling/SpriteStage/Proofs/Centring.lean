import SpriteStage.Proofs.Adjustment

/-!
# Coordinates as numbers

A coordinate has at most 32 binary digits, so it is a number exactly, and rounding the number gives
it back. What is centred in its own rectangle stays where it is.

* `ofCoordinate_eq`: the number that a coordinate stands for, digit by digit;
* `toCoordinate?_ofCoordinate`: it rounds to the coordinate;
* `Adjustment.centredRect_own`, `apply_centerIn_own`: centring in the own rectangle changes nothing.
-/

namespace SpriteStage

namespace Binary64

theorem bitLength_le {m k : Nat} (h : m < Nat.pow 2 k) : bitLength m ≤ k := by
  unfold bitLength
  split
  · omega
  · next hm => exact (Nat.log2_lt hm).2 h

/-- A whole number of few digits is not rounded. -/
theorem ofInt_eq {n : Int} (h : bitLength n.natAbs ≤ 53) :
    ofInt n = .finite (decide (n < 0)) n.natAbs 0 := by
  by_cases hn : n.natAbs = 0
  · obtain rfl : n = 0 := by omega
    rfl
  · exact round_of_fits hn h (by omega) (by omega)

theorem ofCoordinate_eq (x : Int32) :
    ofCoordinate x = .finite (decide (x.toInt < 0)) x.toInt.natAbs 0 := by
  have h₁ := x.le_toInt
  have h₂ := x.toInt_lt
  have hlt : x.toInt.natAbs < Nat.pow 2 32 := by
    show x.toInt.natAbs < 4294967296
    omega
  exact ofInt_eq (Nat.le_trans (bitLength_le hlt) (by omega))

@[simp] theorem signed_natAbs (n : Int) : signed (decide (n < 0)) n.natAbs = n := by
  simp only [signed, decide_eq_true_eq]
  split <;> omega

@[simp] theorem roundToInt?_ofCoordinate (x : Int32) :
    (ofCoordinate x).roundToInt? = some x.toInt := by
  simp [ofCoordinate_eq, roundToInt?]

/-- A coordinate comes back from its number. -/
@[simp] theorem toCoordinate?_ofCoordinate (x : Int32) :
    (ofCoordinate x).toCoordinate? = some x := by
  simp [toCoordinate?, coordinate?_toInt]

theorem signed_not (s : Bool) (m : Nat) : signed (!s) m = -signed s m := by
  cases s <;> simp [signed]

/-- A sum of whole numbers is rounded once; only two negative zeros have a negative zero. -/
theorem finite_add_finite {s t : Bool} {m n : Nat}
    (h : s = true → t = true → signed s m + signed t n ≠ 0) :
    finite s m 0 + finite t n 0 = ofInt (signed s m + signed t n) := by
  show add (finite s m 0) (finite t n 0) = _
  simp only [add, Int.min_self, Int.sub_self, Int.toNat_zero, Nat.pow_eq, Nat.pow_zero, Nat.mul_one]
  split
  · next hsum =>
    cases hsign : s && t with
    | false => rw [hsum, ofInt_zero]
    | true =>
      obtain ⟨hs, ht⟩ := Bool.and_eq_true_iff.1 hsign
      exact absurd hsum (h hs ht)
  · rfl

/-- Sums and differences of coordinates are not rounded before they are computed. -/
theorem ofCoordinate_add (x y : Int32) :
    ofCoordinate x + ofCoordinate y = ofInt (x.toInt + y.toInt) := by
  rw [ofCoordinate_eq, ofCoordinate_eq, finite_add_finite, signed_natAbs, signed_natAbs]
  simp only [decide_eq_true_eq, signed_natAbs]
  omega

theorem ofCoordinate_sub (x y : Int32) :
    ofCoordinate x - ofCoordinate y = ofInt (x.toInt - y.toInt) := by
  show ofCoordinate x + (ofCoordinate y).neg = _
  rw [ofCoordinate_eq, ofCoordinate_eq, neg, finite_add_finite, signed_not, signed_natAbs,
    signed_natAbs, Int.sub_eq_add_neg]
  simp only [decide_eq_true_eq, Bool.not_eq_true', decide_eq_false_iff_not, signed_not,
    signed_natAbs]
  omega

theorem zero_div_two : ofInt 0 / ofInt 2 = ofInt 0 := by decide +kernel

end Binary64

namespace Adjustment

/-- A side centred in itself starts where it started. -/
theorem centredStart_own (start side : Int32) :
    centredStart (.ofCoordinate start) (.ofCoordinate side) side = .ofCoordinate start := by
  have hzero : Binary64.ofInt 0 = .ofCoordinate 0 := rfl
  rw [centredStart, Binary64.ofCoordinate_sub, Int.sub_self, Binary64.zero_div_two, hzero,
    Binary64.ofCoordinate_add]
  simp [Binary64.ofCoordinate]

theorem coordinate_ofCoordinate (c : Command) (x : Int32) :
    coordinate c (.ofCoordinate x) = .ok x := by
  simp [coordinate, ValueReader.coordinate]

/-- A rectangle centred in its own area is the same rectangle. -/
theorem centredRect_own (rect : Rect) : centredRect (.ofRect rect) none rect = .ok rect := by
  simp [centredRect, Area.ofRect, centredStart_own, coordinate_ofCoordinate, bind, Except.bind,
    pure, Except.pure]

/-- **A destination centred in its own rectangle stays where it is.** -/
theorem apply_centerIn_own {s : Sprite} {i : Nat} {d : Destination} (h : s.get i = .ok d) :
    (centerIn (.ofRect d.rect) none).apply s i = .ok s := by
  have hd := Sprite.get_eq_ok_iff.1 h
  refine apply_eq_ok_iff.2 (.inr ⟨d, d, hd, .centerIn (centredRect_own d.rect), ?_⟩)
  obtain ⟨hi, rfl⟩ := List.getElem?_eq_some_iff.1 hd
  rw [List.set_getElem_self]

end Adjustment

end SpriteStage
