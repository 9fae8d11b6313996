/-!
# Binary64 arithmetic

Numbers of the interchange format with 53 significant binary digits, computed exactly and then
rounded once, to nearest with ties to even.

* a finite datum is `(-1)^negative * significand * 2^exponent`; several pairs may stand for one
  value, `toBits` picks the interchange word;
* `round` rounds `significand * 2^exponent`, `quotient` rounds a quotient of such values;
* `roundToInt?` goes to the nearest whole number, halves away from zero.

A significand of at most 53 digits within the exponent range is left alone by `round`, so sums
and halves of moderate integers are exact.
-/

namespace SpriteStage

/-- Not a number, an infinity, or `(-1)^negative * significand * 2^exponent`. -/
inductive Binary64
  | nan
  | infinite (negative : Bool)
  | finite (negative : Bool) (significand : Nat) (exponent : Int)
  deriving DecidableEq, Repr

namespace Binary64

/-! ### Rounding -/

/-- Count of binary digits; zero has none. -/
def bitLength (m : Nat) : Nat := if m = 0 then 0 else m.log2 + 1

@[simp] theorem bitLength_zero : bitLength 0 = 0 := rfl

/-- `m / 2^k` to the nearest whole number, a tie to the even one. -/
def shiftRounded (m k : Nat) : Nat :=
  let q := m / Nat.pow 2 k
  let r := m % Nat.pow 2 k
  if 2 * r < Nat.pow 2 k then q
  else if Nat.pow 2 k < 2 * r then q + 1
  else q + q % 2

@[simp] theorem shiftRounded_zero (m : Nat) : shiftRounded m 0 = m := by
  simp [shiftRounded, Nat.mod_one]

/-- How many low digits of `significand * 2^exponent` do not fit the format. -/
def excess (significand : Nat) (exponent : Int) : Nat :=
  (max ((bitLength significand : Int) - 53) (-1074 - exponent)).toNat

/-- `(-1)^negative * significand * 2^exponent`, rounded to nearest, ties to even. -/
def round (negative : Bool) (significand : Nat) (exponent : Int) : Binary64 :=
  let drop := excess significand exponent
  let m := shiftRounded significand drop
  let e := exponent + drop
  if m = 0 then .finite negative 0 0
  else if 1024 < bitLength m + e then .infinite negative
  else .finite negative m e

/-- The rounding of `(-1)^negative * (num / den) * 2^exponent`, for a `den` that is not zero.

The quotient is taken to at least 55 digits; a last digit of one stands for a remainder. -/
def quotient (negative : Bool) (num den : Nat) (exponent : Int) : Binary64 :=
  let shift := bitLength den + 55 - bitLength num
  let scaled := num * Nat.pow 2 shift
  let tail := if scaled % den = 0 then 0 else 1
  round negative (2 * (scaled / den) + tail) (exponent - shift - 1)

/-- Nothing is lost when all digits fit. -/
theorem round_of_fits {negative : Bool} {m : Nat} {e : Int} (hm : m ≠ 0)
    (hlen : bitLength m ≤ 53) (hlow : -1074 ≤ e) (hhigh : bitLength m + e ≤ 1024) :
    round negative m e = .finite negative m e := by
  have hdrop : excess m e = 0 := by
    unfold excess
    omega
  have hnot : ¬ (1024 < (bitLength m : Int) + e) := by omega
  simp [round, hdrop, hm, hnot]

/-! ### Whole numbers -/

/-- A magnitude with its sign. -/
def signed (negative : Bool) (n : Nat) : Int := if negative then -(n : Int) else n

/-- A whole number; exact when it has at most 53 binary digits. -/
def ofInt (n : Int) : Binary64 := round (decide (n < 0)) n.natAbs 0

@[simp] theorem ofInt_zero : ofInt 0 = .finite false 0 0 := rfl

/-- The value to the nearest whole number, halves away from zero; only a finite datum has one. -/
def roundToInt? : Binary64 → Option Int
  | .finite negative m e =>
      let magnitude :=
        if 0 ≤ e then m * Nat.pow 2 e.toNat
        else
          let k := (-e).toNat
          (2 * m + Nat.pow 2 k) / Nat.pow 2 (k + 1)
      some (signed negative magnitude)
  | _ => none

/-! ### Arithmetic -/

/-- The negative; the sign of zero changes too. -/
def neg : Binary64 → Binary64
  | .nan => .nan
  | .infinite negative => .infinite !negative
  | .finite negative m e => .finite (!negative) m e

/-- The sum. A zero sum is negative only when both terms are. -/
def add : Binary64 → Binary64 → Binary64
  | .nan, _ => .nan
  | _, .nan => .nan
  | .infinite s, .infinite t => if s = t then .infinite s else .nan
  | .infinite s, .finite .. => .infinite s
  | .finite .., .infinite t => .infinite t
  | .finite s m d, .finite t n e =>
      let low := min d e
      let sum :=
        signed s (m * Nat.pow 2 (d - low).toNat) + signed t (n * Nat.pow 2 (e - low).toNat)
      if sum = 0 then .finite (s && t) 0 0
      else round (decide (sum < 0)) sum.natAbs low

/-- The difference, as the sum with the negative. -/
def sub (a b : Binary64) : Binary64 := add a b.neg

/-- The product; zero times an infinity is not a number. -/
def mul : Binary64 → Binary64 → Binary64
  | .nan, _ => .nan
  | _, .nan => .nan
  | .infinite s, .infinite t => .infinite (s != t)
  | .infinite s, .finite t n _ => if n = 0 then .nan else .infinite (s != t)
  | .finite s m _, .infinite t => if m = 0 then .nan else .infinite (s != t)
  | .finite s m d, .finite t n e => round (s != t) (m * n) (d + e)

/-- The quotient; a zero divisor gives an infinity, or no number for a zero dividend. -/
def div : Binary64 → Binary64 → Binary64
  | .nan, _ => .nan
  | _, .nan => .nan
  | .infinite _, .infinite _ => .nan
  | .infinite s, .finite t _ _ => .infinite (s != t)
  | .finite s _ _, .infinite t => .finite (s != t) 0 0
  | .finite s m d, .finite t n e =>
      if n = 0 then (if m = 0 then .nan else .infinite (s != t))
      else quotient (s != t) m n (d - e)

instance : Neg Binary64 := ⟨neg⟩
instance : Add Binary64 := ⟨add⟩
instance : Sub Binary64 := ⟨sub⟩
instance : Mul Binary64 := ⟨mul⟩
instance : Div Binary64 := ⟨div⟩

/-! ### Tests -/

/-- Neither an infinity nor not a number. -/
def isFinite : Binary64 → Bool
  | .finite .. => true
  | _ => false

/-- A zero of either sign. -/
def isZero : Binary64 → Bool
  | .finite _ m _ => m == 0
  | _ => false

/-- Below zero; neither zero of either sign nor what is not a number. -/
def isNegative : Binary64 → Bool
  | .finite negative m _ => negative && m != 0
  | .infinite negative => negative
  | .nan => false

@[simp] theorem isFinite_finite (s : Bool) (m : Nat) (e : Int) :
    isFinite (.finite s m e) = true := rfl

/-- Rounding goes the same way on both sides of zero. -/
theorem neg_round (negative : Bool) (m : Nat) (e : Int) :
    (round negative m e).neg = round (!negative) m e := by
  simp only [round]
  split
  · rfl
  · split <;> rfl

theorem neg_quotient (negative : Bool) (num den : Nat) (e : Int) :
    (quotient negative num den e).neg = quotient (!negative) num den e :=
  neg_round _ _ _

/-! ### Interchange words -/

/-- The 64-bit interchange word. -/
def toBits : Binary64 → UInt64
  | .nan => 0x7ff8000000000000
  | .infinite negative => if negative then 0xfff0000000000000 else 0x7ff0000000000000
  | .finite negative m e =>
      let sign := if negative then Nat.pow 2 63 else 0
      if m = 0 then UInt64.ofNat sign
      else
        let shift := min (53 - bitLength m) (e + 1074).toNat
        UInt64.ofNat (sign + (e - shift + 1074).toNat * Nat.pow 2 52 + m * Nat.pow 2 shift)

/-- The datum of a 64-bit interchange word. -/
def ofBits (word : UInt64) : Binary64 :=
  let n := word.toNat
  let negative := decide (Nat.pow 2 63 ≤ n)
  let field : Nat := n / Nat.pow 2 52 % 2048
  let fraction := n % Nat.pow 2 52
  if field = 2047 then (if fraction = 0 then .infinite negative else .nan)
  else if field = 0 then .finite negative fraction (-1074)
  else .finite negative (Nat.pow 2 52 + fraction) ((field : Int) - 1075)

end Binary64

end SpriteStage
