import Mathlib.Data.List.Induction
import Mathlib.Data.Nat.Bitwise
import SpriteStage.RenderOptions.Basic

/-!
# Render options as sets of flags

Options are a word of bits, and the flags are the first eleven of them.

* `has_eq_testBit`: a flag is set if its bit is, and `has_ofFlags`: of the set of a list these are
  the flags of the list;
* `ofFlags_congr`: the set of a list depends only on what is in the list;
* `unknownBits_ofFlags`: it has no bit that is no flag;
* `Exclusive`: at most one flag of each group.
-/

namespace SpriteStage

/-! ### Bits -/

theorem Flag.toNat_bit (f : Flag) : f.bit.toNat = 2 ^ f.index := by
  cases f <;> rfl

namespace RenderOptions

variable {o : RenderOptions} {f g : Flag} {fs gs : List Flag}

theorem has_eq_testBit (o : RenderOptions) (f : Flag) :
    o.has f = o.bits.toNat.testBit f.index := by
  have hand : (o.bits &&& f.bit).toNat = (o.bits.toNat.testBit f.index).toNat * 2 ^ f.index := by
    rw [UInt32.toNat_and, Flag.toNat_bit, Nat.and_two_pow]
  rw [has]
  cases hbit : o.bits.toNat.testBit f.index with
  | false =>
    rw [hbit] at hand
    have hzero : o.bits &&& f.bit = 0 := UInt32.toNat_inj.1 (by simpa using hand)
    simp [hzero]
  | true =>
    have hne : o.bits &&& f.bit ≠ 0 := by
      intro h
      rw [h, hbit] at hand
      have hpos := Nat.two_pow_pos f.index
      simp at hand
      omega
    simpa using hne

theorem testBit_insert (o : RenderOptions) (f : Flag) (i : Nat) :
    (o.insert f).bits.toNat.testBit i = (o.bits.toNat.testBit i || f.index == i) := by
  rw [insert, UInt32.toNat_or, Nat.testBit_or, Flag.toNat_bit, Nat.testBit_two_pow]
  rfl

@[simp] theorem has_insert (o : RenderOptions) (f g : Flag) :
    (o.insert f).has g = (o.has g || f == g) := by
  have hindex : (f.index == g.index) = (f == g) := by
    by_cases h : f = g
    · simp [h]
    · have hi : f.index ≠ g.index := fun hi => h (Flag.index_injective hi)
      simp [h, hi]
  rw [has_eq_testBit, testBit_insert, ← has_eq_testBit, hindex]

/-! ### Sets of lists -/

theorem ofFlags_concat (fs : List Flag) (f : Flag) : ofFlags (fs ++ [f]) = (ofFlags fs).insert f := by
  simp [ofFlags]

theorem testBit_ofFlags (fs : List Flag) (i : Nat) :
    (ofFlags fs).bits.toNat.testBit i = fs.any (·.index == i) := by
  induction fs using List.reverseRecOn with
  | nil => simp [ofFlags, empty]
  | append_singleton fs f ih => simp [ofFlags_concat, testBit_insert, ih]

/-- The flags of a list are those of its set. -/
@[simp] theorem has_ofFlags : (ofFlags fs).has f = true ↔ f ∈ fs := by
  induction fs using List.reverseRecOn with
  | nil => simp [ofFlags]
  | append_singleton fs g ih => simp [ofFlags_concat, ih, @eq_comm _ g f]

/-- **The set of a list depends only on what is in the list.** -/
theorem ofFlags_congr (h : ∀ f, f ∈ fs ↔ f ∈ gs) : ofFlags fs = ofFlags gs := by
  have hbits : (ofFlags fs).bits = (ofFlags gs).bits := by
    refine UInt32.toNat_inj.1 (Nat.eq_of_testBit_eq fun i => ?_)
    rw [testBit_ofFlags, testBit_ofFlags, Bool.eq_iff_iff, List.any_eq_true, List.any_eq_true]
    simp only [h]
  exact congrArg RenderOptions.mk hbits

/-- A set of flags has no other bits. -/
theorem unknownBits_ofFlags (fs : List Flag) : (ofFlags fs).unknownBits = 0 := by
  refine UInt32.toNat_inj.1 (Nat.eq_of_testBit_eq fun i => ?_)
  rw [unknownBits, UInt32.toNat_and, Nat.testBit_and, testBit_ofFlags]
  by_cases h : ∃ f : Flag, f.index = i
  · obtain ⟨f, rfl⟩ := h
    have hknown : (~~~(ofFlags Flag.all).bits).toNat.testBit f.index = false := by
      cases f <;> decide
    rw [hknown]
    simp
  · have hnone : fs.any (·.index == i) = false := by simpa using fun f _ hf => h ⟨f, hf⟩
    simp [hnone]

theorem mem_flags : f ∈ o.flags ↔ o.has f = true := by
  simp [flags, Flag.mem_all]

/-- A set is the set of its flags. -/
theorem ofFlags_flags (fs : List Flag) : ofFlags (ofFlags fs).flags = ofFlags fs :=
  ofFlags_congr fun _ => mem_flags.trans has_ofFlags

/-! ### Groups -/

/-- At most one flag of each group. -/
def Exclusive (o : RenderOptions) : Prop :=
  ∀ group f g, f.group? = some group → g.group? = some group → o.has f = true → o.has g = true →
    f = g

theorem exclusive_empty : empty.Exclusive := by
  intro _ _ _ _ _ hf
  rw [has_empty] at hf
  cases hf

theorem hasGroup_iff {group : Group} :
    o.hasGroup group = true ↔ ∃ f, o.has f = true ∧ f.group? = some group := by
  simp [hasGroup, mem_flags]

end RenderOptions

end SpriteStage
