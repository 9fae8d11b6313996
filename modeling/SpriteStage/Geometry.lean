import SpriteStage.Number.Binary64

/-!
# Screen sizes and rectangles

Coordinates and sizes are signed 32-bit numbers of pixels.

* `coordinate?` is the whole number as a coordinate, when it is one;
* a rectangle contains its left and top edges and not its right and bottom edges, compared as
  whole numbers, so that edges past the coordinate range still count.
-/

namespace SpriteStage

/-- A whole number as a coordinate, if it is in range. -/
def coordinate? (n : Int) : Option Int32 :=
  if -2147483648 ≤ n ∧ n ≤ 2147483647 then some (Int32.ofInt n) else none

/-- A number rounded to the nearest coordinate, halves away from zero, if that is in range. -/
def Binary64.toCoordinate? (a : Binary64) : Option Int32 := a.roundToInt?.bind coordinate?

/-- A coordinate as a number. -/
def Binary64.ofCoordinate (i : Int32) : Binary64 := .ofInt i.toInt

theorem toInt_of_coordinate? {n : Int} {i : Int32} (h : coordinate? n = some i) : i.toInt = n := by
  unfold coordinate? at h
  split at h
  · next hn =>
      cases h
      exact Int32.toInt_ofInt_of_le (by omega) (by omega)
  · simp at h

theorem coordinate?_toInt (i : Int32) : coordinate? i.toInt = some i := by
  have h₁ := i.le_toInt
  have h₂ := i.toInt_lt
  have h : -2147483648 ≤ i.toInt ∧ i.toInt ≤ 2147483647 := by omega
  simp [coordinate?, h]

/-- A size of the screen in pixels. -/
structure ScreenSize where
  width : Int32
  height : Int32
  deriving DecidableEq, Repr

/-- A rectangle by its top left corner and its size. -/
structure Rect where
  x : Int32
  y : Int32
  width : Int32
  height : Int32
  deriving DecidableEq, Repr

namespace Rect

/-- The rectangle with all numbers zero. -/
def empty : Rect := ⟨0, 0, 0, 0⟩

/-- The points of a rectangle, computed without overflow. -/
def Contains (r : Rect) (px py : Int32) : Prop :=
  r.x.toInt ≤ px.toInt ∧ px.toInt < r.x.toInt + r.width.toInt ∧
    r.y.toInt ≤ py.toInt ∧ py.toInt < r.y.toInt + r.height.toInt

instance (r : Rect) (px py : Int32) : Decidable (r.Contains px py) := by
  unfold Contains
  infer_instance

/-- The middle of a side that starts at `start` and is `length` long. -/
def middle (start length : Int32) : Binary64 :=
  .ofCoordinate start + .ofCoordinate length / .ofInt 2

/-- The centre point. -/
def center (r : Rect) : Binary64 × Binary64 := (middle r.x r.width, middle r.y r.height)

/-- The same size at another corner. -/
def movedTo (r : Rect) (x y : Int32) : Rect := { r with x, y }

/-- Another size at the same corner. -/
def resized (r : Rect) (width height : Int32) : Rect := { r with width, height }

end Rect

end SpriteStage
