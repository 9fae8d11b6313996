import SpriteStage.Color
import SpriteStage.Formula.ValueReader
import SpriteStage.Texture

/-!
# Sprites

A sprite is a part of a texture together with its destinations, the places where copies of it are
drawn.

* destinations are added at the end and never removed, so an index stays valid;
* `modify` changes one destination and refuses an index that does not exist;
* name, texture and source are fixed when the sprite is made.
-/

namespace SpriteStage

/-- Where and how one copy of a sprite is drawn. -/
structure Destination where
  rect : Rect
  color : Color
  options : RenderOptions
  deriving DecidableEq, Repr

/-- A fresh destination: opaque black and no options. -/
def Destination.plain (rect : Rect) : Destination := ⟨rect, .black, .empty⟩

/-- A part of a texture and the places where it is drawn. -/
structure Sprite where
  name : String
  texture : Texture
  source : Rect
  destinations : List Destination
  deriving DecidableEq, Repr

namespace Sprite

/-- The part of a texture that a source stands for: a zero width or height is the texture's. -/
def wholeSource (texture : Texture) (source : Rect) : Rect :=
  source.resized (if source.width = 0 then texture.width else source.width)
    (if source.height = 0 then texture.height else source.height)

/-- A sprite with one destination of the size of its source, at the origin. -/
def new (name : String) (texture : Texture) (source : Rect) : Sprite :=
  let source := wholeSource texture source
  ⟨name, texture, source, [.plain (source.movedTo 0 0)]⟩

/-- The error for an index without a destination. -/
def noDestination (s : Sprite) (i : Nat) : Error :=
  .noDestination s.name i s.destinations.length

/-- The destination of an index. -/
def get (s : Sprite) (i : Nat) : Except Error Destination :=
  match s.destinations[i]? with
  | some d => .ok d
  | none => .error (s.noDestination i)

/-- Change the destination of an index. -/
def modify (s : Sprite) (i : Nat) (f : Destination → Destination) : Except Error Sprite :=
  if i < s.destinations.length then .ok { s with destinations := s.destinations.modify i f }
  else .error (s.noDestination i)

/-- Add a destination of the size of the source. -/
def addDestination (s : Sprite) (x y : Int32) : Sprite :=
  { s with destinations := s.destinations ++ [.plain (s.source.movedTo x y)] }

/-! ### Changing one destination -/

/-- Replace the rectangle. -/
def setRect (s : Sprite) (i : Nat) (rect : Rect) : Except Error Sprite :=
  s.modify i ({ · with rect })

/-- Move the corner and keep the size. -/
def setOrigin (s : Sprite) (i : Nat) (x y : Int32) : Except Error Sprite :=
  s.modify i fun d => { d with rect := d.rect.movedTo x y }

/-- Change the size and keep the corner. -/
def setSize (s : Sprite) (i : Nat) (width height : Int32) : Except Error Sprite :=
  s.modify i fun d => { d with rect := d.rect.resized width height }

/-- Replace the color. -/
def setColor (s : Sprite) (i : Nat) (color : Color) : Except Error Sprite :=
  s.modify i ({ · with color })

/-- Replace the options. -/
def setOptions (s : Sprite) (i : Nat) (options : RenderOptions) : Except Error Sprite :=
  s.modify i ({ · with options })

/-- Where a side of the given length starts when its middle is at `middle`. -/
def startOf (middle : Binary64) (length : Int32) : Binary64 :=
  middle - .ofCoordinate length / .ofInt 2

/-- Centre a destination in an area and keep its size; halves go away from zero. -/
def centerIn (s : Sprite) (i : Nat) (area : Rect) : Except Error Sprite := do
  let d ← s.get i
  let (cx, cy) := area.center
  let x ← ValueReader.coordinate (startOf cx d.rect.width) s.name
  let y ← ValueReader.coordinate (startOf cy d.rect.height) s.name
  s.setOrigin i x y

/-- Whether a point lies in a destination; no point lies in one that does not exist. -/
def isInside (s : Sprite) (i : Nat) (x y : Int32) : Bool :=
  s.destinations[i]?.any fun d => decide (d.rect.Contains x y)

/-! ### Laws -/

theorem get_eq_ok_iff {s : Sprite} {i : Nat} {d : Destination} :
    s.get i = .ok d ↔ s.destinations[i]? = some d := by
  unfold get
  cases s.destinations[i]? <;> simp

theorem modify_of_lt {s : Sprite} {i : Nat} (h : i < s.destinations.length)
    (f : Destination → Destination) :
    s.modify i f = .ok { s with destinations := s.destinations.modify i f } := by
  simp [modify, h]

theorem modify_of_not_lt {s : Sprite} {i : Nat} (h : ¬ i < s.destinations.length)
    (f : Destination → Destination) : s.modify i f = .error (s.noDestination i) := by
  simp [modify, h]

@[simp] theorem length_addDestination (s : Sprite) (x y : Int32) :
    (s.addDestination x y).destinations.length = s.destinations.length + 1 := by
  simp [addDestination]

end Sprite

end SpriteStage
