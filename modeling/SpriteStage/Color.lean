/-!
# Colors

Four channels of eight bits. A destination starts in opaque black; its color is also what fills a
solid texture.
-/

namespace SpriteStage

/-- A color with its opacity. -/
structure Color where
  r : UInt8
  g : UInt8
  b : UInt8
  a : UInt8
  deriving DecidableEq, Repr

/-- The color a destination starts with. -/
def Color.black : Color := ⟨0, 0, 0, 255⟩

/-- A whole number as a channel, if it is one. -/
def Color.channel? (n : Int) : Option UInt8 :=
  if 0 ≤ n ∧ n ≤ 255 then some (UInt8.ofNat n.toNat) else none

end SpriteStage
