import SpriteStage.Geometry

/-!
# Textures

A texture is what a backend loaded under a key: its handle there and its size. It never changes
once it is loaded.
-/

namespace SpriteStage

/-- The number by which a backend knows a loaded texture. -/
structure TextureHandle where
  number : UInt32
  deriving DecidableEq, Repr

/-- A loaded texture. -/
structure Texture where
  key : String
  handle : TextureHandle
  width : Int32
  height : Int32
  deriving DecidableEq, Repr

end SpriteStage
