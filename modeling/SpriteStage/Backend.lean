import SpriteStage.Sprite

/-!
# Backends

What a stage asks of whatever makes its textures and draws its frames.

* a loader makes textures, from files or solid ones, and unloads them by their handles;
* a canvas takes the draw calls of one frame after the other;
* both have a state of their own, and a refusal gives a reason and may change that state too.
-/

namespace SpriteStage

/-- Everything a backend needs to draw one item. -/
structure DrawCall where
  sprite : String
  texture : TextureHandle
  source : Rect
  destination : Rect
  color : Color
  options : RenderOptions
  deriving DecidableEq, Repr

/-- A texture fresh from a backend. -/
structure LoadedTexture where
  handle : TextureHandle
  width : Int32
  height : Int32
  deriving DecidableEq, Repr

/-- A backend that makes and unloads textures. -/
class TextureLoader (β : Type) where
  loadFile : β → String → Except String LoadedTexture × β
  createSolid : β → Int32 → Int32 → Color → Except String LoadedTexture × β
  unload : β → TextureHandle → β

/-- A backend that draws frames. -/
class Canvas (β : Type) where
  beginFrame : β → β
  draw : β → DrawCall → Except String Unit × β
  endFrame : β → β

namespace Canvas

variable {β : Type} [Canvas β]

/-- Draw calls up to the first that is refused. -/
def drawAll (b : β) : List DrawCall → Except Error Unit × β
  | [] => (.ok (), b)
  | call :: rest =>
      match draw b call with
      | (.error reason, b) => (.error (.draw call.sprite reason), b)
      | (.ok (), b) => drawAll b rest

/-- Draw one frame; it is completed even when a call is refused. -/
def drawFrame (b : β) (calls : List DrawCall) : Except Error Unit × β :=
  let (result, b) := drawAll (beginFrame b) calls
  (result, endFrame b)

@[simp] theorem drawAll_nil (b : β) : drawAll b [] = (.ok (), b) := rfl

end Canvas

end SpriteStage
