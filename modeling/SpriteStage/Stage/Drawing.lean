import SpriteStage.Stage.Lifetime

/-!
# Drawing

The visible items of the queue become draw calls in order. A frame is drawn call by call up to the
first one that the backend refuses, and completed in any case.
-/

namespace SpriteStage.Stage

variable {β : Type} (s : Stage) (b : β)

/-- The draw call of an item. -/
def drawCall (item : QueueItem) : Except Error DrawCall := do
  let sprite := s.spriteOf item
  let d ← sprite.get item.destination
  return ⟨sprite.name, sprite.texture.handle, sprite.source, d.rect, d.color, d.options⟩

/-- The draw calls of the visible items, from back to front. -/
def drawCalls : Except Error (List DrawCall) :=
  (s.queue.filter (·.visible)).mapM s.drawCall

/-- Draw one frame; how many items it has. -/
def render [Canvas β] : Except Error Nat × β :=
  match s.drawCalls with
  | .error e => (.error e, b)
  | .ok calls =>
      let (result, b) := Canvas.drawFrame b calls
      (result.map fun _ => calls.length, b)

/-- Draw one frame, then release the retired sprites that nothing refers to. -/
def renderPass [Canvas β] [TextureLoader β] (held : List SpriteId) : Outcome β Nat :=
  match s.render b with
  | (.error e, b) => ⟨.error e, s, b⟩
  | (.ok drawn, b) =>
      let released := s.releaseRetired b held
      { released with result := released.result.map fun _ => drawn }

/-- The topmost visible item with a point in what it draws. -/
def itemAt? (x y : Int32) : Option QueueItem :=
  s.queue.reverse.find? fun item => item.visible && s.itemIsInside x y item

end SpriteStage.Stage
