import SpriteStage.Stage.Drawing
import SpriteStage.Stage.QueueEdit

/-!
# The host

What surrounds a stage: the backend, the screen size that the surroundings report, and the
references to sprites and items that the host holds under labels.

* a reported size reaches the stage when the schedule runs, and only a size reported since the
  last run does;
* a held sprite, and the sprite of a held item, keeps its texture when it is deleted.
-/

namespace SpriteStage

/-- A stage with its backend, the reported screen size and the held references. -/
structure Host (β : Type) where
  stage : Stage
  backend : β
  /-- The screen size reported last. -/
  screen : ScreenSize
  /-- Whether a size was reported since the schedule last ran. -/
  reported : Bool
  heldSprites : List (String × SpriteId)
  heldItems : List (String × QueueItem)

namespace Host

variable {β : Type}

/-- A host of an empty stage; its first screen size counts as reported. -/
def new (name : String) (screen : ScreenSize) (backend : β) : Host β :=
  ⟨.new name screen, backend, screen, true, [], []⟩

/-- The sprites the host keeps alive. -/
def held (h : Host β) : List SpriteId :=
  h.heldSprites.map Prod.snd ++ h.heldItems.map (·.2.sprite)

/-- Go on with what an operation left. -/
def absorb {α : Type} (h : Host β) (o : Outcome β α) : Except Error α × Host β :=
  (o.result, { h with stage := o.stage, backend := o.backend })

/-! ### Screen size -/

/-- Report a screen size. -/
def report (h : Host β) (screen : ScreenSize) : Host β := { h with screen, reported := true }

/-- Run the schedule: a reported size that differs from the stage's becomes the stage's. -/
def runSchedule (h : Host β) : Host β :=
  let stage :=
    if h.reported ∧ h.stage.screen ≠ h.screen then h.stage.resize h.screen else h.stage
  { h with stage, reported := false }

@[simp] theorem reported_runSchedule (h : Host β) : h.runSchedule.reported = false := rfl

/-! ### Held references -/

/-- Hold a sprite under a label; what the label held before is dropped. -/
def holdSprite (h : Host β) (label : String) (id : SpriteId) : Host β :=
  { h with heldSprites := Keyed.put label id h.heldSprites }

/-- Hold an item under a label; what the label held before is dropped. -/
def holdItem (h : Host β) (label : String) (item : QueueItem) : Host β :=
  { h with heldItems := Keyed.put label item h.heldItems }

/-- Drop what a label holds. -/
def drop (h : Host β) (label : String) : Host β :=
  { h with
    heldSprites := Keyed.without label h.heldSprites
    heldItems := Keyed.without label h.heldItems }

/-- The sprite held under a label. -/
def heldSprite? (h : Host β) (label : String) : Option SpriteId := h.heldSprites.lookup label

/-- The item held under a label. -/
def heldItem? (h : Host β) (label : String) : Option QueueItem := h.heldItems.lookup label

/-! ### Operations of the stage -/

variable [TextureLoader β]

/-- Make a sprite from a part of the texture of a file. -/
def createSprite (h : Host β) (name key : String) (source : Rect) :
    Except Error SpriteId × Host β :=
  h.absorb (h.stage.createSprite h.backend name key source)

/-- Load a file together with its sprite. -/
def createFromFile (h : Host β) (path : String) : Except Error Texture × Host β :=
  h.absorb (h.stage.createFromFile h.backend path)

/-- Make a solid texture together with its sprite. -/
def createFromRectangle (h : Host β) (name : String) (width height : Int32) (color : Color) :
    Except Error Texture × Host β :=
  h.absorb (h.stage.createFromRectangle h.backend name width height color)

/-- Delete a sprite. -/
def deleteSprite (h : Host β) (name : String) : Except Error Unit × Host β :=
  h.absorb (h.stage.deleteSprite h.backend h.held name)

/-- Delete a texture with its own sprite. -/
def deleteTexture (h : Host β) (key : String) : Except Error Unit × Host β :=
  h.absorb (h.stage.deleteTexture h.backend h.held key)

/-- Release the retired sprites that nothing refers to. -/
def releaseRetired (h : Host β) : Except Error Nat × Host β :=
  h.absorb (h.stage.releaseRetired h.backend h.held)

/-- Draw one frame. -/
def render [Canvas β] (h : Host β) : Except Error Nat × Host β :=
  let (result, backend) := h.stage.render h.backend
  (result, { h with backend })

/-- Draw one frame and release what nothing refers to. -/
def renderPass [Canvas β] (h : Host β) : Except Error Nat × Host β :=
  h.absorb (h.stage.renderPass h.backend h.held)

/-- Drop the queue, every sprite and every texture. -/
def clear (h : Host β) : Host β :=
  let (stage, backend) := h.stage.clear h.backend
  { h with stage, backend }

/-- Go on with the stage an edit gave; an edit that failed changes nothing. -/
def edit {α : Type} (h : Host β) (result : Except Error (α × Stage)) : Except Error α × Host β :=
  match result with
  | .ok (a, stage) => (.ok a, { h with stage })
  | .error e => (.error e, h)

end Host

end SpriteStage
