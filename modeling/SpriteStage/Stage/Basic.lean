import SpriteStage.Directive
import SpriteStage.Text.Quoted
import SpriteStage.TextureCache

/-!
# The stage

The state of the program: a cast, the textures it uses, and the queue of items that are drawn.

* the order of the queue is the order of drawing, the last item comes out on top;
* an item keeps the identity of its sprite and the index of a destination; it need not be visible;
* a sprite that lost its name while something still refers to it is retired: it keeps its texture
  until nothing refers to it any more.
-/

namespace SpriteStage

/-- One entry of the queue. -/
structure QueueItem where
  sprite : SpriteId
  destination : Nat
  visible : Bool
  deriving DecidableEq, Repr

/-- The state of the program. -/
structure Stage where
  name : String
  screen : ScreenSize
  reader : ValueReader
  cast : Cast
  textures : TextureCache
  /-- The items in order of drawing. -/
  queue : List QueueItem
  /-- The deleted sprites that still hold their textures. -/
  retired : List SpriteId
  deriving DecidableEq, Repr

namespace Stage

/-- An empty stage for a screen. -/
def new (name : String) (screen : ScreenSize) : Stage :=
  ⟨name, screen, ⟨screen⟩, .empty, .empty, [], []⟩

/-- Change the screen size, for the reader of directives too. -/
def resize (s : Stage) (screen : ScreenSize) : Stage :=
  { s with screen, reader := ⟨screen⟩ }

@[simp] theorem screen_resize (s : Stage) (screen : ScreenSize) :
    (s.resize screen).screen = screen := rfl

@[simp] theorem reader_resize (s : Stage) (screen : ScreenSize) :
    (s.resize screen).reader = ⟨screen⟩ := rfl

/-! ### Sprites -/

/-- Apply a directive to a destination of a registered sprite. -/
def direct (s : Stage) (name : String) (i : Nat) (line : String) : Except Error Stage := do
  return { s with cast := ← s.cast.direct s.reader name i line }

/-- Centre a destination of one sprite in a destination of another. -/
def centerInSprite (s : Stage) (name : String) (i : Nat) (other : String) (j : Nat) :
    Except Error Stage := do
  return { s with cast := ← s.cast.centerInSprite name i other j }

/-! ### Items -/

/-- The sprite an item draws. -/
def spriteOf (s : Stage) (item : QueueItem) : Sprite := s.cast.sprite item.sprite

/-- Whether an item draws a destination of a sprite of a name. -/
def refersTo (s : Stage) (name : String) (destination : Nat) (item : QueueItem) : Bool :=
  item.destination == destination && (s.spriteOf item).name == name

/-- Whether a point lies in what an item draws. -/
def itemIsInside (s : Stage) (x y : Int32) (item : QueueItem) : Bool :=
  (s.spriteOf item).isInside item.destination x y

/-- Whether two items draw the same destination of sprites of one name. -/
def sameItem (s : Stage) (a b : QueueItem) : Bool :=
  a.destination == b.destination && (s.spriteOf a).name == (s.spriteOf b).name

/-- An item for a log: its sprite's name, its destination and whether it is visible. -/
def describeItem (s : Stage) (item : QueueItem) : String :=
  "RenderItem \x7b sprite: " ++ Text.quote (s.spriteOf item).name ++
    s!", destination: {item.destination}, visible: {item.visible} \x7d"

/-- A visible item for a destination that exists. -/
def newItem (s : Stage) (id : SpriteId) (destination : Nat) : Except Error QueueItem := do
  let _ ← (s.cast.sprite id).get destination
  return ⟨id, destination, true⟩

/-- A visible item for a destination of a registered sprite. -/
def newItemNamed (s : Stage) (name : String) (destination : Nat) : Except Error QueueItem := do
  s.newItem (← s.cast.get name) destination

end Stage

end SpriteStage
