import SpriteStage.Adjustment
import SpriteStage.Keyed

/-!
# The cast

All sprites that were ever made, each with an identity that is never used again, and the ones
that are registered under their names.

* a registered name leads to an identity, and the identity to the sprite, so that whoever keeps
  an identity sees every later change of the sprite, also after it lost its name;
* `names` lists the registered names in order of registration;
* a batch applies one change to several sprites and stops at the first failure; the sprites
  before it keep their changes.
-/

namespace SpriteStage

/-- The identity of a sprite of a cast. -/
structure SpriteId where
  index : Nat
  deriving DecidableEq, Repr

/-- What an identity that was never given out stands for: a sprite without destinations. -/
def Sprite.absent : Sprite := ⟨"", ⟨"", ⟨0⟩, 0, 0⟩, .empty, []⟩

/-- All sprites ever made and the registered names. -/
structure Cast where
  /-- Every sprite, at the position of its identity. -/
  sprites : List Sprite
  /-- The registered names with their sprites, in order of registration. -/
  entries : List (String × SpriteId)
  deriving DecidableEq, Repr

/-- Which sprites a batch goes through. -/
inductive Selection
  /-- Every registered sprite, in order of registration. -/
  | all
  /-- The sprites of these names, in this order. -/
  | names (names : List String)
  deriving DecidableEq, Repr

namespace Cast

/-- No sprite at all. -/
def empty : Cast := ⟨[], []⟩

/-! ### Looking up -/

/-- The sprite of an identity. -/
def sprite (c : Cast) (id : SpriteId) : Sprite := c.sprites.getD id.index .absent

/-- The registered names, in order of registration. -/
def names (c : Cast) : List String := c.entries.map Prod.fst

/-- The identity registered under a name. -/
def find? (c : Cast) (name : String) : Option SpriteId := c.entries.lookup name

/-- Whether a name is registered. -/
def contains (c : Cast) (name : String) : Bool := (c.find? name).isSome

/-- The identity registered under a name, which has to be there. -/
def get (c : Cast) (name : String) : Except Error SpriteId :=
  match c.find? name with
  | some id => .ok id
  | none => .error (.unknownSprite name)

@[simp] theorem names_empty : empty.names = [] := rfl

@[simp] theorem find?_empty (name : String) : empty.find? name = none := rfl

theorem get_eq_ok_iff {c : Cast} {name : String} {id : SpriteId} :
    c.get name = .ok id ↔ c.find? name = some id := by
  unfold get
  cases c.find? name <;> simp

/-! ### Registering -/

/-- Register a sprite under its own name. -/
def insert (c : Cast) (s : Sprite) : Except Error (SpriteId × Cast) :=
  if c.contains s.name then .error (.duplicateSprite s.name)
  else
    let id : SpriteId := ⟨c.sprites.length⟩
    .ok (id, ⟨c.sprites ++ [s], c.entries ++ [(s.name, id)]⟩)

/-- Take a name off the register; the sprite stays. -/
def remove (c : Cast) (name : String) : Except Error (SpriteId × Cast) := do
  let id ← c.get name
  return (id, { c with entries := Keyed.without name c.entries })

/-- Take every name off the register. -/
def clear (c : Cast) : Cast := { c with entries := [] }

@[simp] theorem names_clear (c : Cast) : c.clear.names = [] := rfl

/-! ### Changing sprites -/

/-- Put a sprite in the place of the one of an identity. -/
def replace (c : Cast) (id : SpriteId) (s : Sprite) : Cast :=
  { c with sprites := c.sprites.set id.index s }

/-- Change the sprite registered under a name. -/
def update (c : Cast) (name : String) (f : Sprite → Except Error Sprite) : Except Error Cast := do
  let id ← c.get name
  return c.replace id (← f (c.sprite id))

@[simp] theorem names_replace (c : Cast) (id : SpriteId) (s : Sprite) :
    (c.replace id s).names = c.names := rfl

@[simp] theorem find?_replace (c : Cast) (id : SpriteId) (s : Sprite) (name : String) :
    (c.replace id s).find? name = c.find? name := rfl

theorem sprite_replace_of_ne {c : Cast} {id other : SpriteId} (h : id ≠ other) (s : Sprite) :
    (c.replace id s).sprite other = c.sprite other := by
  have : id.index ≠ other.index := fun he => h (by cases id; cases other; simp_all)
  simp [replace, sprite, List.getD_eq_getElem?_getD, List.getElem?_set_ne this]

/-! ### Batches -/

/-- The names a selection goes through. -/
def selected (c : Cast) : Selection → List String
  | .all => c.names
  | .names names => names

/-- Change the sprites of the names one by one from entry `position` on, as far as possible. -/
def updateEach (c : Cast) (f : Sprite → Except Error Sprite) (position : Nat) :
    List String → Except Error Unit × Cast
  | [] => (.ok (), c)
  | name :: rest =>
      match c.update name f with
      | .error e => (.error (.batch name position e), c)
      | .ok c => c.updateEach f (position + 1) rest

/-- Change every selected sprite; how many there were, and the cast with all changes made. -/
def batch (c : Cast) (selection : Selection) (f : Sprite → Except Error Sprite) :
    Except Error Nat × Cast :=
  let names := c.selected selection
  let (result, c) := c.updateEach f 0 names
  (result.map fun _ => names.length, c)

/-- Centre a destination of one sprite in a destination of another. -/
def centerInSprite (c : Cast) (name : String) (i : Nat) (other : String) (j : Nat) :
    Except Error Cast := do
  let id ← c.get name
  let area ← (c.sprite (← c.get other)).get j
  return c.replace id (← (c.sprite id).centerIn i area.rect)

end Cast

end SpriteStage
