import SpriteStage.Stage.Basic

/-!
# Making and deleting sprites and textures

Every sprite holds one reference to its texture from the moment it is made.

* deleting a sprite takes its name away and retires it; the reference goes when nothing refers to
  the sprite any more, at once or at a later `releaseRetired`;
* besides the queue, a host may refer to sprites; `held` lists what it holds;
* an operation answers with an `Outcome`, the new stage and backend also when it fails.
-/

namespace SpriteStage

/-- The answer of an operation with the stage and the backend it leaves. -/
structure Outcome (β α : Type) where
  result : Except Error α
  stage : Stage
  backend : β

namespace Stage

variable {β : Type} (s : Stage) (b : β)

/-! ### Making -/

/-- Register a sprite for a texture that was just acquired. -/
def register (name : String) (texture : Texture) (source : Rect) : Outcome β SpriteId :=
  match s.cast.insert (.new name texture source) with
  | .error e => ⟨.error e, s, b⟩
  | .ok (id, cast) => ⟨.ok id, { s with cast }, b⟩

section Making

variable [TextureLoader β]

/-- Make a sprite from a part of the texture of a file. -/
def createSprite (name key : String) (source : Rect) : Outcome β SpriteId :=
  if s.cast.contains name then ⟨.error (.duplicateSprite name), s, b⟩
  else match s.textures.acquire b key with
    | (.error e, b) => ⟨.error e, s, b⟩
    | (.ok (texture, textures), b) => { s with textures }.register b name texture source

/-- Load a file together with a sprite of its name that shows all of it. -/
def createFromFile (path : String) : Outcome β Texture :=
  if s.cast.contains path then ⟨.error (.duplicateSprite path), s, b⟩
  else match s.textures.acquire b path with
    | (.error e, b) => ⟨.error e, s, b⟩
    | (.ok (texture, textures), b) =>
        let made := { s with textures }.register b path texture .empty
        { made with result := made.result.map fun _ => texture }

/-- Make a solid texture together with a sprite of its name that shows all of it and has its
color. -/
def createFromRectangle (name : String) (width height : Int32) (color : Color) :
    Outcome β Texture :=
  if s.cast.contains name then ⟨.error (.duplicateSprite name), s, b⟩
  else match s.textures.acquireSolid b name width height color with
    | (.error e, b) => ⟨.error e, s, b⟩
    | (.ok (texture, textures), b) =>
        let made := { s with textures }.register b name texture .empty
        match made.result with
        | .error e => { made with result := .error e }
        | .ok id =>
            match (made.stage.cast.sprite id).setColor 0 color with
            | .error e => { made with result := .error e }
            | .ok sprite =>
                ⟨.ok texture, { made.stage with cast := made.stage.cast.replace id sprite },
                  made.backend⟩

end Making

/-! ### Releasing -/

/-- Whether the queue, the register or the host refers to a sprite. -/
def isReferenced (held : List SpriteId) (id : SpriteId) : Bool :=
  s.queue.any (·.sprite == id) || s.cast.entries.any (·.2 == id) || held.contains id

variable [TextureLoader β]

/-- Drop one reference to each key; a key that is not cached is reported, the first one wins. -/
def releaseKeys (textures : TextureCache) (b : β) :
    List String → Except Error Unit × TextureCache × β
  | [] => (.ok (), textures, b)
  | key :: rest =>
      match textures.release b key with
      | .ok (_, textures, b) => releaseKeys textures b rest
      | .error e =>
          let (_, textures, b) := releaseKeys textures b rest
          (.error e, textures, b)

/-- Drop the texture references of the retired sprites that nothing refers to; how many there
were. -/
def releaseRetired (held : List SpriteId) : Outcome β Nat :=
  let (waiting, ready) := s.retired.partition (s.isReferenced held)
  let keys := ready.map fun id => (s.cast.sprite id).texture.key
  let (result, textures, b) := releaseKeys s.textures b keys
  ⟨result.map fun _ => ready.length, { s with textures, retired := waiting }, b⟩

/-- Take a sprite off the register and retire it. -/
def deleteSprite (held : List SpriteId) (name : String) : Outcome β Unit :=
  match s.cast.remove name with
  | .error e => ⟨.error e, s, b⟩
  | .ok (id, cast) =>
      let released := { s with cast, retired := s.retired ++ [id] }.releaseRetired b held
      { released with result := released.result.map fun _ => () }

/-- The registered sprite of the name of a key, if it shows the texture of that key. -/
def ownSprite? (key : String) : Option SpriteId :=
  (s.cast.find? key).filter fun id => (s.cast.sprite id).texture.key == key

/-- Delete a texture together with its own sprite. Other references to the texture, and a queued
item of its own sprite, prevent that. -/
def deleteTexture (held : List SpriteId) (key : String) : Outcome β Unit :=
  let refs := s.textures.refcount key
  if refs = 0 then ⟨.error (.unknownTexture key), s, b⟩
  else
    let own := s.ownSprite? key
    let queued := own.any fun id => s.queue.any (·.sprite == id)
    let others := refs - own.isSome.toNat
    if 0 < others ∨ queued then ⟨.error (.textureInUse key (others + queued.toNat)), s, b⟩
    else s.deleteSprite b held key

/-- Drop the queue, every sprite and every texture. -/
def clear : Stage × β :=
  let (textures, b) := s.textures.clear b
  ({ s with cast := s.cast.clear, textures, queue := [], retired := [] }, b)

end Stage

end SpriteStage
