import SpriteStage.Backend
import SpriteStage.Keyed

/-!
# The texture cache

Textures by key with a count of references. The first reference to a key loads its texture, the
last one to go unloads it; a solid texture asked for under a key that is cached is the cached one.
-/

namespace SpriteStage

/-- A cached texture and how often it is wanted. -/
structure CacheEntry where
  texture : Texture
  refs : Nat
  deriving DecidableEq, Repr

/-- The cached textures, each under its key. -/
structure TextureCache where
  entries : List (String × CacheEntry)
  deriving DecidableEq, Repr

namespace TextureCache

/-- Nothing cached. -/
def empty : TextureCache := ⟨[]⟩

/-! ### Looking up -/

/-- The entry of a key. -/
def find? (c : TextureCache) (key : String) : Option CacheEntry := c.entries.lookup key

/-- The cached texture of a key. -/
def get? (c : TextureCache) (key : String) : Option Texture := (c.find? key).map (·.texture)

/-- How often a key is wanted; zero when it is not cached. -/
def refcount (c : TextureCache) (key : String) : Nat := (c.find? key).elim 0 (·.refs)

/-- Whether a key is cached. -/
def contains (c : TextureCache) (key : String) : Bool := (c.find? key).isSome

/-- How many textures are cached. -/
def size (c : TextureCache) : Nat := c.entries.length

@[simp] theorem find?_empty (key : String) : empty.find? key = none := rfl

@[simp] theorem refcount_empty (key : String) : empty.refcount key = 0 := rfl

/-! ### Changing entries -/

/-- Forget a key. -/
def erase (c : TextureCache) (key : String) : TextureCache :=
  ⟨Keyed.without key c.entries⟩

/-- Put an entry under a key. -/
def set (c : TextureCache) (key : String) (entry : CacheEntry) : TextureCache :=
  ⟨Keyed.put key entry c.entries⟩

@[simp] theorem find?_erase_self (c : TextureCache) (key : String) :
    (c.erase key).find? key = none :=
  Keyed.lookup_without_self key c.entries

theorem find?_erase_of_ne (c : TextureCache) {key other : String} (h : other ≠ key) :
    (c.erase key).find? other = c.find? other :=
  Keyed.lookup_without_of_ne h c.entries

@[simp] theorem find?_set_self (c : TextureCache) (key : String) (entry : CacheEntry) :
    (c.set key entry).find? key = some entry :=
  Keyed.lookup_put_self key entry c.entries

theorem find?_set_of_ne (c : TextureCache) {key other : String} (h : other ≠ key)
    (entry : CacheEntry) : (c.set key entry).find? other = c.find? other :=
  Keyed.lookup_put_of_ne h entry c.entries

/-! ### References -/

variable {β : Type}

/-- Take a reference to a key, with `load` making its texture if it is not cached. -/
def acquireWith (c : TextureCache) (b : β) (key : String)
    (load : β → Except String LoadedTexture × β) : Except Error (Texture × TextureCache) × β :=
  match c.find? key with
  | some e => (.ok (e.texture, c.set key { e with refs := e.refs + 1 }), b)
  | none =>
      match load b with
      | (.error reason, b) => (.error (.textureLoad key reason), b)
      | (.ok loaded, b) =>
          let texture : Texture := ⟨key, loaded.handle, loaded.width, loaded.height⟩
          (.ok (texture, c.set key ⟨texture, 1⟩), b)

variable [TextureLoader β]

/-- Take a reference to the texture of a file. -/
def acquire (c : TextureCache) (b : β) (key : String) : Except Error (Texture × TextureCache) × β :=
  c.acquireWith b key (TextureLoader.loadFile · key)

/-- Take a reference to a solid texture. -/
def acquireSolid (c : TextureCache) (b : β) (key : String) (width height : Int32) (color : Color) :
    Except Error (Texture × TextureCache) × β :=
  c.acquireWith b key (TextureLoader.createSolid · width height color)

/-- Drop a reference; whether that unloaded the texture. -/
def release (c : TextureCache) (b : β) (key : String) : Except Error (Bool × TextureCache × β) :=
  match c.find? key with
  | none => .error (.unknownTexture key)
  | some e =>
      if 1 < e.refs then .ok (false, c.set key { e with refs := e.refs - 1 }, b)
      else .ok (true, c.erase key, TextureLoader.unload b e.texture.handle)

/-- Unload everything. -/
def clear (c : TextureCache) (b : β) : TextureCache × β :=
  (empty, c.entries.foldl (fun b e => TextureLoader.unload b e.2.texture.handle) b)

end TextureCache

end SpriteStage
