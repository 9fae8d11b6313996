import SpriteStage.Backend
import SpriteStage.Keyed

/-!
# The recording backend

A drawing backend without a window: it hands out texture handles and keeps the draw calls of every
frame.

* textures come from a table of known files or are solid; a handle is live from the load that
  issued it to its unloading;
* draw calls go into the open frame; opening a frame drops one that is still open, closing it
  adds it to the completed frames;
* what fails changes nothing.
-/

namespace SpriteStage

/-- A backend that records. -/
structure Recorder where
  /-- The sizes of the files that can be loaded. -/
  files : List (String × Int32 × Int32)
  /-- The handles that were issued and not unloaded. -/
  live : List TextureHandle
  /-- The handle issued last; handles start at one. -/
  last : UInt32
  loads : Nat
  unloads : Nat
  /-- The completed frames, newest first. -/
  completed : List (List DrawCall)
  /-- The open frame. -/
  current : Option (List DrawCall)
  deriving DecidableEq, Repr

namespace Recorder

/-- Why the backend refused. -/
inductive Failure
  | noSuchFile (path : String)
  | invalidSize (width height : Int32)
  | notLoaded (handle : TextureHandle)
  | noOpenFrame
  deriving DecidableEq, Repr

/-- The wording of a refusal. -/
def Failure.message : Failure → String
  | .noSuchFile path => s!"no such file: {path}"
  | .invalidSize width height => s!"invalid texture size {width}x{height}"
  | .notLoaded handle => s!"texture handle {handle.number} is not loaded"
  | .noOpenFrame => "draw outside of a frame"

/-- A backend that can load nothing and has recorded nothing. -/
def new : Recorder := ⟨[], [], 0, 0, 0, [], none⟩

/-- Make a file loadable with a size; an earlier size is forgotten. -/
def addFile (r : Recorder) (path : String) (width height : Int32) : Recorder :=
  { r with files := Keyed.put path (width, height) r.files }

/-- The completed frames, oldest first. -/
def frames (r : Recorder) : List (List DrawCall) := r.completed.reverse

/-- The frame completed last. -/
def lastFrame? (r : Recorder) : Option (List DrawCall) := r.completed.head?

/-! ### Textures -/

/-- Issue the next handle for a texture of a size. -/
def issue (r : Recorder) (width height : Int32) : LoadedTexture × Recorder :=
  let handle : TextureHandle := ⟨r.last + 1⟩
  (⟨handle, width, height⟩,
    { r with last := r.last + 1, live := handle :: r.live, loads := r.loads + 1 })

/-- Load a file. -/
def loadFile (r : Recorder) (path : String) : Except Failure (LoadedTexture × Recorder) :=
  match r.files.lookup path with
  | none => .error (.noSuchFile path)
  | some (width, height) => .ok (r.issue width height)

/-- Make a solid texture; neither side may be zero or negative. -/
def createSolid (r : Recorder) (width height : Int32) :
    Except Failure (LoadedTexture × Recorder) :=
  if width ≤ 0 ∨ height ≤ 0 then .error (.invalidSize width height)
  else .ok (r.issue width height)

/-- Unload a texture; only a live handle counts. -/
def unload (r : Recorder) (handle : TextureHandle) : Recorder :=
  if handle ∈ r.live then
    { r with live := r.live.filter (· != handle), unloads := r.unloads + 1 }
  else r

/-! ### Frames -/

/-- Open a frame. -/
def beginFrame (r : Recorder) : Recorder := { r with current := some [] }

/-- Put a draw call into the open frame. -/
def draw (r : Recorder) (call : DrawCall) : Except Failure Recorder :=
  if call.texture ∈ r.live then
    match r.current with
    | some frame => .ok { r with current := some (frame ++ [call]) }
    | none => .error .noOpenFrame
  else .error (.notLoaded call.texture)

/-- Complete the open frame, if there is one. -/
def endFrame (r : Recorder) : Recorder :=
  match r.current with
  | some frame => { r with completed := frame :: r.completed, current := none }
  | none => r

/-! ### As a backend -/

/-- The answer with the state it leaves; a refusal leaves the old state. -/
def answer {α : Type} (r : Recorder) : Except Failure (α × Recorder) → Except String α × Recorder
  | .ok (a, r) => (.ok a, r)
  | .error failure => (.error failure.message, r)

instance : TextureLoader Recorder where
  loadFile r path := r.answer (r.loadFile path)
  createSolid r width height _ := r.answer (r.createSolid width height)
  unload := unload

instance : Canvas Recorder where
  beginFrame := beginFrame
  draw r call := r.answer ((r.draw call).map ((), ·))
  endFrame := endFrame

end Recorder

end SpriteStage
