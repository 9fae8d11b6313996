/-!
# Errors

One cause per constructor; `Error.message` words it. A batch that stopped keeps the error of the
sprite it stopped at, and `Error.root` looks through such wrappers.
-/

namespace SpriteStage

/-- Why an operation on sprites, textures, the queue or the settings failed. -/
inductive Error
  /-- A word of a directive has no reading. -/
  | parse (token reason : String)
  | unknownOption (keyword : String)
  | unknownCommand (command : String)
  | unknownSprite (name : String)
  | unknownTexture (key : String)
  | duplicateSprite (name : String)
  /-- A position past the end of the queue. -/
  | positionOutOfRange (index size : Nat)
  | emptyQueue
  /-- A sprite without a destination of that index. -/
  | noDestination (sprite : String) (index count : Nat)
  | argumentCount (command expected : String) (found : Nat)
  /-- No queued item draws that destination of a sprite of that name. -/
  | notQueued (name : String) (destination : Nat)
  | textureLoad (key reason : String)
  /-- A texture that is still wanted `refs` times. -/
  | textureInUse (key : String) (refs : Nat)
  /-- A batch stopped at its entry `position`. -/
  | batch (name : String) (position : Nat) (cause : Error)
  | draw (sprite reason : String)
  | settings (reason : String)
  deriving DecidableEq, Repr

namespace Error

/-- The wording of an error. -/
def message : Error → String
  | parse token reason => s!"cannot parse '{token}': {reason}"
  | unknownOption keyword => s!"unknown render option '{keyword}'"
  | unknownCommand command => s!"unknown command '{command}'"
  | unknownSprite name => s!"unknown sprite '{name}'"
  | unknownTexture key => s!"unknown texture '{key}'"
  | duplicateSprite name => s!"sprite '{name}' already exists"
  | positionOutOfRange index size =>
      s!"render queue position {index} out of range (size {size})"
  | emptyQueue => "render queue is empty"
  | noDestination sprite index count =>
      s!"sprite '{sprite}' has no destination {index} ({count} defined)"
  | argumentCount command expected found =>
      s!"'{command}' expects {expected} arguments, got {found}"
  | notQueued name destination =>
      s!"no render item for sprite '{name}' destination {destination}"
  | textureLoad key reason => s!"failed to load texture '{key}': {reason}"
  | textureInUse key refs => s!"texture '{key}' is still used by {refs} sprite(s)"
  | batch name position cause =>
      s!"batch aborted at sprite '{name}' (entry {position}): " ++ cause.message
  | draw sprite reason => s!"failed to draw sprite '{sprite}': {reason}"
  | settings reason => s!"configuration error: {reason}"

/-- The innermost error, looking through stopped batches. -/
def root : Error → Error
  | batch _ _ cause => cause.root
  | e => e

@[simp] theorem root_batch (name : String) (position : Nat) (cause : Error) :
    (batch name position cause).root = cause.root := rfl

end Error

/-- A computation that succeeds goes through its first part. -/
theorem exists_of_bind_eq_ok {ε α γ : Type} {x : Except ε α} {f : α → Except ε γ} {c : γ}
    (h : x >>= f = .ok c) : ∃ a, x = .ok a ∧ f a = .ok c := by
  cases x with
  | error e => cases h
  | ok a => exact ⟨a, rfl, h⟩

/-- A computation whose first part succeeds goes on with its result. -/
theorem bind_of_eq_ok {ε α γ : Type} {x : Except ε α} {f : α → Except ε γ} {a : α}
    (h : x = .ok a) : x >>= f = f a := by
  rw [h]
  rfl

theorem exists_of_map_eq_ok {ε α γ : Type} {x : Except ε α} {f : α → γ} {c : γ}
    (h : x.map f = .ok c) : ∃ a, x = .ok a ∧ f a = c := by
  cases x with
  | error e => cases h
  | ok a => exact ⟨a, rfl, Except.ok.inj h⟩

end SpriteStage
