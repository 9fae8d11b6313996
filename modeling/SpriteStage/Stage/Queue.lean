import SpriteStage.Stage.Basic

/-!
# Editing the queue

Items are added, exchanged, moved and taken out by position or by what they draw.

* an anchor, and an item that is moved or taken out by name, is the first one that draws the
  destination;
* a position is that of the edited item after the edit;
* an edit that fails leaves the stage as it was, since it gives no other stage.
-/

namespace SpriteStage.Stage

/-! ### Finding items -/

/-- The position of the first item that draws a destination of a sprite of a name. -/
def findItem? (s : Stage) (name : String) (destination : Nat) : Option Nat :=
  s.queue.findIdx? (s.refersTo name destination)

/-- The position of the first such item, which has to be there. -/
def position (s : Stage) (name : String) (destination : Nat) : Except Error Nat :=
  match s.findItem? name destination with
  | some i => .ok i
  | none => .error (.notQueued name destination)

/-- The item at a position, which has to be there. -/
def itemAtPosition (s : Stage) (i : Nat) : Except Error QueueItem :=
  match s.queue[i]? with
  | some item => .ok item
  | none => .error (.positionOutOfRange i s.queue.length)

/-! ### By position -/

/-- Add an item on top. -/
def push (s : Stage) (id : SpriteId) (destination : Nat) : Except Error (Nat × Stage) := do
  let item ← s.newItem id destination
  return (s.queue.length, { s with queue := s.queue ++ [item] })

/-- Exchange two items. -/
def swap (s : Stage) (a b : Nat) : Except Error Stage := do
  let first ← s.itemAtPosition a
  let second ← s.itemAtPosition b
  return { s with queue := (s.queue.set a second).set b first }

/-- Put a new item in the place of another; the item taken out is the result. -/
def replaceAt (s : Stage) (i : Nat) (id : SpriteId) (destination : Nat) :
    Except Error (QueueItem × Stage) := do
  let old ← s.itemAtPosition i
  let item ← s.newItem id destination
  return (old, { s with queue := s.queue.set i item })

/-- Put a new item in the place of the topmost one. -/
def replaceLast (s : Stage) (id : SpriteId) (destination : Nat) :
    Except Error (QueueItem × Stage) :=
  if s.queue = [] then .error .emptyQueue
  else s.replaceAt (s.queue.length - 1) id destination

/-- Take all items out. -/
def clearQueue (s : Stage) : Stage := { s with queue := [] }

/-! ### By name -/

/-- Add an item of a registered sprite on top. -/
def append (s : Stage) (name : String) (destination : Nat) : Except Error (Nat × Stage) := do
  s.push (← s.cast.get name) destination

/-- Where an edit puts an item relative to its anchor. -/
inductive Side
  | after
  | before
  deriving DecidableEq, Repr

/-- How far behind its anchor the item comes. -/
def Side.offset : Side → Nat
  | after => 1
  | before => 0

/-- Add an item of a registered sprite next to an anchor. -/
def insert (s : Stage) (side : Side) (name : String) (destination : Nat)
    (anchor : String) (anchorDestination : Nat) : Except Error (Nat × Stage) := do
  let item ← s.newItemNamed name destination
  let place := (← s.position anchor anchorDestination) + side.offset
  return (place, { s with queue := s.queue.insertIdx place item })

/-- Where an item from `source` comes to stand next to an anchor, once it is taken out. -/
def targetOf (side : Side) (source anchor : Nat) : Nat :=
  (if source < anchor then anchor - 1 else anchor) + side.offset

/-- Move an item to the side of another; an item next to itself stays. -/
def relocate (side : Side) (source anchor : Nat) (queue : List QueueItem) : List QueueItem :=
  match queue[source]? with
  | some item =>
      if source = anchor then queue
      else (queue.eraseIdx source).insertIdx (targetOf side source anchor) item
  | none => queue

/-- Move a queued item next to an anchor. -/
def move (s : Stage) (side : Side) (name : String) (destination : Nat)
    (anchor : String) (anchorDestination : Nat) : Except Error (Nat × Stage) := do
  let source ← s.position name destination
  let target ← s.position anchor anchorDestination
  let reached := if source = target then source else targetOf side source target
  return (reached, { s with queue := relocate side source target s.queue })

/-- Put a new item of a registered sprite in the place of a queued one. -/
def exchange (s : Stage) (name : String) (destination : Nat)
    (other : String) (otherDestination : Nat) : Except Error (QueueItem × Stage) := do
  let item ← s.newItemNamed name destination
  let i ← s.position other otherDestination
  let old ← s.itemAtPosition i
  return (old, { s with queue := s.queue.set i item })

/-- Take an item out. -/
def remove (s : Stage) (name : String) (destination : Nat) :
    Except Error (QueueItem × Stage) := do
  let i ← s.position name destination
  let old ← s.itemAtPosition i
  return (old, { s with queue := s.queue.eraseIdx i })

/-! ### Visibility -/

/-- A change of visibility. -/
inductive Toggle
  | on
  | off
  | flip
  deriving DecidableEq, Repr

/-- The visibility after a change. -/
def Toggle.apply : Toggle → Bool → Bool
  | on, _ => true
  | off, _ => false
  | flip, visible => !visible

/-- Change the visibility of every item that draws a destination; how many there are. -/
def toggle (s : Stage) (name : String) (destination : Nat) (t : Toggle) :
    Except Error (Nat × Stage) :=
  let refers := s.refersTo name destination
  let count := s.queue.countP refers
  if count = 0 then .error (.notQueued name destination)
  else .ok (count,
    { s with
      queue := s.queue.map fun item =>
        if refers item then { item with visible := t.apply item.visible } else item })

/-! ### Laws -/

@[simp] theorem Toggle.on_apply (b : Bool) : Toggle.on.apply b = true := rfl

@[simp] theorem Toggle.off_apply (b : Bool) : Toggle.off.apply b = false := rfl

@[simp] theorem Toggle.flip_flip (b : Bool) : Toggle.flip.apply (Toggle.flip.apply b) = b := by
  cases b <;> rfl

theorem itemAtPosition_eq_ok_iff {s : Stage} {i : Nat} {item : QueueItem} :
    s.itemAtPosition i = .ok item ↔ s.queue[i]? = some item := by
  unfold itemAtPosition
  cases s.queue[i]? <;> simp

theorem position_eq_ok_iff {s : Stage} {name : String} {destination i : Nat} :
    s.position name destination = .ok i ↔ s.findItem? name destination = some i := by
  unfold position
  cases s.findItem? name destination <;> simp

end SpriteStage.Stage
