import SpriteStage.Stage.Queue

/-!
# Queue directives

A line that edits the queue for one sprite.

| command        | arguments             | effect                                    |
|----------------|-----------------------|-------------------------------------------|
| `append`       |                       | add on top of everything                  |
| `insertAfter`  | `other [destination]` | add right above the other item            |
| `insertBefore` | `other [destination]` | add right below the other item            |
| `moveAfter`    | `other [destination]` | move the queued item above the other one  |
| `moveBefore`   | `other [destination]` | move the queued item below the other one  |
| `swap`         | `other [destination]` | take the place of the other item          |
| `remove`       |                       | take the item out                         |
| `toggle`       | `[on\|off]`           | show, hide or flip                        |

A sprite that was deleted but is still queued can only be removed or toggled.
-/

namespace SpriteStage

/-- An edit that needs a second item. -/
inductive AnchoredEdit
  | insert (side : Stage.Side)
  | move (side : Stage.Side)
  | swap
  deriving DecidableEq, Repr

/-- A parsed queue directive. -/
inductive QueueEdit
  | append
  | remove
  | toggle (t : Stage.Toggle)
  | anchored (edit : AnchoredEdit) (other : String) (destination : Nat)
  deriving DecidableEq, Repr

/-- Every edit that needs a second item. -/
def AnchoredEdit.all : List AnchoredEdit :=
  [.insert .after, .insert .before, .move .after, .move .before, .swap]

/-- The word for an edit that needs a second item. -/
def AnchoredEdit.keyword : AnchoredEdit → String
  | insert .after => "insertAfter"
  | insert .before => "insertBefore"
  | move .after => "moveAfter"
  | move .before => "moveBefore"
  | swap => "swap"

/-- The edit of a word. -/
def AnchoredEdit.ofKeyword? (word : String) : Option AnchoredEdit :=
  all.find? (·.keyword == word)

theorem AnchoredEdit.ofKeyword?_keyword (e : AnchoredEdit) : ofKeyword? e.keyword = some e := by
  cases e with
  | insert side => cases side <;> decide
  | move side => cases side <;> decide
  | swap => decide

namespace QueueEdit

/-- Whether the edit is open to sprites that are not registered. -/
def reachesDeleted : QueueEdit → Bool
  | remove | toggle _ => true
  | append | anchored .. => false

/-- The other item that the arguments name; without an index it draws the first destination. -/
def readAnchor (r : ValueReader) (command : String) (args : List String) :
    Except Error (String × Nat) :=
  match args with
  | [other] => .ok (other, 0)
  | [other, index] => do return (other, ← r.index index)
  | _ => .error (.argumentCount command "1 or 2" args.length)

/-- An edit without arguments. -/
def readBare (command : String) (args : List String) (edit : QueueEdit) :
    Except Error QueueEdit :=
  if args = [] then .ok edit else .error (.argumentCount command "0" args.length)

/-- The edit of visibility that the arguments name. -/
def readToggle (command : String) (args : List String) : Except Error QueueEdit :=
  match args with
  | [] => .ok (toggle .flip)
  | [word] =>
      if word = "on" then .ok (toggle .on)
      else if word = "off" then .ok (toggle .off)
      else .error (.parse word "expected 'on' or 'off'")
  | _ => .error (.argumentCount command "0 or 1" args.length)

/-- Read a queue directive. -/
def parse (r : ValueReader) (line : String) : Except Error QueueEdit :=
  match Text.words line with
  | [] => .error (.unknownCommand "")
  | command :: args =>
      if command = "append" then readBare command args append
      else if command = "remove" then readBare command args remove
      else if command = "toggle" then readToggle command args
      else match AnchoredEdit.ofKeyword? command with
        | none => .error (.unknownCommand command)
        | some edit => do
            let (other, destination) ← readAnchor r command args
            return anchored edit other destination

/-- Apply an edit to the items of a destination of the sprite of a name. -/
def apply (edit : QueueEdit) (s : Stage) (name : String) (destination : Nat) :
    Except Error Stage :=
  match edit with
  | append => do return (← s.append name destination).2
  | remove => do return (← s.remove name destination).2
  | toggle t => do return (← s.toggle name destination t).2
  | anchored (.insert side) other d => do return (← s.insert side name destination other d).2
  | anchored (.move side) other d => do return (← s.move side name destination other d).2
  | anchored .swap other d => do return (← s.exchange name destination other d).2

end QueueEdit

namespace Stage

/-- Whether an item of a sprite of a name is queued. -/
def isQueued (s : Stage) (name : String) : Bool :=
  s.queue.any fun item => (s.spriteOf item).name == name

/-- Apply a queue directive for a destination of the sprite of a name. A name that is neither
registered nor queued is reported before the line is read. -/
def directQueue (s : Stage) (name : String) (destination : Nat) (line : String) :
    Except Error Stage := do
  let registered := s.cast.contains name
  if !registered && !s.isQueued name then .error (.unknownSprite name)
  else
    let edit ← QueueEdit.parse s.reader line
    if !registered && !edit.reachesDeleted then .error (.unknownSprite name)
    else edit.apply s name destination

end Stage

end SpriteStage
