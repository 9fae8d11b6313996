import SpriteStage.Program
import SpriteStage.Proofs.Sprite

/-!
# Runs of a host

Everything that can happen to a stage as one type of actions, and runs as lists of them.

* `Host.perform` answers an action with a result and the host after it, `Host.run` goes through a
  list of actions, failing ones included;
* a host gets at a sprite by a `Reference`: a registered name, a label, an item; a reference that
  leads nowhere makes the action do nothing;
* what every action keeps holds after every run (`run_induction`).
-/

namespace SpriteStage

/-- How the surroundings get at a sprite. -/
inductive Reference
  /-- The sprite registered under a name. -/
  | registered (name : String)
  /-- The sprite held under a label. -/
  | held (label : String)
  /-- The sprite of the item held under a label. -/
  | heldItem (label : String)
  /-- The sprite of the item at a position of the queue. -/
  | queued (i : Nat)

/-- What can happen to a host. An item taken out of the queue is held under the label `keep`, or
dropped when there is none. -/
inductive Action (β : Type)
  | createSprite (name key : String) (source : Rect)
  | createFromFile (path : String)
  | createFromRectangle (name : String) (width height : Int32) (color : Color)
  | deleteSprite (name : String)
  | deleteTexture (key : String)
  | releaseRetired
  | clear
  | direct (name : String) (i : Nat) (line : String)
  | directEach (selection : Selection) (i : Nat) (line : String)
  | changeEach (selection : Selection) (change : Sprite.Change)
  | centerInSprite (name : String) (i : Nat) (other : String) (j : Nat)
  | changeSprite (sprite : Reference) (change : Sprite.Change)
  | push (sprite : Reference) (destination : Nat)
  | swap (i j : Nat)
  | replaceAt (i : Nat) (sprite : Reference) (destination : Nat) (keep : Option String)
  | replaceLast (sprite : Reference) (destination : Nat) (keep : Option String)
  | append (name : String) (destination : Nat)
  | insert (side : Stage.Side) (name : String) (destination : Nat) (anchor : String) (j : Nat)
  | move (side : Stage.Side) (name : String) (destination : Nat) (anchor : String) (j : Nat)
  | exchange (name : String) (destination : Nat) (other : String) (j : Nat)
      (keep : Option String)
  | remove (name : String) (destination : Nat) (keep : Option String)
  | toggle (name : String) (destination : Nat) (t : Stage.Toggle)
  | clearQueue
  | directQueue (name : String) (destination : Nat) (line : String)
  | render
  | renderPass
  | resize (screen : ScreenSize)
  | report (screen : ScreenSize)
  | runSchedule
  | holdSprite (label : String) (sprite : Reference)
  | holdItem (label : String) (i : Nat)
  | drop (label : String)
  /-- The backend changes on its own. -/
  | touch (f : β → β)

namespace Host

variable {β : Type}

/-! ### Performing actions -/

/-- The sprite of a reference, if it leads to one. -/
def resolve? (h : Host β) : Reference → Option SpriteId
  | .registered name => h.stage.cast.find? name
  | .held label => h.heldSprite? label
  | .heldItem label => (h.heldItem? label).map (·.sprite)
  | .queued i => h.stage.queue[i]?.map (·.sprite)

/-- Go on with the sprite of a reference. -/
def withSprite (h : Host β) (ref : Reference) (next : SpriteId → Except Error Unit × Host β) :
    Except Error Unit × Host β :=
  match h.resolve? ref with
  | some id => next id
  | none => (.ok (), h)

/-- Leave out what an answer says. -/
def settle {α : Type} (answer : Except Error α × Host β) : Except Error Unit × Host β :=
  (answer.1.map fun _ => (), answer.2)

/-- Hold an item that was taken out, if there is a label for it. -/
def keepUnder (keep : Option String) (answer : Except Error QueueItem × Host β) :
    Except Error Unit × Host β :=
  match answer, keep with
  | (.ok item, h), some label => (.ok (), h.holdItem label item)
  | (.ok _, h), none => (.ok (), h)
  | (.error e, h), _ => (.error e, h)

/-- Go on with the cast that a batch left. -/
def recast (h : Host β) (answer : Except Error Nat × Cast) : Except Error Unit × Host β :=
  (answer.1.map fun _ => (), { h with stage := { h.stage with cast := answer.2 } })

/-- Perform an action: how it ended and what it left. -/
def perform [TextureLoader β] [Canvas β] (h : Host β) : Action β → Except Error Unit × Host β
  | .createSprite name key source => settle (h.createSprite name key source)
  | .createFromFile path => settle (h.createFromFile path)
  | .createFromRectangle name width height color =>
      settle (h.createFromRectangle name width height color)
  | .deleteSprite name => h.deleteSprite name
  | .deleteTexture key => h.deleteTexture key
  | .releaseRetired => settle h.releaseRetired
  | .clear => (.ok (), h.clear)
  | .direct name i line => h.change (·.direct name i line)
  | .directEach selection i line =>
      h.recast (h.stage.cast.directEach h.stage.reader selection i line)
  | .changeEach selection change => h.recast (h.stage.cast.batch selection (change.apply ·))
  | .centerInSprite name i other j => h.change (·.centerInSprite name i other j)
  | .changeSprite ref change => h.withSprite ref fun id =>
      match change.apply (h.stage.cast.sprite id) with
      | .ok s => (.ok (), { h with stage := { h.stage with cast := h.stage.cast.replace id s } })
      | .error e => (.error e, h)
  | .push ref d => h.withSprite ref fun id => settle (h.edit (h.stage.push id d))
  | .swap i j => h.change (·.swap i j)
  | .replaceAt i ref d keep => h.withSprite ref fun id =>
      keepUnder keep (h.edit (h.stage.replaceAt i id d))
  | .replaceLast ref d keep => h.withSprite ref fun id =>
      keepUnder keep (h.edit (h.stage.replaceLast id d))
  | .append name d => settle (h.edit (h.stage.append name d))
  | .insert side name d anchor j => settle (h.edit (h.stage.insert side name d anchor j))
  | .move side name d anchor j => settle (h.edit (h.stage.move side name d anchor j))
  | .exchange name d other j keep => keepUnder keep (h.edit (h.stage.exchange name d other j))
  | .remove name d keep => keepUnder keep (h.edit (h.stage.remove name d))
  | .toggle name d t => settle (h.edit (h.stage.toggle name d t))
  | .clearQueue => (.ok (), { h with stage := h.stage.clearQueue })
  | .directQueue name d line => h.change (·.directQueue name d line)
  | .render => settle h.render
  | .renderPass => settle h.renderPass
  | .resize screen => (.ok (), { h with stage := h.stage.resize screen })
  | .report screen => (.ok (), h.report screen)
  | .runSchedule => (.ok (), h.runSchedule)
  | .holdSprite label ref => h.withSprite ref fun id => (.ok (), h.holdSprite label id)
  | .holdItem label i =>
      match h.stage.queue[i]? with
      | some item => (.ok (), h.holdItem label item)
      | none => (.ok (), h)
  | .drop label => (.ok (), h.drop label)
  | .touch f => (.ok (), { h with backend := f h.backend })

variable [TextureLoader β] [Canvas β]

/-- The host after an action, whether that failed or not. -/
def after (h : Host β) (a : Action β) : Host β := (h.perform a).2

/-- The host after a list of actions. -/
def run (h : Host β) (actions : List (Action β)) : Host β := actions.foldl after h

@[simp] theorem run_nil (h : Host β) : h.run [] = h := rfl

@[simp] theorem run_cons (h : Host β) (a : Action β) (actions : List (Action β)) :
    h.run (a :: actions) = (h.after a).run actions := rfl

theorem run_append (h : Host β) (earlier later : List (Action β)) :
    h.run (earlier ++ later) = (h.run earlier).run later :=
  List.foldl_append

/-- What every action keeps holds after every run. -/
theorem run_induction {P : Host β → Prop} (step : ∀ h a, P h → P (h.after a)) {h : Host β}
    (start : P h) (actions : List (Action β)) : P (h.run actions) := by
  induction actions generalizing h with
  | nil => exact start
  | cons a rest ih => exact ih (step h a start)

end Host

end SpriteStage
