import SpriteStage.Proofs.Queue
import SpriteStage.Proofs.Run
import SpriteStage.Proofs.TextureCache

/-!
# What an action can do

`Host.Effect h h'` lists once all that an action can do to a host; `effect_after` says that the
list is complete, apart from the two actions that are their own description, `clear` and `touch`.
What a run keeps is proved one effect at a time. Most actions are edits of the queue, which do no
more than `Host.Edited h h'` says (`edited_after`).
-/

namespace SpriteStage.Host

variable {β : Type}

/-! ### What a host can get at -/

/-- The identities a host can get at. -/
def Knows (h : Host β) (id : SpriteId) : Prop :=
  id ∈ h.stage.cast.registered ∨ id ∈ h.held ∨ ∃ item ∈ h.stage.queue, item.sprite = id

theorem mem_of_lookup {α : Type} {label : String} {a : α} {l : List (String × α)}
    (h : l.lookup label = some a) : (label, a) ∈ l := by
  obtain ⟨l₁, l₂, rfl, -⟩ := List.lookup_eq_some_iff.1 h
  simp

theorem mem_held_iff {h : Host β} {id : SpriteId} :
    id ∈ h.held ↔ (∃ e ∈ h.heldSprites, e.2 = id) ∨ ∃ e ∈ h.heldItems, e.2.sprite = id := by
  simp [held]

theorem knows_of_registered {h : Host β} (id : SpriteId) (hi : id ∈ h.stage.cast.registered) :
    h.Knows id :=
  .inl hi

theorem knows_of_resolve? {h : Host β} {ref : Reference} {id : SpriteId}
    (hr : h.resolve? ref = some id) : h.Knows id := by
  cases ref with
  | registered name => exact .inl (Cast.mem_registered_of_find? hr)
  | held label => exact .inr (.inl (mem_held_iff.2 (.inl ⟨_, mem_of_lookup hr, rfl⟩)))
  | heldItem label =>
    obtain ⟨item, hi, rfl⟩ := Option.map_eq_some_iff.1 hr
    exact .inr (.inl (mem_held_iff.2 (.inr ⟨_, mem_of_lookup hi, rfl⟩)))
  | queued i =>
    obtain ⟨item, hi, rfl⟩ := Option.map_eq_some_iff.1 hr
    exact .inr (.inr ⟨item, List.mem_of_getElem? hi, rfl⟩)

/-- A sprite that the host can get at may be queued. -/
theorem requeued_of_knows {h : Host β} {s : Stage} {id : SpriteId} (hk : h.Knows id)
    (hs : h.stage.Requeued (· = id) s) : h.stage.Requeued h.Knows s := by
  refine hs.mono ?_
  rintro _ rfl
  exact hk

/-- What is held under a label is what was held before, or the new value. -/
theorem mem_or_of_mem_put {α : Type} {P : α → Prop} {label : String} {a : α}
    {l : List (String × α)} {e : String × α} (ha : P a) (he : e ∈ Keyed.put label a l) :
    e ∈ l ∨ P e.2 := by
  rcases List.mem_cons.1 he with rfl | he
  · exact .inr ha
  · exact .inl (Keyed.mem_without.1 he).1

/-! ### Ways to perform an action -/

theorem withSprite_cases {P : Host β → Prop} {h : Host β} {ref : Reference}
    {next : SpriteId → Except Error Unit × Host β} (self : P h)
    (hn : ∀ id, h.Knows id → P (next id).2) : P (h.withSprite ref next).2 := by
  unfold withSprite
  split
  · next id hr => exact hn id (knows_of_resolve? hr)
  · exact self

theorem change_cases {P : Host β → Prop} {h : Host β} {f : Stage → Except Error Stage} (self : P h)
    (hf : ∀ s, f h.stage = .ok s → P { h with stage := s }) : P (h.change f).2 := by
  unfold change
  split
  · next s hs => exact hf s hs
  · exact self

/-! ### Edits of the queue -/

/-- The queue is edited, and an item that was queued may be held. -/
inductive Edited (h : Host β) : Host β → Prop
  | mk {s : Stage} {items : List (String × QueueItem)} (hs : h.stage.Requeued h.Knows s)
      (hi : ∀ e ∈ items, e ∈ h.heldItems ∨ e.2 ∈ h.stage.queue) :
      Edited h { h with stage := s, heldItems := items }

/-- Whether an action is an edit of the queue. -/
def editsQueue : Action β → Bool
  | .push .. | .swap .. | .replaceAt .. | .replaceLast .. | .append .. | .insert .. | .move ..
  | .exchange .. | .remove .. | .toggle .. | .clearQueue | .directQueue .. => true
  | _ => false

section Edits

variable {h : Host β}

theorem edited_self (h : Host β) : Edited h h :=
  .mk (Stage.requeued_of_subset fun _ hi => hi) fun _ he => .inl he

theorem edited_stage {s : Stage} (hs : h.stage.Requeued h.Knows s) :
    Edited h { h with stage := s } :=
  .mk hs fun _ he => .inl he

theorem edited_edit {α : Type} {answer : Except Error (α × Stage)}
    (ha : ∀ a s, answer = .ok (a, s) → h.stage.Requeued h.Knows s) :
    Edited h (settle (h.edit answer)).2 := by
  cases answer with
  | error e => exact edited_self h
  | ok p => exact edited_stage (ha p.1 p.2 rfl)

theorem edited_keepUnder {answer : Except Error (QueueItem × Stage)} {keep : Option String}
    (ha : ∀ item s, answer = .ok (item, s) →
      h.stage.Requeued h.Knows s ∧ item ∈ h.stage.queue) :
    Edited h (keepUnder keep (h.edit answer)).2 := by
  cases answer with
  | error e => exact edited_self h
  | ok p =>
    obtain ⟨hs, hi⟩ := ha p.1 p.2 rfl
    cases keep with
    | none => exact edited_stage hs
    | some label =>
      exact .mk hs fun e he => mem_or_of_mem_put (P := (· ∈ h.stage.queue)) hi he

theorem edited_change {f : Stage → Except Error Stage}
    (hf : ∀ s, f h.stage = .ok s → h.stage.Requeued h.Knows s) : Edited h (h.change f).2 :=
  change_cases (P := Edited h) (edited_self h) fun s hs => edited_stage (hf s hs)

/-- **An edit of the queue changes nothing else**, and it queues what the host can get at. -/
theorem edited_after [TextureLoader β] [Canvas β] (h : Host β) {a : Action β}
    (ha : editsQueue a = true) : Edited h (h.after a) := by
  cases a with
  | push ref d =>
    refine withSprite_cases (P := Edited h) (edited_self h) fun id hk => edited_edit fun n s hs => ?_
    exact requeued_of_knows hk (Stage.requeued_of_push hs)
  | swap i j => exact edited_change fun s hs => Stage.requeued_of_swap hs
  | replaceAt i ref d keep =>
    refine withSprite_cases (P := Edited h) (edited_self h) fun id hk => ?_
    refine edited_keepUnder fun item s hs => ?_
    exact (Stage.requeued_of_replaceAt hs).imp_left (requeued_of_knows hk)
  | replaceLast ref d keep =>
    refine withSprite_cases (P := Edited h) (edited_self h) fun id hk => ?_
    refine edited_keepUnder fun item s hs => ?_
    exact (Stage.requeued_of_replaceLast hs).imp_left (requeued_of_knows hk)
  | append name d =>
    exact edited_edit fun n s hs => (Stage.requeued_of_append hs).mono knows_of_registered
  | insert side name d anchor j =>
    exact edited_edit fun n s hs => (Stage.requeued_of_insert hs).mono knows_of_registered
  | move side name d anchor j => exact edited_edit fun n s hs => Stage.requeued_of_move hs
  | exchange name d other j keep =>
    refine edited_keepUnder fun item s hs => ?_
    exact (Stage.requeued_of_exchange hs).imp_left (·.mono knows_of_registered)
  | remove name d keep => exact edited_keepUnder fun item s hs => Stage.requeued_of_remove hs
  | toggle name d t => exact edited_edit fun n s hs => Stage.requeued_of_toggle hs
  | clearQueue => exact edited_stage Stage.requeued_clearQueue
  | directQueue name d line =>
    exact edited_change fun s hs => (Stage.requeued_of_directQueue hs).mono knows_of_registered
  | _ => cases ha

end Edits

/-! ### Effects -/

variable [TextureLoader β] [Canvas β]

/-- The two ways in which a stage has a texture made. -/
def Loads (load : β → Except String LoadedTexture × β) : Prop :=
  (∃ path, load = (TextureLoader.loadFile · path)) ∨
    ∃ width height color, load = (TextureLoader.createSolid · width height color)

/-- Everything an action can do to a host, apart from `clear` and `touch`. -/
inductive Effect (h : Host β) : Host β → Prop
  | nothing : Effect h h
  /-- The queue is edited, and an item that was queued may be held. -/
  | requeued {s : Stage} {items : List (String × QueueItem)}
      (hs : h.stage.Requeued h.Knows s)
      (hi : ∀ e ∈ items, e ∈ h.heldItems ∨ e.2 ∈ h.stage.queue) :
      Effect h { h with stage := s, heldItems := items }
  /-- Sprites are changed. -/
  | recast {c : Cast} (hc : h.stage.cast.Extends c) :
      Effect h { h with stage := { h.stage with cast := c } }
  /-- The host holds something else. -/
  | held {sprites : List (String × SpriteId)} {items : List (String × QueueItem)}
      (hs : ∀ e ∈ sprites, e ∈ h.heldSprites ∨ h.Knows e.2)
      (hi : ∀ e ∈ items, e ∈ h.heldItems ∨ e.2 ∈ h.stage.queue) :
      Effect h { h with heldSprites := sprites, heldItems := items }
  /-- The screen size changes, or what is known of it. -/
  | resized (screen : ScreenSize) (reader : ValueReader) (seen : ScreenSize) (reported : Bool) :
      Effect h
        { h with stage := { h.stage with screen, reader }, screen := seen, reported := reported }
  /-- The backend refused to make a texture. -/
  | refused {load : β → Except String LoadedTexture × β} {reason : String} {b : β}
      (hl : Loads load) (hb : load h.backend = (.error reason, b)) :
      Effect h { h with backend := b }
  /-- A texture is acquired for a new sprite. -/
  | made {load : β → Except String LoadedTexture × β} {name key : String} {source : Rect}
      {t : Texture} {textures : TextureCache} {b : β} {id : SpriteId} {c c' : Cast}
      (hl : Loads load)
      (ha : h.stage.textures.acquireWith h.backend key load = (.ok (t, textures), b))
      (hi : h.stage.cast.insert (.new name t source) = .ok (id, c)) (hc : c.Extends c') :
      Effect h { h with stage := { h.stage with textures, cast := c' }, backend := b }
  /-- Retired sprites are released. -/
  | released : Effect h h.releaseRetired.2
  /-- A sprite is retired, and then retired sprites are released. -/
  | deleted {name : String} {id : SpriteId} {c : Cast}
      (hr : h.stage.cast.remove name = .ok (id, c)) :
      Effect h
        (releaseRetired { h with
          stage := { h.stage with cast := c, retired := h.stage.retired ++ [id] } }).2
  /-- A frame is drawn. -/
  | drawn (calls : List DrawCall) :
      Effect h { h with backend := (Canvas.drawFrame h.backend calls).2 }
  /-- A frame is drawn, and then retired sprites are released. -/
  | drawnReleased (calls : List DrawCall) :
      Effect h (releaseRetired { h with backend := (Canvas.drawFrame h.backend calls).2 }).2

variable {h : Host β} {name key : String} {source : Rect}

theorem Edited.effect {h' : Host β} (he : Edited h h') : Effect h h' := by
  cases he with
  | mk hs hi => exact .requeued hs hi

/-! #### Making -/

/-- What registering a sprite for a texture just acquired leaves. -/
theorem effect_register {load : β → Except String LoadedTexture × β} {t : Texture}
    {textures : TextureCache} {b : β} (hl : Loads load)
    (hn : h.stage.cast.contains name = false)
    (ha : h.stage.textures.acquireWith h.backend key load = (.ok (t, textures), b)) :
    Effect h (h.absorb (Stage.register { h.stage with textures } b name t source)).2 := by
  have hi : h.stage.cast.insert (.new name t source) = .ok _ := Cast.insert_of_not_contains hn
  simp only [absorb, Stage.register, hi]
  exact .made hl ha hi (.refl _)

theorem effect_createSprite : Effect h (h.createSprite name key source).2 := by
  unfold createSprite Stage.createSprite
  split
  · exact .nothing
  · next hn =>
    split
    · next e b ha =>
      obtain ⟨-, reason, -, hb⟩ := TextureCache.acquireWith_eq_error ha
      exact .refused (.inl ⟨key, rfl⟩) hb
    · next t textures b ha => exact effect_register (.inl ⟨key, rfl⟩) (by simpa using hn) ha

theorem effect_createFromFile : Effect h (h.createFromFile key).2 := by
  unfold createFromFile Stage.createFromFile
  split
  · exact .nothing
  · next hn =>
    split
    · next e b ha =>
      obtain ⟨-, reason, -, hb⟩ := TextureCache.acquireWith_eq_error ha
      exact .refused (.inl ⟨key, rfl⟩) hb
    · next t textures b ha => exact effect_register (.inl ⟨key, rfl⟩) (by simpa using hn) ha

/-- The color is set on the sprite just made, which has a destination for it. -/
theorem effect_createFromRectangle {width height : Int32} {color : Color} :
    Effect h (h.createFromRectangle name width height color).2 := by
  unfold createFromRectangle Stage.createFromRectangle
  split
  · exact .nothing
  · next hn =>
    split
    · next e b ha =>
      obtain ⟨-, reason, -, hb⟩ := TextureCache.acquireWith_eq_error ha
      exact .refused (.inr ⟨width, height, color, rfl⟩) hb
    · next t textures b ha =>
      have hl : Loads (β := β) (TextureLoader.createSolid · width height color) :=
        .inr ⟨width, height, color, rfl⟩
      have hi : h.stage.cast.insert (.new name t .empty) = .ok _ :=
        Cast.insert_of_not_contains (show h.stage.cast.contains name = false by simpa using hn)
      simp only [absorb, Stage.register, hi]
      -- whether the color can be set or not, the sprite is registered
      split
      · exact .made hl ha hi (.refl _)
      · next sprite hs =>
        exact .made hl ha hi (Cast.extends_replace (Sprite.extends_of_modify hs))

/-! #### Deleting and drawing -/

theorem effect_deleteSprite : Effect h (h.deleteSprite name).2 := by
  unfold deleteSprite Stage.deleteSprite
  split
  · exact .nothing
  · next id c hr => exact .deleted hr

theorem effect_deleteTexture : Effect h (h.deleteTexture key).2 := by
  unfold deleteTexture
  simp only [Stage.deleteTexture]
  split
  · exact .nothing
  · split
    · exact .nothing
    · exact effect_deleteSprite

theorem effect_render : Effect h (h.render).2 := by
  unfold render Stage.render
  cases h.stage.drawCalls with
  | error e => exact .nothing
  | ok calls => exact .drawn calls

theorem effect_renderPass : Effect h h.renderPass.2 := by
  unfold renderPass Stage.renderPass Stage.render
  cases h.stage.drawCalls with
  | error e => exact .nothing
  | ok calls =>
    rcases hd : Canvas.drawFrame h.backend calls with ⟨e | u, b⟩
    · -- a frame that was refused is not followed by a release
      have hdrawn := Effect.drawn (h := h) calls
      rw [hd] at hdrawn
      simp only [hd]
      exact hdrawn
    · have hreleased := Effect.drawnReleased (h := h) calls
      rw [hd] at hreleased
      simp only [hd]
      exact hreleased

/-! ### Every action -/

/-- **The list of effects is complete.** -/
theorem effect_after (h : Host β) (a : Action β) :
    Effect h (h.after a) ∨ a = .clear ∨ ∃ f, a = .touch f := by
  cases a with
  | clear => exact .inr (.inl rfl)
  | touch f => exact .inr (.inr ⟨f, rfl⟩)
  | createSprite name key source => exact .inl effect_createSprite
  | createFromFile path => exact .inl effect_createFromFile
  | createFromRectangle name width height color => exact .inl effect_createFromRectangle
  | deleteSprite name => exact .inl effect_deleteSprite
  | deleteTexture key => exact .inl effect_deleteTexture
  | releaseRetired => exact .inl .released
  | render => exact .inl effect_render
  | renderPass => exact .inl effect_renderPass
  | direct name i line =>
    refine .inl (change_cases (P := Effect h) .nothing fun s hs => ?_)
    obtain ⟨c, hc, hs⟩ := exists_of_bind_eq_ok hs
    cases hs
    exact .recast (Cast.extends_of_direct hc)
  | directEach selection i line =>
    exact .inl (.recast (Cast.extends_directEach h.stage.cast h.stage.reader selection i line))
  | changeEach selection change =>
    exact .inl (.recast (Cast.extends_batch (fun _ _ => Sprite.Change.extends_of_apply) _ _))
  | centerInSprite name i other j =>
    refine .inl (change_cases (P := Effect h) .nothing fun s hs => ?_)
    obtain ⟨c, hc, hs⟩ := exists_of_bind_eq_ok hs
    cases hs
    exact .recast (Cast.extends_of_centerInSprite hc)
  | changeSprite ref change =>
    refine .inl (withSprite_cases (P := Effect h) .nothing fun id hk => ?_)
    split
    · next s hs => exact .recast (Cast.extends_replace (Sprite.Change.extends_of_apply hs))
    · exact .nothing
  | push | swap | replaceAt | replaceLast | append | insert | move | exchange | remove | toggle
  | clearQueue | directQueue => exact .inl (edited_after h rfl).effect
  | resize screen => exact .inl (.resized screen ⟨screen⟩ h.screen h.reported)
  | report screen => exact .inl (.resized h.stage.screen h.stage.reader screen true)
  | runSchedule =>
    by_cases hr : h.reported ∧ h.stage.screen ≠ h.screen
    · refine .inl ?_
      show Effect h h.runSchedule
      rw [runSchedule, if_pos hr]
      exact .resized h.screen ⟨h.screen⟩ h.screen false
    · refine .inl ?_
      show Effect h h.runSchedule
      rw [runSchedule, if_neg hr]
      exact .resized h.stage.screen h.stage.reader h.screen false
  | holdSprite label ref =>
    refine .inl (withSprite_cases (P := Effect h) .nothing fun id hk => ?_)
    refine .held (fun e he => ?_) fun e he => .inl he
    exact mem_or_of_mem_put (P := h.Knows) hk he
  | holdItem label i =>
    refine .inl ?_
    show Effect h (perform h (.holdItem label i)).2
    simp only [perform]
    split
    · next item hi =>
      refine .held (fun e he => .inl he) fun e he => ?_
      exact mem_or_of_mem_put (P := (· ∈ h.stage.queue)) (List.mem_of_getElem? hi) he
    · exact .nothing
  | drop label =>
    exact .inl (.held (fun e he => .inl (Keyed.mem_without.1 he).1)
      fun e he => .inl (Keyed.mem_without.1 he).1)

end SpriteStage.Host
