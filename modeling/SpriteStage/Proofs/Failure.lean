import SpriteStage.Proofs.Accounting
import SpriteStage.Proofs.CachedHandles

/-!
# A failing action changes nothing

* `Host.Spared h answer`: if the answer is an error, what it leaves is `h`;
* what checks before it writes spares the host whatever it is (`spared_change`, `spared_edit`);
* making a sprite can fail only while its texture is acquired, and a recording backend that refuses
  stays as it was;
* deleting writes the register, the retired sprites and the cache one after the other, and in a
  balanced stage nothing fails once the first of them is written;
* `failure_changes_nothing`: only batches and drawing may change something and fail.
-/

namespace SpriteStage

/-- The actions that may fail half way: a batch stops at a sprite and keeps the changes it has made,
a frame is completed without the calls from the refused one on. -/
def Action.StopsHalfWay {β : Type} : Action β → Prop
  | .directEach .. | .changeEach .. | .render | .renderPass => True
  | _ => False

/-! ### Acquiring and deleting -/

namespace Stage

variable {β : Type} {s : Stage} {b : β}

variable [TextureLoader β] {held : List SpriteId} {e : Error}

/-- Once its texture is acquired, a sprite of a free name is made. -/
theorem createSprite_of_acquired {name key : String} {t : Texture} {textures : TextureCache}
    {b' : β} (source : Rect) (hn : s.cast.contains name = false)
    (ha : s.textures.acquire b key = (.ok (t, textures), b')) :
    ∃ id c, s.createSprite b name key source = ⟨.ok id, { s with textures, cast := c }, b'⟩ := by
  have hi : s.cast.insert (.new name t source) = .ok _ := Cast.insert_of_not_contains hn
  exact ⟨_, _, by simp only [createSprite, hn, ha, register, hi]; rfl⟩

theorem createFromFile_of_acquired {path : String} {t : Texture} {textures : TextureCache} {b' : β}
    (hn : s.cast.contains path = false)
    (ha : s.textures.acquire b path = (.ok (t, textures), b')) :
    ∃ c, s.createFromFile b path = ⟨.ok t, { s with textures, cast := c }, b'⟩ := by
  have hi : s.cast.insert (.new path t .empty) = .ok _ := Cast.insert_of_not_contains hn
  exact ⟨_, by simp only [createFromFile, hn, ha, register, hi]; rfl⟩

/-- The sprite just made has the destination whose color is set. -/
theorem createFromRectangle_of_acquired {name : String} {width height : Int32} {color : Color}
    {t : Texture} {textures : TextureCache} {b' : β} (hn : s.cast.contains name = false)
    (ha : s.textures.acquireSolid b name width height color = (.ok (t, textures), b')) :
    ∃ c, s.createFromRectangle b name width height color =
      ⟨.ok t, { s with textures, cast := c }, b'⟩ := by
  obtain ⟨id, c, hi⟩ : ∃ id c, s.cast.insert (.new name t .empty) = .ok (id, c) :=
    ⟨_, _, Cast.insert_of_not_contains hn⟩
  obtain ⟨sprite, hcolor⟩ : ∃ sprite, (c.sprite id).setColor 0 color = .ok sprite := by
    rw [(Cast.inserted_of_insert hi).sprite]
    exact ⟨_, Sprite.modify_of_lt Nat.one_pos _⟩
  exact ⟨_, by simp only [createFromRectangle, hn, ha, register, hi, hcolor]; rfl⟩

/-- A deletion that fails has not taken the name off the register. -/
theorem Balanced.deleteSprite_of_error {name : String} (h : s.Balanced)
    (he : (s.deleteSprite b held name).result = .error e) :
    s.deleteSprite b held name = ⟨.error e, s, b⟩ := by
  cases hr : s.cast.remove name with
  | error e' =>
    simp only [deleteSprite, hr] at he ⊢
    rw [he]
  | ok p =>
    -- the sprite is retired by now, and releasing it does not fail
    obtain ⟨c, b', hrel, -⟩ := (h.retire hr).releaseRetired_eq b held
    simp only [deleteSprite, hr, hrel] at he
    cases he

theorem Balanced.deleteTexture_of_error {key : String} (h : s.Balanced)
    (he : (s.deleteTexture b held key).result = .error e) :
    s.deleteTexture b held key = ⟨.error e, s, b⟩ := by
  simp only [deleteTexture] at he ⊢
  split at he
  · next hrefs => rw [if_pos hrefs, ← he]
  · next hrefs =>
    rw [if_neg hrefs]
    split at he
    · next hused => rw [if_pos hused, ← he]
    · next hused =>
      rw [if_neg hused]
      exact h.deleteSprite_of_error he

end Stage

/-! ### Answers that spare the host -/

namespace Host

variable {α β : Type} {h h' : Host β} {ref : Reference}

/-- If the answer is an error, what it leaves is `h`. -/
def Spared (h : Host β) (answer : Except Error α × Host β) : Prop :=
  ∀ e, answer.1 = .error e → answer.2 = h

theorem spared_ok (a : α) (h' : Host β) : h.Spared (.ok a, h') := by
  intro e he
  cases he

theorem spared_self (result : Except Error α) : h.Spared (result, h) := fun _ _ => rfl

theorem Spared.settle {answer : Except Error α × Host β} (ha : h.Spared answer) :
    h.Spared (settle answer) := by
  obtain ⟨result, h'⟩ := answer
  cases result with
  | ok a => exact spared_ok () h'
  | error e => exact fun _ _ => ha e rfl

theorem spared_absorb {o : Outcome β α}
    (ho : ∀ e, o.result = .error e → o.stage = h.stage ∧ o.backend = h.backend) :
    h.Spared (h.absorb o) := by
  intro e he
  obtain ⟨hs, hb⟩ := ho e he
  show ({ h with stage := o.stage, backend := o.backend } : Host β) = h
  rw [hs, hb]

theorem spared_change (f : Stage → Except Error Stage) : h.Spared (h.change f) := by
  unfold change
  split
  · exact spared_ok () _
  · exact spared_self _

theorem spared_edit (result : Except Error (α × Stage)) : h.Spared (h.edit result) := by
  cases result with
  | ok p => exact spared_ok p.1 _
  | error e => exact spared_self _

theorem spared_keepUnder (keep : Option String) (result : Except Error (QueueItem × Stage)) :
    h.Spared (keepUnder keep (h.edit result)) := by
  cases result with
  | error e => exact spared_self _
  | ok p =>
    cases keep with
    | none => exact spared_ok () _
    | some label => exact spared_ok () _

theorem spared_withSprite {next : SpriteId → Except Error Unit × Host β}
    (hn : ∀ id, h.Spared (next id)) : h.Spared (h.withSprite ref next) := by
  unfold withSprite
  split
  · next id _ => exact hn id
  · exact spared_self _

/-! ### Making and deleting -/

section Recorder

variable {h : Host Recorder} {name key : String}

theorem spared_createSprite (source : Rect) : h.Spared (h.createSprite name key source) := by
  refine spared_absorb fun e he => ?_
  cases hn : h.stage.cast.contains name with
  | true => simp [Stage.createSprite, hn]
  | false =>
    rcases ha : h.stage.textures.acquire h.backend key with ⟨e' | ⟨t, textures⟩, b⟩
    · have hb := Recorder.eq_of_acquireWith_eq_error (Recorder.issues_loadFile key) ha
      simp [Stage.createSprite, hn, ha, hb]
    · obtain ⟨id, c, hc⟩ := Stage.createSprite_of_acquired source hn ha
      rw [hc] at he
      cases he

theorem spared_createFromFile : h.Spared (h.createFromFile key) := by
  refine spared_absorb fun e he => ?_
  cases hn : h.stage.cast.contains key with
  | true => simp [Stage.createFromFile, hn]
  | false =>
    rcases ha : h.stage.textures.acquire h.backend key with ⟨e' | ⟨t, textures⟩, b⟩
    · have hb := Recorder.eq_of_acquireWith_eq_error (Recorder.issues_loadFile key) ha
      simp [Stage.createFromFile, hn, ha, hb]
    · obtain ⟨c, hc⟩ := Stage.createFromFile_of_acquired hn ha
      rw [hc] at he
      cases he

theorem spared_createFromRectangle {width height : Int32} {color : Color} :
    h.Spared (h.createFromRectangle name width height color) := by
  refine spared_absorb fun e he => ?_
  cases hn : h.stage.cast.contains name with
  | true => simp [Stage.createFromRectangle, hn]
  | false =>
    rcases ha : h.stage.textures.acquireSolid h.backend name width height color with
      ⟨e' | ⟨t, textures⟩, b⟩
    · have hb := Recorder.eq_of_acquireWith_eq_error
        (Recorder.issues_createSolid width height color) ha
      simp [Stage.createFromRectangle, hn, ha, hb]
    · obtain ⟨c, hc⟩ := Stage.createFromRectangle_of_acquired hn ha
      rw [hc] at he
      cases he

theorem spared_deleteSprite (hb : h.stage.Balanced) : h.Spared (h.deleteSprite name) := by
  refine spared_absorb fun e he => ?_
  rw [hb.deleteSprite_of_error he]
  exact ⟨rfl, rfl⟩

theorem spared_deleteTexture (hb : h.stage.Balanced) : h.Spared (h.deleteTexture key) := by
  refine spared_absorb fun e he => ?_
  rw [hb.deleteTexture_of_error he]
  exact ⟨rfl, rfl⟩

/-- Releasing does not fail at all. -/
theorem spared_releaseRetired (hb : h.stage.Balanced) : h.Spared h.releaseRetired := by
  refine spared_absorb fun e he => ?_
  obtain ⟨c, b', hr, -⟩ := hb.releaseRetired_eq h.backend h.held
  rw [hr] at he
  cases he

/-! ### Every action -/

theorem spared_perform (hb : h.stage.Balanced) {a : Action Recorder} (ha : ¬ a.StopsHalfWay) :
    h.Spared (h.perform a) := by
  cases a with
  | directEach | changeEach | render | renderPass => exact absurd trivial ha
  | createSprite name key source => exact (spared_createSprite source).settle
  | createFromFile path => exact spared_createFromFile.settle
  | createFromRectangle name width height color => exact spared_createFromRectangle.settle
  | deleteSprite name => exact spared_deleteSprite hb
  | deleteTexture key => exact spared_deleteTexture hb
  | releaseRetired => exact (spared_releaseRetired hb).settle
  | direct | centerInSprite | swap | directQueue => exact spared_change _
  | append | insert | move | toggle => exact (spared_edit _).settle
  | push => exact spared_withSprite fun id => (spared_edit _).settle
  | replaceAt | replaceLast => exact spared_withSprite fun id => spared_keepUnder _ _
  | exchange | remove => exact spared_keepUnder _ _
  | changeSprite ref change =>
    refine spared_withSprite fun id => ?_
    split
    · exact spared_ok () _
    · exact spared_self _
  | holdSprite => exact spared_withSprite fun id => spared_ok () _
  | holdItem label i =>
    simp only [perform]
    split
    · exact spared_ok () _
    · exact spared_ok () _
  | _ => exact spared_ok () _

/-- **A failing action changes nothing.** After every run, whatever else used the backend, an action
that is neither a batch nor a drawing and ends with an error leaves the whole host as it was: the
register and all sprites, the cache with its counts, the queue, the retired sprites, the screen size
and the reader's copy of it, and the backend with its handles and counters. -/
theorem failure_changes_nothing (name : String) (screen : ScreenSize) (b : Recorder)
    (actions : List (Action Recorder)) (a : Action Recorder) (e : Error)
    (ha : ¬ a.StopsHalfWay)
    (he : (((Host.new name screen b).run actions).perform a).1 = .error e) :
    (((Host.new name screen b).run actions).perform a).2 =
      (Host.new name screen b).run actions :=
  spared_perform (balanced_run name screen b actions) ha e he

/-- A sprite was deleted while it is queued, so its texture is still wanted. -/
theorem deleteTexture_of_queued_changes_nothing :
    let h := (Host.new "" ⟨320, 200⟩ Recorder.new).run
      [.createFromRectangle "box" 4 4 .black, .append "box" 0, .deleteSprite "box"]
    (h.perform (.deleteTexture "box")).1 = .error (.textureInUse "box" 1) ∧
      (h.perform (.deleteTexture "box")).2 = h := by
  intro h
  have he : (h.perform (.deleteTexture "box")).1 = .error (.textureInUse "box" 1) := by rfl
  exact ⟨he, failure_changes_nothing "" ⟨320, 200⟩ Recorder.new _ _ _ id he⟩

end Recorder

end Host

end SpriteStage
