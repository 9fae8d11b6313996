import SpriteStage.Proofs.CachedHandles
import SpriteStage.Proofs.Failure

/-!
# What is left of a deleted texture

A texture that can be deleted is wanted by its own sprite only, and that sprite is not queued. The
deletion retires the sprite; whether the texture goes at once depends on who else refers to the
sprite, and that can only be the host.

* `Host.Gone`: nothing is left of a texture, and its key is free for a new one;
* `gone_iff_not_held`: after a deletion the texture is gone exactly when the host does not hold its
  own sprite, else it stays cached, with the reference of the retired sprite;
* a handle that was unloaded stays dead whatever is released next (`not_mem_live_of_releaseKeys`).
-/

namespace SpriteStage

/-! ### Dead handles -/

namespace Recorder

variable {r : Recorder} {c : TextureCache} {keys : List String} {key : String}
  {t u : TextureHandle}

theorem not_mem_live_unload (r : Recorder) (t : TextureHandle) : t ∉ (r.unload t).live := by
  unfold unload
  split
  · simp
  · assumption

/-- Unloading makes nothing live. -/
theorem mem_live_of_unload (h : u ∈ (r.unload t).live) : u ∈ r.live := by
  unfold unload at h
  split at h
  · exact (List.mem_filter.1 h).1
  · exact h

theorem mem_live_of_releaseKeys (h : u ∈ (Stage.releaseKeys c r keys).2.2.live) : u ∈ r.live := by
  induction keys generalizing c r with
  | nil => exact h
  | cons key rest ih =>
    cases hr : c.release r key with
    | error e =>
      simp only [Stage.releaseKeys, hr] at h
      exact ih h
    | ok p =>
      obtain ⟨unloaded, c', r'⟩ := p
      simp only [Stage.releaseKeys, hr] at h
      obtain ⟨e, -, ⟨-, -, -, rfl⟩ | ⟨-, -, -, rfl⟩⟩ := TextureCache.release_cases hr
      · exact ih h
      · exact mem_live_of_unload (ih h)

/-- The handle of a texture that a sequence of releases takes out of the cache is dead. -/
theorem not_mem_live_of_releaseKeys {texture : Texture} (hg : c.get? key = some texture)
    (hgone : (Stage.releaseKeys c r keys).2.1.get? key = none) :
    texture.handle ∉ (Stage.releaseKeys c r keys).2.2.live := by
  induction keys generalizing c r with
  | nil =>
    rw [Stage.releaseKeys, hg] at hgone
    cases hgone
  | cons other rest ih =>
    cases hr : c.release r other with
    | error e =>
      simp only [Stage.releaseKeys, hr] at hgone ⊢
      exact ih hg hgone
    | ok p =>
      obtain ⟨unloaded, c', r'⟩ := p
      simp only [Stage.releaseKeys, hr] at hgone ⊢
      obtain ⟨e, hf, ⟨-, -, rfl, -⟩ | ⟨-, -, rfl, rfl⟩⟩ := TextureCache.release_cases hr
      · -- counted down, the same texture is still there
        exact ih ((TextureCache.get?_set_refs hf _ key).trans hg) hgone
      · by_cases hk : key = other
        · -- unloaded here, and nothing that follows makes a handle live
          subst hk
          rw [TextureCache.get?_of_find? hf] at hg
          cases hg
          exact fun hl => not_mem_live_unload r _ (mem_live_of_releaseKeys hl)
        · refine ih ?_ hgone
          rw [TextureCache.get?_erase, if_neg hk]
          exact hg

end Recorder

/-! ### Deleting on a stage -/

namespace Stage

open TextureCache

variable {s : Stage} {held : List SpriteId} {key name : String} {id : SpriteId}

/-- What a deletion that succeeds has found. -/
theorem deleteTexture_eq_ok {β : Type} [TextureLoader β] {b : β}
    (h : (s.deleteTexture b held key).result = .ok ()) :
    ∃ id, s.cast.find? key = some id ∧ (s.cast.sprite id).texture.key = key ∧
      s.textures.refcount key = 1 ∧ (∀ item ∈ s.queue, item.sprite ≠ id) ∧
      s.deleteTexture b held key = s.deleteSprite b held key := by
  unfold deleteTexture at h ⊢
  by_cases hrefs : s.textures.refcount key = 0
  · simp [hrefs] at h
  · simp only [if_neg hrefs] at h ⊢
    by_cases hused : 0 < s.textures.refcount key - (s.ownSprite? key).isSome.toNat ∨
        ((s.ownSprite? key).any fun id => s.queue.any (·.sprite == id)) = true
    · rw [if_pos hused] at h
      cases h
    · obtain ⟨hothers, hqueued⟩ := not_or.1 hused
      cases hown : s.ownSprite? key with
      | none =>
        -- without an own sprite somebody else wants the texture
        rw [hown] at hothers
        exact absurd (Nat.pos_of_ne_zero hrefs) hothers
      | some id =>
        rw [hown] at hothers hqueued
        obtain ⟨hfind, hkey⟩ := Option.filter_eq_some_iff.1 hown
        refine ⟨id, hfind, by simpa using hkey, ?_, fun item hi he => ?_, ?_⟩
        · have : ¬ 0 < s.textures.refcount key - 1 := hothers
          omega
        · exact hqueued (List.any_eq_true.2 ⟨item, hi, by simpa using he⟩)
        · rw [← hown, if_neg hused]

/-- The stage on which a sprite has lost its name and is retired, before anything is released. -/
def retiring (s : Stage) (name : String) (id : SpriteId) : Stage :=
  { s with
    cast := { s.cast with entries := Keyed.without name s.cast.entries }
    retired := s.retired ++ [id] }

theorem contains_retiring (s : Stage) (name : String) (id : SpriteId) :
    (s.retiring name id).cast.contains name = false := by
  simp [retiring, Cast.contains, Cast.find?]

theorem Balanced.retiring (hb : s.Balanced) (hf : s.cast.find? name = some id) :
    (s.retiring name id).Balanced :=
  hb.retire (Cast.remove_eq_ok_iff.2 ⟨hf, rfl⟩)

/-- Deleting a registered sprite retires it and releases what nothing refers to. -/
theorem Balanced.deleteSprite_eq {β : Type} [TextureLoader β] (b : β) (hb : s.Balanced)
    (held : List SpriteId) (hf : s.cast.find? name = some id) :
    ∃ c b', s.deleteSprite b held name =
        ⟨.ok (), { s.retiring name id with
          textures := c, retired := (s.retiring name id).waiting held }, b'⟩ ∧
      releaseKeys s.textures b ((s.retiring name id).dueKeys held) = (.ok (), c, b') ∧
      Released s.textures ((s.retiring name id).dueKeys held) c := by
  have hr : s.cast.remove name = .ok (id, _) := Cast.remove_eq_ok_iff.2 ⟨hf, rfl⟩
  obtain ⟨c, b', hrelease, hkeys, hc⟩ := (hb.retiring hf).releaseRetired_eq b held
  refine ⟨c, b', ?_, hkeys, hc⟩
  unfold Stage.retiring at hrelease
  simp only [deleteSprite, hr, hrelease]
  rfl

/-- A sprite that has just lost its name and is not queued is referred to by the host only. -/
theorem isReferenced_retiring (hb : s.Balanced) (hf : s.cast.find? name = some id)
    (hq : ∀ item ∈ s.queue, item.sprite ≠ id) :
    (s.retiring name id).isReferenced held id = held.contains id := by
  have hqueue : s.queue.any (·.sprite == id) = false :=
    List.any_eq_false.2 fun item hi => by simpa using hq item hi
  have hregister : (s.retiring name id).cast.entries.any (·.2 == id) = false := by
    refine List.any_eq_false.2 fun e he => ?_
    -- the register had the sprite once
    have hperm := Cast.registered_perm_of_remove hb.names (Cast.remove_eq_ok_iff.2 ⟨hf, rfl⟩)
    have hnodup := hperm.nodup_iff.1 (List.nodup_append.1 hb.nodup).1
    simpa using fun hid : e.2 = id =>
      (List.nodup_cons.1 hnodup).1 (List.mem_map.2 ⟨e, he, hid⟩)
  unfold isReferenced
  rw [hregister, Bool.or_false]
  show (s.queue.any (·.sprite == id) || held.contains id) = _
  rw [hqueue, Bool.false_or]

/-! #### The texture of the sprite that was deleted -/

section Own

variable {textures : TextureCache} (hb : s.Balanced) (hf : s.cast.find? key = some id)
  (hkey : (s.cast.sprite id).texture.key = key) (hone : s.textures.refcount key = 1)
  (hq : ∀ item ∈ s.queue, item.sprite ≠ id)
  (hc : Released s.textures ((s.retiring key id).dueKeys held) textures)
include hb hf hkey hone hq hc

/-- Nobody refers to the sprite, so its reference goes, and it was the only one. -/
theorem find?_eq_none_of_not_held (hid : id ∉ held) : textures.find? key = none := by
  have hdue : id ∈ (s.retiring key id).due held := by
    refine List.mem_filter.2 ⟨List.mem_append_right _ List.mem_cons_self, ?_⟩
    rw [isReferenced_retiring hb hf hq]
    simpa using hid
  have hpos : 1 ≤ ((s.retiring key id).dueKeys held).count key :=
    List.one_le_count_iff.2 (List.mem_map.2 ⟨id, hdue, hkey⟩)
  have hcount := hc.refcount key
  refine hc.valid.find?_eq_none ?_
  omega

/-- The sprite waits, and still counts for its texture. -/
theorem get?_eq_of_held (hid : id ∈ held) :
    textures.get? key = s.textures.get? key ∧ textures.refcount key = 1 := by
  have hwaiting : id ∈ (s.retiring key id).waiting held := by
    refine List.mem_filter.2 ⟨List.mem_append_right _ List.mem_cons_self, ?_⟩
    rw [isReferenced_retiring hb hf hq]
    simpa using hid
  have huses : 1 ≤ textures.refcount key := by
    rw [((hb.retiring hf).release held hc).refcount key]
    exact one_le_uses (List.mem_append_right _ hwaiting) hkey
  have hcount := hc.refcount key
  exact ⟨hc.kept huses, by omega⟩

end Own

/-- A deletion leaves the texture to its retired sprite as long as that is held, and nothing of it
otherwise. -/
theorem Balanced.deleteTexture_leaves {b : Recorder} (hb : s.Balanced)
    (hok : (s.deleteTexture b held key).result = .ok ()) :
    let o := s.deleteTexture b held key
    ∃ id texture, s.cast.find? key = some id ∧ s.textures.get? key = some texture ∧
      o.stage.cast.contains key = false ∧
      (id ∉ held → o.stage.textures.find? key = none ∧ texture.handle ∉ o.backend.live) ∧
      (id ∈ held → o.stage.textures.get? key = some texture ∧
        o.stage.textures.refcount key = 1) := by
  intro o
  obtain ⟨id, hf, hkey, hone, hq, hdelete⟩ := deleteTexture_eq_ok hok
  obtain ⟨c, b', hsprite, hkeys, hc⟩ := hb.deleteSprite_eq b held hf
  have hget : s.textures.get? key = some (s.cast.sprite id).texture :=
    hkey ▸ hb.cached id (List.mem_append_left _ (Cast.mem_registered_of_find? hf))
  rw [show o = _ from hdelete.trans hsprite]
  refine ⟨id, _, hf, hget, contains_retiring s key id, fun hid => ?_, fun hid => ?_⟩
  · have hnone := find?_eq_none_of_not_held hb hf hkey hone hq hc hid
    have hdead := Recorder.not_mem_live_of_releaseKeys (r := b) hget
      (by rw [hkeys, get?, hnone]; rfl)
    rw [hkeys] at hdead
    exact ⟨hnone, hdead⟩
  · exact hget ▸ get?_eq_of_held hb hf hkey hone hq hc hid

end Stage

/-! ### Deleting on a host -/

namespace Host

variable {h : Host Recorder} {key : String}

/-- Nothing is left of the texture of a key, and the key is free: whoever asks for a solid texture
under it gets a new one from the backend, in the size asked for. -/
structure Gone (h : Host Recorder) (key : String) (texture : Texture) : Prop where
  uncached : h.stage.textures.contains key = false
  unwanted : h.stage.textures.refcount key = 0
  dead : texture.handle ∉ h.backend.live
  unregistered : h.stage.cast.contains key = false
  renewed : ∀ (width height : Int32) (color : Color), 0 < width → 0 < height →
    (h.createFromRectangle key width height color).1 =
        .ok ⟨key, (h.backend.issue width height).1.handle, width, height⟩ ∧
      (h.createFromRectangle key width height color).2.backend =
        (h.backend.issue width height).2

theorem createFromRectangle_of_free {width height : Int32} (color : Color)
    (hn : h.stage.cast.contains key = false) (hf : h.stage.textures.find? key = none)
    (hw : 0 < width) (hh : 0 < height) :
    (h.createFromRectangle key width height color).1 =
        .ok ⟨key, (h.backend.issue width height).1.handle, width, height⟩ ∧
      (h.createFromRectangle key width height color).2.backend =
        (h.backend.issue width height).2 := by
  have hsize : ¬ (width ≤ 0 ∨ height ≤ 0) := by
    rw [not_or, Int32.not_le, Int32.not_le]
    exact ⟨hw, hh⟩
  have hload : TextureLoader.createSolid h.backend width height color =
      (.ok (h.backend.issue width height).1, (h.backend.issue width height).2) := by
    show h.backend.answer (h.backend.createSolid width height) = _
    rw [Recorder.createSolid, if_neg hsize]
    rfl
  obtain ⟨textures, ha⟩ : ∃ textures,
      h.stage.textures.acquireSolid h.backend key width height color =
        (.ok (⟨key, (h.backend.issue width height).1.handle, width, height⟩, textures),
          (h.backend.issue width height).2) :=
    ⟨_, by simp only [TextureCache.acquireSolid, TextureCache.acquireWith, hf, hload]; rfl⟩
  obtain ⟨c, hc⟩ := Stage.createFromRectangle_of_acquired hn ha
  unfold createFromRectangle
  rw [hc]
  exact ⟨rfl, rfl⟩

/-- **A deleted texture is gone unless its own sprite is held.** After every run, if deleting the
texture of a key succeeds, the name is free; and the texture is gone if and only if the host holds
no reference to the sprite that had the name, under a label or in an item. If it does, the texture
stays cached, with the reference of the sprite. -/
theorem gone_iff_not_held (name : String) (screen : ScreenSize) (b : Recorder)
    (actions : List (Action Recorder)) (key : String)
    (hok : (((Host.new name screen b).run actions).deleteTexture key).1 = .ok ()) :
    let h := (Host.new name screen b).run actions
    let h' := (h.deleteTexture key).2
    ∃ id texture, h.stage.cast.find? key = some id ∧ h.stage.textures.get? key = some texture ∧
      h'.stage.cast.contains key = false ∧
      (h'.Gone key texture ↔ id ∉ h.held) ∧
      (id ∈ h.held → h'.stage.textures.get? key = some texture ∧
        h'.stage.textures.refcount key = 1) := by
  intro h h'
  have hb : h.stage.Balanced := balanced_run name screen b actions
  obtain ⟨id, texture, hfind, hget, hname, hfree, hheld⟩ := hb.deleteTexture_leaves hok
  refine ⟨id, texture, hfind, hget, hname, ⟨fun hgone hid => ?_, fun hid => ?_⟩, hheld⟩
  · have hone : h'.stage.textures.refcount key = 1 := (hheld hid).2
    rw [hgone.unwanted] at hone
    cases hone
  · have hnone : h'.stage.textures.find? key = none := (hfree hid).1
    exact ⟨by rw [TextureCache.contains, hnone]; rfl,
      TextureCache.refcount_of_find?_eq_none hnone, (hfree hid).2, hname,
      fun width height color hw hh => createFromRectangle_of_free color hname hnone hw hh⟩

/-- A label that was dropped before the deletion does not matter. -/
theorem gone_of_dropped :
    let h := (Host.new "" ⟨200, 100⟩ Recorder.new).run
      [.createFromRectangle "a" 10 10 .black, .append "a" 0, .holdSprite "kept" (.registered "a"),
        .holdItem "kept" 0, .clearQueue, .drop "kept"]
    (h.deleteTexture "a").1 = .ok () ∧
      ∃ texture, h.stage.textures.get? "a" = some texture ∧
        (h.deleteTexture "a").2.Gone "a" texture := by
  intro h
  have hok : (h.deleteTexture "a").1 = .ok () := rfl
  obtain ⟨id, texture, -, hget, -, hgone, -⟩ :=
    gone_iff_not_held "" ⟨200, 100⟩ Recorder.new _ "a" hok
  have hheld : h.held = [] := rfl
  exact ⟨hok, texture, hget, hgone.2 (by rw [hheld]; exact List.not_mem_nil)⟩

/-- The deletion succeeds while the host holds the sprite: the texture is still cached and live, and
asking for a new one under the key gives the old one in its old size. -/
theorem held_texture_survives :
    let h := (Host.new "" ⟨200, 100⟩ Recorder.new).run
      [.createFromRectangle "a" 10 10 .black, .holdSprite "kept" (.registered "a")]
    let h' := (h.deleteTexture "a").2
    (h.deleteTexture "a").1 = .ok () ∧
      h'.stage.textures.contains "a" = true ∧
      h'.stage.textures.refcount "a" = 1 ∧
      ⟨1⟩ ∈ h'.backend.live ∧
      (h'.createFromRectangle "a" 4 4 .black).1 = .ok ⟨"a", ⟨1⟩, 10, 10⟩ :=
  ⟨rfl, rfl, rfl, by decide, rfl⟩

end Host

end SpriteStage
