import SpriteStage.Proofs.Accounting

/-!
# What a release lets go

A release of the retired sprites lets go of those that nothing refers to any more, and of nothing
else.

* `TextureCache.Unloads`: the textures that went out of a cache, each once; whatever the keys, a
  sequence of releases unloads just these (`unloads_releaseKeys`);
* `Host.Unused`: no queued item and no reference of the host leads to a sprite; a retired sprite is
  not registered, so it is released exactly if it is unused (`isReferenced_eq_false_iff`);
* what waits is still referred to afterwards, so a second release finds nothing
  (`releaseRetired_releaseRetired`);
* `releases_unused`: all of that, after every run.
-/

namespace SpriteStage

/-! ### Textures that go out of a cache -/

namespace TextureCache

variable {c c' : TextureCache} {gone : List Texture} {key : String}

/-- The textures `gone` went out of the cache, each of them once, and none came in. -/
structure Unloads (c c' : TextureCache) (gone : List Texture) : Prop where
  nodup : gone.Nodup
  mem_iff : ∀ t, t ∈ gone ↔ c.get? t.key = some t ∧ c'.get? t.key = none
  kept : ∀ {k t}, c'.get? k = some t → c.get? k = some t

theorem unloads_refl (c : TextureCache) : c.Unloads c [] where
  nodup := List.nodup_nil
  mem_iff t := by
    refine ⟨fun hm => absurd hm List.not_mem_nil, fun ⟨hget, hnone⟩ => ?_⟩
    rw [hget] at hnone
    cases hnone
  kept h := h

/-- Another count for a texture unloads nothing. -/
theorem Unloads.of_get? {d : TextureCache} (h : c.Unloads c' gone)
    (hd : ∀ k, c.get? k = d.get? k) : d.Unloads c' gone where
  nodup := h.nodup
  mem_iff t := by rw [h.mem_iff, hd]
  kept hk := hd _ ▸ h.kept hk

/-- What goes with a key goes first. -/
theorem Unloads.cons {e : CacheEntry} (h : (c.erase key).Unloads c' gone) (hc : c.Valid)
    (hf : c.find? key = some e) : c.Unloads c' (e.texture :: gone) where
  nodup := by
    refine List.nodup_cons.2 ⟨fun hm => ?_, h.nodup⟩
    have hget := ((h.mem_iff _).1 hm).1
    rw [hc.keyed hf, get?_erase, if_pos rfl] at hget
    cases hget
  mem_iff t := by
    have hkey : c'.get? key = none := by
      cases hget : c'.get? key with
      | none => rfl
      | some t' =>
        have := h.kept hget
        rw [get?_erase, if_pos rfl] at this
        cases this
    rw [List.mem_cons, h.mem_iff, get?_erase]
    by_cases ht : t.key = key
    · rw [if_pos ht, ht, hkey, get?_of_find? hf]
      simp [eq_comm]
    · have hne : t ≠ e.texture := fun he => ht (he ▸ hc.keyed hf)
      simp [if_neg ht, hne]
  kept {k t} hk := by
    have := h.kept hk
    rw [get?_erase] at this
    split at this
    · cases this
    · exact this

end TextureCache

namespace Stage

open TextureCache

variable {β : Type} [TextureLoader β]

/-- **A sequence of releases unloads the textures that go out of the cache, each once.** -/
theorem unloads_releaseKeys {c : TextureCache} (hc : c.Valid) (b : β) (keys : List String) :
    ∃ gone, c.Unloads (releaseKeys c b keys).2.1 gone ∧
      (releaseKeys c b keys).2.2 = (gone.map (·.handle)).foldl TextureLoader.unload b := by
  induction keys generalizing c b with
  | nil => exact ⟨[], unloads_refl c, rfl⟩
  | cons key rest ih =>
    cases hr : c.release b key with
    | error e =>
      simp only [releaseKeys, hr]
      exact ih hc b
    | ok p =>
      obtain ⟨unloaded, c₁, b₁⟩ := p
      simp only [releaseKeys, hr]
      obtain ⟨gone, hgone, hback⟩ := ih (hc.of_release hr) b₁
      obtain ⟨e, hf, ⟨-, -, rfl, rfl⟩ | ⟨-, -, rfl, rfl⟩⟩ := release_cases hr
      · exact ⟨gone, hgone.of_get? (get?_set_refs hf _), hback⟩
      · exact ⟨e.texture :: gone, hgone.cons hc hf, hback⟩

/-- Where every retired sprite is referred to, a release leaves all as it is. -/
theorem releaseRetired_of_due_eq_nil {s : Stage} {held : List SpriteId} (b : β)
    (hd : s.due held = []) : s.releaseRetired b held = ⟨.ok 0, s, b⟩ := by
  have hw : s.waiting held = s.retired := by
    refine List.filter_eq_self.2 fun id hid => ?_
    simpa using List.filter_eq_nil_iff.1 hd id hid
  rw [releaseRetired_eq_releaseKeys, dueKeys, hd, hw]
  rfl

/-- Where no sprite is retired, what is cached are the textures of the registered ones. -/
theorem Balanced.contains_iff_of_retired_eq_nil {s : Stage} (hb : s.Balanced)
    (hr : s.retired = []) {key : String} : s.textures.contains key = true ↔
      ∃ id ∈ s.cast.registered, (s.cast.sprite id).texture.key = key := by
  rw [hb.textures.contains_iff, hb.refcount, owners, hr, List.append_nil, uses,
    Nat.one_le_iff_ne_zero, ← Nat.pos_iff_ne_zero, List.countP_pos_iff]
  simp

/-- What waits is referred to. -/
theorem due_waiting_eq_nil (s : Stage) (held : List SpriteId) :
    (s.waiting held).filter (fun id => !s.isReferenced held id) = [] := by
  refine List.filter_eq_nil_iff.2 fun id hid => ?_
  simpa using (List.mem_filter.1 hid).2

end Stage

/-! ### Retired sprites that are unused -/

namespace Host

open Stage TextureCache

variable {β : Type} {h : Host β} {id : SpriteId}

/-- No queued item draws a sprite, and the host holds neither it nor an item that draws it. -/
def Unused (h : Host β) (id : SpriteId) : Prop :=
  (∀ item ∈ h.stage.queue, item.sprite ≠ id) ∧ (∀ e ∈ h.heldSprites, e.2 ≠ id) ∧
    ∀ e ∈ h.heldItems, e.2.sprite ≠ id

instance (h : Host β) (id : SpriteId) : Decidable (h.Unused id) := by
  unfold Unused
  infer_instance

theorem not_mem_held_iff :
    id ∉ h.held ↔ (∀ e ∈ h.heldSprites, e.2 ≠ id) ∧ ∀ e ∈ h.heldItems, e.2.sprite ≠ id := by
  rw [mem_held_iff, not_or]
  simp only [not_exists, not_and]

theorem unused_of_nil (hq : h.stage.queue = []) (hh : h.held = []) (id : SpriteId) :
    h.Unused id := by
  refine ⟨fun item hi => ?_, not_mem_held_iff.1 (hh ▸ List.not_mem_nil)⟩
  rw [hq] at hi
  exact absurd hi List.not_mem_nil

/-- A retired sprite has lost its name, so only items and the host can refer to it. -/
theorem isReferenced_eq_false_iff (hb : h.stage.Balanced) (hid : id ∈ h.stage.retired) :
    h.stage.isReferenced h.held id = false ↔ h.Unused id := by
  have hregister : h.stage.cast.entries.any (·.2 == id) = false := by
    refine List.any_eq_false.2 fun e he => ?_
    -- no sprite is an owner twice
    have hne := (List.nodup_append.1 hb.nodup).2.2 e.2 (List.mem_map.2 ⟨e, he, rfl⟩) id hid
    simpa using hne
  unfold isReferenced Unused
  rw [hregister, Bool.or_false, Bool.or_eq_false_iff, ← not_mem_held_iff]
  simp

theorem due_eq (hb : h.stage.Balanced) :
    h.stage.due h.held = h.stage.retired.filter (h.Unused ·) := by
  refine List.filter_congr fun id hid => ?_
  rw [Bool.eq_iff_iff]
  simpa using isReferenced_eq_false_iff hb hid

theorem waiting_eq (hb : h.stage.Balanced) :
    h.stage.waiting h.held = h.stage.retired.filter (¬ h.Unused ·) := by
  refine List.filter_congr fun id hid => ?_
  rw [Bool.eq_iff_iff, decide_eq_true_eq, ← isReferenced_eq_false_iff hb hid]
  simp

variable [TextureLoader β]

/-- What a release on a host leaves: other textures, fewer retired sprites, and the backend after
the calls that unload what went out of the cache. -/
theorem releaseRetired_eq (hb : h.stage.Balanced) :
    ∃ textures gone,
      h.releaseRetired = (.ok (h.stage.due h.held).length,
        { h with
          stage := { h.stage with textures, retired := h.stage.waiting h.held }
          backend := (gone.map Texture.handle).foldl TextureLoader.unload h.backend }) ∧
      Released h.stage.textures (h.stage.dueKeys h.held) textures ∧
      h.stage.textures.Unloads textures gone := by
  obtain ⟨textures, b, hr, hkeys, hc⟩ := hb.releaseRetired_eq h.backend h.held
  obtain ⟨gone, hgone, hback⟩ := unloads_releaseKeys hb.textures h.backend (h.stage.dueKeys h.held)
  rw [hkeys] at hgone hback
  refine ⟨textures, gone, ?_, hc, hgone⟩
  rw [releaseRetired, hr, absorb, ← hback]

/-- **A second release finds nothing to do.** -/
theorem releaseRetired_releaseRetired (hb : h.stage.Balanced) :
    h.releaseRetired.2.releaseRetired = (.ok 0, h.releaseRetired.2) := by
  obtain ⟨textures, gone, hr, -, -⟩ := releaseRetired_eq hb
  rw [hr, releaseRetired, releaseRetired_of_due_eq_nil]
  · rfl
  · exact due_waiting_eq_nil h.stage h.held

/-- **A release lets go of the unused sprites and of nothing else.** After every run it answers how
many retired sprites are unused; the others stay retired, in their order. Every key is wanted less
by the number of released sprites that have its texture, and the backend is called to unload those
textures that nobody wants any more, each once, and for nothing else. The register, the queue and
all else stay, and a second release does nothing. With an empty queue and nothing held, no sprite
stays retired, and what is cached are the textures of the registered sprites. -/
theorem releases_unused [Canvas β] (name : String) (screen : ScreenSize) (b : β)
    (actions : List (Action β)) :
    let h := (Host.new name screen b).run actions
    let s := h.stage
    let unused := s.retired.filter (h.Unused ·)
    let h' := h.releaseRetired.2
    let s' := h'.stage
    h.releaseRetired.1 = .ok unused.length ∧
    s'.retired = s.retired.filter (¬ h.Unused ·) ∧
    (∀ key, s'.textures.refcount key +
      unused.countP (fun id => (s.cast.sprite id).texture.key == key) = s.textures.refcount key) ∧
    (∀ key, s'.textures.get? key =
      if s'.textures.refcount key = 0 then none else s.textures.get? key) ∧
    (∃ gone : List Texture, gone.Nodup ∧
      (∀ t, t ∈ gone ↔ s.textures.get? t.key = some t ∧ s'.textures.refcount t.key = 0) ∧
      h'.backend = (gone.map (·.handle)).foldl TextureLoader.unload h.backend) ∧
    h' = { h with
      stage := { s with textures := s'.textures, retired := s'.retired }
      backend := h'.backend } ∧
    h'.releaseRetired = (.ok 0, h') ∧
    (s.queue = [] → h.held = [] → s'.retired = [] ∧
      ∀ key, s'.textures.contains key = true ↔
        ∃ id ∈ s'.cast.registered, (s'.cast.sprite id).texture.key = key) := by
  intro h s unused h' s'
  have hb : s.Balanced := balanced_run name screen b actions
  obtain ⟨textures, gone, hr, hc, hgone⟩ := releaseRetired_eq hb
  have hh' : h' = _ := congrArg Prod.snd hr
  have htextures : s'.textures = textures := congrArg (·.stage.textures) hh'
  have hretired : s'.retired = s.waiting h.held := congrArg (·.stage.retired) hh'
  have hbackend : h'.backend = _ := congrArg (·.backend) hh'
  refine ⟨?_, hretired.trans (waiting_eq hb), fun key => ?_, fun key => ?_,
    ⟨gone, hgone.nodup, fun t => ?_, hbackend⟩, ?_, releaseRetired_releaseRetired hb,
    fun hqueue hheld => ?_⟩
  · rw [hr, due_eq hb]
  · rw [htextures, ← hc.refcount key, count_dueKeys, due_eq hb]
    rfl
  · rw [htextures]
    split
    · next hzero => exact hc.valid.get?_eq_none_iff.2 hzero
    · next hpos => exact hc.kept (Nat.one_le_iff_ne_zero.2 hpos)
  · rw [hgone.mem_iff, htextures, hc.valid.get?_eq_none_iff]
  · rw [htextures, hretired, hbackend]
    exact hh'
  · have hnone : s'.retired = [] := by
      rw [hretired, waiting_eq hb, List.filter_eq_nil_iff]
      intro id _
      simpa using unused_of_nil hqueue hheld id
    have hb' : s'.Balanced := hb.releaseRetired h.backend h.held
    exact ⟨hnone, fun key => hb'.contains_iff_of_retired_eq_nil hnone⟩

/-- Two deleted sprites share a texture with a registered one, and are queued until the end. -/
def shared : List (Action Recorder) :=
  [.touch (·.addFile "t.png" 8 8), .touch (·.addFile "u.png" 8 8),
    .createSprite "a" "t.png" .empty, .createSprite "b" "t.png" .empty,
    .createSprite "c" "t.png" .empty, .createSprite "d" "u.png" .empty,
    .append "a" 0, .append "b" 0, .append "d" 0,
    .deleteSprite "a", .deleteSprite "b", .deleteSprite "d", .clearQueue]

theorem releases_shared :
    let h := (Host.new "" ⟨320, 200⟩ Recorder.new).run shared
    let s' := h.releaseRetired.2.stage
    h.stage.queue = [] ∧ h.held = [] ∧
      h.releaseRetired.1 = .ok 3 ∧ s'.retired = [] ∧
      s'.textures.contains "t.png" = true ∧ s'.textures.contains "u.png" = false := by
  intro h s'
  obtain ⟨hanswer, -, -, -, -, -, -, hempty⟩ :=
    releases_unused "" ⟨320, 200⟩ Recorder.new shared
  obtain ⟨hretired, hcached⟩ := hempty rfl rfl
  refine ⟨rfl, rfl, hanswer, hretired, (hcached "t.png").2 ⟨⟨2⟩, by decide, rfl⟩, ?_⟩
  rw [← Bool.not_eq_true, hcached]
  decide

end Host

end SpriteStage
