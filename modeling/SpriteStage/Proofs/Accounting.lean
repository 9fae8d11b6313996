import SpriteStage.Proofs.Effect

/-!
# Who holds the references

Every registered sprite and every retired one holds one reference to its texture, and nobody else
holds any.

* `Stage.owners`: the registered sprites and the retired ones; `Stage.uses` counts those among some
  sprites that have the texture of a key;
* `Stage.Balanced`: no owner twice, every key wanted as often as the owners use it, and every
  owner's texture cached;
* every effect keeps that (`balanced_effect`), so every run does;
* in a balanced stage no release fails and none meets a key without references.
-/

namespace SpriteStage

namespace Stage

open TextureCache

/-! ### Owners and uses -/

/-- The sprites that hold references to their textures. -/
def owners (s : Stage) : List SpriteId := s.cast.registered ++ s.retired

/-- How many of the sprites have the texture of a key. -/
def uses (s : Stage) (key : String) (ids : List SpriteId) : Nat :=
  ids.countP fun id => (s.cast.sprite id).texture.key == key

variable {s s' : Stage} {key : String} {ids l m : List SpriteId} {id : SpriteId}

theorem uses_append : s.uses key (l ++ m) = s.uses key l + s.uses key m := List.countP_append

theorem uses_perm (h : l.Perm m) : s.uses key l = s.uses key m := h.countP_eq _

/-- Only the textures of the sprites in the list matter. -/
theorem uses_congr
    (h : ∀ id ∈ ids, (s'.cast.sprite id).texture = (s.cast.sprite id).texture) :
    s'.uses key ids = s.uses key ids := by
  refine List.countP_congr fun id hid => ?_
  rw [h id hid]

theorem uses_singleton :
    s.uses key [id] = if key = (s.cast.sprite id).texture.key then 1 else 0 := by
  by_cases hk : key = (s.cast.sprite id).texture.key
  · simp [uses, hk]
  · simp [uses, hk, Ne.symm hk]

theorem one_le_uses (hid : id ∈ ids) (hkey : (s.cast.sprite id).texture.key = key) :
    1 ≤ s.uses key ids :=
  List.countP_pos_iff.2 ⟨id, hid, by simpa using hkey⟩

/-! ### Balanced stages -/

/-- The counts of the cache are the uses of the owners, and the owners' textures are cached. -/
structure Balanced (s : Stage) : Prop where
  made : ∀ id ∈ s.owners, id.index < s.cast.sprites.length
  nodup : s.owners.Nodup
  names : s.cast.names.Nodup
  textures : s.textures.Valid
  refcount : ∀ key, s.textures.refcount key = s.uses key s.owners
  cached : ∀ id ∈ s.owners,
    s.textures.get? (s.cast.sprite id).texture.key = some (s.cast.sprite id).texture

/-- A stage on which nobody owns anything is balanced when nothing is cached. -/
theorem balanced_of_nil (ho : s.owners = []) (hn : s.cast.names = []) (ht : s.textures = .empty) :
    s.Balanced where
  made := by simp [ho]
  nodup := by simp [ho]
  names := by simp [hn]
  textures := by rw [ht]; exact valid_empty
  refcount := by simp [ho, ht, uses]
  cached := by simp [ho]

theorem balanced_new (name : String) (screen : ScreenSize) : (Stage.new name screen).Balanced :=
  balanced_of_nil rfl rfl rfl

/-- Screen, reader and queue do not matter. -/
theorem Balanced.of_eq (h : s.Balanced) (hc : s'.cast = s.cast) (ht : s'.textures = s.textures)
    (hr : s'.retired = s.retired) : s'.Balanced := by
  have ho : s'.owners = s.owners := by rw [owners, owners, hc, hr]
  refine ⟨?_, ?_, ?_, ?_, fun key => ?_, ?_⟩
  · rw [ho, hc]; exact h.made
  · rw [ho]; exact h.nodup
  · rw [hc]; exact h.names
  · rw [ht]; exact h.textures
  · rw [ho, ht, h.refcount key, uses, uses, hc]
  · rw [ho, hc, ht]; exact h.cached

/-- A change of sprites changes no texture. -/
theorem Balanced.recast {c : Cast} (h : s.Balanced) (hc : s.cast.Extends c) :
    ({ s with cast := c } : Stage).Balanced := by
  have ho : ({ s with cast := c } : Stage).owners = s.owners := by
    rw [owners, owners, Cast.registered, Cast.registered, hc.entries]
  refine ⟨?_, ?_, ?_, h.textures, fun key => ?_, fun id hid => ?_⟩
  · rw [ho, hc.length]; exact h.made
  · rw [ho]; exact h.nodup
  · rw [Cast.names, hc.entries]; exact h.names
  · rw [ho, h.refcount key]
    exact (uses_congr fun id _ => (hc.sprite id).texture).symm
  · rw [(hc.sprite id).texture]
    exact h.cached id (ho ▸ hid)

/-! ### Making and retiring -/

/-- The new sprite holds the reference that was acquired for it. -/
theorem Balanced.make {name : String} {source : Rect} {t : Texture} {textures : TextureCache}
    {c : Cast} (h : s.Balanced) (ha : Acquired s.textures key t textures)
    (hi : s.cast.insert (.new name t source) = .ok (id, c)) :
    ({ s with textures, cast := c } : Stage).Balanced := by
  have hc := Cast.inserted_of_insert hi
  have ho : ({ s with textures, cast := c } : Stage).owners.Perm (id :: s.owners) := by
    show (c.registered ++ s.retired).Perm (id :: (s.cast.registered ++ s.retired))
    rw [hc.registered, List.append_assoc]
    exact List.perm_middle
  have hkept : ∀ other ∈ s.owners, (c.sprite other).texture = (s.cast.sprite other).texture :=
    fun other hother => by rw [hc.kept (h.made other hother)]
  have hself : (c.sprite id).texture = t := by
    rw [hc.sprite]
    rfl
  refine ⟨fun other hother => ?_, ?_, ?_, ha.valid, fun k => ?_, fun other hother => ?_⟩
  · rw [hc.length]
    rcases List.mem_cons.1 (ho.mem_iff.1 hother) with rfl | hother
    · exact hc.index ▸ Nat.lt_succ_self _
    · exact Nat.lt_succ_of_lt (h.made other hother)
  · rw [ho.nodup_iff, List.nodup_cons]
    refine ⟨fun hm => ?_, h.nodup⟩
    -- the identity is the next one, and every owner has an earlier one
    have := h.made id hm
    rw [hc.index] at this
    exact Nat.lt_irrefl _ this
  · show c.names.Nodup
    rw [hc.names, List.nodup_append]
    refine ⟨h.names, by simp, ?_⟩
    rintro a hmem _ hname rfl
    exact hc.fresh (List.mem_singleton.1 hname ▸ hmem)
  · have hsplit : id :: s.owners = [id] ++ s.owners := rfl
    rw [uses_perm ho, hsplit, uses_append, uses_singleton, uses_congr hkept, ← h.refcount k,
      Nat.add_comm]
    show textures.refcount k = _ + if k = (c.sprite id).texture.key then 1 else 0
    rw [hself, ha.keyed]
    exact ha.refcount k
  · show textures.get? (c.sprite other).texture.key = some (c.sprite other).texture
    rcases List.mem_cons.1 (ho.mem_iff.1 hother) with rfl | hother
    · rw [hself, ha.keyed]
      exact ha.get
    · rw [hkept other hother]
      exact ha.kept (h.cached other hother)

/-- A sprite that is retired stays an owner. -/
theorem owners_perm_of_retire {name : String} {c : Cast} (hn : s.cast.names.Nodup)
    (hr : s.cast.remove name = .ok (id, c)) :
    ({ s with cast := c, retired := s.retired ++ [id] } : Stage).owners.Perm s.owners := by
  have hreg := Cast.registered_perm_of_remove hn hr
  show (c.registered ++ (s.retired ++ [id])).Perm (s.cast.registered ++ s.retired)
  -- what leaves the register arrives among the retired
  rw [← List.append_assoc]
  exact (List.perm_append_singleton id _).trans (hreg.append_right s.retired).symm

theorem Balanced.retire {name : String} {c : Cast} (h : s.Balanced)
    (hr : s.cast.remove name = .ok (id, c)) :
    ({ s with cast := c, retired := s.retired ++ [id] } : Stage).Balanced := by
  have ho := owners_perm_of_retire h.names hr
  obtain ⟨-, rfl⟩ := Cast.remove_eq_ok_iff.1 hr
  refine ⟨fun id hid => h.made id (ho.mem_iff.1 hid), ho.nodup_iff.2 h.nodup, ?_, h.textures,
    fun key => ?_, fun id hid => h.cached id (ho.mem_iff.1 hid)⟩
  · rw [Cast.names, Keyed.map_fst_without]
    exact h.names.filter _
  · rw [uses_perm ho]
    exact h.refcount key

/-! ### Releasing -/

section Releasing

variable {β : Type} [TextureLoader β] {held : List SpriteId} (b : β)

/-- The retired sprites that something refers to. -/
def waiting (s : Stage) (held : List SpriteId) : List SpriteId :=
  s.retired.filter (s.isReferenced held)

/-- The retired sprites that nothing refers to. -/
def due (s : Stage) (held : List SpriteId) : List SpriteId :=
  s.retired.filter fun id => !s.isReferenced held id

/-- The keys of the references that go with the sprites that nothing refers to. -/
def dueKeys (s : Stage) (held : List SpriteId) : List String :=
  (s.due held).map fun id => (s.cast.sprite id).texture.key

/-- Every reference that `releaseRetired` drops is there when its turn comes. -/
def ReleasesCounted (s : Stage) (held : List SpriteId) (b : β) : Prop :=
  ∀ done key rest, s.dueKeys held = done ++ key :: rest →
    ∃ e, (releaseKeys s.textures b done).2.1.find? key = some e ∧ 1 ≤ e.refs

theorem releaseRetired_eq_releaseKeys (s : Stage) (held : List SpriteId) :
    s.releaseRetired b held =
      let (result, c, b) := releaseKeys s.textures b (s.dueKeys held)
      ⟨result.map fun _ => (s.due held).length,
        { s with textures := c, retired := s.waiting held }, b⟩ := by
  unfold releaseRetired
  rw [List.partition_eq_filter_filter]
  rfl

theorem retired_perm (s : Stage) (held : List SpriteId) :
    s.retired.Perm (s.due held ++ s.waiting held) := by
  have := List.filter_append_perm (fun id => !s.isReferenced held id) s.retired
  simpa [due, waiting] using this.symm

theorem count_dueKeys (s : Stage) (held : List SpriteId) (key : String) :
    (s.dueKeys held).count key = s.uses key (s.due held) := by
  rw [dueKeys, List.count_eq_countP, List.countP_map]
  rfl

/-- The references that go and those that stay. -/
theorem Balanced.refcount_split (h : s.Balanced) (held : List SpriteId) (key : String) :
    s.textures.refcount key =
      (s.dueKeys held).count key + s.uses key (s.cast.registered ++ s.waiting held) := by
  rw [h.refcount, count_dueKeys, owners, uses_append, uses_append,
    uses_perm (s.retired_perm held), uses_append]
  omega

theorem Balanced.count_dueKeys_le (h : s.Balanced) (held : List SpriteId) (key : String) :
    (s.dueKeys held).count key ≤ s.textures.refcount key := by
  rw [h.refcount_split held key]
  exact Nat.le_add_right _ _

/-- **In a balanced stage no reference count goes below zero.** -/
theorem Balanced.releasesCounted (h : s.Balanced) (held : List SpriteId) :
    s.ReleasesCounted held b :=
  fun _ _ _ hk => pos_of_releaseKeys h.textures b (h.count_dueKeys_le held) hk

/-- **In a balanced stage the retired sprites are released without an error.** -/
theorem Balanced.releaseRetired_eq (h : s.Balanced) (held : List SpriteId) :
    ∃ c b', s.releaseRetired b held =
        ⟨.ok (s.due held).length, { s with textures := c, retired := s.waiting held }, b'⟩ ∧
      releaseKeys s.textures b (s.dueKeys held) = (.ok (), c, b') ∧
      Released s.textures (s.dueKeys held) c := by
  obtain ⟨c, b', hr, hc⟩ := releaseKeys_eq_ok h.textures b (h.count_dueKeys_le held)
  refine ⟨c, b', ?_, hr, hc⟩
  rw [releaseRetired_eq_releaseKeys, hr]
  rfl

theorem Balanced.release (h : s.Balanced) (held : List SpriteId) {c : TextureCache}
    (hc : Released s.textures (s.dueKeys held) c) :
    ({ s with textures := c, retired := s.waiting held } : Stage).Balanced := by
  have hsub : (s.cast.registered ++ s.waiting held).Sublist s.owners :=
    (List.Sublist.refl _).append List.filter_sublist
  have hcount (key : String) :
      c.refcount key = s.uses key (s.cast.registered ++ s.waiting held) := by
    have := hc.refcount key
    have := h.refcount_split held key
    omega
  refine ⟨fun id hid => h.made id (hsub.subset hid), h.nodup.sublist hsub, h.names, hc.valid,
    hcount, fun id hid => ?_⟩
  -- an owner that is left still counts, so its key was not dropped altogether
  have hpos : 1 ≤ c.refcount (s.cast.sprite id).texture.key :=
    hcount _ ▸ one_le_uses hid rfl
  exact (hc.kept hpos).trans (h.cached id (hsub.subset hid))

theorem Balanced.releaseRetired (h : s.Balanced) (held : List SpriteId) :
    (s.releaseRetired b held).stage.Balanced := by
  obtain ⟨c, b', hr, -, hc⟩ := h.releaseRetired_eq b held
  rw [hr]
  exact h.release held hc

/-- **Deleting a registered sprite succeeds, and there is no other way for it to fail.** -/
theorem Balanced.deleteSprite_result (h : s.Balanced) (held : List SpriteId) (name : String) :
    (s.deleteSprite b held name).result =
      if s.cast.contains name then .ok () else .error (.unknownSprite name) := by
  unfold deleteSprite
  cases hf : s.cast.find? name with
  | none => simp [Cast.remove, Cast.get, Cast.contains, hf, bind, Except.bind]
  | some id =>
    have hr : s.cast.remove name = .ok (id, _) := Cast.remove_eq_ok_iff.2 ⟨hf, rfl⟩
    obtain ⟨c, b', hrel, -⟩ := (h.retire hr).releaseRetired_eq b held
    simp only [hr, hrel, Cast.contains, hf]
    rfl

/-- The own sprite of a texture is one of those that are counted for it. -/
theorem Balanced.ownSprite?_le (h : s.Balanced) (key : String) :
    (s.ownSprite? key).isSome.toNat ≤ s.textures.refcount key := by
  cases ho : s.ownSprite? key with
  | none => exact Nat.zero_le _
  | some id =>
    obtain ⟨hf, hkey⟩ := Option.filter_eq_some_iff.1 ho
    rw [h.refcount]
    exact one_le_uses (List.mem_append_left _ (Cast.mem_registered_of_find? hf))
      (by simpa using hkey)

end Releasing

end Stage

/-! ### Runs -/

namespace Host

open Stage

variable {β : Type} [TextureLoader β] [Canvas β] {h h' : Host β}

/-- Whatever an action does, it keeps the balance. -/
theorem balanced_effect (he : Effect h h') (hb : h.stage.Balanced) : h'.stage.Balanced := by
  cases he with
  | nothing => exact hb
  | requeued hs hi => exact hb.of_eq (by rw [hs.eq]) (by rw [hs.eq]) (by rw [hs.eq])
  | recast hc => exact hb.recast hc
  | held hs hi => exact hb
  | resized screen reader seen reported => exact hb.of_eq rfl rfl rfl
  | refused hl he => exact hb
  | made hl ha hi hc => exact (hb.make (hb.textures.acquired ha) hi).recast hc
  | released => exact hb.releaseRetired h.backend h.held
  | deleted hr => exact (hb.retire hr).releaseRetired h.backend h.held
  | drawn calls => exact hb
  | drawnReleased calls => exact hb.releaseRetired _ h.held

theorem balanced_after (h : Host β) (a : Action β) (hb : h.stage.Balanced) :
    (h.after a).stage.Balanced := by
  obtain he | rfl | ⟨f, rfl⟩ := effect_after h a
  · exact balanced_effect he hb
  · exact balanced_of_nil rfl rfl rfl
  · exact hb

theorem balanced_run (name : String) (screen : ScreenSize) (b : β) (actions : List (Action β)) :
    ((Host.new name screen b).run actions).stage.Balanced :=
  run_induction (P := (·.stage.Balanced)) balanced_after (balanced_new name screen) actions

/-- **References are counted.** After every run a key is wanted as often as registered and retired
sprites have its texture, every cached texture is wanted, and no sprite counts twice. So no count
goes below zero, neither in a release nor where the own sprite of a texture is left out, and
releasing never asks for a texture that is not cached. -/
theorem references_counted (name : String) (screen : ScreenSize) (b : β)
    (actions : List (Action β)) :
    let h := (Host.new name screen b).run actions
    let s := h.stage
    (∀ key, s.textures.refcount key =
      s.cast.registered.countP (fun id => (s.cast.sprite id).texture.key == key) +
        s.retired.countP (fun id => (s.cast.sprite id).texture.key == key)) ∧
    (∀ e ∈ s.textures.entries, 1 ≤ e.2.refs) ∧
    (s.cast.registered ++ s.retired).Nodup ∧
    (∀ b : β, s.ReleasesCounted h.held b) ∧
    (∀ (b : β) name id c, s.cast.remove name = .ok (id, c) →
      ({ s with cast := c, retired := s.retired ++ [id] } : Stage).ReleasesCounted h.held b) ∧
    (∀ key, (s.ownSprite? key).isSome.toNat ≤ s.textures.refcount key) ∧
    (∀ name key, (h.deleteSprite name).1 ≠ .error (.unknownTexture key)) ∧
    (∀ key, h.releaseRetired.1 ≠ .error (.unknownTexture key)) := by
  intro h s
  have hb : s.Balanced := balanced_run name screen b actions
  refine ⟨fun key => ?_, ?_, hb.nodup, fun b => hb.releasesCounted b h.held,
    fun b name id c hr => (hb.retire hr).releasesCounted b h.held, hb.ownSprite?_le,
    fun name key => ?_, fun key => ?_⟩
  · rw [hb.refcount, owners, uses_append]
    rfl
  · rintro ⟨k, e⟩ he
    exact hb.textures.pos (hb.textures.find?_of_mem he)
  · show (s.deleteSprite h.backend h.held name).result ≠ _
    rw [hb.deleteSprite_result]
    split <;> simp
  · obtain ⟨c, b', hr, -⟩ := hb.releaseRetired_eq h.backend h.held
    show (s.releaseRetired h.backend h.held).result ≠ _
    rw [hr]
    simp

end Host

end SpriteStage
