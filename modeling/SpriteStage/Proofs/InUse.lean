import SpriteStage.Proofs.Deletion
import SpriteStage.Proofs.Register

/-!
# When a texture can be deleted

A texture is refused while somebody but its own sprite uses it, or while that sprite is queued.

* `Stage.others`: the registered and retired sprites that use a texture, its own sprite left out;
* in a balanced stage the references to a texture are those of the others and of the own sprite
  (`Balanced.refcount_eq_others`), so the answer depends on the owners alone
  (`Balanced.deleteTexture_result`);
* `named_run`: on every host a sprite is registered under its own name, so the own sprite of a
  texture is the registered one that has the name and shows the texture, and there is no other;
* `Host.deleteTexture_answers`: all of that, after every run.
-/

namespace SpriteStage

namespace Stage

open TextureCache

variable {s : Stage} {key : String} {id : SpriteId}

/-! ### Owners of a texture -/

/-- How many registered and retired sprites use the texture of a key, its own sprite left out. -/
def others (s : Stage) (key : String) : Nat :=
  (s.cast.registered ++ s.retired).countP fun id =>
    (s.cast.sprite id).texture.key == key && s.ownSprite? key != some id

/-- Whether the own sprite of a texture is queued. -/
def ownQueued (s : Stage) (key : String) : Bool :=
  (s.ownSprite? key).any fun id => s.queue.any (·.sprite == id)

theorem ownSprite?_eq_some_iff (hn : s.cast.names.Nodup) (hs : s.cast.Named) :
    s.ownSprite? key = some id ↔ id ∈ s.cast.registered ∧ (s.cast.sprite id).name = key ∧
      (s.cast.sprite id).texture.key = key := by
  unfold ownSprite?
  rw [Option.filter_eq_some_iff, beq_iff_eq]
  refine ⟨fun ⟨hf, hkey⟩ => ?_, fun ⟨hid, hname, hkey⟩ => ⟨?_, hkey⟩⟩
  · exact ⟨Cast.mem_registered_of_find? hf, hs _ (Cast.mem_entries_of_find? hf), hkey⟩
  · obtain ⟨⟨name, _⟩, he, rfl⟩ := List.mem_map.1 hid
    obtain rfl : name = key := (hs _ he).symm.trans hname
    exact Keyed.lookup_of_mem hn he

/-- The own sprite of a texture counts for one of its references. -/
theorem Balanced.refcount_eq_others (h : s.Balanced) (key : String) :
    s.textures.refcount key = s.others key + (s.ownSprite? key).isSome.toNat := by
  rw [h.refcount, uses]
  show s.owners.countP _ = s.owners.countP _ + _
  cases ho : s.ownSprite? key with
  | none =>
    have hall : ∀ id : SpriteId, (none != some id) = true := fun _ => rfl
    simp [hall]
  | some id =>
    obtain ⟨hf, hkey⟩ := Option.filter_eq_some_iff.1 ho
    have hid : id ∈ s.owners := List.mem_append_left _ (Cast.mem_registered_of_find? hf)
    -- the own sprite is one owner, and not among the rest
    have hrest : ∀ other ∈ s.owners.erase id, (some id != some other) = true := fun other hm => by
      simpa using fun he : id = other => h.nodup.not_mem_erase (he ▸ hm)
    have hperm := List.perm_cons_erase hid
    rw [hperm.countP_eq, hperm.countP_eq, List.countP_cons, List.countP_cons, if_pos hkey,
      if_neg (by simp)]
    refine congrArg (· + 1) (List.countP_congr fun other hm => ?_)
    rw [hrest other hm, Bool.and_true]

theorem contains_eq_false_iff (h : s.textures.Valid) :
    s.textures.contains key = false ↔ s.textures.refcount key = 0 := by
  rw [← Bool.not_eq_true, h.contains_iff]
  omega

theorem deleteTexture_eq {β : Type} [TextureLoader β] (s : Stage) (b : β) (held : List SpriteId)
    (key : String) :
    s.deleteTexture b held key =
      if s.textures.refcount key = 0 then ⟨.error (.unknownTexture key), s, b⟩
      else if 0 < s.textures.refcount key - (s.ownSprite? key).isSome.toNat ∨
          s.ownQueued key = true then
        ⟨.error (.textureInUse key
          (s.textures.refcount key - (s.ownSprite? key).isSome.toNat +
            (s.ownQueued key).toNat)), s, b⟩
      else s.deleteSprite b held key := rfl

/-- **Whether a texture can be deleted depends on its owners and on the queue.** -/
theorem Balanced.deleteTexture_result {β : Type} [TextureLoader β] (b : β) (h : s.Balanced)
    (held : List SpriteId) (key : String) :
    (s.deleteTexture b held key).result =
      if s.textures.contains key = false then .error (.unknownTexture key)
      else if 0 < s.others key ∨ s.ownQueued key = true then
        .error (.textureInUse key (s.others key + (s.ownQueued key).toNat))
      else .ok () := by
  have hcount := h.refcount_eq_others key
  have hothers : s.textures.refcount key - (s.ownSprite? key).isSome.toNat = s.others key := by
    omega
  by_cases hrefs : s.textures.refcount key = 0
  · rw [if_pos ((contains_eq_false_iff h.textures).2 hrefs), deleteTexture_eq, if_pos hrefs]
  · rw [if_neg (mt (contains_eq_false_iff h.textures).1 hrefs), deleteTexture_eq, if_neg hrefs,
      hothers]
    split
    · rfl
    · next hfree =>
      -- all references but those of others are those of the own sprite
      have hown : (s.ownSprite? key).isSome.toNat ≠ 0 := by omega
      obtain ⟨id, ho⟩ : ∃ id, s.ownSprite? key = some id := by
        cases ho : s.ownSprite? key with
        | none => exact absurd (by rw [ho]; rfl) hown
        | some id => exact ⟨id, rfl⟩
      have hc : s.cast.contains key = true := by
        rw [Cast.contains, (Option.filter_eq_some_iff.1 ho).1]
        rfl
      rw [h.deleteSprite_result, if_pos hc]

/-- **A deletion takes the own sprite of the texture off the register, and no other.** The sprites
that still have a claim to a texture find it cached. -/
theorem Balanced.deleteTexture_ok {β : Type} [TextureLoader β] {b : β} {held : List SpriteId}
    (h : s.Balanced) (hok : (s.deleteTexture b held key).result = .ok ()) :
    let s' := (s.deleteTexture b held key).stage
    ∃ id, s.ownSprite? key = some id ∧ s.cast.registered.Perm (id :: s'.cast.registered) ∧
      s'.cast.contains key = false ∧
      (∀ name, name ≠ key → s'.cast.find? name = s.cast.find? name) ∧
      s'.cast.sprites = s.cast.sprites ∧ s'.queue = s.queue ∧ s'.Balanced := by
  intro s'
  obtain ⟨id, hf, hkey, -, -, hdelete⟩ := deleteTexture_eq_ok hok
  obtain ⟨c, b', hsprite, -, hc⟩ := h.deleteSprite_eq b held hf
  rw [show s' = _ from congrArg Outcome.stage (hdelete.trans hsprite)]
  refine ⟨id, ?_, ?_, contains_retiring s key id, fun name hne => ?_, rfl, rfl,
    (h.retiring hf).release held hc⟩
  · rw [ownSprite?, hf]
    simpa using hkey
  · exact Cast.registered_perm_of_remove h.names (Cast.remove_eq_ok_iff.2 ⟨hf, rfl⟩)
  · exact Keyed.lookup_without_of_ne hne s.cast.entries

end Stage

/-! ### Runs -/

namespace Host

open Stage

variable {β : Type} [TextureLoader β] [Canvas β] {h h' : Host β}

theorem named_effect (he : Effect h h') (hb : h.stage.Balanced) (hn : h.stage.cast.Named) :
    h'.stage.cast.Named := by
  cases he with
  | requeued hs hi => rw [hs.eq]; exact hn
  | recast hc => exact hn.extends hc
  | made hl ha hi hc =>
    exact (hn.insert (fun id hid => hb.made id (List.mem_append_left _ hid)) hi).extends hc
  | deleted hr => exact hn.remove hr
  | _ => exact hn

theorem named_after (h : Host β) (a : Action β) (hb : h.stage.Balanced)
    (hn : h.stage.cast.Named) : (h.after a).stage.cast.Named := by
  obtain he | rfl | ⟨f, rfl⟩ := effect_after h a
  · exact named_effect he hb hn
  · exact fun _ he => absurd he List.not_mem_nil
  · exact hn

/-- **On every host a sprite is registered under its own name.** -/
theorem named_run (name : String) (screen : ScreenSize) (b : β) (actions : List (Action β)) :
    ((Host.new name screen b).run actions).stage.cast.Named :=
  (run_induction (P := fun h => h.stage.Balanced ∧ h.stage.cast.Named)
    (fun h a hh => ⟨balanced_after h a hh.1, named_after h a hh.1 hh.2⟩)
    ⟨balanced_new name screen, fun _ he => absurd he List.not_mem_nil⟩ actions).2

/-- **When a texture can be deleted.** After every run, a key that is not cached is refused as
unknown. One that is cached is refused while other sprites use it, registered or retired, or while
its own sprite is queued, and the refusal counts these sprites; otherwise the texture is deleted. Its
own sprite is the registered one that has the name and shows the texture. A refusal changes nothing;
a deletion takes the own sprite off the register and leaves every other name and all sprites and
items as they are, and whoever has a claim to a texture still finds it. -/
theorem deleteTexture_answers (name : String) (screen : ScreenSize) (b : β)
    (actions : List (Action β)) (key : String) :
    let h := (Host.new name screen b).run actions
    let s := h.stage
    let answer := h.deleteTexture key
    let s' := answer.2.stage
    (∀ id, s.ownSprite? key = some id ↔ id ∈ s.cast.registered ∧
      (s.cast.sprite id).name = key ∧ (s.cast.sprite id).texture.key = key) ∧
    (answer.1 =
      if s.textures.contains key = false then .error (.unknownTexture key)
      else if 0 < s.others key ∨ s.ownQueued key = true then
        .error (.textureInUse key (s.others key + (s.ownQueued key).toNat))
      else .ok ()) ∧
    (∀ e, answer.1 = .error e → answer.2 = h) ∧
    (answer.1 = .ok () → ∃ id, s.ownSprite? key = some id ∧
      s.cast.registered.Perm (id :: s'.cast.registered) ∧ id ∉ s'.cast.registered ∧
      s'.cast.contains key = false ∧
      (∀ name, name ≠ key → s'.cast.find? name = s.cast.find? name) ∧
      s'.cast.sprites = s.cast.sprites ∧ s'.queue = s.queue ∧
      ∀ id ∈ s'.cast.registered ++ s'.retired,
        s'.textures.get? (s'.cast.sprite id).texture.key = some (s'.cast.sprite id).texture) := by
  intro h s answer s'
  have hb : s.Balanced := balanced_run name screen b actions
  have hn : s.cast.Named := named_run name screen b actions
  refine ⟨fun id => ownSprite?_eq_some_iff hb.names hn,
    hb.deleteTexture_result h.backend h.held key, fun e he => ?_, fun hok => ?_⟩
  · have hsame := hb.deleteTexture_of_error he
    show (h.absorb (s.deleteTexture h.backend h.held key)).2 = h
    rw [hsame]
    rfl
  · obtain ⟨id, hown, hperm, hname, hothers, hsprites, hqueue, hb'⟩ := hb.deleteTexture_ok hok
    have hnodup := hperm.nodup_iff.1 (List.nodup_append.1 hb.nodup).1
    exact ⟨id, hown, hperm, (List.nodup_cons.1 hnodup).1, hname, hothers, hsprites, hqueue,
      hb'.cached⟩

end Host

end SpriteStage
