import SpriteStage.Proofs.CachedHandles
import SpriteStage.Proofs.Drawing

/-!
# The textures of what is queued are live

A host with a recording backend that nothing else uses, and that clears its stage only while it
holds nothing (`Host.Orderly`).

* `Host.Sound`: the live handles are those of the cached textures, and whatever the host can get at
  owns its texture;
* every action of an orderly run keeps a host sound, so drawing never fails (`render_eq_ok`).
-/

namespace SpriteStage

/-! ### Sound hosts -/

namespace Host

open Recorder

variable {h h' : Host Recorder} {id : SpriteId}

theorem Loads.issues {load : Recorder → Except String LoadedTexture × Recorder}
    (hl : Loads load) : Issues load := by
  rcases hl with ⟨path, rfl⟩ | ⟨width, height, color, rfl⟩
  · exact issues_loadFile path
  · exact issues_createSolid width height color

/-- Whatever the host can get at owns its texture, and the live handles are those of the cached
textures. -/
structure Sound (h : Host Recorder) : Prop where
  owned : ∀ id, h.Knows id → id ∈ h.stage.owners
  backend : h.backend.Holding h.stage.textures.handles

/-- Who is known or an owner is not released as long as it is referred to. -/
theorem isReferenced_of_knows (hk : h.Knows id) : h.stage.isReferenced h.held id = true := by
  unfold Stage.isReferenced
  rw [Bool.or_eq_true, Bool.or_eq_true]
  rcases hk with hk | hk | ⟨item, hi, rfl⟩
  · obtain ⟨e, he, rfl⟩ := List.mem_map.1 hk
    exact .inl (.inr (List.any_eq_true.2 ⟨e, he, by simp⟩))
  · exact .inr (List.contains_iff_mem.2 hk)
  · exact .inl (.inl (List.any_eq_true.2 ⟨item, hi, by simp⟩))

/-- An owner that the host can get at stays an owner when the retired sprites are released. -/
theorem mem_owners_releaseRetired (ho : id ∈ h.stage.owners) (hk : h.Knows id) :
    id ∈ h.releaseRetired.2.stage.owners := by
  show id ∈ (h.stage.releaseRetired h.backend h.held).stage.owners
  rw [Stage.releaseRetired_eq_releaseKeys]
  rcases List.mem_append.1 ho with ho | ho
  · exact List.mem_append_left _ ho
  · exact List.mem_append_right _ (List.mem_filter.2 ⟨ho, isReferenced_of_knows hk⟩)

theorem knows_releaseRetired (hk : h.releaseRetired.2.Knows id) : h.Knows id :=
  hk.of_subset (fun _ hm => hm) (fun _ hm => hm) rfl

theorem mem_owners_effect (hi : h.Intact) (he : Effect h h') (ho : id ∈ h.stage.owners)
    (hk : h'.Knows id) : id ∈ h'.stage.owners := by
  cases he with
  | requeued hs hi => rw [hs.eq]; exact ho
  | recast hc =>
    rw [Stage.owners, Cast.registered, hc.entries]
    exact ho
  | made hl ha hi hc =>
    rw [Stage.owners, Cast.registered, hc.entries]
    show id ∈ Cast.registered _ ++ h.stage.retired
    rw [(Cast.inserted_of_insert hi).registered, List.append_assoc]
    exact (List.Sublist.append (.refl _) (List.sublist_cons_self _ _)).subset ho
  | released => exact mem_owners_releaseRetired ho (knows_releaseRetired hk)
  | deleted hr =>
    -- the sprite is retired first, which keeps it an owner
    refine mem_owners_releaseRetired ?_ (knows_releaseRetired hk)
    exact (Stage.owners_perm_of_retire hi.balanced.names hr).mem_iff.2 ho
  | drawnReleased calls => exact mem_owners_releaseRetired ho (knows_releaseRetired hk)
  | _ => exact ho

theorem owned_effect (hi : h.Intact) (hs : h.Sound) (he : Effect h h') :
    ∀ id, h'.Knows id → id ∈ h'.stage.owners := by
  intro id hk
  rcases knows_effect he hk with hold | hreg
  · exact mem_owners_effect hi he (hs.owned id hold) hk
  · exact List.mem_append_left _ hreg

theorem holding_releaseRetired (hb : h.stage.Balanced)
    (hr : h.backend.Holding h.stage.textures.handles) :
    h.releaseRetired.2.backend.Holding h.releaseRetired.2.stage.textures.handles := by
  show (h.stage.releaseRetired h.backend h.held).backend.Holding
    (h.stage.releaseRetired h.backend h.held).stage.textures.handles
  rw [Stage.releaseRetired_eq_releaseKeys]
  exact hr.releaseKeys hb.textures

theorem loads_releaseRetired (h : Host Recorder) :
    h.releaseRetired.2.backend.loads = h.backend.loads := by
  show (h.stage.releaseRetired h.backend h.held).backend.loads = _
  rw [Stage.releaseRetired_eq_releaseKeys]
  exact loads_releaseKeys _ _ _

theorem holding_effect (hi : h.Intact) (hr : h.backend.Holding h.stage.textures.handles)
    (he : Effect h h') (hn : h'.backend.loads < UInt32.size) :
    h'.backend.Holding h'.stage.textures.handles := by
  cases he with
  | requeued hs hi => rw [hs.eq]; exact hr
  | refused hl hb =>
    obtain rfl := hl.issues.eq_of_error hb
    exact hr
  | made hl ha hi' hc => exact hr.acquireWith hi.balanced.textures hl.issues ha hn
  | released => exact holding_releaseRetired hi.balanced hr
  | deleted hd => exact holding_releaseRetired (hi.balanced.retire hd) hr
  | drawn calls => exact hr.drawFrame calls
  | drawnReleased calls => exact holding_releaseRetired hi.balanced (hr.drawFrame calls)
  | _ => exact hr

theorem loads_drawFrame (r : Recorder) (calls : List DrawCall) :
    (Canvas.drawFrame r calls).2.loads = r.loads := by
  obtain ⟨completed, current, hd⟩ := drawFrame_eq r calls
  rw [hd]

theorem loads_le_effect (he : Effect h h') : h.backend.loads ≤ h'.backend.loads := by
  cases he with
  | refused hl hb =>
    obtain rfl := hl.issues.eq_of_error hb
    exact Nat.le_refl _
  | made hl ha hi hc => exact loads_le_of_acquireWith hl.issues ha
  | released => exact Nat.le_of_eq (loads_releaseRetired h).symm
  | deleted hd => exact Nat.le_of_eq (by rw [loads_releaseRetired])
  | drawn calls => exact Nat.le_of_eq (loads_drawFrame _ _).symm
  | drawnReleased calls =>
    exact Nat.le_of_eq ((loads_releaseRetired _).trans (loads_drawFrame _ _)).symm
  | _ => exact Nat.le_refl _

/-! ### Orderly runs -/

/-- What an orderly host does not do: clear the stage while it holds something, and change the
backend other than by a new file. -/
def Allows (h : Host Recorder) : Action Recorder → Prop
  | .clear => h.held = []
  | .touch f => ∃ path width height, f = (·.addFile path width height)
  | _ => True

/-- Every action of a run is allowed when its turn comes. -/
def Orderly (h : Host Recorder) : List (Action Recorder) → Prop
  | [] => True
  | a :: rest => h.Allows a ∧ (h.after a).Orderly rest

theorem loads_clear (h : Host Recorder) : h.clear.backend.loads = h.backend.loads := by
  show (h.stage.textures.clear h.backend).2.loads = _
  rw [TextureCache.clear_eq]
  exact loads_unloadAll _ _

theorem loads_le_after {a : Action Recorder} (ha : h.Allows a) :
    h.backend.loads ≤ (h.after a).backend.loads := by
  obtain he | rfl | ⟨f, rfl⟩ := effect_after h a
  · exact loads_le_effect he
  · exact Nat.le_of_eq (loads_clear h).symm
  · obtain ⟨path, width, height, rfl⟩ := ha
    exact Nat.le_refl _

theorem sound_after {a : Action Recorder} (hi : h.Intact) (hs : h.Sound) (ha : h.Allows a)
    (hn : (h.after a).backend.loads < UInt32.size) : (h.after a).Sound := by
  obtain he | rfl | ⟨f, rfl⟩ := effect_after h a
  · exact ⟨owned_effect hi hs he, holding_effect hi hs.backend he hn⟩
  · refine ⟨fun id hk => ?_, ?_⟩
    · -- nothing is registered or queued, and the host held nothing
      rcases hk with hk | hk | ⟨item, hitem, -⟩
      · exact absurd hk List.not_mem_nil
      · have hnil : h.held = [] := ha
        have hk : id ∈ h.held := hk
        rw [hnil] at hk
        exact absurd hk List.not_mem_nil
      · exact absurd hitem List.not_mem_nil
    · show (h.stage.textures.clear h.backend).2.Holding
        (h.stage.textures.clear h.backend).1.handles
      rw [TextureCache.clear_eq]
      exact hs.backend.unloadAll
  · obtain ⟨path, width, height, rfl⟩ := ha
    exact ⟨hs.owned, hs.backend.of_eq rfl rfl rfl rfl⟩

theorem sound_new (name : String) (screen : ScreenSize) :
    (Host.new name screen Recorder.new).Sound where
  owned id hk := by
    rcases hk with hk | hk | ⟨item, hi, -⟩
    · exact absurd hk List.not_mem_nil
    · exact absurd hk List.not_mem_nil
    · exact absurd hi List.not_mem_nil
  backend := holding_new

theorem loads_le_run {actions : List (Action Recorder)} (ho : h.Orderly actions) :
    h.backend.loads ≤ (h.run actions).backend.loads := by
  induction actions generalizing h with
  | nil => exact Nat.le_refl _
  | cons a rest ih => exact Nat.le_trans (loads_le_after ho.1) (ih ho.2)

theorem sound_run {actions : List (Action Recorder)} (hi : h.Intact) (hs : h.Sound)
    (ho : h.Orderly actions) (hn : (h.run actions).backend.loads < UInt32.size) :
    (h.run actions).Sound := by
  induction actions generalizing h with
  | nil => exact hs
  | cons a rest ih =>
    -- the bound at the end of the run is one at every step
    have hafter : (h.after a).backend.loads < UInt32.size :=
      Nat.lt_of_le_of_lt (loads_le_run ho.2) hn
    exact ih (intact_after h a hi) (sound_after hi hs ho.1 hafter) ho.2 hn

/-! ### Drawing -/

/-- An owner's texture is that of the cached entry of its key, and live. -/
theorem Sound.exists_entry (hi : h.Intact) (hs : h.Sound) (ho : id ∈ h.stage.owners) :
    ∃ e, h.stage.textures.find? (h.stage.cast.sprite id).texture.key = some e ∧
      (h.stage.cast.sprite id).texture.handle = e.texture.handle ∧
      (h.stage.cast.sprite id).texture.handle ∈ h.backend.live := by
  obtain ⟨e, hf, he⟩ := Option.map_eq_some_iff.1 (hi.balanced.cached id ho)
  refine ⟨e, hf, by rw [he], ?_⟩
  rw [← he]
  exact hs.backend.mem_live (TextureCache.mem_handles_of_find? hf)

/-- All that is drawn has a live texture. -/
theorem Sound.mem_live (hi : h.Intact) (hs : h.Sound) {calls : List DrawCall}
    (hc : h.stage.drawCalls = .ok calls) : ∀ call ∈ calls, call.texture ∈ h.backend.live := by
  intro call hcall
  rw [hi.drawable.drawCalls_eq] at hc
  cases hc
  obtain ⟨item, hitem, rfl⟩ := List.mem_map.1 hcall
  have ho := hs.owned _ (knows_of_queued (List.mem_filter.1 hitem).1)
  obtain ⟨e, -, -, hl⟩ := hs.exists_entry hi ho
  exact hl

/-- **A sound host draws all that is visible.** -/
theorem Sound.render_result (hi : h.Intact) (hs : h.Sound) :
    h.render.1 = .ok (h.stage.queue.countP (·.visible)) := by
  have hlive := hs.mem_live hi hi.drawable.drawCalls_eq
  show (h.stage.render h.backend).1 = _
  simp only [Stage.render, hi.drawable.drawCalls_eq, drawFrame_eq_ok hlive, List.length_map,
    ← List.countP_eq_length_filter]
  rfl

/-- **What is queued never loses its texture.** After every orderly run in which fewer than `2 ^ 32`
textures are made, the sprite of every queued item is registered or retired, the handle of its
texture is the one that is cached under the key, and live; and drawing succeeds. -/
theorem render_eq_ok (name : String) (screen : ScreenSize) (actions : List (Action Recorder))
    (ho : (Host.new name screen Recorder.new).Orderly actions)
    (hn : ((Host.new name screen Recorder.new).run actions).backend.loads < UInt32.size) :
    let h := (Host.new name screen Recorder.new).run actions
    (∀ item ∈ h.stage.queue,
      (item.sprite ∈ h.stage.cast.registered ∨ item.sprite ∈ h.stage.retired) ∧
      ∃ e, h.stage.textures.find? (h.stage.spriteOf item).texture.key = some e ∧
        (h.stage.spriteOf item).texture.handle = e.texture.handle ∧
        (h.stage.spriteOf item).texture.handle ∈ h.backend.live) ∧
    h.render.1 = .ok (h.stage.queue.countP (·.visible)) := by
  intro h
  have hi : h.Intact := intact_run name screen Recorder.new actions
  have hs : h.Sound := sound_run (intact_new name screen _) (sound_new name screen) ho hn
  refine ⟨fun item hitem => ?_, hs.render_result hi⟩
  have howner := hs.owned _ (knows_of_queued hitem)
  exact ⟨List.mem_append.1 howner, hs.exists_entry hi howner⟩

/-- A sprite is deleted while it is queued and held, and is queued again next to the one made under
its name since. -/
def reuse : List (Action Recorder) :=
  [.touch (·.addFile "a.png" 8 8), .createSprite "a" "a.png" .empty, .append "a" 0,
    .holdSprite "old" (.registered "a"), .deleteSprite "a", .createSprite "a" "a.png" .empty,
    .clearQueue, .push (.held "old") 0, .append "a" 0, .renderPass]

theorem render_reuse :
    let h := (Host.new "" ⟨320, 200⟩ Recorder.new).run reuse
    (Host.new "" ⟨320, 200⟩ Recorder.new).Orderly reuse ∧
      h.backend.loads < UInt32.size ∧
      ⟨0⟩ ∈ h.stage.retired ∧
      (h.stage.cast.sprite ⟨0⟩).texture.handle ∈ h.backend.live ∧
      h.render.1 = .ok 2 := by
  intro h
  have ho : (Host.new "" ⟨320, 200⟩ Recorder.new).Orderly reuse :=
    ⟨⟨"a.png", 8, 8, rfl⟩, trivial, trivial, trivial, trivial, trivial, trivial, trivial, trivial,
      trivial, trivial⟩
  have hn : h.backend.loads < UInt32.size := by decide
  obtain ⟨hqueue, hrender⟩ := render_eq_ok "" ⟨320, 200⟩ reuse ho hn
  have hitem : ⟨⟨0⟩, 0, true⟩ ∈ h.stage.queue := by decide
  have hvisible : h.stage.queue.countP (·.visible) = 2 := by decide
  obtain ⟨-, e, -, -, hlive⟩ := hqueue _ hitem
  exact ⟨ho, hn, by decide, hlive, hvisible ▸ hrender⟩

end Host

end SpriteStage
