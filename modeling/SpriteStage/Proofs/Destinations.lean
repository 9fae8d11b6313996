import SpriteStage.Proofs.Drawing

/-!
# Destinations stay

A destination index that was checked once, when its item was made, holds from then on.

* `Cast.Furnished`: every sprite that was ever made has a destination, as it has from the start;
* `Host.HoldsExisting`: the items that were taken out of the queue and are held draw existing
  destinations too;
* both are kept by every action, and sprites only grow over a run (`grows_run`), so an index that
  exists at some time of a run exists at all later times;
* `destinations_stay`: what that means for the items and for the draw calls.
-/

namespace SpriteStage

/-! ### Sprites with destinations -/

/-- Every sprite that was made has a destination. -/
def Cast.Furnished (c : Cast) : Prop :=
  ∀ id : SpriteId, id.index < c.sprites.length → 1 ≤ (c.sprite id).destinations.length

namespace Cast

variable {c c' : Cast}

theorem Furnished.of_sprites (h : c.Furnished) (hs : c'.sprites = c.sprites) : c'.Furnished := by
  intro id hid
  rw [sprite, hs]
  exact h id (hs ▸ hid)

theorem Furnished.of_extends (h : c.Furnished) (he : c.Extends c') : c'.Furnished := by
  intro id hid
  exact Nat.le_trans (h id (he.length ▸ hid)) (he.sprite id).count

/-- A new sprite brings a destination with it. -/
theorem Furnished.insert {name : String} {t : Texture} {source : Rect} {id : SpriteId}
    (h : c.Furnished) (hi : c.Inserted (.new name t source) id c') : c'.Furnished := by
  intro other hother
  rw [hi.length] at hother
  rcases Nat.lt_succ_iff_lt_or_eq.1 hother with hold | hnew
  · rw [hi.kept hold]
    exact h other hold
  · obtain rfl : other = id := by
      cases other
      cases id
      simpa [← hi.index] using hnew
    rw [hi.sprite]
    exact Nat.le_refl 1

end Cast

/-! ### Runs -/

namespace Host

variable {β : Type} [TextureLoader β] [Canvas β] {h h' : Host β}

theorem furnished_effect (he : Effect h h') (hf : h.stage.cast.Furnished) :
    h'.stage.cast.Furnished := by
  cases he with
  | requeued hs hi => exact hf.of_sprites (by rw [hs.eq])
  | recast hc => exact hf.of_extends hc
  | made hl ha hi hc => exact (hf.insert (Cast.inserted_of_insert hi)).of_extends hc
  | deleted hr =>
    obtain ⟨-, rfl⟩ := Cast.remove_eq_ok_iff.1 hr
    exact hf.of_sprites rfl
  | _ => exact hf.of_sprites rfl

theorem furnished_after (h : Host β) (a : Action β) (hf : h.stage.cast.Furnished) :
    (h.after a).stage.cast.Furnished := by
  obtain he | rfl | ⟨f, rfl⟩ := effect_after h a
  · exact furnished_effect he hf
  · exact hf.of_sprites rfl
  · exact hf

theorem furnished_run (name : String) (screen : ScreenSize) (b : β) (actions : List (Action β)) :
    ((Host.new name screen b).run actions).stage.cast.Furnished :=
  run_induction (P := (·.stage.cast.Furnished)) furnished_after
    (fun _ hid => absurd hid (Nat.not_lt_zero _)) actions

/-- **Sprites only grow over a run.** -/
theorem grows_run (h : Host β) (actions : List (Action β)) :
    h.stage.cast.Grows (h.run actions).stage.cast :=
  run_induction (P := fun h' => h.stage.cast.Grows h'.stage.cast)
    (fun h' a hg => hg.trans (grows_after h' a)) (Cast.grows_of_sprites rfl) actions

/-! ### Items that were taken out -/

/-- Every held item draws an existing destination. -/
def HoldsExisting (h : Host β) : Prop :=
  ∀ e ∈ h.heldItems, e.2.destination < (h.stage.spriteOf e.2).destinations.length

theorem heldItems_effect (he : Effect h h') {e : String × QueueItem} (hm : e ∈ h'.heldItems) :
    e ∈ h.heldItems ∨ e.2 ∈ h.stage.queue := by
  cases he with
  | requeued hs hi => exact hi e hm
  | held hs hi => exact hi e hm
  | _ => exact .inl hm

/-- **A host gets at items by taking them from the queue.** -/
theorem heldItems_after {a : Action β} {e : String × QueueItem}
    (hm : e ∈ (h.after a).heldItems) : e ∈ h.heldItems ∨ e.2 ∈ h.stage.queue := by
  obtain he | rfl | ⟨f, rfl⟩ := effect_after h a
  · exact heldItems_effect he hm
  · exact .inl hm
  · exact .inl hm

theorem holdsExisting_after (h : Host β) (a : Action β) (hi : h.Intact) (hh : h.HoldsExisting) :
    (h.after a).HoldsExisting := by
  intro e hm
  -- wherever the item was before, its destination existed, and no sprite loses one
  have hexists : h.Knows e.2.sprite ∧
      e.2.destination < (h.stage.spriteOf e.2).destinations.length := by
    rcases heldItems_after hm with hold | hqueued
    · exact ⟨knows_of_held (mem_held_iff.2 (.inr ⟨e, hold, rfl⟩)), hh e hold⟩
    · exact ⟨knows_of_queued hqueued, hi.drawable e.2 hqueued⟩
  obtain ⟨hknows, hdest⟩ := hexists
  exact Nat.lt_of_lt_of_le hdest ((grows_after h a).sprite (hi.made _ hknows)).count

theorem holdsExisting_run (name : String) (screen : ScreenSize) (b : β)
    (actions : List (Action β)) : ((Host.new name screen b).run actions).HoldsExisting :=
  (run_induction (P := fun h => h.Intact ∧ h.HoldsExisting)
    (fun h a hh => ⟨intact_after h a hh.1, holdsExisting_after h a hh.1 hh.2⟩)
    ⟨intact_new name screen b, fun _ hm => absurd hm List.not_mem_nil⟩ actions).2

/-- **Destination indices stay valid.** At the end of every run each item, queued or taken out,
draws an existing destination of its sprite, and each sprite that was made has a destination. From
any earlier time of the run to its end no sprite has changed its name, its texture or its source or
lost a destination. So there are draw calls, one for each visible item, in the order of the
queue. -/
theorem destinations_stay (name : String) (screen : ScreenSize) (b : β)
    (earlier later : List (Action β)) :
    let h := (Host.new name screen b).run earlier
    let h' := h.run later
    let s := h'.stage
    (∀ item ∈ s.queue, item.destination < (s.spriteOf item).destinations.length) ∧
    (∀ e ∈ h'.heldItems, e.2.destination < (s.spriteOf e.2).destinations.length) ∧
    (∀ id : SpriteId, id.index < s.cast.sprites.length →
      1 ≤ (s.cast.sprite id).destinations.length) ∧
    (∀ id : SpriteId, id.index < h.stage.cast.sprites.length →
      (h.stage.cast.sprite id).Extends (s.cast.sprite id)) ∧
    s.drawCalls = .ok ((s.queue.filter (·.visible)).map s.callOf) := by
  intro h h' s
  have hrun : h' = (Host.new name screen b).run (earlier ++ later) :=
    (run_append _ earlier later).symm
  have hi : h'.Intact := hrun ▸ intact_run name screen b (earlier ++ later)
  have hh : h'.HoldsExisting := hrun ▸ holdsExisting_run name screen b (earlier ++ later)
  have hf : s.cast.Furnished := by
    show h'.stage.cast.Furnished
    rw [hrun]
    exact furnished_run name screen b (earlier ++ later)
  exact ⟨hi.drawable, hh, hf, fun id hid => (grows_run h later).sprite hid,
    hi.drawable.drawCalls_eq⟩

end Host

end SpriteStage
