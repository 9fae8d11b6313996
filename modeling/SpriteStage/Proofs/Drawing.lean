import SpriteStage.Proofs.Accounting

/-!
# What is queued can be drawn

* `Host.Intact`: whatever a host can get at was made, and every queued destination exists;
* an action makes nothing known but what was known or is registered (`knows_after`), it takes
  nothing from a sprite (`grows_after`), and it queues existing destinations of known sprites
  (`items_after`), so every run keeps a host intact;
* an intact stage has one draw call for every visible item (`Drawable.drawCalls_eq`).
-/

namespace SpriteStage

/-! ### Casts that grow -/

/-- `c'` has the sprites of `c`, each extended, and maybe more. -/
structure Cast.Grows (c c' : Cast) : Prop where
  length : c.sprites.length ≤ c'.sprites.length
  sprite : ∀ {id : SpriteId}, id.index < c.sprites.length → (c.sprite id).Extends (c'.sprite id)

namespace Cast

variable {c c' c'' : Cast}

theorem grows_of_sprites (h : c'.sprites = c.sprites) : c.Grows c' where
  length := Nat.le_of_eq (by rw [h])
  sprite {id} _ := by
    have : c'.sprite id = c.sprite id := by rw [Cast.sprite, Cast.sprite, h]
    rw [this]
    exact .refl _

theorem Extends.grows (h : c.Extends c') : c.Grows c' :=
  ⟨Nat.le_of_eq h.length.symm, fun _ => h.sprite _⟩

theorem Inserted.grows {s : Sprite} {id : SpriteId} (h : c.Inserted s id c') : c.Grows c' where
  length := by rw [h.length]; exact Nat.le_succ _
  sprite ho := by rw [h.kept ho]; exact .refl _

theorem Grows.trans (h₁ : c.Grows c') (h₂ : c'.Grows c'') : c.Grows c'' :=
  ⟨Nat.le_trans h₁.length h₂.length, fun hid =>
    (h₁.sprite hid).trans (h₂.sprite (Nat.lt_of_lt_of_le hid h₁.length))⟩

end Cast

/-! ### Draw calls -/

namespace Stage

/-- Every queued destination exists. -/
def Drawable (s : Stage) : Prop :=
  ∀ item ∈ s.queue, item.destination < (s.spriteOf item).destinations.length

/-- The draw call of an item whose destination exists. -/
def callOf (s : Stage) (item : QueueItem) : DrawCall :=
  let sprite := s.spriteOf item
  let d := sprite.destinations.getD item.destination (.plain .empty)
  ⟨sprite.name, sprite.texture.handle, sprite.source, d.rect, d.color, d.options⟩

theorem drawCall_eq_ok {s : Stage} {item : QueueItem}
    (h : item.destination < (s.spriteOf item).destinations.length) :
    s.drawCall item = .ok (s.callOf item) := by
  have hg : (s.spriteOf item).get item.destination =
      .ok ((s.spriteOf item).destinations.getD item.destination (.plain .empty)) :=
    Sprite.get_eq_ok_iff.2 (by simp [List.getD_eq_getElem?_getD, List.getElem?_eq_getElem h])
  rw [drawCall, bind_of_eq_ok hg]
  rfl

/-- A list of computations succeeds if all of them do. -/
theorem mapM_eq_ok_iff {ε α γ : Type} {f : α → Except ε γ} {l : List α} {ys : List γ} :
    l.mapM f = .ok ys ↔ l.map f = ys.map .ok := by
  induction l generalizing ys with
  | nil => cases ys <;> simp [pure, Except.pure]
  | cons a l ih =>
    rw [List.mapM_cons, List.map_cons]
    cases ys with
    | nil => cases f a <;> cases l.mapM f <;> simp [bind, Except.bind, pure, Except.pure]
    | cons y ys =>
      rw [List.map_cons, List.cons.injEq, ← ih]
      cases f a <;> cases l.mapM f <;> simp [bind, Except.bind, pure, Except.pure]

/-- **There is one draw call for every visible item, in the order of the queue.** -/
theorem Drawable.drawCalls_eq {s : Stage} (h : s.Drawable) :
    s.drawCalls = .ok ((s.queue.filter (·.visible)).map s.callOf) := by
  rw [drawCalls, mapM_eq_ok_iff, List.map_map]
  exact List.map_congr_left fun item hi => drawCall_eq_ok (h item (List.mem_filter.1 hi).1)

end Stage

/-! ### Runs -/

namespace Host

variable {β : Type} {h h' : Host β} {id : SpriteId}

/-- Whatever the host can get at was made, and every queued destination exists. -/
structure Intact (h : Host β) : Prop where
  balanced : h.stage.Balanced
  made : ∀ id, h.Knows id → id.index < h.stage.cast.sprites.length
  drawable : h.stage.Drawable

/-- Fewer names and items, and no more labels. -/
theorem Knows.of_subset (hk : h'.Knows id)
    (hr : ∀ id ∈ h'.stage.cast.registered, id ∈ h.stage.cast.registered)
    (hq : ∀ item ∈ h'.stage.queue, item ∈ h.stage.queue) (hl : h'.held = h.held) :
    h.Knows id := by
  rcases hk with hk | hk | ⟨item, hi, hk⟩
  · exact .inl (hr id hk)
  · exact .inr (.inl (hl ▸ hk))
  · exact .inr (.inr ⟨item, hq item hi, hk⟩)

theorem knows_of_queued {item : QueueItem} (hi : item ∈ h.stage.queue) : h.Knows item.sprite :=
  .inr (.inr ⟨item, hi, rfl⟩)

theorem knows_of_held (hi : id ∈ h.held) : h.Knows id := .inr (.inl hi)

/-- What is held afterwards was known before. -/
theorem knows_of_mem_held {sprites : List (String × SpriteId)} {items : List (String × QueueItem)}
    (hs : ∀ e ∈ sprites, e ∈ h.heldSprites ∨ h.Knows e.2)
    (hi : ∀ e ∈ items, e ∈ h.heldItems ∨ e.2 ∈ h.stage.queue)
    (hm : id ∈ sprites.map Prod.snd ++ items.map (·.2.sprite)) : h.Knows id := by
  rcases List.mem_append.1 hm with hm | hm
  · obtain ⟨e, he, rfl⟩ := List.mem_map.1 hm
    rcases hs e he with he | he
    · exact knows_of_held (mem_held_iff.2 (.inl ⟨e, he, rfl⟩))
    · exact he
  · obtain ⟨e, he, rfl⟩ := List.mem_map.1 hm
    rcases hi e he with he | he
    · exact knows_of_held (mem_held_iff.2 (.inr ⟨e, he, rfl⟩))
    · exact knows_of_queued he

theorem intact_new (name : String) (screen : ScreenSize) (b : β) :
    (Host.new name screen b).Intact where
  balanced := Stage.balanced_new name screen
  made _ hk := by
    rcases hk with hk | hk | ⟨item, hi, -⟩
    · exact absurd hk List.not_mem_nil
    · exact absurd hk List.not_mem_nil
    · exact absurd hi List.not_mem_nil
  drawable _ hi := absurd hi List.not_mem_nil

variable [TextureLoader β] [Canvas β]

theorem knows_effect (he : Effect h h') (hk : h'.Knows id) :
    h.Knows id ∨ id ∈ h'.stage.cast.registered := by
  cases he with
  | nothing => exact .inl hk
  | requeued hs hi =>
    rcases hk with hk | hk | ⟨item, hq, rfl⟩
    · exact .inr hk
    · exact .inl (knows_of_mem_held (fun e he => .inl he) hi hk)
    · rcases hs.items item hq with ⟨old, hold, hsprite, -⟩ | ⟨hknows, -⟩
      · exact .inl (hsprite ▸ knows_of_queued hold)
      · exact .inl hknows
  | recast hc =>
    refine .inl (hk.of_subset (fun id hid => ?_) (fun item hi => hi) rfl)
    rwa [Cast.registered, hc.entries] at hid
  | held hs hi =>
    rcases hk with hk | hk | ⟨item, hq, rfl⟩
    · exact .inr hk
    · exact .inl (knows_of_mem_held hs hi hk)
    · exact .inl (knows_of_queued hq)
  | made hl ha hi hc =>
    rcases hk with hk | hk | ⟨item, hq, rfl⟩
    · exact .inr hk
    · exact .inl (knows_of_held hk)
    · exact .inl (knows_of_queued hq)
  | deleted hr =>
    refine .inl (hk.of_subset (fun id hid => ?_) (fun item hi => hi) rfl)
    obtain ⟨-, rfl⟩ := Cast.remove_eq_ok_iff.1 hr
    exact (List.filter_sublist.map Prod.snd).subset hid
  | _ => exact .inl (hk.of_subset (fun id hid => hid) (fun item hi => hi) rfl)

/-- **No action makes a host know what it could not get at before, but for registered sprites.** -/
theorem knows_after {a : Action β} (hk : (h.after a).Knows id) :
    h.Knows id ∨ id ∈ (h.after a).stage.cast.registered := by
  obtain he | rfl | ⟨f, rfl⟩ := effect_after h a
  · exact knows_effect he hk
  · exact .inl (hk.of_subset (fun _ hm => absurd hm List.not_mem_nil)
      (fun _ hm => absurd hm List.not_mem_nil) rfl)
  · exact .inl hk

theorem grows_effect (he : Effect h h') : h.stage.cast.Grows h'.stage.cast := by
  cases he with
  | requeued hs hi => exact Cast.grows_of_sprites (by rw [hs.eq])
  | recast hc => exact hc.grows
  | made hl ha hi hc => exact (Cast.inserted_of_insert hi).grows.trans hc.grows
  | deleted hr =>
    obtain ⟨-, rfl⟩ := Cast.remove_eq_ok_iff.1 hr
    exact Cast.grows_of_sprites rfl
  | _ => exact Cast.grows_of_sprites rfl

/-- **No action takes a sprite away, changes its name, texture or source, or takes one of its
destinations away.** -/
theorem grows_after (h : Host β) (a : Action β) :
    h.stage.cast.Grows (h.after a).stage.cast := by
  obtain he | rfl | ⟨f, rfl⟩ := effect_after h a
  · exact grows_effect he
  · exact Cast.grows_of_sprites rfl
  · exact Cast.grows_of_sprites rfl

theorem items_effect (he : Effect h h') : h.stage.ItemsFrom h.Knows h'.stage.queue := by
  cases he with
  | requeued hs hi => exact hs.items
  | _ => exact fun item hi => .inl ⟨item, hi, rfl, rfl⟩

/-- **What an action queues was queued before, or is a destination of a sprite the host could get
at.** -/
theorem items_after (h : Host β) (a : Action β) :
    h.stage.ItemsFrom h.Knows (h.after a).stage.queue := by
  obtain he | rfl | ⟨f, rfl⟩ := effect_after h a
  · exact items_effect he
  · exact fun item hi => absurd hi List.not_mem_nil
  · exact fun item hi => .inl ⟨item, hi, rfl, rfl⟩

theorem intact_after (h : Host β) (a : Action β) (hi : h.Intact) : (h.after a).Intact where
  balanced := balanced_after h a hi.balanced
  made id hk := by
    rcases knows_after hk with hk | hk
    · exact Nat.lt_of_lt_of_le (hi.made id hk) (grows_after h a).length
    · exact (balanced_after h a hi.balanced).made id (List.mem_append_left _ hk)
  drawable item hitem := by
    rcases items_after h a item hitem with ⟨old, hold, hsprite, hdest⟩ | ⟨hknows, hdest⟩
    · -- a queued destination was there, and no sprite loses one
      have hgrows := (grows_after h a).sprite (hi.made _ (knows_of_queued hold))
      rw [← hdest, Stage.spriteOf, ← hsprite]
      exact Nat.lt_of_lt_of_le (hi.drawable old hold) hgrows.count
    · exact Nat.lt_of_lt_of_le hdest ((grows_after h a).sprite (hi.made _ hknows)).count

theorem intact_run (name : String) (screen : ScreenSize) (b : β) (actions : List (Action β)) :
    ((Host.new name screen b).run actions).Intact :=
  run_induction (P := Intact) intact_after (intact_new name screen b) actions

end Host

end SpriteStage
