import SpriteStage.Proofs.Anchored
import SpriteStage.Proofs.Drawing

/-!
# Showing and hiding

Other edits by name take the first item that draws a destination. Showing, hiding and flipping take
every one, duplicates and items of deleted sprites of that name too, and write nothing but whether
it is visible.

* `Stage.turned`: the stage in which the visibility of these items went through a function;
* `toggle_eq_ok_iff`: when an edit of visibility succeeds, with that stage and their number;
* `turned_turned`, `toggle_toggle`: two edits of the same items are one, by both functions;
* `Stage.Toggled`: the queue afterwards, position by position;
* `drawCalls_of_off`: the calls that are left when the items are hidden;
* `Host.toggle_writes_visibility`: all of that, after every run.
-/

namespace SpriteStage

namespace Stage

/-- The results of a part of a list, from those of all of it. -/
theorem mapM_filter_eq_ok {ε α γ : Type} {f : α → Except ε γ} {l : List α} {ys : List γ}
    (h : l.mapM f = .ok ys) (p : α → Bool) :
    (l.filter p).mapM f = .ok (((l.zip ys).filter (p ·.1)).map (·.2)) := by
  have hmap := mapM_eq_ok_iff.1 h
  have hlength : l.length = ys.length := by simpa using congrArg List.length hmap
  have hpair : ∀ q ∈ l.zip ys, f q.1 = .ok q.2 := fun q hq => by
    obtain ⟨i, hi, rfl⟩ := List.mem_iff_getElem.1 hq
    have hi' : i < (l.map f).length := by simp at hi ⊢; omega
    have := List.getElem_of_eq hmap hi'
    simpa using this
  rw [mapM_eq_ok_iff]
  conv_lhs => rw [← List.map_fst_zip (Nat.le_of_eq hlength), List.filter_map]
  rw [List.map_map, List.map_map]
  exact List.map_congr_left fun q hq => hpair q (List.mem_filter.1 hq).1

variable {s s' : Stage} {n : String} {d c : Nat} {t u : Toggle} {f g : Bool → Bool}
  {item : QueueItem}

/-- An item draws destination `d` of a sprite of the name, registered or not. -/
def Draws (s : Stage) (n : String) (d : Nat) (item : QueueItem) : Prop :=
  (s.spriteOf item).name = n ∧ item.destination = d

instance (s : Stage) (n : String) (d : Nat) : DecidablePred (s.Draws n d) := fun item =>
  inferInstanceAs (Decidable ((s.spriteOf item).name = n ∧ item.destination = d))

theorem refersTo_eq (s : Stage) (n : String) (d : Nat) :
    s.refersTo n d = fun item => decide (s.Draws n d item) := by
  funext item
  rw [Bool.eq_iff_iff, refersTo_iff, decide_eq_true_iff, Draws]

/-! ### Turning the visibility of items -/

/-- An item with its visibility gone through `f`, if it draws the destination. -/
def turn (s : Stage) (n : String) (d : Nat) (f : Bool → Bool) (item : QueueItem) : QueueItem :=
  if s.Draws n d item then { item with visible := f item.visible } else item

/-- The stage with the visibility of all items that draw the destination gone through `f`. -/
def turned (s : Stage) (n : String) (d : Nat) (f : Bool → Bool) : Stage :=
  { s with queue := s.queue.map (s.turn n d f) }

theorem toggle_eq (s : Stage) (n : String) (d : Nat) (t : Toggle) :
    s.toggle n d t =
      if (s.queue.filter (s.Draws n d ·)).length = 0 then .error (.notQueued n d)
      else .ok ((s.queue.filter (s.Draws n d ·)).length, s.turned n d t.apply) := by
  simp only [toggle, refersTo_eq, List.countP_eq_length_filter, decide_eq_true_eq]
  rfl

/-- An edit of visibility takes an item that draws the destination; it answers with their number
and turns them all. -/
theorem toggle_eq_ok_iff :
    s.toggle n d t = .ok (c, s') ↔ 0 < c ∧ c = (s.queue.filter (s.Draws n d ·)).length ∧
      s' = s.turned n d t.apply := by
  rw [toggle_eq]
  split
  · next hc => exact ⟨nofun, fun ⟨hpos, hlen, _⟩ => absurd (hlen.trans hc) (Nat.ne_of_gt hpos)⟩
  · next hc =>
    constructor
    · intro h
      cases h
      exact ⟨Nat.pos_of_ne_zero hc, rfl, rfl⟩
    · rintro ⟨-, rfl, rfl⟩
      rfl

/-- What an item draws does not depend on its visibility. -/
theorem draws_turn (s : Stage) (n : String) (d : Nat) (f : Bool → Bool) (item : QueueItem) :
    s.Draws n d (s.turn n d f item) ↔ s.Draws n d item := by
  rw [turn]
  split <;> exact Iff.rfl

theorem turn_turn (s : Stage) (n : String) (d : Nat) (f g : Bool → Bool) (item : QueueItem) :
    s.turn n d g (s.turn n d f item) = s.turn n d (g ∘ f) item := by
  have hdraws := draws_turn s n d f item
  by_cases h : s.Draws n d item
  · have hf : s.turn n d f item = { item with visible := f item.visible } := if_pos h
    rw [turn, if_pos (hdraws.2 h), hf, turn, if_pos h]
    rfl
  · have hf : s.turn n d f item = item := if_neg h
    rw [hf, turn, turn, if_neg h, if_neg h]

/-- Turning twice is turning once. -/
theorem turned_turned (s : Stage) (n : String) (d : Nat) (f g : Bool → Bool) :
    (s.turned n d f).turned n d g = s.turned n d (g ∘ f) := by
  refine congrArg (fun queue => ({ s with queue } : Stage)) ?_
  rw [turned, List.map_map]
  exact List.map_congr_left fun item _ => turn_turn s n d f g item

/-- Turning keeps the number of items that draw the destination. -/
theorem length_filter_turned (s : Stage) (n : String) (d : Nat) (f : Bool → Bool) :
    ((s.turned n d f).queue.filter ((s.turned n d f).Draws n d ·)).length =
      (s.queue.filter (s.Draws n d ·)).length := by
  rw [← List.countP_eq_length_filter, ← List.countP_eq_length_filter, turned, List.countP_map]
  refine List.countP_congr fun item _ => ?_
  rw [Function.comp_apply, decide_eq_true_iff, decide_eq_true_iff]
  exact draws_turn s n d f item

/-- **Two edits of the same items are one.** -/
theorem toggle_toggle (h : s.toggle n d t = .ok (c, s')) (u : Toggle) :
    s'.toggle n d u = .ok (c, s.turned n d (u.apply ∘ t.apply)) := by
  obtain ⟨hpos, hlen, rfl⟩ := toggle_eq_ok_iff.1 h
  exact toggle_eq_ok_iff.2 ⟨hpos, hlen.trans (length_filter_turned s n d t.apply).symm,
    (turned_turned s n d t.apply u.apply).symm⟩

/-- Turning changes nothing exactly if it changes no item that draws the destination. -/
theorem turned_eq_self_iff :
    s.turned n d f = s ↔
      ∀ item ∈ s.queue.filter (s.Draws n d ·), f item.visible = item.visible := by
  have hqueue : s.turned n d f = s ↔ s.queue.map (s.turn n d f) = s.queue.map id := by
    rw [List.map_id]
    exact ⟨congrArg Stage.queue, congrArg fun queue => ({ s with queue } : Stage)⟩
  rw [hqueue, List.map_inj_left]
  simp only [List.mem_filter, decide_eq_true_eq, and_imp]
  refine forall₂_congr fun item _ => ?_
  by_cases h : s.Draws n d item
  · obtain ⟨sprite, destination, visible⟩ := item
    simp [turn, h]
  · simp [turn, h]

/-! ### The queue afterwards -/

/-- `s'` is `s` with another visibility of every item that draws the destination, and with all items
in their places. -/
structure Toggled (s : Stage) (n : String) (d : Nat) (t : Toggle) (s' : Stage) : Prop where
  rest : s' = { s with queue := s'.queue }
  length : s'.queue.length = s.queue.length
  changed : ∀ (i : Nat) (item : QueueItem), s.queue[i]? = some item → s.Draws n d item →
    s'.queue[i]? = some { item with visible := t.apply item.visible }
  kept : ∀ (i : Nat) (item : QueueItem), s.queue[i]? = some item → ¬ s.Draws n d item →
    s'.queue[i]? = some item

theorem toggled_turned (s : Stage) (n : String) (d : Nat) (t : Toggle) :
    s.Toggled n d t (s.turned n d t.apply) where
  rest := rfl
  length := List.length_map _
  changed i item hi hd := by
    rw [turned, List.getElem?_map, hi, Option.map_some, turn, if_pos hd]
  kept i item hi hd := by
    rw [turned, List.getElem?_map, hi, Option.map_some, turn, if_neg hd]

/-- Of the visible items those are left that were not hidden. -/
theorem filter_visible_off (s : Stage) (n : String) (d : Nat) :
    (s.turned n d Toggle.off.apply).queue.filter (·.visible) =
      (s.queue.filter (·.visible)).filter fun item => ¬ s.Draws n d item := by
  rw [turned, List.filter_map, List.filter_filter]
  have hleft (item : QueueItem) : (s.turn n d Toggle.off.apply item).visible =
      (decide (¬ s.Draws n d item) && item.visible) := by
    by_cases h : s.Draws n d item <;> simp [turn, h]
  have hsame : ∀ item ∈ s.queue.filter (fun item => decide (¬ s.Draws n d item) && item.visible),
      s.turn n d Toggle.off.apply item = item := fun item hi => by
    have hd : ¬ s.Draws n d item := by
      simpa using (Bool.and_eq_true_iff.1 (List.mem_filter.1 hi).2).1
    exact if_neg hd
  rw [show ((·.visible) ∘ s.turn n d Toggle.off.apply) =
    fun item => decide (¬ s.Draws n d item) && item.visible from funext hleft]
  exact (List.map_congr_left hsame).trans (List.map_id _)

/-- **Hiding items takes their calls out and leaves the others in order.** -/
theorem drawCalls_of_off {calls : List DrawCall} (h : s.drawCalls = .ok calls) (n : String)
    (d : Nat) : (s.turned n d Toggle.off.apply).drawCalls =
      .ok ((((s.queue.filter (·.visible)).zip calls).filter fun p => ¬ s.Draws n d p.1).map
        (·.2)) := by
  rw [drawCalls, filter_visible_off]
  exact mapM_filter_eq_ok h _

end Stage

/-! ### Runs -/

namespace Host

open Stage

variable {β : Type} [TextureLoader β] [Canvas β]

/-- **Showing, hiding and flipping write the visibility and nothing else.** After every run, for a
name and a destination that some queued items draw, the answer is their number, and exactly they
are visible, hidden or flipped afterwards, in their places; where no item draws them the edit is
refused and changes nothing. Flipping twice is not to flip, showing or hiding twice is to do it
once. Hiding takes the calls of these items out of the draw calls and leaves the others in order.
Showing them then gives back what there was exactly if all of them had been visible, and with it the
draw calls. -/
theorem toggle_writes_visibility (name : String) (screen : ScreenSize) (b : β)
    (actions : List (Action β)) (n : String) (d : Nat) :
    let h := (Host.new name screen b).run actions
    let s := h.stage
    let drawing := s.queue.filter (s.Draws n d ·)
    (∀ t, if 0 < drawing.length then
        ∃ s', h.edit (s.toggle n d t) = (.ok drawing.length, { h with stage := s' }) ∧
          s.Toggled n d t s'
      else h.edit (s.toggle n d t) = (.error (.notQueued n d), h)) ∧
    (∀ c s', s.toggle n d .flip = .ok (c, s') → s'.toggle n d .flip = .ok (c, s)) ∧
    (∀ t ∈ [Toggle.on, Toggle.off], ∀ c s', s.toggle n d t = .ok (c, s') →
      s'.toggle n d t = .ok (c, s')) ∧
    ∃ calls, s.drawCalls = .ok calls ∧
      (s.queue.filter (·.visible)).map s.drawCall = calls.map .ok ∧
      ∀ c off, s.toggle n d .off = .ok (c, off) →
        off.drawCalls = .ok ((((s.queue.filter (·.visible)).zip calls).filter fun p =>
          ¬ s.Draws n d p.1).map (·.2)) ∧
        ∃ on, off.toggle n d .on = .ok (c, on) ∧
          (on = s ↔ ∀ item ∈ drawing, item.visible = true) ∧
          ((∀ item ∈ drawing, item.visible = true) → on.drawCalls = .ok calls) := by
  intro h s drawing
  have hcalls := ((intact_run name screen b actions).drawable).drawCalls_eq
  refine ⟨fun t => ?_, fun c s' hflip => ?_, fun t ht c s' htoggle => ?_, _, hcalls,
    mapM_eq_ok_iff.1 hcalls, fun c off hoff => ?_⟩
  · rw [toggle_eq]
    split
    · next hpos =>
      rw [if_neg (Nat.ne_of_gt hpos)]
      exact ⟨_, rfl, toggled_turned s n d t⟩
    · next hpos =>
      rw [if_pos (Nat.eq_zero_of_not_pos hpos)]
      rfl
  · rw [toggle_toggle hflip]
    exact congrArg (fun s' => Except.ok (c, s')) (turned_eq_self_iff.2 fun item _ =>
      Toggle.flip_flip item.visible)
  · -- showing and hiding do not look at what was visible
    have hconst : t.apply ∘ t.apply = t.apply := by
      simp only [List.mem_cons, List.not_mem_nil, or_false] at ht
      rcases ht with rfl | rfl <;> rfl
    rw [toggle_toggle htoggle, hconst, (toggle_eq_ok_iff.1 htoggle).2.2]
  · obtain rfl := (toggle_eq_ok_iff.1 hoff).2.2
    have hshown : s.turned n d (Toggle.on.apply ∘ Toggle.off.apply) = s ↔
        ∀ item ∈ drawing, item.visible = true :=
      turned_eq_self_iff.trans (forall₂_congr fun item _ => eq_comm)
    refine ⟨drawCalls_of_off hcalls n d, _, toggle_toggle hoff .on, hshown, fun hall => ?_⟩
    rw [hshown.2 hall]
    exact hcalls

/-- A sprite is queued twice, deleted, made again under its name and queued once more, with another
sprite in between. -/
def namesakes : List (Action Recorder) :=
  [.createFromRectangle "a" 8 8 .black, .createFromRectangle "b" 8 8 .black, .append "a" 0,
    .append "b" 0, .append "a" 0, .deleteSprite "a", .createFromRectangle "a" 8 8 .black,
    .append "a" 0]

/-- All three items are hidden, and shown again. -/
theorem toggle_writes_visibility_of_namesakes :
    let s := ((Host.new "" ⟨320, 200⟩ Recorder.new).run namesakes).stage
    ∃ off on, s.toggle "a" 0 .off = .ok (3, off) ∧
      off.drawCalls.map (·.map (·.sprite)) = .ok ["b"] ∧
      off.toggle "a" 0 .on = .ok (3, on) ∧ on = s ∧ on.drawCalls = s.drawCalls := by
  intro s
  obtain ⟨off, hoff, hleft⟩ : ∃ off, s.toggle "a" 0 .off = .ok (3, off) ∧
      off.drawCalls.map (·.map (·.sprite)) = .ok ["b"] := ⟨_, rfl, rfl⟩
  obtain ⟨-, -, -, calls, hcalls, -, hhidden⟩ :=
    toggle_writes_visibility "" ⟨320, 200⟩ Recorder.new namesakes "a" 0
  obtain ⟨-, on, hon, hback, hagain⟩ := hhidden 3 off hoff
  have hvisible : ∀ item ∈ s.queue.filter (s.Draws "a" 0 ·), item.visible = true := by decide
  exact ⟨off, on, hoff, hleft, hon, hback.2 hvisible, (hagain hvisible).trans hcalls.symm⟩

end Host

end SpriteStage
