import SpriteStage.Proofs.Drawing

/-!
# What is hit is what is seen

Asking for the item at a point and drawing go through the queue in opposite directions. Both come to
the same item: what is hit is the item whose draw call is the last one that covers the point.

* `DrawCall.Covers`: a point lies in the rectangle that a call draws, as whole numbers;
* `covers_iff_int64`: edges that are computed in 64-bit words decide the same;
* `itemIsInside_iff`: a hit of an item is a point that its call covers;
* `find?_reverse_eq_some_iff`: the last of a list with a property, by what is before and behind it;
* `hit_is_drawn_last`: the item at a point on every stage that a run leaves.
-/

namespace SpriteStage

/-- A point lies in the rectangle that a call draws. -/
def DrawCall.Covers (call : DrawCall) (x y : Int) : Prop :=
  (call.destination.x.toInt ≤ x ∧ x < call.destination.x.toInt + call.destination.width.toInt) ∧
    call.destination.y.toInt ≤ y ∧ y < call.destination.y.toInt + call.destination.height.toInt

/-- A sum of two coordinates fits a 64-bit word. -/
theorem toInt_add_toInt64 (a b : Int32) : (a.toInt64 + b.toInt64).toInt = a.toInt + b.toInt := by
  have ha₁ := a.le_toInt
  have ha₂ := a.toInt_lt
  have hb₁ := b.le_toInt
  have hb₂ := b.toInt_lt
  rw [Int64.toInt_add, Int32.toInt_toInt64, Int32.toInt_toInt64]
  exact Int.bmod_eq_of_le (by omega) (by omega)

/-- Edges that are computed in 64-bit words do not overflow. -/
theorem covers_iff_int64 (call : DrawCall) (x y : Int32) :
    call.Covers x.toInt y.toInt ↔
      let r := call.destination
      (r.x.toInt64 ≤ x.toInt64 ∧ x.toInt64 < r.x.toInt64 + r.width.toInt64) ∧
        r.y.toInt64 ≤ y.toInt64 ∧ y.toInt64 < r.y.toInt64 + r.height.toInt64 := by
  simp only [DrawCall.Covers, Int64.le_iff_toInt_le, Int64.lt_iff_toInt_lt, toInt_add_toInt64,
    Int32.toInt_toInt64]

/-- The last element with a property has none behind it. -/
theorem find?_reverse_eq_some_iff {α : Type} {p : α → Bool} {l : List α} {a : α} :
    l.reverse.find? p = some a ↔
      p a = true ∧ ∃ front back, l = front ++ a :: back ∧ ∀ b ∈ back, ¬ p b = true := by
  rw [List.find?_eq_some_iff_append]
  refine and_congr_right fun _ => ⟨?_, ?_⟩
  · rintro ⟨back, front, hl, hback⟩
    refine ⟨front.reverse, back.reverse, ?_, fun b hb => ?_⟩
    · simpa using congrArg List.reverse hl
    · simpa using hback b (List.mem_reverse.1 hb)
  · rintro ⟨front, back, rfl, hback⟩
    exact ⟨back.reverse, front.reverse, by simp, fun b hb => by
      simpa using hback b (List.mem_reverse.1 hb)⟩

namespace Stage

variable {s : Stage} {item : QueueItem} {x y : Int32}

/-- A point lies in what an item draws when the item's call covers it. -/
theorem itemIsInside_iff (hd : item.destination < (s.spriteOf item).destinations.length) :
    s.itemIsInside x y item = true ↔ (s.callOf item).Covers x.toInt y.toInt := by
  have hget := List.getElem?_eq_getElem hd
  simp only [itemIsInside, Sprite.isInside, hget, Option.any_some, decide_eq_true_eq]
  simp [callOf, DrawCall.Covers, Rect.Contains, List.getD_eq_getElem?_getD, hget, and_assoc]

/-- Hidden items do not matter. -/
theorem itemAt?_eq_find? (s : Stage) (x y : Int32) :
    s.itemAt? x y = (s.queue.filter (·.visible)).reverse.find? (s.itemIsInside x y) := by
  rw [← List.filter_reverse, List.find?_filter]
  simp [itemAt?]

theorem itemAt?_eq_some_iff :
    s.itemAt? x y = some item ↔ (item.visible = true ∧ s.itemIsInside x y item = true) ∧
      ∃ front back, s.queue = front ++ item :: back ∧
        ∀ other ∈ back, ¬ (other.visible = true ∧ s.itemIsInside x y other = true) := by
  rw [itemAt?, find?_reverse_eq_some_iff]
  simp only [Bool.and_eq_true]

/-- A part of a queue draws its part of the calls. -/
theorem Drawable.drawCalls_part {part : List QueueItem} (h : s.Drawable)
    (hp : ∀ item ∈ part, item ∈ s.queue) :
    ({ s with queue := part } : Stage).drawCalls =
      .ok ((part.filter (·.visible)).map s.callOf) :=
  Drawable.drawCalls_eq (s := { s with queue := part }) fun item hi => h item (hp item hi)

theorem Drawable.itemAt?_eq_none_iff (h : s.Drawable) :
    s.itemAt? x y = none ↔ ∀ call ∈ (s.queue.filter (·.visible)).map s.callOf,
      ¬ call.Covers x.toInt y.toInt := by
  rw [itemAt?_eq_find?, List.find?_eq_none, List.forall_mem_map]
  refine forall_congr' fun item => ?_
  rw [List.mem_reverse]
  refine forall_congr' fun hi => not_congr (itemIsInside_iff ?_)
  exact h item (List.mem_filter.1 hi).1

/-- The items behind a place do not hit a point if none of their calls covers it. -/
theorem Drawable.not_hit_iff {back : List QueueItem} (h : s.Drawable)
    (hb : ∀ item ∈ back, item ∈ s.queue) :
    (∀ other ∈ back, ¬ (other.visible = true ∧ s.itemIsInside x y other = true)) ↔
      ∀ later ∈ (back.filter (·.visible)).map s.callOf, ¬ later.Covers x.toInt y.toInt := by
  rw [List.forall_mem_map]
  refine forall_congr' fun other => ?_
  rw [List.mem_filter, and_imp]
  refine forall_congr' fun ho => ?_
  rw [not_and, itemIsInside_iff (h other (hb other ho))]

/-- **The item at a point is the one that draws the last call that covers it.** -/
theorem Drawable.itemAt?_eq_some_iff (h : s.Drawable) :
    s.itemAt? x y = some item ↔ item.visible = true ∧ ∃ front back below call above,
      s.queue = front ++ item :: back ∧
      (s.queue.filter (·.visible)).map s.callOf = below ++ call :: above ∧
      ({ s with queue := front } : Stage).drawCalls = .ok below ∧
      s.drawCall item = .ok call ∧
      ({ s with queue := back } : Stage).drawCalls = .ok above ∧
      call.Covers x.toInt y.toInt ∧ ∀ later ∈ above, ¬ later.Covers x.toInt y.toInt := by
  rw [Stage.itemAt?_eq_some_iff, and_assoc]
  refine and_congr_right fun hv => ?_
  constructor
  · rintro ⟨hinside, front, back, hq, hback⟩
    have hmem : ∀ other ∈ back, other ∈ s.queue := fun other ho => by simp [hq, ho]
    have hdest := h item (by simp [hq])
    refine ⟨front, back, _, _, _, hq, ?_, h.drawCalls_part fun other ho => by simp [hq, ho],
      drawCall_eq_ok hdest, h.drawCalls_part hmem, (itemIsInside_iff hdest).1 hinside,
      (h.not_hit_iff hmem).1 hback⟩
    rw [hq, List.filter_append, List.filter_cons_of_pos hv, List.map_append, List.map_cons]
  · rintro ⟨front, back, below, call, above, hq, -, -, hcall, habove, hcovers, hlater⟩
    have hmem : ∀ other ∈ back, other ∈ s.queue := fun other ho => by simp [hq, ho]
    have hdest := h item (by simp [hq])
    -- the call and the later ones are those of the item and of what is behind it
    obtain rfl : s.callOf item = call := Except.ok.inj ((drawCall_eq_ok hdest).symm.trans hcall)
    obtain rfl : _ = above := Except.ok.inj ((h.drawCalls_part hmem).symm.trans habove)
    exact ⟨(itemIsInside_iff hdest).2 hcovers, front, back, hq, (h.not_hit_iff hmem).2 hlater⟩

end Stage

/-! ### Runs -/

namespace Host

open Stage

variable {β : Type} [TextureLoader β] [Canvas β]

/-- **What is hit is what is seen.** After every run there are draw calls, and the item at a point
is the one whose call is the last that covers the point: of the queue in front of it and behind it
come the calls before and after that one, and none after it covers the point. There is no item at a
point that no call covers. Whether a call covers a point is decided without overflow in 64-bit
words, and items that are hidden make no difference, wherever they stand. -/
theorem hit_is_drawn_last (name : String) (screen : ScreenSize) (b : β) (actions : List (Action β))
    (x y : Int32) :
    let s := ((Host.new name screen b).run actions).stage
    (∃ calls, s.drawCalls = .ok calls ∧
      (s.itemAt? x y = none ↔ ∀ call ∈ calls, ¬ call.Covers x.toInt y.toInt) ∧
      ∀ item, s.itemAt? x y = some item ↔
        item.visible = true ∧ ∃ front back below call above,
          s.queue = front ++ item :: back ∧ calls = below ++ call :: above ∧
          ({ s with queue := front } : Stage).drawCalls = .ok below ∧
          s.drawCall item = .ok call ∧
          ({ s with queue := back } : Stage).drawCalls = .ok above ∧
          call.Covers x.toInt y.toInt ∧ ∀ later ∈ above, ¬ later.Covers x.toInt y.toInt) ∧
    (∀ call : DrawCall, call.Covers x.toInt y.toInt ↔
      let r := call.destination
      (r.x.toInt64 ≤ x.toInt64 ∧ x.toInt64 < r.x.toInt64 + r.width.toInt64) ∧
        r.y.toInt64 ≤ y.toInt64 ∧ y.toInt64 < r.y.toInt64 + r.height.toInt64) ∧
    ∀ queue, queue.filter (·.visible) = s.queue.filter (·.visible) →
      ({ s with queue } : Stage).itemAt? x y = s.itemAt? x y := by
  intro s
  have hd : s.Drawable := (intact_run name screen b actions).drawable
  refine ⟨⟨_, hd.drawCalls_eq, hd.itemAt?_eq_none_iff, fun item => hd.itemAt?_eq_some_iff⟩,
    fun call => covers_iff_int64 call x y, fun queue hq => ?_⟩
  rw [itemAt?_eq_find?, itemAt?_eq_find?, hq]
  rfl

/-- Two sprites on the right edge of the coordinates are queued, and the upper one is hidden. -/
def atEdge : List (Action Recorder) :=
  [.createFromRectangle "a" 8 8 .black, .createFromRectangle "b" 8 8 .black,
    .direct "a" 0 "setOrigin 2147483640 0", .direct "b" 0 "setOrigin 2147483640 0",
    .append "a" 0, .append "b" 0, .toggle "b" 0 .off]

/-- The lower sprite ends past the last coordinate and is hit there, with the hidden one and
without it. -/
theorem hit_at_edge :
    let s := ((Host.new "" ⟨320, 200⟩ Recorder.new).run atEdge).stage
    let item : QueueItem := ⟨⟨0⟩, 0, true⟩
    s.itemAt? 2147483647 3 = some item ∧
      [item].filter (·.visible) = s.queue.filter (·.visible) ∧
      ({ s with queue := [item] } : Stage).itemAt? 2147483647 3 = some item := by
  intro s item
  have hit : s.itemAt? 2147483647 3 = some item := by rfl
  have hvisible : [item].filter (·.visible) = s.queue.filter (·.visible) := by rfl
  obtain ⟨-, -, hidden⟩ :=
    hit_is_drawn_last "" ⟨320, 200⟩ Recorder.new atEdge 2147483647 3
  exact ⟨hit, hvisible, (hidden [item] hvisible).trans hit⟩

end Host

end SpriteStage
