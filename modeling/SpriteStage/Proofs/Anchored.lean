import SpriteStage.Proofs.QueueLedger
import SpriteStage.Proofs.Run

/-!
# Edits next to an anchor

An item that is inserted or moved by name comes to stand right above or right below its anchor, and
everything else keeps its order.

* `Stage.First`: the first item that draws a destination of a sprite of a name, and its position;
* `Beside`: an item was put into a list next to an anchor;
* `insert_eq_ok_iff`, `move_eq_ok_iff`: when these edits succeed and what the queue is then, with
  all positions in range (`beside_insertIdx`, `beside_relocate`);
* `directQueue_anchored`: the directives of these edits do the same for a registered sprite;
* `stands_beside_anchor`: all of that for every queue.
-/

namespace SpriteStage

/-! ### Putting an item next to another -/

namespace Stage

/-- An item at position `p` stands on a side of the item at position `q`. -/
def Side.Next : Side → (p q : Nat) → Prop
  | .after, p, q => p = q + 1
  | .before, p, q => q = p + 1

end Stage

open Stage (Side)

variable {side : Side} {rest queue : List QueueItem} {item anchor : QueueItem} {a p source : Nat}

/-- The list `after` is `rest` with `item` put in at position `p`, next to the item that `rest` has
at position `a`. -/
structure Beside (side : Side) (rest : List QueueItem) (a : Nat) (item anchor : QueueItem) (p : Nat)
    (after : List QueueItem) : Prop where
  anchored : rest[a]? = some anchor
  place : p = a + side.offset
  inRange : p ≤ rest.length
  item : after[p]? = some item
  neighbour : ∃ q, side.Next p q ∧ after[q]? = some anchor
  others : after.eraseIdx p = rest

theorem beside_insertIdx (ha : rest[a]? = some anchor) (item : QueueItem) :
    Beside side rest a item anchor (a + side.offset) (rest.insertIdx (a + side.offset) item) := by
  have hlt : a < rest.length := (List.getElem?_eq_some_iff.1 ha).1
  have hrange : a + side.offset ≤ rest.length := by
    cases side <;> simp only [Side.offset] <;> omega
  refine ⟨ha, rfl, hrange, ?_, ?_, List.eraseIdx_insertIdx_self item⟩
  · rw [List.getElem?_insertIdx_self, if_pos hrange]
  · cases side with
    | after =>
      -- an anchor below the place stays where it was
      refine ⟨a, rfl, ?_⟩
      rw [Side.offset, List.getElem?_insertIdx_of_lt (Nat.lt_succ_self a), ha]
    | before =>
      -- an anchor at the place goes up by one
      refine ⟨a + 1, rfl, ?_⟩
      rw [Side.offset, Nat.add_zero, List.getElem?_insertIdx_of_gt (Nat.lt_succ_self a)]
      exact ha

/-- Where an item is found once the one at `source` is taken out. -/
def shifted (source a : Nat) : Nat := if source < a then a - 1 else a

theorem getElem?_eraseIdx_shifted (l : List QueueItem) (h : source ≠ a) :
    (l.eraseIdx source)[shifted source a]? = l[a]? := by
  unfold shifted
  split
  · next hlt =>
    rw [List.getElem?_eraseIdx_of_ge (by omega)]
    congr 1
    omega
  · next hlt => rw [List.getElem?_eraseIdx_of_lt (by omega)]

/-- **An item that is moved next to another one stands there, and the rest stays in order.** -/
theorem beside_relocate {moved : QueueItem} (hm : queue[source]? = some moved)
    (ha : queue[a]? = some anchor) (hne : source ≠ a) :
    Beside side (queue.eraseIdx source) (shifted source a) moved anchor
      (Stage.targetOf side source a) (Stage.relocate side source a queue) := by
  have hanchor : (queue.eraseIdx source)[shifted source a]? = some anchor :=
    (getElem?_eraseIdx_shifted queue hne).trans ha
  rw [Stage.relocate, hm]
  simp only [if_neg hne]
  exact beside_insertIdx hanchor moved

namespace Stage

variable {s t : Stage} {name other line : String} {d i j : Nat}

/-! ### The first item of a name -/

/-- The first item that draws destination `d` of a sprite of a name, and its position. -/
structure First (s : Stage) (name : String) (d i : Nat) (item : QueueItem) : Prop where
  place : s.queue[i]? = some item
  draws : (s.spriteOf item).name = name ∧ item.destination = d
  first : ∀ k < i, ∀ earlier, s.queue[k]? = some earlier →
    ¬ ((s.spriteOf earlier).name = name ∧ earlier.destination = d)

theorem refersTo_iff : s.refersTo name d item = true ↔
    (s.spriteOf item).name = name ∧ item.destination = d := by
  simp [refersTo, and_comm]

theorem position_eq_ok_iff_first :
    s.position name d = .ok i ↔ ∃ item, s.First name d i item := by
  rw [position_eq_ok_iff, findItem?, List.findIdx?_eq_some_iff_getElem]
  constructor
  · rintro ⟨hi, hrefers, hfirst⟩
    refine ⟨s.queue[i], List.getElem?_eq_getElem hi, refersTo_iff.1 hrefers, fun k hk e he => ?_⟩
    obtain ⟨hk', rfl⟩ := List.getElem?_eq_some_iff.1 he
    exact fun hd => hfirst k hk (refersTo_iff.2 hd)
  · rintro ⟨item, hplace, hdraws, hfirst⟩
    obtain ⟨hi, rfl⟩ := List.getElem?_eq_some_iff.1 hplace
    refine ⟨hi, refersTo_iff.2 hdraws, fun k hk hrefers => ?_⟩
    exact hfirst k hk _ (List.getElem?_eq_getElem (Nat.lt_trans hk hi)) (refersTo_iff.1 hrefers)

/-- There is only one first item. -/
theorem First.unique {i' : Nat} {item' : QueueItem} (h : s.First name d i item)
    (h' : s.First name d i' item') : i = i' ∧ item = item' := by
  have hi := position_eq_ok_iff_first.2 ⟨item, h⟩
  have hi' := position_eq_ok_iff_first.2 ⟨item', h'⟩
  obtain rfl : i = i' := Except.ok.inj (hi.symm.trans hi')
  exact ⟨rfl, Option.some.inj (h.place.symm.trans h'.place)⟩

/-! ### Inserting and moving -/

theorem newItemNamed_eq_ok_iff :
    s.newItemNamed name d = .ok item ↔ ∃ id, s.cast.find? name = some id ∧
      d < (s.cast.sprite id).destinations.length ∧ item = ⟨id, d, true⟩ := by
  constructor
  · intro h
    obtain ⟨id, hid, h⟩ := exists_of_bind_eq_ok h
    obtain ⟨rfl, hd⟩ := newItem_eq_ok_iff.1 h
    exact ⟨id, Cast.get_eq_ok_iff.1 hid, hd, rfl⟩
  · rintro ⟨id, hid, hd, rfl⟩
    rw [newItemNamed, bind_of_eq_ok (Cast.get_eq_ok_iff.2 hid)]
    exact newItem_eq_ok_iff.2 ⟨rfl, hd⟩

/-- Inserting takes a registered sprite with the destination and a queued anchor. -/
theorem insert_eq_ok_iff :
    s.insert side name d other j = .ok (p, t) ↔
      ∃ id a anchor, s.cast.find? name = some id ∧
        d < (s.cast.sprite id).destinations.length ∧ s.First other j a anchor ∧
        p = a + side.offset ∧ t = { s with queue := s.queue.insertIdx p ⟨id, d, true⟩ } := by
  constructor
  · intro h
    obtain ⟨new, hn, h⟩ := exists_of_bind_eq_ok h
    obtain ⟨id, hid, hd, rfl⟩ := newItemNamed_eq_ok_iff.1 hn
    obtain ⟨a, ha, h⟩ := exists_of_bind_eq_ok h
    obtain ⟨anchor, hfirst⟩ := position_eq_ok_iff_first.1 ha
    cases h
    exact ⟨id, a, anchor, hid, hd, hfirst, rfl, rfl⟩
  · rintro ⟨id, a, anchor, hid, hd, hfirst, rfl, rfl⟩
    have hn := newItemNamed_eq_ok_iff.2 ⟨id, hid, hd, rfl⟩
    have ha := position_eq_ok_iff_first.2 ⟨anchor, hfirst⟩
    rw [insert, bind_of_eq_ok hn, bind_of_eq_ok ha]
    rfl

/-- Moving takes a queued item and a queued anchor. -/
theorem move_eq_ok_iff :
    s.move side name d other j = .ok (p, t) ↔
      ∃ source moved a anchor, s.First name d source moved ∧ s.First other j a anchor ∧
        p = (if source = a then source else targetOf side source a) ∧
        t = { s with queue := relocate side source a s.queue } := by
  constructor
  · intro h
    obtain ⟨source, hsource, h⟩ := exists_of_bind_eq_ok h
    obtain ⟨a, ha, h⟩ := exists_of_bind_eq_ok h
    obtain ⟨moved, hmoved⟩ := position_eq_ok_iff_first.1 hsource
    obtain ⟨anchor, hanchor⟩ := position_eq_ok_iff_first.1 ha
    cases h
    exact ⟨source, moved, a, anchor, hmoved, hanchor, rfl, rfl⟩
  · rintro ⟨source, moved, a, anchor, hmoved, hanchor, rfl, rfl⟩
    have hsource := position_eq_ok_iff_first.2 ⟨moved, hmoved⟩
    have ha := position_eq_ok_iff_first.2 ⟨anchor, hanchor⟩
    rw [move, bind_of_eq_ok hsource, bind_of_eq_ok ha]
    rfl

theorem relocate_self (h : s.First name d i item) : relocate side i i s.queue = s.queue := by
  simp [relocate, h.place]

/-! ### By directive -/

/-- The words behind a command that name an anchor: without an index it draws destination zero. -/
inductive AnchorWords (r : ValueReader) : List String → String → Nat → Prop
  | bare (other : String) : AnchorWords r [other] other 0
  | indexed {other index : String} {j : Nat} (h : r.index index = .ok j) :
      AnchorWords r [other, index] other j

theorem readAnchor_of_words {r : ValueReader} {command : String} {args : List String}
    (h : AnchorWords r args other j) : QueueEdit.readAnchor r command args = .ok (other, j) := by
  cases h with
  | bare => rfl
  | indexed h =>
    rw [QueueEdit.readAnchor, bind_of_eq_ok h]
    rfl

/-- No edit with an anchor has the keyword of one without. -/
theorem keyword_ne (edit : AnchoredEdit) :
    edit.keyword ≠ "append" ∧ edit.keyword ≠ "remove" ∧ edit.keyword ≠ "toggle" := by
  cases edit with
  | insert side => cases side <;> decide
  | move side => cases side <;> decide
  | swap => decide

/-- A directive with an anchor is read by the words behind its keyword. -/
theorem parse_of_keyword {r : ValueReader} {edit : AnchoredEdit} {args : List String}
    (hl : Text.words line = edit.keyword :: args) :
    QueueEdit.parse r line =
      (QueueEdit.readAnchor r edit.keyword args).map fun p => .anchored edit p.1 p.2 := by
  obtain ⟨happend, hremove, htoggle⟩ := keyword_ne edit
  unfold QueueEdit.parse
  simp only [hl, if_neg happend, if_neg hremove, if_neg htoggle, AnchoredEdit.ofKeyword?_keyword]
  rfl

theorem parse_anchored {r : ValueReader} {edit : AnchoredEdit} {args : List String}
    (hl : Text.words line = edit.keyword :: args) (ha : AnchorWords r args other j) :
    QueueEdit.parse r line = .ok (.anchored edit other j) := by
  rw [parse_of_keyword hl, readAnchor_of_words ha]
  rfl

/-- A directive with an anchor does for a registered sprite what its edit does. -/
theorem directQueue_anchored {edit : AnchoredEdit} {args : List String}
    (hn : s.cast.contains name = true) (hl : Text.words line = edit.keyword :: args)
    (ha : AnchorWords s.reader args other j) :
    s.directQueue name d line = (QueueEdit.anchored edit other j).apply s name d := by
  simp only [directQueue, hn, parse_anchored hl ha]
  rfl

/-! ### Every queue -/

/-- **An anchored edit puts its item next to the anchor.** The anchor is the first item that draws
the anchor's destination. Inserting succeeds for a registered sprite with the destination and a
queued anchor; it puts a new visible item next to the anchor, and taking that out again gives the
old queue. Moving succeeds for a queued item and a queued anchor; an item that is its own anchor
stays, and any other comes to stand next to the anchor as it is, with the rest of the queue in
order. Every position that is used is one of the list. The answer is the position of the item. For a
registered sprite the directives of these edits do the same. -/
theorem stands_beside_anchor (s : Stage) (side : Side) (name : String) (d : Nat) (other : String)
    (j : Nat) :
    ((∃ p t, s.insert side name d other j = .ok (p, t)) ↔
      (∃ id, s.cast.find? name = some id ∧ d < (s.cast.sprite id).destinations.length) ∧
        ∃ a anchor, s.First other j a anchor) ∧
    (∀ p t, s.insert side name d other j = .ok (p, t) →
      ∃ id a anchor, s.cast.find? name = some id ∧ s.First other j a anchor ∧
        Beside side s.queue a ⟨id, d, true⟩ anchor p t.queue ∧
        t = { s with queue := t.queue }) ∧
    ((∃ p t, s.move side name d other j = .ok (p, t)) ↔
      (∃ source moved, s.First name d source moved) ∧ ∃ a anchor, s.First other j a anchor) ∧
    (∀ p t, s.move side name d other j = .ok (p, t) →
      ∃ source moved a anchor, s.First name d source moved ∧ s.First other j a anchor ∧
        if source = a then p = source ∧ t = s
        else Beside side (s.queue.eraseIdx source) (shifted source a) moved anchor p t.queue ∧
          t = { s with queue := t.queue }) ∧
    (∀ line args, s.cast.contains name = true → AnchorWords s.reader args other j →
      (Text.words line = (AnchoredEdit.insert side).keyword :: args →
        s.directQueue name d line = (s.insert side name d other j).map (·.2)) ∧
      (Text.words line = (AnchoredEdit.move side).keyword :: args →
        s.directQueue name d line = (s.move side name d other j).map (·.2))) := by
  refine ⟨⟨?_, ?_⟩, fun p t h => ?_, ⟨?_, ?_⟩, fun p t h => ?_, fun line args hn ha =>
    ⟨fun hl => directQueue_anchored hn hl ha, fun hl => directQueue_anchored hn hl ha⟩⟩
  · rintro ⟨p, t, h⟩
    obtain ⟨id, a, anchor, hid, hd, hfirst, -⟩ := insert_eq_ok_iff.1 h
    exact ⟨⟨id, hid, hd⟩, a, anchor, hfirst⟩
  · rintro ⟨⟨id, hid, hd⟩, a, anchor, hfirst⟩
    exact ⟨_, _, insert_eq_ok_iff.2 ⟨id, a, anchor, hid, hd, hfirst, rfl, rfl⟩⟩
  · obtain ⟨id, a, anchor, hid, -, hfirst, rfl, rfl⟩ := insert_eq_ok_iff.1 h
    exact ⟨id, a, anchor, hid, hfirst, beside_insertIdx hfirst.place _, rfl⟩
  · rintro ⟨p, t, h⟩
    obtain ⟨source, moved, a, anchor, hmoved, hanchor, -⟩ := move_eq_ok_iff.1 h
    exact ⟨⟨source, moved, hmoved⟩, a, anchor, hanchor⟩
  · rintro ⟨⟨source, moved, hmoved⟩, a, anchor, hanchor⟩
    exact ⟨_, _, move_eq_ok_iff.2 ⟨source, moved, a, anchor, hmoved, hanchor, rfl, rfl⟩⟩
  · obtain ⟨source, moved, a, anchor, hmoved, hanchor, rfl, rfl⟩ := move_eq_ok_iff.1 h
    refine ⟨source, moved, a, anchor, hmoved, hanchor, ?_⟩
    split
    · next hself =>
      subst hself
      exact ⟨rfl, by rw [relocate_self hmoved]⟩
    · next hne => exact ⟨beside_relocate hmoved.place hanchor.place hne, rfl⟩

/-- Two sprites, each queued twice. -/
def doubled : Stage :=
  ((Host.new "" ⟨320, 200⟩ Recorder.new).run
    [.createFromRectangle "a" 8 8 .black, .createFromRectangle "b" 8 8 .black, .append "a" 0,
      .append "b" 0, .append "a" 0, .append "b" 0]).stage

/-- The first of two equal items is moved, and the first of two others is its anchor. -/
theorem stands_beside_first :
    doubled.First "b" 0 1 ⟨⟨1⟩, 0, true⟩ ∧ doubled.First "a" 0 0 ⟨⟨0⟩, 0, true⟩ ∧
    (∃ p t, doubled.move .before "b" 0 "a" 0 = .ok (p, t) ∧
      Beside .before (doubled.queue.eraseIdx 1) 0 ⟨⟨1⟩, 0, true⟩ ⟨⟨0⟩, 0, true⟩ p t.queue) ∧
    doubled.directQueue "b" 0 "moveBefore a" = (doubled.move .before "b" 0 "a" 0).map (·.2) := by
  obtain ⟨moved, hmoved⟩ :=
    position_eq_ok_iff_first.1 (show doubled.position "b" 0 = .ok 1 from rfl)
  obtain ⟨anchor, hanchor⟩ :=
    position_eq_ok_iff_first.1 (show doubled.position "a" 0 = .ok 0 from rfl)
  obtain rfl : ⟨⟨1⟩, 0, true⟩ = moved := Option.some.inj hmoved.place
  obtain rfl : ⟨⟨0⟩, 0, true⟩ = anchor := Option.some.inj hanchor.place
  obtain ⟨-, -, hmove, hbeside, hline⟩ := stands_beside_anchor doubled .before "b" 0 "a" 0
  obtain ⟨p, t, h⟩ := hmove.2 ⟨⟨_, _, hmoved⟩, _, _, hanchor⟩
  obtain ⟨source, moved, a, anchor, hmoved', hanchor', hstands⟩ := hbeside p t h
  obtain ⟨rfl, rfl⟩ := hmoved.unique hmoved'
  obtain ⟨rfl, rfl⟩ := hanchor.unique hanchor'
  exact ⟨hmoved, hanchor, ⟨p, t, h, hstands.1⟩, (hline _ ["a"] rfl (.bare "a")).2 (by decide)⟩

end Stage

end SpriteStage
