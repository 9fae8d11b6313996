import Mathlib.Data.List.Nodup
import SpriteStage.Proofs.Directive
import SpriteStage.Proofs.Drawing

/-!
# A directive reaches only its own items

A directive addresses a sprite by its name, and queued items refer to sprites by identity. So it
reaches the items that draw the addressed destination of the sprite that has the name now, however
many there are, and nothing else, not even a deleted sprite of the same name that is still drawn.

* `Stage.Reached`: a stage that differs within the reach of a directive on one sprite;
* `reached_of_direct`: a directive that succeeds leaves such a stage;
* `Reached.drawCall_eq`: other items are drawn as before;
* `Host.direct_reaches`: all of that, after every run.
-/

namespace SpriteStage

open Adjustment (Reach)

/-- No sprite is registered under two names. -/
theorem Cast.name_eq_of_find? {c : Cast} {name other : String} {id : SpriteId}
    (h : c.registered.Nodup) (hn : c.find? name = some id) (ho : c.find? other = some id) :
    name = other := by
  have he := List.inj_on_of_nodup_map h (Host.mem_of_lookup hn) (Host.mem_of_lookup ho) rfl
  exact congrArg Prod.fst he

namespace Stage

/-- `s'` is `s` with one sprite changed within a reach on its destination `d`. -/
structure Reached (s : Stage) (id : SpriteId) (d : Nat) (reach : Reach) (s' : Stage) : Prop where
  /-- The queue, the textures, the retired sprites and the reader are the same. -/
  rest : s' = { s with cast := s'.cast }
  /-- The same names in the same order lead to the same sprites. -/
  entries : s'.cast.entries = s.cast.entries
  length : s'.cast.sprites.length = s.cast.sprites.length
  addressed : (s.cast.sprite id).Reached d reach (s'.cast.sprite id)
  others : ∀ other, other ≠ id → s'.cast.sprite other = s.cast.sprite other

variable {s s' : Stage} {id : SpriteId} {name line : String} {d : Nat} {reach : Reach}
  {item : QueueItem}

theorem direct_eq_ok (h : s.direct name d line = .ok s') :
    ∃ c, s.cast.direct s.reader name d line = .ok c ∧ s' = { s with cast := c } := by
  obtain ⟨c, hc, h⟩ := exists_of_bind_eq_ok h
  cases h
  exact ⟨c, hc, rfl⟩

/-- **A directive that succeeds changes the sprite of the name, as far as its words reach.** -/
theorem reached_of_direct (hb : s.Balanced) (h : s.direct name d line = .ok s') :
    ∃ id reach, s.cast.find? name = some id ∧ Reach.ofWords (Text.words line) = some reach ∧
      s.Reached id d reach s' := by
  obtain ⟨c, hc, rfl⟩ := direct_eq_ok h
  obtain ⟨id, a, sprite, hid, ha, hs, rfl⟩ := Cast.direct_eq_ok_iff.1 hc
  have hlt := hb.made id (List.mem_append_left _ (Cast.mem_registered_of_find? hid))
  refine ⟨id, a.reach, hid, Cast.reach_of_readDirective ha, rfl, rfl, ?_, ?_, fun other ho => ?_⟩
  · exact List.length_set
  · show (s.cast.sprite id).Reached d a.reach ((s.cast.replace id sprite).sprite id)
    rw [Cast.sprite_replace_of_lt hlt]
    exact Sprite.reached_of_apply hs
  · exact Cast.sprite_replace_of_ne ho.symm sprite

/-- An item that does not draw the addressed destination is drawn as before. -/
theorem Reached.drawCall_eq (h : s.Reached id d reach s')
    (hi : item.destination < (s.spriteOf item).destinations.length)
    (hne : item.sprite ≠ id ∨ item.destination ≠ d) : s'.drawCall item = s.drawCall item := by
  by_cases hid : item.sprite = id
  · subst hid
    have ha : (s.spriteOf item).Reached d reach (s'.spriteOf item) := h.addressed
    obtain ⟨dest, hdest⟩ := Sprite.exists_get_of_lt hi
    have hdest' : (s'.spriteOf item).get item.destination = .ok dest := by
      rw [Sprite.get_eq_ok_iff, ha.get_of_ne hi (hne.resolve_left fun hne => hne rfl)]
      exact Sprite.get_eq_ok_iff.1 hdest
    have hkept := ha.extends
    rw [drawCall, drawCall, hdest, hdest', hkept.name, hkept.texture, hkept.source]
  · have hsame : s'.spriteOf item = s.spriteOf item := h.others item.sprite hid
    rw [drawCall, drawCall, hsame]

theorem Reached.extends (h : s.Reached id d reach s') (other : SpriteId) :
    (s.cast.sprite other).Extends (s'.cast.sprite other) := by
  by_cases ho : other = id
  · subst ho
    exact h.addressed.extends
  · rw [h.others other ho]
    exact .refl _

theorem Reached.drawable (h : s.Reached id d reach s') (hs : s.Drawable) : s'.Drawable := by
  intro item hitem
  rw [h.rest] at hitem
  exact Nat.lt_of_lt_of_le (hs item hitem) (h.extends item.sprite).count

/-- **Only the draw calls of items of the addressed destination can be different.** -/
theorem Reached.drawCalls (h : s.Reached id d reach s') (hs : s.Drawable) :
    ∃ calls calls', s.drawCalls = .ok calls ∧ s'.drawCalls = .ok calls' ∧
      calls'.length = calls.length ∧
      ∀ (k : Nat) item, (s.queue.filter (·.visible))[k]? = some item →
        (item.sprite ≠ id ∨ item.destination ≠ d) → calls'[k]? = calls[k]? := by
  have hqueue : s'.queue = s.queue := by rw [h.rest]
  refine ⟨_, _, hs.drawCalls_eq, (h.drawable hs).drawCalls_eq, by simp [hqueue],
    fun k item hk hne => ?_⟩
  have hitem : item ∈ s.queue := List.mem_of_mem_filter (List.mem_of_getElem? hk)
  have hcall := h.drawCall_eq (hs item hitem) hne
  rw [drawCall_eq_ok (hs item hitem),
    drawCall_eq_ok (h.drawable hs item (hqueue ▸ hitem))] at hcall
  rw [hqueue, List.getElem?_map, List.getElem?_map, hk]
  exact congrArg some (Except.ok.inj hcall)

end Stage

namespace Host

variable {β : Type} [TextureLoader β] [Canvas β]

/-- **A directive reaches exactly its own items.** After every run, if a directive for a destination
succeeds, then it changed one sprite, the one that has the name now, and of that only what its words
say: one part of the destination, or it added one behind those there are. Every other sprite is as
it was, whether it has another name or is deleted and still drawn. And of all draw calls only those
of items that draw the destination of that sprite can be different. -/
theorem direct_reaches (title : String) (screen : ScreenSize) (b : β) (actions : List (Action β))
    (name : String) (d : Nat) (line : String) (s' : Stage)
    (hok : ((Host.new title screen b).run actions).stage.direct name d line = .ok s') :
    let s := ((Host.new title screen b).run actions).stage
    ∃ id reach, s.cast.find? name = some id ∧ Reach.ofWords (Text.words line) = some reach ∧
      s.Reached id d reach s' ∧
      (∀ other ∈ s.retired, s'.cast.sprite other = s.cast.sprite other) ∧
      (∀ m other, s.cast.find? m = some other → m ≠ name →
        s'.cast.sprite other = s.cast.sprite other) ∧
      ∃ calls calls', s.drawCalls = .ok calls ∧ s'.drawCalls = .ok calls' ∧
        calls'.length = calls.length ∧
        ∀ (k : Nat) item, (s.queue.filter (·.visible))[k]? = some item →
          (item.sprite ≠ id ∨ item.destination ≠ d) → calls'[k]? = calls[k]? := by
  intro s
  have hi : ((Host.new title screen b).run actions).Intact := intact_run title screen b actions
  have hb : s.Balanced := hi.balanced
  obtain ⟨id, reach, hid, hwords, h⟩ := Stage.reached_of_direct hb hok
  have hreg := Cast.mem_registered_of_find? hid
  refine ⟨id, reach, hid, hwords, h, fun other hother => ?_, fun m other hm hne => ?_, ?_⟩
  · -- no sprite is registered and retired
    refine h.others other fun he => ?_
    exact (List.nodup_append.1 hb.nodup).2.2 id hreg other hother he.symm
  · refine h.others other fun he => hne ?_
    subst he
    exact Cast.name_eq_of_find? (List.nodup_append.1 hb.nodup).1 hm hid
  · exact h.drawCalls hi.drawable

/-- A deleted sprite that is still drawn stays where it is when its namesake moves. -/
theorem namesake_stays :
    let h := (Host.new "" ⟨200, 100⟩ Recorder.new).run
      [.createFromRectangle "a" 10 10 .black, .append "a" 0, .deleteSprite "a",
        .createFromRectangle "a" 10 10 .black, .append "a" 0]
    let s := h.stage
    ∃ s' calls calls', s.direct "a" 0 "moveBy 3 4" = .ok s' ∧ s.retired = [⟨0⟩] ∧
      s'.cast.sprite ⟨0⟩ = s.cast.sprite ⟨0⟩ ∧ s.drawCalls = .ok calls ∧
      s'.drawCalls = .ok calls' ∧ calls'[0]? = calls[0]? := by
  intro h s
  obtain ⟨s', hok⟩ : ∃ s', s.direct "a" 0 "moveBy 3 4" = .ok s' := ⟨_, rfl⟩
  have hretired : s.retired = [⟨0⟩] := rfl
  obtain ⟨id, reach, hid, -, -, hothers, -, calls, calls', hcalls, hcalls', -, hsame⟩ :=
    direct_reaches "" ⟨200, 100⟩ Recorder.new _ "a" 0 "moveBy 3 4" s' hok
  obtain rfl : ⟨1⟩ = id := Option.some.inj hid
  refine ⟨s', calls, calls', hok, hretired, ?_, hcalls, hcalls', ?_⟩
  · exact hothers ⟨0⟩ (hretired ▸ List.mem_singleton_self _)
  · exact hsame 0 ⟨⟨0⟩, 0, true⟩ rfl (.inl (by decide))

end Host

end SpriteStage
