import Mathlib.Data.List.Basic
import SpriteStage.Proofs.Sprite

/-!
# What an adjustment changes

An adjustment that succeeds adds a destination at the end of a sprite, or it amends the one
destination it addresses, and of that only the part its command is about.

* `Adjustment.Amends`: what each adjustment makes of the destination it addresses;
* `apply_eq_ok_iff`: when an adjustment succeeds, and what the sprite is then;
* `Destination.Part`, `Part.Only`: a part of a destination, and a change of nothing else;
* `Adjustment.Reach`, `reach`: what of a sprite an adjustment can change;
* `Sprite.Reached`, `reached_of_apply`: it changes nothing else.
-/

namespace SpriteStage

namespace Destination

/-- A part of a destination that a command can be about. -/
inductive Part
  | corner
  | size
  | rect
  | color
  | options
  deriving DecidableEq, Repr

/-- A change of this part, whatever it becomes, and of nothing else. -/
inductive Part.Only : Part → Destination → Destination → Prop
  | corner (old : Destination) (x y : Int32) :
      Only .corner old { old with rect := old.rect.movedTo x y }
  | size (old : Destination) (width height : Int32) :
      Only .size old { old with rect := old.rect.resized width height }
  | rect (old : Destination) (rect : Rect) : Only .rect old { old with rect }
  | color (old : Destination) (color : Color) : Only .color old { old with color }
  | options (old : Destination) (options : RenderOptions) : Only .options old { old with options }

end Destination

namespace Sprite

theorem modify_eq_ok_iff {s s' : Sprite} {i : Nat} {f : Destination → Destination} :
    s.modify i f = .ok s' ↔ ∃ old, s.destinations[i]? = some old ∧
      s' = { s with destinations := s.destinations.set i (f old) } := by
  constructor
  · intro h
    by_cases hi : i < s.destinations.length
    · rw [modify_of_lt hi] at h
      cases h
      have hold := List.getElem?_eq_getElem hi
      refine ⟨s.destinations[i], hold, ?_⟩
      rw [List.modify_eq_set_getElem?, hold]
      rfl
    · rw [modify_of_not_lt hi] at h
      cases h
  · rintro ⟨old, hold, rfl⟩
    rw [modify_of_lt (List.getElem?_eq_some_iff.1 hold).1, List.modify_eq_set_getElem?, hold]
    rfl

end Sprite

namespace Adjustment

/-- What an adjustment makes of the destination it addresses. -/
inductive Amends : Adjustment → Destination → Destination → Prop
  | centerIn {area : Area} {size : Option (Binary64 × Binary64)} {old : Destination} {rect : Rect}
      (h : centredRect area size old.rect = .ok rect) :
      Amends (.centerIn area size) old { old with rect }
  | setOrigin (x y : Int32) (old : Destination) :
      Amends (.setOrigin x y) old { old with rect := old.rect.movedTo x y }
  | setOptions (options : RenderOptions) (old : Destination) :
      Amends (.setOptions options) old { old with options }
  | setSize (width height : Int32) (old : Destination) :
      Amends (.setSize width height) old { old with rect := old.rect.resized width height }
  | setColor (color : Color) (old : Destination) :
      Amends (.setColor color) old { old with color }
  | moveBy {dx dy x y : Int32} {old : Destination} (h : movedCorner old.rect dx dy = .ok (x, y)) :
      Amends (.moveBy dx dy) old { old with rect := old.rect.movedTo x y }

variable {a : Adjustment} {s s' : Sprite} {i : Nat} {old new : Destination}

/-- **An adjustment adds a destination or amends the one it addresses.** -/
theorem apply_eq_ok_iff :
    a.apply s i = .ok s' ↔
      (∃ x y, a = .addDestination x y ∧ s' = s.addDestination x y) ∨
        ∃ old new, s.destinations[i]? = some old ∧ a.Amends old new ∧
          s' = { s with destinations := s.destinations.set i new } := by
  constructor
  · intro h
    cases a with
    | centerIn area size =>
      obtain ⟨d, hd, h⟩ := exists_of_bind_eq_ok h
      obtain ⟨rect, hrect, h⟩ := exists_of_bind_eq_ok h
      obtain ⟨old, hold, rfl⟩ := Sprite.modify_eq_ok_iff.1 h
      obtain rfl : d = old := Option.some.inj ((Sprite.get_eq_ok_iff.1 hd).symm.trans hold)
      exact .inr ⟨d, _, hold, .centerIn hrect, rfl⟩
    | moveBy dx dy =>
      obtain ⟨d, hd, h⟩ := exists_of_bind_eq_ok h
      obtain ⟨⟨x, y⟩, hcorner, h⟩ := exists_of_bind_eq_ok h
      obtain ⟨old, hold, rfl⟩ := Sprite.modify_eq_ok_iff.1 h
      obtain rfl : d = old := Option.some.inj ((Sprite.get_eq_ok_iff.1 hd).symm.trans hold)
      exact .inr ⟨d, _, hold, .moveBy hcorner, rfl⟩
    | addDestination x y =>
      cases h
      exact .inl ⟨x, y, rfl, rfl⟩
    | setOrigin x y =>
      obtain ⟨old, hold, rfl⟩ := Sprite.modify_eq_ok_iff.1 h
      exact .inr ⟨old, _, hold, .setOrigin x y old, rfl⟩
    | setOptions options =>
      obtain ⟨old, hold, rfl⟩ := Sprite.modify_eq_ok_iff.1 h
      exact .inr ⟨old, _, hold, .setOptions options old, rfl⟩
    | setSize width height =>
      obtain ⟨old, hold, rfl⟩ := Sprite.modify_eq_ok_iff.1 h
      exact .inr ⟨old, _, hold, .setSize width height old, rfl⟩
    | setColor color =>
      obtain ⟨old, hold, rfl⟩ := Sprite.modify_eq_ok_iff.1 h
      exact .inr ⟨old, _, hold, .setColor color old, rfl⟩
  · rintro (⟨x, y, rfl, rfl⟩ | ⟨old, new, hold, ha, rfl⟩)
    · rfl
    · have hget := Sprite.get_eq_ok_iff.2 hold
      cases ha with
      | centerIn h =>
        rw [apply, bind_of_eq_ok hget, bind_of_eq_ok h]
        exact Sprite.modify_eq_ok_iff.2 ⟨old, hold, rfl⟩
      | moveBy h =>
        rw [apply, bind_of_eq_ok hget, bind_of_eq_ok h]
        exact Sprite.modify_eq_ok_iff.2 ⟨old, hold, rfl⟩
      | _ => exact Sprite.modify_eq_ok_iff.2 ⟨old, hold, rfl⟩

/-! ### Reach -/

/-- What of a sprite an adjustment can change. -/
inductive Reach
  /-- One part of the addressed destination. -/
  | part (part : Destination.Part)
  /-- A destination behind those there are. -/
  | added
  deriving DecidableEq, Repr

/-- What of a sprite this adjustment can change. -/
def reach : Adjustment → Reach
  | centerIn _ none => .part .corner
  | centerIn _ (some _) => .part .rect
  | setOrigin .. => .part .corner
  | setOptions .. => .part .options
  | setSize .. => .part .size
  | setColor .. => .part .color
  | moveBy .. => .part .corner
  | addDestination .. => .added

/-- A rectangle that is centred without a size keeps its size. -/
theorem centredRect_none {area : Area} {current rect : Rect}
    (h : centredRect area none current = .ok rect) :
    ∃ x y, rect = current.movedTo x y := by
  obtain ⟨size, hsize, h⟩ := exists_of_bind_eq_ok h
  cases hsize
  obtain ⟨x, -, h⟩ := exists_of_bind_eq_ok h
  obtain ⟨y, -, h⟩ := exists_of_bind_eq_ok h
  cases h
  exact ⟨x, y, rfl⟩

/-- An adjustment amends only the part that it reaches. -/
theorem Amends.only (h : a.Amends old new) :
    ∃ part, a.reach = .part part ∧ part.Only old new := by
  cases h with
  | @centerIn area size old rect h =>
    cases size with
    | none =>
      obtain ⟨x, y, rfl⟩ := centredRect_none h
      exact ⟨.corner, rfl, .corner old x y⟩
    | some size => exact ⟨.rect, rfl, .rect old rect⟩
  | setOrigin x y => exact ⟨.corner, rfl, .corner old x y⟩
  | setOptions options => exact ⟨.options, rfl, .options old options⟩
  | setSize width height => exact ⟨.size, rfl, .size old width height⟩
  | setColor color => exact ⟨.color, rfl, .color old color⟩
  | moveBy h => exact ⟨.corner, rfl, .corner old _ _⟩

end Adjustment

namespace Sprite

open Adjustment (Reach)

/-- A change of a sprite within a reach: of that part of destination `i`, or by one destination
behind those there are. -/
inductive Reached (s : Sprite) (i : Nat) : Reach → Sprite → Prop
  | part {part : Destination.Part} {old new : Destination} (hold : s.destinations[i]? = some old)
      (h : part.Only old new) :
      Reached s i (.part part) { s with destinations := s.destinations.set i new }
  | added (new : Destination) :
      Reached s i .added { s with destinations := s.destinations ++ [new] }

variable {s s' : Sprite} {i j : Nat} {reach : Reach}

/-- **An adjustment changes nothing but what it reaches.** -/
theorem reached_of_apply {a : Adjustment} (h : a.apply s i = .ok s') : s.Reached i a.reach s' := by
  rcases Adjustment.apply_eq_ok_iff.1 h with ⟨x, y, rfl, rfl⟩ | ⟨old, new, hold, ha, rfl⟩
  · exact .added _
  · obtain ⟨part, hpart, honly⟩ := ha.only
    rw [hpart]
    exact .part hold honly

theorem Reached.extends (h : s.Reached i reach s') : s.Extends s' := by
  cases h with
  | part hold h => exact ⟨rfl, rfl, rfl, by simp⟩
  | added new => exact ⟨rfl, rfl, rfl, by simp⟩

/-- The destinations that were there and are not addressed stay. -/
theorem Reached.get_of_ne (h : s.Reached i reach s') (hj : j < s.destinations.length)
    (hne : j ≠ i) : s'.destinations[j]? = s.destinations[j]? := by
  cases h with
  | part hold h => exact List.getElem?_set_ne hne.symm
  | added new => exact List.getElem?_append_left hj

end Sprite

end SpriteStage
