import SpriteStage.Adjustment

/-!
# What a change of a sprite leaves alone

A sprite keeps its name, its texture and its source through every change, and it never loses a
destination.

* `Sprite.Extends s s'`: `s'` is `s` up to its destinations, of which there are no fewer;
* `Sprite.Change`: the changes that whoever refers to a sprite can make;
* `Change.extends_of_apply`: each of them extends the sprite.
-/

namespace SpriteStage

/-! ### Extensions -/

/-- `s'` is `s` with other destinations, but no fewer of them. -/
structure Sprite.Extends (s s' : Sprite) : Prop where
  name : s'.name = s.name
  texture : s'.texture = s.texture
  source : s'.source = s.source
  count : s.destinations.length ≤ s'.destinations.length

namespace Sprite

theorem Extends.refl (s : Sprite) : Extends s s := ⟨rfl, rfl, rfl, Nat.le_refl _⟩

theorem Extends.trans {s t u : Sprite} (h₁ : Extends s t) (h₂ : Extends t u) : Extends s u :=
  ⟨h₂.name.trans h₁.name, h₂.texture.trans h₁.texture, h₂.source.trans h₁.source,
    Nat.le_trans h₁.count h₂.count⟩

theorem extends_addDestination (s : Sprite) (x y : Int32) : Extends s (s.addDestination x y) :=
  ⟨rfl, rfl, rfl, by simp⟩

theorem extends_of_modify {s s' : Sprite} {i : Nat} {f : Destination → Destination}
    (h : s.modify i f = .ok s') : Extends s s' := by
  by_cases hi : i < s.destinations.length
  · rw [modify_of_lt hi] at h
    cases h
    exact ⟨rfl, rfl, rfl, by simp⟩
  · rw [modify_of_not_lt hi] at h
    cases h

/-- Every destination that `get` finds is one of those counted. -/
theorem lt_of_get {s : Sprite} {i : Nat} {d : Destination} (h : s.get i = .ok d) :
    i < s.destinations.length :=
  (List.getElem?_eq_some_iff.1 (get_eq_ok_iff.1 h)).1

theorem exists_get_of_lt {s : Sprite} {i : Nat} (h : i < s.destinations.length) :
    ∃ d, s.get i = .ok d :=
  ⟨s.destinations[i], get_eq_ok_iff.2 (List.getElem?_eq_getElem h)⟩

theorem extends_of_centerIn {s s' : Sprite} {i : Nat} {area : Rect}
    (h : s.centerIn i area = .ok s') : Extends s s' := by
  obtain ⟨d, -, h⟩ := exists_of_bind_eq_ok h
  obtain ⟨x, -, h⟩ := exists_of_bind_eq_ok h
  obtain ⟨y, -, h⟩ := exists_of_bind_eq_ok h
  exact extends_of_modify h

theorem extends_of_adjustment {a : Adjustment} {s s' : Sprite} {i : Nat}
    (h : a.apply s i = .ok s') : Extends s s' := by
  cases a with
  | centerIn area size =>
    obtain ⟨d, -, h⟩ := exists_of_bind_eq_ok h
    obtain ⟨rect, -, h⟩ := exists_of_bind_eq_ok h
    exact extends_of_modify h
  | moveBy dx dy =>
    obtain ⟨d, -, h⟩ := exists_of_bind_eq_ok h
    obtain ⟨corner, -, h⟩ := exists_of_bind_eq_ok h
    exact extends_of_modify h
  | addDestination x y =>
    cases h
    exact extends_addDestination s x y
  | setOrigin x y => exact extends_of_modify h
  | setOptions options => exact extends_of_modify h
  | setSize width height => exact extends_of_modify h
  | setColor color => exact extends_of_modify h

/-! ### Changes through a reference -/

/-- A change that whoever refers to a sprite can make without a directive. -/
inductive Change
  /-- Replace a destination's rectangle. -/
  | place (i : Nat) (rect : Rect)
  /-- Centre a destination in an area. -/
  | center (i : Nat) (area : Rect)
  | adjust (i : Nat) (a : Adjustment)

/-- Make a change. -/
def Change.apply (s : Sprite) : Change → Except Error Sprite
  | place i rect => s.setRect i rect
  | center i area => s.centerIn i area
  | adjust i a => a.apply s i

/-- **No change of a sprite touches its name, texture or source or takes a destination away.** -/
theorem Change.extends_of_apply {c : Change} {s s' : Sprite} (h : c.apply s = .ok s') :
    Extends s s' := by
  cases c with
  | place i rect => exact extends_of_modify h
  | center i area => exact extends_of_centerIn h
  | adjust i a => exact extends_of_adjustment h

end Sprite

end SpriteStage
