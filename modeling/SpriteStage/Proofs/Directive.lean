import SpriteStage.Proofs.Adjustment
import SpriteStage.Proofs.Cast

/-!
# What the words of a directive decide

The command word of a directive, with the number of its arguments, decides what the directive can
change. The cast it is read against only gives the area of a centring in another sprite.

* `Adjustment.Reach.ofWords`: what of a sprite words can change;
* `reach_of_readDirective`: the adjustment that is read can change that;
* `readCenterInSprite_eq_ok`: which destination gives the area does not depend on the cast;
* `direct_eq_ok_iff`: what a directive that succeeds does to the cast.
-/

namespace SpriteStage

namespace Adjustment

/-- What of a sprite the words of a directive can change, by the command and, for a centring, by
whether a size is given. -/
def Reach.ofWords : List String → Option Reach
  | ["centerIn", _, _, _, _] => some (.part .corner)
  | "centerIn" :: _ => some (.part .rect)
  | "centerInSprite" :: _ => some (.part .corner)
  | "setOrigin" :: _ => some (.part .corner)
  | "moveBy" :: _ => some (.part .corner)
  | "setSize" :: _ => some (.part .size)
  | "setColor" :: _ => some (.part .color)
  | "setOptions" :: _ => some (.part .options)
  | "addDestination" :: _ => some .added
  | _ => none

variable {a : Adjustment} {r : ValueReader} {args : List String} {word : String}

theorem Command.keyword_of_ofKeyword? {c : Command} (h : Command.ofKeyword? word = some c) :
    c.keyword = word := by
  simpa using List.find?_some h

/-- A centring is read with a size or without one, by the number of its arguments. -/
theorem reach_of_readCenterIn (h : readCenterIn r args = .ok a) :
    Reach.ofWords ("centerIn" :: args) = some a.reach := by
  unfold readCenterIn at h
  split at h
  · iterate 4 obtain ⟨_, -, h⟩ := exists_of_bind_eq_ok h
    cases h
    rfl
  · iterate 8 obtain ⟨_, -, h⟩ := exists_of_bind_eq_ok h
    cases h
    rfl
  · cases h

theorem reach_of_readSetSize (h : readSetSize r args = .ok a) : a.reach = .part .size := by
  unfold readSetSize at h
  split at h
  · obtain ⟨width, -, h⟩ := exists_of_bind_eq_ok h
    obtain ⟨height, -, h⟩ := exists_of_bind_eq_ok h
    split at h
    · cases h
    · split at h
      · cases h
      · cases h
        rfl
  · cases h

theorem reach_of_readSetColor (h : readSetColor r args = .ok a) : a.reach = .part .color := by
  unfold readSetColor at h
  split at h
  · iterate 6 obtain ⟨_, -, h⟩ := exists_of_bind_eq_ok h
    cases h
    rfl
  · iterate 8 obtain ⟨_, -, h⟩ := exists_of_bind_eq_ok h
    cases h
    rfl
  · cases h

/-- What is read for a command word can change what the word stands for. -/
theorem reach_of_parse (h : parse r word args = .ok a) :
    Reach.ofWords (word :: args) = some a.reach := by
  unfold parse at h
  split at h
  · cases h
  · next c hc =>
    obtain rfl := Command.keyword_of_ofKeyword? hc
    cases c with
    | centerIn => exact reach_of_readCenterIn h
    | setSize => exact congrArg some (reach_of_readSetSize h).symm
    | setColor => exact congrArg some (reach_of_readSetColor h).symm
    | setOptions =>
      obtain ⟨options, -, h⟩ := exists_of_map_eq_ok h
      cases h
      rfl
    | setOrigin | moveBy | addDestination =>
      obtain ⟨⟨x, y⟩, -, h⟩ := exists_of_bind_eq_ok h
      cases h
      rfl

end Adjustment

namespace Cast

variable {c c' : Cast} {r : ValueReader} {name line : String} {i : Nat} {a : Adjustment}

/-- The centring in a destination of the sprite of a name. -/
def centringIn (c : Cast) (other : String) (j : Nat) : Except Error Adjustment := do
  let area ← (c.sprite (← c.get other)).get j
  return .centerIn (.ofRect area.rect) none

theorem centringIn_eq_ok_iff {other : String} {j : Nat} :
    c.centringIn other j = .ok a ↔ ∃ id d, c.find? other = some id ∧
      (c.sprite id).get j = .ok d ∧ a = .centerIn (.ofRect d.rect) none := by
  constructor
  · intro h
    obtain ⟨id, hid, h⟩ := exists_of_bind_eq_ok h
    obtain ⟨d, hd, h⟩ := exists_of_bind_eq_ok h
    cases h
    exact ⟨id, d, get_eq_ok_iff.1 hid, hd, rfl⟩
  · rintro ⟨id, d, hid, hd, rfl⟩
    rw [centringIn, bind_of_eq_ok (get_eq_ok_iff.2 hid), bind_of_eq_ok hd]
    rfl

/-- The words of a centring that is read name a destination of a sprite, whatever the cast. -/
theorem readCenterInSprite_eq_ok {args : List String} (h : c.readCenterInSprite r args = .ok a) :
    ∃ other j, ∀ c : Cast, c.readCenterInSprite r args = c.centringIn other j := by
  unfold readCenterInSprite at h
  split at h
  · next other => exact ⟨other, 0, fun c => rfl⟩
  · next other index =>
    obtain ⟨j, hj, h⟩ := exists_of_bind_eq_ok h
    refine ⟨other, j, fun c => ?_⟩
    simp only [readCenterInSprite, hj]
    rfl
  · cases h

theorem reach_of_readDirective (h : c.readDirective r line = .ok a) :
    Adjustment.Reach.ofWords (Text.words line) = some a.reach := by
  unfold readDirective at h
  split at h
  · cases h
  · next command args hwords =>
    rw [hwords]
    split at h
    · next hc =>
      subst hc
      obtain ⟨other, j, hread⟩ := readCenterInSprite_eq_ok h
      rw [hread, centringIn_eq_ok_iff] at h
      obtain ⟨id, d, -, -, rfl⟩ := h
      rfl
    · exact Adjustment.reach_of_parse h

theorem direct_eq_ok_iff :
    c.direct r name i line = .ok c' ↔ ∃ id a s, c.find? name = some id ∧
      c.readDirective r line = .ok a ∧ a.apply (c.sprite id) i = .ok s ∧
      c' = c.replace id s := by
  constructor
  · intro h
    obtain ⟨id, hid, h⟩ := exists_of_bind_eq_ok h
    obtain ⟨a, ha, h⟩ := exists_of_bind_eq_ok h
    obtain ⟨s, hs, h⟩ := exists_of_bind_eq_ok h
    cases h
    exact ⟨id, a, s, get_eq_ok_iff.1 hid, ha, hs, rfl⟩
  · rintro ⟨id, a, s, hid, ha, hs, rfl⟩
    rw [direct, bind_of_eq_ok (get_eq_ok_iff.2 hid), bind_of_eq_ok ha, bind_of_eq_ok hs]
    rfl

end Cast

end SpriteStage
