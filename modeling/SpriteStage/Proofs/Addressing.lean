import SpriteStage.Proofs.Directive
import SpriteStage.Proofs.Register

/-!
# A directive works on the destination it addresses

A directive that adds no destination looks up the one it addresses, makes another of it, which may
be refused, and puts that in its place. So all it depends on is what is found there.

* `Adjustment.amended`: what an adjustment makes of the addressed destination, or why not;
* `Cast.locate`, `Cast.put`: to find a destination by a name and an index, and to replace it;
* `Cast.follow`: a directive with the cast that is left when it fails too; `follow_eq`: it amends
  what it locates;
* `missing_reported_iff`: a directive is refused for a missing destination exactly if there is none
  and it does not add one.
-/

namespace SpriteStage

/-- Changing a destination looks it up first. -/
theorem Sprite.modify_eq (s : Sprite) (i : Nat) (f : Destination → Destination) :
    s.modify i f = do
      let old ← s.get i
      return { s with destinations := s.destinations.set i (f old) } := by
  by_cases hi : i < s.destinations.length
  · have hold := List.getElem?_eq_getElem hi
    rw [Sprite.get_eq_ok_iff.2 hold]
    exact Sprite.modify_eq_ok_iff.2 ⟨_, hold, rfl⟩
  · have hget : s.get i = .error (s.noDestination i) := by simp [Sprite.get, hi]
    rw [Sprite.modify_of_not_lt hi, hget]
    rfl

namespace Adjustment

/-- What an adjustment makes of the destination it addresses. One that adds a destination makes
nothing else of it. -/
def amended (a : Adjustment) (old : Destination) : Except Error Destination :=
  match a with
  | centerIn area size => do return { old with rect := ← centredRect area size old.rect }
  | setOrigin x y => .ok { old with rect := old.rect.movedTo x y }
  | setOptions options => .ok { old with options }
  | setSize width height => .ok { old with rect := old.rect.resized width height }
  | setColor color => .ok { old with color }
  | moveBy dx dy => do
      let (x, y) ← movedCorner old.rect dx dy
      return { old with rect := old.rect.movedTo x y }
  | addDestination .. => .ok old

variable {a : Adjustment} {s : Sprite} {i : Nat} {old : Destination} {e : Error}

/-- **An adjustment that adds nothing looks up its destination before anything else.** -/
theorem apply_eq (h : a.reach ≠ .added) :
    a.apply s i = do
      let old ← s.get i
      let new ← a.amended old
      return { s with destinations := s.destinations.set i new } := by
  cases a with
  | addDestination x y => exact absurd rfl h
  | centerIn area size =>
    cases hd : s.get i with
    | error e => rw [apply, hd]; rfl
    | ok d =>
      rw [apply, hd]
      simp only [Sprite.setRect, Sprite.modify_eq, hd, amended, bind_assoc, pure_bind]
      rfl
  | moveBy dx dy =>
    cases hd : s.get i with
    | error e => rw [apply, hd]; rfl
    | ok d =>
      rw [apply, hd]
      simp only [Sprite.setOrigin, Sprite.modify_eq, hd, amended, bind_assoc, pure_bind]
      rfl
  | _ => exact Sprite.modify_eq s i _

/-- A computation that can fail only because a number has no coordinate. -/
def Blames {α : Type} (x : Except Error α) : Prop :=
  ∀ e, x = .error e → ∃ token reason, e = .parse token reason

theorem blames_ok {α : Type} (x : α) : Blames (.ok x) := by
  intro e he
  cases he

theorem Blames.bind {α γ : Type} {x : Except Error α} {f : α → Except Error γ} (hx : Blames x)
    (hf : ∀ a, Blames (f a)) : Blames (x >>= f) := by
  intro e he
  cases x with
  | error e' => exact hx e (congrArg Except.error (Except.error.inj he))
  | ok a => exact hf a e he

theorem blames_coordinate (c : Command) (value : Binary64) : Blames (coordinate c value) := by
  intro e he
  unfold coordinate ValueReader.coordinate at he
  split at he
  · cases he
  · cases he
    exact ⟨_, _, rfl⟩

theorem blames_movedCorner (current : Rect) (dx dy : Int32) :
    Blames (movedCorner current dx dy) := by
  intro e he
  unfold movedCorner at he
  split at he
  · cases he
  · cases he
    exact ⟨_, _, rfl⟩

theorem blames_centredRect (area : Area) (size : Option (Binary64 × Binary64)) (current : Rect) :
    Blames (centredRect area size current) := by
  have hcorner (width height : Int32) : Blames (do
      let x ← coordinate .centerIn (centredStart area.x area.width width)
      let y ← coordinate .centerIn (centredStart area.y area.height height)
      return (⟨x, y, width, height⟩ : Rect)) :=
    (blames_coordinate _ _).bind fun _ => (blames_coordinate _ _).bind fun _ => blames_ok _
  cases size with
  | none => exact hcorner current.width current.height
  | some size =>
    exact (blames_coordinate _ _).bind fun width => (blames_coordinate _ _).bind fun height =>
      hcorner width height

/-- Only one command adds a destination. -/
theorem Reach.ofWords_eq_added_iff {words : List String} :
    Reach.ofWords words = some .added ↔ words.head? = some "addDestination" := by
  unfold Reach.ofWords
  split
  case h_10 words _ _ _ _ _ _ _ _ hadd =>
    simp only [reduceCtorEq, false_iff, List.head?_eq_some_iff]
    exact fun ⟨tail, htail⟩ => hadd tail htail
  all_goals simp

/-- A destination that is there is refused for its numbers, never for its index. -/
theorem blames_amended (a : Adjustment) (old : Destination) : Blames (a.amended old) := by
  cases a with
  | centerIn area size => exact (blames_centredRect area size old.rect).bind fun _ => blames_ok _
  | moveBy dx dy => exact (blames_movedCorner old.rect dx dy).bind fun _ => blames_ok _
  | _ => exact blames_ok _

end Adjustment

namespace Cast

open Adjustment (Reach)

variable {c c' : Cast} {r : ValueReader} {name : String} {i : Nat} {id : SpriteId}
  {a : Adjustment} {old new : Destination} {e : Error}

/-! ### Finding and replacing a destination -/

/-- The sprite of a name and its destination of an index. -/
def locate (c : Cast) (name : String) (i : Nat) : Except Error (SpriteId × Destination) := do
  let id ← c.get name
  let d ← (c.sprite id).get i
  return (id, d)

/-- Put a destination in the place of one that is there. -/
def put (c : Cast) (id : SpriteId) (i : Nat) (new : Destination) : Cast :=
  c.replace id { c.sprite id with destinations := (c.sprite id).destinations.set i new }

/-- The sprite of a name, and what an adjustment makes of its destination of an index. -/
def amendment (c : Cast) (name : String) (i : Nat) (a : Adjustment) :
    Except Error (SpriteId × Destination) := do
  let (id, old) ← c.locate name i
  let new ← a.amended old
  return (id, new)

/-- Put what was amended in its place; what was refused changes nothing. -/
def enact (c : Cast) (i : Nat) : Except Error (SpriteId × Destination) → Except Error Unit × Cast
  | .ok (id, new) => (.ok (), c.put id i new)
  | .error e => (.error e, c)

theorem update_eq (h : a.reach ≠ .added) (c : Cast) (name : String) (i : Nat) :
    c.update name (a.apply · i) = do
      let (id, new) ← c.amendment name i a
      return c.put id i new := by
  simp only [update, amendment, locate, Adjustment.apply_eq h, bind_assoc, pure_bind]
  rfl

/-! ### Directives -/

/-- A line for a destination of the sprite of a name. -/
structure Directive where
  name : String
  destination : Nat
  line : String

/-- The command of a directive, if it has words. -/
def Directive.command? (d : Directive) : Option String := (Text.words d.line).head?

/-- Follow a directive: how it ended, and the cast after it. One that fails changes nothing. -/
def follow (c : Cast) (r : ValueReader) (d : Directive) : Except Error Unit × Cast :=
  match c.direct r d.name d.destination d.line with
  | .ok c' => (.ok (), c')
  | .error e => (.error e, c)

variable {d : Directive}

/-- What adds a destination is what has that command. -/
theorem reach_eq_added_iff (h : c.readDirective r d.line = .ok a) :
    a.reach = .added ↔ d.command? = some "addDestination" := by
  rw [Directive.command?, ← Reach.ofWords_eq_added_iff, reach_of_readDirective h, Option.some.injEq]

/-- **A directive amends the destination it locates**, unless it adds one. -/
theorem follow_eq (hr : c.readDirective r d.line = .ok a) (ha : a.reach ≠ .added) :
    c.follow r d = c.enact d.destination (c.amendment d.name d.destination a) := by
  rw [follow, direct_eq_update hr, update_eq ha]
  cases c.amendment d.name d.destination a <;> rfl

/-! ### Missing destinations -/

theorem locate_eq_ok_iff {old : Destination} :
    c.locate name i = .ok (id, old) ↔
      c.find? name = some id ∧ (c.sprite id).destinations[i]? = some old := by
  constructor
  · intro h
    obtain ⟨id', hid, h⟩ := exists_of_bind_eq_ok h
    obtain ⟨old', hold, h⟩ := exists_of_bind_eq_ok h
    cases h
    exact ⟨get_eq_ok_iff.1 hid, Sprite.get_eq_ok_iff.1 hold⟩
  · rintro ⟨hid, hold⟩
    rw [locate, bind_of_eq_ok (get_eq_ok_iff.2 hid), bind_of_eq_ok (Sprite.get_eq_ok_iff.2 hold)]
    rfl

theorem locate_of_lt (hid : c.find? name = some id) (hi : i < (c.sprite id).destinations.length) :
    ∃ old, c.locate name i = .ok (id, old) := by
  obtain ⟨old, hold⟩ := Sprite.exists_get_of_lt hi
  exact ⟨old, locate_eq_ok_iff.2 ⟨hid, Sprite.get_eq_ok_iff.1 hold⟩⟩

theorem locate_of_le (hid : c.find? name = some id) (hi : (c.sprite id).destinations.length ≤ i) :
    c.locate name i = .error ((c.sprite id).noDestination i) := by
  rw [locate, bind_of_eq_ok (get_eq_ok_iff.2 hid)]
  simp [bind, Except.bind, Sprite.get, hi]

/-- A missing destination is reported before anything else and leaves the cast alone. -/
theorem follow_of_le (hid : c.find? d.name = some id) (hr : c.readDirective r d.line = .ok a)
    (ha : a.reach ≠ .added) (hi : (c.sprite id).destinations.length ≤ d.destination) :
    c.follow r d = (.error ((c.sprite id).noDestination d.destination), c) := by
  rw [follow_eq hr ha, amendment, locate_of_le hid hi]
  rfl

/-- A destination that is there is never reported as missing. -/
theorem follow_ne_of_lt (hid : c.find? d.name = some id) (hr : c.readDirective r d.line = .ok a)
    (ha : a.reach ≠ .added) (hi : d.destination < (c.sprite id).destinations.length)
    (n : String) (i k : Nat) : (c.follow r d).1 ≠ .error (.noDestination n i k) := by
  obtain ⟨old, hold⟩ := locate_of_lt hid hi
  have hamend : c.amendment d.name d.destination a = (a.amended old).map (id, ·) := by
    rw [amendment, hold]
    cases h : a.amended old <;> simp [bind, Except.bind, pure, Except.pure, Except.map, h]
  rw [follow_eq hr ha, hamend]
  cases hnew : a.amended old with
  | ok new => exact fun h => nomatch h
  | error e =>
    obtain ⟨token, reason, rfl⟩ := Adjustment.blames_amended a old e hnew
    exact fun h => nomatch h

theorem follow_of_added (hid : c.find? d.name = some id) (hr : c.readDirective r d.line = .ok a)
    (ha : a.reach = .added) :
    ∃ x y, c.follow r d = (.ok (), c.replace id ((c.sprite id).addDestination x y)) := by
  cases a with
  | addDestination x y =>
    have hdirect : c.direct r d.name d.destination d.line =
        .ok (c.replace id ((c.sprite id).addDestination x y)) :=
      direct_eq_ok_iff.2 ⟨id, _, _, hid, hr, rfl, rfl⟩
    exact ⟨x, y, by rw [follow, hdirect]⟩
  | centerIn area size => cases size <;> cases ha
  | _ => cases ha

/-- **A missing destination is reported, unless one is added.** After every run of calls, a
directive that can be read for a registered sprite is refused for a missing destination exactly if
its index is not below the number of destinations and its command is not the one that adds a
destination. Then that number is reported and nothing changes. The command that adds one succeeds
whatever index it is given. -/
theorem missing_reported_iff (calls : List Call) (r : ValueReader) (d : Directive) (id : SpriteId)
    (a : Adjustment) (hid : (empty.run calls).find? d.name = some id)
    (hr : (empty.run calls).readDirective r d.line = .ok a) :
    let c := empty.run calls
    let count := (c.sprite id).destinations.length
    (∀ n i k, (c.follow r d).1 = .error (.noDestination n i k) ↔
      (n = d.name ∧ i = d.destination ∧ k = count) ∧
        count ≤ d.destination ∧ d.command? ≠ some "addDestination") ∧
    (count ≤ d.destination → d.command? ≠ some "addDestination" → (c.follow r d).2 = c) ∧
    (d.command? = some "addDestination" → (c.follow r d).1 = .ok () ∧
      ((c.follow r d).2.sprite id).destinations.length = count + 1) := by
  intro c count
  have hc : c.Orderly := orderly_run calls
  have hname : (c.sprite id).name = d.name := hc.name_of_find? hid
  rw [ne_eq, ← reach_eq_added_iff hr]
  by_cases ha : a.reach = .added
  · obtain ⟨x, y, hadd⟩ := follow_of_added hid hr ha
    have hlt : id.index < c.sprites.length := hc.made id (mem_registered_of_find? hid)
    rw [hadd, sprite_replace_of_lt hlt]
    exact ⟨fun n i k => ⟨fun h => (nomatch h), fun h => absurd ha h.2.2⟩,
      fun _ h => absurd ha h, fun _ => ⟨rfl, Sprite.length_addDestination _ x y⟩⟩
  · refine ⟨fun n i k => ⟨fun h => ?_, ?_⟩, fun hi _ => ?_, fun h => absurd h ha⟩
    · rcases Nat.lt_or_ge d.destination count with hi | hi
      · exact absurd h (follow_ne_of_lt hid hr ha hi n i k)
      · rw [follow_of_le hid hr ha hi, Sprite.noDestination, hname] at h
        cases h
        exact ⟨⟨rfl, rfl, rfl⟩, hi, ha⟩
    · rintro ⟨⟨rfl, rfl, rfl⟩, hi, -⟩
      rw [follow_of_le hid hr ha hi, Sprite.noDestination, hname]
    · rw [follow_of_le hid hr ha hi]

/-- A cast of one sprite with one destination. -/
def single : List Call := [.create "player" ⟨"small", ⟨1⟩, 20, 10⟩ .empty]

/-- A sprite with one destination is moved at index 5. -/
theorem missing_reported_of_move :
    let c := empty.run single
    let r : ValueReader := ⟨⟨200, 100⟩⟩
    let d : Directive := ⟨"player", 5, "moveBy 1 2"⟩
    c.find? "player" = some ⟨0⟩ ∧ (∃ a, c.readDirective r d.line = .ok a) ∧
      (c.follow r d).1 = .error (.noDestination "player" 5 1) ∧ (c.follow r d).2 = c := by
  intro c r d
  have hid : c.find? "player" = some ⟨0⟩ := rfl
  obtain ⟨a, hr⟩ : ∃ a, c.readDirective r "moveBy 1 2" = .ok a := ⟨_, rfl⟩
  have h := missing_reported_iff single r d ⟨0⟩ a hid hr
  exact ⟨hid, ⟨a, hr⟩, (h.1 "player" 5 1).2 ⟨⟨rfl, rfl, rfl⟩, by decide, by decide⟩,
    h.2.1 (by decide) (by decide)⟩

/-- Adding a destination at index 5 of a sprite with one destination is not refused. -/
theorem added_at_missing :
    let c := empty.run single
    let r : ValueReader := ⟨⟨200, 100⟩⟩
    let d : Directive := ⟨"player", 5, "addDestination 1 2"⟩
    c.find? "player" = some ⟨0⟩ ∧ (∃ a, c.readDirective r d.line = .ok a) ∧
      (c.sprite ⟨0⟩).destinations.length ≤ d.destination ∧ (c.follow r d).1 = .ok () ∧
      ((c.follow r d).2.sprite ⟨0⟩).destinations.map (·.rect) = [⟨0, 0, 20, 10⟩, ⟨1, 2, 20, 10⟩] := by
  exact ⟨rfl, ⟨_, rfl⟩, by decide, rfl, rfl⟩

end Cast

end SpriteStage
