import SpriteStage.Proofs.Addressing

/-!
# Directives that overwrite

A directive that neither moves by an offset nor adds a destination says what the addressed
destination becomes. What it becomes does not depend on what it was, but for parts that stay; so
the directive makes the same of it again, also where it looks at the size or the area that it has
just changed.

* `command_of_readDirective`: the command that is read is the one that the words name;
* `Adjustment.Amends.again`: what an overwriting adjustment makes is what it makes of that;
* `apply_again`: it can be applied to a sprite again and changes nothing;
* `overwriting_idempotent`: the same of directives, which are read anew each time.
-/

namespace SpriteStage

namespace Adjustment

variable {a : Adjustment} {r : ValueReader} {args : List String} {word : String} {s s' : Sprite}
  {i : Nat} {old new : Destination} {area : Area} {size : Option (Binary64 × Binary64)}
  {current rect : Rect}

/-! ### Commands -/

theorem command_of_readCenterIn (h : readCenterIn r args = .ok a) : a.command = .centerIn := by
  unfold readCenterIn at h
  split at h
  · iterate 4 obtain ⟨_, -, h⟩ := exists_of_bind_eq_ok h
    cases h
    rfl
  · iterate 8 obtain ⟨_, -, h⟩ := exists_of_bind_eq_ok h
    cases h
    rfl
  · cases h

/-- Only one command changes the size and nothing else, and only one the color. -/
theorem command_of_reach :
    (a.reach = .part .size → a.command = .setSize) ∧
      (a.reach = .part .color → a.command = .setColor) := by
  rcases a with ⟨area, _ | size⟩ | _ | _ | _ | _ | _ | _ <;> simp [reach, command]

/-- What is read for a command is an adjustment by this command. -/
theorem command_of_readArguments {c : Command} (h : readArguments r args c = .ok a) :
    a.command = c := by
  cases c with
  | centerIn => exact command_of_readCenterIn h
  | setSize => exact command_of_reach.1 (reach_of_readSetSize h)
  | setColor => exact command_of_reach.2 (reach_of_readSetColor h)
  | setOptions =>
    obtain ⟨options, -, h⟩ := exists_of_map_eq_ok h
    cases h
    rfl
  | setOrigin | moveBy | addDestination =>
    obtain ⟨⟨x, y⟩, -, h⟩ := exists_of_bind_eq_ok h
    cases h
    rfl

theorem keyword_of_parse (h : parse r word args = .ok a) : a.command.keyword = word := by
  unfold parse at h
  split at h
  · cases h
  · next c hc =>
    rw [command_of_readArguments h]
    exact Command.keyword_of_ofKeyword? hc

/-! ### Applying again -/

/-- An adjustment that says what the destination becomes: it neither moves it by an offset nor adds
another one. -/
def Overwrites (a : Adjustment) : Prop := a.command ≠ .moveBy ∧ a.command ≠ .addDestination

/-- A centred rectangle is centred where it is: the place depends on the size alone, and that is the
one given or the one it kept. -/
theorem centredRect_again (h : centredRect area size current = .ok rect) :
    centredRect area size rect = .ok rect := by
  cases size with
  | none =>
    obtain ⟨x, y, rfl⟩ := centredRect_none h
    exact h
  | some size => exact h

/-- **What an overwriting adjustment makes of a destination, it makes of that again.** -/
theorem Amends.again (ha : a.Overwrites) (h : a.Amends old new) : a.Amends new new := by
  cases h with
  | centerIn h => exact .centerIn (centredRect_again h)
  | setOrigin x y old => exact .setOrigin x y _
  | setOptions options old => exact .setOptions options _
  | setSize width height old => exact .setSize width height _
  | setColor color old => exact .setColor color _
  | moveBy h => exact absurd rfl ha.1

/-- An overwriting adjustment that was applied can be applied again and changes nothing. -/
theorem apply_again (ha : a.Overwrites) (h : a.apply s i = .ok s') : a.apply s' i = .ok s' := by
  rcases apply_eq_ok_iff.1 h with ⟨x, y, rfl, -⟩ | ⟨old, new, hold, hnew, rfl⟩
  · exact absurd rfl ha.2
  · have hi : i < s.destinations.length := (List.getElem?_eq_some_iff.1 hold).1
    refine apply_eq_ok_iff.2 (.inr ⟨new, new, List.getElem?_set_self hi, hnew.again ha, ?_⟩)
    rw [List.set_set]

end Adjustment

namespace Cast

variable {c c' : Cast} {r : ValueReader} {name line : String} {i : Nat} {id : SpriteId}
  {a : Adjustment} {d : Destination}

/-- A directive that neither moves by an offset nor adds a destination. -/
def Directive.Overwriting (d : Directive) : Prop :=
  d.command? ≠ some "moveBy" ∧ d.command? ≠ some "addDestination"

/-- The command that is read is the one that the line names, or the one that centres in another
sprite. -/
theorem command_of_readDirective (h : c.readDirective r line = .ok a) :
    (Text.words line).head? = some a.command.keyword ∨ a.command = .centerIn := by
  unfold readDirective at h
  split at h
  · cases h
  · next command args hwords =>
    rw [hwords, List.head?_cons]
    split at h
    · obtain ⟨other, j, hread⟩ := readCenterInSprite_eq_ok h
      rw [hread, centringIn_eq_ok_iff] at h
      obtain ⟨id, d, -, -, rfl⟩ := h
      exact .inr rfl
    · exact .inl (congrArg some (Adjustment.keyword_of_parse h).symm)

theorem Directive.Overwriting.overwrites {d : Directive} (hd : d.Overwriting)
    (h : c.readDirective r d.line = .ok a) : a.Overwrites := by
  rcases command_of_readDirective h with hcommand | hcentring
  · constructor
    · intro hm
      exact hd.1 (hcommand.trans (by rw [hm]; rfl))
    · intro hm
      exact hd.2 (hcommand.trans (by rw [hm]; rfl))
  · rw [Adjustment.Overwrites, hcentring]
    exact ⟨nofun, nofun⟩

/-- A sprite with a destination was made. -/
theorem lt_of_destination (h : (c.sprite id).destinations[i]? = some d) :
    id.index < c.sprites.length := by
  by_contra hid
  rw [sprite, List.getD_eq_getElem?_getD, List.getElem?_eq_none (Nat.le_of_not_lt hid)] at h
  cases h

/-- **A directive that overwrites can be repeated and changes nothing then.** If a directive that
neither moves by an offset nor adds a destination succeeds, it succeeds again and leaves the cast as
it is. The line is read as the same adjustment, whatever its area was taken from, and of what that
made of the addressed destination it makes the same. -/
theorem overwriting_idempotent (c c' : Cast) (r : ValueReader) (d : Directive)
    (hd : d.Overwriting) (h : c.direct r d.name d.destination d.line = .ok c') :
    c'.direct r d.name d.destination d.line = .ok c' ∧
      ∃ id a old new, c.readDirective r d.line = .ok a ∧ c'.readDirective r d.line = .ok a ∧
        c.locate d.name d.destination = .ok (id, old) ∧
        c'.locate d.name d.destination = .ok (id, new) ∧ a.Amends old new ∧ a.Amends new new := by
  obtain ⟨id, a, s, hid, ha, hs, rfl⟩ := direct_eq_ok_iff.1 h
  have hover : a.Overwrites := hd.overwrites ha
  have hread : (c.replace id s).readDirective r d.line = .ok a :=
    readDirective_of_update ha ((direct_eq_update ha d.name d.destination).symm.trans h)
  rcases Adjustment.apply_eq_ok_iff.1 hs with ⟨x, y, rfl, -⟩ | ⟨old, new, hold, hnew, hs'⟩
  · exact absurd rfl hover.2
  · have hsprite : (c.replace id s).sprite id = s := sprite_replace_of_lt (lt_of_destination hold) s
    have hplace : ((c.replace id s).sprite id).destinations[d.destination]? = some new := by
      rw [hsprite, hs']
      exact List.getElem?_set_self (List.getElem?_eq_some_iff.1 hold).1
    refine ⟨direct_eq_ok_iff.2 ⟨id, a, s, hid, hread, ?_, ?_⟩, id, a, old, new, ha, hread,
      locate_eq_ok_iff.2 ⟨hid, hold⟩, locate_eq_ok_iff.2 ⟨hid, hplace⟩, hnew, hnew.again hover⟩
    · rw [hsprite]
      exact Adjustment.apply_again hover hs
    · rw [replace, replace, List.set_set]

/-- A destination is centred in another one of its sprite, with a half on either side that is
rounded. -/
theorem overwriting_idempotent_of_centring :
    let c : Cast := ⟨[⟨"player", ⟨"small", ⟨1⟩, 20, 10⟩, ⟨0, 0, 20, 10⟩,
      [.plain ⟨0, 0, 20, 10⟩, .plain ⟨3, 3, 5, 7⟩]⟩], [("player", ⟨0⟩)]⟩
    let r : ValueReader := ⟨⟨200, 100⟩⟩
    let d : Directive := ⟨"player", 0, "centerInSprite player 1"⟩
    d.Overwriting ∧ ∃ c', c.direct r "player" 0 d.line = .ok c' ∧
      (c'.sprite ⟨0⟩).destinations.map (·.rect) = [⟨-5, 2, 20, 10⟩, ⟨3, 3, 5, 7⟩] ∧
      c'.direct r "player" 0 d.line = .ok c' := by
  intro c r d
  have hd : d.Overwriting := ⟨by decide, by decide⟩
  obtain ⟨c', hc', hrects⟩ : ∃ c', c.direct r "player" 0 "centerInSprite player 1" = .ok c' ∧
      (c'.sprite ⟨0⟩).destinations.map (·.rect) = [⟨-5, 2, 20, 10⟩, ⟨3, 3, 5, 7⟩] :=
    ⟨_, rfl, rfl⟩
  exact ⟨hd, c', hc', hrects, (overwriting_idempotent c c' r d hd hc').1⟩

end Cast

end SpriteStage
