import SpriteStage.Proofs.Addressing
import SpriteStage.Proofs.Reach

/-!
# Directives for different destinations commute

A directive that neither adds a destination nor looks at another one depends on the destination it
addresses and writes no other. So two of them for different destinations can change places: neither
notices whether the other one came first.

* `Directive.Local`: such directives; how they are read does not depend on the cast;
* `locate_put`: a destination that was replaced is not found at another address;
* `put_comm`: replacing two destinations in either order;
* `directives_commute`: the same of following two directives, also of those that fail.
-/

namespace SpriteStage

/-- Where another destination is replaced, a sprite has the same destination, or misses it for the
same reason. -/
theorem Sprite.get_set_of_ne {s : Sprite} {i j : Nat} (h : i ≠ j) (x : Destination) :
    ({ s with destinations := s.destinations.set i x } : Sprite).get j = s.get j := by
  simp [get, noDestination, List.getElem?_set_ne h]

namespace Cast

/-- A directive that neither adds a destination nor takes an area from another one. -/
def Directive.Local (d : Directive) : Prop :=
  d.command? ≠ some "addDestination" ∧ d.command? ≠ some "centerInSprite"

/-- Two directives are for different destinations, of one sprite or of two. -/
def Directive.Apart (d₁ d₂ : Directive) : Prop :=
  d₁.name ≠ d₂.name ∨ d₁.destination ≠ d₂.destination

variable {c : Cast} {r : ValueReader} {name other : String} {i j : Nat} {id id' : SpriteId}
  {a a₁ a₂ : Adjustment} {x : Destination} {d₁ d₂ : Directive}

theorem Directive.Apart.symm (h : d₁.Apart d₂) : d₂.Apart d₁ := h.imp Ne.symm Ne.symm

theorem Directive.Local.reach_ne_added {d : Directive} (hd : d.Local)
    (hr : c.readDirective r d.line = .ok a) : a.reach ≠ .added :=
  fun h => hd.1 ((reach_eq_added_iff hr).1 h)

/-- A local directive is read without looking at the cast. -/
theorem readDirective_of_local {d : Directive} (hd : d.Local) (c c' : Cast) (r : ValueReader) :
    c.readDirective r d.line = c'.readDirective r d.line := by
  unfold readDirective
  cases hw : Text.words d.line with
  | nil => rfl
  | cons command args =>
    have hcommand : command ≠ centerInSpriteKeyword := fun he =>
      hd.2 (by rw [Directive.command?, hw, List.head?_cons, he]; rfl)
    simp only [if_neg hcommand]

/-! ### Replacing destinations -/

theorem sprite_put_of_ne (h : id ≠ id') (x : Destination) :
    (c.put id i x).sprite id' = c.sprite id' :=
  sprite_replace_of_ne h _

theorem sprite_put_self (hid : id.index < c.sprites.length) (x : Destination) :
    (c.put id i x).sprite id =
      { c.sprite id with destinations := (c.sprite id).destinations.set i x } :=
  sprite_replace_of_lt hid _

/-- At another address the same is found, or missed for the same reason. -/
theorem locate_put (hc : c.Orderly) (hid : c.find? name = some id) (hne : name ≠ other ∨ i ≠ j)
    (x : Destination) : (c.put id i x).locate other j = c.locate other j := by
  have hget : (c.put id i x).get other = c.get other := rfl
  unfold locate
  rw [hget]
  cases hother : c.get other with
  | error e => rfl
  | ok id' =>
    have hsprite : ((c.put id i x).sprite id').get j = (c.sprite id').get j := by
      by_cases h : id = id'
      · -- one name leads to the sprite, so the indices are different
        subst h
        have hname : name = other := name_eq_of_find? hc.sprites hid (get_eq_ok_iff.1 hother)
        have hij : i ≠ j := hne.resolve_left fun hn => hn hname
        rw [sprite_put_self (hc.made id (mem_registered_of_find? hid))]
        exact Sprite.get_set_of_ne hij x
      · rw [sprite_put_of_ne h]
    simp only [bind, Except.bind, hsprite]

theorem replace_comm (hne : id ≠ id') (s t : Sprite) :
    (c.replace id s).replace id' t = (c.replace id' t).replace id s := by
  have hindex : id.index ≠ id'.index := fun h => hne (by cases id; cases id'; simp_all)
  simp only [replace, List.set_comm s t hindex]

theorem put_comm (hne : id ≠ id' ∨ i ≠ j) (hid : id.index < c.sprites.length)
    (hid' : id'.index < c.sprites.length) (x y : Destination) :
    (c.put id i x).put id' j y = (c.put id' j y).put id i x := by
  by_cases h : id = id'
  · subst h
    have hij : i ≠ j := hne.resolve_left fun hn => hn rfl
    rw [put, sprite_put_self hid, put.eq_def (c.put id j y), sprite_put_self hid]
    simp only [put, replace, List.set_set, List.set_comm x y hij]
  · rw [put, sprite_put_of_ne h, put.eq_def (c.put id' j y), sprite_put_of_ne (Ne.symm h)]
    exact replace_comm h _ _

/-! ### Following directives -/

theorem find?_of_amendment (h : c.amendment name i a = .ok (id, x)) : c.find? name = some id := by
  obtain ⟨⟨id', old⟩, hlocate, h⟩ := exists_of_bind_eq_ok h
  obtain ⟨new, -, h⟩ := exists_of_bind_eq_ok h
  cases h
  obtain ⟨id', hget, hlocate⟩ := exists_of_bind_eq_ok hlocate
  obtain ⟨d, -, hlocate⟩ := exists_of_bind_eq_ok hlocate
  cases hlocate
  exact get_eq_ok_iff.1 hget

/-- What is amended at one address does not depend on what was put at another. -/
theorem amendment_put (hc : c.Orderly) (hid : c.find? name = some id) (hne : name ≠ other ∨ i ≠ j)
    (x : Destination) (a : Adjustment) :
    (c.put id i x).amendment other j a = c.amendment other j a := by
  rw [amendment, amendment, locate_put hc hid hne]

/-- A directive is enacted as if another one for a different destination had not come first. -/
theorem follow_follow (hc : c.Orderly) (hd₁ : d₁.Local) (hd₂ : d₂.Local) (hne : d₁.Apart d₂)
    (h₁ : c.readDirective r d₁.line = .ok a₁) (h₂ : c.readDirective r d₂.line = .ok a₂) :
    (c.follow r d₁).2.follow r d₂ =
      (c.follow r d₁).2.enact d₂.destination (c.amendment d₂.name d₂.destination a₂) := by
  have hread : (c.follow r d₁).2.readDirective r d₂.line = .ok a₂ :=
    (readDirective_of_local hd₂ _ c r).trans h₂
  have hsame : (c.follow r d₁).2.amendment d₂.name d₂.destination a₂ =
      c.amendment d₂.name d₂.destination a₂ := by
    rw [follow_eq h₁ (hd₁.reach_ne_added h₁)]
    rcases hamend : c.amendment d₁.name d₁.destination a₁ with e | ⟨id, x⟩
    · rfl
    · exact amendment_put hc (find?_of_amendment hamend) hne x a₂
  rw [follow_eq hread (hd₂.reach_ne_added hread), hsame]

/-- What is enacted at two addresses can be enacted in either order. -/
theorem enact_comm (hc : c.Orderly) (hne : d₁.Apart d₂) (a₁ a₂ : Adjustment) :
    let p₁ := c.amendment d₁.name d₁.destination a₁
    let p₂ := c.amendment d₂.name d₂.destination a₂
    ((c.enact d₁.destination p₁).2.enact d₂.destination p₂).2 =
      ((c.enact d₂.destination p₂).2.enact d₁.destination p₁).2 := by
  intro p₁ p₂
  rcases h₁ : p₁ with e₁ | ⟨id₁, x⟩
  · rfl
  · rcases h₂ : p₂ with e₂ | ⟨id₂, y⟩
    · rfl
    · have hid₁ := find?_of_amendment h₁
      have hid₂ := find?_of_amendment h₂
      have hput : id₁ ≠ id₂ ∨ d₁.destination ≠ d₂.destination := by
        refine hne.imp_left fun hname hid => hname ?_
        subst hid
        exact name_eq_of_find? hc.sprites hid₁ hid₂
      exact put_comm hput (hc.made id₁ (mem_registered_of_find? hid₁))
        (hc.made id₂ (mem_registered_of_find? hid₂)) x y

/-- How it ends does not depend on what else was enacted. -/
theorem enact_fst (c c' : Cast) (i : Nat) (p : Except Error (SpriteId × Destination)) :
    (c.enact i p).1 = (c'.enact i p).1 := by
  cases p <;> rfl

/-- **Directives for different destinations commute.** After every run of calls, two directives that
can be read, that neither add a destination nor take an area from one, and that are for different
destinations, of one sprite or of two, leave the same cast in either order, and each of them ends the
same in both, with the same error if it fails. -/
theorem directives_commute (calls : List Call) (r : ValueReader) (d₁ d₂ : Directive)
    (a₁ a₂ : Adjustment) (h₁ : (empty.run calls).readDirective r d₁.line = .ok a₁)
    (h₂ : (empty.run calls).readDirective r d₂.line = .ok a₂) (hd₁ : d₁.Local) (hd₂ : d₂.Local)
    (hne : d₁.Apart d₂) :
    let c := empty.run calls
    ((c.follow r d₁).2.follow r d₂).2 = ((c.follow r d₂).2.follow r d₁).2 ∧
      (c.follow r d₁).1 = ((c.follow r d₂).2.follow r d₁).1 ∧
      ((c.follow r d₁).2.follow r d₂).1 = (c.follow r d₂).1 := by
  intro c
  have hc : c.Orderly := orderly_run calls
  rw [follow_follow hc hd₁ hd₂ hne h₁ h₂, follow_follow hc hd₂ hd₁ hne.symm h₂ h₁,
    follow_eq h₁ (hd₁.reach_ne_added h₁), follow_eq h₂ (hd₂.reach_ne_added h₂)]
  exact ⟨enact_comm hc hne a₁ a₂, enact_fst _ _ _ _, enact_fst _ _ _ _⟩

/-- Of two destinations of one sprite the second cannot be moved that far, whether the first one is
centred before or after. -/
theorem directives_commute_of_refused :
    let calls : List Call := [.create "player" ⟨"small", ⟨1⟩, 20, 10⟩ .empty,
      .change ⟨0⟩ (.adjust 0 (.addDestination 5 5))]
    let c := empty.run calls
    let r : ValueReader := ⟨⟨200, 100⟩⟩
    let d₁ : Directive := ⟨"player", 1, "moveBy 2147483647 0"⟩
    let d₂ : Directive := ⟨"player", 0, "centerIn 0 0 200 100"⟩
    ((c.follow r d₁).2.follow r d₂).2 = ((c.follow r d₂).2.follow r d₁).2 ∧
      (∃ reason, ((c.follow r d₂).2.follow r d₁).1 = .error (.parse "moveBy" reason)) ∧
      ((c.follow r d₁).2.follow r d₂).1 = .ok () := by
  intro calls c r d₁ d₂
  obtain ⟨a₁, h₁⟩ : ∃ a, c.readDirective r "moveBy 2147483647 0" = .ok a := ⟨_, rfl⟩
  obtain ⟨a₂, h₂⟩ : ∃ a, c.readDirective r "centerIn 0 0 200 100" = .ok a := ⟨_, rfl⟩
  obtain ⟨hcast, hfirst, hsecond⟩ := directives_commute calls r d₁ d₂ a₁ a₂ h₁ h₂
    ⟨by decide, by decide⟩ ⟨by decide, by decide⟩ (.inr (by decide))
  obtain ⟨reason, hreason⟩ : ∃ reason, (c.follow r ⟨"player", 1, "moveBy 2147483647 0"⟩).1 =
      .error (.parse "moveBy" reason) := ⟨_, rfl⟩
  have hcentred : (c.follow r ⟨"player", 0, "centerIn 0 0 200 100"⟩).1 = .ok () := rfl
  exact ⟨hcast, ⟨reason, hfirst.symm.trans hreason⟩, hsecond.trans hcentred⟩

end Cast

end SpriteStage
