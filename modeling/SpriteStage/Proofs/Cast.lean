import SpriteStage.Directive
import SpriteStage.Proofs.Sprite

/-!
# What a change of the cast leaves alone

* `Cast.Extends c c'`: the same register, and every sprite extended; directives, batches and
  centring do no more than that;
* making a sprite gives it the next identity and the last place in the register;
* taking a name off the register takes one entry off.
-/

namespace SpriteStage.Cast

/-! ### Extensions -/

/-- `c'` has the register of `c` and its sprites, each with no fewer destinations. -/
structure Extends (c c' : Cast) : Prop where
  entries : c'.entries = c.entries
  length : c'.sprites.length = c.sprites.length
  sprite : ∀ id, (c.sprite id).Extends (c'.sprite id)

theorem Extends.refl (c : Cast) : Extends c c := ⟨rfl, rfl, fun _ => .refl _⟩

theorem Extends.trans {c d e : Cast} (h₁ : Extends c d) (h₂ : Extends d e) : Extends c e :=
  ⟨h₂.entries.trans h₁.entries, h₂.length.trans h₁.length,
    fun id => (h₁.sprite id).trans (h₂.sprite id)⟩

theorem sprite_replace_of_lt {c : Cast} {id : SpriteId} (h : id.index < c.sprites.length)
    (s : Sprite) : (c.replace id s).sprite id = s := by
  simp [replace, sprite, List.getD_eq_getElem?_getD, h]

/-- An identity in range is replaced; another one has no sprite to replace. -/
theorem sprite_replace_self (c : Cast) (id : SpriteId) (s : Sprite) :
    (c.replace id s).sprite id = s ∨ (c.replace id s).sprite id = c.sprite id := by
  by_cases h : id.index < c.sprites.length
  · exact .inl (sprite_replace_of_lt h s)
  · exact .inr (by simp [replace, sprite, List.getD_eq_getElem?_getD, h])

theorem extends_replace {c : Cast} {id : SpriteId} {s : Sprite} (h : (c.sprite id).Extends s) :
    c.Extends (c.replace id s) where
  entries := rfl
  length := by simp [replace]
  sprite other := by
    by_cases ho : id = other
    · -- an identity out of range keeps leading to no sprite
      subst ho
      rcases sprite_replace_self c id s with hs | hs <;> rw [hs]
      · exact h
      · exact .refl _
    · rw [sprite_replace_of_ne ho]
      exact .refl _

/-- A change of sprites that keeps all of a sprite but its destinations. -/
def Extending (f : Sprite → Except Error Sprite) : Prop :=
  ∀ s s', f s = .ok s' → s.Extends s'

theorem extends_of_update {c c' : Cast} {name : String} {f : Sprite → Except Error Sprite}
    (hf : Extending f) (h : c.update name f = .ok c') : c.Extends c' := by
  obtain ⟨id, -, h⟩ := exists_of_bind_eq_ok h
  obtain ⟨s, hs, h⟩ := exists_of_bind_eq_ok h
  cases h
  exact extends_replace (hf _ _ hs)

/-- What every change of a batch keeps holds however far the batch gets. -/
theorem updateEach_induction {P : Cast → Prop} {f : Sprite → Except Error Sprite}
    (step : ∀ c name c', c.update name f = .ok c' → P c → P c') {c : Cast} (start : P c)
    (position : Nat) (names : List String) : P (c.updateEach f position names).2 := by
  induction names generalizing c position with
  | nil => exact start
  | cons name rest ih =>
    rw [updateEach]
    split
    · -- stopped here, with the cast that the names before it left
      exact start
    · next c' h => exact ih (step c name c' h start) (position + 1)

theorem extends_updateEach {f : Sprite → Except Error Sprite} (hf : Extending f) (c : Cast)
    (position : Nat) (names : List String) : c.Extends (c.updateEach f position names).2 :=
  updateEach_induction (P := c.Extends) (fun _ _ _ h hc => hc.trans (extends_of_update hf h))
    (.refl c) position names

theorem extends_batch {f : Sprite → Except Error Sprite} (hf : Extending f) (c : Cast)
    (selection : Selection) : c.Extends (c.batch selection f).2 :=
  extends_updateEach hf c 0 (c.selected selection)

theorem extending_adjustment (a : Adjustment) (i : Nat) : Extending (a.apply · i) :=
  fun _ _ h => Sprite.extends_of_adjustment h

theorem extends_of_direct {c c' : Cast} {r : ValueReader} {name line : String} {i : Nat}
    (h : c.direct r name i line = .ok c') : c.Extends c' := by
  obtain ⟨id, -, h⟩ := exists_of_bind_eq_ok h
  obtain ⟨a, -, h⟩ := exists_of_bind_eq_ok h
  obtain ⟨s, hs, h⟩ := exists_of_bind_eq_ok h
  cases h
  exact extends_replace (Sprite.extends_of_adjustment hs)

theorem extends_directEach (c : Cast) (r : ValueReader) (selection : Selection) (i : Nat)
    (line : String) : c.Extends (c.directEach r selection i line).2 := by
  rw [directEach]
  split
  · exact .refl c
  · next a _ => exact extends_batch (extending_adjustment a i) c selection

theorem extends_of_centerInSprite {c c' : Cast} {name other : String} {i j : Nat}
    (h : c.centerInSprite name i other j = .ok c') : c.Extends c' := by
  obtain ⟨id, -, h⟩ := exists_of_bind_eq_ok h
  obtain ⟨target, -, h⟩ := exists_of_bind_eq_ok h
  obtain ⟨area, -, h⟩ := exists_of_bind_eq_ok h
  obtain ⟨s, hs, h⟩ := exists_of_bind_eq_ok h
  cases h
  exact extends_replace (Sprite.extends_of_centerIn hs)

/-! ### The register -/

/-- The identities under the registered names. -/
def registered (c : Cast) : List SpriteId := c.entries.map Prod.snd

theorem mem_registered_of_find? {c : Cast} {name : String} {id : SpriteId}
    (h : c.find? name = some id) : id ∈ c.registered := by
  obtain ⟨l₁, l₂, h, -⟩ := List.lookup_eq_some_iff.1 h
  simp [registered, h]

theorem insert_of_not_contains {c : Cast} {s : Sprite} (h : c.contains s.name = false) :
    c.insert s = .ok (⟨c.sprites.length⟩,
      ⟨c.sprites ++ [s], c.entries ++ [(s.name, ⟨c.sprites.length⟩)]⟩) := by
  simp [insert, h]

/-- `c'` is `c` with one more sprite, the registered `s` of the identity `id`. -/
structure Inserted (c : Cast) (s : Sprite) (id : SpriteId) (c' : Cast) : Prop where
  index : id.index = c.sprites.length
  length : c'.sprites.length = c.sprites.length + 1
  names : c'.names = c.names ++ [s.name]
  fresh : s.name ∉ c.names
  registered : c'.registered = c.registered ++ [id]
  sprite : c'.sprite id = s
  kept : ∀ {other : SpriteId}, other.index < c.sprites.length → c'.sprite other = c.sprite other

theorem not_mem_names_of_not_contains {c : Cast} {name : String} (h : c.contains name = false) :
    name ∉ c.names := by
  intro hm
  obtain ⟨e, he, rfl⟩ := List.mem_map.1 hm
  have hf : c.entries.lookup e.1 = none := by simpa [contains, find?] using h
  exact absurd (List.lookup_eq_none_iff.1 hf e he) (by simp)

theorem inserted_of_insert {c c' : Cast} {s : Sprite} {id : SpriteId}
    (h : c.insert s = .ok (id, c')) : c.Inserted s id c' := by
  cases hc : c.contains s.name with
  | true => simp [insert, hc] at h
  | false =>
    rw [insert_of_not_contains hc] at h
    cases h
    refine ⟨rfl, by simp, by simp [Cast.names], not_mem_names_of_not_contains hc,
      by simp [Cast.registered], ?_, fun ho => ?_⟩
    · simp [Cast.sprite, List.getD_eq_getElem?_getD]
    · simp [Cast.sprite, List.getD_eq_getElem?_getD, List.getElem?_append_left ho]

theorem remove_eq_ok_iff {c c' : Cast} {name : String} {id : SpriteId} :
    c.remove name = .ok (id, c') ↔
      c.find? name = some id ∧ c' = { c with entries := Keyed.without name c.entries } := by
  unfold remove get
  cases hf : c.find? name <;> simp [bind, Except.bind, pure, Except.pure, eq_comm]

/-- The name taken off the register is the only one that goes. -/
theorem registered_perm_of_remove {c c' : Cast} {name : String} {id : SpriteId}
    (hn : c.names.Nodup) (h : c.remove name = .ok (id, c')) :
    c.registered.Perm (id :: c'.registered) := by
  obtain ⟨hf, rfl⟩ := remove_eq_ok_iff.1 h
  exact (Keyed.perm_cons_without hn hf).map Prod.snd

end SpriteStage.Cast
