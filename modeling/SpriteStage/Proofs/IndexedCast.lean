import Mathlib.Data.Finmap
import SpriteStage.Proofs.Register

/-!
# A register in two parts

The register of a cast is one list of names with their sprites. It can as well be kept as an index,
which leads from a name to a sprite and has no order, and a list of names apart from it. Then no
call looks at both parts, and each call that changes the register changes one after the other.

* `IndexedCast.Agrees`: the index and the names are those of a cast;
* `agrees_perform`: a call has the same answer on both, and what it leaves agrees again, so the two
  parts never drift apart;
* `Cast.register_in_order`: what a register is after every run.
-/

namespace SpriteStage

/-- All sprites ever made, with the register in two parts. -/
structure IndexedCast where
  sprites : List Sprite
  index : Finmap fun _ : String => SpriteId
  order : List String

namespace IndexedCast

open Cast (Call)

/-- No sprite at all. -/
def empty : IndexedCast := ⟨[], ∅, []⟩

/-- The sprite of an identity. -/
def sprite (i : IndexedCast) (id : SpriteId) : Sprite := i.sprites.getD id.index .absent

/-! ### Calls -/

/-- Register a sprite under its own name: first in the index, then in the order. -/
def insert (i : IndexedCast) (s : Sprite) : Except Error (Option SpriteId) × IndexedCast :=
  if s.name ∈ i.index then (.error (.duplicateSprite s.name), i)
  else
    let id : SpriteId := ⟨i.sprites.length⟩
    (.ok (some id), ⟨i.sprites ++ [s], i.index.insert s.name id, i.order ++ [s.name]⟩)

/-- Make a sprite and register it; its name is looked up before it is made. -/
def create (i : IndexedCast) (name : String) (texture : Texture) (source : Rect) :
    Except Error (Option SpriteId) × IndexedCast :=
  if name ∈ i.index then (.error (.duplicateSprite name), i)
  else i.insert (.new name texture source)

/-- Take a name off the register: first from the index, then from the order. -/
def remove (i : IndexedCast) (name : String) : Except Error (Option SpriteId) × IndexedCast :=
  match i.index.lookup name with
  | none => (.error (.unknownSprite name), i)
  | some id =>
      (.ok (some id),
        { i with index := i.index.erase name, order := i.order.filter (· != name) })

/-- Answer a call. -/
def perform (i : IndexedCast) : Call → Except Error (Option SpriteId) × IndexedCast
  | .insert s => i.insert s
  | .create name texture source => i.create name texture source
  | .remove name => i.remove name
  | .clear => (.ok none, { i with index := ∅, order := [] })
  | .change id change =>
      match change.apply (i.sprite id) with
      | .ok s => (.ok none, { i with sprites := i.sprites.set id.index s })
      | .error e => (.error e, i)

/-- What is left after a call, whether that failed or not. -/
def after (i : IndexedCast) (call : Call) : IndexedCast := (i.perform call).2

/-- What is left after a list of calls. -/
def run (i : IndexedCast) (calls : List Call) : IndexedCast := calls.foldl after i

/-- The calls of a run with their answers. -/
def answers (i : IndexedCast) : List Call → List (Call × Except Error (Option SpriteId))
  | [] => []
  | call :: rest => (call, (i.perform call).1) :: (i.after call).answers rest

/-! ### Agreement -/

/-- The index leads where the register of the cast leads, and the order is that of its names. -/
structure Agrees (i : IndexedCast) (c : Cast) : Prop where
  sprites : i.sprites = c.sprites
  lookup : ∀ name, i.index.lookup name = c.find? name
  order : i.order = c.names

variable {i : IndexedCast} {c : Cast} {name : String} {s : Sprite}

theorem Agrees.mem_iff (h : i.Agrees c) : name ∈ i.index ↔ c.contains name = true := by
  rw [← Finmap.lookup_isSome, h.lookup]
  rfl

/-- The names are all there is in the index. -/
theorem Agrees.keys_eq (h : i.Agrees c) : i.index.keys = c.names.toFinset := by
  ext name
  rw [Finmap.mem_keys, h.mem_iff, List.mem_toFinset, Cast.mem_names_iff]

theorem Agrees.names_eq_nil_iff (h : i.Agrees c) : c.names = [] ↔ i.index = ∅ := by
  refine ⟨fun hn => Finmap.ext_lookup fun name => ?_, fun he => ?_⟩
  · rw [Finmap.lookup_empty, Finmap.lookup_eq_none, h.mem_iff, ← Cast.mem_names_iff, hn]
    exact List.not_mem_nil
  · rw [← List.toFinset_eq_empty_iff, ← h.keys_eq, he]
    exact Finmap.keys_empty

theorem agrees_empty : empty.Agrees .empty := ⟨rfl, fun _ => Finmap.lookup_empty _, rfl⟩

/-- A free name is added to both parts. -/
theorem Agrees.insert (h : i.Agrees c) (s : Sprite) :
    (i.insert s).1 = (c.settle (c.insert s)).1 ∧
      (i.insert s).2.Agrees (c.settle (c.insert s)).2 := by
  unfold IndexedCast.insert
  by_cases hm : s.name ∈ i.index
  · rw [if_pos hm, Cast.insert_eq_error_iff.2 ⟨h.mem_iff.1 hm, rfl⟩]
    exact ⟨rfl, h⟩
  · have hn : c.contains s.name = false := by simpa using mt h.mem_iff.2 hm
    rw [if_neg hm, Cast.insert_of_not_contains hn, h.sprites]
    refine ⟨rfl, rfl, fun name => ?_, ?_⟩
    · show (i.index.insert s.name _).lookup name = (c.entries ++ [(s.name, _)]).lookup name
      rw [List.lookup_append]
      by_cases hname : name = s.name
      · have hnone : c.entries.lookup s.name = none := by
          simpa [Cast.contains, Cast.find?] using hn
        subst hname
        simp [hnone]
      · have hkept : i.index.lookup name = c.entries.lookup name := h.lookup name
        rw [Finmap.lookup_insert_of_ne _ hname, hkept]
        have hb : (name == s.name) = false := by simpa using hname
        simp [List.lookup_cons, hb]
    · show i.order ++ [s.name] = (c.entries ++ [(s.name, _)]).map Prod.fst
      rw [h.order, List.map_append]
      rfl

/-- The name is looked up once more when the sprite is registered, to no effect. -/
theorem create_eq_insert (i : IndexedCast) (name : String) (texture : Texture) (source : Rect) :
    i.create name texture source = i.insert (.new name texture source) := by
  unfold create
  split
  · next hm => exact (if_pos hm).symm
  · rfl

/-- A name is taken from both parts. -/
theorem Agrees.remove (h : i.Agrees c) (name : String) :
    (i.remove name).1 = (c.settle (c.remove name)).1 ∧
      (i.remove name).2.Agrees (c.settle (c.remove name)).2 := by
  unfold IndexedCast.remove
  rw [h.lookup]
  cases hf : c.find? name with
  | none =>
    have hr : c.remove name = .error (.unknownSprite name) := by
      simp [Cast.remove, Cast.get, hf, bind, Except.bind]
    rw [hr]
    exact ⟨rfl, h⟩
  | some id =>
    rw [Cast.remove_eq_ok_iff.2 ⟨hf, rfl⟩]
    refine ⟨rfl, h.sprites, fun other => ?_, ?_⟩
    · show (i.index.erase name).lookup other = (Keyed.without name c.entries).lookup other
      by_cases hother : other = name
      · subst hother
        rw [Finmap.lookup_erase, Keyed.lookup_without_self]
      · rw [Finmap.lookup_erase_ne hother, Keyed.lookup_without_of_ne hother, h.lookup]
        rfl
    · show i.order.filter (· != name) = (Keyed.without name c.entries).map Prod.fst
      rw [h.order, Keyed.map_fst_without]
      rfl

/-- **A call has the same answer whether the register is in one part or in two.** -/
theorem agrees_perform (h : i.Agrees c) (call : Call) :
    (i.perform call).1 = (c.perform call).1 ∧ (i.perform call).2.Agrees (c.perform call).2 := by
  cases call with
  | insert s => exact h.insert s
  | create name t source =>
    simp only [perform, create_eq_insert]
    exact h.insert (.new name t source)
  | remove name => exact h.remove name
  | clear => exact ⟨rfl, h.sprites, fun _ => Finmap.lookup_empty _, rfl⟩
  | change id change =>
    have hsprite : i.sprite id = c.sprite id := by rw [sprite, Cast.sprite, h.sprites]
    simp only [perform, Cast.perform, hsprite]
    cases change.apply (c.sprite id) with
    | error e => exact ⟨rfl, h⟩
    | ok s => exact ⟨rfl, by rw [h.sprites]; rfl, h.lookup, h.order⟩

theorem agrees_run (h : i.Agrees c) (calls : List Call) :
    i.answers calls = c.answers calls ∧ (i.run calls).Agrees (c.run calls) := by
  induction calls generalizing i c with
  | nil => exact ⟨rfl, h⟩
  | cons call rest ih =>
    obtain ⟨hanswer, hafter⟩ := agrees_perform h call
    obtain ⟨hanswers, hrun⟩ := ih hafter
    refine ⟨?_, hrun⟩
    rw [answers, Cast.answers, hanswer]
    exact congrArg _ hanswers

end IndexedCast

namespace Cast

/-- **The register is a map in order of registration.** After every run of calls, refused ones
included, on a cast and on one with the register in two parts:

* the two parts agree with the register in one, the order has each name of the index once, and all
  calls were answered the same;
* every name leads to a sprite of that name;
* the names are those that were registered last, in order of time;
* a name can be looked up exactly if it is among the names, and there are as many names as places in
  the index;
* a sprite, also one that is made for it, is refused exactly if its name is among the names;
* a batch over all sprites visits each of them once, in this order, and never fails to find one. -/
theorem register_in_order (calls : List Call) :
    let c := empty.run calls
    let i := IndexedCast.empty.run calls
    (i.Agrees c ∧ i.order.Nodup ∧ i.index.keys = i.order.toFinset ∧
      IndexedCast.empty.answers calls = empty.answers calls) ∧
    (∀ name id, c.find? name = some id → (c.sprite id).name = name) ∧
    c.names = standing (empty.history calls) ∧
    ((∀ name, c.contains name = true ↔ name ∈ c.names) ∧
      (∀ name, (∃ id, c.find? name = some id) ↔ name ∈ c.names) ∧
      (∀ name, (∃ id, c.get name = .ok id) ∧ name ∈ c.names ∨
        c.get name = .error (.unknownSprite name) ∧ name ∉ c.names) ∧
      c.names.length = i.index.keys.card ∧ (c.names = [] ↔ i.index = ∅)) ∧
    (∀ s e, c.insert s = .error e ↔ s.name ∈ c.names ∧ e = .duplicateSprite s.name) ∧
    (∀ name texture source e, (c.perform (.create name texture source)).1 = .error e ↔
      name ∈ c.names ∧ e = .duplicateSprite name) ∧
    c.registered.Nodup ∧ ∀ f, Tour f c (c.batch .all f) := by
  intro c i
  have hc : c.Orderly := orderly_run calls
  obtain ⟨hanswers, hi⟩ := IndexedCast.agrees_run IndexedCast.agrees_empty calls
  have hnodup : i.order.Nodup := hi.order ▸ hc.names
  have hkeys : i.index.keys = i.order.toFinset := hi.order ▸ hi.keys_eq
  refine ⟨⟨hi, hnodup, hkeys, hanswers⟩, fun name id => hc.name_of_find?, names_run calls,
    ⟨fun name => mem_names_iff.symm, fun name => ?_, c.get_eq, ?_, hi.names_eq_nil_iff⟩,
    fun s e => ?_, fun name texture source e => ?_, hc.sprites, hc.tour_batch⟩
  · rw [mem_names_iff, contains, Option.isSome_iff_exists]
  · rw [hkeys, List.toFinset_card_of_nodup hnodup, hi.order]
  · rw [insert_eq_error_iff, mem_names_iff]
  · show (c.settle (c.insert (.new name texture source))).1 = _ ↔ _
    rw [settle_eq_error_iff, insert_eq_error_iff, mem_names_iff]
    rfl

end Cast

end SpriteStage
