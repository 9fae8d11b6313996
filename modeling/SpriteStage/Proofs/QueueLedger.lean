import Mathlib.Data.List.Perm.Basic
import SpriteStage.Proofs.Queue

/-!
# No queued item is lost or doubled

The calls that edit a queue, by position, by name and by directive, with a record of what they put
in and what they take out.

* `Stage.Amends`: what each call does to the queue when it succeeds; a call that adds, replaces or
  removes keeps all other items in their order, exchanging and moving keep all items as they are,
  and showing or hiding keeps what every position draws;
* `Stage.Ledger`: a run of calls with everything it puts into the queue and takes out of it, to
  which a call that fails contributes nothing;
* `queue_conserved`: every run of calls has a ledger, and it accounts for every item of the queue.
-/

namespace SpriteStage

/-- What an item draws: a sprite and one of its destinations. -/
def QueueItem.draws (item : QueueItem) : SpriteId × Nat := (item.sprite, item.destination)

/-- A call that edits the queue of a stage. -/
inductive QueueCall
  | push (id : SpriteId) (destination : Nat)
  | swap (i j : Nat)
  | replaceAt (i : Nat) (id : SpriteId) (destination : Nat)
  | replaceLast (id : SpriteId) (destination : Nat)
  | clear
  | append (name : String) (destination : Nat)
  | insert (side : Stage.Side) (name : String) (destination : Nat) (anchor : String) (j : Nat)
  | move (side : Stage.Side) (name : String) (destination : Nat) (anchor : String) (j : Nat)
  | exchange (name : String) (destination : Nat) (other : String) (j : Nat)
  | remove (name : String) (destination : Nat)
  | toggle (name : String) (destination : Nat) (t : Stage.Toggle)
  | directive (name : String) (destination : Nat) (line : String)

/-- The call that a parsed directive stands for. -/
def QueueEdit.call (name : String) (destination : Nat) : QueueEdit → QueueCall
  | append => .append name destination
  | remove => .remove name destination
  | toggle t => .toggle name destination t
  | anchored (.insert side) other j => .insert side name destination other j
  | anchored (.move side) other j => .move side name destination other j
  | anchored .swap other j => .exchange name destination other j

namespace Stage

/-! ### Runs of calls -/

/-- Make a call: the item it answers with, if it answers with one, and the stage after it. -/
def call (s : Stage) : QueueCall → Except Error (Option QueueItem × Stage)
  | .push id d => (s.push id d).map fun p => (none, p.2)
  | .swap i j => (s.swap i j).map fun t => (none, t)
  | .replaceAt i id d => (s.replaceAt i id d).map fun p => (some p.1, p.2)
  | .replaceLast id d => (s.replaceLast id d).map fun p => (some p.1, p.2)
  | .clear => .ok (none, s.clearQueue)
  | .append name d => (s.append name d).map fun p => (none, p.2)
  | .insert side name d anchor j => (s.insert side name d anchor j).map fun p => (none, p.2)
  | .move side name d anchor j => (s.move side name d anchor j).map fun p => (none, p.2)
  | .exchange name d other j => (s.exchange name d other j).map fun p => (some p.1, p.2)
  | .remove name d => (s.remove name d).map fun p => (some p.1, p.2)
  | .toggle name d t => (s.toggle name d t).map fun p => (none, p.2)
  | .directive name d line => (s.directQueue name d line).map fun t => (none, t)

/-- The stage after a call, which is the one before when the call fails. -/
def afterCall (s : Stage) (c : QueueCall) : Stage :=
  match s.call c with
  | .ok (_, t) => t
  | .error _ => s

/-- The stage after a list of calls. -/
def runCalls (s : Stage) (calls : List QueueCall) : Stage := calls.foldl afterCall s

/-! ### What a call does to the queue -/

/-- A call that succeeds answers with `returned`, takes the items `taken` out of the queue of `s`,
puts the items `put` in, and leaves the queue `after`. -/
inductive Amends (s : Stage) :
    QueueCall → (returned : Option QueueItem) → (put taken after : List QueueItem) → Prop
  | push (id : SpriteId) (d : Nat) :
      Amends s (.push id d) none [⟨id, d, true⟩] [] (s.queue ++ [⟨id, d, true⟩])
  | swap {i j : Nat} {after : List QueueItem} (hp : after.Perm s.queue)
      (hi : after[i]? = s.queue[j]?) (hj : after[j]? = s.queue[i]?)
      (hk : ∀ k, k ≠ i → k ≠ j → after[k]? = s.queue[k]?) : Amends s (.swap i j) none [] [] after
  | replaceAt {id : SpriteId} {d : Nat} {front back : List QueueItem} {old : QueueItem}
      (hq : s.queue = front ++ old :: back) :
      Amends s (.replaceAt front.length id d) (some old) [⟨id, d, true⟩] [old]
        (front ++ ⟨id, d, true⟩ :: back)
  | replaceLast {id : SpriteId} {d : Nat} {front : List QueueItem} {old : QueueItem}
      (hq : s.queue = front ++ [old]) :
      Amends s (.replaceLast id d) (some old) [⟨id, d, true⟩] [old] (front ++ [⟨id, d, true⟩])
  | clear : Amends s .clear none [] s.queue []
  | append {name : String} {id : SpriteId} {d : Nat} (hf : s.cast.find? name = some id) :
      Amends s (.append name d) none [⟨id, d, true⟩] [] (s.queue ++ [⟨id, d, true⟩])
  | insert {side : Side} {name anchor : String} {id : SpriteId} {d j : Nat}
      {front back : List QueueItem} (hf : s.cast.find? name = some id)
      (hq : s.queue = front ++ back) :
      Amends s (.insert side name d anchor j) none [⟨id, d, true⟩] []
        (front ++ ⟨id, d, true⟩ :: back)
  | move {side : Side} {name anchor : String} {d j : Nat} {after : List QueueItem}
      (hp : after.Perm s.queue) : Amends s (.move side name d anchor j) none [] [] after
  | exchange {name other : String} {id : SpriteId} {d j : Nat} {front back : List QueueItem}
      {old : QueueItem} (hf : s.cast.find? name = some id) (hq : s.queue = front ++ old :: back)
      (ho : s.refersTo other j old) :
      Amends s (.exchange name d other j) (some old) [⟨id, d, true⟩] [old]
        (front ++ ⟨id, d, true⟩ :: back)
  | remove {name : String} {d : Nat} {front back : List QueueItem} {old : QueueItem}
      (hq : s.queue = front ++ old :: back) (ho : s.refersTo name d old) :
      Amends s (.remove name d) (some old) [] [old] (front ++ back)
  | toggle {name : String} {d : Nat} {t : Toggle} {after : List QueueItem}
      (hd : after.map QueueItem.draws = s.queue.map QueueItem.draws) :
      Amends s (.toggle name d t) none [] [] after
  /-- A directive does what the call it stands for does, and answers nothing. -/
  | directive {name line : String} {d : Nat} {edit : QueueEdit} {returned : Option QueueItem}
      {put taken after : List QueueItem} (hl : QueueEdit.parse s.reader line = .ok edit)
      (h : Amends s (edit.call name d) returned put taken after) :
      Amends s (.directive name d line) none put taken after

variable {s t : Stage} {id : SpriteId} {old : QueueItem} {name other line : String}
  {i j d n : Nat} {side : Side} {c : QueueCall} {returned : Option QueueItem}
  {put taken after : List QueueItem}

theorem perm_splice (front put taken back : List QueueItem) :
    (front ++ put ++ back ++ taken).Perm (front ++ taken ++ back ++ put) := by
  refine List.perm_iff_count.2 fun item => ?_
  simp only [List.count_append]
  omega

/-- **What goes in and what comes out makes up the difference.** -/
theorem Amends.perm (h : Amends s c returned put taken after) :
    ((after ++ taken).map QueueItem.draws).Perm ((s.queue ++ put).map QueueItem.draws) := by
  induction h with
  | push | append | clear => simp
  | swap hp | move hp => simpa using hp.map QueueItem.draws
  | toggle hd => simp [hd]
  | @replaceAt id d front back old hq =>
    simpa [hq] using (perm_splice front [⟨id, d, true⟩] [old] back).map QueueItem.draws
  | @replaceLast id d front old hq =>
    simpa [hq] using (perm_splice front [⟨id, d, true⟩] [old] []).map QueueItem.draws
  | @exchange name other id d j front back old hf hq ho =>
    simpa [hq] using (perm_splice front [⟨id, d, true⟩] [old] back).map QueueItem.draws
  | @insert side name anchor id d j front back hf hq =>
    simpa [hq] using (perm_splice front [⟨id, d, true⟩] [] back).map QueueItem.draws
  | @remove name d front back old hq ho =>
    simpa [hq] using (perm_splice front [] [old] back).map QueueItem.draws
  | directive _ _ ih => exact ih

/-! ### By position -/

/-- An item apart from those before it and behind it, with what setting and erasing it do. -/
theorem exists_split {l : List QueueItem} (h : l[i]? = some old) :
    ∃ front back, l = front ++ old :: back ∧ front.length = i ∧
      (∀ new, l.set i new = front ++ new :: back) ∧ l.eraseIdx i = front ++ back := by
  obtain ⟨hi, rfl⟩ := List.getElem?_eq_some_iff.1 h
  refine ⟨l.take i, l.drop (i + 1), by simp, ?_, fun new => ?_, ?_⟩
  · exact List.length_take_of_le (Nat.le_of_lt hi)
  · rw [List.set_eq_take_append_cons_drop, if_pos hi]
  · rw [List.eraseIdx_eq_take_drop_succ]

theorem amends_of_push (h : s.push id d = .ok (n, t)) :
    Amends s (.push id d) none [⟨id, d, true⟩] [] t.queue := by
  obtain ⟨new, hn, h⟩ := exists_of_bind_eq_ok h
  obtain ⟨rfl, -⟩ := newItem_eq_ok_iff.1 hn
  cases h
  exact .push id d

theorem swap_eq_ok_iff :
    s.swap i j = .ok t ↔ ∃ (hi : i < s.queue.length) (hj : j < s.queue.length),
      t = { s with queue := (s.queue.set i s.queue[j]).set j s.queue[i] } := by
  constructor
  · intro h
    obtain ⟨first, hfirst, h⟩ := exists_of_bind_eq_ok h
    obtain ⟨second, hsecond, h⟩ := exists_of_bind_eq_ok h
    cases h
    obtain ⟨hi, rfl⟩ := List.getElem?_eq_some_iff.1 (itemAtPosition_eq_ok_iff.1 hfirst)
    obtain ⟨hj, rfl⟩ := List.getElem?_eq_some_iff.1 (itemAtPosition_eq_ok_iff.1 hsecond)
    exact ⟨hi, hj, rfl⟩
  · rintro ⟨hi, hj, rfl⟩
    rw [swap, bind_of_eq_ok (itemAtPosition_eq_ok_iff.2 (List.getElem?_eq_getElem hi)),
      bind_of_eq_ok (itemAtPosition_eq_ok_iff.2 (List.getElem?_eq_getElem hj))]
    rfl

theorem amends_of_swap (h : s.swap i j = .ok t) : Amends s (.swap i j) none [] [] t.queue := by
  obtain ⟨hi, hj, rfl⟩ := swap_eq_ok_iff.1 h
  refine .swap (List.set_set_perm hi hj) ?_ ?_ fun k hki hkj => ?_
  · grind
  · grind
  · grind

/-- Two items that are exchanged again are where they were. -/
theorem swap_swap (h : s.swap i j = .ok t) : t.swap i j = .ok s := by
  obtain ⟨hi, hj, rfl⟩ := swap_eq_ok_iff.1 h
  refine swap_eq_ok_iff.2 ⟨by simpa using hi, by simpa using hj, ?_⟩
  refine congrArg (fun queue => ({ s with queue } : Stage)) ?_
  refine List.ext_getElem (by simp) fun k hk hk' => ?_
  grind

theorem replaceAt_eq_ok (h : s.replaceAt i id d = .ok (old, t)) :
    ∃ front back, s.queue = front ++ old :: back ∧ front.length = i ∧
      t.queue = front ++ ⟨id, d, true⟩ :: back := by
  obtain ⟨item, hold, h⟩ := exists_of_bind_eq_ok h
  obtain ⟨new, hn, h⟩ := exists_of_bind_eq_ok h
  obtain ⟨rfl, -⟩ := newItem_eq_ok_iff.1 hn
  cases h
  obtain ⟨front, back, hq, hi, hset, -⟩ := exists_split (itemAtPosition_eq_ok_iff.1 hold)
  exact ⟨front, back, hq, hi, hset _⟩

theorem amends_of_replaceAt (h : s.replaceAt i id d = .ok (old, t)) :
    Amends s (.replaceAt i id d) (some old) [⟨id, d, true⟩] [old] t.queue := by
  obtain ⟨front, back, hq, rfl, ht⟩ := replaceAt_eq_ok h
  exact ht ▸ .replaceAt hq

theorem amends_of_replaceLast (h : s.replaceLast id d = .ok (old, t)) :
    Amends s (.replaceLast id d) (some old) [⟨id, d, true⟩] [old] t.queue := by
  unfold replaceLast at h
  split at h
  · cases h
  · obtain ⟨front, back, hq, hlast, ht⟩ := replaceAt_eq_ok h
    -- nothing is behind the last position
    have hback : back = [] := by
      have hlength := congrArg List.length hq
      rw [List.length_append, List.length_cons] at hlength
      exact List.length_eq_zero_iff.1 (by omega)
    subst hback
    exact ht ▸ .replaceLast hq

/-! ### By name -/

theorem amends_of_append (h : s.append name d = .ok (n, t)) :
    ∃ id, Amends s (.append name d) none [⟨id, d, true⟩] [] t.queue := by
  obtain ⟨id, hid, h⟩ := exists_of_bind_eq_ok h
  obtain ⟨new, hn, h⟩ := exists_of_bind_eq_ok h
  obtain ⟨rfl, -⟩ := newItem_eq_ok_iff.1 hn
  cases h
  exact ⟨id, .append (Cast.get_eq_ok_iff.1 hid)⟩

/-- The place found for an item is one the queue has. -/
theorem exists_of_position (h : s.position name d = .ok i) :
    ∃ item, s.queue[i]? = some item ∧ s.refersTo name d item := by
  obtain ⟨hi, hrefers, -⟩ := List.findIdx?_eq_some_iff_getElem.1 (position_eq_ok_iff.1 h)
  exact ⟨s.queue[i], List.getElem?_eq_getElem hi, hrefers⟩

theorem exists_insertIdx {l : List QueueItem} (h : i ≤ l.length) (new : QueueItem) :
    ∃ front back, l = front ++ back ∧ l.insertIdx i new = front ++ new :: back := by
  refine ⟨l.take i, l.drop i, (List.take_append_drop i l).symm, ?_⟩
  refine List.ext_getElem ?_ fun k hk hk' => ?_
  · simp [List.length_insertIdx, h]
    omega
  · grind

theorem amends_of_insert {anchor : String} (h : s.insert side name d anchor j = .ok (n, t)) :
    ∃ id, Amends s (.insert side name d anchor j) none [⟨id, d, true⟩] [] t.queue := by
  obtain ⟨new, hn, h⟩ := exists_of_bind_eq_ok h
  obtain ⟨id, hid, hn⟩ := exists_of_bind_eq_ok hn
  obtain ⟨rfl, -⟩ := newItem_eq_ok_iff.1 hn
  obtain ⟨i, hi, h⟩ := exists_of_bind_eq_ok h
  cases h
  obtain ⟨item, hitem, -⟩ := exists_of_position hi
  have hlt := (List.getElem?_eq_some_iff.1 hitem).1
  -- behind the anchor there is a place, if only at the end
  have hplace : i + side.offset ≤ s.queue.length := by
    cases side <;> simp only [Side.offset] <;> omega
  obtain ⟨front, back, hq, hinsert⟩ := exists_insertIdx hplace ⟨id, d, true⟩
  exact ⟨id, hinsert ▸ .insert (Cast.get_eq_ok_iff.1 hid) hq⟩

/-- An item is taken out and put back somewhere. -/
theorem relocate_perm (side : Side) (source anchor : Nat) (queue : List QueueItem)
    (hanchor : anchor < queue.length) : (relocate side source anchor queue).Perm queue := by
  unfold relocate
  split
  · next item hitem =>
    split
    · exact .refl _
    · next hne =>
      obtain ⟨hsource, rfl⟩ := List.getElem?_eq_some_iff.1 hitem
      have htarget : targetOf side source anchor ≤ (queue.eraseIdx source).length := by
        rw [List.length_eraseIdx_of_lt hsource, targetOf]
        cases side <;> simp only [Side.offset] <;> split <;> omega
      exact (List.perm_insertIdx _ _ htarget).trans (List.getElem_cons_eraseIdx_perm hsource)
  · exact .refl _

theorem amends_of_move {anchor : String} (h : s.move side name d anchor j = .ok (n, t)) :
    Amends s (.move side name d anchor j) none [] [] t.queue := by
  obtain ⟨source, -, h⟩ := exists_of_bind_eq_ok h
  obtain ⟨target, htarget, h⟩ := exists_of_bind_eq_ok h
  cases h
  obtain ⟨item, hitem, -⟩ := exists_of_position htarget
  exact .move (relocate_perm side source target s.queue (List.getElem?_eq_some_iff.1 hitem).1)

/-- The item found for an edit is the one it takes out. -/
theorem refersTo_of_position (hi : s.position name d = .ok i)
    (hold : s.itemAtPosition i = .ok old) :
    s.queue[i]? = some old ∧ s.refersTo name d old := by
  obtain ⟨item, hitem, hrefers⟩ := exists_of_position hi
  have hold := itemAtPosition_eq_ok_iff.1 hold
  obtain rfl : item = old := Option.some.inj (hitem.symm.trans hold)
  exact ⟨hold, hrefers⟩

theorem amends_of_exchange (h : s.exchange name d other j = .ok (old, t)) :
    ∃ id, Amends s (.exchange name d other j) (some old) [⟨id, d, true⟩] [old] t.queue := by
  obtain ⟨new, hn, h⟩ := exists_of_bind_eq_ok h
  obtain ⟨id, hid, hn⟩ := exists_of_bind_eq_ok hn
  obtain ⟨rfl, -⟩ := newItem_eq_ok_iff.1 hn
  obtain ⟨i, hi, h⟩ := exists_of_bind_eq_ok h
  obtain ⟨item, hold, h⟩ := exists_of_bind_eq_ok h
  cases h
  obtain ⟨hitem, hrefers⟩ := refersTo_of_position hi hold
  obtain ⟨front, back, hq, -, hset, -⟩ := exists_split hitem
  exact ⟨id, hset _ ▸ .exchange (Cast.get_eq_ok_iff.1 hid) hq hrefers⟩

theorem amends_of_remove (h : s.remove name d = .ok (old, t)) :
    Amends s (.remove name d) (some old) [] [old] t.queue := by
  obtain ⟨i, hi, h⟩ := exists_of_bind_eq_ok h
  obtain ⟨item, hold, h⟩ := exists_of_bind_eq_ok h
  cases h
  obtain ⟨hitem, hrefers⟩ := refersTo_of_position hi hold
  obtain ⟨front, back, hq, -, -, herase⟩ := exists_split hitem
  exact herase ▸ .remove hq hrefers

theorem amends_of_toggle {u : Toggle} (h : s.toggle name d u = .ok (n, t)) :
    Amends s (.toggle name d u) none [] [] t.queue := by
  simp only [toggle] at h
  split at h
  · cases h
  · cases h
    refine .toggle ?_
    rw [List.map_map]
    refine List.map_congr_left fun item _ => ?_
    -- the sprite and the destination are not written
    show QueueItem.draws (if _ then _ else _) = _
    split <;> rfl

/-! ### Every call -/

/-- **Every call by position or by name that succeeds amends the queue as it should, and changes
nothing else.** -/
theorem amends_of_plain (hc : ∀ name d line, c ≠ .directive name d line)
    (h : s.call c = .ok (returned, t)) :
    t = { s with queue := t.queue } ∧
      ∃ put taken, Amends s c returned put taken t.queue := by
  cases c with
  | push id d =>
    obtain ⟨⟨n, u⟩, hc, he⟩ := exists_of_map_eq_ok h
    cases he
    exact ⟨(requeued_of_push hc).eq, _, _, amends_of_push hc⟩
  | swap i j =>
    obtain ⟨u, hc, he⟩ := exists_of_map_eq_ok h
    cases he
    have hs : s.Requeued (fun _ => True) t := requeued_of_swap hc
    exact ⟨hs.eq, _, _, amends_of_swap hc⟩
  | replaceAt i id d =>
    obtain ⟨⟨old, u⟩, hc, he⟩ := exists_of_map_eq_ok h
    cases he
    exact ⟨(requeued_of_replaceAt hc).1.eq, _, _, amends_of_replaceAt hc⟩
  | replaceLast id d =>
    obtain ⟨⟨old, u⟩, hc, he⟩ := exists_of_map_eq_ok h
    cases he
    exact ⟨(requeued_of_replaceLast hc).1.eq, _, _, amends_of_replaceLast hc⟩
  | clear =>
    cases h
    exact ⟨rfl, _, _, .clear⟩
  | append name d =>
    obtain ⟨⟨n, u⟩, hc, he⟩ := exists_of_map_eq_ok h
    cases he
    obtain ⟨id, ha⟩ := amends_of_append hc
    exact ⟨(requeued_of_append hc).eq, _, _, ha⟩
  | insert side name d anchor j =>
    obtain ⟨⟨n, u⟩, hc, he⟩ := exists_of_map_eq_ok h
    cases he
    obtain ⟨id, ha⟩ := amends_of_insert hc
    exact ⟨(requeued_of_insert hc).eq, _, _, ha⟩
  | move side name d anchor j =>
    obtain ⟨⟨n, u⟩, hc, he⟩ := exists_of_map_eq_ok h
    cases he
    have hs : s.Requeued (fun _ => True) _ := requeued_of_move hc
    exact ⟨hs.eq, _, _, amends_of_move hc⟩
  | exchange name d other j =>
    obtain ⟨⟨old, u⟩, hc, he⟩ := exists_of_map_eq_ok h
    cases he
    obtain ⟨id, ha⟩ := amends_of_exchange hc
    exact ⟨(requeued_of_exchange hc).1.eq, _, _, ha⟩
  | remove name d =>
    obtain ⟨⟨old, u⟩, hc, he⟩ := exists_of_map_eq_ok h
    cases he
    have hs : s.Requeued (fun _ => True) _ := (requeued_of_remove hc).1
    exact ⟨hs.eq, _, _, amends_of_remove hc⟩
  | toggle name d u =>
    obtain ⟨⟨n, v⟩, hc, he⟩ := exists_of_map_eq_ok h
    cases he
    have hs : s.Requeued (fun _ => True) _ := requeued_of_toggle hc
    exact ⟨hs.eq, _, _, amends_of_toggle hc⟩
  | directive name d line => exact absurd rfl (hc name d line)

/-- An edit is made by the call it stands for, which is no directive. -/
theorem call_of_edit {edit : QueueEdit} (h : edit.apply s name d = .ok t) :
    ∃ returned, s.call (edit.call name d) = .ok (returned, t) ∧
      ∀ name' d' line, edit.call name d ≠ .directive name' d' line := by
  -- each edit makes its call and leaves out what that answers
  rcases edit with _ | _ | u | ⟨side | side | _, other, j⟩ <;>
    obtain ⟨⟨a, u⟩, hc, h⟩ := exists_of_bind_eq_ok h <;> cases h <;>
    exact ⟨_, by rw [QueueEdit.call, call, hc]; rfl, nofun⟩

theorem amends_of_edit {edit : QueueEdit} (h : edit.apply s name d = .ok t) :
    ∃ returned put taken, Amends s (edit.call name d) returned put taken t.queue := by
  obtain ⟨returned, hcall, hplain⟩ := call_of_edit h
  exact ⟨returned, (amends_of_plain hplain hcall).2⟩

theorem amends_of_directQueue (h : s.directQueue name d line = .ok t) :
    ∃ put taken, Amends s (.directive name d line) none put taken t.queue := by
  obtain ⟨edit, hl, h, -⟩ := edit_of_directQueue h
  obtain ⟨returned, put, taken, ha⟩ := amends_of_edit h
  exact ⟨put, taken, .directive hl ha⟩

/-- **Every call that succeeds amends the queue as it should, and changes nothing else.** -/
theorem amends_of_call (h : s.call c = .ok (returned, t)) :
    t = { s with queue := t.queue } ∧
      ∃ put taken, Amends s c returned put taken t.queue := by
  by_cases hc : ∃ name d line, c = .directive name d line
  · obtain ⟨name, d, line, rfl⟩ := hc
    obtain ⟨u, hu, he⟩ := exists_of_map_eq_ok h
    cases he
    exact ⟨(requeued_of_directQueue hu).eq, amends_of_directQueue hu⟩
  · exact amends_of_plain (fun name d line he => hc ⟨name, d, line, he⟩) h

/-! ### Ledgers -/

/-- The calls of a run put the items `put` into the queue of `s` and take the items `taken` out of
it, and leave the stage `t`. -/
inductive Ledger :
    (s : Stage) → List QueueCall → (put taken : List QueueItem) → (t : Stage) → Prop
  | nil (s : Stage) : Ledger s [] [] [] s
  /-- A call that fails contributes nothing. -/
  | failed {s t : Stage} {c : QueueCall} {e : Error} {calls : List QueueCall}
      {put taken : List QueueItem} (hc : s.call c = .error e) (h : Ledger s calls put taken t) :
      Ledger s (c :: calls) put taken t
  | done {s t u : Stage} {c : QueueCall} {returned : Option QueueItem} {calls : List QueueCall}
      {new old put taken : List QueueItem} (hc : s.call c = .ok (returned, t))
      (hs : t = { s with queue := t.queue }) (ha : Amends s c returned new old t.queue)
      (h : Ledger t calls put taken u) : Ledger s (c :: calls) (new ++ put) (old ++ taken) u

/-- A ledger balances. -/
theorem Ledger.perm {calls : List QueueCall} (h : Ledger s calls put taken t) :
    ((t.queue ++ taken).map QueueItem.draws).Perm ((s.queue ++ put).map QueueItem.draws) := by
  induction h with
  | nil => exact .refl _
  | failed hc h ih => exact ih
  | @done s t u c returned calls new old put taken hc hs ha h ih =>
    refine List.perm_iff_count.2 fun x => ?_
    have hfirst := ha.perm.count_eq x
    have hrest := ih.count_eq x
    simp only [List.map_append, List.count_append] at hfirst hrest ⊢
    omega

theorem exists_ledger (s : Stage) (calls : List QueueCall) :
    ∃ put taken, Ledger s calls put taken (s.runCalls calls) := by
  induction calls generalizing s with
  | nil => exact ⟨[], [], .nil s⟩
  | cons c calls ih =>
    cases hc : s.call c with
    | error e =>
      have hrun : s.runCalls (c :: calls) = s.runCalls calls := by
        simp [runCalls, afterCall, hc]
      obtain ⟨put, taken, h⟩ := ih s
      exact ⟨put, taken, hrun ▸ .failed hc h⟩
    | ok p =>
      obtain ⟨returned, t⟩ := p
      have hrun : s.runCalls (c :: calls) = t.runCalls calls := by
        simp [runCalls, afterCall, hc]
      obtain ⟨hs, new, old, ha⟩ := amends_of_call hc
      obtain ⟨put, taken, h⟩ := ih t
      exact ⟨new ++ put, old ++ taken, hrun ▸ .done hc hs ha h⟩

/-- **No queued item is lost or doubled.** In every run of calls each call that succeeds amends the
queue as it should and each call that fails contributes nothing. So the items that are queued in the
end, with those that were taken out, draw the same as often as the items queued at the start with
those that were put in. And two items that are exchanged twice are where they were; only positions
that the queue does not have cannot be exchanged. -/
theorem queue_conserved (s : Stage) (calls : List QueueCall) :
    let t := s.runCalls calls
    ∃ put taken, Ledger s calls put taken t ∧
      ((t.queue ++ taken).map QueueItem.draws).Perm ((s.queue ++ put).map QueueItem.draws) ∧
      ∀ i j, if i < t.queue.length ∧ j < t.queue.length then
          ∃ u, t.swap i j = .ok u ∧ u.swap i j = .ok t
        else ∃ e, t.swap i j = .error e := by
  intro t
  obtain ⟨put, taken, h⟩ := exists_ledger s calls
  refine ⟨put, taken, h, h.perm, fun i j => ?_⟩
  split
  · next hij =>
    have hswap := swap_eq_ok_iff.2 ⟨hij.1, hij.2, rfl⟩
    exact ⟨_, hswap, swap_swap hswap⟩
  · next hij =>
    cases hswap : t.swap i j with
    | error e => exact ⟨e, rfl⟩
    | ok u =>
      obtain ⟨hi, hj, -⟩ := swap_eq_ok_iff.1 hswap
      exact absurd ⟨hi, hj⟩ hij

end Stage
end SpriteStage
