import SpriteStage.Proofs.Cast
import SpriteStage.Stage.QueueEdit

/-!
# What an edit of the queue can do

An edit changes the queue and nothing else of a stage, and what it puts into the queue is known:

* `Requeued s fresh s'`: `s'` is `s` with another queue, in which every item draws what an old item
  draws, or else an existing destination of a `fresh` sprite;
* edits by position have the sprite they were given as the fresh one, edits by name and by
  directive the registered ones (`requeued_of_directQueue`), the others none.
-/

namespace SpriteStage.Stage

/-! ### Queues made of old and new items -/

/-- Every item of a queue draws what a queued one draws, or an existing destination of a fresh
sprite. -/
def ItemsFrom (s : Stage) (fresh : SpriteId → Prop) (queue : List QueueItem) : Prop :=
  ∀ item ∈ queue,
    (∃ old ∈ s.queue, old.sprite = item.sprite ∧ old.destination = item.destination) ∨
    (fresh item.sprite ∧ item.destination < (s.cast.sprite item.sprite).destinations.length)

/-- `s'` is `s` with a queue of old items and of items of fresh sprites. -/
structure Requeued (s : Stage) (fresh : SpriteId → Prop) (s' : Stage) : Prop where
  eq : s' = { s with queue := s'.queue }
  items : s.ItemsFrom fresh s'.queue

variable {s s' : Stage} {fresh : SpriteId → Prop} {id : SpriteId} {item new : QueueItem}
  {queue : List QueueItem} {name other : String} {i d j n : Nat}

theorem Requeued.mono {fresh' : SpriteId → Prop} (h : s.Requeued fresh s')
    (hf : ∀ id, fresh id → fresh' id) : s.Requeued fresh' s' :=
  ⟨h.eq, fun item hi => (h.items item hi).imp_right fun hn => ⟨hf _ hn.1, hn.2⟩⟩

theorem requeued_of_subset (h : ∀ item ∈ queue, item ∈ s.queue) :
    s.Requeued fresh { s with queue } :=
  ⟨rfl, fun item hi => .inl ⟨item, h item hi, rfl, rfl⟩⟩

theorem newItem_eq_ok_iff :
    s.newItem id d = .ok item ↔
      item = ⟨id, d, true⟩ ∧ d < (s.cast.sprite id).destinations.length := by
  constructor
  · intro h
    obtain ⟨destination, hg, h⟩ := exists_of_bind_eq_ok h
    cases h
    exact ⟨rfl, Sprite.lt_of_get hg⟩
  · rintro ⟨rfl, hd⟩
    obtain ⟨destination, hg⟩ := Sprite.exists_get_of_lt hd
    rw [newItem, bind_of_eq_ok hg]
    rfl

/-- A queue of old items with one new item of a fresh sprite. -/
theorem requeued_of_new (hn : s.newItem id d = .ok new) (hf : fresh id)
    (h : ∀ item ∈ queue, item = new ∨ item ∈ s.queue) : s.Requeued fresh { s with queue } := by
  obtain ⟨rfl, hd⟩ := newItem_eq_ok_iff.1 hn
  refine ⟨rfl, fun item hi => ?_⟩
  rcases h item hi with rfl | hold
  · exact .inr ⟨hf, hd⟩
  · exact .inl ⟨item, hold, rfl, rfl⟩

theorem mem_registered_of_get {c : Cast} (h : c.get name = .ok id) : id ∈ c.registered :=
  Cast.mem_registered_of_find? (Cast.get_eq_ok_iff.1 h)

theorem mem_of_mem_insertIdx {l : List QueueItem} (h : item ∈ l.insertIdx i new) :
    item = new ∨ item ∈ l := by
  by_cases hi : i ≤ l.length
  · exact (List.mem_insertIdx hi).1 h
  · rw [List.insertIdx_of_length_lt (by omega)] at h
    exact .inr h

/-! ### By position -/

theorem requeued_of_push (h : s.push id d = .ok (n, s')) : s.Requeued (· = id) s' := by
  obtain ⟨new, hn, h⟩ := exists_of_bind_eq_ok h
  cases h
  refine requeued_of_new hn rfl fun item hi => ?_
  rcases List.mem_append.1 hi with hold | hnew
  · exact .inr hold
  · exact .inl (List.mem_singleton.1 hnew)

theorem requeued_of_swap (h : s.swap i j = .ok s') : s.Requeued fresh s' := by
  obtain ⟨first, hfirst, h⟩ := exists_of_bind_eq_ok h
  obtain ⟨second, hsecond, h⟩ := exists_of_bind_eq_ok h
  cases h
  have hfirst := List.mem_of_getElem? (itemAtPosition_eq_ok_iff.1 hfirst)
  have hsecond := List.mem_of_getElem? (itemAtPosition_eq_ok_iff.1 hsecond)
  refine requeued_of_subset fun item hi => ?_
  rcases List.mem_or_eq_of_mem_set hi with hi | rfl
  · rcases List.mem_or_eq_of_mem_set hi with hi | rfl
    · exact hi
    · exact hsecond
  · exact hfirst

/-- What a replacement takes out was queued. -/
theorem requeued_of_replaceAt (h : s.replaceAt i id d = .ok (item, s')) :
    s.Requeued (· = id) s' ∧ item ∈ s.queue := by
  obtain ⟨old, hold, h⟩ := exists_of_bind_eq_ok h
  obtain ⟨new, hn, h⟩ := exists_of_bind_eq_ok h
  cases h
  refine ⟨requeued_of_new hn rfl fun item hi => ?_,
    List.mem_of_getElem? (itemAtPosition_eq_ok_iff.1 hold)⟩
  exact (List.mem_or_eq_of_mem_set hi).symm

theorem requeued_of_replaceLast (h : s.replaceLast id d = .ok (item, s')) :
    s.Requeued (· = id) s' ∧ item ∈ s.queue := by
  unfold replaceLast at h
  split at h
  · cases h
  · exact requeued_of_replaceAt h

theorem requeued_clearQueue : s.Requeued fresh s.clearQueue :=
  requeued_of_subset fun _ h => absurd h List.not_mem_nil

/-! ### By name -/

theorem requeued_of_append (h : s.append name d = .ok (n, s')) :
    s.Requeued (· ∈ s.cast.registered) s' := by
  obtain ⟨id, hid, h⟩ := exists_of_bind_eq_ok h
  refine (requeued_of_push h).mono ?_
  rintro _ rfl
  exact mem_registered_of_get hid

theorem requeued_of_insert {side : Side} (h : s.insert side name d other j = .ok (n, s')) :
    s.Requeued (· ∈ s.cast.registered) s' := by
  obtain ⟨new, hn, h⟩ := exists_of_bind_eq_ok h
  obtain ⟨id, hid, hn⟩ := exists_of_bind_eq_ok hn
  obtain ⟨anchor, -, h⟩ := exists_of_bind_eq_ok h
  cases h
  exact requeued_of_new hn (mem_registered_of_get hid) fun item hi => mem_of_mem_insertIdx hi

theorem mem_of_mem_relocate {side : Side} {source anchor : Nat}
    (h : item ∈ relocate side source anchor queue) : item ∈ queue := by
  unfold relocate at h
  split at h
  · next moved hm =>
    -- next to itself an item stays, else it is taken out and put back
    split at h
    · exact h
    · rcases mem_of_mem_insertIdx h with rfl | h
      · exact List.mem_of_getElem? hm
      · exact List.mem_of_mem_eraseIdx h
  · exact h

theorem requeued_of_move {side : Side} (h : s.move side name d other j = .ok (n, s')) :
    s.Requeued fresh s' := by
  obtain ⟨source, -, h⟩ := exists_of_bind_eq_ok h
  obtain ⟨target, -, h⟩ := exists_of_bind_eq_ok h
  cases h
  exact requeued_of_subset fun item hi => mem_of_mem_relocate hi

theorem requeued_of_exchange (h : s.exchange name d other j = .ok (item, s')) :
    s.Requeued (· ∈ s.cast.registered) s' ∧ item ∈ s.queue := by
  obtain ⟨new, hn, h⟩ := exists_of_bind_eq_ok h
  obtain ⟨id, hid, hn⟩ := exists_of_bind_eq_ok hn
  obtain ⟨i, -, h⟩ := exists_of_bind_eq_ok h
  obtain ⟨old, hold, h⟩ := exists_of_bind_eq_ok h
  cases h
  refine ⟨requeued_of_new hn (mem_registered_of_get hid) fun item hi => ?_,
    List.mem_of_getElem? (itemAtPosition_eq_ok_iff.1 hold)⟩
  exact (List.mem_or_eq_of_mem_set hi).symm

theorem requeued_of_remove (h : s.remove name d = .ok (item, s')) :
    s.Requeued fresh s' ∧ item ∈ s.queue := by
  obtain ⟨i, -, h⟩ := exists_of_bind_eq_ok h
  obtain ⟨old, hold, h⟩ := exists_of_bind_eq_ok h
  cases h
  exact ⟨requeued_of_subset fun item hi => List.mem_of_mem_eraseIdx hi,
    List.mem_of_getElem? (itemAtPosition_eq_ok_iff.1 hold)⟩

/-- Showing and hiding leaves every item in its place. -/
theorem requeued_of_toggle {t : Toggle} (h : s.toggle name d t = .ok (n, s')) :
    s.Requeued fresh s' := by
  simp only [toggle] at h
  split at h
  · cases h
  · cases h
    refine ⟨rfl, fun item hi => ?_⟩
    -- every item comes from the one in its place, which draws the same
    obtain ⟨old, hold, rfl⟩ := List.mem_map.1 hi
    refine .inl ⟨old, hold, ?_⟩
    split <;> exact ⟨rfl, rfl⟩

/-! ### By directive -/

theorem requeued_of_edit {edit : QueueEdit} (h : edit.apply s name d = .ok s') :
    s.Requeued (· ∈ s.cast.registered) s' := by
  cases edit with
  | append =>
    obtain ⟨⟨n, s₁⟩, h₁, h⟩ := exists_of_bind_eq_ok h
    cases h
    exact requeued_of_append h₁
  | remove =>
    obtain ⟨⟨item, s₁⟩, h₁, h⟩ := exists_of_bind_eq_ok h
    cases h
    exact (requeued_of_remove h₁).1
  | toggle t =>
    obtain ⟨⟨n, s₁⟩, h₁, h⟩ := exists_of_bind_eq_ok h
    cases h
    exact requeued_of_toggle h₁
  | anchored edit other j =>
    cases edit with
    | insert side =>
      obtain ⟨⟨n, s₁⟩, h₁, h⟩ := exists_of_bind_eq_ok h
      cases h
      exact requeued_of_insert h₁
    | move side =>
      obtain ⟨⟨n, s₁⟩, h₁, h⟩ := exists_of_bind_eq_ok h
      cases h
      exact requeued_of_move h₁
    | swap =>
      obtain ⟨⟨item, s₁⟩, h₁, h⟩ := exists_of_bind_eq_ok h
      cases h
      exact (requeued_of_exchange h₁).1

/-- A queue directive that succeeds has made an edit that is open to the sprite of the name. -/
theorem edit_of_directQueue {line : String} (h : s.directQueue name d line = .ok s') :
    ∃ edit, QueueEdit.parse s.reader line = .ok edit ∧ edit.apply s name d = .ok s' ∧
      (s.cast.contains name = true ∨ edit.reachesDeleted = true) := by
  simp only [directQueue] at h
  split at h
  · cases h
  · obtain ⟨edit, hl, h⟩ := exists_of_bind_eq_ok h
    split at h
    · cases h
    · next hopen => exact ⟨edit, hl, h, by simpa [Decidable.or_iff_not_imp_left] using hopen⟩

/-- **A queue directive changes the queue only, and adds only items of registered sprites.** -/
theorem requeued_of_directQueue {line : String} (h : s.directQueue name d line = .ok s') :
    s.Requeued (· ∈ s.cast.registered) s' := by
  obtain ⟨edit, -, h, -⟩ := edit_of_directQueue h
  exact requeued_of_edit h

end SpriteStage.Stage
