/-!
# Keyed lists

A list of pairs, each a key with a value, looked up from the front.

* `without` leaves out a key, `put` leaves it out and puts the key with its new value in front, so
  no key comes twice in a list made of these;
* both leave what the other keys lead to alone.
-/

namespace SpriteStage.Keyed

variable {κ α : Type} [BEq κ]

/-- The pairs of the other keys. -/
def without (key : κ) (l : List (κ × α)) : List (κ × α) := l.filter (·.1 != key)

/-- The pairs with a value for a key, in place of an earlier one. -/
def put (key : κ) (a : α) (l : List (κ × α)) : List (κ × α) := (key, a) :: without key l

@[simp] theorem without_nil (key : κ) : without key ([] : List (κ × α)) = [] := rfl

/-- The keys that are left keep their order. -/
theorem map_fst_without (key : κ) (l : List (κ × α)) :
    (without key l).map Prod.fst = (l.map Prod.fst).filter (· != key) := by
  simp [without, List.filter_map, Function.comp_def]

variable [LawfulBEq κ]

/-! ### Looking up -/

@[simp] theorem lookup_without_self (key : κ) (l : List (κ × α)) :
    (without key l).lookup key = none := by
  induction l with
  | nil => rfl
  | cons e l ih =>
      obtain ⟨k, a⟩ := e
      by_cases h : k = key
      · subst h
        simpa [without] using ih
      · have hk : (key == k) = false := by simpa using fun e : key = k => h e.symm
        simpa [without, h, List.lookup_cons, hk] using ih

theorem lookup_without_of_ne {key other : κ} (h : other ≠ key) (l : List (κ × α)) :
    (without key l).lookup other = l.lookup other := by
  induction l with
  | nil => rfl
  | cons e l ih =>
      obtain ⟨k, a⟩ := e
      by_cases hk : k = key
      · subst hk
        have ho : (other == k) = false := by simpa using h
        simpa [without, List.lookup_cons, ho] using ih
      · cases ho : other == k <;> simp_all [without, List.lookup_cons]

@[simp] theorem lookup_put_self (key : κ) (a : α) (l : List (κ × α)) :
    (put key a l).lookup key = some a := by
  simp [put]

theorem lookup_put_of_ne {key other : κ} (h : other ≠ key) (a : α) (l : List (κ × α)) :
    (put key a l).lookup other = l.lookup other := by
  have ho : (other == key) = false := by simpa using h
  simp [put, List.lookup_cons, ho, lookup_without_of_ne h]

/-! ### Keys -/

theorem mem_without {key : κ} {l : List (κ × α)} {e : κ × α} :
    e ∈ without key l ↔ e ∈ l ∧ e.1 ≠ key := by
  simp [without]

theorem nodup_map_fst_put {key : κ} {l : List (κ × α)} (h : (l.map Prod.fst).Nodup) (a : α) :
    ((put key a l).map Prod.fst).Nodup := by
  rw [put, List.map_cons, List.nodup_cons, map_fst_without]
  exact ⟨by simp, h.filter _⟩

/-- In a list in which no key comes twice, every pair can be looked up. -/
theorem lookup_of_mem {key : κ} {a : α} {l : List (κ × α)} (hl : (l.map Prod.fst).Nodup)
    (h : (key, a) ∈ l) : l.lookup key = some a := by
  induction l with
  | nil => cases h
  | cons e l ih =>
      obtain ⟨hk, hl⟩ := List.nodup_cons.1 hl
      rcases List.mem_cons.1 h with rfl | h
      · simp
      · have hne : (key == e.1) = false := by
          simpa using fun he : key = e.1 => hk (List.mem_map.2 ⟨_, h, he⟩)
        rw [List.lookup_cons, hne]
        exact ih hl h

/-- There is nothing to leave out of a list without the key. -/
theorem without_of_not_mem {key : κ} {l : List (κ × α)} (h : key ∉ l.map Prod.fst) :
    without key l = l := by
  refine List.filter_eq_self.2 fun e he => ?_
  simpa using fun hek : e.1 = key => h (List.mem_map.2 ⟨e, he, hek⟩)

/-- In a list in which no key comes twice, a key and its value stand apart from the rest. -/
theorem perm_cons_without {key : κ} {a : α} {l : List (κ × α)} (hl : (l.map Prod.fst).Nodup)
    (h : l.lookup key = some a) : l.Perm ((key, a) :: without key l) := by
  induction l with
  | nil => simp at h
  | cons e l ih =>
      obtain ⟨k, x⟩ := e
      obtain ⟨hk, hl⟩ := List.nodup_cons.1 hl
      by_cases hkey : key = k
      · subst hkey
        obtain rfl : x = a := by simpa [List.lookup_cons] using h
        have hw : without key ((key, x) :: l) = l := by
          simpa [without] using without_of_not_mem hk
        rw [hw]
      · have hb : (key == k) = false := by simpa using hkey
        have hw : without key ((k, x) :: l) = (k, x) :: without key l := by
          simp [without, show (k != key) = true by simpa using Ne.symm hkey]
        rw [List.lookup_cons, hb] at h
        rw [hw]
        exact ((ih hl h).cons (k, x)).trans (.swap _ _ _)

end SpriteStage.Keyed
