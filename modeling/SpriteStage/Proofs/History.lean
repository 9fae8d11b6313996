/-!
# Histories

What happened so far, oldest first, looked at from its end.

* `Since p q`: something `p` happened and nothing `q` has happened since, which one more step keeps,
  brings about or ends (`since_concat`);
* a step of a longer history is its last one, or a step of the history before
  (`concat_eq_split_iff`).
-/

namespace SpriteStage.History

variable {α : Type} {p : List α → α → Prop} {q : α → Prop} {history earlier later : List α}
  {a last : α}

/-- Something `p` happened, which may depend on what was before, and nothing `q` has since. -/
def Since (p : List α → α → Prop) (q : α → Prop) (history : List α) : Prop :=
  ∃ earlier a later, history = earlier ++ a :: later ∧ p earlier a ∧ ∀ b ∈ later, ¬ q b

theorem concat_eq_split_iff : history ++ [last] = earlier ++ a :: later ↔
    (history = earlier ∧ last = a ∧ later = []) ∨
      ∃ more, later = more ++ [last] ∧ history = earlier ++ a :: more := by
  constructor
  · intro h
    rcases List.eq_nil_or_concat later with rfl | ⟨more, b, rfl⟩
    · obtain ⟨hh, ha⟩ := List.append_inj' h rfl
      exact .inl ⟨hh, List.head_eq_of_cons_eq ha, rfl⟩
    · have h : history ++ [last] = (earlier ++ a :: more) ++ [b] := by simpa using h
      obtain ⟨hh, hb⟩ := List.append_inj' h rfl
      exact .inr ⟨more, by rw [List.head_eq_of_cons_eq hb, List.concat_eq_append], hh⟩
  · rintro (⟨rfl, rfl, rfl⟩ | ⟨more, rfl, rfl⟩)
    · rfl
    · simp

theorem not_since_nil : ¬ Since p q [] := by
  rintro ⟨earlier, a, later, h, -⟩
  simp at h

/-- **What one more step does**: it is what `p` asks for, or it lets an earlier one stand. -/
theorem since_concat : Since p q (history ++ [last]) ↔
    p history last ∨ (Since p q history ∧ ¬ q last) := by
  constructor
  · rintro ⟨earlier, a, later, h, hp, hq⟩
    rcases concat_eq_split_iff.1 h with ⟨rfl, rfl, rfl⟩ | ⟨more, rfl, rfl⟩
    · exact .inl hp
    · obtain ⟨hmore, hlast⟩ := List.forall_mem_append.1 hq
      exact .inr ⟨⟨earlier, a, more, rfl, hp, hmore⟩, hlast last List.mem_cons_self⟩
  · rintro (hp | ⟨⟨earlier, a, later, rfl, hp, hq⟩, hlast⟩)
    · exact ⟨history, last, [], rfl, hp, fun _ hb => absurd hb List.not_mem_nil⟩
    · refine ⟨earlier, a, later ++ [last], List.append_assoc .., hp, ?_⟩
      exact List.forall_mem_append.2 ⟨hq, by simpa using hlast⟩

end SpriteStage.History
