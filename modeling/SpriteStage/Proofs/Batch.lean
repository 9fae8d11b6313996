import SpriteStage.Proofs.Centring
import SpriteStage.Proofs.Directive

/-!
# Batches are single changes in sequence

A batch does what its single changes do one after the other, up to the first that fails. A batch of
directives reads its line once, single directives read it every time; both are the same, because a
directive never moves the area it took from another destination.

* `Cast.InSequence`: what a sequence of steps answers and leaves, without the loop of a batch;
* `readDirective_of_update`: a directive that was applied is read as before;
* `batches_in_sequence`: batches of directives and of other changes as sequences.
-/

namespace SpriteStage.Cast

/-! ### Sequences -/

/-- Steps for the names, in order, from the cast `c`: their number when none fails; otherwise the
first one that fails, with its own error, and the cast that those before it left. -/
inductive InSequence (step : Cast → String → Except Error Cast) (c : Cast) (names : List String) :
    Except Error Nat × Cast → Prop
  | all {c' : Cast} (h : names.foldlM step c = .ok c') :
      InSequence step c names (.ok names.length, c')
  | stopped {before after : List String} {name : String} {c' : Cast} {e : Error}
      (hn : names = before ++ name :: after) (hb : before.foldlM step c = .ok c')
      (he : step c' name = .error e) :
      InSequence step c names (.error (.batch name before.length e), c')

variable {c c' : Cast} {r : ValueReader} {name line : String} {i : Nat} {a : Adjustment}
  {step next : Cast → String → Except Error Cast} {f : Sprite → Except Error Sprite}

/-- Steps that agree on casts with a property are the same, when the steps keep the property. -/
theorem foldlM_congr {P : Cast → Prop} (agree : ∀ c name, P c → next c name = step c name)
    (keep : ∀ c name c', P c → step c name = .ok c' → P c') (hc : P c) (names : List String) :
    names.foldlM next c = names.foldlM step c ∧
      ∀ c', names.foldlM step c = .ok c' → P c' := by
  induction names generalizing c with
  | nil =>
    refine ⟨rfl, fun c' h => ?_⟩
    cases h
    exact hc
  | cons name rest ih =>
    rw [List.foldlM_cons, List.foldlM_cons, agree c name hc]
    cases hs : step c name with
    | error e => exact ⟨rfl, fun c' h => nomatch h⟩
    | ok d => exact ih (keep c name d hc hs)

theorem InSequence.congr {P : Cast → Prop} {names : List String} {p : Except Error Nat × Cast}
    (agree : ∀ c name, P c → next c name = step c name)
    (keep : ∀ c name c', P c → step c name = .ok c' → P c') (hc : P c)
    (h : InSequence step c names p) : InSequence next c names p := by
  cases h with
  | all h => exact .all ((foldlM_congr agree keep hc names).1.trans h)
  | @stopped before after name c' e hn hb he =>
    obtain ⟨heq, hkeep⟩ := foldlM_congr agree keep hc before
    exact .stopped hn (heq.trans hb) ((agree c' name (hkeep c' hb)).trans he)

/-! ### Batches -/

/-- The loop of a batch: it got through all names, or it stopped at one of them. -/
theorem updateEach_cases (f : Sprite → Except Error Sprite) (c : Cast) (k : Nat)
    (names : List String) :
    (∃ c', names.foldlM (·.update · f) c = .ok c' ∧ c.updateEach f k names = (.ok (), c')) ∨
      ∃ before name after c' e, names = before ++ name :: after ∧
        before.foldlM (·.update · f) c = .ok c' ∧ c'.update name f = .error e ∧
        c.updateEach f k names = (.error (.batch name (k + before.length) e), c') := by
  induction names generalizing c k with
  | nil => exact .inl ⟨c, rfl, rfl⟩
  | cons name rest ih =>
    rw [updateEach]
    cases hu : c.update name f with
    | error e => exact .inr ⟨[], name, rest, c, e, rfl, rfl, hu, rfl⟩
    | ok d =>
      have hcons (names : List String) :
          (name :: names).foldlM (·.update · f) c = names.foldlM (·.update · f) d := by
        rw [List.foldlM_cons, hu]
        rfl
      rcases ih d (k + 1) with ⟨c', hf, h⟩ | ⟨before, last, after, c', e, rfl, hf, he, h⟩
      · exact .inl ⟨c', (hcons rest).trans hf, h⟩
      · refine .inr ⟨name :: before, last, after, c', e, rfl, (hcons before).trans hf, he, ?_⟩
        rw [List.length_cons, Nat.add_comm before.length, ← Nat.add_assoc]
        exact h

/-- A batch is its single changes in sequence. -/
theorem inSequence_batch (c : Cast) (selection : Selection) (f : Sprite → Except Error Sprite) :
    InSequence (·.update · f) c (c.selected selection) (c.batch selection f) := by
  rcases updateEach_cases f c 0 (c.selected selection) with
    ⟨c', hf, h⟩ | ⟨before, name, after, c', e, hn, hf, he, h⟩
  · have hb : c.batch selection f = (.ok (c.selected selection).length, c') := by
      simp [batch, h, Except.map]
    exact hb ▸ .all hf
  · have hb : c.batch selection f = (.error (.batch name before.length e), c') := by
      simp [batch, h, Except.map]
    exact hb ▸ .stopped hn hf he

/-! ### Directives -/

/-- An applied centring leaves the destination it took its area from as it was: that is another
destination, or it is centred in its own rectangle. -/
theorem get_replace_of_centring {id target : SpriteId} {s : Sprite} {d : Destination} {j : Nat}
    (hd : (c.sprite target).get j = .ok d)
    (h : (Adjustment.centerIn (.ofRect d.rect) none).apply (c.sprite id) i = .ok s) :
    ((c.replace id s).sprite target).get j = .ok d := by
  by_cases hid : id = target
  · subst hid
    rcases sprite_replace_self c id s with hs | hs <;> rw [hs]
    · by_cases hij : i = j
      · subst hij
        obtain rfl : c.sprite id = s :=
          Except.ok.inj ((Adjustment.apply_centerIn_own hd).symm.trans h)
        exact hd
      · have hkept := (Sprite.reached_of_apply h).get_of_ne (Sprite.lt_of_get hd) (Ne.symm hij)
        rw [Sprite.get_eq_ok_iff, hkept]
        exact Sprite.get_eq_ok_iff.1 hd
    · exact hd
  · rw [sprite_replace_of_ne hid]
    exact hd

/-- **A directive that was applied is read as before.** -/
theorem readDirective_of_update (hr : c.readDirective r line = .ok a)
    (h : c.update name (a.apply · i) = .ok c') : c'.readDirective r line = .ok a := by
  obtain ⟨id, -, h⟩ := exists_of_bind_eq_ok h
  obtain ⟨s, hs, h⟩ := exists_of_bind_eq_ok h
  cases h
  cases hwords : Text.words line with
  | nil => simp [readDirective, hwords] at hr
  | cons command args =>
    simp only [readDirective, hwords] at hr ⊢
    by_cases hc : command = centerInSpriteKeyword
    · -- the only command that looks at the cast
      rw [if_pos hc] at hr ⊢
      obtain ⟨other, j, hread⟩ := readCenterInSprite_eq_ok hr
      rw [hread, centringIn_eq_ok_iff] at hr ⊢
      obtain ⟨target, d, hf, hd, rfl⟩ := hr
      exact ⟨target, d, hf, get_replace_of_centring hd hs, rfl⟩
    · rw [if_neg hc] at hr ⊢
      exact hr

theorem direct_eq_update (hr : c.readDirective r line = .ok a) (name : String) (i : Nat) :
    c.direct r name i line = c.update name (a.apply · i) := by
  rw [direct, update, hr]
  rfl

/-- A batch of directives is its single directives in sequence, if its line can be read. -/
theorem inSequence_directEach (hr : c.readDirective r line = .ok a) (selection : Selection)
    (i : Nat) :
    InSequence (·.direct r · i line) c (c.selected selection)
      (c.directEach r selection i line) := by
  have hbatch : c.directEach r selection i line = c.batch selection (a.apply · i) := by
    simp [directEach, hr]
  rw [hbatch]
  refine (inSequence_batch c selection (a.apply · i)).congr
    (P := fun c => c.readDirective r line = .ok a) ?_ ?_ hr
  · exact fun c name hr => direct_eq_update hr name i
  · exact fun c name c' hr h => readDirective_of_update hr h

/-- **A batch is the same as its single calls in sequence, up to the first that fails.** That goes
for directives whose line can be read, though a batch reads it once and single calls read it each
time; one that cannot be read changes nothing. And it goes for colors, corners and options. -/
theorem batches_in_sequence (c : Cast) (r : ValueReader) (selection : Selection) (i : Nat) :
    (∀ line a, c.readDirective r line = .ok a →
      InSequence (·.direct r · i line) c (c.selected selection)
        (c.directEach r selection i line)) ∧
    (∀ line e, c.readDirective r line = .error e →
      c.directEach r selection i line = (.error e, c)) ∧
    (∀ color, InSequence (·.update · (·.setColor i color)) c (c.selected selection)
      (c.batch selection (·.setColor i color))) ∧
    (∀ x y, InSequence (·.update · (·.setOrigin i x y)) c (c.selected selection)
      (c.batch selection (·.setOrigin i x y))) ∧
    (∀ options, InSequence (·.update · (·.setOptions i options)) c (c.selected selection)
      (c.batch selection (·.setOptions i options))) := by
  refine ⟨fun line a hr => inSequence_directEach hr selection i, fun line e hr => ?_,
    fun color => inSequence_batch c selection _, fun x y => inSequence_batch c selection _,
    fun options => inSequence_batch c selection _⟩
  rw [directEach, hr]

/-- The panel is selected itself, between two turns of the marker that is centred in it; the batch
stops at a name that nobody has. -/
theorem centring_in_selected :
    let c : Cast :=
      ⟨[.new "panel" ⟨"panel", ⟨1⟩, 40, 20⟩ .empty, .new "marker" ⟨"marker", ⟨2⟩, 5, 8⟩ .empty],
        [("panel", ⟨0⟩), ("marker", ⟨1⟩)]⟩
    let r : ValueReader := ⟨⟨200, 100⟩⟩
    let names := ["marker", "panel", "marker", "ghost"]
    let p := c.directEach r (.names names) 0 "centerInSprite panel"
    InSequence (·.direct r · 0 "centerInSprite panel") c names p ∧
      p.1 = .error (.batch "ghost" 3 (.unknownSprite "ghost")) := by
  intro c r names p
  have hread : c.readDirective r "centerInSprite panel" =
      .ok (.centerIn (.ofRect ⟨0, 0, 40, 20⟩) none) := rfl
  exact ⟨(batches_in_sequence c r (.names names) 0).1 _ _ hread, rfl⟩

end SpriteStage.Cast
