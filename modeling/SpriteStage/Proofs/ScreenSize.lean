import Mathlib.Data.List.Induction
import SpriteStage.Proofs.Effect
import SpriteStage.Proofs.Formula.Tree
import SpriteStage.Proofs.History

/-!
# The size of the screen

Three sizes are kept: the one that was reported last, the one of the stage and the one that its
directives are read against.

* `Host.screens` is all that is known of them; three actions change it and no other does
  (`screens_after`);
* `Due`: the schedule has not run yet, or a size was reported since it ran last; a host notes this
  and nothing else (`reported_run`);
* between two reports the size of the stage changes when it is resized and at no other time
  (`size_run`).
-/

namespace SpriteStage

namespace Stage

variable {β : Type} {s : Stage} {b : β} {name key : String} {held : List SpriteId}

/-- The size of a stage and the reader of its directives. -/
def sizes (s : Stage) : ScreenSize × ValueReader := (s.screen, s.reader)

/-- A stage whose reader knows its size has that size already. -/
theorem resize_self (h : s.reader.screen = s.screen) : s.resize s.screen = s := by
  obtain ⟨name, screen, reader, cast, textures, queue, retired⟩ := s
  cases reader
  cases h
  rfl

theorem sizes_register {texture : Texture} {source : Rect} :
    (s.register b name texture source).stage.sizes = s.sizes := by
  unfold register
  split <;> rfl

section Lifetime

variable [TextureLoader β]

theorem sizes_createSprite {source : Rect} :
    (s.createSprite b name key source).stage.sizes = s.sizes := by
  unfold createSprite
  split
  · rfl
  · split
    · rfl
    · exact sizes_register

theorem sizes_createFromFile : (s.createFromFile b name).stage.sizes = s.sizes := by
  unfold createFromFile
  split
  · rfl
  · split
    · rfl
    · exact sizes_register

theorem sizes_createFromRectangle {width height : Int32} {color : Color} :
    (s.createFromRectangle b name width height color).stage.sizes = s.sizes := by
  unfold createFromRectangle
  split
  · rfl
  · split
    · rfl
    · next t textures b ha =>
      -- the sprite is registered first and then has its color set
      have hmade : (register { s with textures } b name t .empty).stage.sizes = s.sizes :=
        sizes_register
      dsimp only
      split
      · exact hmade
      · split <;> exact hmade

theorem sizes_deleteSprite : (s.deleteSprite b held name).stage.sizes = s.sizes := by
  unfold deleteSprite
  split <;> rfl

theorem sizes_deleteTexture : (s.deleteTexture b held key).stage.sizes = s.sizes := by
  simp only [deleteTexture]
  split
  · rfl
  · split
    · rfl
    · exact sizes_deleteSprite

theorem sizes_renderPass [Canvas β] : (s.renderPass b held).stage.sizes = s.sizes := by
  unfold renderPass
  split <;> rfl

end Lifetime

end Stage

/-- What is known of the screen. -/
structure Screens where
  stage : ScreenSize
  reader : ValueReader
  /-- The size reported last. -/
  seen : ScreenSize
  /-- Whether it was reported since the schedule last ran. -/
  reported : Bool

namespace Host

variable {β : Type} {h : Host β} {a : Action β} {actions earlier later : List (Action β)}

/-- What a host knows of the screen. -/
def screens (h : Host β) : Screens := ⟨h.stage.screen, h.stage.reader, h.screen, h.reported⟩

/-- Whether an action is about the size of the screen. -/
def setsScreen : Action β → Bool
  | .resize _ | .report _ | .runSchedule => true
  | _ => false

/-! ### One action -/

theorem screens_of_sizes {h' : Host β} (hs : h'.stage.sizes = h.stage.sizes)
    (hseen : h'.screen = h.screen) (hr : h'.reported = h.reported) : h'.screens = h.screens := by
  obtain ⟨hscreen, hreader⟩ := Prod.mk.inj hs
  simp only [screens, hscreen, hreader, hseen, hr]

theorem Edited.screens {h' : Host β} (he : Edited h h') : h'.screens = h.screens := by
  cases he with
  | mk hs hi =>
    refine screens_of_sizes ?_ rfl rfl
    rw [hs.eq]
    rfl

theorem screens_change {f : Stage → Except Error Stage}
    (hf : ∀ s, f h.stage = .ok s → s.sizes = h.stage.sizes) :
    (h.change f).2.screens = h.screens :=
  change_cases (P := fun h' => h'.screens = h.screens) rfl fun s hs =>
    screens_of_sizes (hf s hs) rfl rfl

variable [TextureLoader β] [Canvas β]

/-- **Only three actions are about the size of the screen.** -/
theorem screens_after (ha : setsScreen a = false) : (h.after a).screens = h.screens := by
  cases a with
  | resize | report | runSchedule => cases ha
  | createSprite name key source => exact screens_of_sizes Stage.sizes_createSprite rfl rfl
  | createFromFile path => exact screens_of_sizes Stage.sizes_createFromFile rfl rfl
  | createFromRectangle name width height color =>
    exact screens_of_sizes Stage.sizes_createFromRectangle rfl rfl
  | deleteSprite name => exact screens_of_sizes Stage.sizes_deleteSprite rfl rfl
  | deleteTexture key => exact screens_of_sizes Stage.sizes_deleteTexture rfl rfl
  | renderPass => exact screens_of_sizes Stage.sizes_renderPass rfl rfl
  | direct name i line =>
    refine screens_change fun s hs => ?_
    obtain ⟨c, -, hs⟩ := exists_of_bind_eq_ok hs
    cases hs
    rfl
  | centerInSprite name i other j =>
    refine screens_change fun s hs => ?_
    obtain ⟨c, -, hs⟩ := exists_of_bind_eq_ok hs
    cases hs
    rfl
  | changeSprite ref change =>
    refine withSprite_cases (P := fun h' => h'.screens = h.screens) rfl fun id hk => ?_
    split <;> rfl
  | holdSprite label ref =>
    exact withSprite_cases (P := fun h' => h'.screens = h.screens) rfl fun id hk => rfl
  | holdItem label i =>
    show (perform h (.holdItem label i)).2.screens = h.screens
    simp only [perform]
    split <;> rfl
  | push | swap | replaceAt | replaceLast | append | insert | move | exchange | remove | toggle
  | clearQueue | directQueue => exact (edited_after h rfl).screens
  | releaseRetired | clear | directEach | changeEach | render | drop | touch => rfl

theorem seen_after (ha : ∀ size, a ≠ .report size) : (h.after a).screen = h.screen := by
  cases hs : setsScreen a with
  | false => exact congrArg Screens.seen (screens_after hs)
  | true =>
    cases a with
    | report size => exact absurd rfl (ha size)
    | resize | runSchedule => rfl
    | _ => cases hs

theorem reported_after (hreport : ∀ size, a ≠ .report size) (hrun : a ≠ .runSchedule) :
    (h.after a).reported = h.reported := by
  cases hs : setsScreen a with
  | false => exact congrArg Screens.reported (screens_after hs)
  | true =>
    cases a with
    | report size => exact absurd rfl (hreport size)
    | runSchedule => exact absurd rfl hrun
    | resize => rfl
    | _ => cases hs

/-! ### One run of the schedule -/

omit [TextureLoader β] [Canvas β] in
theorem stage_runSchedule (h : Host β) : h.runSchedule.stage =
    if h.reported ∧ h.stage.screen ≠ h.screen then h.stage.resize h.screen else h.stage := rfl

omit [TextureLoader β] [Canvas β] in
/-- The size is left as it is when it is the reported one, which makes no difference. -/
theorem runSchedule_of_reported (hr : h.reported = true)
    (hreader : h.stage.reader.screen = h.stage.screen) :
    h.runSchedule.stage = h.stage.resize h.screen := by
  rw [stage_runSchedule]
  split
  · rfl
  · next hno =>
    have heq : h.stage.screen = h.screen := not_not.1 fun hne => hno ⟨hr, hne⟩
    rw [← heq, Stage.resize_self hreader]

omit [TextureLoader β] [Canvas β] in
theorem runSchedule_of_not_reported (hr : h.reported = false) :
    h.runSchedule.stage = h.stage := by
  rw [stage_runSchedule, if_neg (by simp [hr])]

/-- What a directive is read against is the size of the stage. -/
theorem reader_after (hreader : h.stage.reader.screen = h.stage.screen) (a : Action β) :
    (h.after a).stage.reader.screen = (h.after a).stage.screen := by
  cases hs : setsScreen a with
  | false =>
    have hsame := screens_after (h := h) hs
    have hscreen : (h.after a).stage.screen = h.stage.screen := congrArg Screens.stage hsame
    have hafter : (h.after a).stage.reader = h.stage.reader := congrArg Screens.reader hsame
    rw [hafter, hscreen, hreader]
  | true =>
    cases a with
    | resize size => rfl
    | report size => exact hreader
    | runSchedule =>
      show h.runSchedule.stage.reader.screen = h.runSchedule.stage.screen
      cases hr : h.reported with
      | true => rw [runSchedule_of_reported hr hreader]; rfl
      | false => rw [runSchedule_of_not_reported hr, hreader]
    | _ => cases hs

/-! ### Runs -/

/-- The schedule has to look at the reported size: it has not run yet, or a size was reported since
it ran last. -/
def Due (actions : List (Action β)) : Prop :=
  .runSchedule ∉ actions ∨
    History.Since (fun _ a => ∃ size, a = .report size) (· = .runSchedule) actions

omit [TextureLoader β] [Canvas β] in
theorem due_nil : Due ([] : List (Action β)) := .inl List.not_mem_nil

omit [TextureLoader β] [Canvas β] in
theorem due_concat : Due (actions ++ [a]) ↔
    (∃ size, a = .report size) ∨ (Due actions ∧ a ≠ .runSchedule) := by
  rw [Due, Due, History.since_concat, List.mem_append, List.mem_singleton, not_or]
  constructor
  · rintro (⟨hno, ha⟩ | hreport | ⟨hsince, ha⟩)
    · exact .inr ⟨.inl hno, Ne.symm ha⟩
    · exact .inl hreport
    · exact .inr ⟨.inr hsince, ha⟩
  · rintro (hreport | ⟨hno | hsince, ha⟩)
    · exact .inr (.inl hreport)
    · exact .inl ⟨hno, Ne.symm ha⟩
    · exact .inr (.inr ⟨hsince, ha⟩)

/-- **A host notes exactly what the schedule has to look at.** -/
theorem reported_run (name : String) (screen : ScreenSize) (b : β) (actions : List (Action β)) :
    ((Host.new name screen b).run actions).reported = true ↔ Due actions := by
  induction actions using List.reverseRecOn with
  | nil => exact iff_of_true rfl due_nil
  | append_singleton earlier a ih =>
    rw [run_append, due_concat, run_cons, run_nil]
    by_cases hreport : ∃ size, a = .report size
    · obtain ⟨size, rfl⟩ := hreport
      exact iff_of_true rfl (.inl ⟨size, rfl⟩)
    · by_cases hrun : a = .runSchedule
      · subst hrun
        exact iff_of_false (by simp [after, perform]) (by simp)
      · rw [reported_after (not_exists.1 hreport) hrun, ih]
        simp [hreport, hrun]

theorem reader_run (name : String) (screen : ScreenSize) (b : β) (actions : List (Action β)) :
    ((Host.new name screen b).run actions).stage.reader.screen =
      ((Host.new name screen b).run actions).stage.screen :=
  run_induction (P := fun h => h.stage.reader.screen = h.stage.screen)
    (fun _ a hreader => reader_after hreader a) rfl actions

/-- Without a report the size that was reported last stays what it is. -/
theorem seen_run (hactions : ∀ size, .report size ∉ actions) :
    (h.run actions).screen = h.screen := by
  induction actions generalizing h with
  | nil => rfl
  | cons a rest ih =>
    rw [run_cons, ih fun size hs => hactions size (List.mem_cons_of_mem a hs)]
    exact seen_after fun size ha => hactions size (ha ▸ List.mem_cons_self)

/-- A stage keeps its size as long as nothing is reported and nobody resizes it, however often the
schedule runs. -/
theorem size_run (hr : h.reported = false)
    (hactions : ∀ size, .report size ∉ actions ∧ .resize size ∉ actions) :
    (h.run actions).stage.screen = h.stage.screen := by
  induction actions generalizing h with
  | nil => rfl
  | cons a rest ih =>
    have hrest : ∀ size, .report size ∉ rest ∧ .resize size ∉ rest := fun size =>
      ⟨fun hs => (hactions size).1 (List.mem_cons_of_mem a hs),
        fun hs => (hactions size).2 (List.mem_cons_of_mem a hs)⟩
    have hreport : ∀ size, a ≠ .report size :=
      fun size ha => (hactions size).1 (ha ▸ List.mem_cons_self)
    rw [run_cons]
    cases hs : setsScreen a with
    | false =>
      have hsame := screens_after (h := h) hs
      rw [ih ((congrArg Screens.reported hsame).trans hr) hrest]
      exact congrArg Screens.stage hsame
    | true =>
      cases a with
      | resize size => exact absurd List.mem_cons_self (hactions size).2
      | report size => exact absurd rfl (hreport size)
      | runSchedule =>
        rw [ih rfl hrest]
        exact congrArg Stage.screen (runSchedule_of_not_reported hr)
      | _ => cases hs

/-- **Reported sizes reach the stage when the schedule runs, and then only.** After every run of
actions, failing ones included, the directives of a stage are read against its own size, so a text
of an expression has the value of the expression for that size. What the host takes for the size of
the screen is what was reported last. A run of the schedule that is the first one, or the first one
after a report, resizes the stage to that; every other one changes nothing. So a stage that is
resized in between keeps its new size until something is reported or it is resized again. -/
theorem reports_reach_stage (name : String) (screen : ScreenSize) (b : β)
    (actions : List (Action β)) :
    let h := (Host.new name screen b).run actions
    h.stage.reader.screen = h.stage.screen ∧
    (∀ e : Formula.Tree .expression, h.stage.reader.value (String.ofList e.render) =
      (e.outcome h.stage.screen).mapError fun fault =>
        .parse (String.ofList e.render) fault.message) ∧
    (∀ earlier size later, actions = earlier ++ .report size :: later →
      (∀ other, .report other ∉ later) → h.screen = size) ∧
    ((∀ size, .report size ∉ actions) → h.screen = screen) ∧
    (Due actions → h.runSchedule.stage = h.stage.resize h.screen) ∧
    (¬ Due actions → h.runSchedule.stage = h.stage) ∧
    (¬ Due actions → ∀ size later, (∀ other, .report other ∉ later ∧ .resize other ∉ later) →
      let kept := ((h.after (.resize size)).run later).stage
      kept.screen = size ∧ kept.reader.screen = size) := by
  intro h
  have hreader : h.stage.reader.screen = h.stage.screen := reader_run name screen b actions
  have hreported : h.reported = true ↔ Due actions := reported_run name screen b actions
  have hquiet (hd : ¬ Due actions) : h.reported = false :=
    eq_false_of_ne_true (mt hreported.1 hd)
  refine ⟨hreader, fun e => ?_, fun earlier size later he hlater => ?_, fun hno => ?_,
    fun hd => ?_, fun hd => ?_, fun hd size later hlater => ?_⟩
  · rw [Formula.value_ofList_render, hreader]
  · show ((Host.new name screen b).run actions).screen = size
    rw [he, run_append, run_cons, seen_run hlater]
    rfl
  · exact seen_run hno
  · exact runSchedule_of_reported (hreported.2 hd) hreader
  · exact runSchedule_of_not_reported (hquiet hd)
  · have hkept : ((h.after (.resize size)).run later).stage.screen = size :=
      size_run (h := h.after (.resize size)) (hquiet hd) hlater
    have hrun : (h.after (.resize size)).run later =
        (Host.new name screen b).run (actions ++ .resize size :: later) := by
      rw [run_append, run_cons]
    refine ⟨hkept, Eq.trans ?_ hkept⟩
    rw [hrun]
    exact reader_run name screen b _

/-- A stage that is resized before the schedule runs for the first time gets the size of the screen
back; resized after that it keeps the new one, and `screenWidth` is its width. -/
theorem reports_reach_stage_of_resized :
    let fresh : List (Action Recorder) := [.resize ⟨1, 1⟩]
    let started : List (Action Recorder) := fresh ++ [.runSchedule]
    let later : List (Action Recorder) := [.runSchedule, .clear]
    let start := Host.new "" ⟨800, 600⟩ Recorder.new
    Due fresh ∧ (start.run fresh).runSchedule.stage.screen = ⟨800, 600⟩ ∧
      ¬ Due started ∧
      (((start.run started).after (.resize ⟨320, 240⟩)).run later).stage.screen = ⟨320, 240⟩ ∧
      (start.run (started ++ .resize ⟨320, 240⟩ :: later)).stage.reader.value "screenWidth" =
        .ok (.ofInt 320) := by
  intro fresh started later start
  have hfresh : Due fresh := .inl (by simp [fresh])
  have hstarted : ¬ Due started := fun hd => by simpa [started] using due_concat.1 hd
  obtain ⟨-, -, -, -, hfirst, -⟩ := reports_reach_stage "" ⟨800, 600⟩ Recorder.new fresh
  obtain ⟨-, -, -, -, -, -, hresized⟩ := reports_reach_stage "" ⟨800, 600⟩ Recorder.new started
  obtain ⟨-, hvalue, -⟩ := reports_reach_stage "" ⟨800, 600⟩ Recorder.new
    (started ++ .resize ⟨320, 240⟩ :: later)
  obtain ⟨hscreen, -⟩ := hresized hstarted ⟨320, 240⟩ later (fun other => by simp [later])
  have hwidth := hvalue (.lone (.single (.operand (.screen .width))))
  rw [run_append, run_cons, hscreen] at hwidth
  refine ⟨hfresh, congrArg Stage.screen (hfirst hfresh), hstarted, hscreen, ?_⟩
  rw [run_append, run_cons]
  exact hwidth.trans (by decide)

end Host

end SpriteStage
