import SpriteStage.Proofs.LiveTextures

/-!
# The program draws a stable scene and cleans up

Whatever the settings file and the command line say, the program fails before the first frame or
draws all its frames, and then they are all the same.

* `Host.Staged`: a host before its first frame, which has drawn nothing and made few textures; every
  step of setting up keeps it (`Program.staged_setUp`);
* `Host.Playing`: a host that has drawn the same frame some times; the schedule keeps it, drawing
  succeeds and adds one frame (`Playing.renderPass`), and so it goes on (`Playing.drawFrames`);
* `Host.backend_clear`: clearing a sound host leaves the frames and no texture;
* `Program.perform_cases`: the whole run, and `Program.frames_stable`: what it prints.
-/

namespace SpriteStage

namespace Host

open Recorder

variable {h : Host Recorder} {m n : Nat}

/-! ### Before the first frame -/

/-- A host that holds nothing, has made at most `n` textures and has drawn nothing. -/
structure Staged (n : Nat) (h : Host Recorder) : Prop where
  intact : h.Intact
  sound : h.Sound
  held : h.held = []
  loads : h.backend.loads ≤ n
  completed : h.backend.completed = []

theorem staged_new (title : String) (screen : ScreenSize) :
    (Host.new title screen Recorder.new).Staged 0 where
  intact := intact_new title screen _
  sound := sound_new title screen
  held := rfl
  loads := Nat.le_refl 0
  completed := rfl

theorem Staged.mono (hs : h.Staged m) (hmn : m ≤ n) : h.Staged n :=
  ⟨hs.intact, hs.sound, hs.held, Nat.le_trans hs.loads hmn, hs.completed⟩

/-- An action that draws nothing and takes hold of nothing. -/
theorem Staged.after {a : Action Recorder} (hs : h.Staged m) (ha : h.Allows a)
    (hheld : (h.after a).held = h.held) (hloads : (h.after a).backend.loads ≤ n)
    (hcompleted : (h.after a).backend.completed = h.backend.completed)
    (hn : n < UInt32.size) : (h.after a).Staged n where
  intact := intact_after h a hs.intact
  sound := sound_after hs.intact hs.sound ha (Nat.lt_of_le_of_lt hloads hn)
  held := hheld.trans hs.held
  loads := hloads
  completed := hcompleted.trans hs.completed

theorem staged_andThen {α γ : Type} {step : Except Error α × Host Recorder}
    {next : α → Host Recorder → Except Error γ × Host Recorder} (hs : step.2.Staged m)
    (hmn : m ≤ n) (hnext : ∀ a (h : Host Recorder), h.Staged m → (next a h).2.Staged n) :
    (andThen step next).2.Staged n := by
  obtain ⟨e | a, h⟩ := step
  · exact hs.mono hmn
  · exact hnext a h hs

/-- A solid texture that is asked for is cached, refused or issued. -/
theorem backend_createFromRectangle (h : Host Recorder) (name : String) (width height : Int32)
    (color : Color) :
    (h.createFromRectangle name width height color).2.backend = h.backend ∨
      ∃ w v, (h.createFromRectangle name width height color).2.backend =
        (h.backend.issue w v).2 := by
  have hl := issues_createSolid width height color
  unfold createFromRectangle Stage.createFromRectangle
  split
  · exact .inl rfl
  · next hn =>
    split
    · next e b ha => exact .inl (eq_of_acquireWith_eq_error hl ha)
    · next t textures b ha =>
      have hi : h.stage.cast.insert (.new name t .empty) = .ok _ :=
        Cast.insert_of_not_contains (show h.stage.cast.contains name = false by simpa using hn)
      simp only [absorb, Stage.register, hi]
      -- whether the color can be set or not, the backend is the one that gave the texture
      have hb : b = h.backend ∨ ∃ w v, b = (h.backend.issue w v).2 := by
        obtain ⟨e, -, -, -, rfl⟩ | ⟨-, -, -, hload⟩ := TextureCache.acquireWith_cases ha
        · exact .inl rfl
        · obtain ⟨w, v, -, rfl⟩ := hl.eq_issue hload
          exact .inr ⟨w, v, rfl⟩
      split
      · exact hb
      · exact hb

theorem Staged.createFromRectangle (hs : h.Staged n) (hn : n + 1 < UInt32.size) (name : String)
    (width height : Int32) (color : Color) :
    (h.createFromRectangle name width height color).2.Staged (n + 1) := by
  have hb := backend_createFromRectangle h name width height color
  have hloads := hs.loads
  refine hs.after (a := .createFromRectangle name width height color) trivial rfl ?_ ?_ hn
  · show (h.createFromRectangle name width height color).2.backend.loads ≤ n + 1
    rcases hb with hb | ⟨w, v, hb⟩ <;> rw [hb]
    · omega
    · exact Nat.succ_le_succ hloads
  · show (h.createFromRectangle name width height color).2.backend.completed = _
    rcases hb with hb | ⟨w, v, hb⟩ <;> rw [hb]
    rfl

/-- A change of the stage that is one of the actions. -/
def Acts (f : Stage → Except Error Stage) : Prop :=
  ∀ h : Host Recorder, ∃ a, h.Allows a ∧ h.after a = (h.change f).2

theorem acts_direct (name : String) (i : Nat) (line : String) : Acts (·.direct name i line) :=
  fun _ => ⟨.direct name i line, trivial, rfl⟩

theorem acts_directQueue (name : String) (d : Nat) (line : String) :
    Acts (·.directQueue name d line) :=
  fun _ => ⟨.directQueue name d line, trivial, rfl⟩

theorem acts_append (name : String) (d : Nat) : Acts fun s => (s.append name d).map Prod.snd := by
  intro h
  refine ⟨.append name d, trivial, ?_⟩
  show (settle (h.edit (h.stage.append name d))).2 = _
  simp only [edit, Host.change]
  cases h.stage.append name d <;> rfl

theorem Staged.change {f : Stage → Except Error Stage} (hs : h.Staged n) (hn : n < UInt32.size)
    (hf : Acts f) : (h.change f).2.Staged n := by
  obtain ⟨a, ha, hafter⟩ := hf h
  have hkept : (h.change f).2.held = h.held ∧ (h.change f).2.backend = h.backend := by
    unfold Host.change
    cases f h.stage <;> exact ⟨rfl, rfl⟩
  rw [← hafter] at hkept ⊢
  exact hs.after ha hkept.1 (by rw [hkept.2]; exact hs.loads) (by rw [hkept.2]) hn

theorem Staged.changeAll {fs : List (Stage → Except Error Stage)} (hs : h.Staged n)
    (hn : n < UInt32.size) (hfs : ∀ f ∈ fs, Acts f) : (h.changeAll fs).2.Staged n := by
  induction fs generalizing h with
  | nil => exact hs
  | cons f rest ih =>
    refine staged_andThen (hs.change hn (hfs f List.mem_cons_self)) (Nat.le_refl n) fun _ h hs => ?_
    exact ih hs fun g hg => hfs g (List.mem_cons_of_mem f hg)

/-! ### Drawing -/

variable {calls : List DrawCall} {k : Nat}

/-- A host that has drawn these calls `k` times and would draw them again. -/
structure Playing (calls : List DrawCall) (k : Nat) (h : Host Recorder) : Prop where
  intact : h.Intact
  sound : h.Sound
  loads : h.backend.loads < UInt32.size
  drawCalls : h.stage.drawCalls = .ok calls
  completed : h.backend.completed = List.replicate k calls

theorem Staged.playing (hs : h.Staged n) (hn : n < UInt32.size) :
    ∃ calls, h.Playing calls 0 :=
  ⟨_, hs.intact, hs.sound, Nat.lt_of_le_of_lt hs.loads hn, hs.intact.drawable.drawCalls_eq,
    hs.completed⟩

/-- Another screen size changes nothing that is drawn. -/
theorem Playing.runSchedule (hp : h.Playing calls k) : h.runSchedule.Playing calls k where
  intact := intact_after h .runSchedule hp.intact
  sound := sound_after (a := .runSchedule) hp.intact hp.sound trivial hp.loads
  loads := hp.loads
  drawCalls := by
    unfold Host.runSchedule
    split
    · exact hp.drawCalls
    · exact hp.drawCalls
  completed := hp.completed

/-- **Drawing succeeds, adds one frame and keeps what will be drawn.** -/
theorem Playing.renderPass (hp : h.Playing calls k) :
    h.renderPass.1 = .ok calls.length ∧ h.renderPass.2.Playing calls (k + 1) := by
  have hdraw := drawFrame_eq_ok (hp.sound.mem_live hp.intact hp.drawCalls)
  obtain ⟨r, hr⟩ : ∃ r : Recorder,
      r = { h.backend with completed := calls :: h.backend.completed, current := none } := ⟨_, rfl⟩
  have hrender : h.stage.render h.backend = (.ok calls.length, r) := by
    simp only [Stage.render, hp.drawCalls, hdraw, hr]
    rfl
  -- what is released afterwards changes neither the frames nor what is queued
  obtain ⟨c, b, hreleased, hkeys, -⟩ := hp.intact.balanced.releaseRetired_eq r h.held
  have hpass : h.renderPass = (.ok calls.length, { h with
      stage := { h.stage with textures := c, retired := h.stage.waiting h.held }
      backend := b }) := by
    simp only [Host.renderPass, Stage.renderPass, hrender, hreleased]
    rfl
  obtain ⟨live, unloads, hb⟩ := releaseKeys_eq h.stage.textures r (h.stage.dueKeys h.held)
  rw [hkeys] at hb
  change b = { r with live, unloads } at hb
  subst hb hr
  have hloads : h.renderPass.2.backend.loads < UInt32.size := by
    rw [hpass]
    exact hp.loads
  have hcompleted : h.renderPass.2.backend.completed = List.replicate (k + 1) calls := by
    rw [hpass, List.replicate_succ, ← hp.completed]
  have hcalls : h.renderPass.2.stage.drawCalls = .ok calls := by
    rw [hpass]
    exact hp.drawCalls
  exact ⟨by rw [hpass], intact_after h .renderPass hp.intact,
    sound_after (a := .renderPass) hp.intact hp.sound trivial hloads, hloads, hcalls, hcompleted⟩

theorem Playing.drawFrames (hp : h.Playing calls k) (n : Nat) :
    (h.drawFrames n).1 = .ok () ∧ (h.drawFrames n).2.Playing calls (k + n) := by
  induction n generalizing h k with
  | zero => exact ⟨rfl, hp⟩
  | succ n ih =>
    obtain ⟨hresult, hnext⟩ := hp.runSchedule.renderPass
    have hdraw : h.drawFrames (n + 1) = h.runSchedule.renderPass.2.drawFrames n := by
      show andThen h.runSchedule.renderPass (fun _ h => h.drawFrames n) = _
      rw [← Prod.eta h.runSchedule.renderPass, hresult, andThen_ok]
    have hk : k + (n + 1) = k + 1 + n := by omega
    rw [hdraw, hk]
    exact ih hnext

/-- Clearing a sound host leaves its frames and no texture. -/
theorem backend_clear (hs : h.Sound) :
    h.clear.backend.completed = h.backend.completed ∧ h.clear.backend.Holding [] := by
  show (h.stage.textures.clear h.backend).2.completed = _ ∧
    (h.stage.textures.clear h.backend).2.Holding []
  rw [TextureCache.clear_eq]
  refine ⟨?_, hs.backend.unloadAll⟩
  obtain ⟨live, unloads, hr⟩ := Recorder.unloadAll_eq h.backend h.stage.textures.handles
  show (h.stage.textures.handles.foldl Recorder.unload h.backend).completed = _
  rw [hr]

end Host

namespace Program

open Host

/-! ### The run -/

theorem staged_makeBlocks {h : Host Recorder} {n : Nat} (blocks : List Block) (hs : h.Staged n)
    (hn : n + blocks.length < UInt32.size) :
    (makeBlocks h blocks).2.Staged (n + blocks.length) := by
  induction blocks generalizing h n with
  | nil => exact hs
  | cons b rest ih =>
    rw [List.length_cons] at hn ⊢
    have hmade := hs.createFromRectangle (by omega) b.name b.width b.height b.color
    have hlength : n + (rest.length + 1) = n + 1 + rest.length := by omega
    rw [hlength] at hn ⊢
    exact staged_andThen hmade (Nat.le_add_right _ _) fun _ h hs => ih hs hn

theorem staged_makeScene (title : String) (screen : ScreenSize) :
    (makeScene (.new title screen Recorder.new)).2.Staged 3 := by
  have hthree : 3 < UInt32.size := by decide
  refine staged_andThen (staged_makeBlocks (blocks screen) (staged_new title screen) hthree)
    (Nat.le_refl 3) fun _ h hs => ?_
  refine hs.changeAll hthree fun f hf => ?_
  rcases List.mem_append.1 hf with hf | hf <;> obtain ⟨a, -, rfl⟩ := List.mem_map.1 hf
  · exact acts_direct a.1 a.2.1 a.2.2
  · exact acts_append a.1 a.2

theorem staged_setUp (title : String) (screen : ScreenSize) (request : CommandLine.Request) :
    (setUp (.new title screen Recorder.new) request).2.Staged 3 := by
  have hthree : 3 < UInt32.size := by decide
  refine staged_andThen (staged_makeScene title screen) (Nat.le_refl 3) fun _ h hs => ?_
  refine hs.changeAll hthree fun f hf => ?_
  rcases List.mem_append.1 hf with hf | hf <;> obtain ⟨a, -, rfl⟩ := List.mem_map.1 hf
  · exact acts_direct a.name 0 a.directive
  · exact acts_directQueue a.name 0 a.directive

/-- A run that sets up the scene goes through all its frames. -/
theorem perform_of_setUp {request : CommandLine.Request} {c : DisplaySettings}
    {h : Host Recorder} {calls : List DrawCall}
    (hs : setUp (.new c.title c.screenSize Recorder.new) request = (.ok (), h))
    (hp : h.Playing calls 0) :
    ∃ h' : Host Recorder, h'.Playing calls (frameCount request) ∧
      perform request c = (.ok calls, h'.clear) := by
  obtain ⟨hframes, hlast⟩ := hp.drawFrames (frameCount request)
  rw [Nat.zero_add] at hlast
  refine ⟨_, hlast, ?_⟩
  have hdraw : h.drawFrames (frameCount request) = (.ok (), _) := Prod.ext hframes rfl
  simp only [perform, hs, andThen_ok]
  rw [hdraw, andThen_ok, hlast.drawCalls]

/-- A run fails before its first frame or completes all its frames, and then it has nothing left. -/
theorem perform_cases (request : CommandLine.Request) (c : DisplaySettings) :
    (∃ e, ∃ h : Host Recorder, perform request c = (.error e, h) ∧ h.backend.frames = []) ∨
    ∃ calls, ∃ h : Host Recorder, perform request c = (.ok calls, h) ∧
      h.backend.frames = List.replicate (frameCount request) calls ∧ h.backend.Holding [] := by
  have hstaged := staged_setUp c.title c.screenSize request
  rcases hs : setUp (.new c.title c.screenSize Recorder.new) request with ⟨e | u, h⟩ <;>
    rw [hs] at hstaged
  · refine .inl ⟨e, h, by simp only [perform, hs, andThen_error], ?_⟩
    rw [Recorder.frames, hstaged.completed]
    rfl
  · obtain ⟨calls, hplaying⟩ := hstaged.playing (by decide)
    obtain ⟨h', hlast, hp⟩ := perform_of_setUp hs hplaying
    obtain ⟨hcompleted, hholding⟩ := backend_clear hlast.sound
    refine .inr ⟨calls, h'.clear, hp, ?_, hholding⟩
    rw [Recorder.frames, hcompleted, hlast.completed, List.reverse_replicate]

section Report

variable {request : CommandLine.Request} {file : Except Disk.Fault String} {h : Host Recorder}

theorem run_of_error {e : Error} (hp : perform request (settings file) = (.error e, h)) :
    run request file = ⟨1, "", s!"Error: {e.message}\n"⟩ := by
  unfold run
  rw [hp]

theorem run_of_ok {calls : List DrawCall} (hp : perform request (settings file) = (.ok calls, h)) :
    run request file = ⟨0, if request.dumpFrame then frameText calls else "", ""⟩ := by
  unfold run
  rw [hp]

end Report

/-- **The program draws a stable scene and cleans up.** With any settings file, or none, and any
command line it fails before a frame is completed, or it completes as many frames as it was asked
for, but at least one, and all of them are the draw calls that it prints when it is asked to; and in
the end no texture is live and as many were unloaded as loaded. -/
theorem frames_stable (request : CommandLine.Request) (file : Except Disk.Fault String) :
    let p := perform request (settings file)
    (∃ e, p.1 = .error e ∧ p.2.backend.frames = [] ∧
      run request file = ⟨1, "", s!"Error: {e.message}\n"⟩) ∨
    ∃ calls, p.1 = .ok calls ∧
      p.2.backend.frames = List.replicate (max 1 (request.frames.getD 0)) calls ∧
      run request file = ⟨0, if request.dumpFrame then frameText calls else "", ""⟩ ∧
      p.2.backend.live = [] ∧ p.2.backend.loads = p.2.backend.unloads := by
  intro p
  rcases perform_cases request (settings file) with
    ⟨e, h, hp, hframes⟩ | ⟨calls, h, hp, hframes, hholding⟩
  · have hnone : p.2.backend.frames = [] := (congrArg (·.2.backend.frames) hp).trans hframes
    exact .inl ⟨e, congrArg Prod.fst hp, hnone, run_of_error hp⟩
  · have hbackend : p.2.backend = h.backend := congrArg (·.2.backend) hp
    refine .inr ⟨calls, congrArg Prod.fst hp, ?_, run_of_ok hp, ?_, ?_⟩
    · rw [hbackend, hframes]
      rfl
    · rw [hbackend]
      exact List.perm_nil.1 hholding.live
    · rw [hbackend]
      exact hholding.counted

-- the scene without a settings file and without directives
example :
    let p := perform ⟨none, some 3, [], [], false⟩ (settings (.error .notFound))
    p.2.backend.frames.length = 3 ∧ p.2.backend.loads = 3 := by
  decide +kernel

end Program

end SpriteStage
