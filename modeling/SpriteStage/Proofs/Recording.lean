import Mathlib.Data.List.Induction
import Mathlib.Data.List.Nodup
import SpriteStage.Proofs.History
import SpriteStage.Proofs.RecordedFrame

/-!
# What a recording backend remembers

Requests to a recording backend in any order, refused ones included.

* `Recorder.perform` answers a request, `run` goes through a list of them, and `answers` lists them
  with their answers;
* `Effect` lists once all that a request can do to a recorder;
* handles are numbered one after the other, so that none is issued twice (`numbers_issued`), and
  one that was unloaded is never live again (`not_mem_live_of_unloaded`);
* a handle is live from its issue to its unloading and a frame is open from its beginning to its
  end (`mem_live_run`, `current_run_iff_frameOpen`);
* a texture is made from what is available (`make_eq_ok_iff`);
* a completed frame is what was drawn between the last beginning before its end and that end
  (`frames_run`).
-/

namespace SpriteStage.Recorder

open History

/-- What a texture is made from. -/
inductive Source
  | file (path : String)
  | solid (width height : Int32) (color : Color)
  deriving DecidableEq

/-- What can be asked of a recorder. -/
inductive Request
  /-- From now on there is this file. -/
  | addFile (path : String) (width height : Int32)
  | make (source : Source)
  | unload (handle : TextureHandle)
  | beginFrame
  | draw (call : DrawCall)
  | endFrame
  deriving DecidableEq

/-- What a recorder answers. -/
inductive Answer
  | texture (t : LoadedTexture)
  | done
  deriving DecidableEq

/-- How a texture is made. -/
def Source.load : Source → Recorder → Except String LoadedTexture × Recorder
  | .file path => (TextureLoader.loadFile · path)
  | .solid width height color => (TextureLoader.createSolid · width height color)

/-- The handle that was issued with an answer. -/
def issued? : Except String Answer → Option TextureHandle
  | .ok (.texture t) => some t.handle
  | _ => none

/-- The call that was drawn with an answer. -/
def drawn? : Request × Except String Answer → Option DrawCall
  | (.draw call, .ok _) => some call
  | _ => none

variable {r r' : Recorder} {a : Request} {answer : Except String Answer}
  {requests : List Request} {t : TextureHandle} {call : DrawCall} {frame : List DrawCall} {k : Nat}

/-! ### Runs -/

/-- Answer a request. -/
def perform (r : Recorder) : Request → Except String Answer × Recorder
  | .addFile path width height => (.ok .done, r.addFile path width height)
  | .make source => (source.load r).map (·.map .texture) id
  | .unload handle => (.ok .done, TextureLoader.unload r handle)
  | .beginFrame => (.ok .done, Canvas.beginFrame r)
  | .draw call => (Canvas.draw r call).map (·.map fun _ => .done) id
  | .endFrame => (.ok .done, Canvas.endFrame r)

/-- The recorder after a request, whether that was refused or not. -/
def after (r : Recorder) (a : Request) : Recorder := (r.perform a).2

/-- The recorder after a list of requests. -/
def run (r : Recorder) (requests : List Request) : Recorder := requests.foldl after r

/-- The requests of a run with their answers. -/
def answers (r : Recorder) : List Request → List (Request × Except String Answer)
  | [] => []
  | a :: rest => (a, (r.perform a).1) :: (r.after a).answers rest

/-- The handles that a run issues, in order. -/
def issued (r : Recorder) (requests : List Request) : List TextureHandle :=
  (r.answers requests).filterMap (issued? ·.2)

/-- The calls that a run draws, in order. -/
def drawn (r : Recorder) (requests : List Request) : List DrawCall :=
  (r.answers requests).filterMap drawn?

@[simp] theorem run_nil (r : Recorder) : r.run [] = r := rfl

@[simp] theorem run_cons (r : Recorder) (a : Request) (requests : List Request) :
    r.run (a :: requests) = (r.after a).run requests := rfl

theorem run_append (r : Recorder) (earlier later : List Request) :
    r.run (earlier ++ later) = (r.run earlier).run later :=
  List.foldl_append

theorem run_concat (r : Recorder) (requests : List Request) (a : Request) :
    r.run (requests ++ [a]) = (r.run requests).after a :=
  run_append r requests [a]

theorem answers_append (r : Recorder) (earlier later : List Request) :
    r.answers (earlier ++ later) = r.answers earlier ++ (r.run earlier).answers later := by
  induction earlier generalizing r with
  | nil => rfl
  | cons a rest ih => rw [List.cons_append, answers, answers, ih, List.cons_append, run_cons]

theorem issued_append (r : Recorder) (earlier later : List Request) :
    r.issued (earlier ++ later) = r.issued earlier ++ (r.run earlier).issued later := by
  rw [issued, answers_append, List.filterMap_append, issued, issued]

theorem drawn_append (r : Recorder) (earlier later : List Request) :
    r.drawn (earlier ++ later) = r.drawn earlier ++ (r.run earlier).drawn later := by
  rw [drawn, answers_append, List.filterMap_append, drawn, drawn]

theorem issued_cons (r : Recorder) (a : Request) (requests : List Request) :
    r.issued (a :: requests) =
      (issued? (r.perform a).1).toList ++ (r.after a).issued requests := by
  rw [issued, answers, List.filterMap_cons]
  cases issued? (r.perform a).1 <;> rfl

theorem drawn_singleton (r : Recorder) (a : Request) :
    r.drawn [a] = (drawn? (a, (r.perform a).1)).toList := by
  rw [drawn, answers, answers, List.filterMap_cons]
  cases drawn? (a, (r.perform a).1) <;> rfl

/-! ### Effects -/

/-- Everything a request can do to a recorder, with its answer. -/
inductive Effect (r : Recorder) : Request → Except String Answer → Recorder → Prop
  | stocked (path : String) (width height : Int32) :
      Effect r (.addFile path width height) (.ok .done) (r.addFile path width height)
  /-- A texture is made. -/
  | issued {source : Source} {width height : Int32}
      (hl : source.load r = (.ok (r.issue width height).1, (r.issue width height).2)) :
      Effect r (.make source) (.ok (.texture (r.issue width height).1)) (r.issue width height).2
  /-- A texture cannot be made. -/
  | refused {source : Source} {reason : String} (hl : source.load r = (.error reason, r)) :
      Effect r (.make source) (.error reason) r
  | unloaded {t : TextureHandle} (ht : t ∈ r.live) :
      Effect r (.unload t) (.ok .done)
        { r with live := r.live.filter (· != t), unloads := r.unloads + 1 }
  /-- There is no such texture to unload. -/
  | unknown {t : TextureHandle} (ht : t ∉ r.live) : Effect r (.unload t) (.ok .done) r
  /-- A frame is begun, and what was in an open one is dropped. -/
  | begun : Effect r .beginFrame (.ok .done) { r with current := some [] }
  | drawn {call : DrawCall} {frame : List DrawCall} (hlive : call.texture ∈ r.live)
      (hopen : r.current = some frame) :
      Effect r (.draw call) (.ok .done) { r with current := some (frame ++ [call]) }
  /-- There is no texture to draw with. -/
  | dead {call : DrawCall} (hdead : call.texture ∉ r.live) :
      Effect r (.draw call) (.error (Failure.notLoaded call.texture).message) r
  /-- There is no frame to draw in. -/
  | closed {call : DrawCall} (hlive : call.texture ∈ r.live) (hclosed : r.current = none) :
      Effect r (.draw call) (.error Failure.noOpenFrame.message) r
  /-- The open frame is completed. -/
  | completed {frame : List DrawCall} (hopen : r.current = some frame) :
      Effect r .endFrame (.ok .done)
        { r with completed := frame :: r.completed, current := none }
  /-- There is no frame to end. -/
  | idle (hclosed : r.current = none) : Effect r .endFrame (.ok .done) r

theorem issues_load (source : Source) : Issues source.load := by
  cases source with
  | file path => exact issues_loadFile path
  | solid width height color => exact issues_createSolid width height color

theorem effect_make (r : Recorder) (source : Source) :
    Effect r (.make source) (r.perform (.make source)).1 (r.after (.make source)) := by
  show Effect r (.make source) ((source.load r).1.map .texture) (source.load r).2
  rcases issues_load source r with ⟨reason, hr⟩ | ⟨width, height, hr⟩
  · rw [hr]
    exact .refused hr
  · rw [hr]
    exact .issued hr

theorem effect_draw (r : Recorder) (call : DrawCall) :
    Effect r (.draw call) (r.perform (.draw call)).1 (r.after (.draw call)) := by
  show Effect r (.draw call) ((Canvas.draw r call).1.map fun _ => .done) (Canvas.draw r call).2
  by_cases hlive : call.texture ∈ r.live
  · cases hopen : r.current with
    | none =>
      have hd : Canvas.draw r call = (.error Failure.noOpenFrame.message, r) := by
        show r.answer ((r.draw call).map ((), ·)) = _
        rw [draw, if_pos hlive, hopen]
        rfl
      rw [hd]
      exact .closed hlive hopen
    | some frame =>
      rw [draw_eq_ok hlive hopen]
      exact .drawn hlive hopen
  · rw [draw_of_dead hlive]
    exact .dead hlive

/-- **The list of effects is complete.** -/
theorem effect_perform (r : Recorder) (a : Request) :
    Effect r a (r.perform a).1 (r.after a) := by
  cases a with
  | addFile path width height => exact .stocked path width height
  | make source => exact effect_make r source
  | unload t =>
    show Effect r (.unload t) (.ok .done) (r.unload t)
    unfold unload
    split
    case isTrue ht => exact .unloaded ht
    case isFalse ht => exact .unknown ht
  | beginFrame => exact .begun
  | draw call => exact effect_draw r call
  | endFrame =>
    show Effect r .endFrame (.ok .done) r.endFrame
    unfold endFrame
    split
    case h_1 frame hopen => exact .completed hopen
    case h_2 hclosed => exact .idle hclosed

/-- What is refused changes nothing. -/
theorem eq_of_refused {reason : String} (he : Effect r a (.error reason) r') : r' = r := by
  cases he <;> rfl

/-- Unloading what is not live changes nothing. -/
theorem after_unload_of_not_mem (ht : t ∉ r.live) : r.after (.unload t) = r :=
  if_neg ht

/-! ### Handles -/

/-- A handle is live when it was just issued, or was live before and is not unloaded now. -/
theorem mem_live_effect (he : Effect r a answer r') :
    t ∈ r'.live ↔ issued? answer = some t ∨ (t ∈ r.live ∧ a ≠ .unload t) := by
  cases he with
  | issued hl => simp [issue, issued?, eq_comm (a := t)]
  | @unloaded u hu => simp [issued?, eq_comm (a := t)]
  | unknown ht =>
    simp only [issued?, reduceCtorEq, false_or, ne_eq, Request.unload.injEq]
    exact ⟨fun h => ⟨h, fun hu => ht (hu ▸ h)⟩, And.left⟩
  | _ => simp [issued?, addFile]

/-- What is live was live before or has been issued since. -/
theorem mem_live_or_issued (r : Recorder) (requests : List Request)
    (ht : t ∈ (r.run requests).live) : t ∈ r.live ∨ t ∈ r.issued requests := by
  induction requests generalizing r with
  | nil => exact .inl ht
  | cons a rest ih =>
    rw [issued_cons, List.mem_append, Option.mem_toList]
    rcases ih (r.after a) ht with hlive | hissued
    · rcases (mem_live_effect (effect_perform r a)).1 hlive with hnew | ⟨hold, -⟩
      · exact .inr (.inl hnew)
      · exact .inl hold
    · exact .inr (.inr hissued)

theorem loads_effect (he : Effect r a answer r') :
    r'.loads = r.loads + (issued? answer).toList.length := by
  cases he <;> rfl

theorem loads_run (r : Recorder) (requests : List Request) :
    (r.run requests).loads = r.loads + (r.issued requests).length := by
  induction requests generalizing r with
  | nil => rfl
  | cons a rest ih =>
    have hloads := loads_effect (effect_perform r a)
    rw [run_cons, ih, hloads, issued_cons, List.length_append, Nat.add_assoc]

theorem loads_le_run (r : Recorder) (requests : List Request) :
    r.loads ≤ (r.run requests).loads := by
  rw [loads_run]
  exact Nat.le_add_right _ _

theorem holding_effect (h : r.Holding r.live) (he : Effect r a answer r')
    (hn : r'.loads < UInt32.size) : r'.Holding r'.live := by
  cases he with
  | issued hl => exact h.issue _ _ hn
  | @unloaded t ht =>
    have hrest := (h.perm (List.perm_cons_erase ht)).unload
    rw [unload, if_pos ht] at hrest
    exact hrest.perm hrest.live.symm
  | _ => exact h.of_eq rfl rfl rfl rfl

theorem holding_run (h : r.Holding r.live) (requests : List Request)
    (hn : (r.run requests).loads < UInt32.size) :
    (r.run requests).Holding (r.run requests).live := by
  induction requests generalizing r with
  | nil => exact h
  | cons a rest ih =>
    have hafter : (r.after a).loads < UInt32.size := Nat.lt_of_le_of_lt (loads_le_run _ rest) hn
    exact ih (holding_effect h (effect_perform r a) hafter) hn

theorem number_effect (h : r.Holding r.live) (he : Effect r a answer r')
    (hn : r'.loads < UInt32.size) :
    (issued? answer).toList.map (·.number.toNat) =
      List.range' (r.loads + 1) (issued? answer).toList.length := by
  cases he with
  | issued hl => exact congrArg ([·]) (h.number_issue _ _ hn)
  | _ => rfl

/-- **Handles are numbered one after the other.** -/
theorem numbers_issued (h : r.Holding r.live) (requests : List Request)
    (hn : (r.run requests).loads < UInt32.size) :
    (r.issued requests).map (·.number.toNat) =
      List.range' (r.loads + 1) (r.issued requests).length := by
  induction requests generalizing r with
  | nil => rfl
  | cons a rest ih =>
    have hafter : (r.after a).loads < UInt32.size := Nat.lt_of_le_of_lt (loads_le_run _ rest) hn
    have he := effect_perform r a
    have hloads := loads_effect he
    have hrest := ih (holding_effect h he hafter) hn
    rw [issued_cons, List.map_append, number_effect h he hafter, hrest, hloads, List.length_append,
      ← List.range'_append_1, Nat.add_right_comm]

theorem nodup_issued (h : r.Holding r.live) (requests : List Request)
    (hn : (r.run requests).loads < UInt32.size) : (r.issued requests).Nodup :=
  List.Nodup.of_map (·.number.toNat) (numbers_issued h requests hn ▸ List.nodup_range')

/-- **A handle that was unloaded is never live again**: it would have been issued twice. -/
theorem not_mem_live_of_unloaded {earlier later : List Request}
    (hfresh : (new.issued (earlier ++ .unload t :: later)).Nodup)
    (ht : t ∈ (new.run earlier).live) : t ∉ (new.run (earlier ++ .unload t :: later)).live := by
  have hbefore : t ∈ new.issued earlier :=
    (mem_live_or_issued new earlier ht).resolve_left List.not_mem_nil
  have hafter : t ∉ ((new.run earlier).after (.unload t)).live := fun h => by
    simpa [issued?, perform] using
      (mem_live_effect (t := t) (effect_perform (new.run earlier) (.unload t))).1 h
  rw [issued_append, issued_cons] at hfresh
  rw [run_append, run_cons]
  intro hlive
  have hagain := (mem_live_or_issued _ later hlive).resolve_left hafter
  exact List.disjoint_of_nodup_append hfresh hbefore (List.mem_append_right _ hagain)

/-- A handle was issued and has not been unloaded since. -/
def Standing (t : TextureHandle) (requests : List Request) : Prop :=
  Since (fun earlier a => issued? ((new.run earlier).perform a).1 = some t) (· = .unload t) requests

/-- **A handle is live from its issue to its unloading.** -/
theorem mem_live_run : t ∈ (new.run requests).live ↔ Standing t requests := by
  induction requests using List.reverseRecOn with
  | nil => exact iff_of_false List.not_mem_nil not_since_nil
  | append_singleton requests a ih =>
    rw [Standing, since_concat, ← Standing, ← ih, run_concat]
    exact mem_live_effect (effect_perform (new.run requests) a)

/-! ### What a texture can be made from -/

/-- What a texture can be made from: a file that is there, or a solid with two sides. -/
def Source.Available (requests : List Request) : Source → Prop
  | .file path => ∃ width height, .addFile path width height ∈ requests
  | .solid width height _ => 0 < width ∧ 0 < height

theorem exists_file_effect {path : String} (he : Effect r a answer r') :
    (∃ size, r'.files.lookup path = some size) ↔
      (∃ size, r.files.lookup path = some size) ∨ ∃ width height, a = .addFile path width height := by
  cases he with
  | stocked other width height =>
    by_cases hpath : path = other
    · subst hpath
      simp [addFile]
    · simp [addFile, Keyed.lookup_put_of_ne hpath, Ne.symm hpath]
  | _ => simp [issue]

theorem exists_file_run {path : String} :
    (∃ size, (new.run requests).files.lookup path = some size) ↔
      ∃ width height, .addFile path width height ∈ requests := by
  induction requests using List.reverseRecOn with
  | nil => simp [new]
  | append_singleton requests a ih =>
    rw [run_concat, exists_file_effect (effect_perform _ a), ih]
    simp only [List.mem_append, List.mem_singleton, exists_or, eq_comm (a := a)]

theorem exists_loadFile_iff (r : Recorder) (path : String) :
    (∃ t, (TextureLoader.loadFile r path).1 = .ok t) ↔ ∃ size, r.files.lookup path = some size := by
  show (∃ t, (r.answer (r.loadFile path)).1 = .ok t) ↔ _
  rw [loadFile]
  cases r.files.lookup path <;> simp [answer]

theorem exists_createSolid_iff (r : Recorder) (width height : Int32) (color : Color) :
    (∃ t, (TextureLoader.createSolid r width height color).1 = .ok t) ↔
      0 < width ∧ 0 < height := by
  show (∃ t, (r.answer (r.createSolid width height)).1 = .ok t) ↔ _
  rw [← Int32.not_le, ← Int32.not_le, ← not_or, createSolid]
  by_cases h : width ≤ 0 ∨ height ≤ 0
  · simp [h, answer]
  · simp [h, answer]

/-- **A texture is made from what is available.** -/
theorem make_eq_ok_iff {source : Source} :
    (∃ t, ((new.run requests).perform (.make source)).1 = .ok (.texture t)) ↔
      source.Available requests := by
  have hload : (∃ t, ((new.run requests).perform (.make source)).1 = .ok (.texture t)) ↔
      ∃ t, (source.load (new.run requests)).1 = .ok t := by
    show (∃ t, (source.load (new.run requests)).1.map Answer.texture = .ok (.texture t)) ↔ _
    cases (source.load (new.run requests)).1 <;> simp [Except.map]
  rw [hload]
  cases source with
  | file path => exact (exists_loadFile_iff _ path).trans exists_file_run
  | solid width height color => exact exists_createSolid_iff _ width height color

/-! ### Frames -/

/-- A frame was begun and has not been ended since. -/
def FrameOpen (requests : List Request) : Prop :=
  Since (fun _ a => a = .beginFrame) (· = .endFrame) requests

/-- These calls were drawn since a frame was begun, and no other was begun and none ended. -/
def Opened (requests : List Request) (frame : List DrawCall) : Prop :=
  ∃ earlier between, requests = earlier ++ .beginFrame :: between ∧
    (∀ a ∈ between, a ≠ .beginFrame ∧ a ≠ .endFrame) ∧
    frame = ((new.run earlier).after .beginFrame).drawn between

theorem current_beginFrame (r : Recorder) : (r.after .beginFrame).current = some [] := rfl

theorem current_endFrame (r : Recorder) : (r.after .endFrame).current = none := by
  show r.endFrame.current = none
  unfold endFrame
  split
  · rfl
  · assumption

/-- Between its beginning and its end a frame gets what is drawn. -/
theorem current_effect (he : Effect r a answer r') (hbegin : a ≠ .beginFrame)
    (hend : a ≠ .endFrame) :
    r'.current = r.current.map (· ++ (drawn? (a, answer)).toList) := by
  cases he with
  | issued hl => simp [drawn?, issue]
  | begun => exact absurd rfl hbegin
  | drawn hlive hopen => simp [drawn?, hopen]
  | completed hopen => exact absurd rfl hend
  | idle hclosed => exact absurd rfl hend
  | _ => simp [drawn?, addFile]

theorem opened_concat : Opened (requests ++ [a]) frame ↔
    (a = .beginFrame ∧ frame = []) ∨
      (a ≠ .beginFrame ∧ a ≠ .endFrame) ∧
        ∃ before, Opened requests before ∧ frame = before ++ (new.run requests).drawn [a] := by
  constructor
  · rintro ⟨earlier, between, h, hbetween, rfl⟩
    rcases concat_eq_split_iff.1 h with ⟨rfl, rfl, rfl⟩ | ⟨more, rfl, rfl⟩
    · exact .inl ⟨rfl, rfl⟩
    · obtain ⟨hmore, ha⟩ := List.forall_mem_append.1 hbetween
      refine .inr ⟨ha a List.mem_cons_self, _, ⟨earlier, more, rfl, hmore, rfl⟩, ?_⟩
      rw [drawn_append, run_append, run_cons]
  · rintro (⟨rfl, rfl⟩ | ⟨ha, before, ⟨earlier, between, rfl, hbetween, rfl⟩, rfl⟩)
    · exact ⟨requests, [], rfl, fun _ h => absurd h List.not_mem_nil, rfl⟩
    · refine ⟨earlier, between ++ [a], List.append_assoc .., ?_, ?_⟩
      · exact List.forall_mem_append.2 ⟨hbetween, by simpa using ha⟩
      · rw [drawn_append, run_append, run_cons]

/-- The open frame is what was drawn since it was begun. -/
theorem current_run : (new.run requests).current = some frame ↔ Opened requests frame := by
  induction requests using List.reverseRecOn generalizing frame with
  | nil => exact iff_of_false (fun h => nomatch h) (fun ⟨_, _, h, _⟩ => by simp at h)
  | append_singleton requests a ih =>
    rw [opened_concat, run_concat]
    by_cases hbegin : a = .beginFrame
    · subst hbegin
      simp [current_beginFrame, eq_comm]
    by_cases hend : a = .endFrame
    · subst hend
      simp [current_endFrame]
    · have hcurrent := current_effect (effect_perform (new.run requests) a) hbegin hend
      rw [hcurrent, Option.map_eq_some_iff, drawn_singleton]
      constructor
      · rintro ⟨before, hbefore, rfl⟩
        exact .inr ⟨⟨hbegin, hend⟩, before, ih.1 hbefore, rfl⟩
      · rintro (⟨rfl, -⟩ | ⟨-, before, hopened, rfl⟩)
        · exact absurd rfl hbegin
        · exact ⟨before, ih.2 hopened, rfl⟩

theorem current_run_iff_frameOpen :
    (∃ frame, (new.run requests).current = some frame) ↔ FrameOpen requests := by
  induction requests using List.reverseRecOn with
  | nil => exact iff_of_false (fun ⟨_, h⟩ => nomatch h) not_since_nil
  | append_singleton requests a ih =>
    rw [FrameOpen, since_concat, ← FrameOpen, ← ih, run_concat]
    by_cases hbegin : a = .beginFrame
    · subst hbegin
      simp [current_beginFrame]
    by_cases hend : a = .endFrame
    · subst hend
      simp [current_endFrame]
    · have hcurrent := current_effect (effect_perform (new.run requests) a) hbegin hend
      simp [hcurrent, hbegin, hend]

/-- A call is drawn when its texture is live and a frame is open. -/
theorem draw_eq_ok_iff : (r.perform (.draw call)).1 = .ok .done ↔
    (∃ frame, r.current = some frame) ∧ call.texture ∈ r.live := by
  have he := effect_draw r call
  generalize (r.perform (.draw call)).1 = answer, r.after (.draw call) = r' at he ⊢
  cases he with
  | drawn hlive hopen => simp [hlive, hopen]
  | dead hdead => simp [hdead]
  | closed hlive hclosed => simp [hclosed]

theorem perform_draw_of_dead (h : call.texture ∉ r.live) :
    r.perform (.draw call) = (.error (Failure.notLoaded call.texture).message, r) := by
  show (Canvas.draw r call).map (·.map fun _ => Answer.done) id = _
  rw [draw_of_dead h]
  rfl

/-- Ending a frame adds what is in it, if it is open, and nothing else adds a frame. -/
theorem frames_effect (he : Effect r a answer r') :
    r'.frames = r.frames ++ if a = .endFrame then r.current.toList else [] := by
  cases he with
  | issued hl => simp [frames, issue]
  | completed hopen => simp [frames, hopen]
  | idle hclosed => simp [hclosed]
  | _ => simp [frames, addFile]

/-- **Completed frames stay as they are.** -/
theorem frames_prefix_run (r : Recorder) (requests : List Request) :
    r.frames <+: (r.run requests).frames := by
  induction requests generalizing r with
  | nil => exact List.prefix_rfl
  | cons a rest ih =>
    have hframes := frames_effect (effect_perform r a)
    exact (hframes ▸ List.prefix_append _ _).trans (ih (r.after a))

theorem getElem?_frames_after : (r.after a).frames[k]? = some frame ↔
    r.frames[k]? = some frame ∨
      (a = .endFrame ∧ r.current = some frame ∧ r.frames.length = k) := by
  have hframes := frames_effect (effect_perform r a)
  rw [hframes]
  by_cases hend : a = .endFrame
  · cases hopen : r.current with
    | none => simp [hend]
    | some last =>
      rcases Nat.lt_trichotomy k r.frames.length with hk | rfl | hk
      · simp [hend, List.getElem?_append_left hk, Nat.ne_of_gt hk]
      · simp [hend]
      · have hout : (r.frames ++ [last])[k]? = none := by
          refine List.getElem?_eq_none ?_
          rw [List.length_append]
          exact hk
        simp [hend, hout, Nat.ne_of_lt hk, Nat.le_of_lt hk]
  · simp [hend]

/-- **A completed frame is what was drawn between a beginning and an end.** -/
theorem frames_run : (new.run requests).frames[k]? = some frame ↔
    ∃ before later, requests = before ++ .endFrame :: later ∧ Opened before frame ∧
      (new.run before).frames.length = k := by
  induction requests using List.reverseRecOn with
  | nil =>
    exact iff_of_false (fun h => by simp [new, frames] at h) (fun ⟨_, _, h, _⟩ => by simp at h)
  | append_singleton requests a ih =>
    rw [run_concat, getElem?_frames_after, ih, current_run]
    constructor
    · rintro (⟨before, later, rfl, hopened, hk⟩ | ⟨rfl, hopened, hk⟩)
      · exact ⟨before, later ++ [a], List.append_assoc .., hopened, hk⟩
      · exact ⟨requests, [], rfl, hopened, hk⟩
    · rintro ⟨before, later, h, hopened, hk⟩
      rcases concat_eq_split_iff.1 h with ⟨rfl, rfl, rfl⟩ | ⟨more, rfl, rfl⟩
      · exact .inr ⟨rfl, hopened, hk⟩
      · exact .inl ⟨before, more, rfl, hopened, hk⟩

/-! ### What a history tells -/

/-- Handles and frames of the recorder that requests leave are told apart by the requests. -/
structure Faithful (requests : List Request) : Prop where
  counters : (new.run requests).loads =
    (new.run requests).unloads + (new.run requests).live.length
  once : (new.run requests).live.Nodup
  makes : ∀ source : Source, (∃ t, ((new.run requests).perform (.make source)).1 =
    .ok (.texture t)) ↔ source.Available requests
  /-- No handle was issued twice. -/
  fresh : (new.issued requests).Nodup
  live : ∀ t, t ∈ (new.run requests).live ↔ Standing t requests
  /-- What was unloaded stays dead, and its calls are not drawn. -/
  dead : ∀ {earlier t later}, requests = earlier ++ .unload t :: later →
    t ∈ (new.run earlier).live → t ∉ (new.run requests).live ∧
      ∀ call, call.texture = t → (new.run requests).perform (.draw call) =
        (.error (Failure.notLoaded t).message, new.run requests)
  draws : ∀ call, ((new.run requests).perform (.draw call)).1 = .ok .done ↔
    FrameOpen requests ∧ call.texture ∈ (new.run requests).live
  /-- Completed frames are there after all further requests, in their places. -/
  lasting : ∀ more, (new.run requests).frames <+: (new.run (requests ++ more)).frames
  frames : ∀ {k frame}, (new.run requests).frames[k]? = some frame ↔
    ∃ before later, requests = before ++ .endFrame :: later ∧ Opened before frame ∧
      (new.run before).frames.length = k
  refused : ∀ a reason, ((new.run requests).perform a).1 = .error reason →
    (new.run requests).after a = new.run requests
  unknown : ∀ t, t ∉ (new.run requests).live →
    (new.run requests).after (.unload t) = new.run requests

/-- **A recorder confuses neither textures nor frames** as long as it issues fewer than `2 ^ 32`
handles. -/
theorem faithful_recording (requests : List Request)
    (hn : (new.issued requests).length < UInt32.size) : Faithful requests := by
  have hloads : (new.run requests).loads < UInt32.size := by
    rw [loads_run]
    exact (Nat.zero_add _).symm ▸ hn
  have hholding := holding_run holding_new requests hloads
  have hfresh := nodup_issued holding_new requests hloads
  exact {
    counters := hholding.counted
    once := hholding.nodup
    makes := fun source => make_eq_ok_iff
    fresh := hfresh
    live := fun t => mem_live_run
    dead := by
      rintro earlier t later rfl ht
      have hdead := not_mem_live_of_unloaded hfresh ht
      exact ⟨hdead, fun call hcall => hcall ▸ perform_draw_of_dead (hcall.symm ▸ hdead)⟩
    draws := fun call => by rw [draw_eq_ok_iff, current_run_iff_frameOpen]
    lasting := fun more => by
      rw [run_append]
      exact frames_prefix_run _ more
    frames := frames_run
    refused := fun a reason h => eq_of_refused (h ▸ effect_perform (new.run requests) a)
    unknown := fun t => after_unload_of_not_mem }

/-- A texture that was unloaded and made again has another handle, and a frame that is begun again
has only what is drawn from then on. -/
theorem faithful_recording_of_restart :
    let drawing (number : UInt32) : DrawCall :=
      ⟨"a", ⟨number⟩, ⟨0, 0, 8, 8⟩, ⟨0, 0, 8, 8⟩, .black, .empty⟩
    let earlier : List Request :=
      [.addFile "a.png" 8 8, .make (.file "a.png"), .endFrame, .draw (drawing 1), .beginFrame,
        .draw (drawing 1), .endFrame]
    let later : List Request :=
      [.unload ⟨7⟩, .make (.file "a.png"), .make (.solid 8 0 .black), .beginFrame,
        .draw (drawing 2), .beginFrame, .draw (drawing 1), .draw (drawing 2), .draw (drawing 2),
        .endFrame]
    let requests := earlier ++ .unload ⟨1⟩ :: later
    (new.issued requests).length < UInt32.size ∧ Faithful requests ∧
      new.issued requests = [⟨1⟩, ⟨2⟩] ∧ ⟨1⟩ ∉ (new.run requests).live ∧
      (new.run requests).frames = [[drawing 1], [drawing 2, drawing 2]] := by
  intro drawing earlier later requests
  have hn : (new.issued requests).length < UInt32.size := by decide
  have hfaithful := faithful_recording requests hn
  exact ⟨hn, hfaithful, by decide, (hfaithful.dead rfl (by decide)).1, by decide⟩

end SpriteStage.Recorder
