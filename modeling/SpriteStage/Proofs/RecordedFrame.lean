import SpriteStage.Proofs.Recorder
import SpriteStage.Proofs.Run

/-!
# What a frame records

Drawing a frame goes through the calls up to the first one whose texture is not live, and the frame
is completed in any case, with the calls before that one.

* `Recorder.Showable live calls drawn`: `drawn` is the longest beginning of the calls that can be
  drawn;
* `Recorder.Ending`: how a frame ends of which that beginning was drawn;
* `drawFrame_ending`: a frame leaves one completed frame more and changes nothing else, whether a
  frame was open before or not;
* `Host.render_records`: the same of the frames of a stage.
-/

namespace SpriteStage

namespace Recorder

/-- `drawn` is the longest beginning of the calls whose textures are all live. -/
structure Showable (live : List TextureHandle) (calls drawn : List DrawCall) : Prop where
  beginning : drawn <+: calls
  shown : ∀ call ∈ drawn, call.texture ∈ live
  longest : ∀ other, other <+: calls → (∀ call ∈ other, call.texture ∈ live) → other <+: drawn

/-- How a frame ends of whose calls the beginning `drawn` was drawn: with the number of all calls, or
with an error that names the sprite of the first call whose texture is not live. -/
inductive Ending (live : List TextureHandle) (calls drawn : List DrawCall) :
    Except Error Nat → Prop
  | all (h : drawn = calls) : Ending live calls drawn (.ok calls.length)
  | stopped {call : DrawCall} {rest : List DrawCall} (hc : calls = drawn ++ call :: rest)
      (hdead : call.texture ∉ live) :
      Ending live calls drawn
        (.error (.draw call.sprite (Failure.notLoaded call.texture).message))

variable {r : Recorder} {live : List TextureHandle} {calls drawn rest : List DrawCall}
  {call : DrawCall}

/-! ### The calls of live textures -/

theorem showable_all (h : ∀ call ∈ calls, call.texture ∈ live) : Showable live calls calls where
  beginning := List.prefix_rfl
  shown := h
  longest _ ho _ := ho

/-- Nothing behind a call of a dead texture can be drawn. -/
theorem showable_of_dead (h : ∀ call ∈ drawn, call.texture ∈ live) (hdead : call.texture ∉ live) :
    Showable live (drawn ++ call :: rest) drawn where
  beginning := List.prefix_append _ _
  shown := h
  longest other ho hl := by
    rcases List.prefix_or_prefix_of_prefix ho (List.prefix_append drawn (call :: rest)) with
      hp | ⟨more, rfl⟩
    · exact hp
    · -- a longer beginning would have the call of the dead texture in it
      have hmore : more <+: call :: rest := (List.prefix_append_right_inj drawn).1 ho
      cases more with
      | nil => simp
      | cons first more =>
        obtain rfl : first = call := (List.cons_prefix_cons.1 hmore).1
        exact absurd (hl first (by simp)) hdead

/-- Calls are all of live textures, or there is a first one that is not. -/
theorem exists_first_dead (live : List TextureHandle) (calls : List DrawCall) :
    (∀ call ∈ calls, call.texture ∈ live) ∨
      ∃ drawn call rest, calls = drawn ++ call :: rest ∧
        (∀ call ∈ drawn, call.texture ∈ live) ∧ call.texture ∉ live := by
  induction calls with
  | nil => exact .inl fun _ h => absurd h List.not_mem_nil
  | cons first calls ih =>
    by_cases hfirst : first.texture ∈ live
    · rcases ih with hall | ⟨drawn, call, rest, rfl, hdrawn, hdead⟩
      · exact .inl (List.forall_mem_cons.2 ⟨hfirst, hall⟩)
      · exact .inr ⟨first :: drawn, call, rest, rfl, List.forall_mem_cons.2 ⟨hfirst, hdrawn⟩, hdead⟩
    · exact .inr ⟨[], first, calls, rfl, fun _ h => absurd h List.not_mem_nil, hfirst⟩

/-! ### Drawing -/

theorem draw_of_dead (h : call.texture ∉ r.live) :
    Canvas.draw r call = (.error (Failure.notLoaded call.texture).message, r) := by
  show r.answer ((r.draw call).map ((), ·)) = _
  rw [draw, if_neg h]
  rfl

theorem drawAll_of_dead (hdead : call.texture ∉ r.live) :
    Canvas.drawAll r (call :: rest) =
      (.error (.draw call.sprite (Failure.notLoaded call.texture).message), r) := by
  rw [Canvas.drawAll, draw_of_dead hdead]

/-- **A frame records the longest beginning of its calls that can be drawn, once**, and what was in
a frame that was still open is dropped. -/
theorem drawFrame_ending (r : Recorder) (calls : List DrawCall) :
    ∃ drawn, Showable r.live calls drawn ∧
      Ending r.live calls drawn ((Canvas.drawFrame r calls).1.map fun _ => calls.length) ∧
      (Canvas.drawFrame r calls).2 =
        { r with completed := drawn :: r.completed, current := none } := by
  rcases exists_first_dead r.live calls with hall | ⟨drawn, call, rest, rfl, hdrawn, hdead⟩
  · have hframe := drawFrame_eq_ok hall
    exact ⟨calls, showable_all hall, by rw [hframe]; exact .all rfl, by rw [hframe]⟩
  · have hstop : Canvas.drawAll r.beginFrame (drawn ++ call :: rest) =
        (.error (.draw call.sprite (Failure.notLoaded call.texture).message),
          { r with current := some drawn }) := by
      have hopen : r.beginFrame.current = some [] := rfl
      rw [drawAll_append (r := r.beginFrame) hdrawn hopen]
      exact drawAll_of_dead hdead
    have hframe : Canvas.drawFrame r (drawn ++ call :: rest) =
        (.error (.draw call.sprite (Failure.notLoaded call.texture).message),
          { r with completed := drawn :: r.completed, current := none }) := by
      show ((Canvas.drawAll r.beginFrame _).1, (Canvas.drawAll r.beginFrame _).2.endFrame) = _
      rw [hstop]
      rfl
    refine ⟨drawn, showable_of_dead hdrawn hdead, ?_, by rw [hframe]⟩
    rw [hframe]
    exact .stopped rfl hdead

end Recorder

namespace Host

open Recorder

/-- **Rendering records exactly one frame.** Whatever the stage, and whatever a recording backend
holds and has open, rendering a stage that has draw calls completes one frame, behind the earlier
ones, with the longest beginning of the calls whose textures are live. It answers with the number of
calls if these are all, and otherwise names the sprite of the first call whose texture is not live.
Nothing else of the host is different afterwards, but that no frame is open. A stage without draw
calls begins no frame. -/
theorem render_records (h : Host Recorder) :
    (∀ e, h.stage.drawCalls = .error e → h.render = (.error e, h)) ∧
    ∀ calls, h.stage.drawCalls = .ok calls → ∃ drawn,
      Showable h.backend.live calls drawn ∧
      Ending h.backend.live calls drawn h.render.1 ∧
      h.render.2.backend.frames = h.backend.frames ++ [drawn] ∧
      h.render.2 = { h with backend :=
        { h.backend with completed := drawn :: h.backend.completed, current := none } } := by
  refine ⟨fun e he => ?_, fun calls hc => ?_⟩
  · simp only [render, Stage.render, he]
  · obtain ⟨drawn, hshow, hend, hleft⟩ := drawFrame_ending h.backend calls
    have hrender : h.render =
        ((Canvas.drawFrame h.backend calls).1.map fun _ => calls.length,
          { h with backend := (Canvas.drawFrame h.backend calls).2 }) := by
      simp only [render, Stage.render, hc]
    rw [hrender, hleft]
    exact ⟨drawn, hshow, hend, by simp [frames], rfl⟩

/-- The texture of the second of three sprites is gone while a frame is open, so the frame has the
first one only; and an item of a sprite that was never made has no draw call. -/
theorem render_records_until_dead :
    let h := (Host.new "" ⟨320, 200⟩ Recorder.new).run
      [.createFromRectangle "a" 4 4 .black, .createFromRectangle "b" 4 4 .black,
        .createFromRectangle "c" 4 4 .black, .append "a" 0, .append "b" 0, .append "c" 0,
        .touch (·.unload ⟨2⟩), .touch (·.beginFrame)]
    let lost : Host Recorder := { h with stage := { h.stage with queue := [⟨⟨7⟩, 0, true⟩] } }
    (∃ calls drawn, h.stage.drawCalls = .ok calls ∧ Showable h.backend.live calls drawn ∧
      calls.map (·.sprite) = ["a", "b", "c"] ∧ drawn.map (·.sprite) = ["a"] ∧
      h.render.1 = .error (.draw "b" (Failure.notLoaded ⟨2⟩).message) ∧
      h.backend.current = some [] ∧ h.render.2.backend.current = none) ∧
    lost.render = (.error (.noDestination "" 0 0), lost) := by
  intro h lost
  refine ⟨?_, (render_records lost).1 _ rfl⟩
  obtain ⟨drawn, hshow, -, hframes, hleft⟩ := (render_records h).2 _ rfl
  have hrecorded : h.render.2.backend.frames.map (·.map (·.sprite)) = [["a"]] := by rfl
  have hearlier : h.backend.frames = [] := by rfl
  rw [hframes, hearlier] at hrecorded
  exact ⟨_, drawn, rfl, hshow, rfl, by simpa using hrecorded, by rfl, rfl, by rw [hleft]⟩

end Host

end SpriteStage
