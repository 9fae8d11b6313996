import SpriteStage.Proofs.Json.Records
import SpriteStage.Proofs.StableScene

/-!
# What the printed draw calls say

* `parse?_frameText`: the text is well-formed JSON for the draw calls and nothing else, so
  `frameText_injective`: **it determines the draw calls**;
* `output_eq_frameText_iff`: a program that printed the text of some draw calls has drawn exactly
  these calls in every frame.
-/

namespace SpriteStage.Program

open JsonValue

variable {request : CommandLine.Request} {file : Except Disk.Fault String} {calls : List DrawCall}

theorem parse?_frameText (calls : List DrawCall) :
    parse? (frameText calls) = some (.array (calls.map DrawCall.toJson)) := by
  have hreadable : Readable (.array (calls.map DrawCall.toJson)) :=
    .array fun v hv => by
      obtain ⟨c, -, rfl⟩ := List.mem_map.1 hv
      exact c.readable_toJson
  have hblank : ∀ c ∈ ['\n'], isJsonBlank c = true := List.forall_mem_singleton.2 (by decide)
  exact parse?_pretty hreadable hblank

/-- **The printed text determines the draw calls.** -/
theorem frameText_injective : Function.Injective frameText := by
  intro calls₁ calls₂ h
  have hread := congrArg parse? h
  rw [parse?_frameText, parse?_frameText, Option.some.injEq, array.injEq] at hread
  exact DrawCall.toJson_injective.list_map hread

theorem frameText_ne_empty (calls : List DrawCall) : frameText calls ≠ "" := by
  intro h
  have hread := parse?_frameText calls
  rw [h] at hread
  cases hread

/-- **The frames can be read off the output.** A program has printed the text of some draw calls if
it was asked to print them, did not fail, and drew exactly these calls in all its frames. -/
theorem output_eq_frameText_iff :
    (run request file).output = frameText calls ↔
      request.dumpFrame = true ∧ (run request file).status = 0 ∧
        (perform request (settings file)).2.backend.frames =
          List.replicate (frameCount request) calls := by
  have hcount : frameCount request ≠ 0 := by
    unfold frameCount
    omega
  rcases perform_cases request (settings file) with
    ⟨e, h, hp, -⟩ | ⟨calls', h, hp, hframes, -⟩
  · rw [run_of_error hp]
    have hstatus : (1 : UInt32) ≠ 0 := by decide
    exact ⟨fun h => absurd h.symm (frameText_ne_empty calls), fun h => absurd h.2.1 hstatus⟩
  · rw [run_of_ok hp, hp, hframes]
    cases request.dumpFrame with
    | false =>
      exact ⟨fun h => absurd h.symm (frameText_ne_empty calls), fun h => absurd h.1 (by decide)⟩
    | true =>
      constructor
      · intro h
        rw [frameText_injective h]
        exact ⟨rfl, rfl, rfl⟩
      · rintro ⟨-, -, h⟩
        rw [List.replicate_right_injective hcount h]
        rfl

end SpriteStage.Program
