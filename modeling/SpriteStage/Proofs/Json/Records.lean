import SpriteStage.Json.Records
import SpriteStage.Proofs.Json.Value
import SpriteStage.Proofs.Options.Stored

/-!
# Stored forms are read back

* `Rect.ofJson?_toJson` and its like for colors, texture handles and render options: the stored form
  of each is read as it was;
* `DrawCall.toJson_injective`: different draw calls have different records;
* `DrawCall.readable_toJson`: a record is read back from its text.
-/

namespace SpriteStage

open JsonValue

/-! ### The parts of a draw call -/

theorem Rect.ofJson?_toJson (r : Rect) : ofJson? r.toJson = some r := by
  have hrecord : r.toJson.record? ["x", "y", "w", "h"] =
      some [.integer r.x.toInt, .integer r.y.toInt, .integer r.width.toInt,
        .integer r.height.toInt] := rfl
  rw [ofJson?, hrecord]
  simp [integer?, coordinate?_toInt]

theorem Color.channel?_toNat (n : UInt8) : channel? n.toNat = some n := by
  have hn := n.toNat_lt
  have hrange : (0 : Int) ≤ n.toNat ∧ (n.toNat : Int) ≤ 255 := by omega
  rw [channel?, if_pos hrange, Int.toNat_natCast, UInt8.ofNat_toNat]

theorem Color.ofJson?_toJson (c : Color) : ofJson? c.toJson = some c := by
  have hrecord : c.toJson.record? ["r", "g", "b", "a"] =
      some [.integer c.r.toNat, .integer c.g.toNat, .integer c.b.toNat, .integer c.a.toNat] := rfl
  rw [ofJson?, hrecord]
  simp [integer?, channel?_toNat]

theorem TextureHandle.ofJson?_toJson (h : TextureHandle) : ofJson? h.toJson = some h := by
  have hn := h.number.toNat_lt
  have hrange : (0 : Int) ≤ h.number.toNat ∧ (h.number.toNat : Int) ≤ 4294967295 := by omega
  simp [ofJson?, toJson, integer?, hrange]

theorem RenderOptions.ofJson?_toJson (o : RenderOptions) : ofJson? o.toJson = some o :=
  ofText?_text o

/-! ### Draw calls -/

theorem injective_of_read {α : Type} {write : α → JsonValue} {read : JsonValue → Option α}
    (hread : ∀ a, read (write a) = some a) : Function.Injective write := by
  have hcomp : read ∘ write = some := funext hread
  exact Function.Injective.of_comp (hcomp ▸ Option.some_injective α)

/-- **Different draw calls have different records.** -/
theorem DrawCall.toJson_injective : Function.Injective toJson := by
  rintro ⟨sprite₁, texture₁, source₁, destination₁, color₁, options₁⟩
    ⟨sprite₂, texture₂, source₂, destination₂, color₂, options₂⟩ h
  simp only [toJson, object.injEq, List.cons.injEq, Prod.mk.injEq, true_and, and_true,
    string.injEq] at h
  obtain ⟨rfl, htexture, hsource, hdestination, hcolor, hoptions⟩ := h
  have hrect := injective_of_read Rect.ofJson?_toJson
  obtain rfl := injective_of_read TextureHandle.ofJson?_toJson htexture
  obtain rfl := hrect hsource
  obtain rfl := hrect hdestination
  obtain rfl := injective_of_read Color.ofJson?_toJson hcolor
  obtain rfl := injective_of_read RenderOptions.ofJson?_toJson hoptions
  rfl

theorem Rect.readable_toJson (r : Rect) : Readable r.toJson :=
  .object (by simp [Readable.integer])

theorem Color.readable_toJson (c : Color) : Readable c.toJson :=
  .object (by simp [Readable.integer])

theorem DrawCall.readable_toJson (c : DrawCall) : Readable c.toJson := by
  have htexture : Readable c.texture.toJson := .integer _
  have hoptions : Readable c.options.toJson := .string _
  exact .object (by
    simp [Readable.string, htexture, Rect.readable_toJson, Color.readable_toJson, hoptions])

end SpriteStage
