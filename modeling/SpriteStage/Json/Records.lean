import SpriteStage.Backend
import SpriteStage.Json.Printer
import SpriteStage.Json.Reader
import SpriteStage.RenderOptions.Text

/-!
# Stored forms of the domain

Rectangles and colors are records of whole numbers, a texture handle is its number, a blend mode
its name and a set of render options its text.
-/

namespace SpriteStage

/-- The record of a rectangle. -/
def Rect.toJson (r : Rect) : JsonValue :=
  .object [("x", .integer r.x.toInt), ("y", .integer r.y.toInt),
    ("w", .integer r.width.toInt), ("h", .integer r.height.toInt)]

/-- Read the record of a rectangle. -/
def Rect.ofJson? (v : JsonValue) : Option Rect := do
  match ← (← v.record? ["x", "y", "w", "h"]).mapM (·.integer?.bind coordinate?) with
  | [x, y, w, h] => return ⟨x, y, w, h⟩
  | _ => none

/-- The record of a color. -/
def Color.toJson (c : Color) : JsonValue :=
  .object [("r", .integer c.r.toNat), ("g", .integer c.g.toNat),
    ("b", .integer c.b.toNat), ("a", .integer c.a.toNat)]

/-- Read the record of a color. -/
def Color.ofJson? (v : JsonValue) : Option Color := do
  match ← (← v.record? ["r", "g", "b", "a"]).mapM (·.integer?.bind Color.channel?) with
  | [r, g, b, a] => return ⟨r, g, b, a⟩
  | _ => none

/-- The number of a texture handle. -/
def TextureHandle.toJson (h : TextureHandle) : JsonValue := .integer h.number.toNat

/-- Read the number of a texture handle. -/
def TextureHandle.ofJson? (v : JsonValue) : Option TextureHandle := do
  let n ← v.integer?
  if 0 ≤ n ∧ n ≤ 4294967295 then return ⟨UInt32.ofNat n.toNat⟩ else none

/-- Every blend mode. -/
def BlendMode.all : List BlendMode := [none, alpha, additive, multiplied]

/-- The name of a blend mode. -/
def BlendMode.name : BlendMode → String
  | none => "None"
  | alpha => "Alpha"
  | additive => "Additive"
  | multiplied => "Multiplied"

/-- The blend mode of a name. -/
def BlendMode.ofName? (name : String) : Option BlendMode := all.find? (·.name == name)

/-- Read a blend mode: its name, or an object whose only member has that name and holds nothing. -/
def BlendMode.ofJson? : JsonValue → Option BlendMode
  | .string name => ofName? name
  | .object [(name, .null)] => ofName? name
  | _ => Option.none

/-- The text of a set of render options. -/
def RenderOptions.toJson (o : RenderOptions) : JsonValue := .string o.text

/-- Read the text of a set of render options. -/
def RenderOptions.ofJson? (v : JsonValue) : Option RenderOptions := v.string?.bind ofText?

/-- The record of a draw call. -/
def DrawCall.toJson (c : DrawCall) : JsonValue :=
  .object [("sprite", .string c.sprite), ("texture", c.texture.toJson),
    ("source", c.source.toJson), ("destination", c.destination.toJson),
    ("color", c.color.toJson), ("options", c.options.toJson)]

end SpriteStage
