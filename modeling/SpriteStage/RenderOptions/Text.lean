import SpriteStage.RenderOptions.Basic
import SpriteStage.Number.Unsigned
import SpriteStage.Text.Blank
import SpriteStage.Text.Pieces

/-!
# The stored form of render options

The names of the set flags, from the lowest bit, joined by a bar between spaces; bits without a
name come last as one hexadecimal number. The empty set is the empty text.

Reading allows any blanks around a bar, flags in any order and any number of hexadecimal numbers.
-/

namespace SpriteStage

/-- The name of the flag in stored form. -/
def Flag.name : Flag → String
  | colorMod => "COLOR_MOD"
  | alphaMod => "ALPHA_MOD"
  | flipH => "FLIP_H"
  | flipV => "FLIP_V"
  | rotate90 => "ROTATE_90"
  | rotate180 => "ROTATE_180"
  | rotate270 => "ROTATE_270"
  | blendNone => "BLEND_NONE"
  | blendAlpha => "BLEND_ALPHA"
  | blendAdd => "BLEND_ADD"
  | blendMod => "BLEND_MOD"

/-- The flag of a name. -/
def Flag.ofName? (name : String) : Option Flag := Flag.all.find? (·.name == name)

namespace RenderOptions

/-- A word in hexadecimal, with its mark. -/
def hexText (n : UInt32) : String := "0x" ++ String.ofList (Nat.toDigits 16 n.toNat)

/-- The stored form. -/
def text (o : RenderOptions) : String :=
  let rest := if o.unknownBits = 0 then [] else [hexText o.unknownBits]
  " | ".intercalate (o.flags.map Flag.name ++ rest)

/-- The bits of one part of a stored form: a hexadecimal number after its mark, or a name. -/
def partBits? (part : List Char) : Option UInt32 :=
  match part with
  | '0' :: 'x' :: digits =>
      match Unsigned.read 16 4294967295 digits with
      | .ok n => some (UInt32.ofNat n)
      | .error _ => none
  | _ => (Flag.ofName? (String.ofList part)).map Flag.bit

/-- Read a stored form. -/
def ofText? (s : String) : Option RenderOptions :=
  if Text.trimChars s.toList = [] then some empty
  else
    (Text.pieces '|' s.toList).foldlM
      (fun o piece => (partBits? (Text.trimChars piece)).map fun b => ⟨o.bits ||| b⟩) empty

end RenderOptions

end SpriteStage
