import SpriteStage.Text.Glyphless

/-!
# Quoted texts

A text between double quotes on one line: the usual control characters, the quote and the
backslash follow a backslash, and a character without a glyph is written by its number.
-/

namespace SpriteStage.Text

/-- How a character is written between quotes. -/
def escapeChar (c : Char) : List Char :=
  if c = '\x00' then ['\\', '0']
  else if c = '\t' then ['\\', 't']
  else if c = '\r' then ['\\', 'r']
  else if c = '\n' then ['\\', 'n']
  else if c = '\\' || c = '"' then ['\\', c]
  else if isGlyphless c then
    "\\u\x7b".toList ++ Nat.toDigits 16 c.toNat ++ ['}']
  else [c]

/-- A text between quotes. -/
def quote (s : String) : String :=
  String.ofList ('"' :: (s.toList.flatMap escapeChar ++ ['"']))

end SpriteStage.Text
