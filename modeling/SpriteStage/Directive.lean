import SpriteStage.Cast

/-!
# Sprite directives

A directive is a line of words: a command and its arguments. Besides the adjustments there is
`centerInSprite other [destination]`, which takes its area from a destination of another sprite.

The addressed sprite is looked up before the line is read, and the line is read before the sprite
is touched.
-/

namespace SpriteStage

namespace Cast

/-- The word of the directive that centres in another sprite. -/
def centerInSpriteKeyword : String := "centerInSprite"

/-- The centring that the arguments of `centerInSprite` stand for. -/
def readCenterInSprite (c : Cast) (r : ValueReader) (args : List String) :
    Except Error Adjustment := do
  let (other, i) ← match args with
    | [other] => pure (other, 0)
    | [other, index] => do pure (other, ← r.index index)
    | _ => .error (.argumentCount centerInSpriteKeyword "1 or 2" args.length)
  let area ← (c.sprite (← c.get other)).get i
  return .centerIn (.ofRect area.rect) none

/-- Read a directive; other sprites it refers to are looked up. -/
def readDirective (c : Cast) (r : ValueReader) (line : String) : Except Error Adjustment :=
  match Text.words line with
  | [] => .error (.unknownCommand "")
  | command :: args =>
      if command = centerInSpriteKeyword then c.readCenterInSprite r args
      else Adjustment.parse r command args

/-- Apply a directive to a destination of the sprite of a name. -/
def direct (c : Cast) (r : ValueReader) (name : String) (i : Nat) (line : String) :
    Except Error Cast := do
  let id ← c.get name
  let adjustment ← c.readDirective r line
  return c.replace id (← adjustment.apply (c.sprite id) i)

/-- Apply a directive to every selected sprite; it is read once, before any sprite changes. -/
def directEach (c : Cast) (r : ValueReader) (selection : Selection) (i : Nat) (line : String) :
    Except Error Nat × Cast :=
  match c.readDirective r line with
  | .error e => (.error e, c)
  | .ok adjustment => c.batch selection (adjustment.apply · i)

end Cast

end SpriteStage
