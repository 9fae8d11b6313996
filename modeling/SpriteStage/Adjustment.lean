import SpriteStage.Sprite

/-!
# Adjustments

A parsed command that changes a sprite. All arguments are read before anything is touched.

| command          | arguments            | effect                                  |
|------------------|----------------------|-----------------------------------------|
| `centerIn`       | `x y w h [w h]`      | centre in the area, with another size   |
| `setOrigin`      | `x y`                | move, keep the size                     |
| `setOptions`     | `option...`          | replace the render options              |
| `setSize`        | `w h`                | resize, keep the corner                 |
| `setColor`       | `r g b [a]`          | replace the color                       |
| `moveBy`         | `dx dy`              | move relative to where it is            |
| `addDestination` | `x y`                | add a destination                       |
-/

namespace SpriteStage

/-- An area in screen numbers, not yet rounded. -/
structure Area where
  x : Binary64
  y : Binary64
  width : Binary64
  height : Binary64
  deriving DecidableEq, Repr

/-- The area of a rectangle. -/
def Area.ofRect (r : Rect) : Area :=
  ⟨.ofCoordinate r.x, .ofCoordinate r.y, .ofCoordinate r.width, .ofCoordinate r.height⟩

/-- A change of one sprite, ready to be applied. -/
inductive Adjustment
  /-- Centre in an area; with a size, the destination is resized first. -/
  | centerIn (area : Area) (size : Option (Binary64 × Binary64))
  | setOrigin (x y : Int32)
  | setOptions (options : RenderOptions)
  | setSize (width height : Int32)
  | setColor (color : Color)
  | moveBy (dx dy : Int32)
  | addDestination (x y : Int32)
  deriving DecidableEq, Repr

namespace Adjustment

/-- The commands that are written in directives. -/
inductive Command
  | centerIn
  | setOrigin
  | setOptions
  | setSize
  | setColor
  | moveBy
  | addDestination
  deriving DecidableEq, Repr

/-- Every command. -/
def Command.all : List Command :=
  [centerIn, setOrigin, setOptions, setSize, setColor, moveBy, addDestination]

/-- The word for a command. -/
def Command.keyword : Command → String
  | centerIn => "centerIn"
  | setOrigin => "setOrigin"
  | setOptions => "setOptions"
  | setSize => "setSize"
  | setColor => "setColor"
  | moveBy => "moveBy"
  | addDestination => "addDestination"

/-- The command of a word. -/
def Command.ofKeyword? (word : String) : Option Command := all.find? (·.keyword == word)

/-- The command that makes an adjustment. -/
def command : Adjustment → Command
  | centerIn .. => .centerIn
  | setOrigin .. => .setOrigin
  | setOptions .. => .setOptions
  | setSize .. => .setSize
  | setColor .. => .setColor
  | moveBy .. => .moveBy
  | addDestination .. => .addDestination

/-! ### Reading -/

/-- The error for a wrong number of arguments. -/
def wrongCount (c : Command) (expected : String) (args : List String) : Error :=
  .argumentCount c.keyword expected args.length

/-- Exactly two coordinates. -/
def readPair (r : ValueReader) (c : Command) (args : List String) :
    Except Error (Int32 × Int32) :=
  match args with
  | [a, b] => do return (← r.number a, ← r.number b)
  | _ => .error (wrongCount c "2" args)

/-- A length that is not negative and has a coordinate nearest to it. -/
def checkLength (value : Binary64) (token : String) : Except Error Unit := do
  if value.isNegative then .error (.parse token "size must not be negative")
  else discard (ValueReader.coordinate value token)

/-- The arguments of `centerIn`: all are read before the size is checked. -/
def readCenterIn (r : ValueReader) (args : List String) : Except Error Adjustment :=
  match args with
  | [x, y, w, h] => do
      return centerIn ⟨← r.value x, ← r.value y, ← r.value w, ← r.value h⟩ none
  | [x, y, w, h, sw, sh] => do
      let area : Area := ⟨← r.value x, ← r.value y, ← r.value w, ← r.value h⟩
      let width ← r.value sw
      let height ← r.value sh
      checkLength width sw
      checkLength height sh
      return centerIn area (some (width, height))
  | _ => .error (wrongCount .centerIn "4 or 6" args)

/-- The arguments of `setSize`: neither may be negative. -/
def readSetSize (r : ValueReader) (args : List String) : Except Error Adjustment :=
  match args with
  | [w, h] => do
      let width ← r.number w
      let height ← r.number h
      if width < 0 then .error (.parse w "size must not be negative")
      else if height < 0 then .error (.parse h "size must not be negative")
      else return setSize width height
  | _ => .error (wrongCount .setSize "2" args)

/-- A coordinate as a color channel; `token` is blamed when it is none. -/
def channel (value : Int32) (token : String) : Except Error UInt8 :=
  match Color.channel? value.toInt with
  | some c => .ok c
  | none => .error (.parse token "color channel must be 0-255")

/-- The arguments of `setColor`: all are read before the channels are checked; without a fourth
the color is opaque. -/
def readSetColor (r : ValueReader) (args : List String) : Except Error Adjustment :=
  match args with
  | [red, green, blue] => do
      let v ← r.number red
      let w ← r.number green
      let x ← r.number blue
      return setColor ⟨← channel v red, ← channel w green, ← channel x blue, 255⟩
  | [red, green, blue, alpha] => do
      let v ← r.number red
      let w ← r.number green
      let x ← r.number blue
      let y ← r.number alpha
      return setColor
        ⟨← channel v red, ← channel w green, ← channel x blue, ← channel y alpha⟩
  | _ => .error (wrongCount .setColor "3 or 4" args)

/-- Read the arguments of a command. -/
def readArguments (r : ValueReader) (args : List String) : Command → Except Error Adjustment
  | .centerIn => readCenterIn r args
  | .setOrigin => do
      let (x, y) ← readPair r .setOrigin args
      return setOrigin x y
  | .setOptions => setOptions <$> RenderOptions.parse args
  | .setSize => readSetSize r args
  | .setColor => readSetColor r args
  | .moveBy => do
      let (dx, dy) ← readPair r .moveBy args
      return moveBy dx dy
  | .addDestination => do
      let (x, y) ← readPair r .addDestination args
      return addDestination x y

/-- Read a command word and its arguments. -/
def parse (r : ValueReader) (word : String) (args : List String) : Except Error Adjustment :=
  match Command.ofKeyword? word with
  | none => .error (.unknownCommand word)
  | some c => readArguments r args c

/-! ### Applying -/

/-- Where a side of the given length starts when it is centred in a side of an area. -/
def centredStart (start length : Binary64) (side : Int32) : Binary64 :=
  start + (length - .ofCoordinate side) / .ofInt 2

/-- The coordinate of a number that a command computed. -/
def coordinate (c : Command) (value : Binary64) : Except Error Int32 :=
  ValueReader.coordinate value c.keyword

/-- The rectangle `current` centred in an area, with another size if one is given. -/
def centredRect (area : Area) (size : Option (Binary64 × Binary64)) (current : Rect) :
    Except Error Rect := do
  let (width, height) ← match size with
    | some (w, h) => do
        let width ← coordinate .centerIn w
        let height ← coordinate .centerIn h
        pure (width, height)
    | none => pure (current.width, current.height)
  let x ← coordinate .centerIn (centredStart area.x area.width width)
  let y ← coordinate .centerIn (centredStart area.y area.height height)
  return ⟨x, y, width, height⟩

/-- The corner of a rectangle moved by an offset, both coordinates staying in range. -/
def movedCorner (current : Rect) (dx dy : Int32) : Except Error (Int32 × Int32) :=
  match coordinate? (current.x.toInt + dx.toInt), coordinate? (current.y.toInt + dy.toInt) with
  | some x, some y => .ok (x, y)
  | _, _ =>
      .error (.parse Command.moveBy.keyword
        s!"moving ({current.x}, {current.y}) by ({dx}, {dy}) overflows")

/-- Apply an adjustment to destination `i`; adding a destination needs no index. -/
def apply (a : Adjustment) (s : Sprite) (i : Nat) : Except Error Sprite :=
  match a with
  | centerIn area size => do
      let d ← s.get i
      s.setRect i (← centredRect area size d.rect)
  | setOrigin x y => s.setOrigin i x y
  | setOptions options => s.setOptions i options
  | setSize width height => s.setSize i width height
  | setColor color => s.setColor i color
  | moveBy dx dy => do
      let d ← s.get i
      let (x, y) ← movedCorner d.rect dx dy
      s.setOrigin i x y
  | addDestination x y => .ok (s.addDestination x y)

end Adjustment

end SpriteStage
