import SpriteStage.Disk
import SpriteStage.Error
import SpriteStage.Geometry
import SpriteStage.Ini
import SpriteStage.Number.Unsigned

/-!
# Display settings

Title, screen size and frame rate, kept in the section `display` of an INI file.

* what a text does not set keeps its value;
* the fields are set one after the other, so an error leaves those before it set;
* sizes and rates fit a signed 32-bit number, and after a load the screen is not empty.
-/

namespace SpriteStage

/-- The settings of the display and the path of their file. -/
structure DisplaySettings where
  title : String
  width : UInt32
  height : UInt32
  targetFps : UInt32
  path : String
  deriving DecidableEq, Repr

namespace DisplaySettings

/-- The settings of a program without a file. -/
def standard : DisplaySettings := ⟨"spritequeue", 800, 600, 60, "./config.ini"⟩

/-- The standard settings with another path. -/
def withPath (path : String) : DisplaySettings := { standard with path }

/-- The size of the screen; a number past the signed range wraps. -/
def screenSize (c : DisplaySettings) : ScreenSize := ⟨c.width.toInt32, c.height.toInt32⟩

/-- The section of the settings. -/
def heading : String := "display"

/-- The fields that hold numbers. -/
inductive Field
  | width
  | height
  | targetFps
  deriving DecidableEq, Repr

/-- The key of a field. -/
def Field.key : Field → String
  | width => "width"
  | height => "height"
  | targetFps => "target_fps"

/-- The value of a field. -/
def get (c : DisplaySettings) : Field → UInt32
  | .width => c.width
  | .height => c.height
  | .targetFps => c.targetFps

/-- Set a field. -/
def set (c : DisplaySettings) (f : Field) (n : UInt32) : DisplaySettings :=
  match f with
  | .width => { c with width := n }
  | .height => { c with height := n }
  | .targetFps => { c with targetFps := n }

@[simp] theorem get_set (c : DisplaySettings) (f : Field) (n : UInt32) : (c.set f n).get f = n := by
  cases f <;> rfl

/-- Why settings cannot be loaded or saved. -/
inductive Fault
  | unreadable (path : String) (fault : Disk.Fault)
  | malformedFile (path : String) (fault : Ini.Fault)
  | malformedText (fault : Ini.Fault)
  | badNumber (f : Field) (fault : Unsigned.Fault)
  | tooLarge (f : Field)
  | emptyScreen (width height : UInt32)
  | unwritable (fault : Disk.Fault)
  deriving DecidableEq, Repr

/-- The wording of a fault. -/
def Fault.message : Fault → String
  | .unreadable path fault =>
      s!"failed to load config file: couldn't read {path}: " ++ fault.message
  | .malformedFile path fault =>
      s!"failed to load config file: couldn't read {path}: " ++ fault.message
  | .malformedText fault => "failed to parse config: " ++ fault.message
  | .badNumber f fault => s!"[{heading}] {f.key}: " ++ fault.message
  | .tooLarge f => s!"[{heading}] {f.key} is too large"
  | .emptyScreen width height => s!"screen size {width}x{height} must not be empty"
  | .unwritable fault => "failed to save config file: " ++ fault.message

/-- A fault as an error. -/
def Fault.toError (f : Fault) : Error := .settings f.message

/-! ### Loading -/

/-- The greatest value of a field. -/
def greatest : Nat := 2147483647

/-- The value that the entries give a field, if they do. -/
def readField (entries : List Ini.Entry) (f : Field) : Except Fault (Option UInt32) :=
  match Ini.value? entries heading f.key with
  | none => .ok none
  | some text =>
      match Unsigned.read 10 18446744073709551615 text.toList with
      | .error fault => .error (.badNumber f fault)
      | .ok n => if n ≤ greatest then .ok (some (UInt32.ofNat n)) else .error (.tooLarge f)

/-- Set fields one after the other. -/
def loadFields (entries : List Ini.Entry) (c : DisplaySettings) :
    List Field → Except Fault Unit × DisplaySettings
  | [] => (.ok (), c)
  | f :: rest =>
      match readField entries f with
      | .error fault => (.error fault, c)
      | .ok none => loadFields entries c rest
      | .ok (some n) => loadFields entries (c.set f n) rest

/-- Take over what the entries set: the title, then the numbers; the screen must not be empty. -/
def loadEntries (c : DisplaySettings) (entries : List Ini.Entry) :
    Except Fault Unit × DisplaySettings :=
  let titled := { c with title := (Ini.value? entries heading "title").getD c.title }
  match loadFields entries titled [.width, .height, .targetFps] with
  | (.error fault, c) => (.error fault, c)
  | (.ok (), c) =>
      if c.width = 0 ∨ c.height = 0 then (.error (.emptyScreen c.width c.height), c)
      else (.ok (), c)

/-- Load a text. -/
def loadText (c : DisplaySettings) (text : String) : Except Fault Unit × DisplaySettings :=
  match Ini.parse text with
  | .error fault => (.error (.malformedText fault), c)
  | .ok entries => c.loadEntries entries

/-- Load what reading the file of the settings gave. -/
def loadRead (c : DisplaySettings) (file : Except Disk.Fault String) :
    Except Fault Unit × DisplaySettings :=
  match file with
  | .error fault => (.error (.unreadable c.path fault), c)
  | .ok text =>
      match Ini.parse text with
      | .error fault => (.error (.malformedFile c.path fault), c)
      | .ok entries => c.loadEntries entries

/-- Load the file of the settings. -/
def loadFile (c : DisplaySettings) (disk : Disk) : Except Fault Unit × DisplaySettings :=
  c.loadRead (disk.readText c.path)

/-! ### Saving -/

/-- The text of the settings. -/
def text (c : DisplaySettings) : String :=
  Ini.print heading
    (("title", c.title) :: [Field.width, .height, .targetFps].map fun f =>
      (f.key, toString (c.get f).toNat))

/-- Save the file of the settings. -/
def save (c : DisplaySettings) (disk : Disk) : Except Fault Disk :=
  (disk.write c.path c.text.toUTF8).mapError .unwritable

end DisplaySettings

end SpriteStage
