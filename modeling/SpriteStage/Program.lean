import SpriteStage.CommandLine
import SpriteStage.DisplaySettings
import SpriteStage.Host
import SpriteStage.Json.Records
import SpriteStage.Recorder

/-!
# The program

A scene of a background, a panel in its middle and a marker that is drawn twice, changed by the
directives of the command line and drawn for a number of frames.

* `setUp` makes the scene and applies the directives;
* `drawFrames` runs the schedule and draws, frame after frame;
* `perform` does all of it and clears the stage at the end.
-/

namespace SpriteStage

namespace Host

variable {β : Type}

/-- Go on with the next step unless this one failed. -/
def andThen {α γ : Type} (step : Except Error α × Host β)
    (next : α → Host β → Except Error γ × Host β) : Except Error γ × Host β :=
  match step with
  | (.error e, h) => (.error e, h)
  | (.ok a, h) => next a h

@[simp] theorem andThen_ok {α γ : Type} (a : α) (h : Host β)
    (next : α → Host β → Except Error γ × Host β) : andThen (.ok a, h) next = next a h := rfl

@[simp] theorem andThen_error {α γ : Type} (e : Error) (h : Host β)
    (next : α → Host β → Except Error γ × Host β) :
    andThen (.error e, h) next = (.error e, h) := rfl

/-- Go on with the stage a change gave. -/
def change (h : Host β) (f : Stage → Except Error Stage) : Except Error Unit × Host β :=
  match f h.stage with
  | .ok stage => (.ok (), { h with stage })
  | .error e => (.error e, h)

/-- Make changes in order. -/
def changeAll (h : Host β) : List (Stage → Except Error Stage) → Except Error Unit × Host β
  | [] => (.ok (), h)
  | f :: rest => andThen (h.change f) fun _ h => h.changeAll rest

/-- Run the schedule and draw, so many times. -/
def drawFrames [Canvas β] [TextureLoader β] (h : Host β) : Nat → Except Error Unit × Host β
  | 0 => (.ok (), h)
  | n + 1 => andThen h.runSchedule.renderPass fun _ h => h.drawFrames n

end Host

namespace Program

/-! ### The scene -/

/-- A solid sprite of the scene. -/
structure Block where
  name : String
  width : Int32
  height : Int32
  color : Color

/-- The sprites of the scene. -/
def blocks (screen : ScreenSize) : List Block :=
  [⟨"background", screen.width, screen.height, ⟨32, 32, 48, 255⟩⟩,
    ⟨"panel", 240, 160, ⟨64, 96, 144, 255⟩⟩,
    ⟨"marker", 16, 16, ⟨240, 192, 32, 255⟩⟩]

/-- The directives that place the sprites: a name, a destination and a line. -/
def placements : List (String × Nat × String) :=
  [("panel", 0, "centerIn 0 0 100%w 100%h"),
    ("marker", 0, "centerInSprite panel"),
    ("marker", 0, "addDestination 0 0"),
    ("marker", 1, "setOrigin screenWidth-24 screenHeight-24")]

/-- What is drawn, from back to front. -/
def layers : List (String × Nat) :=
  [("background", 0), ("panel", 0), ("marker", 0), ("marker", 1)]

/-- Make solid sprites in order. -/
def makeBlocks (h : Host Recorder) : List Block → Except Error Unit × Host Recorder
  | [] => (.ok (), h)
  | b :: rest =>
      Host.andThen (h.createFromRectangle b.name b.width b.height b.color) fun _ h =>
        makeBlocks h rest

/-- Make the scene on an empty stage. -/
def makeScene (h : Host Recorder) : Except Error Unit × Host Recorder :=
  Host.andThen (makeBlocks h (blocks h.stage.screen)) fun _ h =>
    h.changeAll
      (placements.map (fun (name, i, line) => fun s => s.direct name i line) ++
        layers.map (fun (name, i) => fun s => (s.append name i).map Prod.snd))

/-- Make the scene and apply the directives of a command line. -/
def setUp (h : Host Recorder) (request : CommandLine.Request) : Except Error Unit × Host Recorder :=
  Host.andThen (makeScene h) fun _ h =>
    h.changeAll
      (request.apply.map (fun a => fun s => s.direct a.name 0 a.directive) ++
        request.queue.map (fun a => fun s => s.directQueue a.name 0 a.directive))

/-! ### Running -/

/-- The path of the settings file of a command line. -/
def settingsPath (request : CommandLine.Request) : String :=
  request.config.getD DisplaySettings.standard.path

/-- The settings after reading their file; what was set before a load went wrong stays set. -/
def settings (file : Except Disk.Fault String) : DisplaySettings :=
  (DisplaySettings.standard.loadRead file).2

/-- The number of frames to draw; there is always one. -/
def frameCount (request : CommandLine.Request) : Nat := max 1 (request.frames.getD 0)

/-- Set up, draw, note the draw calls of the last frame and clear the stage. -/
def perform (request : CommandLine.Request) (c : DisplaySettings) :
    Except Error (List DrawCall) × Host Recorder :=
  Host.andThen (setUp (.new c.title c.screenSize Recorder.new) request) fun _ h =>
    Host.andThen (h.drawFrames (frameCount request)) fun _ h =>
      match h.stage.drawCalls with
      | .error e => (.error e, h)
      | .ok calls => (.ok calls, h.clear)

/-- What a run prints and how it ends. -/
structure Report where
  status : UInt32
  output : String
  errors : String
  deriving DecidableEq, Repr

/-- The name and the version of the program. -/
def versionText : String := "spritequeue 0.1.0\n"

/-- What the program does and takes. -/
def helpText : String :=
  "Render queue and sprite directive playground\n\nUsage: spritequeue [OPTIONS]\n\nOptions:\n" ++
  "      --config <PATH>           INI file with a [display] section " ++
  "[default: ./config.ini]\n" ++
  "      --frames <FRAMES>         Frames to render. 0 renders until the window is closed; " ++
  "headless builds always render at least one frame [default: 0]\n" ++
  "      --apply <NAME=DIRECTIVE>  Apply a sprite directive before rendering, e.g. " ++
  "`--apply \"panel=centerIn 0 0 100%w 100%h\"`. Repeatable\n" ++
  "      --queue <NAME=DIRECTIVE>  Apply a render queue directive before rendering, e.g. " ++
  "`--queue \"marker=moveBefore panel\"`. Repeatable\n" ++
  "      --dump-frame              Print the draw calls of the last frame as JSON\n" ++
  "  -h, --help                    Print help\n" ++
  "  -V, --version                 Print version\n"

/-- What a terminal shows of a refused command line. -/
def refusal (fault : CommandLine.Fault) : String :=
  Text.paint [.bold, .red] "error:" ++ " " ++ fault.message ++ "\n\n" ++
    s!"For more information, try '{Text.paint [.bold] CommandLine.Switch.help.usage}'.\n"

/-- The report of a command line that makes no request. No terminal is taken for granted, so its
errors are plain. -/
def respond : CommandLine.Stop → Report
  | .fault fault => ⟨2, "", Text.plain (refusal fault)⟩
  | .help => ⟨0, helpText, ""⟩
  | .version => ⟨0, versionText, ""⟩

/-- The draw calls of a frame as a JSON text. -/
def frameText (calls : List DrawCall) : String :=
  (JsonValue.array (calls.map DrawCall.toJson)).pretty ++ "\n"

/-- Run the program, with what reading the settings file gave. -/
def run (request : CommandLine.Request) (file : Except Disk.Fault String) : Report :=
  match (perform request (settings file)).1 with
  | .error e => ⟨1, "", s!"Error: {e.message}\n"⟩
  | .ok calls => ⟨0, if request.dumpFrame then frameText calls else "", ""⟩

end Program

end SpriteStage
