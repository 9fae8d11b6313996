import SpriteStage.Program

/-!
# The executable

Reads the arguments and the settings file, runs the program and prints its report.
-/

namespace SpriteStage.Program

/-- The text of a file, if it can be read. -/
def textOf (path : String) : IO (Except Disk.Fault String) := do
  try
    match String.fromUTF8? (← IO.FS.readBinFile path) with
    | some text => return .ok text
    | none => return .error .invalidText
  catch _ => return .error .notFound

/-- Print a report. -/
def emit (report : Report) : IO UInt32 := do
  (← IO.getStdout).putStr report.output
  (← IO.getStderr).putStr report.errors
  return report.status

/-- Run the program with arguments. -/
def start (arguments : List String) : IO UInt32 := do
  match CommandLine.parse arguments with
  | .error stop => emit (respond stop)
  | .ok request => emit (run request (← textOf (settingsPath request)))

end SpriteStage.Program

/-- The program. -/
def main (arguments : List String) : IO UInt32 := SpriteStage.Program.start arguments
