import SpriteStage.Number.Unsigned
import SpriteStage.Text.Blank
import SpriteStage.Text.Pieces
import SpriteStage.Text.Terminal

/-!
# Command lines

The arguments of the program, read from left to right.

* a parameter takes the rest of its argument after `=`, or the next argument, which may not look
  like a parameter itself; its value is checked when the next parameter or switch is met or at the
  end;
* an argument that is nothing known, or a switch with a value, is reported at once, before a value
  still to be checked;
* `--config` and `--frames` take one value, `--apply` and `--queue` may come several times;
* `--help` and `--version` end the reading where they stand.
-/

namespace SpriteStage.CommandLine

/-- A sprite's name with a directive for it. -/
structure Assignment where
  name : String
  directive : String
  deriving DecidableEq, Repr

/-- The parameters that take a value. -/
inductive Parameter
  | config
  | frames
  | apply
  | queue
  deriving DecidableEq, Repr

/-- The parameters without a value. -/
inductive Switch
  | dumpFrame
  | help
  | version
  deriving DecidableEq, Repr

/-- What a command line asks for. -/
structure Request where
  config : Option String
  frames : Option Nat
  apply : List Assignment
  queue : List Assignment
  dumpFrame : Bool
  deriving DecidableEq, Repr

/-- Why a command line is refused. -/
inductive Fault
  | unexpected (argument : String)
  | missingValue (p : Parameter)
  | invalidValue (p : Parameter) (value reason : String)
  | repeated (argument : String)
  | unneededValue (s : Switch) (value : String)
  deriving DecidableEq, Repr

/-- Why a command line makes no request. -/
inductive Stop
  | fault (f : Fault)
  | help
  | version
  deriving DecidableEq, Repr

/-- Every parameter. -/
def Parameter.all : List Parameter := [config, frames, apply, queue]

/-- The word of a parameter, after its dashes. -/
def Parameter.word : Parameter → String
  | config => "config"
  | frames => "frames"
  | apply => "apply"
  | queue => "queue"

/-- What a parameter takes. -/
def Parameter.placeholder : Parameter → String
  | config => "PATH"
  | frames => "FRAMES"
  | apply | queue => "NAME=DIRECTIVE"

/-- A parameter with what it takes. -/
def Parameter.usage (p : Parameter) : String := s!"--{p.word} <{p.placeholder}>"

/-- Every switch. -/
def Switch.all : List Switch := [dumpFrame, help, version]

/-- The word of a switch, after its dashes. -/
def Switch.word : Switch → String
  | dumpFrame => "dump-frame"
  | help => "help"
  | version => "version"

/-- A switch with its dashes. -/
def Switch.usage (s : Switch) : String := s!"--{s.word}"

/-- The letter of a switch, after a single dash. -/
def Switch.letter? : Switch → Option Char
  | dumpFrame => none
  | help => some 'h'
  | version => some 'V'

/-- The switch with a letter. -/
def Switch.ofLetter? (c : Char) : Option Switch := all.find? (·.letter? == some c)

/-! ### Wording -/

/-- A text as a terminal shows what is wrong. -/
def wrong (s : String) : String := Text.paint [.yellow] s

/-- A text as a terminal shows what is expected. -/
def expected (s : String) : String := Text.paint [.bold] s

/-- The wording of a fault for a terminal. -/
def Fault.message : Fault → String
  | .unexpected argument => s!"unexpected argument '{wrong argument}' found"
  | .missingValue p => s!"a value is required for '{wrong p.usage}' but none was supplied"
  | .invalidValue p value reason =>
      s!"invalid value '{wrong value}' for '{expected p.usage}': {reason}"
  | .repeated argument => s!"the argument '{wrong argument}' cannot be used multiple times"
  | .unneededValue s value =>
      s!"unexpected value '{wrong value}' for '{expected s.usage}' found; no more were expected"

/-! ### Values -/

/-- Read a name and a directive around the first equals sign; blanks around the name do not
count. -/
def readAssignment (value : String) : Except String Assignment :=
  match Text.cut '=' value with
  | none => .error s!"expected NAME=DIRECTIVE, got '{value}'"
  | some (name, directive) =>
      if Text.trim name = "" then .error s!"missing sprite name in '{value}'"
      else .ok ⟨Text.trim name, directive⟩

/-- Take the value of a parameter. -/
def Request.take (r : Request) (p : Parameter) (value : String) : Except Fault Request :=
  match p with
  | .config =>
      if r.config.isSome then .error (.repeated p.usage)
      else if value = "" then .error (.missingValue p)
      else .ok { r with config := some value }
  | .frames =>
      if r.frames.isSome then .error (.repeated p.usage)
      else match Unsigned.read 10 18446744073709551615 value.toList with
        | .ok n => .ok { r with frames := some n }
        | .error fault => .error (.invalidValue p value fault.message)
  | .apply =>
      match readAssignment value with
      | .ok a => .ok { r with apply := r.apply ++ [a] }
      | .error reason => .error (.invalidValue p value reason)
  | .queue =>
      match readAssignment value with
      | .ok a => .ok { r with queue := r.queue ++ [a] }
      | .error reason => .error (.invalidValue p value reason)

/-! ### Arguments -/

/-- What was read so far, and a parameter whose value is missing or still to be checked. -/
structure Progress where
  request : Request
  pending : Option (Parameter × Option String)

/-- Check the value that waits. -/
def Progress.settle (g : Progress) : Except Fault Request :=
  match g.pending with
  | none => .ok g.request
  | some (p, none) => .error (.missingValue p)
  | some (p, some value) => g.request.take p value

/-- What an argument looks like. -/
inductive Shape
  /-- Two dashes: no parameter comes after this. -/
  | endOfParameters
  /-- Two dashes and a word, with a value after an equals sign or not. -/
  | long (word : String) (value : Option String)
  /-- One dash and a letter; what follows the letter does not count, as no switch with a letter
  lets the reading go on. -/
  | short (letter : Char)
  | plain
  deriving DecidableEq, Repr

/-- The shape of an argument. -/
def shape (argument : String) : Shape :=
  match argument.toList with
  | ['-', '-'] => .endOfParameters
  | '-' :: '-' :: cs =>
      match Text.cutChars (· == '=') cs with
      | some (word, value) => .long (String.ofList word) (some (String.ofList value))
      | none => .long (String.ofList cs) none
  | '-' :: c :: _ => .short c
  | _ => .plain

/-- Act on a switch, after the value that waits. -/
def Progress.meet (g : Progress) (s : Switch) : Except Stop Progress := do
  let request ← g.settle.mapError .fault
  match s with
  | .dumpFrame =>
      if request.dumpFrame then .error (.fault (.repeated s.usage))
      else return ⟨{ request with dumpFrame := true }, none⟩
  | .help => .error .help
  | .version => .error .version

/-- Begin a parameter, after the value that waits. -/
def Progress.begin (g : Progress) (p : Parameter) (value : Option String) :
    Except Fault Progress := do
  let request ← g.settle
  match value with
  | some v => return ⟨← request.take p v, none⟩
  | none => return ⟨request, some (p, none)⟩

/-- Read an argument of two dashes and a word. -/
def Progress.readLong (g : Progress) (word : String) (value : Option String) :
    Except Stop Progress :=
  match Parameter.all.find? (·.word == word), Switch.all.find? (·.word == word), value with
  | some p, _, value => (g.begin p value).mapError .fault
  | none, some s, none => g.meet s
  | none, some s, some v => .error (.fault (.unneededValue s v))
  | none, none, _ => .error (.fault (.unexpected s!"--{word}"))

/-- Read the arguments that follow. -/
def Progress.read (g : Progress) : List String → Except Stop Request
  | [] => g.settle.mapError .fault
  | argument :: rest =>
      match shape argument with
      | .endOfParameters =>
          match rest with
          | [] => g.settle.mapError .fault
          | next :: _ => .error (.fault (.unexpected next))
      | .long word value => do (← g.readLong word value).read rest
      | .short letter =>
          match Switch.ofLetter? letter with
          | some s => do (← g.meet s).read rest
          | none => .error (.fault (.unexpected s!"-{letter}"))
      | .plain =>
          match g.pending with
          | some (p, none) => Progress.read { g with pending := some (p, some argument) } rest
          | _ => .error (.fault (.unexpected argument))

/-- Read a command line. -/
def parse (arguments : List String) : Except Stop Request :=
  Progress.read ⟨⟨none, none, [], [], false⟩, none⟩ arguments

@[simp] theorem parse_nil : parse [] = .ok ⟨none, none, [], [], false⟩ := rfl

end SpriteStage.CommandLine
