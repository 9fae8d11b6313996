import SpriteStage.Text.Blank
import SpriteStage.Text.Pieces

/-!
# INI texts

A text of sections, each with keys and values.

* a line is cut at the first `;` or `#`, and blanks around it do not count;
* `[name]` opens a section, the name reaching to the last closing bracket of the line;
* any other line is a key with a value after the first `=` or `:`, or a key alone;
* names and keys are compared without regard to the case of ASCII letters, and the last value of
  a key counts.
-/

namespace SpriteStage.Ini

/-- A key of a section, with its value if it has one. -/
structure Entry where
  heading : String
  key : String
  value : Option String
  deriving DecidableEq, Repr

/-- Why a text is no INI text; lines count from one. -/
inductive Fault
  | unclosedSection (line : Nat)
  | emptyKey (line : Nat)
  deriving DecidableEq, Repr

/-- The wording of a fault; an empty key stands in column zero. -/
def Fault.message : Fault → String
  | .unclosedSection line =>
      s!"line {line}: Found opening bracket for section name but no closing bracket"
  | .emptyKey line => s!"line {line}:0: Key cannot be empty"

/-! ### Reading -/

/-- What starts a comment. -/
def isCommentMark (c : Char) : Bool := c == ';' || c == '#'

/-- What stands between a key and its value. -/
def isDelimiter (c : Char) : Bool := c == '=' || c == ':'

/-- The section of the keys before the first heading. -/
def defaultHeading : String := "default"

/-- A name with its ASCII letters in lower case. -/
def folded (cs : List Char) : String := String.ofList (cs.map Char.toLower)

/-- The part of a line that counts. -/
def content (line : List Char) : List Char :=
  Text.trimChars (line.takeWhile fun c => !isCommentMark c)

/-- The name of a heading, from what follows its opening bracket. -/
def heading? (cs : List Char) : Option String :=
  match cs.reverse.dropWhile (· != ']') with
  | [] => none
  | _ :: name => some (folded (Text.trimChars name.reverse))

/-- What a line stands for. -/
inductive Line
  | blank
  | heading (name : String)
  | entry (key : String) (value : Option String)
  deriving DecidableEq, Repr

/-- Read the line of a number. -/
def readLine (number : Nat) (line : List Char) : Except Fault Line :=
  match content line with
  | [] => .ok .blank
  | '[' :: rest =>
      match heading? rest with
      | none => .error (.unclosedSection number)
      | some name => .ok (.heading name)
  | cs =>
      match Text.cutChars isDelimiter cs with
      | none => .ok (.entry (folded cs) none)
      | some (key, value) =>
          match Text.trimChars key with
          | [] => .error (.emptyKey number)
          | key => .ok (.entry (folded key) (some (String.ofList (Text.trimChars value))))

/-- The entries of the lines from a number on, below a heading. -/
def readLines (heading : String) (number : Nat) :
    List (List Char) → Except Fault (List Entry)
  | [] => .ok []
  | line :: rest => do
      match ← readLine number line with
      | .blank => readLines heading (number + 1) rest
      | .heading name => readLines name (number + 1) rest
      | .entry key value => return ⟨heading, key, value⟩ :: (← readLines heading (number + 1) rest)

/-- The entries of a text, in order. -/
def parse (text : String) : Except Fault (List Entry) :=
  readLines defaultHeading 1 (Text.lineChars text.toList)

/-- The value of a key of a section: the last one given, which may be a key alone. -/
def value? (entries : List Entry) (heading key : String) : Option String :=
  (entries.reverse.find? fun e => e.heading == heading && e.key == key).bind (·.value)

@[simp] theorem parse_empty : parse "" = .ok [] := rfl

@[simp] theorem value?_nil (heading key : String) : value? [] heading key = none := rfl

/-! ### Writing -/

/-- The text of one section. -/
def print (heading : String) (pairs : List (String × String)) : String :=
  "[" ++ heading ++ "]\n" ++
    String.join (pairs.map fun (key, value) => key ++ "=" ++ value ++ "\n")

end SpriteStage.Ini
