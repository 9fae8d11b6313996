/-!
# Terminal text

Text with escape sequences for a terminal, and what is left of it for a reader without one.

* `paint` puts a text between an escape sequence that sets a style and the one that resets it;
* `plain` removes every escape sequence and every control character that is no blank, whether
  `paint` wrote it or the text brought it along.

The sequences are those of the VT terminals: an escape character opens one wherever it stands, and
cancel and substitute characters close any.
-/

namespace SpriteStage.Text

/-! ### Sequences -/

/-- Where a reader of terminal text stands. -/
inductive TerminalMode
  /-- Outside every sequence. -/
  | ground
  /-- After an escape character. -/
  | escape
  /-- In a sequence that one final character closes. -/
  | intermediate
  /-- In a control sequence, opened by `[`. -/
  | control
  /-- In an operating system command, opened by `]`: a window title, a link. -/
  | command
  /-- In a device control string, opened by `P`: at its start, -/
  | device
  /-- in its parameters, -/
  | deviceParameters
  /-- and after them. -/
  | deviceIntermediate
  /-- In a text that only a string terminator closes. -/
  | string
  deriving DecidableEq, Repr

namespace TerminalMode

/-- Whether a character stands in a range of codes. -/
def within (first last : Nat) (c : Char) : Bool := first ≤ c.toNat && c.toNat ≤ last

/-- The mode after a character that is not shown. -/
def next (m : TerminalMode) (c : Char) : TerminalMode :=
  if c = '\x18' || c = '\x1a' then ground
  else if c = '\x1b' then escape
  else match m with
    | ground => ground
    | escape =>
        if within 0x20 0x2f c then intermediate
        else if c = '[' then control
        else if c = ']' then command
        else if c = 'P' then device
        else if c = 'X' || c = '^' || c = '_' then string
        else if within 0x30 0x7e c then ground
        else escape
    | intermediate => if within 0x30 0x7e c then ground else intermediate
    | control => if within 0x40 0x7e c then ground else control
    | command => if c = '\x07' then ground else command
    | device =>
        if within 0x20 0x2f c then deviceIntermediate
        else if within 0x30 0x3f c then deviceParameters
        else if within 0x40 0x7e c then string
        else device
    | deviceParameters =>
        if within 0x20 0x2f c then deviceIntermediate
        else if within 0x3c 0x7e c then string
        else deviceParameters
    | deviceIntermediate => if within 0x30 0x7e c then string else deviceIntermediate
    | string => if (String.utf8EncodeChar c).contains 0x9c then ground else string

/-- Whether blank control characters are shown inside such a sequence. -/
def showsBlanks : TerminalMode → Bool
  | escape | intermediate | control => true
  | ground | command | device | deviceParameters | deviceIntermediate | string => false

end TerminalMode

/-! ### Plain text -/

/-- Whether a character is a control character that moves the place of writing only. -/
def isBlankControl (c : Char) : Bool := c = '\t' || c = '\n' || c = '\x0c' || c = '\r'

/-- Whether a character is shown outside every sequence. -/
def isShown (c : Char) : Bool := isBlankControl c || (0x20 ≤ c.toNat && c.toNat != 0x7f)

/-- What is shown of some characters. A blank control character inside a sequence is shown, and
the text `flows` from there: it is shown up to the next character that is not, where the reading
of the sequence goes on. -/
def plainChars (m : TerminalMode) (flows : Bool) : List Char → List Char
  | [] => []
  | c :: cs =>
      if (m = .ground || flows) && isShown c then
        c :: plainChars (if c.toNat < 0x80 then m else .ground) flows cs
      else if m.showsBlanks && isBlankControl c then c :: plainChars m true cs
      else plainChars (m.next c) false cs

@[simp] theorem plainChars_nil (m : TerminalMode) (flows : Bool) : plainChars m flows [] = [] := rfl

/-- What a reader without a terminal sees of a text. -/
def plain (s : String) : String := String.ofList (plainChars .ground false s.toList)

/-! ### Styles -/

/-- A style of the terminal, by the number that sets it. -/
inductive Style
  | bold
  | red
  | yellow
  deriving DecidableEq, Repr

/-- The number that sets a style. -/
def Style.code : Style → Nat
  | bold => 1
  | red => 31
  | yellow => 33

/-- The sequence that sets a number of the style; zero resets all. -/
def styleSequence (code : Nat) : String := s!"\x1b[{code}m"

/-- A text in some styles. -/
def paint (styles : List Style) (s : String) : String :=
  String.join (styles.map fun style => styleSequence style.code) ++ s ++ styleSequence 0

end SpriteStage.Text
