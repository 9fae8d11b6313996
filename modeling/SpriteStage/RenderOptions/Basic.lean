/-!
# Render options

How a destination is drawn: a set of flags, kept as 32 bits of which eleven have a meaning.

* `Flag` names the bits, `Flag.all` lists them from the lowest; some flags belong to an exclusive
  `Group`, rotation or blending;
* `RenderOptions` is the set; bits without a meaning are kept as they are;
* `ofKeywords` reads a list of keywords and refuses two different flags of one group.
-/

namespace SpriteStage

/-- One way of drawing. -/
inductive Flag
  | colorMod
  | alphaMod
  | flipH
  | flipV
  | rotate90
  | rotate180
  | rotate270
  | blendNone
  | blendAlpha
  | blendAdd
  | blendMod
  deriving DecidableEq, Repr

/-- Flags of one group exclude each other. -/
inductive Group
  | rotation
  | blending
  deriving DecidableEq, Repr

/-- What a destination asks of blending. -/
inductive BlendMode
  | none
  | alpha
  | additive
  | multiplied
  deriving DecidableEq, Repr

namespace Flag

/-- Every flag, from the lowest bit to the highest. -/
def all : List Flag :=
  [colorMod, alphaMod, flipH, flipV, rotate90, rotate180, rotate270,
    blendNone, blendAlpha, blendAdd, blendMod]

theorem mem_all (f : Flag) : f ∈ all := by cases f <;> decide

/-- The position of the bit. -/
def index : Flag → Nat
  | colorMod => 0
  | alphaMod => 1
  | flipH => 2
  | flipV => 3
  | rotate90 => 4
  | rotate180 => 5
  | rotate270 => 6
  | blendNone => 7
  | blendAlpha => 8
  | blendAdd => 9
  | blendMod => 10

theorem index_injective {f g : Flag} (h : f.index = g.index) : f = g := by
  revert h
  cases f <;> cases g <;> decide

/-- The word with only this bit. -/
def bit (f : Flag) : UInt32 := 1 <<< UInt32.ofNat f.index

/-- The group of flags this one excludes. -/
def group? : Flag → Option Group
  | rotate90 | rotate180 | rotate270 => some .rotation
  | blendNone | blendAlpha | blendAdd | blendMod => some .blending
  | _ => none

/-- The word for the flag in directives. -/
def keyword : Flag → String
  | colorMod => "colormod"
  | alphaMod => "alphamod"
  | flipH => "flip-h"
  | flipV => "flip-v"
  | rotate90 => "rotate-90"
  | rotate180 => "rotate-180"
  | rotate270 => "rotate-270"
  | blendNone => "blend-none"
  | blendAlpha => "blend-alpha"
  | blendAdd => "blend-add"
  | blendMod => "blend-mod"

/-- The flag of a keyword. -/
def ofKeyword? (word : String) : Option Flag := all.find? (·.keyword == word)

end Flag

/-- A set of flags as its bits. -/
structure RenderOptions where
  bits : UInt32
  deriving DecidableEq, Repr

namespace RenderOptions

/-- No flag at all. -/
def empty : RenderOptions := ⟨0⟩

/-- Whether a flag is set. -/
def has (o : RenderOptions) (f : Flag) : Bool := o.bits &&& f.bit != 0

/-- Set a flag. -/
def insert (o : RenderOptions) (f : Flag) : RenderOptions := ⟨o.bits ||| f.bit⟩

/-- The set of the flags of a list. -/
def ofFlags (fs : List Flag) : RenderOptions := fs.foldl insert empty

/-- The flags that are set, from the lowest bit to the highest. -/
def flags (o : RenderOptions) : List Flag := Flag.all.filter o.has

/-- Whether some flag of a group is set. -/
def hasGroup (o : RenderOptions) (g : Group) : Bool := o.flags.any (·.group? == some g)

/-- The bits that no flag stands for. -/
def unknownBits (o : RenderOptions) : UInt32 := o.bits &&& ~~~ (ofFlags Flag.all).bits

@[simp] theorem has_empty (f : Flag) : empty.has f = false := by cases f <;> decide

/-! ### Meaning -/

/-- Clockwise degrees; of several rotations the smallest counts. -/
def rotation (o : RenderOptions) : Nat :=
  if o.has .rotate90 then 90
  else if o.has .rotate180 then 180
  else if o.has .rotate270 then 270
  else 0

/-- The requested blending; the alpha channel of the color asks for alpha blending too. -/
def blendMode (o : RenderOptions) : BlendMode :=
  if o.has .blendAdd then .additive
  else if o.has .blendMod then .multiplied
  else if o.has .blendAlpha || o.has .alphaMod then .alpha
  else .none

/-! ### Keywords -/

/-- The keywords of the flags, with `default` for the empty set. -/
def describe (o : RenderOptions) : String :=
  if o = empty then "default" else " ".intercalate (o.flags.map Flag.keyword)

/-- The set of one keyword. -/
def ofKeyword? (word : String) : Option RenderOptions :=
  if word = "default" then some empty else (Flag.ofKeyword? word).map empty.insert

/-- Why a list of keywords is refused. -/
inductive Refusal
  /-- A word outside the vocabulary. -/
  | unknown (word : String)
  /-- A word for another flag of a group that is already taken. -/
  | conflict (word : String) (earlier : RenderOptions)
  deriving DecidableEq, Repr

/-- Whether another flag of the same group is set. -/
def Conflicts (o : RenderOptions) (f : Flag) : Prop :=
  o.has f = false ∧ ∃ g, f.group? = some g ∧ o.hasGroup g = true

instance (o : RenderOptions) (f : Flag) : Decidable (o.Conflicts f) :=
  match h : f.group? with
  | none => isFalse fun ⟨_, _, hg, _⟩ => by simp [h] at hg
  | some g =>
      if hc : o.has f = false ∧ o.hasGroup g = true then
        isTrue ⟨hc.1, g, h, hc.2⟩
      else
        isFalse fun ⟨hf, g', hg, ho⟩ => by
          rw [h] at hg
          cases hg
          exact hc ⟨hf, ho⟩

/-- Add the flag of a keyword. -/
def addKeyword (o : RenderOptions) (word : String) : Except Refusal RenderOptions :=
  if word = "default" then .ok o
  else match Flag.ofKeyword? word with
    | none => .error (.unknown word)
    | some f => if o.Conflicts f then .error (.conflict word o) else .ok (o.insert f)

/-- The union of the flags of the keywords; the first offending word from the left is reported. -/
def ofKeywords (words : List String) : Except Refusal RenderOptions :=
  words.foldlM addKeyword empty

@[simp] theorem ofKeywords_nil : ofKeywords [] = .ok empty := rfl

end RenderOptions

end SpriteStage
