/-!
# Pieces of a text

A text is cut at every separator, at every line end, or once at the first character of a kind.

* `pieces` stand between separators, so there is one piece more than there are separators;
* `lines` stand before line ends, a line end being a line feed with the carriage return right
  before it, if any; the last line need not be ended;
* `cut` gives the two sides of the first such character and leaves the character out.
-/

namespace SpriteStage.Text

/-! ### Between separators -/

/-- The pieces of a text between the separators `c`. -/
def pieces (c : Char) : List Char → List (List Char)
  | [] => [[]]
  | d :: ds =>
      if d = c then [] :: pieces c ds
      else match pieces c ds with
        | [] => [[d]]
        | p :: ps => (d :: p) :: ps

@[simp] theorem pieces_nil (c : Char) : pieces c [] = [[]] := rfl

@[simp] theorem pieces_separator (c : Char) (ds : List Char) :
    pieces c (c :: ds) = [] :: pieces c ds := by
  simp [pieces]

theorem pieces_ne_nil (c : Char) (ds : List Char) : pieces c ds ≠ [] := by
  cases ds with
  | nil => simp
  | cons d ds =>
      rw [pieces]
      split
      · simp
      · split <;> simp

/-- A text without a separator is its only piece. -/
theorem pieces_of_not_mem {c : Char} {ds : List Char} (h : c ∉ ds) : pieces c ds = [ds] := by
  induction ds with
  | nil => rfl
  | cons d ds ih =>
      obtain ⟨hd, hds⟩ := List.ne_and_not_mem_of_not_mem_cons h
      simp [pieces, ih hds, hd.symm]

theorem pieces_eq_splitOn (c : Char) (ds : List Char) : pieces c ds = ds.splitOn c := by
  induction ds with
  | nil => rfl
  | cons d ds ih =>
    have hcons : (d :: ds).splitOn c =
        if d = c then [] :: ds.splitOn c else (ds.splitOn c).modifyHead (d :: ·) := by
      simp [List.splitOn, List.splitOnP_cons_eq_if_modifyHead]
    rw [hcons, pieces, ih]
    obtain ⟨p, ps, hp⟩ := List.exists_cons_of_ne_nil (ih ▸ pieces_ne_nil c ds)
    rw [hp, List.modifyHead_cons]

/-! ### Lines -/

/-- The lines of a text, without their ends. -/
def lineChars : List Char → List (List Char)
  | [] => []
  | '\n' :: cs => [] :: lineChars cs
  | '\r' :: '\n' :: cs => [] :: lineChars cs
  | c :: cs =>
      match lineChars cs with
      | [] => [[c]]
      | l :: ls => (c :: l) :: ls

/-- The lines of a text, without their ends. -/
def lines (s : String) : List String := (lineChars s.toList).map String.ofList

@[simp] theorem lineChars_nil : lineChars [] = [] := rfl

@[simp] theorem lineChars_newline (cs : List Char) :
    lineChars ('\n' :: cs) = [] :: lineChars cs := rfl

/-! ### Cutting once -/

/-- The text before the first character that satisfies `p`, and the text after it. -/
def cutChars (p : Char → Bool) (cs : List Char) : Option (List Char × List Char) :=
  match cs.dropWhile (fun c => !p c) with
  | [] => none
  | _ :: rest => some (cs.takeWhile (fun c => !p c), rest)

/-- The text before the first `c`, and the text after it. -/
def cut (c : Char) (s : String) : Option (String × String) :=
  (cutChars (· == c) s.toList).map fun (before, after) =>
    (String.ofList before, String.ofList after)

@[simp] theorem cutChars_nil (p : Char → Bool) : cutChars p [] = none := rfl

end SpriteStage.Text
