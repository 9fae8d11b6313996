/-!
# Blanks and words

Blanks are the characters that carry the Unicode property `White_Space`.

* `isBlank` is the property, `trim` removes blanks at both ends;
* `words` are the maximal runs of characters that are not blank.
-/

namespace SpriteStage.Text

/-- The Unicode property `White_Space`. -/
def isBlank (c : Char) : Bool :=
  let n := c.toNat
  (9 ≤ n && n ≤ 13) || n == 0x20 || n == 0x85 || n == 0xA0 || n == 0x1680 ||
    (0x2000 ≤ n && n ≤ 0x200A) || n == 0x2028 || n == 0x2029 || n == 0x202F ||
    n == 0x205F || n == 0x3000

/-- No digit is a blank. -/
theorem isBlank_of_isDigit {c : Char} (h : c.isDigit = true) : isBlank c = false := by
  obtain ⟨hlow, hhigh⟩ : 48 ≤ c.toNat ∧ c.toNat ≤ 57 := by
    simpa [Char.isDigit, UInt32.le_iff_toNat_le] using h
  simp [isBlank]
  omega

/-! ### Trimming -/

/-- Remove the blanks at both ends. -/
def trimChars (cs : List Char) : List Char :=
  (((cs.dropWhile isBlank).reverse).dropWhile isBlank).reverse

/-- Remove the blanks at both ends. -/
def trim (s : String) : String := String.ofList (trimChars s.toList)

@[simp] theorem trimChars_nil : trimChars [] = [] := rfl

@[simp] theorem toList_trim (s : String) : (trim s).toList = trimChars s.toList := by
  simp [trim]

theorem dropWhile_isBlank_append {cs rest : List Char} (hcs : ∀ c ∈ cs, isBlank c = true)
    (hrest : ∀ c ∈ rest, isBlank c = false) : (cs ++ rest).dropWhile isBlank = rest := by
  rw [List.dropWhile_append_of_pos hcs]
  cases rest with
  | nil => rfl
  | cons c rest => rw [List.dropWhile_cons_of_neg (by simp [hrest c])]

/-- Only the blanks at the ends go. -/
theorem trimChars_append {lead cs trail : List Char} (hlead : ∀ c ∈ lead, isBlank c = true)
    (hcs : ∀ c ∈ cs, isBlank c = false) (htrail : ∀ c ∈ trail, isBlank c = true) :
    trimChars (lead ++ cs ++ trail) = cs := by
  have hback : (cs ++ trail).reverse.dropWhile isBlank = cs.reverse := by
    rw [List.reverse_append]
    exact dropWhile_isBlank_append (by simpa using htrail) (by simpa using hcs)
  unfold trimChars
  rw [List.append_assoc, List.dropWhile_append_of_pos hlead]
  cases cs with
  | nil =>
    have htrail' : (trail ++ []).dropWhile isBlank = [] :=
      dropWhile_isBlank_append htrail (by simp)
    rw [List.append_nil] at htrail'
    rw [List.nil_append, htrail']
    rfl
  | cons c cs =>
    rw [List.cons_append, List.dropWhile_cons_of_neg (by simp [hcs c])]
    rw [List.cons_append] at hback
    rw [hback, List.reverse_reverse]

/-! ### Words -/

/-- The maximal runs of characters that are not blank, in order. -/
def wordChars : List Char → List (List Char)
  | [] => []
  | c :: cs =>
      if isBlank c then wordChars cs
      else match cs with
        | [] => [[c]]
        | d :: _ =>
            if isBlank d then [c] :: wordChars cs
            else match wordChars cs with
              | [] => [[c]]
              | w :: ws => (c :: w) :: ws

/-- The words of a text, in order. -/
def words (s : String) : List String := (wordChars s.toList).map String.ofList

@[simp] theorem wordChars_nil : wordChars [] = [] := rfl

theorem wordChars_cons (c : Char) (cs : List Char) :
    wordChars (c :: cs) =
      if isBlank c then wordChars cs
      else match cs with
        | [] => [[c]]
        | d :: _ =>
            if isBlank d then [c] :: wordChars cs
            else match wordChars cs with
              | [] => [[c]]
              | w :: ws => (c :: w) :: ws := by
  cases cs <;> rfl

theorem wordChars_blank {c : Char} (h : isBlank c = true) (cs : List Char) :
    wordChars (c :: cs) = wordChars cs :=
  (wordChars_cons c cs).trans (if_pos h)

/-- A word goes as far as the first blank or the end. -/
theorem wordChars_append {w rest : List Char} (hw : ∀ c ∈ w, isBlank c = false) (hne : w ≠ [])
    (hrest : ∀ c ∈ rest.head?, isBlank c = true) :
    wordChars (w ++ rest) = w :: wordChars rest := by
  induction w with
  | nil => exact absurd rfl hne
  | cons c w ih =>
    have hc := hw c List.mem_cons_self
    cases w with
    | nil =>
      cases rest with
      | nil => simp [wordChars_cons, hc]
      | cons b rest =>
        rw [List.singleton_append, wordChars_cons]
        simp [hc, hrest b rfl]
    | cons d w =>
      have hd := hw d (by simp)
      have htail := ih (fun a ha => hw a (List.mem_cons_of_mem c ha)) (by simp)
      rw [List.cons_append] at htail ⊢
      rw [List.cons_append, wordChars_cons]
      simp [hc, hd, htail]

end SpriteStage.Text
