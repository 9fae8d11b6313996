import SpriteStage.Proofs.Directive
import SpriteStage.Proofs.Exactness
import SpriteStage.Proofs.Formula.Tree
import SpriteStage.Proofs.Ini
import SpriteStage.Proofs.SettingsRoundTrip

/-!
# The two ways of centring

A destination is centred by the middle of the area or by the space that is left beside it. No
intermediate number is rounded, so both give the corner of exact rational arithmetic, and the
directive that centres in another sprite does what the operation of the cast does.

* `Rect.exactStart`, `Sprite.Centred`, `Sprite.Uncentrable`: centring in rational arithmetic;
* `value?_startOf_middle`, `value?_centredStart`: what both ways compute;
* `Sprite.centerIn_eq`, `Adjustment.apply_centerIn_eq`: both ways as one operation;
* `ValueReader.number_eq_ok_iff`, `index_eq_ok_iff`: the words that are numbers and indices;
* `Cast.readDirective_centring`: what is read from the directive;
* `Cast.centrings_agree`: both ways of centring, and of centring in another sprite.
-/

namespace SpriteStage

/-! ### Exact arithmetic -/

/-- Where a side starts that is centred in a side of an area, in rational arithmetic. -/
def Rect.exactStart (start length side : Int32) : ℤ :=
  nearest ((2 * start.toInt + length.toInt - side.toInt : ℤ) / 2)

/-- A whole number in the range of coordinates. -/
def IsCoordinate (n : ℤ) : Prop := -2147483648 ≤ n ∧ n ≤ 2147483647

theorem coordinate?_eq_some_iff {n : ℤ} {x : Int32} : coordinate? n = some x ↔ x.toInt = n :=
  ⟨toInt_of_coordinate?, fun h => h ▸ coordinate?_toInt x⟩

theorem isCoordinate_iff {n : ℤ} : IsCoordinate n ↔ ∃ x : Int32, x.toInt = n := by
  simp only [← coordinate?_eq_some_iff]
  constructor
  · intro h
    exact ⟨_, if_pos h⟩
  · rintro ⟨x, hx⟩
    unfold coordinate? at hx
    split at hx
    · assumption
    · cases hx

namespace Binary64

variable (start length side : Int32)

theorem value?_two : (ofInt 2).value? = some 2 := by
  exact_mod_cast value?_ofInt (n := 2) (by decide)

theorem natAbs_toInt_le (x : Int32) : x.toInt.natAbs ≤ 2147483648 := by
  have hlow := x.le_toInt
  have hhigh := x.toInt_lt
  omega

/-- From the middle of the area back by half of the side. -/
theorem value?_startOf_middle :
    (Sprite.startOf (Rect.middle start length) side).value? =
      some ((2 * start.toInt + length.toInt - side.toInt : ℤ) / 2 : ℚ) := by
  have hstart := natAbs_toInt_le start
  have hlength := natAbs_toInt_le length
  have hside := natAbs_toInt_le side
  have hhalf (x : Int32) : (ofCoordinate x / ofInt 2).value? = some (x.toInt / 2 : ℚ) := by
    have hx := natAbs_toInt_le x
    exact value?_div (value?_ofCoordinate x) value?_two two_ne_zero
      (representable_of_two_mul (z := x.toInt) (by ring) (by omega))
  have hmiddle : (Rect.middle start length).value? = some (start.toInt + length.toInt / 2 : ℚ) :=
    value?_add (value?_ofCoordinate start) (hhalf length)
      (representable_of_two_mul (z := 2 * start.toInt + length.toInt) (by push_cast; ring)
        (by omega))
  have hvalue : (start.toInt + length.toInt / 2 - side.toInt / 2 : ℚ) =
      (2 * start.toInt + length.toInt - side.toInt : ℤ) / 2 := by
    push_cast
    ring
  rw [← hvalue]
  refine value?_sub hmiddle (hhalf side) ?_
  rw [hvalue]
  exact representable_of_two_mul (by ring) (by omega)

/-- From the start of the area on by half of what the side leaves. -/
theorem value?_centredStart :
    (Adjustment.centredStart (.ofCoordinate start) (.ofCoordinate length) side).value? =
      some ((2 * start.toInt + length.toInt - side.toInt : ℤ) / 2 : ℚ) := by
  have hstart := natAbs_toInt_le start
  have hlength := natAbs_toInt_le length
  have hside := natAbs_toInt_le side
  have hrest : (ofCoordinate length - ofCoordinate side).value? =
      some (length.toInt - side.toInt : ℚ) :=
    value?_sub (value?_ofCoordinate length) (value?_ofCoordinate side)
      (representable_of_two_mul (z := 2 * (length.toInt - side.toInt)) (by push_cast; ring)
        (by omega))
  have hhalf := value?_div hrest value?_two two_ne_zero
    (representable_of_two_mul (z := length.toInt - side.toInt) (by push_cast; ring) (by omega))
  have hvalue : (start.toInt + (length.toInt - side.toInt) / 2 : ℚ) =
      (2 * start.toInt + length.toInt - side.toInt : ℤ) / 2 := by
    push_cast
    ring
  rw [← hvalue]
  refine value?_add (value?_ofCoordinate start) hhalf ?_
  rw [hvalue]
  exact representable_of_two_mul (by ring) (by omega)

end Binary64

/-! ### Outcomes -/

/-- The error for a number without a coordinate near to it. -/
def ValueReader.outOfRange (token : String) : Error := .parse token "value out of integer range"

/-- Two outcomes that are the same, but for the token of a range error. -/
inductive AgreeButRange {α : Type} : Except Error α → Except Error α → Prop
  | same (x : Except Error α) : AgreeButRange x x
  | range (token other : String) :
      AgreeButRange (.error (ValueReader.outOfRange token)) (.error (ValueReader.outOfRange other))

namespace AgreeButRange

variable {α γ : Type} {x y : Except Error α} {f g : α → Except Error γ}

theorem bind (h : AgreeButRange x y) (hf : ∀ a, AgreeButRange (f a) (g a)) :
    AgreeButRange (x >>= f) (y >>= g) := by
  cases h with
  | same x =>
    cases x with
    | error e => exact .same _
    | ok a => exact hf a
  | range token other => exact .range token other

end AgreeButRange

/-! ### Centring a destination -/

namespace Sprite

/-- Destination `i` is centred in an area by exact arithmetic and keeps its size. -/
def Centred (s : Sprite) (i : Nat) (area : Rect) (s' : Sprite) : Prop :=
  ∃ d x y, s.destinations[i]? = some d ∧
    x.toInt = Rect.exactStart area.x area.width d.rect.width ∧
    y.toInt = Rect.exactStart area.y area.height d.rect.height ∧
    s' = { s with destinations := s.destinations.set i { d with rect := d.rect.movedTo x y } }

/-- There is no destination `i`, or its exact corner is out of range. -/
def Uncentrable (s : Sprite) (i : Nat) (area : Rect) : Prop :=
  s.destinations[i]? = none ∨ ∃ d, s.destinations[i]? = some d ∧
    ¬ (IsCoordinate (Rect.exactStart area.x area.width d.rect.width) ∧
      IsCoordinate (Rect.exactStart area.y area.height d.rect.height))

/-- A whole number as a coordinate; `token` is blamed when it is none. -/
def exactCoordinate (token : String) (n : ℤ) : Except Error Int32 :=
  match coordinate? n with
  | some x => .ok x
  | none => .error (ValueReader.outOfRange token)

/-- Centre a destination by exact arithmetic; `token` is blamed when the corner is out of range. -/
def centredExactly (s : Sprite) (token : String) (i : Nat) (area : Rect) :
    Except Error Sprite := do
  let d ← s.get i
  let x ← exactCoordinate token (Rect.exactStart area.x area.width d.rect.width)
  let y ← exactCoordinate token (Rect.exactStart area.y area.height d.rect.height)
  s.setOrigin i x y

variable {s s' : Sprite} {i : Nat} {area : Rect} {token : String}

theorem coordinate_eq_exactCoordinate {a : Binary64} {q : ℚ} (h : a.value? = some q)
    (token : String) : ValueReader.coordinate a token = exactCoordinate token (nearest q) := by
  rw [ValueReader.coordinate, Binary64.toCoordinate?, Binary64.roundToInt?_of_value? h]
  rfl

/-- **Centring by the middle of the area is exact.** -/
theorem centerIn_eq (s : Sprite) (i : Nat) (area : Rect) :
    s.centerIn i area = s.centredExactly s.name i area := by
  have hstart (start length side : Int32) :=
    coordinate_eq_exactCoordinate (Binary64.value?_startOf_middle start length side) s.name
  simp only [centerIn, Rect.center, hstart]
  rfl

theorem exactCoordinate_eq_ok_iff {n : ℤ} {x : Int32} :
    exactCoordinate token n = .ok x ↔ x.toInt = n := by
  rw [← coordinate?_eq_some_iff, exactCoordinate]
  cases coordinate? n <;> simp

theorem centredExactly_eq_ok_iff :
    s.centredExactly token i area = .ok s' ↔ s.Centred i area s' := by
  constructor
  · intro h
    obtain ⟨d, hd, h⟩ := exists_of_bind_eq_ok h
    obtain ⟨x, hx, h⟩ := exists_of_bind_eq_ok h
    obtain ⟨y, hy, h⟩ := exists_of_bind_eq_ok h
    obtain ⟨old, hold, rfl⟩ := modify_eq_ok_iff.1 h
    obtain rfl : d = old := Option.some.inj ((get_eq_ok_iff.1 hd).symm.trans hold)
    exact ⟨d, x, y, hold, exactCoordinate_eq_ok_iff.1 hx, exactCoordinate_eq_ok_iff.1 hy, rfl⟩
  · rintro ⟨d, x, y, hd, hx, hy, rfl⟩
    rw [centredExactly, bind_of_eq_ok (get_eq_ok_iff.2 hd),
      bind_of_eq_ok (exactCoordinate_eq_ok_iff.2 hx), bind_of_eq_ok (exactCoordinate_eq_ok_iff.2 hy)]
    exact modify_eq_ok_iff.2 ⟨d, hd, rfl⟩

theorem exists_centred_iff : (∃ s', s.Centred i area s') ↔ ¬ s.Uncentrable i area := by
  unfold Uncentrable
  cases hd : s.destinations[i]? with
  | none => simp [Centred, hd]
  | some d => simp [Centred, hd, isCoordinate_iff]

theorem centredExactly_eq_error_iff :
    (∃ e, s.centredExactly token i area = .error e) ↔ s.Uncentrable i area := by
  have hok (s' : Sprite) : s.Centred i area s' ↔ s.centredExactly token i area = .ok s' :=
    centredExactly_eq_ok_iff.symm
  rw [← not_iff_not, ← exists_centred_iff]
  simp only [hok]
  cases s.centredExactly token i area <;> simp

theorem agree_exactCoordinate (token other : String) (n : ℤ) :
    AgreeButRange (exactCoordinate token n) (exactCoordinate other n) := by
  unfold exactCoordinate
  split
  · exact .same _
  · exact .range token other

/-- The token only words the range error. -/
theorem agree_centredExactly (token other : String) :
    AgreeButRange (s.centredExactly token i area) (s.centredExactly other i area) :=
  .bind (.same _) fun _ => .bind (agree_exactCoordinate token other _) fun _ =>
    .bind (agree_exactCoordinate token other _) fun _ => .same _

theorem setRect_movedTo {d : Destination} (h : s.get i = .ok d) (x y : Int32) :
    s.setRect i (d.rect.movedTo x y) = s.setOrigin i x y := by
  have hi := lt_of_get h
  rw [setRect, setOrigin, modify_of_lt hi, modify_of_lt hi, List.modify_eq_set_getElem?,
    List.modify_eq_set_getElem?, get_eq_ok_iff.1 h]
  rfl

end Sprite

namespace Adjustment

theorem centredRect_ofRect (area current : Rect) :
    centredRect (.ofRect area) none current = (do
      let x ← Sprite.exactCoordinate Command.centerIn.keyword
        (Rect.exactStart area.x area.width current.width)
      let y ← Sprite.exactCoordinate Command.centerIn.keyword
        (Rect.exactStart area.y area.height current.height)
      return current.movedTo x y) := by
  have hstart (start length side : Int32) :=
    Sprite.coordinate_eq_exactCoordinate (Binary64.value?_centredStart start length side)
      Command.centerIn.keyword
  simp only [centredRect, Area.ofRect, coordinate, hstart]
  rfl

/-- **Centring by the space beside the destination is exact.** -/
theorem apply_centerIn_eq (s : Sprite) (i : Nat) (area : Rect) :
    (centerIn (.ofRect area) none).apply s i =
      s.centredExactly Command.centerIn.keyword i area := by
  simp only [apply, Sprite.centredExactly, centredRect_ofRect]
  cases hd : s.get i with
  | error e => rfl
  | ok d =>
    show ((_ : Except Error Rect) >>= s.setRect i) = _
    simp only [bind_assoc, pure_bind, Sprite.setRect_movedTo hd]
    rfl

end Adjustment

/-! ### Reading the directive -/

namespace Formula

/-- A whole number of moderate size is read exactly. -/
theorem value?_toBinary64 {n : Nat} (hn : n < 2 ^ 52) :
    (Decimal.toBinary64 false ⟨n, 0⟩).value? = some (n : ℚ) := by
  by_cases h : n = 0
  · subst h
    simp [Decimal.toBinary64, Binary64.value?, Binary64.signed]
  · have hfits : Binary64.Representable (n : ℚ) :=
      Binary64.representable_of_two_mul (z := 2 * n) (by push_cast; rfl) (by omega)
    have hround := Binary64.value?_round (m := n) (d := 0) false
    simp only [Binary64.signed, Bool.false_eq_true, if_false, Int.cast_natCast, zpow_zero,
      mul_one] at hround
    simpa [Decimal.toBinary64, h] using hround hfits

/-- Digits stand for their number. -/
theorem plain?_of_digits {cs : List Char} {n : Nat} (h : Decimal.digits? cs = some n)
    (hn : n < 2 ^ 52) : plain? cs = some (Decimal.toBinary64 false ⟨n, 0⟩) := by
  obtain ⟨sign, rest, rfl, hplain⟩ := plain?_eq cs
  obtain ⟨-, hdigit, -⟩ := digits?_eq_some_iff.1 h
  have hsign : sign = none := by
    rcases sign with _ | _ | _
    · rfl
    · exact absurd (hdigit '+' List.mem_cons_self) (by decide)
    · exact absurd (hdigit '-' List.mem_cons_self) (by decide)
  subst hsign
  have hread := read?_of_digits h Decimal.exponent?_nil endsRun_nil
  obtain ⟨s, m, e, hfinite, -⟩ := Binary64.value?_eq_some_iff.1 (value?_toBinary64 hn)
  rw [hplain]
  rw [List.append_nil] at hread
  simp only [Exponent.signText, List.nil_append] at hread
  simp [hread, hfinite]

end Formula

namespace ValueReader

variable {r : ValueReader} {token : String}

/-- **A word is read as the coordinate nearest to its value.** -/
theorem number_eq_ok_iff {x : Int32} : r.number token = .ok x ↔
    ∃ v q, r.value token = .ok v ∧ v.value? = some q ∧ nearest q = x.toInt := by
  have hcoordinate (v : Binary64) : coordinate v token = .ok x ↔
      ∃ q, v.value? = some q ∧ nearest q = x.toInt := by
    rw [← Binary64.roundToInt?_eq_some_iff, coordinate, Binary64.toCoordinate?]
    cases v.roundToInt? with
    | none => simp
    | some n =>
      rw [Option.bind_some, Option.some.injEq, eq_comm (a := n), ← coordinate?_eq_some_iff]
      cases coordinate? n <;> simp
  constructor
  · intro h
    obtain ⟨v, hv, h⟩ := exists_of_bind_eq_ok h
    obtain ⟨q, hq, hx⟩ := (hcoordinate v).1 h
    exact ⟨v, q, hv, hq, hx⟩
  · rintro ⟨v, q, hv, hq, hx⟩
    rw [number, bind_of_eq_ok hv]
    exact (hcoordinate v).2 ⟨q, hq, hx⟩

/-- **A word is an index if the whole number nearest to its value is a coordinate that is not
negative.** -/
theorem index_eq_ok_iff {k : Nat} : r.index token = .ok k ↔
    ∃ v q, r.value token = .ok v ∧ v.value? = some q ∧ nearest q = k ∧ k ≤ 2147483647 := by
  constructor
  · intro h
    obtain ⟨x, hx, h⟩ := exists_of_bind_eq_ok h
    obtain ⟨v, q, hv, hq, hnear⟩ := number_eq_ok_iff.1 hx
    have hlt := x.toInt_lt
    split at h
    · cases h
    · cases h
      exact ⟨v, q, hv, hq, by omega, by omega⟩
  · rintro ⟨v, q, hv, hq, hnear, hk⟩
    have hrange : IsCoordinate (k : ℤ) := ⟨by omega, Int.ofNat_le.2 hk⟩
    obtain ⟨x, hx⟩ := isCoordinate_iff.1 hrange
    rw [index, bind_of_eq_ok (number_eq_ok_iff.2 ⟨v, q, hv, hq, hnear.trans hx.symm⟩)]
    simp [hx]

/-- Digits are read as the index they stand for, up to the greatest coordinate. -/
theorem index_of_digits (r : ValueReader) {k : Nat} (h : Decimal.digits? token.toList = some k)
    (hk : k ≤ 2147483647) : r.index token = .ok k := by
  obtain ⟨hne, hdigit, -⟩ := Formula.digits?_eq_some_iff.1 h
  have htrim := Text.trimChars_of_not_blank fun c hc => Text.isBlank_of_isDigit (hdigit c hc)
  have hvalue : r.value token = .ok (Decimal.toBinary64 false ⟨k, 0⟩) := by
    simp [value, htrim, hne, Formula.plain?_of_digits h (by omega)]
  exact index_eq_ok_iff.2
    ⟨_, k, hvalue, Formula.value?_toBinary64 (by omega), nearest_intCast k, hk⟩

end ValueReader

namespace Cast

variable (c : Cast) (r : ValueReader) {other : String} {k : Nat}

/-- The words of the directive that centres in another sprite. -/
theorem words_centring (hne : other ≠ "")
    (hblank : ∀ ch ∈ other.toList, Text.isBlank ch = false) (k : Nat) :
    Text.words ("centerInSprite " ++ other ++ " " ++ toString k) =
      [centerInSpriteKeyword, other, toString k] := by
  have hdigits := Decimal.digits?_toString k
  generalize toString k = index at hdigits
  obtain ⟨hindex, hdigit, -⟩ := Formula.digits?_eq_some_iff.1 hdigits
  have hother : other.toList ≠ [] := by simpa using hne
  have hline : ("centerInSprite " ++ other ++ " " ++ index).toList =
      centerInSpriteKeyword.toList ++ ' ' :: (other.toList ++ ' ' :: (index.toList ++ [])) := by
    simp [String.toList_append, centerInSpriteKeyword]
  have hkeyword : ∀ ch ∈ centerInSpriteKeyword.toList, Text.isBlank ch = false := by
    simp [centerInSpriteKeyword, Text.isBlank]
  have hspace (cs : List Char) : ∀ ch ∈ (' ' :: cs).head?, Text.isBlank ch = true := by
    simp [Text.isBlank]
  have hblanks : ∀ ch ∈ index.toList, Text.isBlank ch = false := fun c hc =>
    Text.isBlank_of_isDigit (hdigit c hc)
  rw [Text.words, hline, Text.wordChars_append hkeyword (by decide) (hspace _),
    Text.wordChars_blank (by decide), Text.wordChars_append hblank hother (hspace _),
    Text.wordChars_blank (by decide), Text.wordChars_append hblanks hindex (by simp)]
  simp

theorem readDirective_centring (hne : other ≠ "")
    (hblank : ∀ ch ∈ other.toList, Text.isBlank ch = false) (hk : k ≤ 2147483647) :
    c.readDirective r ("centerInSprite " ++ other ++ " " ++ toString k) =
      c.centringIn other k := by
  rw [readDirective, words_centring hne hblank]
  simp only [readCenterInSprite, r.index_of_digits (Decimal.digits?_toString k) hk, if_true]
  rfl

/-- A directive that is read as a centring does what the operation does. -/
theorem agree_direct {line name : String} {i : Nat}
    (h : c.readDirective r line = c.centringIn other k) :
    AgreeButRange (c.direct r name i line) (c.centerInSprite name i other k) := by
  simp only [direct, h, centringIn, centerInSprite, bind_assoc, pure_bind, Sprite.centerIn_eq,
    Adjustment.apply_centerIn_eq]
  exact .bind (.same _) fun id => .bind (.same _) fun target => .bind (.same _) fun area =>
    .bind (Sprite.agree_centredExactly _ _) fun s => .same _

/-- **Both ways of centring agree and are exact.** Neither way rounds before the end. Both succeed
with the corner of exact arithmetic, halves away from zero, and fail for a destination that does not
exist or a corner out of range. So in every cast, whatever the two names lead to, one sprite or two
or none, the directive that centres in another sprite ends as the operation does. -/
theorem centrings_agree :
    (∀ start length side : Int32,
      let exact : ℚ := (2 * start.toInt + length.toInt - side.toInt : ℤ) / 2
      (Sprite.startOf (Rect.middle start length) side).value? = some exact ∧
        (Adjustment.centredStart (.ofCoordinate start) (.ofCoordinate length) side).value? =
          some exact) ∧
      (∀ (area : Rect) (s : Sprite) (i : Nat),
        let first := s.centerIn i area
        let second := (Adjustment.centerIn (.ofRect area) none).apply s i
        (∀ s', first = .ok s' ↔ s.Centred i area s') ∧
          (∀ s', second = .ok s' ↔ s.Centred i area s') ∧
          ((∃ e, first = .error e) ↔ s.Uncentrable i area) ∧
          ((∃ e, second = .error e) ↔ s.Uncentrable i area)) ∧
      ∀ (c : Cast) (r : ValueReader) (name other : String) (i k : Nat), other ≠ "" →
        (∀ ch ∈ other.toList, Text.isBlank ch = false) → k ≤ 2147483647 →
        AgreeButRange (c.direct r name i ("centerInSprite " ++ other ++ " " ++ toString k))
          (c.centerInSprite name i other k) := by
  refine ⟨fun start length side => ?_, fun area s i => ?_, ?_⟩
  · exact ⟨Binary64.value?_startOf_middle start length side,
      Binary64.value?_centredStart start length side⟩
  · intro first second
    have hfirst : first = s.centredExactly s.name i area := s.centerIn_eq i area
    have hsecond : second = s.centredExactly Adjustment.Command.centerIn.keyword i area :=
      Adjustment.apply_centerIn_eq s i area
    rw [hfirst, hsecond]
    exact ⟨fun s' => Sprite.centredExactly_eq_ok_iff, fun s' => Sprite.centredExactly_eq_ok_iff,
      Sprite.centredExactly_eq_error_iff, Sprite.centredExactly_eq_error_iff⟩
  · intro c r name other i k hne hblank hk
    exact agree_direct c r (readDirective_centring c r hne hblank hk)

/-- A small sprite and a larger one. -/
def pair : Cast :=
  ⟨[.new "panel" ⟨"panel", ⟨0⟩, 3, 5⟩ .empty, .new "marker" ⟨"marker", ⟨1⟩, 16, 6⟩ .empty],
    [("panel", ⟨0⟩), ("marker", ⟨1⟩)]⟩

/-- The larger sprite is centred in the smaller one: both halves go away from zero. -/
theorem centrings_agree_in_smaller :
    let centred : Except Error Cast :=
      pair.centerInSprite "marker" 0 "panel" 0
    (centred.map fun c => (c.sprite ⟨1⟩).destinations.map (·.rect)) = .ok [⟨-7, -1, 16, 6⟩] ∧
      AgreeButRange
        (pair.direct ⟨⟨320, 200⟩⟩ "marker" 0 ("centerInSprite " ++ "panel" ++ " " ++ toString 0))
        centred := by
  intro centred
  refine ⟨by rfl, ?_⟩
  exact centrings_agree.2.2 pair ⟨⟨320, 200⟩⟩ "marker" "panel" 0 0 (by decide)
    (by simp [Text.isBlank]) (by decide)

end Cast

end SpriteStage
