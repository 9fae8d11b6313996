import Mathlib.Data.List.Forall2
import Mathlib.Data.List.TakeWhile
import SpriteStage.Proofs.Json.Scalar

/-!
# Printed JSON is read back

* `ReadFrom`: a value is read from a text, whatever comes behind it and with as much fuel as the
  text has characters;
* `ReadsParts`: what the readers of items and of members have in common, and `ReadsParts.joined`: so
  parts with commas between them are read one by one;
* `readFrom_printAt`: **every readable value is read from what is printed for it**, and so
  `parse?_pretty`.
-/

namespace SpriteStage.JsonValue

open Formula

variable {c d : Char} {cs rest : List Char}

/-! ### Blanks -/

theorem skip_append (hcs : ∀ c ∈ cs, isJsonBlank c = true) (rest : List Char) :
    skip (cs ++ rest) = skip rest :=
  List.dropWhile_append_of_pos hcs

theorem skip_cons (hc : isJsonBlank c = false) (cs : List Char) : skip (c :: cs) = c :: cs :=
  List.dropWhile_cons_of_neg (by simp [hc])

theorem toList_newLine (level : Nat) :
    (newLine level).toList = '\n' :: List.replicate (2 * level) ' ' := by
  simp [newLine]

theorem isJsonBlank_of_mem_newLine {level : Nat} (hc : c ∈ (newLine level).toList) :
    isJsonBlank c = true := by
  rw [toList_newLine, List.mem_cons, List.mem_replicate] at hc
  rcases hc with rfl | ⟨-, rfl⟩ <;> decide

theorem isJsonBlank_of_isDigit (hc : c.isDigit = true) : isJsonBlank c = false := by
  have hne {d : Char} (hd : d.isDigit = false) : (c == d) = false :=
    beq_false_of_ne (ne_of_isDigit hc hd)
  rw [isJsonBlank, hne rfl, hne rfl, hne rfl, hne rfl]
  rfl

/-! ### Values -/

theorem value?_skip (fuel : Nat) (hcs : ∀ c ∈ cs, isJsonBlank c = true) (rest : List Char) :
    value? fuel (cs ++ rest) = value? fuel rest := by
  cases fuel with
  | zero => rfl
  | succ fuel => rw [value?, value?, skip_append hcs]

theorem value?_digit (fuel : Nat) (hc : c.isDigit = true) (cs : List Char) :
    value? (fuel + 1) (c :: cs) = number? false (c :: cs) := by
  rw [value?, skip_cons (isJsonBlank_of_isDigit hc)]
  split <;> simp_all

/-- A text that begins with neither a blank nor a closing character. -/
def Opens (close : Char) (text : List Char) : Prop :=
  ∃ c cs, text = c :: cs ∧ isJsonBlank c = false ∧ c ≠ close

/-- A value is read from a text, whatever comes behind it that cannot belong to a number. As much
fuel as the text has characters is enough. -/
structure ReadFrom (v : JsonValue) (text : List Char) : Prop where
  opens : Opens ']' text
  reads : ∀ fuel rest, text.length ≤ fuel → EndsRun isNumberChar rest →
    value? fuel (text ++ rest) = some (v, rest)

variable {v : JsonValue}

theorem readFrom_cons (hc : isJsonBlank c = false) (hclose : c ≠ ']')
    (hreads : ∀ fuel rest, cs.length ≤ fuel → EndsRun isNumberChar rest →
      value? (fuel + 1) (c :: (cs ++ rest)) = some (v, rest)) : ReadFrom v (c :: cs) where
  opens := ⟨c, cs, rfl, hc, hclose⟩
  reads fuel rest hfuel hrest := by
    cases fuel with
    | zero => cases hfuel
    | succ fuel => exact hreads fuel rest (Nat.le_of_succ_le_succ hfuel) hrest

theorem readFrom_null : ReadFrom null "null".toList :=
  readFrom_cons (by decide) (by decide) fun _ _ _ _ => rfl

theorem readFrom_bool (b : Bool) : ReadFrom (bool b) (toString b).toList := by
  cases b with
  | false => exact readFrom_cons (by decide) (by decide) fun _ _ _ _ => rfl
  | true => exact readFrom_cons (by decide) (by decide) fun _ _ _ _ => rfl

theorem readFrom_quoted (s : String) : ReadFrom (string s) (quoted s).toList := by
  rw [quoted, String.toList_ofList]
  refine readFrom_cons (by decide) (by decide) fun fuel rest _ _ => ?_
  have hvalue : value? (fuel + 1) ('"' :: (s.toList.flatMap escaped ++ ['"'] ++ rest)) =
      (text? (s.toList.flatMap escaped ++ ['"'] ++ rest)).bind
        fun p => some (p.1.elim unreadable string, p.2) := rfl
  rw [hvalue, List.append_assoc, List.singleton_append, text?_escaped]
  rfl

theorem readFrom_digits (hne : cs ≠ []) (hcs : ∀ c ∈ cs.head?, c.isDigit = true)
    (hnumber : ∀ rest, EndsRun isNumberChar rest → number? false (cs ++ rest) = some (v, rest)) :
    ReadFrom v cs := by
  obtain ⟨d, cs, rfl⟩ := List.exists_cons_of_ne_nil hne
  have hd := hcs d rfl
  have hclose : d ≠ ']' := ne_of_isDigit hd rfl
  refine readFrom_cons (isJsonBlank_of_isDigit hd) hclose fun fuel rest _ hrest => ?_
  rw [value?_digit fuel hd]
  exact hnumber rest hrest

theorem readFrom_minus
    (hnumber : ∀ rest, EndsRun isNumberChar rest → number? true (cs ++ rest) = some (v, rest)) :
    ReadFrom v ('-' :: cs) :=
  readFrom_cons (by decide) (by decide) fun _ rest _ hrest => hnumber rest hrest

theorem readFrom_integer (n : Int) : ReadFrom (integer n) (toString n).toList := by
  cases n with
  | ofNat n =>
    refine readFrom_digits (toString_ne_nil n) (fun c hc => ?_) fun rest hrest => ?_
    · exact Decimal.isDigit_of_mem_toString (List.mem_of_mem_head? hc)
    · exact number?_toString (by simp) hrest
  | negSucc n =>
    have htext : (toString (Int.negSucc n)).toList = '-' :: (toString (n + 1)).toList :=
      String.toList_append
    rw [htext]
    exact readFrom_minus fun rest hrest => number?_toString (by simp) hrest

theorem readFrom_real (negative : Bool) (d : Decimal) :
    ReadFrom (real negative d) (decimalText negative d).toList := by
  have htext : (decimalText negative d).toList = (if negative then "-" else "").toList ++
      ((toString d.coefficient).toList ++ 'e' :: (toString d.exponent).toList) := by
    show (_ ++ (toString d.coefficient ++ "e" ++ toString d.exponent)).toList = _
    rw [String.toList_append, String.toList_append, String.toList_append, List.append_assoc]
    rfl
  have hnumber : ∀ rest, EndsRun isNumberChar rest → number? negative
      (((toString d.coefficient).toList ++ 'e' :: (toString d.exponent).toList) ++ rest) =
        some (real negative d, rest) := by
    intro rest hrest
    rw [List.append_assoc]
    exact number?_exponent negative d (endsRun_isMantissaChar hrest).isDigit
  rw [htext]
  cases negative with
  | false =>
    refine readFrom_digits (by simp) (fun c hc => ?_) hnumber
    change c ∈ ((toString d.coefficient).toList ++ 'e' :: (toString d.exponent).toList).head? at hc
    rw [List.head?_append_of_ne_nil _ (toString_ne_nil _)] at hc
    exact Decimal.isDigit_of_mem_toString (List.mem_of_mem_head? hc)
  | true => exact readFrom_minus hnumber

/-! ### Parts between commas -/

theorem endsRun_append (hcs : ∀ c ∈ cs, isJsonBlank c = true) (hrest : EndsRun isNumberChar rest) :
    EndsRun isNumberChar (cs ++ rest) := by
  cases cs with
  | nil => exact hrest
  | cons b cs =>
    refine endsRun_cons ?_
    have hb := hcs b List.mem_cons_self
    obtain ((rfl | rfl) | rfl) | rfl : ((b = ' ' ∨ b = '\t') ∨ b = '\n') ∨ b = '\r' := by
      simpa [isJsonBlank] using hb
    all_goals decide

/-- A reader that takes parts with commas between them one by one, up to a closing character. -/
structure ReadsParts {α : Type} (From : α → List Char → Prop) (close : Char)
    (read : Nat → List Char → Option (List α × List Char)) : Prop where
  opens : ∀ {a text}, From a text → Opens close text
  last : ∀ {a text fuel lead trail} (rest), From a text → text.length ≤ fuel →
    (∀ c ∈ lead, isJsonBlank c = true) → (∀ c ∈ trail, isJsonBlank c = true) →
    read (fuel + 1) (lead ++ (text ++ (trail ++ close :: rest))) = some ([a], rest)
  next : ∀ {a text fuel lead} (rest), From a text → text.length ≤ fuel →
    (∀ c ∈ lead, isJsonBlank c = true) →
    read (fuel + 1) (lead ++ (text ++ ',' :: rest)) =
      (read fuel rest).map fun p => (a :: p.1, p.2)

section Parts

variable {α : Type} {From : α → List Char → Prop} {close : Char}
  {read : Nat → List Char → Option (List α × List Char)} {as : List α} {texts : List (List Char)}
  {gap lead trail : List Char} {fuel : Nat}

theorem ReadsParts.joined (hread : ReadsParts From close read) (h : List.Forall₂ From as texts)
    (hne : texts ≠ []) (hgap : ∀ c ∈ gap, isJsonBlank c = true)
    (hlead : ∀ c ∈ lead, isJsonBlank c = true) (htrail : ∀ c ∈ trail, isJsonBlank c = true)
    (hfuel : ((',' :: gap).intercalate texts).length < fuel) :
    read fuel (lead ++ ((',' :: gap).intercalate texts ++ (trail ++ close :: rest))) =
      some (as, rest) := by
  induction h generalizing fuel lead with
  | nil => exact absurd rfl hne
  | @cons a text as texts ha has ih =>
    obtain ⟨fuel, rfl⟩ : ∃ n, fuel = n + 1 := ⟨fuel - 1, by omega⟩
    cases has with
    | nil =>
      rw [List.intercalate_singleton] at hfuel ⊢
      exact hread.last rest ha (Nat.le_of_lt_succ hfuel) hlead htrail
    | @cons b text' as texts hb has =>
      have hjoin : (',' :: gap).intercalate (text :: text' :: texts) =
          text ++ ',' :: (gap ++ (',' :: gap).intercalate (text' :: texts)) := by
        simp [List.intercalate_cons_cons]
      rw [hjoin, List.length_append, List.length_cons, List.length_append] at hfuel
      have hrest : read fuel (gap ++ ((',' :: gap).intercalate (text' :: texts) ++
          (trail ++ close :: rest))) = some (b :: as, rest) := ih (by simp) hgap (by omega)
      rw [hjoin, List.append_assoc, List.cons_append, List.append_assoc,
        hread.next _ ha (by omega) hlead, hrest]
      rfl

/-- Parts begin as the first of them. -/
theorem ReadsParts.opens_joined (hread : ReadsParts From close read)
    (h : List.Forall₂ From as texts) (hne : texts ≠ []) (sep : List Char) :
    Opens close (sep.intercalate texts) := by
  cases h with
  | nil => exact absurd rfl hne
  | @cons a text as texts ha has =>
    obtain ⟨c, cs, rfl, hc, hclose⟩ := hread.opens ha
    cases texts with
    | nil => exact ⟨c, cs, by simp, hc, hclose⟩
    | cons text' texts =>
      rw [List.intercalate_cons_cons, List.append_assoc, List.cons_append]
      exact ⟨c, _, rfl, hc, hclose⟩

end Parts

theorem readsParts_items : ReadsParts ReadFrom ']' items? where
  opens ha := ha.opens
  last {a text fuel lead trail} rest ha hfuel hlead htrail := by
    have hends : EndsRun isNumberChar (trail ++ ']' :: rest) :=
      endsRun_append htrail (endsRun_cons (by decide))
    have hclose : skip (']' :: rest) = ']' :: rest := skip_cons (by decide) rest
    rw [items?, value?_skip fuel hlead, ha.reads fuel _ hfuel hends]
    simp only [Option.bind_eq_bind, Option.bind_some, skip_append htrail, hclose]
    rfl
  next {a text fuel lead} rest ha hfuel hlead := by
    have hcomma : skip (',' :: rest) = ',' :: rest := skip_cons (by decide) rest
    rw [items?, value?_skip fuel hlead, ha.reads fuel _ hfuel (endsRun_cons (by decide))]
    simp only [Option.bind_eq_bind, Option.bind_some, hcomma]
    exact Option.map_eq_bind.symm

/-- A member is read from a name between quotes, a colon, a space and a text for its value. -/
inductive MemberFrom : Option String × JsonValue → List Char → Prop
  | mk (name : String) {v : JsonValue} {text : List Char} (hv : ReadFrom v text) :
      MemberFrom (some name, v) ((quoted name).toList ++ ':' :: ' ' :: text)

theorem members?_append {member : Option String × JsonValue} {text lead : List Char} {fuel : Nat}
    (hm : MemberFrom member text) (hlead : ∀ c ∈ lead, isJsonBlank c = true)
    (hfuel : text.length ≤ fuel) (hrest : EndsRun isNumberChar rest) :
    members? (fuel + 1) (lead ++ (text ++ rest)) =
      match skip rest with
      | '}' :: rest => some ([member], rest)
      | ',' :: rest => (members? fuel rest).bind fun p => some (member :: p.1, p.2)
      | _ => none := by
  obtain ⟨name, hv⟩ := hm
  next v text =>
  have hquote (cs : List Char) : skip ('"' :: cs) = '"' :: cs := skip_cons (by decide) cs
  have hcolon (cs : List Char) : skip (':' :: cs) = ':' :: cs := skip_cons (by decide) cs
  have hspace : ∀ c ∈ [' '], isJsonBlank c = true := by simp [isJsonBlank]
  have hlength : text.length ≤ fuel := by
    simp at hfuel
    omega
  have hvalue : value? fuel (' ' :: (text ++ rest)) = some (v, rest) := by
    rw [← List.singleton_append, value?_skip fuel hspace, hv.reads fuel rest hlength hrest]
  have hassoc : (quoted name).toList ++ ':' :: ' ' :: text ++ rest =
      '"' :: (name.toList.flatMap escaped ++ '"' :: ':' :: ' ' :: (text ++ rest)) := by
    simp [quoted]
  rw [hassoc, members?, skip_append hlead, hquote]
  simp only [text?_escaped, Option.bind_eq_bind, Option.bind_some, hcolon, hvalue]
  rfl

theorem readsParts_members : ReadsParts MemberFrom '}' members? where
  opens := by
    rintro _ _ ⟨name, hv⟩
    exact ⟨'"', _, by rw [quoted, String.toList_ofList, List.cons_append], by decide, by decide⟩
  last {member text fuel lead trail} rest hm hfuel hlead htrail := by
    have hends : EndsRun isNumberChar (trail ++ '}' :: rest) :=
      endsRun_append htrail (endsRun_cons (by decide))
    have hclose : skip ('}' :: rest) = '}' :: rest := skip_cons (by decide) rest
    rw [members?_append hm hlead hfuel hends, skip_append htrail, hclose]
    rfl
  next {member text fuel lead} rest hm hfuel hlead := by
    have hcomma : skip (',' :: rest) = ',' :: rest := skip_cons (by decide) rest
    rw [members?_append hm hlead hfuel (endsRun_cons (by decide)), hcomma]
    exact Option.map_eq_bind.symm

/-! ### Arrays and objects -/

/-- All parts, with the characters around them. -/
theorem toList_bracketed {opening closing : String} (hopening : opening.toList = [c])
    (hclosing : closing.toList = [d]) (level : Nat) {parts : List String} (hne : parts ≠ []) :
    (bracketed opening closing level parts).toList =
      c :: ((newLine (level + 1)).toList ++
        ((',' :: (newLine (level + 1)).toList).intercalate (parts.map String.toList) ++
          ((newLine level).toList ++ [d]))) := by
  simp [bracketed, hne, String.toList_intercalate, hopening, hclosing]

theorem toList_bracketed_nil {opening closing : String} (hopening : opening.toList = [c])
    (hclosing : closing.toList = [d]) (level : Nat) :
    (bracketed opening closing level []).toList = [c, d] := by
  simp [bracketed, hopening, hclosing]

/-- Parts between brackets are read if the reader of values leaves them to their own reader. -/
theorem readFrom_bracketed {α : Type} {From : α → List Char → Prop}
    {read : Nat → List Char → Option (List α × List Char)} {as : List α} {f : List α → JsonValue}
    {opening closing : String} {parts : List String} (hread : ReadsParts From d read)
    (h : List.Forall₂ From as (parts.map String.toList)) (hopening : opening.toList = [c])
    (hclosing : closing.toList = [d]) (hc : isJsonBlank c = false ∧ c ≠ ']')
    (hempty : ∀ fuel rest, value? (fuel + 1) (c :: d :: rest) = some (f [], rest))
    (hparts : ∀ fuel lead text rest, (∀ c ∈ lead, isJsonBlank c = true) → Opens d text →
      value? (fuel + 1) (c :: (lead ++ (text ++ rest))) =
        (read fuel (text ++ rest)).map fun p => (f p.1, p.2)) (level : Nat) :
    ReadFrom (f as) (bracketed opening closing level parts).toList := by
  have hblank (level : Nat) : ∀ c ∈ (newLine level).toList, isJsonBlank c = true :=
    fun c => isJsonBlank_of_mem_newLine
  by_cases hne : parts = []
  · subst hne
    cases h
    rw [toList_bracketed_nil hopening hclosing level]
    exact readFrom_cons hc.1 hc.2 fun fuel rest _ _ => hempty fuel rest
  · have hne' : parts.map String.toList ≠ [] := by simpa using hne
    have hopens := hread.opens_joined h hne' (',' :: (newLine (level + 1)).toList)
    rw [toList_bracketed hopening hclosing level hne]
    refine readFrom_cons hc.1 hc.2 fun fuel rest hfuel _ => ?_
    rw [List.length_append, List.length_append, List.length_append, List.length_singleton] at hfuel
    have hjoined : read fuel ([] ++ (_ ++ (_ ++ d :: rest))) = some (as, rest) :=
      hread.joined h hne' (hblank (level + 1)) (by simp) (hblank level) (by omega)
    rw [List.nil_append] at hjoined
    simp only [List.append_assoc, List.singleton_append]
    rw [hparts fuel _ _ _ (hblank (level + 1)) hopens, hjoined]
    rfl

theorem readFrom_array (level : Nat) {items : List JsonValue} {parts : List String}
    (h : List.Forall₂ ReadFrom items (parts.map String.toList)) :
    ReadFrom (array items) (bracketed "[" "]" level parts).toList := by
  refine readFrom_bracketed (c := '[') readsParts_items h (by decide) (by decide) (by decide)
    (fun _ _ => rfl) (fun fuel lead text rest hlead htext => ?_) level
  obtain ⟨c, cs, rfl, hc, hclose⟩ := htext
  have hopen (cs : List Char) : skip ('[' :: cs) = '[' :: cs := skip_cons (by decide) cs
  rw [value?, hopen]
  simp only [skip_append hlead, List.cons_append, skip_cons hc]
  split
  · simp_all
  · exact Option.map_eq_bind.symm

/-- What members are read as. -/
def ofMembers (members : List (Option String × JsonValue)) : JsonValue :=
  (members.mapM fun m : Option String × JsonValue => m.1.map (·, m.2)).elim unreadable object

theorem ofMembers_map (members : List (String × JsonValue)) :
    ofMembers (members.map fun m => (some m.1, m.2)) = object members := by
  have hnamed : (members.map fun m => (some m.1, m.2)).mapM
      (fun m : Option String × JsonValue => m.1.map (·, m.2)) = some members := by
    induction members with
    | nil => rfl
    | cons m members ih =>
      rw [List.map_cons, List.mapM_cons, ih]
      rfl
  exact congrArg (Option.elim · unreadable object) hnamed

theorem readFrom_object (level : Nat) {members : List (String × JsonValue)} {parts : List String}
    (h : List.Forall₂ MemberFrom (members.map fun m => (some m.1, m.2))
      (parts.map String.toList)) :
    ReadFrom (object members) (bracketed "\x7b" "\x7d" level parts).toList := by
  rw [← ofMembers_map members]
  refine readFrom_bracketed (c := '{') readsParts_members h (by decide) (by decide) (by decide)
    (fun _ _ => rfl) (fun fuel lead text rest hlead htext => ?_) level
  obtain ⟨c, cs, rfl, hc, hclose⟩ := htext
  have hopen (cs : List Char) : skip ('{' :: cs) = '{' :: cs := skip_cons (by decide) cs
  rw [value?, hopen]
  simp only [skip_append hlead, List.cons_append, skip_cons hc]
  split
  · simp_all
  · exact Option.map_eq_bind.symm

/-! ### Whole values -/

/-- A value in which everything can be read. -/
inductive Readable : JsonValue → Prop
  | null : Readable null
  | bool (b : Bool) : Readable (bool b)
  | integer (n : Int) : Readable (integer n)
  | real (negative : Bool) (magnitude : Decimal) : Readable (real negative magnitude)
  | string (text : String) : Readable (string text)
  | array {items : List JsonValue} (h : ∀ item ∈ items, Readable item) : Readable (array items)
  | object {members : List (String × JsonValue)} (h : ∀ m ∈ members, Readable m.2) :
      Readable (object members)

theorem forall₂_printItems {items : List JsonValue} (level : Nat)
    (h : ∀ item ∈ items, ReadFrom item (printAt level item).toList) :
    List.Forall₂ ReadFrom items ((printItems level items).map String.toList) := by
  induction items with
  | nil => exact .nil
  | cons item items ih =>
    obtain ⟨hitem, hitems⟩ := List.forall_mem_cons.1 h
    exact .cons hitem (ih hitems)

theorem forall₂_printMembers {members : List (String × JsonValue)} (level : Nat)
    (h : ∀ m ∈ members, ReadFrom m.2 (printAt level m.2).toList) :
    List.Forall₂ MemberFrom (members.map fun m => (some m.1, m.2))
      ((printMembers level members).map String.toList) := by
  induction members with
  | nil => exact .nil
  | cons m members ih =>
    obtain ⟨hm, hmembers⟩ := List.forall_mem_cons.1 h
    refine .cons ?_ (ih hmembers)
    rw [String.toList_append, String.toList_append, List.append_assoc]
    exact .mk m.1 hm

/-- **A readable value is read from what is printed for it.** -/
theorem readFrom_printAt (hv : Readable v) (level : Nat) : ReadFrom v (printAt level v).toList := by
  induction hv generalizing level with
  | null => exact readFrom_null
  | bool b => exact readFrom_bool b
  | integer n => exact readFrom_integer n
  | real negative d => exact readFrom_real negative d
  | string s => exact readFrom_quoted s
  | array _ ih =>
    exact readFrom_array level (forall₂_printItems (level + 1) fun item h => ih item h (level + 1))
  | object _ ih =>
    exact readFrom_object level (forall₂_printMembers (level + 1) fun m h => ih m h (level + 1))

/-- **Reading inverts printing**, also with blanks at the end. -/
theorem parse?_pretty (hv : Readable v) {blanks : String}
    (hblanks : ∀ c ∈ blanks.toList, isJsonBlank c = true) :
    parse? (v.pretty ++ blanks) = some v := by
  have hread := (readFrom_printAt hv 0).reads ((v.pretty ++ blanks).toList.length + 1) blanks.toList
    (by rw [String.toList_append, List.length_append, pretty]; omega)
    (by simpa using endsRun_append hblanks endsRun_nil)
  have hskip : skip blanks.toList = [] := List.dropWhile_eq_nil_iff.2 hblanks
  rw [← pretty, ← String.toList_append] at hread
  rw [parse?, hread]
  simp [hskip]

end SpriteStage.JsonValue
