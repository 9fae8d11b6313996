import Mathlib.Data.List.DropRight
import SpriteStage.Error
import SpriteStage.Ini
import SpriteStage.Keyed

/-!
# Reading an INI text that was written

Values are written as they are, without quotes or escapes. So what is read of one is its part
before the first comment mark, without the blanks around it, as long as it is on one line; and a
value that was read, from whatever text, is of this form already.

* `kept`: what is read of a value that was written on one line;
* `Plain`: the texts that come back as they are;
* `parse_print`: the entries of a text of one section, written from keys and values;
* `value?_written`: the value of a key in these entries;
* `plain_of_parse`: every value in the entries of a text is plain.
-/

namespace SpriteStage

/-! ### Trimming -/

namespace Text

variable {cs lead trail : List Char}

theorem trimChars_eq (cs : List Char) :
    trimChars cs = (cs.dropWhile isBlank).rdropWhile isBlank := rfl

theorem rdropWhile_append_blank (cs : List Char) (h : ∀ c ∈ trail, isBlank c = true) :
    (cs ++ trail).rdropWhile isBlank = cs.rdropWhile isBlank := by
  rw [List.rdropWhile, List.reverse_append, List.dropWhile_append_of_pos (by simpa using h)]
  rfl

theorem trimChars_append_blank (cs : List Char) (h : ∀ c ∈ trail, isBlank c = true) :
    trimChars (cs ++ trail) = trimChars cs := by
  rw [trimChars_eq, trimChars_eq, List.dropWhile_append]
  split
  · rename_i hnil
    rw [List.isEmpty_iff.1 hnil, List.dropWhile_eq_nil_iff.2 h]
  · exact rdropWhile_append_blank _ h

/-- Blanks at the end that are cut before do not matter. -/
theorem trimChars_rdropWhile (cs : List Char) :
    trimChars (cs.rdropWhile isBlank) = trimChars cs := by
  have hblank : ∀ c ∈ cs.rtakeWhile isBlank, isBlank c = true :=
    fun c hc => List.mem_rtakeWhile_imp hc
  rw [← trimChars_append_blank _ hblank, List.rdropWhile_append_rtakeWhile]

theorem rdropWhile_append_cons {d : Char} (hd : isBlank d = false) (cs rest : List Char) :
    (cs ++ d :: rest).rdropWhile isBlank = cs ++ d :: rest.rdropWhile isBlank := by
  have hfront : (d :: cs.reverse).dropWhile isBlank = d :: cs.reverse :=
    List.dropWhile_cons_of_neg (by simp [hd])
  have hsplit : (cs ++ d :: rest).reverse = rest.reverse ++ d :: cs.reverse := by simp
  rw [List.rdropWhile, hsplit, List.dropWhile_append, hfront]
  split
  · rename_i hnil
    simp [List.rdropWhile, List.isEmpty_iff.1 hnil]
  · simp [List.rdropWhile]

/-- Behind a text without blanks only those at the end go. -/
theorem trimChars_append_cons {d : Char} (hcs : ∀ c ∈ cs, isBlank c = false)
    (hd : isBlank d = false) (rest : List Char) :
    trimChars (cs ++ d :: rest) = cs ++ d :: rest.rdropWhile isBlank := by
  have hdrop : (cs ++ d :: rest).dropWhile isBlank = cs ++ d :: rest := by
    cases cs with
    | nil => exact List.dropWhile_cons_of_neg (by simp [hd])
    | cons c cs => exact List.dropWhile_cons_of_neg (by simp [hcs c List.mem_cons_self])
  rw [trimChars_eq, hdrop, rdropWhile_append_cons hd]

theorem trimChars_of_not_blank (h : ∀ c ∈ cs, isBlank c = false) : trimChars cs = cs := by
  simpa using @trimChars_append [] cs [] (by simp) h (by simp)

/-- Trimming a trimmed text changes nothing. -/
theorem trimChars_trimChars (cs : List Char) : trimChars (trimChars cs) = trimChars cs := by
  rw [trimChars_eq cs, trimChars_rdropWhile, trimChars_eq, List.dropWhile_idempotent]

theorem mem_of_mem_trimChars {c : Char} (h : c ∈ trimChars cs) : c ∈ cs :=
  (List.dropWhile_suffix _).subset ((List.rdropWhile_prefix _ _).subset h)

/-- The first delimiter is right behind a text without one. -/
theorem cutChars_append_cons {p : Char → Bool} {d : Char} (hcs : ∀ c ∈ cs, p c = false)
    (hd : p d = true) (rest : List Char) : cutChars p (cs ++ d :: rest) = some (cs, rest) := by
  have hneg : ∀ c ∈ cs, (!p c) = true := fun c hc => by simp [hcs c hc]
  unfold cutChars
  rw [List.dropWhile_append_of_pos hneg, List.takeWhile_append_of_pos hneg]
  simp [hd]

theorem mem_of_cutChars {p : Char → Bool} {before after : List Char} {c : Char}
    (h : cutChars p cs = some (before, after)) (hc : c ∈ after) : c ∈ cs := by
  unfold cutChars at h
  split at h
  · cases h
  · rename_i d rest hdrop
    cases h
    exact (List.dropWhile_suffix _).subset (hdrop ▸ List.mem_cons_of_mem d hc)

/-! ### Lines -/

theorem newline_not_mem_of_mem_lineChars {l : List Char} (h : l ∈ lineChars cs) : '\n' ∉ l := by
  fun_induction lineChars cs generalizing l with
  | case1 => simp at h
  | case2 cs ih =>
    rcases List.mem_cons.1 h with rfl | h
    · exact List.not_mem_nil
    · exact ih h
  | case3 cs ih =>
    rcases List.mem_cons.1 h with rfl | h
    · exact List.not_mem_nil
    · exact ih h
  | case4 c cs hc _ _ _ =>
    obtain rfl := List.mem_singleton.1 h
    simpa using Ne.symm hc
  | case5 c cs hc _ first rest heq ih =>
    rw [heq] at ih
    rcases List.mem_cons.1 h with rfl | h
    · exact List.not_mem_cons_of_ne_of_not_mem (Ne.symm hc) (ih List.mem_cons_self)
    · exact ih (List.mem_cons_of_mem first h)

/-- A line and its end in front of a text. A carriage return at the end of the line goes with it. -/
theorem lineChars_append_newline {l : List Char} (h : '\n' ∉ l) (rest : List Char) :
    ∃ l', lineChars (l ++ '\n' :: rest) = l' :: lineChars rest ∧ (l = l' ∨ l = l' ++ ['\r']) := by
  induction l with
  | nil => exact ⟨[], rfl, .inl rfl⟩
  | cons c l ih =>
    have hc : c ≠ '\n' := fun e => h (e ▸ List.mem_cons_self)
    obtain ⟨l', hl, hlast⟩ := ih fun hl => h (List.mem_cons_of_mem c hl)
    by_cases hr : c = '\r' ∧ l = []
    · obtain ⟨rfl, rfl⟩ := hr
      exact ⟨[], rfl, .inr rfl⟩
    · refine ⟨c :: l', ?_, by simpa using hlast⟩
      rw [List.cons_append, lineChars, hl]
      · exact hc
      · -- the end of the line is not right behind `c` here
        rintro cs rfl hcs
        cases l with
        | nil => exact hr ⟨rfl, rfl⟩
        | cons d l =>
          obtain rfl : d = '\n' := (List.cons.inj hcs).1
          exact h (List.mem_cons_of_mem _ List.mem_cons_self)

end Text

namespace Ini

variable {heading key value : String} {line : List Char} {pairs : List (String × String)}

/-! ### Writing and reading back -/

/-- What is read of a value that was written on one line. -/
def kept (value : String) : String := String.ofList (content value.toList)

/-- What a name can consist of. -/
def isNameChar (c : Char) : Bool :=
  !Text.isBlank c && !isCommentMark c && !isDelimiter c && c != '[' && c.toLower == c

/-- A key or a heading that is read as it was written. -/
structure IsName (key : String) : Prop where
  ne_nil : key.toList ≠ []
  chars : key.toList.all isNameChar = true

instance (key : String) : Decidable (IsName key) :=
  decidable_of_iff (key.toList ≠ [] ∧ key.toList.all isNameChar = true)
    ⟨fun h => ⟨h.1, h.2⟩, fun h => ⟨h.ne_nil, h.chars⟩⟩

theorem IsName.of_mem (h : IsName key) {c : Char} (hc : c ∈ key.toList) :
    Text.isBlank c = false ∧ isCommentMark c = false ∧ isDelimiter c = false ∧ c ≠ '[' ∧
      c.toLower = c := by
  simpa [isNameChar, and_assoc] using List.all_eq_true.1 h.chars c hc

theorem IsName.folded_eq (h : IsName key) : folded key.toList = key := by
  rw [folded, List.map_congr_left fun c hc => (h.of_mem hc).2.2.2.2, List.map_id',
    String.ofList_toList]

theorem IsName.trimChars_eq (h : IsName key) : Text.trimChars key.toList = key.toList :=
  Text.trimChars_of_not_blank fun _ hc => (h.of_mem hc).1

/-- The entry of a key and a value that were written in a section. -/
def written (heading : String) (pair : String × String) : Entry :=
  ⟨heading, pair.1, some (kept pair.2)⟩

theorem readLine_heading (h : IsName heading) (n : Nat) :
    readLine n ('[' :: heading.toList ++ [']']) = .ok (.heading heading) := by
  have hline : ∀ c ∈ '[' :: heading.toList ++ [']'],
      Text.isBlank c = false ∧ isCommentMark c = false := by
    intro c hc
    rcases List.mem_append.1 hc with hc | hc
    · rcases List.mem_cons.1 hc with rfl | hc
      · decide
      · exact ⟨(h.of_mem hc).1, (h.of_mem hc).2.1⟩
    · obtain rfl := List.mem_singleton.1 hc
      decide
  have hcontent : content ('[' :: heading.toList ++ [']']) = '[' :: heading.toList ++ [']'] := by
    rw [content, List.takeWhile_eq_self_iff.2 fun c hc => by simp [(hline c hc).2]]
    exact Text.trimChars_of_not_blank fun c hc => (hline c hc).1
  have hname : heading? (heading.toList ++ [']']) = some heading := by
    simp [heading?, h.trimChars_eq, h.folded_eq]
  rw [readLine, hcontent]
  simp only [List.cons_append, hname]

theorem readLine_pair (h : IsName key) (n : Nat) (value : String) :
    readLine n (key.toList ++ '=' :: value.toList) = .ok (.entry key (some (kept value))) := by
  have hblank : ∀ c ∈ key.toList, Text.isBlank c = false := fun c hc => (h.of_mem hc).1
  have hmark : ∀ c ∈ key.toList, (!isCommentMark c) = true := fun c hc => by
    simp [(h.of_mem hc).2.1]
  have hdelimiter : ∀ c ∈ key.toList, isDelimiter c = false := fun c hc => (h.of_mem hc).2.2.1
  have hcontent : content (key.toList ++ '=' :: value.toList) =
      key.toList ++ '=' :: (value.toList.takeWhile fun c => !isCommentMark c).rdropWhile
        Text.isBlank := by
    rw [content, List.takeWhile_append_of_pos hmark, List.takeWhile_cons_of_pos (by decide)]
    exact Text.trimChars_append_cons hblank (by decide) _
  have hcut := Text.cutChars_append_cons hdelimiter (d := '=') (by decide)
    ((value.toList.takeWhile fun c => !isCommentMark c).rdropWhile Text.isBlank)
  obtain ⟨k, ks, hk⟩ := List.exists_cons_of_ne_nil h.ne_nil
  have hbracket : k ≠ '[' := (h.of_mem (hk ▸ List.mem_cons_self)).2.2.2.1
  unfold readLine
  rw [hcontent]
  split
  · rename_i hnil
    rw [hk] at hnil
    cases hnil
  · rename_i rest hopen
    rw [hk] at hopen
    exact absurd (List.cons.inj hopen).1 hbracket
  · rw [hcut]
    simp only [h.trimChars_eq]
    split
    · exact absurd ‹_› h.ne_nil
    · rw [h.folded_eq, Text.trimChars_rdropWhile, kept, content]

/-- A carriage return at the end of a line does not matter. -/
theorem content_append_return (line : List Char) : content (line ++ ['\r']) = content line := by
  have hblank : ∀ c ∈ ['\r'], Text.isBlank c = true := by simp [Text.isBlank]
  unfold content
  rw [List.takeWhile_append]
  split
  · rename_i hall
    rw [(List.takeWhile_prefix _).eq_of_length hall]
    exact Text.trimChars_append_blank line hblank
  · rfl

theorem readLine_congr {line' : List Char} (h : content line = content line') (n : Nat) :
    readLine n line = readLine n line' := by
  rw [readLine, readLine, h]

/-- Lines that were written one below the other are read one by one. -/
theorem readLines_lineChars {lines : List (List Char)} (h : ∀ l ∈ lines, '\n' ∉ l)
    (heading : String) (n : Nat) :
    readLines heading n (Text.lineChars (lines.flatMap (· ++ ['\n']))) =
      readLines heading n lines := by
  induction lines generalizing heading n with
  | nil => rfl
  | cons l rest ih =>
    obtain ⟨l', hlines, hl⟩ := Text.lineChars_append_newline (h l List.mem_cons_self)
      (rest.flatMap (· ++ ['\n']))
    have hcontent : content l' = content l := by
      rcases hl with rfl | rfl
      · rfl
      · exact (content_append_return l').symm
    have hsplit : (l :: rest).flatMap (· ++ ['\n']) = l ++ '\n' :: rest.flatMap (· ++ ['\n']) := by
      simp
    have hrest := ih fun k hk => h k (List.mem_cons_of_mem l hk)
    rw [hsplit, hlines, readLines, readLines, readLine_congr hcontent]
    simp only [hrest]

theorem readLines_pairs (h : ∀ p ∈ pairs, IsName p.1) (heading : String) (n : Nat) :
    readLines heading n (pairs.map fun p => p.1.toList ++ '=' :: p.2.toList) =
      .ok (pairs.map (written heading)) := by
  induction pairs generalizing n with
  | nil => rfl
  | cons p rest ih =>
    have hrest := ih (fun q hq => h q (List.mem_cons_of_mem p hq)) (n + 1)
    rw [List.map_cons, readLines, readLine_pair (h p List.mem_cons_self)]
    simp only [Bind.bind, Except.bind, hrest]
    rfl

/-- **The entries of a text that was written** are its keys with what is read of their values, if
no value has a line end. -/
theorem parse_print (hh : IsName heading) (hn : ∀ p ∈ pairs, IsName p.1)
    (hl : ∀ p ∈ pairs, '\n' ∉ p.2.toList) :
    parse (print heading pairs) = .ok (pairs.map (written heading)) := by
  have hnewline {key : String} (h : IsName key) : '\n' ∉ key.toList :=
    fun hc => by simpa [Text.isBlank] using (h.of_mem hc).1
  have hlines : ∀ l ∈ ('[' :: heading.toList ++ [']']) ::
      pairs.map fun p => p.1.toList ++ '=' :: p.2.toList, '\n' ∉ l := by
    intro l hmem
    rcases List.mem_cons.1 hmem with rfl | hmem
    · simpa using hnewline hh
    · obtain ⟨p, hp, rfl⟩ := List.mem_map.1 hmem
      simpa using ⟨hnewline (hn p hp), hl p hp⟩
  have htext : (print heading pairs).toList = (('[' :: heading.toList ++ [']']) ::
      pairs.map fun p => p.1.toList ++ '=' :: p.2.toList).flatMap (· ++ ['\n']) := by
    simp [print, List.flatMap_map]
  rw [parse, htext, readLines_lineChars hlines, readLines, readLine_heading hh]
  exact readLines_pairs hn heading 2

/-- What is read of the value of a key that was written once. -/
theorem value?_written (hnodup : (pairs.map Prod.fst).Nodup) (hmem : (key, value) ∈ pairs)
    (heading : String) : value? (pairs.map (written heading)) heading key = some (kept value) := by
  unfold value?
  cases hf : (pairs.map (written heading)).reverse.find?
      fun e => e.heading == heading && e.key == key with
  | none =>
    have hnone := List.find?_eq_none.1 hf (written heading (key, value))
      (List.mem_reverse.2 (List.mem_map_of_mem hmem))
    simp [written] at hnone
  | some e =>
    obtain ⟨⟨key', value'⟩, hp, rfl⟩ :=
      List.mem_map.1 (List.mem_reverse.1 (List.mem_of_find?_eq_some hf))
    obtain rfl : key' = key := by simpa [written] using List.find?_some hf
    obtain rfl : value' = value := Option.some.inj
      ((Keyed.lookup_of_mem hnodup hp).symm.trans (Keyed.lookup_of_mem hnodup hmem))
    rfl

/-! ### What a value can be -/

/-- A text that comes back as it is: on one line, without comment marks and without blanks around
it. -/
structure Plain (value : String) : Prop where
  oneLine : '\n' ∉ value.toList
  noComment (c : Char) (h : c ∈ value.toList) : isCommentMark c = false
  trimmed : Text.trim value = value

instance (value : String) : Decidable (Plain value) :=
  decidable_of_iff ('\n' ∉ value.toList ∧ (value.toList.all fun c => !isCommentMark c) = true ∧
      Text.trim value = value)
    ⟨fun h => ⟨h.1, by simpa using h.2.1, h.2.2⟩,
      fun h => ⟨h.oneLine, by simpa using h.noComment, h.trimmed⟩⟩

theorem Plain.kept_eq (h : Plain value) : kept value = value := by
  have htrim : Text.trimChars value.toList = value.toList := by
    rw [← Text.toList_trim, h.trimmed]
  rw [kept, content, List.takeWhile_eq_self_iff.2 fun c hc => by simp [h.noComment c hc], htrim,
    String.ofList_toList]

theorem plain_of_readLine {n : Nat} (hline : '\n' ∉ line)
    (h : readLine n line = .ok (.entry key (some value))) : Plain value := by
  have hcontent : ∀ c ∈ content line, c ∈ line ∧ isCommentMark c = false := fun c hc => by
    have hc := Text.mem_of_mem_trimChars hc
    exact ⟨(List.takeWhile_prefix _).subset hc, by simpa using List.mem_takeWhile_imp hc⟩
  unfold readLine at h
  split at h
  · cases h
  · split at h <;> cases h
  · split at h
    · cases h
    · rename_i hcut
      split at h
      · cases h
      · cases h
        have hmem : ∀ c ∈ Text.trimChars _, c ∈ line ∧ isCommentMark c = false := fun c hc =>
          hcontent c (Text.mem_of_cutChars hcut (Text.mem_of_mem_trimChars hc))
        refine ⟨?_, ?_, ?_⟩
        · simpa using fun hc => hline (hmem _ hc).1
        · simpa using fun c hc => (hmem c hc).2
        · simp [Text.trim, Text.trimChars_trimChars]

theorem plain_of_readLines {entries : List Entry} {n : Nat} {lines : List (List Char)}
    (hl : ∀ l ∈ lines, '\n' ∉ l) (h : readLines heading n lines = .ok entries) {e : Entry}
    (he : e ∈ entries) (hv : e.value = some value) : Plain value := by
  induction lines generalizing heading n entries with
  | nil =>
    cases h
    cases he
  | cons l rest ih =>
    have hrest : ∀ l ∈ rest, '\n' ∉ l := fun k hk => hl k (List.mem_cons_of_mem l hk)
    rw [readLines] at h
    obtain ⟨kind, hkind, h⟩ := exists_of_bind_eq_ok h
    cases kind with
    | blank => exact ih hrest h he
    | heading name => exact ih hrest h he
    | entry key v =>
      obtain ⟨others, hothers, h⟩ := exists_of_bind_eq_ok h
      cases h
      rcases List.mem_cons.1 he with rfl | he
      · cases hv
        exact plain_of_readLine (hl l List.mem_cons_self) hkind
      · exact ih hrest hothers he

/-- **Every value of a text is plain**, however the text came about. -/
theorem plain_of_parse {text : String} {entries : List Entry} (h : parse text = .ok entries)
    (hv : value? entries heading key = some value) : Plain value := by
  obtain ⟨e, he, hvalue⟩ := Option.bind_eq_some_iff.1 hv
  exact plain_of_readLines (fun l hl => Text.newline_not_mem_of_mem_lineChars hl) h
    (List.mem_reverse.1 (List.mem_of_find?_eq_some he)) hvalue

end Ini

end SpriteStage
