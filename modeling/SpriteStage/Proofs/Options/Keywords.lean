import SpriteStage.Formula.ValueReader
import SpriteStage.Proofs.Options.FlagSet
import SpriteStage.Text.Pieces

/-!
# Reading a list of option keywords

The keywords are taken one by one into the set of those before, and a keyword is refused if the set
has another flag of its group. That comes to a condition on the list alone.

* `Clash`: two keywords for different flags of one group; `Acceptable`: a list of keywords of which
  no two clash;
* `conflicts_iff`: what is tested against the set is whether an earlier keyword clashes;
* `ofKeywords_eq_ok_iff`, `ofKeywords_eq_error_iff`: what is read, and which word is refused;
* `ofKeywords_congr`: order, repetitions and `default` do not matter;
* `ofKeywords_describe`: the description of what was read is read as the same;
* `parse_eq_ok_iff`, `parse_eq_error_iff`, `parse_congr`, `parse_describe`: all this of the arguments
  of a directive, with the errors they are refused with.
-/

namespace SpriteStage

namespace Flag

theorem ofKeyword?_keyword (f : Flag) : ofKeyword? f.keyword = some f := by
  cases f <;> decide

theorem ofKeyword?_default : ofKeyword? "default" = none := by decide

theorem ne_default_of_ofKeyword? {word : String} {f : Flag} (h : ofKeyword? word = some f) :
    word ≠ "default" := by
  rintro rfl
  rw [ofKeyword?_default] at h
  cases h

end Flag

namespace RenderOptions

/-- Two words are keywords of different flags of one group. -/
def Clash (v w : String) : Prop :=
  ∃ f g group, Flag.ofKeyword? v = some f ∧ Flag.ofKeyword? w = some g ∧ f ≠ g ∧
    f.group? = some group ∧ g.group? = some group

/-- Keywords of which no two are for different flags of one group. -/
structure Acceptable (words : List String) : Prop where
  known : ∀ w ∈ words, (ofKeyword? w).isSome
  exclusive : ∀ v ∈ words, ∀ w ∈ words, ¬ Clash v w

/-- The flags that the words of a list are keywords of, all in one set. -/
def union (words : List String) : RenderOptions := ofFlags (words.filterMap Flag.ofKeyword?)

variable {words others before : List String} {v w : String} {f g : Flag} {o o' : RenderOptions}
  {refusal : Refusal}

theorem Clash.symm (h : Clash v w) : Clash w v := by
  obtain ⟨f, g, group, hf, hg, hne, hfg, hgg⟩ := h
  exact ⟨g, f, group, hg, hf, hne.symm, hgg, hfg⟩

/-- A word does not clash with itself. -/
theorem not_clash_self (w : String) : ¬ Clash w w := by
  rintro ⟨f, g, group, hf, hg, hne, -, -⟩
  exact hne (Option.some.inj (hf.symm.trans hg))

/-- A word that is no keyword of a flag clashes with nothing. -/
theorem not_clash_of_none (h : Flag.ofKeyword? w = none) (v : String) : ¬ Clash v w := by
  rintro ⟨_, g, _, -, hg, -⟩
  rw [h] at hg
  cases hg

theorem isSome_ofKeyword?_iff :
    (ofKeyword? w).isSome ↔ w = "default" ∨ ∃ f, Flag.ofKeyword? w = some f := by
  unfold ofKeyword?
  split
  · next h => simp [h]
  · next h => simp [h, Option.isSome_iff_exists]

@[simp] theorem has_union : (union words).has f = true ↔ ∃ w ∈ words, Flag.ofKeyword? w = some f := by
  simp [union]

theorem acceptable_nil : Acceptable [] := ⟨by simp, by simp⟩

theorem acceptable_concat : Acceptable (before ++ [w]) ↔
    Acceptable before ∧ (ofKeyword? w).isSome ∧ ∀ v ∈ before, ¬ Clash v w := by
  constructor
  · intro h
    refine ⟨⟨fun v hv => h.known v (by simp [hv]), fun v hv u hu => ?_⟩, h.known w (by simp),
      fun v hv => h.exclusive v (by simp [hv]) w (by simp)⟩
    exact h.exclusive v (by simp [hv]) u (by simp [hu])
  · rintro ⟨h, hw, hclash⟩
    constructor
    · intro v hv
      simp only [List.mem_append, List.mem_singleton] at hv
      rcases hv with hv | rfl
      · exact h.known v hv
      · exact hw
    · intro v hv u hu
      simp only [List.mem_append, List.mem_singleton] at hv hu
      rcases hv with hv | rfl <;> rcases hu with hu | rfl
      · exact h.exclusive v hv u hu
      · exact hclash v hv
      · exact fun hc => hclash u hu hc.symm
      · exact not_clash_self _

/-! ### One keyword after the other -/

/-- **What is tested against the set is whether an earlier keyword clashes.** -/
theorem conflicts_iff (hb : Acceptable before) (hw : Flag.ofKeyword? w = some f) :
    (union before).Conflicts f ↔ ∃ v ∈ before, Clash v w := by
  constructor
  · rintro ⟨hf, group, hgroup, hhas⟩
    obtain ⟨g, hg, hgg⟩ := hasGroup_iff.1 hhas
    obtain ⟨v, hv, hvg⟩ := has_union.1 hg
    refine ⟨v, hv, g, f, group, hvg, hw, ?_, hgg, hgroup⟩
    rintro rfl
    rw [hg] at hf
    cases hf
  · rintro ⟨v, hv, hclash⟩
    obtain ⟨g, f', group, hvg, hwf, hne, hgg, hfg⟩ := hclash
    obtain rfl : f = f' := Option.some.inj (hw.symm.trans hwf)
    refine ⟨?_, group, hfg, hasGroup_iff.2 ⟨g, has_union.2 ⟨v, hv, hvg⟩, hgg⟩⟩
    -- were the flag there already, the words before would clash with each other
    by_contra hf
    obtain ⟨u, hu, huf⟩ := has_union.1 (by simpa using hf)
    exact hb.exclusive v hv u hu ⟨g, f, group, hvg, huf, hne, hgg, hfg⟩

theorem addKeyword_of_none (h : Flag.ofKeyword? w = none) (o : RenderOptions) :
    o.addKeyword w = if w = "default" then .ok o else .error (.unknown w) := by
  simp [addKeyword, h]

theorem addKeyword_of_some (h : Flag.ofKeyword? w = some f) (o : RenderOptions) :
    o.addKeyword w = if o.Conflicts f then .error (.conflict w o) else .ok (o.insert f) := by
  simp [addKeyword, h, Flag.ne_default_of_ofKeyword? h]

/-- A keyword that is taken after acceptable ones. -/
theorem addKeyword_eq_ok_iff (hb : Acceptable before) :
    (union before).addKeyword w = .ok o ↔ Acceptable (before ++ [w]) ∧ o = union (before ++ [w]) := by
  rw [acceptable_concat, isSome_ofKeyword?_iff]
  cases hw : Flag.ofKeyword? w with
  | none =>
    have hunion : union (before ++ [w]) = union before := by simp [union, hw]
    rw [addKeyword_of_none hw, hunion]
    by_cases h : w = "default"
    · rw [if_pos h, Except.ok.injEq, @eq_comm _ o]
      exact ⟨fun ho => ⟨⟨hb, .inl h, fun v _ => not_clash_of_none hw v⟩, ho⟩, fun ho => ho.2⟩
    · rw [if_neg h]
      constructor
      · intro ho
        cases ho
      · rintro ⟨⟨-, hd | ⟨f, hf⟩, -⟩, -⟩
        · exact absurd hd h
        · cases hf
  | some f =>
    have hunion : union (before ++ [w]) = (union before).insert f := by
      simp [union, hw, ofFlags_concat]
    rw [addKeyword_of_some hw, hunion]
    by_cases h : (union before).Conflicts f
    · rw [if_pos h]
      obtain ⟨v, hv, hclash⟩ := (conflicts_iff hb hw).1 h
      constructor
      · intro ho
        cases ho
      · rintro ⟨⟨-, -, hnone⟩, -⟩
        exact absurd hclash (hnone v hv)
    · rw [if_neg h, Except.ok.injEq, @eq_comm _ o]
      have hnone : ∀ v ∈ before, ¬ Clash v w :=
        fun v hv hclash => h ((conflicts_iff hb hw).2 ⟨v, hv, hclash⟩)
      exact ⟨fun ho => ⟨⟨hb, .inr ⟨f, rfl⟩, hnone⟩, ho⟩, fun ho => ho.2⟩

/-- A keyword that is refused after acceptable ones. -/
theorem addKeyword_eq_error_iff (hb : Acceptable before) :
    (union before).addKeyword w = .error refusal ↔
      (ofKeyword? w = none ∧ refusal = .unknown w) ∨
        (∃ v ∈ before, Clash v w) ∧ refusal = .conflict w (union before) := by
  cases hw : Flag.ofKeyword? w with
  | none =>
    have hclash : ¬ ∃ v ∈ before, Clash v w := fun ⟨v, _, hv⟩ => not_clash_of_none hw v hv
    rw [addKeyword_of_none hw, ofKeyword?, hw]
    by_cases h : w = "default"
    · simp only [if_pos h, hclash, false_and, or_false, reduceCtorEq]
    · simp [if_neg h, hclash, eq_comm]
  | some f =>
    have hknown : ofKeyword? w ≠ none :=
      Option.isSome_iff_ne_none.1 (isSome_ofKeyword?_iff.2 (.inr ⟨f, hw⟩))
    rw [addKeyword_of_some hw, ← conflicts_iff hb hw]
    by_cases h : (union before).Conflicts f <;> simp [h, hknown, eq_comm]

/-! ### Lists -/

theorem ofKeywords_concat (before : List String) (w : String) :
    ofKeywords (before ++ [w]) = ofKeywords before >>= (·.addKeyword w) := by
  simp [ofKeywords, List.foldlM_append]

/-- **A list is read exactly if it is acceptable, as the union of its flags.** -/
theorem ofKeywords_eq_ok_iff : ofKeywords words = .ok o ↔ Acceptable words ∧ o = union words := by
  induction words using List.reverseRecOn generalizing o with
  | nil => simp [acceptable_nil, union, ofFlags, eq_comm]
  | append_singleton before w ih =>
    rw [ofKeywords_concat]
    constructor
    · intro h
      obtain ⟨o', ho', h⟩ := exists_of_bind_eq_ok h
      obtain ⟨hb, rfl⟩ := ih.1 ho'
      exact (addKeyword_eq_ok_iff hb).1 h
    · intro h
      have hb : Acceptable before := (acceptable_concat.1 h.1).1
      rw [ih.2 ⟨hb, rfl⟩]
      exact (addKeyword_eq_ok_iff hb).2 h

/-- **A list is refused for its first word that cannot be taken after those before it.** -/
theorem ofKeywords_eq_error_iff : ofKeywords words = .error refusal ↔
    ∃ before w after, words = before ++ w :: after ∧ Acceptable before ∧
      (union before).addKeyword w = .error refusal := by
  constructor
  · intro h
    induction words using List.reverseRecOn with
    | nil => cases h
    | append_singleton before w ih =>
      rw [ofKeywords_concat] at h
      -- either a word before `w` was refused, or `w` comes after acceptable ones
      cases ho : ofKeywords before with
      | error earlier =>
        rw [ho] at h
        obtain rfl : earlier = refusal := Except.error.inj h
        obtain ⟨first, v, after, rfl, hb, hv⟩ := ih ho
        exact ⟨first, v, after ++ [w], by simp, hb, hv⟩
      | ok o =>
        rw [ho] at h
        obtain ⟨hb, rfl⟩ := ofKeywords_eq_ok_iff.1 ho
        exact ⟨before, w, [], rfl, hb, h⟩
  · rintro ⟨before, w, after, rfl, hb, hw⟩
    have hread : ofKeywords (before ++ [w]) = .error refusal := by
      rw [ofKeywords_concat, ofKeywords_eq_ok_iff.2 ⟨hb, rfl⟩]
      exact hw
    rw [List.append_cons, ofKeywords, List.foldlM_append]
    rw [ofKeywords] at hread
    rw [hread]
    rfl

/-! ### What is read -/

/-- **Acceptable keywords keep the groups exclusive.** -/
theorem Acceptable.exclusive_union (h : Acceptable words) : (union words).Exclusive := by
  intro group f g hf hg hhf hhg
  obtain ⟨v, hv, hvf⟩ := has_union.1 hhf
  obtain ⟨w, hw, hwg⟩ := has_union.1 hhg
  by_contra hne
  exact h.exclusive v hv w hw ⟨f, g, group, hvf, hwg, hne, hf, hg⟩

/-- The same words, up to repetitions, order and `default`. -/
def SameWords (words others : List String) : Prop :=
  ∀ w, w ≠ "default" → (w ∈ words ↔ w ∈ others)

theorem SameWords.symm (h : SameWords words others) : SameWords others words :=
  fun w hw => (h w hw).symm

theorem Acceptable.of_sameWords (hw : Acceptable words) (h : SameWords words others) :
    Acceptable others := by
  constructor
  · intro w hmem
    by_cases hd : w = "default"
    · exact isSome_ofKeyword?_iff.2 (.inl hd)
    · exact hw.known w ((h w hd).2 hmem)
  · intro v hv u hu hclash
    obtain ⟨f, g, _, hf, hg, -⟩ := id hclash
    have hv' : v ∈ words := (h v (Flag.ne_default_of_ofKeyword? hf)).2 hv
    have hu' : u ∈ words := (h u (Flag.ne_default_of_ofKeyword? hg)).2 hu
    exact hw.exclusive v hv' u hu' hclash

theorem union_eq_of_sameWords (h : SameWords words others) : union words = union others := by
  refine ofFlags_congr fun f => ?_
  rw [List.mem_filterMap, List.mem_filterMap]
  refine exists_congr fun w => and_congr_left fun hf => ?_
  exact h w (Flag.ne_default_of_ofKeyword? hf)

/-- **What is read depends only on which words there are**, and `default` does not count. -/
theorem ofKeywords_congr (h : SameWords words others) :
    ofKeywords words = .ok o ↔ ofKeywords others = .ok o := by
  rw [ofKeywords_eq_ok_iff, ofKeywords_eq_ok_iff, union_eq_of_sameWords h]
  exact and_congr_left fun _ => ⟨fun hw => hw.of_sameWords h, fun ho => ho.of_sameWords h.symm⟩

/-! ### Descriptions -/

/-- The keywords of exclusive flags are read as these flags. -/
theorem ofKeywords_map_keyword {fs : List Flag} (h : (ofFlags fs).Exclusive) :
    ofKeywords (fs.map Flag.keyword) = .ok (ofFlags fs) := by
  refine ofKeywords_eq_ok_iff.2 ⟨⟨fun w hw => ?_, fun v hv w hw hclash => ?_⟩, ?_⟩
  · obtain ⟨f, -, rfl⟩ := List.mem_map.1 hw
    exact isSome_ofKeyword?_iff.2 (.inr ⟨f, f.ofKeyword?_keyword⟩)
  · obtain ⟨f, hf, rfl⟩ := List.mem_map.1 hv
    obtain ⟨g, hg, rfl⟩ := List.mem_map.1 hw
    obtain ⟨f', g', group, hf', hg', hne, hfg, hgg⟩ := hclash
    rw [Flag.ofKeyword?_keyword, Option.some.injEq] at hf' hg'
    subst hf' hg'
    exact hne (h group f g hfg hgg (has_ofFlags.2 hf) (has_ofFlags.2 hg))
  · have hsome : Flag.ofKeyword? ∘ Flag.keyword = some := funext Flag.ofKeyword?_keyword
    rw [union, List.filterMap_map, hsome, List.filterMap_some]

/-- The words of a text between its spaces. -/
def spaced (s : String) : List String := (Text.pieces ' ' s.toList).map String.ofList

theorem spaced_intercalate (hne : words ≠ []) (hwords : ∀ w ∈ words, ' ' ∉ w.toList) :
    spaced (" ".intercalate words) = words := by
  have hspace : " ".toList = [' '] := rfl
  rw [spaced, Text.pieces_eq_splitOn, String.toList_intercalate, hspace,
    List.splitOn_intercalate ' ' (by simpa using hwords) (by simpa using hne)]
  simp [Function.comp_def]

/-- **The description of exclusive flags is read as these flags.** -/
theorem ofKeywords_describe {fs : List Flag} (h : (ofFlags fs).Exclusive) :
    ofKeywords (spaced (ofFlags fs).describe) = .ok (ofFlags fs) := by
  have hspace (f : Flag) : ' ' ∉ f.keyword.toList := by cases f <;> decide
  rw [describe]
  by_cases ho : ofFlags fs = empty
  · rw [if_pos ho, ho]
    rfl
  · have hne : (ofFlags fs).flags ≠ [] := by
      intro hnil
      rw [← ofFlags_flags, hnil] at ho
      exact ho rfl
    rw [if_neg ho, spaced_intercalate (by simpa using hne) (by simpa using fun f _ => hspace f)]
    rw [← ofFlags_flags] at h
    rw [ofKeywords_map_keyword h, ofFlags_flags]

/-! ### As arguments of a directive -/

theorem parse_eq_ok_iff_ofKeywords : parse words = .ok o ↔ ofKeywords words = .ok o := by
  rw [parse]
  cases ofKeywords words <;> simp [Except.mapError]

theorem parse_eq_ok_iff : parse words = .ok o ↔ Acceptable words ∧ o = union words :=
  parse_eq_ok_iff_ofKeywords.trans ofKeywords_eq_ok_iff

theorem parse_eq_error_iff_ofKeywords {e : Error} :
    parse words = .error e ↔ ∃ refusal, ofKeywords words = .error refusal ∧ e = refusal.toError := by
  rw [parse]
  cases ofKeywords words <;> simp [Except.mapError, eq_comm]

/-- **The first word that is no keyword or clashes with an earlier one is reported**, as the one or
the other. -/
theorem parse_eq_error_iff {e : Error} : parse words = .error e ↔
    ∃ before w after, words = before ++ w :: after ∧ Acceptable before ∧
      ((ofKeyword? w = none ∧ e = .unknownOption w) ∨
        (∃ v ∈ before, Clash v w) ∧
          e = .parse w s!"conflicts with '{(union before).describe}'") := by
  rw [parse_eq_error_iff_ofKeywords]
  constructor
  · rintro ⟨refusal, hread, rfl⟩
    obtain ⟨before, w, after, rfl, hb, hw⟩ := ofKeywords_eq_error_iff.1 hread
    refine ⟨before, w, after, rfl, hb, ?_⟩
    rcases (addKeyword_eq_error_iff hb).1 hw with ⟨hunknown, rfl⟩ | ⟨hclash, rfl⟩
    · exact .inl ⟨hunknown, rfl⟩
    · exact .inr ⟨hclash, rfl⟩
  · rintro ⟨before, w, after, rfl, hb, hw⟩
    rcases hw with ⟨hunknown, rfl⟩ | ⟨hclash, rfl⟩
    · have hw := (addKeyword_eq_error_iff hb).2 (.inl ⟨hunknown, rfl⟩)
      exact ⟨_, ofKeywords_eq_error_iff.2 ⟨before, w, after, rfl, hb, hw⟩, rfl⟩
    · have hw := (addKeyword_eq_error_iff hb).2 (.inr ⟨hclash, rfl⟩)
      exact ⟨_, ofKeywords_eq_error_iff.2 ⟨before, w, after, rfl, hb, hw⟩, rfl⟩

theorem exclusive_of_parse (h : parse words = .ok o) : o.Exclusive := by
  obtain ⟨hw, rfl⟩ := parse_eq_ok_iff.1 h
  exact hw.exclusive_union

theorem unknownBits_of_parse (h : parse words = .ok o) : o.unknownBits = 0 := by
  obtain ⟨-, rfl⟩ := parse_eq_ok_iff.1 h
  exact unknownBits_ofFlags _

theorem parse_congr (h : SameWords words others) : parse words = .ok o ↔ parse others = .ok o := by
  rw [parse_eq_ok_iff_ofKeywords, parse_eq_ok_iff_ofKeywords]
  exact ofKeywords_congr h

/-- **The description of what was read is read as the same.** -/
theorem parse_describe (h : parse words = .ok o) : parse (spaced o.describe) = .ok o := by
  obtain ⟨hw, rfl⟩ := parse_eq_ok_iff.1 h
  exact parse_eq_ok_iff_ofKeywords.2 (ofKeywords_describe hw.exclusive_union)

end RenderOptions

end SpriteStage
