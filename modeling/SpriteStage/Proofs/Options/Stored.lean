import Mathlib.Data.List.TakeWhile
import SpriteStage.Proofs.Options.FlagSet
import SpriteStage.Proofs.Written
import SpriteStage.RenderOptions.Text

/-!
# Stored render options

* `Text.trimmed_pieces`: parts that were joined by a bar between spaces are found again;
* `partBits?_name`, `partBits?_hexText`: each part is read as the bits that it stands for;
* `ofText?_text`: **the stored form of options is read as these options**.
-/

namespace SpriteStage

/-! ### Parts between bars -/

namespace Text

variable {p rest : List Char} {parts : List (List Char)} {c : Char}

theorem pieces_append (hp : c ∉ p) (rest : List Char) :
    pieces c (p ++ c :: rest) = p :: pieces c rest := by
  induction p with
  | nil => exact pieces_separator c rest
  | cons d p ih =>
    obtain ⟨hd, hp⟩ := List.ne_and_not_mem_of_not_mem_cons hp
    rw [List.cons_append, pieces, if_neg hd.symm, ih hp]

/-- Whether some characters are a part of their own: at least one, and no blank or bar. -/
structure IsPart (p : List Char) : Prop where
  ne_nil : p ≠ []
  solid : ∀ c ∈ p, isBlank c = false
  bar : '|' ∉ p

theorem IsPart.trimmed (hp : IsPart p) {lead : List Char} (hlead : ∀ c ∈ lead, c = ' ') :
    '|' ∉ lead ++ p ∧ trimChars (lead ++ p ++ [' ']) = p ∧ trimChars (lead ++ p) = p := by
  have hblank : ∀ c ∈ lead, isBlank c = true := fun c hc => hlead c hc ▸ by decide
  have hbar : '|' ∉ lead := fun hc => absurd (hlead '|' hc) (by decide)
  have hspace : ∀ c ∈ [' '], isBlank c = true := List.forall_mem_singleton.2 (by decide)
  refine ⟨by simpa using ⟨hbar, hp.bar⟩, trimChars_append hblank hp.solid hspace, ?_⟩
  have hnone : ∀ c ∈ ([] : List Char), isBlank c = true := by simp
  simpa using trimChars_append hblank hp.solid hnone

/-- The spaces around a bar go. -/
theorem trimmed_pieces (hparts : ∀ p ∈ parts, IsPart p) (hne : parts ≠ []) {lead : List Char}
    (hlead : ∀ c ∈ lead, c = ' ') :
    (pieces '|' (lead ++ [' ', '|', ' '].intercalate parts)).map trimChars = parts := by
  induction parts generalizing lead with
  | nil => exact absurd rfl hne
  | cons p rest ih =>
    obtain ⟨hp, hrest⟩ := List.forall_mem_cons.1 hparts
    obtain ⟨hbar, hinner, hlast⟩ := hp.trimmed hlead
    cases rest with
    | nil =>
      rw [List.intercalate_singleton, pieces_of_not_mem hbar, List.map_singleton, hlast]
    | cons q rest =>
      have hbar' : '|' ∉ lead ++ p ++ [' '] := by simpa using hbar
      have hjoin : lead ++ [' ', '|', ' '].intercalate (p :: q :: rest) =
          (lead ++ p ++ [' ']) ++ '|' :: ([' '] ++ [' ', '|', ' '].intercalate (q :: rest)) := by
        simp [List.intercalate_cons_cons]
      rw [hjoin, pieces_append hbar', List.map_cons, hinner, ih hrest (by simp) (by simp)]

theorem trimChars_ne_nil {cs : List Char} (hc : c ∈ cs) (hsolid : isBlank c = false) :
    trimChars cs ≠ [] := by
  intro h
  rw [trimChars, List.reverse_eq_nil_iff, List.dropWhile_eq_nil_iff] at h
  rw [← List.takeWhile_append_dropWhile (p := isBlank) (l := cs), List.mem_append] at hc
  have hblank : isBlank c = true := hc.elim List.mem_takeWhile_imp fun hc => h c (by simpa using hc)
  rw [hsolid] at hblank
  cases hblank

/-- Parts are more than blanks. -/
theorem trimChars_intercalate_ne_nil (hparts : ∀ p ∈ parts, IsPart p) (hne : parts ≠ []) :
    trimChars ([' ', '|', ' '].intercalate parts) ≠ [] := by
  intro h
  have hbar : '|' ∉ [' ', '|', ' '].intercalate parts :=
    fun hc => trimChars_ne_nil hc (by decide) h
  have hpieces : (pieces '|' ([' ', '|', ' '].intercalate parts)).map trimChars = parts :=
    trimmed_pieces hparts hne (List.forall_mem_nil _)
  rw [pieces_of_not_mem hbar, List.map_singleton, h] at hpieces
  exact (hparts [] (hpieces ▸ List.mem_singleton_self _)).ne_nil rfl

end Text

/-! ### One part -/

namespace RenderOptions

open Text

variable {o : RenderOptions}

theorem partBits?_name (f : Flag) : partBits? f.name.toList = some f.bit := by
  cases f <;> decide

theorem isPart_name (f : Flag) : IsPart f.name.toList := by
  have hsolid : f.name.toList.all (fun c => isBlank c == false) = true := by
    cases f <;> decide
  refine ⟨by cases f <;> decide, fun c hc => ?_, by cases f <;> decide⟩
  exact eq_of_beq (List.all_eq_true.1 hsolid c hc)

theorem toList_hexText (n : UInt32) :
    (hexText n).toList = '0' :: 'x' :: Nat.toDigits 16 n.toNat := by
  simp [hexText]

theorem partBits?_hexText (n : UInt32) : partBits? (hexText n).toList = some n := by
  have hn : n.toNat ≤ 4294967295 := Nat.le_of_lt_succ n.toNat_lt
  rw [toList_hexText, partBits?, Unsigned.read_toDigits (by omega) (by omega) hn]
  exact congrArg some UInt32.ofNat_toNat

theorem isPart_hexText (n : UInt32) : IsPart (hexText n).toList := by
  have hsolid : ∀ d < 16, isBlank (Nat.digitChar d) = false ∧ '|' ≠ Nat.digitChar d := by decide
  have hdigits : ∀ c ∈ Nat.toDigits 16 n.toNat, isBlank c = false ∧ '|' ≠ c := fun c hc => by
    obtain ⟨d, hd, rfl⟩ := exists_digitChar (by omega) _ c hc
    exact hsolid d hd
  rw [toList_hexText]
  refine ⟨by simp, ?_, ?_⟩
  · simp only [List.forall_mem_cons]
    exact ⟨by decide, by decide, fun c hc => (hdigits c hc).1⟩
  · simp only [List.mem_cons, not_or]
    exact ⟨by decide, by decide, fun hc => (hdigits _ hc).2 rfl⟩

/-! ### All parts -/

/-- The bits that have a meaning are those of the flags. -/
theorem bits_ofFlags_flags (o : RenderOptions) :
    (ofFlags o.flags).bits = o.bits &&& (ofFlags Flag.all).bits := by
  refine UInt32.toNat_inj.1 (Nat.eq_of_testBit_eq fun i => ?_)
  rw [UInt32.toNat_and, Nat.testBit_and, testBit_ofFlags, testBit_ofFlags, Bool.eq_iff_iff,
    Bool.and_eq_true, List.any_eq_true, List.any_eq_true]
  simp only [mem_flags, has_eq_testBit, Flag.mem_all, beq_iff_eq, true_and]
  constructor
  · rintro ⟨f, hf, rfl⟩
    exact ⟨hf, f, rfl⟩
  · rintro ⟨hi, f, rfl⟩
    exact ⟨f, hi, rfl⟩

theorem and_or_and_not (a b : UInt32) : (a &&& b) ||| (a &&& ~~~b) = a := by
  refine UInt32.toBitVec_inj.1 ?_
  simp only [UInt32.toBitVec_or, UInt32.toBitVec_and, UInt32.toBitVec_not]
  ext i hi
  simp only [BitVec.getElem_or, BitVec.getElem_and, BitVec.getElem_not]
  cases a.toBitVec[i] <;> simp

/-- Options are their flags and their other bits. -/
theorem flags_or_unknownBits (o : RenderOptions) :
    (ofFlags o.flags).bits ||| o.unknownBits = o.bits := by
  rw [bits_ofFlags_flags, unknownBits, and_or_and_not]

/-- The parts of the stored form. -/
def parts (o : RenderOptions) : List String :=
  o.flags.map Flag.name ++ if o.unknownBits = 0 then [] else [hexText o.unknownBits]

theorem isPart_parts {p : List Char} (hp : p ∈ o.parts.map String.toList) : IsPart p := by
  obtain ⟨word, hword, rfl⟩ := List.mem_map.1 hp
  rw [parts, List.mem_append] at hword
  rcases hword with hword | hword
  · obtain ⟨f, -, rfl⟩ := List.mem_map.1 hword
    exact isPart_name f
  · split at hword
    · cases hword
    · rw [List.mem_singleton.1 hword]
      exact isPart_hexText _

theorem toList_text (o : RenderOptions) :
    o.text.toList = [' ', '|', ' '].intercalate (o.parts.map String.toList) :=
  String.toList_intercalate

/-- Add the bits of a part. -/
def addPart? (o : RenderOptions) (part : List Char) : Option RenderOptions :=
  (partBits? part).map fun b => ⟨o.bits ||| b⟩

theorem foldlM_names (o : RenderOptions) (fs : List Flag) :
    (fs.map (·.name.toList)).foldlM addPart? o = some (fs.foldl insert o) := by
  induction fs generalizing o with
  | nil => rfl
  | cons f fs ih =>
    have hf : addPart? o f.name.toList = some (o.insert f) := by
      rw [addPart?, partBits?_name]
      rfl
    rw [List.map_cons, List.foldlM_cons, hf]
    exact ih (o.insert f)

theorem foldlM_parts (o : RenderOptions) :
    (o.parts.map String.toList).foldlM addPart? empty = some o := by
  have hnames : (o.flags.map Flag.name).map String.toList = o.flags.map (·.name.toList) :=
    List.map_map
  have hflags : (o.flags.map (·.name.toList)).foldlM addPart? empty = some (ofFlags o.flags) :=
    foldlM_names empty o.flags
  have hbits := flags_or_unknownBits o
  rw [parts, List.map_append, List.foldlM_append, hnames, hflags]
  split
  · next hzero =>
    rw [hzero, UInt32.or_zero] at hbits
    exact congrArg (some ∘ mk) hbits
  · have hrest : addPart? (ofFlags o.flags) (hexText o.unknownBits).toList = some o := by
      rw [addPart?, partBits?_hexText, Option.map_some, hbits]
    simp [hrest]

/-- **The stored form of options is read as these options.** -/
theorem ofText?_text (o : RenderOptions) : ofText? o.text = some o := by
  have hparts := foldlM_parts o
  rw [ofText?, toList_text]
  by_cases hne : o.parts = []
  · rw [hne] at hparts ⊢
    exact hparts
  · have hne' : o.parts.map String.toList ≠ [] := by simpa using hne
    have hpieces : (pieces '|' ([' ', '|', ' '].intercalate (o.parts.map String.toList))).map
        trimChars = o.parts.map String.toList :=
      trimmed_pieces (fun p => isPart_parts) hne' (List.forall_mem_nil _)
    rw [if_neg (trimChars_intercalate_ne_nil (fun p => isPart_parts) hne')]
    rw [← hpieces, List.foldlM_map] at hparts
    exact hparts

end RenderOptions

end SpriteStage
