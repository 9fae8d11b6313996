import Mathlib.Data.List.Nodup
import SpriteStage.Program

/-!
# What a load leaves

A load sets the title and then the numbers, one after the other, and looks at the size of the
screen last. So a load that fails is not undone: its fault tells how far it came.

* `Fault.reached`: the fields that were set before a fault came up;
* `Taken`: the settings that entries make of others when some fields are taken over;
* `loadEntries_cases`: how a load of entries ends, and what it then has taken over;
* `loadText_cases`, `loadRead_cases`: a text or a file either has entries or changes nothing;
* `failed_load_keeps_iff`: a failed load leaves the settings as they were exactly when all that it
  set before its fault was set to what it had been.
-/

namespace SpriteStage.DisplaySettings

variable {c c' : DisplaySettings} {entries : List Ini.Entry} {fields : List Field} {f : Field}
  {fault : Fault}

/-! ### Reading a field -/

/-- The fields, in the order in which they are set. -/
def Field.inOrder : List Field := [.width, .height, .targetFps]

theorem Field.mem_inOrder (f : Field) : f ∈ Field.inOrder := by
  cases f <;> decide

/-- The number that entries give a field, if they give one it can take. -/
def given? (entries : List Ini.Entry) (f : Field) : Option UInt32 :=
  match readField entries f with
  | .ok n => n
  | .error _ => none

theorem given?_eq_some_iff {n : UInt32} :
    given? entries f = some n ↔ readField entries f = .ok (some n) := by
  unfold given?
  cases readField entries f <;> simp

/-- The fields that were set before a fault came up. -/
def Fault.reached : Fault → List Field
  | .badNumber f _ | .tooLarge f => Field.inOrder.takeWhile (· != f)
  | .emptyScreen _ _ => Field.inOrder
  | .unreadable _ _ | .malformedFile _ _ | .malformedText _ | .unwritable _ => []

/-- A field that cannot be read is the one its fault names. -/
theorem reached_of_readField (h : readField entries f = .error fault) :
    fault.reached = Field.inOrder.takeWhile (· != f) := by
  unfold readField at h
  split at h
  · cases h
  · split at h
    · cases h
      rfl
    · split at h
      · cases h
      · cases h
        rfl

theorem le_greatest_of_readField {n : UInt32} (h : readField entries f = .ok (some n)) :
    n.toNat ≤ greatest := by
  unfold readField at h
  split at h
  · cases h
  · split at h
    · cases h
    · split at h
      · cases h
        rw [UInt32.toNat_ofNat']
        exact Nat.le_trans (Nat.mod_le _ _) ‹_›
      · cases h

/-! ### Taking fields over -/

/-- The settings `c'` are `c` with the numbers that the entries give for some of the fields. -/
structure Taken (entries : List Ini.Entry) (fields : List Field) (c c' : DisplaySettings) :
    Prop where
  title : c'.title = c.title
  path : c'.path = c.path
  get (f : Field) : c'.get f = if f ∈ fields then (given? entries f).getD (c.get f) else c.get f

theorem get_set_of_ne {g : Field} (h : g ≠ f) (c : DisplaySettings) (n : UInt32) :
    (c.set f n).get g = c.get g := by
  cases f <;> cases g <;> first | rfl | exact absurd rfl h

theorem ext_get (htitle : c'.title = c.title) (hget : ∀ f, c'.get f = c.get f)
    (hpath : c'.path = c.path) : c' = c := by
  have hwidth := hget .width
  have hheight := hget .height
  have hfps := hget .targetFps
  obtain ⟨title, width, height, targetFps, path⟩ := c
  obtain ⟨title', width', height', targetFps', path'⟩ := c'
  simp only [get] at hwidth hheight hfps
  subst htitle hwidth hheight hfps hpath
  rfl

/-- Numbers that are taken over are in range. -/
theorem Taken.le_greatest (h : Taken entries fields c c') (hc : ∀ f, (c.get f).toNat ≤ greatest)
    (f : Field) : (c'.get f).toNat ≤ greatest := by
  rw [h.get f]
  split
  · cases hn : given? entries f with
    | none => exact hc f
    | some n => exact le_greatest_of_readField (given?_eq_some_iff.1 hn)
  · exact hc f

theorem Taken.nil (entries : List Ini.Entry) (c : DisplaySettings) : Taken entries [] c c :=
  ⟨rfl, rfl, fun _ => by simp⟩

theorem Taken.cons_none (hf : readField entries f = .ok none) (h : Taken entries fields c c') :
    Taken entries (f :: fields) c c' := by
  refine ⟨h.title, h.path, fun g => ?_⟩
  rw [h.get g]
  by_cases hg : g = f
  · subst hg
    simp [given?, hf]
  · simp [hg]

theorem Taken.cons_some {n : UInt32} (hf : readField entries f = .ok (some n))
    (h : Taken entries fields (c.set f n) c') : Taken entries (f :: fields) c c' := by
  refine ⟨h.title.trans (by cases f <;> rfl), h.path.trans (by cases f <;> rfl), fun g => ?_⟩
  rw [h.get g]
  by_cases hg : g = f
  · subst hg
    simp [given?, hf]
  · simp [hg, get_set_of_ne hg]

/-- How setting fields one after the other ends: with all of them taken over, or with those before
the first that cannot be read. -/
inductive Ending (entries : List Ini.Entry) (fields : List Field) (c : DisplaySettings) :
    Except Fault Unit × DisplaySettings → Prop
  | all {c' : DisplaySettings} (read : ∀ f ∈ fields, ∃ n, readField entries f = .ok n)
      (taken : Taken entries fields c c') : Ending entries fields c (.ok (), c')
  | stopped {before after : List Field} {f : Field} {fault : Fault} {c' : DisplaySettings}
      (split : fields = before ++ f :: after) (bad : readField entries f = .error fault)
      (taken : Taken entries before c c') : Ending entries fields c (.error fault, c')

theorem ending_loadFields (entries : List Ini.Entry) (c : DisplaySettings) (fields : List Field) :
    Ending entries fields c (loadFields entries c fields) := by
  induction fields generalizing c with
  | nil => exact .all (by simp) (.nil entries c)
  | cons f rest ih =>
    rw [loadFields]
    cases hf : readField entries f with
    | error fault => exact .stopped (List.nil_append (f :: rest)).symm hf (.nil entries c)
    | ok n =>
      -- what one field sets comes before what the rest sets, in either ending
      have step {d : DisplaySettings} (hcons : ∀ {fields c'}, Taken entries fields d c' →
          Taken entries (f :: fields) c c') :
          Ending entries (f :: rest) c (loadFields entries d rest) := by
        cases hd : loadFields entries d rest with
        | mk r c' =>
          cases hd ▸ ih d with
          | all read taken => exact .all (by simpa using ⟨⟨n, hf⟩, read⟩) (hcons taken)
          | stopped split bad taken => exact .stopped (by rw [split]; rfl) bad (hcons taken)
      cases n with
      | none => exact step fun h => h.cons_none hf
      | some n => exact step fun h => h.cons_some hf

/-! ### Loading -/

/-- The settings with the title that entries give, if they give one. -/
def titled (c : DisplaySettings) (entries : List Ini.Entry) : DisplaySettings :=
  { c with title := (Ini.value? entries heading "title").getD c.title }

@[simp] theorem get_titled (c : DisplaySettings) (entries : List Ini.Entry) (f : Field) :
    (c.titled entries).get f = c.get f := by
  cases f <;> rfl

/-- What was set before a field that cannot be read is what its fault says. -/
theorem eq_reached {before after : List Field} (split : Field.inOrder = before ++ f :: after)
    (bad : readField entries f = .error fault) : before = fault.reached := by
  have hnodup : (before ++ f :: after).Nodup := split ▸ by decide
  have hf : ∀ g ∈ before, (g != f) = true := fun g hg => by
    simpa using (List.nodup_append.1 hnodup).2.2 g hg f List.mem_cons_self
  rw [reached_of_readField bad, split, List.takeWhile_append_of_pos hf]
  simp

/-- How a load of entries ends: with all of them taken over, and then with a screen that is not
empty or the fault that it is; or at a field that cannot be read. -/
theorem loadEntries_cases (c : DisplaySettings) (entries : List Ini.Entry) :
    (∃ c', Taken entries Field.inOrder (c.titled entries) c' ∧
      (∀ f, ∃ n, readField entries f = .ok n) ∧
      c.loadEntries entries =
        if c'.width = 0 ∨ c'.height = 0 then (.error (.emptyScreen c'.width c'.height), c')
        else (.ok (), c')) ∨
      ∃ fault c', Taken entries fault.reached (c.titled entries) c' ∧
        (∃ f, readField entries f = .error fault) ∧ c.loadEntries entries = (.error fault, c') := by
  have hend := ending_loadFields entries (c.titled entries) Field.inOrder
  cases hp : loadFields entries (c.titled entries) Field.inOrder with
  | mk r c' =>
    have hload : loadFields entries
        { c with title := (Ini.value? entries heading "title").getD c.title }
        [.width, .height, .targetFps] = (r, c') := hp
    simp only [loadEntries, hload]
    rw [hp] at hend
    cases hend with
    | all read taken => exact .inl ⟨c', taken, fun f => read f f.mem_inOrder, rfl⟩
    | stopped split bad taken => exact .inr ⟨_, c', eq_reached split bad ▸ taken, ⟨_, bad⟩, rfl⟩

/-- A load that fails has taken over what its fault says. -/
theorem taken_of_loadEntries_eq_error (h : c.loadEntries entries = (.error fault, c')) :
    Taken entries fault.reached (c.titled entries) c' := by
  rcases loadEntries_cases c entries with ⟨d, taken, -, hd⟩ | ⟨fault', d, taken, -, hd⟩
  · rw [hd] at h
    split at h
    · cases h
      exact taken
    · cases h
  · rw [hd] at h
    cases h
    exact taken

/-- A text that has no entries is refused before anything is set. -/
theorem loadText_cases (c : DisplaySettings) (text : String) :
    (∃ fault, c.loadText text = (.error fault, c) ∧ ∀ entries, Ini.parse text ≠ .ok entries) ∨
      ∃ entries, Ini.parse text = .ok entries ∧ c.loadText text = c.loadEntries entries := by
  cases hparse : Ini.parse text with
  | error fault => exact .inl ⟨.malformedText fault, by simp [loadText, hparse], nofun⟩
  | ok entries => exact .inr ⟨entries, rfl, by simp [loadText, hparse]⟩

/-- A file that cannot be read, or that has no entries, is refused before anything is set. -/
theorem loadRead_cases (c : DisplaySettings) (file : Except Disk.Fault String) :
    (∃ fault, c.loadRead file = (.error fault, c) ∧
      ∀ text entries, file = .ok text → Ini.parse text ≠ .ok entries) ∨
      ∃ text entries, file = .ok text ∧ Ini.parse text = .ok entries ∧
        c.loadRead file = c.loadEntries entries := by
  cases file with
  | error fault => exact .inl ⟨.unreadable c.path fault, rfl, nofun⟩
  | ok text =>
    cases hparse : Ini.parse text with
    | error fault =>
      refine .inl ⟨.malformedFile c.path fault, by simp [loadRead, hparse], fun _ _ hfile => ?_⟩
      cases hfile
      simp [hparse]
    | ok entries => exact .inr ⟨text, entries, rfl, hparse, by simp [loadRead, hparse]⟩

/-! ### What stays as it was -/

/-- Entries that give the title and some of the fields, if at all, the values they have. -/
structure Confirmed (c : DisplaySettings) (entries : List Ini.Entry) (fields : List Field) :
    Prop where
  title (title : String) (h : Ini.value? entries heading "title" = some title) : title = c.title
  get (f : Field) (hf : f ∈ fields) (n : UInt32) (h : readField entries f = .ok (some n)) :
    n = c.get f

theorem Taken.eq_iff_confirmed (h : Taken entries fields (c.titled entries) c') :
    c' = c ↔ c.Confirmed entries fields := by
  constructor
  · rintro rfl
    refine ⟨fun title ht => ?_, fun f hf n hn => ?_⟩
    · simpa [titled, ht] using h.title.symm
    · have hget := h.get f
      rw [if_pos hf, given?_eq_some_iff.2 hn] at hget
      exact hget.symm
  · intro hc
    refine ext_get (h.title.trans ?_) (fun f => (h.get f).trans ?_) h.path
    · cases ht : Ini.value? entries heading "title" with
      | none => simp [titled, ht]
      | some title => simpa [titled, ht] using hc.title title ht
    · rw [get_titled]
      split
      · cases hn : given? entries f with
        | none => rfl
        | some n => exact hc.get f ‹_› n (given?_eq_some_iff.1 hn)
      · rfl

theorem eq_iff_of_loadText (text : String) (h : c.loadText text = (.error fault, c')) :
    c' = c ↔ ∀ entries, Ini.parse text = .ok entries → c.Confirmed entries fault.reached := by
  rcases loadText_cases c text with ⟨fault', hload, hnone⟩ | ⟨entries, hparse, hload⟩
  · cases hload.symm.trans h
    exact iff_of_true rfl fun entries hparse => absurd hparse (hnone entries)
  · rw [hload] at h
    refine (taken_of_loadEntries_eq_error h).eq_iff_confirmed.trans
      ⟨fun hc entries' hparse' => ?_, fun hc => hc entries hparse⟩
    cases hparse.symm.trans hparse'
    exact hc

theorem eq_iff_of_loadRead (file : Except Disk.Fault String)
    (h : c.loadRead file = (.error fault, c')) :
    c' = c ↔ ∀ text entries, file = .ok text → Ini.parse text = .ok entries →
      c.Confirmed entries fault.reached := by
  rcases loadRead_cases c file with ⟨fault', hload, hnone⟩ | ⟨text, entries, hfile, hparse, hload⟩
  · cases hload.symm.trans h
    exact iff_of_true rfl fun text entries hfile hparse => absurd hparse (hnone text entries hfile)
  · rw [hload] at h
    refine (taken_of_loadEntries_eq_error h).eq_iff_confirmed.trans
      ⟨fun hc text' entries' hfile' hparse' => ?_, fun hc => hc text entries hfile hparse⟩
    cases hfile.symm.trans hfile'
    cases hparse.symm.trans hparse'
    exact hc

/-- **A failed load leaves the settings as they were exactly when it had set nothing to another
value before its fault came up.** That goes for a text and for a file; and the program, which goes on
with what a failed load made of the standard settings, runs with the standard ones just then. -/
theorem failed_load_keeps_iff (c : DisplaySettings) :
    (∀ text fault c', c.loadText text = (.error fault, c') →
      (c' = c ↔ ∀ entries, Ini.parse text = .ok entries →
        c.Confirmed entries fault.reached)) ∧
    (∀ disk fault c', c.loadFile disk = (.error fault, c') →
      (c' = c ↔ ∀ text entries, disk.readText c.path = .ok text → Ini.parse text = .ok entries →
        c.Confirmed entries fault.reached)) ∧
    (∀ file fault, (standard.loadRead file).1 = .error fault →
      (Program.settings file = standard ↔
        ∀ text entries, file = .ok text → Ini.parse text = .ok entries →
          standard.Confirmed entries fault.reached)) := by
  refine ⟨fun text fault c' h => eq_iff_of_loadText text h,
    fun disk fault c' h => eq_iff_of_loadRead (disk.readText c.path) h, fun file fault h => ?_⟩
  exact eq_iff_of_loadRead file (Prod.ext h rfl)

/-- A text whose height is no number fails after its title and its width were set: the settings are
not what they were, and the program does not run with the standard ones. -/
theorem failed_load_keeps_title_and_width :
    standard.loadText "[display]\ntitle = demo\nwidth = 320\nheight = tall\n" =
        (.error (.badNumber .height .invalidDigit),
          { standard with title := "demo", width := 320 }) ∧
      Program.settings (.ok "[display]\ntitle = demo\nwidth = 320\nheight = tall\n") ≠
        standard := by
  decide +kernel

/-- A width that is given as what it already is, before a height that is no number. -/
theorem failed_load_of_same_width :
    standard.loadText "[display]\nwidth = 800\nheight = tall\n" =
        (.error (.badNumber .height .invalidDigit), standard) ∧
      ∀ entries, Ini.parse "[display]\nwidth = 800\nheight = tall\n" = .ok entries →
        standard.Confirmed entries (Fault.badNumber .height .invalidDigit).reached := by
  have h : standard.loadText "[display]\nwidth = 800\nheight = tall\n" =
      (.error (.badNumber .height .invalidDigit), standard) := by
    decide +kernel
  exact ⟨h, ((failed_load_keeps_iff standard).1 _ _ _ h).1 rfl⟩

end SpriteStage.DisplaySettings
