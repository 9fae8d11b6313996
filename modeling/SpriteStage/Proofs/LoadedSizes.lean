import SpriteStage.Proofs.SettingsLoad

/-!
# Loaded sizes

The numbers of the settings are unsigned and the size of the screen is signed. What a load takes
over is in the range of both, whether it fails or not, so no run of loads makes a size wrap.

* `Load`, `loadAll`: loads of texts and of files, and runs of them, failing ones included;
* `Fits`: settings whose numbers are in range, which every load keeps (`Fits.load`), and so every
  run (`Fits.loadAll`);
* `screenSize_of_fits`: the size of a screen that is in range;
* `loaded_of_load`: what a load that succeeds has made of the settings;
* `loaded_sizes_fit`: all of that after every run of loads.
-/

namespace SpriteStage.DisplaySettings

/-! ### Runs of loads -/

/-- A load of a text, or of the file of the settings on a disk. -/
inductive Load
  | text (text : String)
  | file (disk : Disk)

/-- Load: how it ended, and what it left of the settings. -/
def load (c : DisplaySettings) : Load → Except Fault Unit × DisplaySettings
  | .text text => c.loadText text
  | .file disk => c.loadFile disk

/-- The settings after loads in a row, whether they fail or not. -/
def loadAll (c : DisplaySettings) (loads : List Load) : DisplaySettings :=
  loads.foldl (fun c l => (c.load l).2) c

/-- The text that a load reads. -/
def source (c : DisplaySettings) : Load → Except Disk.Fault String
  | .text text => .ok text
  | .file disk => disk.readText c.path

variable {c c' : DisplaySettings} {entries : List Ini.Entry} {f : Field}

/-- A load comes as far as the entries of its text, or fails before it sets anything. -/
theorem load_cases (c : DisplaySettings) (l : Load) :
    (∃ fault, c.load l = (.error fault, c)) ∨
      ∃ text entries, c.source l = .ok text ∧ Ini.parse text = .ok entries ∧
        c.load l = c.loadEntries entries := by
  cases l with
  | text text =>
    exact (loadText_cases c text).imp (fun ⟨fault, h, _⟩ => ⟨fault, h⟩)
      fun ⟨entries, hparse, h⟩ => ⟨text, entries, rfl, hparse, h⟩
  | file disk =>
    exact (loadRead_cases c (disk.readText c.path)).imp_left fun ⟨fault, h, _⟩ => ⟨fault, h⟩

/-! ### Numbers in range -/

/-- Settings whose numbers are in range. -/
def Fits (c : DisplaySettings) : Prop := ∀ f, (c.get f).toNat ≤ greatest

theorem fits_start (path? : Option String) : (path?.elim standard withPath).Fits := by
  intro f
  have hget : (path?.elim standard withPath).get f = standard.get f := by
    cases path? <;> cases f <;> rfl
  rw [hget]
  cases f <;> decide

theorem Fits.loadEntries (hc : c.Fits) (entries : List Ini.Entry) :
    (c.loadEntries entries).2.Fits := by
  have htitled : (c.titled entries).Fits := fun f => by simpa using hc f
  rcases loadEntries_cases c entries with ⟨c', taken, -, hload⟩ | ⟨fault, c', taken, -, hload⟩
  · rw [hload]
    split
    · exact taken.le_greatest htitled
    · exact taken.le_greatest htitled
  · rw [hload]
    exact taken.le_greatest htitled

/-- **A load keeps the numbers in range, whether it fails or not.** -/
theorem Fits.load (hc : c.Fits) (l : Load) : (c.load l).2.Fits := by
  rcases load_cases c l with ⟨fault, h⟩ | ⟨text, entries, -, -, h⟩
  · rwa [h]
  · rw [h]
    exact hc.loadEntries entries

theorem Fits.loadAll (hc : c.Fits) (loads : List Load) : (c.loadAll loads).Fits := by
  induction loads generalizing c with
  | nil => exact hc
  | cons l loads ih => exact ih (hc.load l)

theorem toInt_toInt32 {n : UInt32} (h : n.toNat ≤ greatest) : n.toInt32.toInt = n.toNat := by
  unfold greatest at h
  rw [← Int32.toInt_toBitVec, UInt32.toBitVec_toInt32, BitVec.toInt_eq_toNat_cond,
    UInt32.toNat_toBitVec, if_pos (by omega)]

/-- A size in range does not wrap. -/
theorem screenSize_of_fits (hc : c.Fits) :
    c.screenSize.width.toInt = c.width.toNat ∧ c.screenSize.height.toInt = c.height.toNat :=
  ⟨toInt_toInt32 (hc .width), toInt_toInt32 (hc .height)⟩

/-! ### Loads that succeed -/

/-- The settings `c'` are `c` with everything that entries set, and have a screen that is not
empty. -/
structure Loaded (entries : List Ini.Entry) (c c' : DisplaySettings) : Prop where
  title : c'.title = (Ini.value? entries heading "title").getD c.title
  path : c'.path = c.path
  kept (f : Field) (h : Ini.value? entries heading f.key = none) : c'.get f = c.get f
  /-- A number that is set is the value of its text. -/
  set (f : Field) (text : String) (h : Ini.value? entries heading f.key = some text) :
    Unsigned.read 10 18446744073709551615 text.toList = .ok (c'.get f).toNat
  width : 1 ≤ c'.width.toNat
  height : 1 ≤ c'.height.toNat

/-- A number that is read is the value of its text. -/
theorem read_of_readField {text : String} {n? : Option UInt32}
    (ht : Ini.value? entries heading f.key = some text) (h : readField entries f = .ok n?) :
    ∃ n, n? = some n ∧ Unsigned.read 10 18446744073709551615 text.toList = .ok n.toNat := by
  simp only [readField, ht] at h
  split at h
  · cases h
  · next n hn =>
    split at h
    · next hle =>
      cases h
      unfold greatest at hle
      refine ⟨_, rfl, ?_⟩
      rw [hn, UInt32.toNat_ofNat', Nat.mod_eq_of_lt (by omega)]
    · cases h

theorem one_le_toNat {n : UInt32} (h : n ≠ 0) : 1 ≤ n.toNat :=
  UInt32.lt_iff_toNat_lt.1 (UInt32.pos_iff_ne_zero.2 h)

theorem loaded_of_loadEntries (h : c.loadEntries entries = (.ok (), c')) : Loaded entries c c' := by
  rcases loadEntries_cases c entries with ⟨d, taken, hread, hload⟩ | ⟨fault, d, -, -, hload⟩
  · rw [hload] at h
    split at h
    · cases h
    · next hsize =>
      cases h
      obtain ⟨hwidth, hheight⟩ := not_or.1 hsize
      have hget (f : Field) : c'.get f = (given? entries f).getD (c.get f) := by
        rw [taken.get f, if_pos f.mem_inOrder, get_titled]
      refine ⟨taken.title, taken.path, fun f hf => ?_, fun f text hf => ?_, one_le_toNat hwidth,
        one_le_toNat hheight⟩
      · simp [hget f, given?, readField, hf]
      · obtain ⟨n?, hn⟩ := hread f
        obtain ⟨n, rfl, hvalue⟩ := read_of_readField hf hn
        rwa [hget f, given?_eq_some_iff.2 hn]
  · cases hload.symm.trans h

theorem loaded_of_load {l : Load} (h : c.load l = (.ok (), c')) :
    ∃ text entries, c.source l = .ok text ∧ Ini.parse text = .ok entries ∧ Loaded entries c c' := by
  rcases load_cases c l with ⟨fault, hload⟩ | ⟨text, entries, hsource, hparse, hload⟩
  · cases hload.symm.trans h
  · exact ⟨text, entries, hsource, hparse, loaded_of_loadEntries (hload.symm.trans h)⟩

/-! ### Every run -/

/-- **Loaded sizes fit the screen.** After every run of loads of texts and files, failing ones
included, that starts from the standard settings with some path, every number is at most the
greatest signed one, and the size of the screen is the width and the height. And after a load that
succeeds, from there, neither is zero, and what the text does not set is what it was before. -/
theorem loaded_sizes_fit (path? : Option String) (loads : List Load) :
    let c := (path?.elim standard withPath).loadAll loads
    (c.width.toNat ≤ 2147483647 ∧ c.height.toNat ≤ 2147483647 ∧
      c.targetFps.toNat ≤ 2147483647) ∧
    (c.screenSize.width.toInt = c.width.toNat ∧ c.screenSize.height.toInt = c.height.toNat) ∧
    ∀ l c', c.load l = (.ok (), c') →
      ∃ text entries, c.source l = .ok text ∧ Ini.parse text = .ok entries ∧
        Loaded entries c c' := by
  intro c
  have hc : c.Fits := (fits_start path?).loadAll loads
  exact ⟨⟨hc .width, hc .height, hc .targetFps⟩, screenSize_of_fits hc,
    fun l c' h => loaded_of_load h⟩

/-- A load that sets the height only, after one that failed at the height: the width is what that
one had set. -/
theorem loaded_sizes_fit_after_failure :
    let c := standard.loadAll [.text "[display]\nwidth = 2147483647\nheight = tall\n"]
    ∃ c', c.load (.text "[display]\nheight = 5\n") = (.ok (), c') ∧ 1 ≤ c'.height.toNat ∧
      c.screenSize.width.toInt = 2147483647 ∧ c'.get .width = c.get .width := by
  intro c
  obtain ⟨-, ⟨hwidth, -⟩, hloads⟩ :=
    loaded_sizes_fit none [.text "[display]\nwidth = 2147483647\nheight = tall\n"]
  have h : c.load (.text "[display]\nheight = 5\n") =
      (.ok (), { standard with width := 2147483647, height := 5 }) := by
    decide +kernel
  obtain ⟨text, entries, htext, hparse, hloaded⟩ := hloads _ _ h
  have hnone : Ini.value? entries heading Field.width.key = none := by
    cases htext
    have hkept : (Ini.parse "[display]\nheight = 5\n").map
        (Ini.value? · heading Field.width.key) = .ok none := by
      decide +kernel
    rw [hparse] at hkept
    exact Except.ok.inj hkept
  refine ⟨_, h, hloaded.height, hwidth.trans ?_, hloaded.kept .width hnone⟩
  decide +kernel

end SpriteStage.DisplaySettings
