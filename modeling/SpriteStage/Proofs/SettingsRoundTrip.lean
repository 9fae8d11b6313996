import SpriteStage.Proofs.Ini
import SpriteStage.Proofs.SettingsLoad
import SpriteStage.Proofs.Written

/-!
# Saved settings

Settings are saved as one section of four pairs, the title as it is. So saving and loading gives
back the settings whose title is plain and whose numbers are in range, and no others.

* `Disk.readText_of_write`: a text that was written to a file is read from it;
* `loadFile_of_write`: a title on one line comes back as what is kept of it, the numbers as they
  were;
* `load_saved_iff_storable`: loading what was saved gives back exactly the storable settings.
-/

namespace SpriteStage

theorem exists_of_isOk {ε α : Type} {x : Except ε α} (h : x.isOk = true) : ∃ a, x = .ok a := by
  cases x with
  | error e => cases h
  | ok a => exact ⟨a, rfl⟩

/-! ### Files -/

namespace Disk

variable {d d' : Disk} {place p : List String} {path : String}

theorem isDirectory_of_directories (hd : d'.directories = d.directories) (place : List String) :
    d'.isDirectory place = d.isDirectory place := by
  rw [isDirectory, isDirectory, hd]

/-- The way through directories does not depend on the files. -/
theorem enter_of_directories {name : String} (hd : d'.directories = d.directories)
    (h : d.enter place name = .ok p) : d'.enter place name = .ok p := by
  unfold enter at h ⊢
  rw [isDirectory_of_directories hd]
  split_ifs at h ⊢ <;> exact h

theorem walk_of_directories {names : List String} (hd : d'.directories = d.directories)
    (h : d.walk place names = .ok p) : d'.walk place names = .ok p := by
  induction names generalizing place with
  | nil => exact h
  | cons name rest ih =>
    obtain ⟨next, hnext, h⟩ := exists_of_bind_eq_ok h
    rw [walk, enter_of_directories hd hnext]
    exact ih h

theorem target_of_directories {t : Target} (hd : d'.directories = d.directories)
    (h : d.target path = .ok t) : d'.target path = .ok t := by
  unfold target at h ⊢
  split_ifs at h ⊢
  split at h
  · exact h
  · obtain ⟨place, hplace, h⟩ := exists_of_bind_eq_ok h
    rw [walk_of_directories hd hplace]
    exact h

/-- What it takes to write a file, and what the disk is then. -/
theorem write_eq_ok {bytes : ByteArray} (h : d.write path bytes = .ok d') :
    ∃ place name, d.target path = .ok (.entry place name false) ∧
      name.utf8ByteSize ≤ greatestName ∧ d.isDirectory (place ++ [name]) = false ∧
      d'.directories = d.directories ∧ d'.contents? (place ++ [name]) = some bytes := by
  obtain ⟨t, ht, h⟩ := exists_of_bind_eq_ok h
  cases t with
  | directory => cases h
  | entry place name slash =>
    simp only at h
    split_ifs at h with hslash hname hdir
    obtain rfl : slash = false := by simpa using hslash
    cases h
    exact ⟨place, name, ht, by omega, by simpa using hdir, rfl, Keyed.lookup_put_self ..⟩

/-- What was written to a file is read from it. -/
theorem read_of_write {bytes : ByteArray} (h : d.write path bytes = .ok d') :
    d'.read path = .ok bytes := by
  obtain ⟨place, name, htarget, hname, hdir, hd, hbytes⟩ := write_eq_ok h
  rw [read, target_of_directories hd htarget]
  simp only [Bind.bind, Except.bind, isDirectory_of_directories hd, hdir, hbytes]
  rw [if_neg (by omega)]
  rfl

theorem readText_of_write {text : String} (h : d.write path text.toUTF8 = .ok d') :
    d'.readText path = .ok text := by
  have hvalid : String.fromUTF8? text.toUTF8 = some text := dif_pos text.isValidUTF8
  rw [readText, read_of_write h]
  simp only [Bind.bind, Except.bind, hvalid]

end Disk

/-! ### The file of settings -/

namespace DisplaySettings

variable {c d : DisplaySettings} {lines : List (String × String)} {entries : List Ini.Entry}
  {f : Field} {disk disk' : Disk}

/-- The pairs of the file of settings. -/
def pairs (c : DisplaySettings) : List (String × String) :=
  ("title", c.title) :: Field.inOrder.map fun f => (f.key, toString (c.get f).toNat)

theorem text_eq (c : DisplaySettings) : c.text = Ini.print heading c.pairs := rfl

theorem keys_pairs (c : DisplaySettings) :
    c.pairs.map Prod.fst = ["title", "width", "height", "target_fps"] := rfl

theorem nodup_keys (hp : lines.Perm c.pairs) : (lines.map Prod.fst).Nodup := by
  rw [(hp.map Prod.fst).nodup_iff, keys_pairs]
  decide

theorem isName_of_mem {key : String}
    (h : key ∈ [heading, "title", "width", "height", "target_fps"]) : Ini.IsName key := by
  simp only [List.mem_cons, List.not_mem_nil, or_false] at h
  rcases h with rfl | rfl | rfl | rfl | rfl <;> decide +kernel

/-- A number is written as a plain text. -/
theorem plain_toString (n : Nat) : Ini.Plain (toString n) := by
  have hdigit : ∀ c ∈ (toString n).toList, c.isDigit = true :=
    fun c => Decimal.isDigit_of_mem_toString
  have hother (d : Char) (hd : d.isDigit = false) : d ∉ (toString n).toList := fun hmem => by
    rw [hdigit d hmem] at hd
    cases hd
  refine ⟨hother '\n' rfl, fun c hc => ?_, ?_⟩
  · rw [Ini.isCommentMark, Bool.or_eq_false_iff, beq_eq_false_iff_ne, beq_eq_false_iff_ne]
    exact ⟨fun h => hother ';' rfl (h ▸ hc), fun h => hother '#' rfl (h ▸ hc)⟩
  · rw [Text.trim, Text.trimChars_of_not_blank fun c hc => Text.isBlank_of_isDigit (hdigit c hc),
      String.ofList_toList]

theorem write_of_save (h : c.save disk = .ok disk') :
    disk.write c.path (Ini.print heading c.pairs).toUTF8 = .ok disk' := by
  rw [save, text_eq] at h
  cases hw : disk.write c.path (Ini.print heading c.pairs).toUTF8 with
  | error fault =>
    rw [hw] at h
    cases h
  | ok written =>
    rw [hw] at h
    cases h
    rfl

/-! ### Loading what was saved -/

/-- The title of settings whose pairs stand in the entries, in whatever order. -/
theorem title_written (hp : lines.Perm c.pairs) :
    Ini.value? (lines.map (Ini.written heading)) heading "title" = some (Ini.kept c.title) :=
  Ini.value?_written (nodup_keys hp) (hp.mem_iff.2 List.mem_cons_self) heading

/-- The number of a field of settings whose pairs stand in the entries, in whatever order. -/
theorem readField_written (hp : lines.Perm c.pairs) (hf : (c.get f).toNat ≤ greatest) :
    readField (lines.map (Ini.written heading)) f = .ok (some (c.get f)) := by
  have hmem : (f.key, toString (c.get f).toNat) ∈ lines :=
    hp.mem_iff.2 (List.mem_cons_of_mem _ (List.mem_map_of_mem f.mem_inOrder))
  have hvalue := Ini.value?_written (nodup_keys hp) hmem heading
  rw [(plain_toString _).kept_eq] at hvalue
  have hread : Unsigned.read 10 18446744073709551615 (toString (c.get f).toNat).toList =
      .ok (c.get f).toNat := Unsigned.read_toString (by unfold greatest at hf; omega)
  simp only [readField, hvalue, hread]
  rw [if_pos hf, UInt32.ofNat_toNat]

theorem loadEntries_written (hp : lines.Perm c.pairs) (hf : ∀ f, (c.get f).toNat ≤ greatest)
    (hwidth : c.width ≠ 0) (hheight : c.height ≠ 0) (hpath : d.path = c.path) :
    d.loadEntries (lines.map (Ini.written heading)) =
      (.ok (), { c with title := Ini.kept c.title }) := by
  rcases loadEntries_cases d (lines.map (Ini.written heading)) with
    ⟨c', taken, -, hload⟩ | ⟨fault, c', -, ⟨f, bad⟩, -⟩
  · obtain rfl : c' = { c with title := Ini.kept c.title } := by
      refine ext_get (taken.title.trans ?_) (fun f => (taken.get f).trans ?_)
        (taken.path.trans hpath)
      · simp [titled, title_written hp]
      · rw [if_pos f.mem_inOrder, given?_eq_some_iff.2 (readField_written hp (hf f))]
        cases f <;> rfl
    rw [hload, if_neg (by simp [hwidth, hheight])]
  · cases (readField_written hp (hf f)).symm.trans bad

/-- A title on one line comes back as what is kept of it, numbers that can be loaded as they
were. -/
theorem loadFile_of_write (hp : lines.Perm c.pairs) (hl : '\n' ∉ c.title.toList)
    (hf : ∀ f, (c.get f).toNat ≤ greatest) (hwidth : c.width ≠ 0) (hheight : c.height ≠ 0)
    (hw : disk.write c.path (Ini.print heading lines).toUTF8 = .ok disk') :
    (withPath c.path).loadFile disk' = (.ok (), { c with title := Ini.kept c.title }) := by
  have hname : ∀ p ∈ lines, Ini.IsName p.1 := fun p hmem => by
    refine isName_of_mem (List.mem_cons_of_mem _ ?_)
    rw [← keys_pairs c]
    exact List.mem_map_of_mem (hp.subset hmem)
  have hline : ∀ p ∈ lines, '\n' ∉ p.2.toList := fun p hmem => by
    rcases List.mem_cons.1 (hp.subset hmem) with rfl | hmem
    · exact hl
    · obtain ⟨f, -, rfl⟩ := List.mem_map.1 hmem
      exact (plain_toString _).oneLine
  have hparse := Ini.parse_print (isName_of_mem List.mem_cons_self) hname hline
  have hread : disk'.readText (withPath c.path).path = .ok (Ini.print heading lines) :=
    Disk.readText_of_write hw
  rw [loadFile, hread]
  simp only [loadRead, hparse]
  exact loadEntries_written hp hf hwidth hheight rfl

/-! ### What can be loaded -/

/-- Settings with a plain title, with numbers in range and with a screen that is not empty. -/
structure Storable (c : DisplaySettings) : Prop where
  title : Ini.Plain c.title
  le_greatest (f : Field) : (c.get f).toNat ≤ greatest
  width : c.width ≠ 0
  height : c.height ≠ 0

/-- Entries of whatever text make storable settings of storable ones, if they can be loaded. -/
theorem storable_of_loadEntries {text : String} (hparse : Ini.parse text = .ok entries)
    (hd : d.Storable) (h : d.loadEntries entries = (.ok (), c)) : c.Storable := by
  rcases loadEntries_cases d entries with ⟨c', taken, -, hload⟩ | ⟨fault, c', -, -, hload⟩
  · rw [hload] at h
    split at h
    · cases h
    · rename_i hsize
      cases h
      obtain ⟨hwidth, hheight⟩ := not_or.1 hsize
      refine ⟨?_, taken.le_greatest (by simpa using hd.le_greatest), hwidth, hheight⟩
      rw [taken.title]
      cases ht : Ini.value? entries heading "title" with
      | none => simpa [titled, ht] using hd.title
      | some title => simpa [titled, ht] using Ini.plain_of_parse hparse ht
  · cases hload.symm.trans h

theorem storable_standard : standard.Storable :=
  ⟨by decide +kernel, fun f => by cases f <;> decide, by decide, by decide⟩

theorem storable_withPath (path : String) : (withPath path).Storable := by
  refine ⟨storable_standard.title, fun f => ?_, storable_standard.width, storable_standard.height⟩
  have hget : (withPath path).get f = standard.get f := by cases f <;> rfl
  rw [hget]
  exact storable_standard.le_greatest f

theorem storable_of_loadFile {path : String} (h : (withPath path).loadFile disk = (.ok (), c)) :
    c.Storable := by
  unfold loadFile at h
  rcases loadRead_cases (withPath path) (disk.readText (withPath path).path) with
    ⟨fault, hload, -⟩ | ⟨text, entries, -, hparse, hload⟩
  · cases hload.symm.trans h
  · exact storable_of_loadEntries hparse (storable_withPath path) (hload.symm.trans h)

/-- **Saving and loading gives back the storable settings and no others**, whatever the order in
which the pairs stand in the file. So of settings with numbers in range and a screen that is not
empty, exactly those with a plain title come back as they were. -/
theorem load_saved_iff_storable (c : DisplaySettings) (disk : Disk) :
    (∀ disk', c.save disk = .ok disk' →
      ((withPath c.path).loadFile disk' = (.ok (), c) ↔ c.Storable)) ∧
    ∀ lines disk', lines.Perm c.pairs →
      disk.write c.path (Ini.print heading lines).toUTF8 = .ok disk' →
      ((withPath c.path).loadFile disk' = (.ok (), c) ↔ c.Storable) := by
  have hany (lines : List (String × String)) (disk' : Disk) (hp : lines.Perm c.pairs)
      (hw : disk.write c.path (Ini.print heading lines).toUTF8 = .ok disk') :
      (withPath c.path).loadFile disk' = (.ok (), c) ↔ c.Storable := by
    refine ⟨storable_of_loadFile, fun hc => ?_⟩
    have hload := loadFile_of_write hp hc.title.oneLine hc.le_greatest hc.width hc.height hw
    rwa [hc.title.kept_eq] at hload
  exact ⟨fun disk' h => hany c.pairs disk' (.refl _) (write_of_save h), hany⟩

/-- Settings of another title and size, saved and loaded. -/
theorem load_saved_of_plain :
    let c : DisplaySettings := ⟨"a title = [saved]", 1024, 768, 0, "c.ini"⟩
    ∃ saved, c.save .empty = .ok saved ∧ (withPath "c.ini").loadFile saved = (.ok (), c) := by
  intro c
  obtain ⟨saved, h⟩ := exists_of_isOk (show (c.save .empty).isOk = true by decide +kernel)
  have hc : c.Storable :=
    ⟨by decide +kernel, fun f => by cases f <;> decide, by decide, by decide⟩
  exact ⟨saved, h, ((load_saved_iff_storable c .empty).1 saved h).2 hc⟩

/-- A title with a comment mark is saved without a complaint and comes back without its end. -/
theorem load_saved_of_comment :
    let c : DisplaySettings := ⟨"a;b", 800, 600, 60, "c.ini"⟩
    ∃ saved, c.save .empty = .ok saved ∧
      (withPath "c.ini").loadFile saved = (.ok (), { c with title := "a" }) ∧
      { c with title := "a" } ≠ c := by
  intro c
  obtain ⟨saved, h⟩ := exists_of_isOk (show (c.save .empty).isOk = true by decide +kernel)
  have hload := loadFile_of_write (.refl _) (by decide +kernel) (fun f => by cases f <;> decide)
    (by decide) (by decide) (write_of_save h)
  have hkept : Ini.kept c.title = "a" := by decide +kernel
  rw [hkept] at hload
  exact ⟨saved, h, hload, by decide⟩

end DisplaySettings

end SpriteStage
