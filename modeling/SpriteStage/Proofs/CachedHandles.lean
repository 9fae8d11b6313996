import SpriteStage.Proofs.Recorder
import SpriteStage.Proofs.TextureCache

/-!
# The handles of the cached textures

* `TextureCache.handles`: the handles in the entries of a cache, and what an erased, a counted and a
  new entry do to them;
* a recording backend that holds the handles of a cache still does after acquiring
  (`Holding.acquireWith`), releasing (`Holding.release`, `Holding.releaseKeys`) and clearing
  (`Holding.unloadAll`).
-/

namespace SpriteStage

/-! ### The handles of a cache -/

namespace TextureCache

/-- The handles of the cached textures. -/
def handles (c : TextureCache) : List TextureHandle := c.entries.map (·.2.texture.handle)

variable {c c' : TextureCache} {key : String} {e e' : CacheEntry} {t : Texture}

theorem mem_handles_of_find? (hf : c.find? key = some e) : e.texture.handle ∈ c.handles := by
  obtain ⟨l₁, l₂, hl, -⟩ := List.lookup_eq_some_iff.1 hf
  simp [handles, hl]

theorem mem_handles_of_get? (hg : c.get? key = some t) : t.handle ∈ c.handles := by
  obtain ⟨e, hf, rfl⟩ := Option.map_eq_some_iff.1 hg
  exact mem_handles_of_find? hf

theorem Valid.mem_handles_iff {handle : TextureHandle} (hc : c.Valid) :
    handle ∈ c.handles ↔ ∃ key t, c.get? key = some t ∧ t.handle = handle := by
  constructor
  · intro h
    obtain ⟨⟨key, e⟩, he, rfl⟩ := List.mem_map.1 h
    exact ⟨key, e.texture, get?_of_find? (hc.find?_of_mem he), rfl⟩
  · rintro ⟨key, t, hg, rfl⟩
    exact mem_handles_of_get? hg

/-- What goes with a key is its handle. -/
theorem Valid.handles_perm_erase (hc : c.Valid) (hf : c.find? key = some e) :
    c.handles.Perm (e.texture.handle :: (c.erase key).handles) :=
  (Keyed.perm_cons_without hc.keys hf).map _

/-- Another count for a texture leaves the handles. -/
theorem Valid.handles_perm_set (hc : c.Valid) (hf : c.find? key = some e)
    (he : e'.texture = e.texture) : c.handles.Perm (c.set key e').handles := by
  have hset : (c.set key e').handles = e.texture.handle :: (c.erase key).handles := by
    rw [← he]
    rfl
  exact hset ▸ hc.handles_perm_erase hf

theorem handles_set_of_find?_eq_none (hf : c.find? key = none) (e : CacheEntry) :
    (c.set key e).handles = e.texture.handle :: c.handles := by
  have hkey : key ∉ c.entries.map Prod.fst := by
    intro hm
    obtain ⟨p, hp, rfl⟩ := List.mem_map.1 hm
    exact absurd (List.lookup_eq_none_iff.1 hf p hp) (by simp)
  show (Keyed.put key e c.entries).map _ = _
  rw [Keyed.put, Keyed.without_of_not_mem hkey]
  rfl

theorem clear_eq {β : Type} [TextureLoader β] (c : TextureCache) (b : β) :
    c.clear b = (.empty, c.handles.foldl TextureLoader.unload b) := by
  rw [clear, handles, List.foldl_map]

end TextureCache

/-! ### Cache and backend -/

namespace Recorder

open TextureCache

variable {r r' : Recorder} {c c' : TextureCache} {key : String} {t : Texture}
  {load : Recorder → Except String LoadedTexture × Recorder}

/-- The handle of a texture that was not cached comes on top of the others. -/
theorem Holding.made (h : r.Holding c.handles) (hl : Issues load) (hf : c.find? key = none)
    (hload : load r = (.ok ⟨t.handle, t.width, t.height⟩, r')) (hn : r'.loads < UInt32.size) :
    r'.Holding (c.set key ⟨t, 1⟩).handles := by
  obtain ⟨width, height, hloaded, rfl⟩ := hl.eq_issue hload
  have hhandle : t.handle = (r.issue width height).1.handle :=
    congrArg LoadedTexture.handle hloaded
  rw [handles_set_of_find?_eq_none hf, show CacheEntry.texture ⟨t, 1⟩ = t from rfl, hhandle]
  exact h.issue width height hn

theorem Holding.acquireWith (h : r.Holding c.handles) (hc : c.Valid) (hl : Issues load)
    (ha : c.acquireWith r key load = (.ok (t, c'), r')) (hn : r'.loads < UInt32.size) :
    r'.Holding c'.handles := by
  obtain ⟨e, hf, -, rfl, rfl⟩ | ⟨hf, -, rfl, hload⟩ := acquireWith_cases ha
  · exact h.perm (hc.handles_perm_set hf rfl)
  · exact h.made hl hf hload hn

/-- Acquiring issues at most one handle. -/
theorem loads_le_of_acquireWith (hl : Issues load)
    (ha : c.acquireWith r key load = (.ok (t, c'), r')) : r.loads ≤ r'.loads := by
  obtain ⟨e, -, -, -, rfl⟩ | ⟨-, -, -, hload⟩ := acquireWith_cases ha
  · exact Nat.le_refl _
  · obtain ⟨width, height, -, rfl⟩ := hl.eq_issue hload
    exact Nat.le_succ _

/-- A recording backend that refuses a texture stays as it was. -/
theorem eq_of_acquireWith_eq_error {e : Error} (hl : Issues load)
    (ha : c.acquireWith r key load = (.error e, r')) : r' = r := by
  obtain ⟨-, reason, -, hload⟩ := acquireWith_eq_error ha
  exact hl.eq_of_error hload

theorem Holding.release {unloaded : Bool} (h : r.Holding c.handles) (hc : c.Valid)
    (hr : c.release r key = .ok (unloaded, c', r')) : r'.Holding c'.handles := by
  obtain ⟨e, hf, ⟨-, -, rfl, rfl⟩ | ⟨-, -, rfl, rfl⟩⟩ := release_cases hr
  · exact h.perm (hc.handles_perm_set hf rfl)
  · exact (h.perm (hc.handles_perm_erase hf)).unload

theorem Holding.releaseKeys {keys : List String} (h : r.Holding c.handles) (hc : c.Valid) :
    (Stage.releaseKeys c r keys).2.2.Holding (Stage.releaseKeys c r keys).2.1.handles := by
  induction keys generalizing c r with
  | nil => exact h
  | cons key rest ih =>
    cases hr : c.release r key with
    | error e =>
      simp only [Stage.releaseKeys, hr]
      exact ih h hc
    | ok p =>
      simp only [Stage.releaseKeys, hr]
      exact ih (h.release hc hr) (hc.of_release hr)

/-- Dropping references changes which handles are live and nothing else. -/
theorem releaseKeys_eq (c : TextureCache) (r : Recorder) (keys : List String) :
    ∃ live unloads, (Stage.releaseKeys c r keys).2.2 = { r with live, unloads } := by
  induction keys generalizing c r with
  | nil => exact ⟨r.live, r.unloads, rfl⟩
  | cons key rest ih =>
    cases hr : c.release r key with
    | error e =>
      simp only [Stage.releaseKeys, hr]
      exact ih c r
    | ok p =>
      obtain ⟨unloaded, c', r'⟩ := p
      simp only [Stage.releaseKeys, hr]
      obtain ⟨e, -, ⟨-, -, -, rfl⟩ | ⟨-, -, -, hr'⟩⟩ := release_cases hr
      · exact ih c' r'
      · obtain ⟨live, unloads, ht⟩ := unload_eq r e.texture.handle
        obtain rfl := hr'.trans ht
        exact ih c' _

theorem loads_releaseKeys (c : TextureCache) (r : Recorder) (keys : List String) :
    (Stage.releaseKeys c r keys).2.2.loads = r.loads := by
  obtain ⟨live, unloads, hr⟩ := releaseKeys_eq c r keys
  rw [hr]

theorem loads_unloadAll (r : Recorder) (handles : List TextureHandle) :
    (handles.foldl Recorder.unload r).loads = r.loads := by
  obtain ⟨live, unloads, hr⟩ := unloadAll_eq r handles
  rw [hr]

end Recorder

end SpriteStage
