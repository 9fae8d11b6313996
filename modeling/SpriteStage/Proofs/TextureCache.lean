import SpriteStage.Stage.Lifetime

/-!
# References to cached textures

* `TextureCache.Valid`: no key twice, every texture under its own key and wanted at least once;
* `Acquired c key t c'`: `t` is the texture of `key` and one reference to it was added;
* `Released c keys c'`: one reference to each of `keys` was dropped;
* acquiring gives the first; releasing gives the second whenever each key has the references
  (`releaseKeys_eq_ok`), and then no release meets a key without one (`pos_of_releaseKeys`).
-/

namespace SpriteStage

namespace TextureCache

/-- No key twice, every texture under its own key and wanted at least once. -/
structure Valid (c : TextureCache) : Prop where
  keys : (c.entries.map Prod.fst).Nodup
  keyed : ∀ {k e}, c.find? k = some e → e.texture.key = k
  pos : ∀ {k e}, c.find? k = some e → 1 ≤ e.refs

variable {c c' c'' : TextureCache} {key k : String} {e : CacheEntry} {t : Texture}

/-! ### Counts and textures after a change -/

theorem refcount_of_find? (h : c.find? key = some e) : c.refcount key = e.refs := by
  simp [refcount, h]

theorem get?_of_find? (h : c.find? key = some e) : c.get? key = some e.texture := by
  simp [get?, h]

theorem refcount_of_find?_eq_none (h : c.find? key = none) : c.refcount key = 0 := by
  simp [refcount, h]

theorem find?_set (c : TextureCache) (key k : String) (e : CacheEntry) :
    (c.set key e).find? k = if k = key then some e else c.find? k := by
  split
  · next h => rw [h, find?_set_self]
  · next h => rw [find?_set_of_ne c h]

theorem find?_erase (c : TextureCache) (key k : String) :
    (c.erase key).find? k = if k = key then none else c.find? k := by
  split
  · next h => rw [h, find?_erase_self]
  · next h => rw [find?_erase_of_ne c h]

theorem refcount_set (c : TextureCache) (key k : String) (e : CacheEntry) :
    (c.set key e).refcount k = if k = key then e.refs else c.refcount k := by
  unfold refcount
  rw [find?_set]
  split <;> rfl

theorem refcount_erase (c : TextureCache) (key k : String) :
    (c.erase key).refcount k = if k = key then 0 else c.refcount k := by
  unfold refcount
  rw [find?_erase]
  split <;> rfl

/-- One more reference to a key leaves the counts of the others. -/
theorem refcount_set_succ (he : e.refs = c.refcount key + 1) (k : String) :
    (c.set key e).refcount k = c.refcount k + if k = key then 1 else 0 := by
  rw [refcount_set]
  split
  · next hk => rw [hk, he]
  · rfl

theorem refcount_set_pred (he : e.refs + 1 = c.refcount key) (k : String) :
    (c.set key e).refcount k + (if key = k then 1 else 0) = c.refcount k := by
  rw [refcount_set]
  by_cases hk : k = key
  · rw [if_pos hk, if_pos hk.symm, hk, he]
  · rw [if_neg hk, if_neg (Ne.symm hk)]
    rfl

theorem refcount_erase_last (hone : c.refcount key = 1) (k : String) :
    (c.erase key).refcount k + (if key = k then 1 else 0) = c.refcount k := by
  rw [refcount_erase]
  by_cases hk : k = key
  · rw [if_pos hk, if_pos hk.symm, hk, hone]
  · rw [if_neg hk, if_neg (Ne.symm hk)]
    rfl

theorem get?_set (c : TextureCache) (key k : String) (e : CacheEntry) :
    (c.set key e).get? k = if k = key then some e.texture else c.get? k := by
  unfold get?
  rw [find?_set]
  split <;> rfl

/-- Another count for a texture leaves what the keys stand for. -/
theorem get?_set_refs (hf : c.find? key = some e) (refs : Nat) (k : String) :
    (c.set key { e with refs }).get? k = c.get? k := by
  rw [get?_set]
  split
  · next hk => rw [hk, get?_of_find? hf]
  · rfl

theorem get?_erase (c : TextureCache) (key k : String) :
    (c.erase key).get? k = if k = key then none else c.get? k := by
  unfold get?
  rw [find?_erase]
  split <;> rfl

/-! ### Valid caches -/

theorem valid_empty : empty.Valid :=
  ⟨List.nodup_nil, by simp, by simp⟩

/-- In a valid cache the keys with references are the cached ones. -/
theorem Valid.exists_find? (h : c.Valid) (hk : 1 ≤ c.refcount key) :
    ∃ e, c.find? key = some e ∧ 1 ≤ e.refs := by
  cases hf : c.find? key with
  | none => rw [refcount_of_find?_eq_none hf] at hk; omega
  | some e => exact ⟨e, rfl, h.pos hf⟩

/-- What nobody wants is not cached. -/
theorem Valid.find?_eq_none (h : c.Valid) (hk : c.refcount key = 0) : c.find? key = none := by
  cases hf : c.find? key with
  | none => rfl
  | some e =>
    have := h.pos hf
    rw [refcount_of_find? hf] at hk
    omega

theorem Valid.get?_eq_none_iff (h : c.Valid) : c.get? key = none ↔ c.refcount key = 0 := by
  rw [get?, Option.map_eq_none_iff]
  exact ⟨refcount_of_find?_eq_none, h.find?_eq_none⟩

theorem Valid.contains_iff (h : c.Valid) : c.contains key = true ↔ 1 ≤ c.refcount key := by
  rw [contains, Option.isSome_iff_ne_none, Nat.one_le_iff_ne_zero, Ne, Ne]
  exact not_congr ⟨refcount_of_find?_eq_none, h.find?_eq_none⟩

/-- Every entry of a valid cache is the one of its key. -/
theorem Valid.find?_of_mem (h : c.Valid) (he : (k, e) ∈ c.entries) : c.find? k = some e :=
  Keyed.lookup_of_mem h.keys he

theorem Valid.set (h : c.Valid) (hkey : e.texture.key = key) (hpos : 1 ≤ e.refs) :
    (c.set key e).Valid where
  keys := Keyed.nodup_map_fst_put h.keys e
  keyed := by
    intro k e' hf
    rw [find?_set] at hf
    split at hf
    · next hk => cases hf; rw [hk, hkey]
    · exact h.keyed hf
  pos := by
    intro k e' hf
    rw [find?_set] at hf
    split at hf
    · cases hf; exact hpos
    · exact h.pos hf

theorem Valid.erase (h : c.Valid) (key : String) : (c.erase key).Valid where
  keys := by
    rw [TextureCache.erase, Keyed.map_fst_without]
    exact h.keys.filter _
  keyed := by
    intro k e hf
    rw [find?_erase] at hf
    split at hf
    · cases hf
    · exact h.keyed hf
  pos := by
    intro k e hf
    rw [find?_erase] at hf
    split at hf
    · cases hf
    · exact h.pos hf

/-! ### Acquiring -/

/-- `c'` is `c` with one more reference to `key`, whose texture is `t`. -/
structure Acquired (c : TextureCache) (key : String) (t : Texture) (c' : TextureCache) : Prop where
  valid : c'.Valid
  keyed : t.key = key
  get : c'.get? key = some t
  refcount : ∀ k, c'.refcount k = c.refcount k + if k = key then 1 else 0
  kept : ∀ {k t'}, c.get? k = some t' → c'.get? k = some t'

section Acquiring

variable {β : Type} {b b' : β} {load : β → Except String LoadedTexture × β}

/-- What acquiring does: it counts a cached texture once more, or it caches a loaded one. -/
theorem acquireWith_cases (h : c.acquireWith b key load = (.ok (t, c'), b')) :
    (∃ e, c.find? key = some e ∧ t = e.texture ∧ c' = c.set key { e with refs := e.refs + 1 } ∧
      b' = b) ∨
    (c.find? key = none ∧ t.key = key ∧ c' = c.set key ⟨t, 1⟩ ∧
      load b = (.ok ⟨t.handle, t.width, t.height⟩, b')) := by
  unfold acquireWith at h
  cases hf : c.find? key with
  | some e =>
    rw [hf] at h
    cases h
    exact .inl ⟨e, rfl, rfl, rfl, rfl⟩
  | none =>
    rw [hf] at h
    rcases hl : load b with ⟨loaded | loaded, b₁⟩
    · rw [hl] at h
      cases h
    · rw [hl] at h
      cases h
      exact .inr ⟨rfl, rfl, rfl, rfl⟩

/-- Acquiring fails only when the texture is not cached and cannot be made. -/
theorem acquireWith_eq_error {err : Error} (h : c.acquireWith b key load = (.error err, b')) :
    c.find? key = none ∧
      ∃ reason, err = .textureLoad key reason ∧ load b = (.error reason, b') := by
  unfold acquireWith at h
  cases hf : c.find? key with
  | some e =>
    rw [hf] at h
    cases h
  | none =>
    rw [hf] at h
    rcases hl : load b with ⟨reason | loaded, b₁⟩
    · rw [hl] at h
      cases h
      exact ⟨rfl, reason, rfl, rfl⟩
    · rw [hl] at h
      cases h

theorem Valid.acquired (hc : c.Valid) (h : c.acquireWith b key load = (.ok (t, c'), b')) :
    Acquired c key t c' := by
  obtain ⟨e, hf, rfl, rfl, -⟩ | ⟨hf, hkey, rfl, -⟩ := acquireWith_cases h
  · -- cached: one reference more to the same texture
    have hcount := refcount_of_find? hf
    have hvalid : (c.set key { e with refs := e.refs + 1 }).Valid :=
      hc.set (hc.keyed hf : e.texture.key = key) (Nat.le_add_left 1 e.refs)
    refine ⟨hvalid, hc.keyed hf, by simp [get?_set], refcount_set_succ (by rw [hcount]), ?_⟩
    intro k t' hk
    rwa [get?_set_refs hf]
  · -- loaded: the key had no texture that could be lost
    have hcount := refcount_of_find?_eq_none hf
    refine ⟨hc.set hkey (by simp), hkey, by simp [get?_set], refcount_set_succ (by rw [hcount]),
      ?_⟩
    intro k t' hk
    rw [get?_set, if_neg]
    · exact hk
    · rintro rfl
      simp [get?, hf] at hk

end Acquiring

/-! ### Releasing -/

/-- `c'` is `c` with one reference less to each of `keys`; what is still wanted is still there. -/
structure Released (c : TextureCache) (keys : List String) (c' : TextureCache) : Prop where
  valid : c'.Valid
  refcount : ∀ k, c'.refcount k + keys.count k = c.refcount k
  kept : ∀ {k}, 1 ≤ c'.refcount k → c'.get? k = c.get? k

theorem Valid.released_nil (h : c.Valid) : Released c [] c :=
  ⟨h, by simp, fun _ => rfl⟩

theorem Released.trans {l m : List String} (h₁ : Released c l c') (h₂ : Released c' m c'') :
    Released c (l ++ m) c'' where
  valid := h₂.valid
  refcount k := by
    have := h₁.refcount k
    have := h₂.refcount k
    rw [List.count_append]
    omega
  kept {k} hk := by
    have := h₂.refcount k
    rw [h₂.kept hk, h₁.kept (by omega)]

variable {β : Type} [TextureLoader β]

/-- What releasing does: others want the texture, so it counts down, or it unloads the texture. -/
theorem release_cases {b b' : β} {unloaded : Bool}
    (h : c.release b key = .ok (unloaded, c', b')) :
    ∃ e, c.find? key = some e ∧
      ((1 < e.refs ∧ unloaded = false ∧ c' = c.set key { e with refs := e.refs - 1 } ∧ b' = b) ∨
        (e.refs ≤ 1 ∧ unloaded = true ∧ c' = c.erase key ∧
          b' = TextureLoader.unload b e.texture.handle)) := by
  unfold release at h
  split at h
  · cases h
  · next e hf =>
    refine ⟨e, hf, ?_⟩
    split at h
    · next hrefs =>
      cases h
      exact .inl ⟨hrefs, rfl, rfl, rfl⟩
    · next hrefs =>
      cases h
      exact .inr ⟨Nat.le_of_not_lt hrefs, rfl, rfl, rfl⟩

/-- Releasing fails only when the key is not cached. -/
theorem release_eq_error {b : β} {err : Error} (h : c.release b key = .error err) :
    c.find? key = none ∧ err = .unknownTexture key := by
  unfold release at h
  split at h
  · next hf =>
    cases h
    exact ⟨hf, rfl⟩
  · split at h <;> cases h

/-- A cached key gives up a reference, and its texture with the last one. -/
theorem Valid.release_eq_ok (hc : c.Valid) (b : β) (hk : 1 ≤ c.refcount key) :
    ∃ unloaded c' b', c.release b key = .ok (unloaded, c', b') ∧ Released c [key] c' := by
  obtain ⟨e, hf, hpos⟩ := hc.exists_find? hk
  have hcount := refcount_of_find? hf
  by_cases hone : 1 < e.refs
  · -- others want the texture, so it stays with one reference less
    have hvalid : (c.set key { e with refs := e.refs - 1 }).Valid :=
      hc.set (hc.keyed hf : e.texture.key = key) (Nat.le_sub_one_of_lt hone)
    refine ⟨_, _, _, by simp only [release, hf, if_pos hone]; rfl, hvalid, fun k => ?_,
      fun {k} _ => get?_set_refs hf _ k⟩
    have hrefs : e.refs - 1 + 1 = c.refcount key := by omega
    simpa [List.count_singleton] using refcount_set_pred hrefs k
  · -- the last reference goes, and the texture with it
    refine ⟨_, _, _, by simp only [release, hf, if_neg hone]; rfl, hc.erase key, fun k => ?_, ?_⟩
    · have hlast : c.refcount key = 1 := by omega
      simpa [List.count_singleton] using refcount_erase_last hlast k
    · intro k hk
      rw [refcount_erase] at hk
      rw [get?_erase]
      split at hk
      · omega
      · next h => rw [if_neg h]

/-- A release that succeeds leaves a valid cache. -/
theorem Valid.of_release {b b' : β} {unloaded : Bool} (hc : c.Valid)
    (hr : c.release b key = .ok (unloaded, c', b')) : c'.Valid := by
  obtain ⟨e, hf, -⟩ := release_cases hr
  have hpos : 1 ≤ c.refcount key := refcount_of_find? hf ▸ hc.pos hf
  obtain ⟨_, _, _, hr', hc'⟩ := hc.release_eq_ok b hpos
  rw [hr'] at hr
  cases hr
  exact hc'.valid

end TextureCache

namespace Stage

open TextureCache

variable {β : Type} [TextureLoader β] {c : TextureCache} {keys : List String}

/-- Releasing succeeds key by key when every key has the references that go. -/
theorem releaseKeys_eq_ok (hc : c.Valid) (b : β) (hk : ∀ k, keys.count k ≤ c.refcount k) :
    ∃ c' b', releaseKeys c b keys = (.ok (), c', b') ∧ Released c keys c' := by
  induction keys generalizing c b with
  | nil => exact ⟨c, b, rfl, hc.released_nil⟩
  | cons key rest ih =>
    have hkey : 1 ≤ c.refcount key := by
      have := hk key
      rw [List.count_cons_self] at this
      omega
    obtain ⟨unloaded, c₁, b₁, hr, h₁⟩ := hc.release_eq_ok b hkey
    -- the counts of the first key fall on both sides, the others stay
    have hrest : ∀ k, rest.count k ≤ c₁.refcount k := by
      intro k
      have := hk k
      have := h₁.refcount k
      rw [List.count_cons] at *
      simp only [List.count_nil] at *
      omega
    obtain ⟨c₂, b₂, hrs, h₂⟩ := ih h₁.valid b₁ hrest
    refine ⟨c₂, b₂, ?_, h₁.trans h₂⟩
    simp only [releaseKeys, hr, hrs]

/-- When the turn of a key comes, it is cached and has a reference to drop. -/
theorem pos_of_releaseKeys (hc : c.Valid) (b : β) (hk : ∀ k, keys.count k ≤ c.refcount k)
    {done rest : List String} {key : String} (h : keys = done ++ key :: rest) :
    ∃ e, (releaseKeys c b done).2.1.find? key = some e ∧ 1 ≤ e.refs := by
  subst h
  have hdone : ∀ k, done.count k ≤ c.refcount k := by
    intro k
    have := hk k
    rw [List.count_append] at this
    omega
  obtain ⟨c', b', hr, h'⟩ := releaseKeys_eq_ok hc b hdone
  rw [hr]
  refine h'.valid.exists_find? ?_
  have := hk key
  have := h'.refcount key
  rw [List.count_append, List.count_cons_self] at *
  omega

end Stage

end SpriteStage
