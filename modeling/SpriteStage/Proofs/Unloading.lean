import SpriteStage.Proofs.TextureStore

/-!
# When textures are unloaded

* `Watched`: a backend that also notes the handles it is told to unload, live or not; nothing else
  changes when a backend is watched (`run_unwatch`);
* `TextureCache.unloadedBy`: what a request unloads, which is the texture of the last reference or,
  when everything is cleared, all of them;
* `Ledger`: each handle that was issued was unloaded once or is the handle of a cached texture;
* `cache_agrees_with_backend`: what all this says about a store that starts empty.
-/

namespace SpriteStage

open TextureStore

/-- A backend that notes what it is told to unload, the last handle first. -/
structure Watched (β : Type) where
  backend : β
  unloaded : List TextureHandle

/-- The handles that a request has unloaded, the last one first. -/
def TextureCache.unloadedBy (c : TextureCache) : Request → List TextureHandle
  | .release key =>
      if c.refcount key = 1 then (c.get? key).toList.map (·.handle) else []
  | .clear => c.handles.reverse
  | _ => []

theorem TextureCache.mem_handles_of_mem_unloadedBy {c : TextureCache} {a : Request}
    {handle : TextureHandle} (h : handle ∈ c.unloadedBy a) : handle ∈ c.handles := by
  cases a with
  | release key =>
    rw [TextureCache.unloadedBy] at h
    split at h
    · obtain ⟨t, ht, rfl⟩ := List.mem_map.1 h
      exact mem_handles_of_get? (Option.mem_toList.1 ht)
    · cases h
  | clear => exact List.mem_reverse.1 h
  | _ => cases h

namespace Watched

variable {β : Type} [TextureLoader β]

instance : TextureLoader (Watched β) where
  loadFile w path :=
    ((TextureLoader.loadFile w.backend path).1,
      { w with backend := (TextureLoader.loadFile w.backend path).2 })
  createSolid w width height color :=
    ((TextureLoader.createSolid w.backend width height color).1,
      { w with backend := (TextureLoader.createSolid w.backend width height color).2 })
  unload w handle := ⟨TextureLoader.unload w.backend handle, handle :: w.unloaded⟩

omit [TextureLoader β] in
instance [Stocked β] : Stocked (Watched β) where
  addFile w path width height :=
    { w with backend := Stocked.addFile w.backend path width height }

/-- Making a texture is not noted. -/
theorem load_eq (origin : Origin) (key : String) (w : Watched β) :
    origin.load key w =
      ((origin.load key w.backend).1, { w with backend := (origin.load key w.backend).2 }) := by
  cases origin <;> rfl

/-- The backend underneath makes the texture. -/
theorem load_cases {origin : Origin} {key : String} {w w' : Watched β}
    {result : Except String LoadedTexture} (h : origin.load key w = (result, w')) :
    origin.load key w.backend = (result, w'.backend) ∧ w'.unloaded = w.unloaded := by
  rw [load_eq] at h
  cases h
  exact ⟨rfl, rfl⟩

theorem acquireWith_eq (c : TextureCache) (w : Watched β) (key : String) (origin : Origin) :
    c.acquireWith w key (origin.load key) =
      ((c.acquireWith w.backend key (origin.load key)).1,
        { w with backend := (c.acquireWith w.backend key (origin.load key)).2 }) := by
  unfold TextureCache.acquireWith
  rw [load_eq]
  cases c.find? key with
  | some e => rfl
  | none => rcases origin.load key w.backend with ⟨reason | loaded, b⟩ <;> rfl

theorem unloadAll_eq (w : Watched β) (handles : List TextureHandle) :
    handles.foldl TextureLoader.unload w =
      ⟨handles.foldl TextureLoader.unload w.backend, handles.reverse ++ w.unloaded⟩ := by
  induction handles generalizing w with
  | nil => rfl
  | cons t rest ih =>
    rw [List.foldl_cons, ih]
    simp [TextureLoader.unload]

end Watched

namespace TextureStore

variable {β : Type}

/-- The store without what was noted. -/
def unwatch (w : TextureStore (Watched β)) : TextureStore β := ⟨w.cache, w.backend.backend⟩

section Watching

variable [TextureLoader β] [Stocked β]

theorem perform_unwatch (w : TextureStore (Watched β)) (a : Request) :
    w.unwatch.perform a = ((w.perform a).1, (w.perform a).2.unwatch) := by
  cases a with
  | acquire key origin =>
    rw [perform_acquire, perform_acquire, Watched.acquireWith_eq]
    show acquired _ (w.cache.acquireWith w.backend.backend key (origin.load key)) = _
    rcases w.cache.acquireWith w.backend.backend key (origin.load key) with ⟨e | p, b⟩ <;> rfl
  | release key =>
    show w.unwatch.released (w.cache.release w.backend.backend key) =
      ((w.released (w.cache.release w.backend key)).1,
        (w.released (w.cache.release w.backend key)).2.unwatch)
    unfold TextureCache.release
    cases w.cache.find? key with
    | none => rfl
    | some e => by_cases hrefs : 1 < e.refs <;> simp only [hrefs, if_true, if_false] <;> rfl
  | clear =>
    show (_, TextureStore.mk (w.cache.clear w.backend.backend).1
        (w.cache.clear w.backend.backend).2) =
      (_, unwatch ⟨(w.cache.clear w.backend).1, (w.cache.clear w.backend).2⟩)
    rw [TextureCache.clear_eq, TextureCache.clear_eq, Watched.unloadAll_eq]
    rfl
  | addFile path width height => rfl

theorem after_unwatch (w : TextureStore (Watched β)) (a : Request) :
    (w.after a).unwatch = w.unwatch.after a :=
  (congrArg Prod.snd (perform_unwatch w a)).symm

/-- **Watching a backend changes nothing else.** -/
theorem run_unwatch (w : TextureStore (Watched β)) (requests : List Request) :
    (w.run requests).unwatch = w.unwatch.run requests := by
  induction requests generalizing w with
  | nil => rfl
  | cons a rest ih => rw [run_cons, run_cons, ih, after_unwatch]

theorem unloaded_effect {w w' : TextureStore (Watched β)} {a : Request}
    {answer : Except Error Answer} (hw : w.cache.Valid) (he : Effect w a answer w') :
    w'.backend.unloaded = w.cache.unloadedBy a ++ w.backend.unloaded := by
  cases he with
  | made hf hkey hl => exact (Watched.load_cases hl).2
  | refused hf hl => exact (Watched.load_cases hl).2
  | dropped hf hrefs =>
    have hcount := TextureCache.refcount_of_find? hf
    rw [TextureCache.unloadedBy, if_neg (by omega), List.nil_append]
  | unloaded hf hrefs =>
    have hcount := TextureCache.refcount_of_find? hf
    have hpos := hw.pos hf
    rw [TextureCache.unloadedBy, if_pos (by omega), TextureCache.get?_of_find? hf]
    rfl
  | unknown hf =>
    have hcount := TextureCache.refcount_of_find?_eq_none hf
    rw [TextureCache.unloadedBy, if_neg (by omega), List.nil_append]
  | cleared => rw [Watched.unloadAll_eq]; rfl
  | _ => rfl

end Watching

/-! ### What the recording backend holds -/

section Recording

open Recorder

theorem issues_load (origin : Origin) (key : String) : Issues (origin.load key) := by
  cases origin with
  | file => exact issues_loadFile key
  | solid width height color => exact issues_createSolid width height color

variable {s s' : TextureStore Recorder} {w w' : TextureStore (Watched Recorder)} {a : Request}
  {answer : Except Error Answer}

theorem loads_le_effect (he : Effect s a answer s') : s.backend.loads ≤ s'.backend.loads := by
  cases he with
  | @made key origin t b hf hkey hl =>
    obtain ⟨width, height, -, rfl⟩ := (issues_load origin key).eq_issue hl
    exact Nat.le_succ _
  | @refused key reason origin b hf hl =>
    obtain rfl := (issues_load origin key).eq_of_error hl
    exact Nat.le_refl _
  | unloaded hf hrefs => exact Nat.le_of_eq (loads_unload _ _).symm
  | cleared => exact Nat.le_of_eq (loads_unloadAll _ _).symm
  | _ => exact Nat.le_refl _

theorem holding_effect (hs : s.cache.Valid) (h : s.backend.Holding s.cache.handles)
    (he : Effect s a answer s') (hn : s'.backend.loads < UInt32.size) :
    s'.backend.Holding s'.cache.handles := by
  cases he with
  | again hf => exact h.perm (hs.handles_perm_set hf rfl)
  | @made key origin t b hf hkey hl => exact h.made (issues_load origin key) hf hl hn
  | @refused key reason origin b hf hl =>
    obtain rfl := (issues_load origin key).eq_of_error hl
    exact h
  | dropped hf hrefs => exact h.perm (hs.handles_perm_set hf rfl)
  | unloaded hf hrefs => exact (h.perm (hs.handles_perm_erase hf)).unload
  | unknown hf => exact h
  | cleared => exact h.unloadAll
  | stocked path width height => exact h.of_eq rfl rfl rfl rfl

/-- The handles that were unloaded and those of the cached textures. -/
def accounted (w : TextureStore (Watched Recorder)) : List TextureHandle :=
  w.backend.unloaded ++ w.cache.handles

/-- A request moves handles from the cached ones to the unloaded ones, or adds the next one. -/
theorem accounted_effect (hw : w.cache.Valid) (h : w.backend.backend.Holding w.cache.handles)
    (he : Effect w a answer w') (hn : w'.backend.backend.loads < UInt32.size) :
    (w'.accounted.Perm w.accounted ∧ w'.backend.backend.loads = w.backend.backend.loads) ∨
      ∃ t : TextureHandle, w'.accounted.Perm (t :: w.accounted) ∧
        t.number.toNat = w.backend.backend.loads + 1 ∧
        w'.backend.backend.loads = w.backend.backend.loads + 1 := by
  cases he with
  | again hf => exact .inl ⟨((hw.handles_perm_set hf rfl).append_left _).symm, rfl⟩
  | @made key origin t b hf hkey hl =>
    obtain ⟨hl, hunloaded⟩ := Watched.load_cases hl
    obtain ⟨width, height, hloaded, hb⟩ := (issues_load origin key).eq_issue hl
    have hloads : b.backend.loads = w.backend.backend.loads + 1 := congrArg Recorder.loads hb
    refine .inr ⟨t.handle, ?_, ?_, hloads⟩
    · unfold accounted
      rw [TextureCache.handles_set_of_find?_eq_none hf, hunloaded]
      exact List.perm_middle
    · have hhandle : t.handle = (w.backend.backend.issue width height).1.handle :=
        congrArg LoadedTexture.handle hloaded
      rw [hhandle]
      exact h.number_issue width height (hb ▸ hn)
  | @refused key reason origin b hf hl =>
    obtain ⟨hl, hunloaded⟩ := Watched.load_cases hl
    have hb := (issues_load origin key).eq_of_error hl
    unfold accounted
    rw [hunloaded]
    exact .inl ⟨.refl _, congrArg Recorder.loads hb⟩
  | dropped hf hrefs => exact .inl ⟨((hw.handles_perm_set hf rfl).append_left _).symm, rfl⟩
  | unloaded hf hrefs =>
    refine .inl ⟨?_, loads_unload _ _⟩
    exact List.perm_middle.symm.trans ((hw.handles_perm_erase hf).append_left _).symm
  | unknown hf => exact .inl ⟨.refl _, rfl⟩
  | cleared =>
    unfold accounted
    rw [Watched.unloadAll_eq]
    refine .inl ⟨?_, loads_unloadAll _ _⟩
    show (w.cache.handles.reverse ++ w.backend.unloaded ++ []).Perm _
    rw [List.append_nil]
    exact List.perm_append_comm.trans ((List.reverse_perm _).append_left _)
  | stocked path width height => exact .inl ⟨.refl _, rfl⟩

/-- Handles are numbered from one on in the order of the loads. Each was unloaded once or is the one
of a cached texture. -/
structure Ledger (w : TextureStore (Watched Recorder)) : Prop where
  once : ∀ t : TextureHandle, w.accounted.count t =
    if 1 ≤ t.number.toNat ∧ t.number.toNat ≤ w.backend.backend.loads then 1 else 0
  length : w.accounted.length = w.backend.backend.loads

theorem ledger_effect (hw : w.cache.Valid) (h : w.backend.backend.Holding w.cache.handles)
    (hl : w.Ledger) (he : Effect w a answer w') (hn : w'.backend.backend.loads < UInt32.size) :
    w'.Ledger := by
  obtain ⟨hp, hloads⟩ | ⟨t, hp, hnumber, hloads⟩ := accounted_effect hw h he hn
  · refine ⟨fun u => ?_, ?_⟩
    · rw [hp.count_eq, hloads]
      exact hl.once u
    · rw [hp.length_eq, hloads]
      exact hl.length
  · refine ⟨fun u => ?_, ?_⟩
    · rw [hp.count_eq, hloads, List.count_cons, hl.once u]
      by_cases hut : u = t
      · subst hut
        simp [hnumber]
      · have hne : u.number.toNat ≠ t.number.toNat :=
          fun hu => hut (congrArg TextureHandle.mk (UInt32.toNat_inj.1 hu))
        have hle : u.number.toNat ≤ w.backend.backend.loads + 1 ↔
            u.number.toNat ≤ w.backend.backend.loads := by omega
        simp [hle, Ne.symm hut]
    · rw [hp.length_eq, hloads, List.length_cons, hl.length]

/-- The cache is valid, the backend holds its handles, and what was unloaded is accounted for. -/
structure Accurate (w : TextureStore (Watched Recorder)) : Prop where
  valid : w.cache.Valid
  holding : w.backend.backend.Holding w.cache.handles
  ledger : w.Ledger

theorem Accurate.after (h : w.Accurate)
    (hn : (w.after a).backend.backend.loads < UInt32.size) : (w.after a).Accurate where
  valid := valid_effect h.valid (effect_perform w a)
  holding := by
    have he := effect_perform w.unwatch a
    rw [perform_unwatch] at he
    exact holding_effect (s := w.unwatch) h.valid h.holding he hn
  ledger := ledger_effect h.valid h.holding h.ledger (effect_perform w a) hn

theorem loads_le_run (s : TextureStore Recorder) (requests : List Request) :
    s.backend.loads ≤ (s.run requests).backend.loads := by
  induction requests generalizing s with
  | nil => exact Nat.le_refl _
  | cons a rest ih => exact Nat.le_trans (loads_le_effect (effect_perform s a)) (ih _)

theorem loads_run (w : TextureStore (Watched Recorder)) (requests : List Request) :
    (w.run requests).backend.backend.loads = (w.unwatch.run requests).backend.loads := by
  rw [← run_unwatch]
  rfl

/-- **A store stays accurate** as long as the handles do not run out. -/
theorem Accurate.run (h : w.Accurate) (requests : List Request)
    (hn : (w.run requests).backend.backend.loads < UInt32.size) : (w.run requests).Accurate := by
  induction requests generalizing w with
  | nil => exact h
  | cons a rest ih =>
    refine ih (h.after (Nat.lt_of_le_of_lt ?_ hn)) hn
    rw [run_cons, loads_run]
    exact loads_le_run (w.after a).unwatch rest

end Recording

/-! ### Cache and backend -/

/-- The store before anything was asked of it. -/
def opened : TextureStore Recorder := ⟨.empty, .new⟩

/-- The same with a backend that is watched. -/
def watched : TextureStore (Watched Recorder) := ⟨.empty, ⟨.new, []⟩⟩

/-- The live handles are those of the cached textures, each of one key, and the counters say how
many there are. -/
structure Agrees (s : TextureStore Recorder) : Prop where
  live : ∀ handle, handle ∈ s.backend.live ↔
    ∃ key t, s.cache.get? key = some t ∧ t.handle = handle
  once : s.backend.live.Nodup
  distinct : ∀ {key key' t t'}, s.cache.get? key = some t → s.cache.get? key' = some t' →
    key ≠ key' → t.handle ≠ t'.handle
  counters : s.backend.loads = s.backend.unloads + s.cache.size
  wanted : ∀ key, s.cache.contains key → 1 ≤ s.cache.refcount key

/-- A run unloads each texture once: with its last reference or when everything is cleared. -/
structure UnloadsOnce (requests : List Request) : Prop where
  unwatched : (watched.run requests).unwatch = opened.run requests
  timely : ∀ {done a rest}, requests = done ++ a :: rest →
    (watched.run (done ++ [a])).backend.unloaded =
      (opened.run done).cache.unloadedBy a ++ (watched.run done).backend.unloaded
  live : ∀ {done a rest}, requests = done ++ a :: rest →
    ∀ handle ∈ (opened.run done).cache.unloadedBy a, handle ∈ (opened.run done).backend.live
  hits : (watched.run requests).backend.unloaded.length = (opened.run requests).backend.unloads
  once : ∀ handle : TextureHandle,
    (watched.run requests).backend.unloaded.count handle +
      (opened.run requests).cache.handles.count handle =
    if 1 ≤ handle.number.toNat ∧ handle.number.toNat ≤ (opened.run requests).backend.loads
      then 1 else 0

theorem accurate_watched : watched.Accurate where
  valid := TextureCache.valid_empty
  holding := Recorder.holding_new
  ledger := ⟨fun t => by
    have hnone : ¬ (1 ≤ t.number.toNat ∧ t.number.toNat ≤ 0) := by omega
    exact (if_neg hnone).symm, rfl⟩

theorem agrees_of_holding {s : TextureStore Recorder} (hs : s.cache.Valid)
    (h : s.backend.Holding s.cache.handles) : s.Agrees where
  live handle := h.live.mem_iff.trans hs.mem_handles_iff
  once := h.live.nodup_iff.2 h.nodup
  distinct {key key' t t'} hg hg' hne heq := by
    obtain ⟨e, hf, rfl⟩ := Option.map_eq_some_iff.1 hg
    obtain ⟨e', hf', rfl⟩ := Option.map_eq_some_iff.1 hg'
    -- the handle of the one key is not among those of the others
    have hnot := (List.nodup_cons.1 ((hs.handles_perm_erase hf).nodup_iff.1 h.nodup)).1
    have hother : (s.cache.erase key).find? key' = some e' := by
      rwa [TextureCache.find?_erase_of_ne s.cache (Ne.symm hne)]
    exact hnot (heq ▸ TextureCache.mem_handles_of_find? hother)
  counters := by
    have hcounted := h.counted
    rwa [TextureCache.handles, List.length_map] at hcounted
  wanted key hk := by
    obtain ⟨e, hf⟩ := Option.isSome_iff_exists.1 hk
    exact TextureCache.refcount_of_find? hf ▸ hs.pos hf

/-- What is accurate when watched agrees when it is not. -/
theorem accurate_opened (requests : List Request)
    (hn : (opened.run requests).backend.loads < UInt32.size) :
    (watched.run requests).Accurate := by
  refine accurate_watched.run requests ?_
  rwa [loads_run]

theorem holding_opened (requests : List Request)
    (hn : (opened.run requests).backend.loads < UInt32.size) :
    (opened.run requests).backend.Holding (opened.run requests).cache.handles := by
  have hunwatch : (watched.run requests).unwatch = opened.run requests :=
    run_unwatch watched requests
  rw [← hunwatch]
  exact (accurate_opened requests hn).holding

/-- **Each texture is unloaded once**, and neither earlier nor later than it should be. -/
theorem unloadsOnce (requests : List Request)
    (hn : (opened.run requests).backend.loads < UInt32.size) : UnloadsOnce requests := by
  have hunwatch : ∀ requests, (watched.run requests).unwatch = opened.run requests :=
    run_unwatch watched
  have hcache : (watched.run requests).cache = (opened.run requests).cache :=
    congrArg TextureStore.cache (hunwatch requests)
  have hloads :
      (watched.run requests).backend.backend.loads = (opened.run requests).backend.loads :=
    loads_run watched requests
  have hledger := (accurate_opened requests hn).ledger
  refine ⟨hunwatch requests, fun {done a rest} _ => ?_, fun {done a rest} hsplit handle hm => ?_,
    ?_, fun handle => ?_⟩
  · rw [run_append, ← hunwatch done]
    have hvalid := valid_run (s := watched) TextureCache.valid_empty done
    exact unloaded_effect hvalid (effect_perform (watched.run done) a)
  · have hdone : (opened.run done).backend.loads < UInt32.size := by
      refine Nat.lt_of_le_of_lt ?_ hn
      rw [hsplit, run_append]
      exact loads_le_run _ _
    exact (holding_opened done hdone).mem_live (TextureCache.mem_handles_of_mem_unloadedBy hm)
  · have hlength := hledger.length
    have hcounted := (holding_opened requests hn).counted
    rw [hloads, accounted, List.length_append, hcache] at hlength
    omega
  · have honce := hledger.once handle
    rwa [hloads, accounted, List.count_append, hcache] at honce

/-- **Cache and backend agree** after every run with fewer than `2 ^ 32` loads. -/
theorem cache_agrees_with_backend (requests : List Request)
    (hn : (opened.run requests).backend.loads < UInt32.size) :
    (opened.run requests).Agrees ∧
      (∀ key t, (opened.run requests).cache.get? key = some t →
        ∃ before since, requests = before ++ since ∧
          (opened.run before).History key t since) ∧
      UnloadsOnce requests := by
  have hvalid : (opened.run requests).cache.Valid := valid_run TextureCache.valid_empty requests
  refine ⟨agrees_of_holding hvalid (holding_opened requests hn), fun key t ht => ?_,
    unloadsOnce requests hn⟩
  exact exists_history TextureCache.valid_empty rfl ht

/-- A texture that was unloaded is loaded again under a new handle; a size of zero is refused. -/
theorem cache_agrees_after_reload :
    let requests : List Request :=
      [.addFile "a.png" 8 8, .acquire "a.png" .file, .release "a.png", .acquire "a.png" .file,
        .acquire "bar" (.solid 30 0 .black), .acquire "a.png" .file, .release "b.png"]
    (opened.run requests).backend.loads < UInt32.size ∧ (opened.run requests).Agrees ∧
      (∃ before since, requests = before ++ since ∧
        (opened.run before).History "a.png" ⟨"a.png", ⟨2⟩, 8, 8⟩ since) ∧
      UnloadsOnce requests := by
  intro requests
  have hn : (opened.run requests).backend.loads < UInt32.size := by decide
  obtain ⟨hagrees, hhistory, hunloads⟩ := cache_agrees_with_backend requests hn
  exact ⟨hn, hagrees, hhistory "a.png" ⟨"a.png", ⟨2⟩, 8, 8⟩ (by decide), hunloads⟩

end TextureStore

end SpriteStage
