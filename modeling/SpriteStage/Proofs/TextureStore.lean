import Mathlib.Data.List.Induction
import SpriteStage.Recorder
import SpriteStage.Proofs.CachedHandles

/-!
# Requests to the texture cache

A texture cache with the backend that its textures are in, and everything that can be asked of it.

* `TextureStore.perform` answers a request, `run` goes through a list of them, refused ones
  included, and `answers` lists them with their answers;
* `Effect` lists once all that a request can do to a store;
* while a key is cached it stands for one texture, and its references are those that were acquired
  and not released since it was absent (`History`, `exists_history`).
-/

namespace SpriteStage

/-- A backend that can be given files to load. -/
class Stocked (β : Type) where
  addFile : β → String → Int32 → Int32 → β

instance : Stocked Recorder := ⟨Recorder.addFile⟩

namespace TextureStore

/-- Where the texture of a key comes from: a file with the key as its path, or it is solid. -/
inductive Origin
  | file
  | solid (width height : Int32) (color : Color)

/-- What can be asked of a store. -/
inductive Request
  | acquire (key : String) (origin : Origin)
  | release (key : String)
  | clear
  /-- From now on the backend has this file. -/
  | addFile (path : String) (width height : Int32)

/-- What a store answers. -/
inductive Answer
  | texture (t : Texture)
  /-- A reference was dropped, and the texture with it or not. -/
  | released (unloaded : Bool)
  | done

/-- Whether a request asks for a reference to a key. -/
def Request.acquires (key : String) : Request → Bool
  | acquire k _ => k == key
  | _ => false

/-- How the texture of a key is made. -/
def Origin.load {β : Type} [TextureLoader β] (key : String) :
    Origin → β → Except String LoadedTexture × β
  | .file => (TextureLoader.loadFile · key)
  | .solid width height color => (TextureLoader.createSolid · width height color)

end TextureStore

/-- A texture cache and the backend that its textures are in. -/
structure TextureStore (β : Type) where
  cache : TextureCache
  backend : β

namespace TextureStore

variable {β : Type} {s s' : TextureStore β} {a : Request} {answer : Except Error Answer}
  {key : String} {t t' : Texture}

/-! ### Runs -/

/-- The answer to an acquisition; one that failed leaves the cache. -/
def acquired (s : TextureStore β) :
    Except Error (Texture × TextureCache) × β → Except Error Answer × TextureStore β
  | (.ok (t, cache), backend) => (.ok (.texture t), ⟨cache, backend⟩)
  | (.error e, backend) => (.error e, { s with backend })

/-- The answer to a release; one that failed changes nothing. -/
def released (s : TextureStore β) :
    Except Error (Bool × TextureCache × β) → Except Error Answer × TextureStore β
  | .ok (unloaded, cache, backend) => (.ok (.released unloaded), ⟨cache, backend⟩)
  | .error e => (.error e, s)

variable [TextureLoader β] [Stocked β]

/-- Answer a request. -/
def perform (s : TextureStore β) : Request → Except Error Answer × TextureStore β
  | .acquire key .file => s.acquired (s.cache.acquire s.backend key)
  | .acquire key (.solid width height color) =>
      s.acquired (s.cache.acquireSolid s.backend key width height color)
  | .release key => s.released (s.cache.release s.backend key)
  | .clear => (.ok .done, ⟨(s.cache.clear s.backend).1, (s.cache.clear s.backend).2⟩)
  | .addFile path width height =>
      (.ok .done, { s with backend := Stocked.addFile s.backend path width height })

/-- The store after a request, whether that was refused or not. -/
def after (s : TextureStore β) (a : Request) : TextureStore β := (s.perform a).2

/-- The store after a list of requests. -/
def run (s : TextureStore β) (requests : List Request) : TextureStore β := requests.foldl after s

/-- The requests of a run with their answers. -/
def answers (s : TextureStore β) : List Request → List (Request × Except Error Answer)
  | [] => []
  | a :: rest => (a, (s.perform a).1) :: (s.after a).answers rest

@[simp] theorem run_nil (s : TextureStore β) : s.run [] = s := rfl

@[simp] theorem run_cons (s : TextureStore β) (a : Request) (requests : List Request) :
    s.run (a :: requests) = (s.after a).run requests := rfl

theorem run_append (s : TextureStore β) (earlier later : List Request) :
    s.run (earlier ++ later) = (s.run earlier).run later :=
  List.foldl_append

theorem answers_append (s : TextureStore β) (earlier later : List Request) :
    s.answers (earlier ++ later) = s.answers earlier ++ (s.run earlier).answers later := by
  induction earlier generalizing s with
  | nil => rfl
  | cons a rest ih => rw [List.cons_append, answers, answers, ih, List.cons_append, run_cons]

/-- What every request keeps holds after every run. -/
theorem run_induction {P : TextureStore β → Prop} (step : ∀ s a, P s → P (s.after a))
    (start : P s) (requests : List Request) : P (s.run requests) := by
  induction requests generalizing s with
  | nil => exact start
  | cons a rest ih => exact ih (step s a start)

/-! ### Effects -/

/-- Everything a request can do to a store, with its answer. -/
inductive Effect (s : TextureStore β) :
    Request → Except Error Answer → TextureStore β → Prop
  /-- A cached texture is wanted once more. -/
  | again {key : String} {origin : Origin} {e : CacheEntry} (hf : s.cache.find? key = some e) :
      Effect s (.acquire key origin) (.ok (.texture e.texture))
        { s with cache := s.cache.set key { e with refs := e.refs + 1 } }
  /-- A texture is made and cached. -/
  | made {key : String} {origin : Origin} {t : Texture} {b : β} (hf : s.cache.find? key = none)
      (hkey : t.key = key)
      (hl : origin.load key s.backend = (.ok ⟨t.handle, t.width, t.height⟩, b)) :
      Effect s (.acquire key origin) (.ok (.texture t)) ⟨s.cache.set key ⟨t, 1⟩, b⟩
  /-- A texture cannot be made. -/
  | refused {key reason : String} {origin : Origin} {b : β} (hf : s.cache.find? key = none)
      (hl : origin.load key s.backend = (.error reason, b)) :
      Effect s (.acquire key origin) (.error (.textureLoad key reason)) { s with backend := b }
  /-- One of several references is dropped. -/
  | dropped {key : String} {e : CacheEntry} (hf : s.cache.find? key = some e)
      (hrefs : 1 < e.refs) :
      Effect s (.release key) (.ok (.released false))
        { s with cache := s.cache.set key { e with refs := e.refs - 1 } }
  /-- The last reference is dropped. -/
  | unloaded {key : String} {e : CacheEntry} (hf : s.cache.find? key = some e)
      (hrefs : e.refs ≤ 1) :
      Effect s (.release key) (.ok (.released true))
        ⟨s.cache.erase key, TextureLoader.unload s.backend e.texture.handle⟩
  /-- There is no texture to release. -/
  | unknown {key : String} (hf : s.cache.find? key = none) :
      Effect s (.release key) (.error (.unknownTexture key)) s
  | cleared :
      Effect s .clear (.ok .done)
        ⟨.empty, s.cache.handles.foldl TextureLoader.unload s.backend⟩
  | stocked (path : String) (width height : Int32) :
      Effect s (.addFile path width height) (.ok .done)
        { s with backend := Stocked.addFile s.backend path width height }

/-- The ways of acquiring differ in how the texture is made, and in nothing else. -/
theorem perform_acquire (s : TextureStore β) (key : String) (origin : Origin) :
    s.perform (.acquire key origin) =
      s.acquired (s.cache.acquireWith s.backend key (origin.load key)) := by
  cases origin <;> rfl

theorem effect_acquire (s : TextureStore β) (key : String) (origin : Origin) :
    Effect s (.acquire key origin) (s.perform (.acquire key origin)).1
      (s.perform (.acquire key origin)).2 := by
  rw [perform_acquire]
  rcases ha : s.cache.acquireWith s.backend key (origin.load key) with ⟨err | ⟨t, c⟩, b⟩
  · obtain ⟨hf, reason, rfl, hl⟩ := TextureCache.acquireWith_eq_error ha
    exact .refused hf hl
  · obtain ⟨e, hf, rfl, rfl, rfl⟩ | ⟨hf, hkey, rfl, hl⟩ := TextureCache.acquireWith_cases ha
    · exact .again hf
    · exact .made hf hkey hl

/-- **The list of effects is complete.** -/
theorem effect_perform (s : TextureStore β) (a : Request) :
    Effect s a (s.perform a).1 (s.perform a).2 := by
  cases a with
  | acquire key origin => exact effect_acquire s key origin
  | release key =>
    show Effect s (.release key) (s.released _).1 (s.released _).2
    cases hr : s.cache.release s.backend key with
    | error err =>
      obtain ⟨hf, rfl⟩ := TextureCache.release_eq_error hr
      exact .unknown hf
    | ok p =>
      obtain ⟨unloaded, c, b⟩ := p
      obtain ⟨e, hf, ⟨hrefs, rfl, rfl, rfl⟩ | ⟨hrefs, rfl, rfl, rfl⟩⟩ :=
        TextureCache.release_cases hr
      · exact .dropped hf hrefs
      · exact .unloaded hf hrefs
  | clear =>
    show Effect s .clear (.ok .done) ⟨(s.cache.clear s.backend).1, (s.cache.clear s.backend).2⟩
    rw [TextureCache.clear_eq]
    exact .cleared
  | addFile path width height => exact .stocked path width height

theorem valid_effect (hs : s.cache.Valid) (he : Effect s a answer s') : s'.cache.Valid := by
  cases he with
  | again hf =>
    have hkey := hs.keyed hf
    exact hs.set hkey (Nat.le_add_left 1 _)
  | made hf hkey hl => exact hs.set hkey (Nat.le_refl 1)
  | dropped hf hrefs =>
    have hkey := hs.keyed hf
    exact hs.set hkey (Nat.le_sub_one_of_lt hrefs)
  | unloaded hf hrefs => exact hs.erase _
  | cleared => exact TextureCache.valid_empty
  | _ => exact hs

theorem valid_run (hs : s.cache.Valid) (requests : List Request) : (s.run requests).cache.Valid :=
  run_induction (fun s a h => valid_effect h (effect_perform s a)) hs requests

/-! ### The history of a key -/

/-- Whether a reference to a key was taken. -/
def took (key : String) : Request × Except Error Answer → Bool
  | (.acquire k _, .ok _) => k == key
  | _ => false

/-- Whether a reference to a key was dropped. -/
def dropped (key : String) : Request × Except Error Answer → Bool
  | (.release k, .ok _) => k == key
  | _ => false

/-- A key that is absent is cached from the first of these requests on, always with the same
texture, and wanted as often as it was acquired and not released. -/
structure History (s : TextureStore β) (key : String) (t : Texture) (since : List Request) :
    Prop where
  absent : s.cache.get? key = none
  cached : ∀ now, now <+: since → now ≠ [] → (s.run now).cache.get? key = some t
  answered : ∀ p ∈ s.answers since, p.1.acquires key → p.2 = .ok (.texture t)
  counted :
    (s.run since).cache.refcount key + (s.answers since).countP (dropped key) =
      (s.answers since).countP (took key)

/-- While a key is cached its texture stays the same. -/
theorem get?_effect (he : Effect s a answer s') (h : s.cache.get? key = some t)
    (h' : s'.cache.get? key = some t') : t' = t := by
  cases he with
  | again hf =>
    rw [TextureCache.get?_set_refs hf] at h'
    exact Option.some.inj (h'.symm.trans h)
  | made hf hkey hl =>
    rw [TextureCache.get?_set] at h'
    split at h'
    · next hkey =>
      rw [hkey, TextureCache.get?, hf] at h
      cases h
    · exact Option.some.inj (h'.symm.trans h)
  | dropped hf hrefs =>
    rw [TextureCache.get?_set_refs hf] at h'
    exact Option.some.inj (h'.symm.trans h)
  | unloaded hf hrefs =>
    rw [TextureCache.get?_erase] at h'
    split at h'
    · cases h'
    · exact Option.some.inj (h'.symm.trans h)
  | cleared => cases h'
  | _ => exact Option.some.inj (h'.symm.trans h)

/-- Who asks for a key is given the texture that is cached from then on. -/
theorem answer_effect (he : Effect s a answer s') (ha : a.acquires key)
    (h' : s'.cache.get? key = some t) : answer = .ok (.texture t) := by
  cases he with
  | again hf =>
    obtain rfl := eq_of_beq ha
    rw [TextureCache.get?_set, if_pos rfl] at h'
    rw [← Option.some.inj h']
  | made hf hkey hl =>
    obtain rfl := eq_of_beq ha
    rw [TextureCache.get?_set, if_pos rfl] at h'
    rw [← Option.some.inj h']
  | refused hf hl =>
    obtain rfl := eq_of_beq ha
    rw [TextureCache.get?, hf] at h'
    cases h'
  | _ => cases ha

/-- Unless everything is cleared, the references to a key go with the answers. -/
theorem refcount_effect (hs : s.cache.Valid) (he : Effect s a answer s') (ha : a ≠ .clear)
    (key : String) :
    s'.cache.refcount key + (if dropped key (a, answer) then 1 else 0) =
      s.cache.refcount key + (if took key (a, answer) then 1 else 0) := by
  cases he with
  | @again k origin e hf =>
    have hrefs : e.refs + 1 = s.cache.refcount k + 1 := by rw [TextureCache.refcount_of_find? hf]
    have hcount := TextureCache.refcount_set_succ (e := { e with refs := e.refs + 1 }) hrefs key
    simpa [took, dropped, @eq_comm _ key k] using hcount
  | @made k origin t b hf hkey hl =>
    have hrefs : 1 = s.cache.refcount k + 1 := by
      rw [TextureCache.refcount_of_find?_eq_none hf]
    have hcount := TextureCache.refcount_set_succ (e := ⟨t, 1⟩) hrefs key
    simpa [took, dropped, @eq_comm _ key k] using hcount
  | @dropped k e hf hmore =>
    have hrefs : e.refs - 1 + 1 = s.cache.refcount k := by
      rw [TextureCache.refcount_of_find? hf]
      omega
    have hcount := TextureCache.refcount_set_pred (e := { e with refs := e.refs - 1 }) hrefs key
    simpa [took, dropped] using hcount
  | @unloaded k e hf hlast =>
    have hone : s.cache.refcount k = 1 := by
      have hpos := hs.pos hf
      rw [TextureCache.refcount_of_find? hf]
      omega
    simpa [took, dropped] using TextureCache.refcount_erase_last hone key
  | cleared => exact absurd rfl ha
  | _ => rfl

theorem History.nil (h : s.cache.get? key = none) : s.History key t [] where
  absent := h
  cached now hnow hne := absurd (List.prefix_nil.1 hnow) hne
  answered p hp := absurd hp List.not_mem_nil
  counted := by
    have hf : s.cache.find? key = none := Option.map_eq_none_iff.1 h
    simp [answers, TextureCache.refcount_of_find?_eq_none hf]

/-- The history goes on as long as the key is cached. -/
theorem History.concat {since : List Request} (hs : s.cache.Valid) (h : s.History key t since)
    (ht : (s.run (since ++ [a])).cache.get? key = some t) : s.History key t (since ++ [a]) := by
  have hrun : s.run (since ++ [a]) = (s.run since).after a := run_append s since [a]
  have hanswers : s.answers (since ++ [a]) =
      s.answers since ++ [(a, ((s.run since).perform a).1)] := answers_append s since [a]
  have he := effect_perform (s.run since) a
  rw [hrun] at ht
  refine ⟨h.absent, fun now hnow hne => ?_, fun p hp => ?_, ?_⟩
  · rcases List.prefix_concat_iff.1 hnow with rfl | hnow
    · rw [hrun, ht]
    · exact h.cached now hnow hne
  · rw [hanswers] at hp
    rcases List.mem_append.1 hp with hp | hp
    · exact h.answered p hp
    · obtain rfl := List.mem_singleton.1 hp
      exact fun ha => answer_effect he ha ht
  · -- after clearing nothing is cached
    have ha : a ≠ .clear := by
      rintro rfl
      cases ht
    have hcounted := h.counted
    have heffect := refcount_effect (valid_run hs since) he ha key
    rw [hrun, hanswers, List.countP_append, List.countP_append, List.countP_singleton,
      List.countP_singleton]
    unfold after
    omega

/-- **A cached key has a history** from when it was absent last. -/
theorem exists_history (hs : s.cache.Valid) (habsent : s.cache.get? key = none)
    {requests : List Request} (ht : (s.run requests).cache.get? key = some t) :
    ∃ before since, requests = before ++ since ∧ (s.run before).History key t since := by
  induction requests using List.reverseRecOn generalizing t with
  | nil => simp [habsent] at ht
  | append_singleton earlier a ih =>
    have hafter : ((s.run earlier).after a).cache.get? key = some t := by
      rwa [run_append] at ht
    cases ht' : (s.run earlier).cache.get? key with
    | none =>
      -- the last request made the texture
      exact ⟨earlier, [a], rfl, (History.nil ht').concat (valid_run hs earlier) hafter⟩
    | some t' =>
      obtain ⟨before, since, rfl, hhistory⟩ := ih ht'
      obtain rfl : t = t' := get?_effect (effect_perform _ a) ht' hafter
      refine ⟨before, since ++ [a], List.append_assoc .., hhistory.concat (valid_run hs before) ?_⟩
      rwa [List.append_assoc, run_append] at ht

end TextureStore

end SpriteStage
