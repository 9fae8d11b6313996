import Mathlib.Data.List.Induction
import Mathlib.Data.List.Nodup
import SpriteStage.Proofs.Batch

/-!
# The register of a cast

The register leads from names to sprites and keeps the names in the order in which they were given.

* `Cast.Effect`: what a call can do to a cast;
* `Cast.Orderly`: no name and no sprite is registered twice, and every sprite stands under its own
  name; every run keeps that (`orderly_run`);
* `standing`: of all that happened to the register, the registrations that nothing later undid; the
  names are these, in order of time (`names_run`);
* `Cast.Tour`: how a batch over all sprites ends, in terms of the sprites alone, without looking
  anything up (`Orderly.tour_batch`).
-/

namespace SpriteStage.Cast

/-! ### Calls -/

/-- What can be asked of a cast. -/
inductive Call
  | insert (s : Sprite)
  | create (name : String) (texture : Texture) (source : Rect)
  | remove (name : String)
  | clear
  /-- Whoever refers to a sprite changes it, registered or not. -/
  | change (id : SpriteId) (change : Sprite.Change)

/-- The sprite that a call registers. -/
def Call.sprite? : Call → Option Sprite
  | insert s => some s
  | create name texture source => some (.new name texture source)
  | _ => none

/-- Go on with the cast that a registration or a removal left; one that failed changes nothing. -/
def settle (c : Cast) : Except Error (SpriteId × Cast) → Except Error (Option SpriteId) × Cast
  | .ok (id, c') => (.ok (some id), c')
  | .error e => (.error e, c)

/-- Answer a call: the sprite that got a name or lost it, if one did, and the cast after it. -/
def perform (c : Cast) : Call → Except Error (Option SpriteId) × Cast
  | .insert s => c.settle (c.insert s)
  | .create name texture source => c.settle (c.insert (.new name texture source))
  | .remove name => c.settle (c.remove name)
  | .clear => (.ok none, c.clear)
  | .change id change =>
      match change.apply (c.sprite id) with
      | .ok s => (.ok none, c.replace id s)
      | .error e => (.error e, c)

/-- The cast after a call, whether that failed or not. -/
def after (c : Cast) (call : Call) : Cast := (c.perform call).2

/-- The cast after a list of calls. -/
def run (c : Cast) (calls : List Call) : Cast := calls.foldl after c

/-- The calls of a run with their answers. -/
def answers (c : Cast) : List Call → List (Call × Except Error (Option SpriteId))
  | [] => []
  | call :: rest => (call, (c.perform call).1) :: (c.after call).answers rest

@[simp] theorem run_nil (c : Cast) : c.run [] = c := rfl

@[simp] theorem run_cons (c : Cast) (call : Call) (calls : List Call) :
    c.run (call :: calls) = (c.after call).run calls := rfl

theorem run_concat (c : Cast) (calls : List Call) (call : Call) :
    c.run (calls ++ [call]) = (c.run calls).after call := by
  simp [run]

theorem answers_concat (c : Cast) (calls : List Call) (call : Call) :
    c.answers (calls ++ [call]) = c.answers calls ++ [(call, ((c.run calls).perform call).1)] := by
  induction calls generalizing c with
  | nil => rfl
  | cons first rest ih => simp [answers, ih]

variable {c c' : Cast} {s : Sprite} {id : SpriteId} {name : String} {call : Call}
  {answer : Except Error (Option SpriteId)}

/-! ### Effects -/

/-- A name is refused when it is taken, and for no other reason. -/
theorem insert_eq_error_iff {e : Error} :
    c.insert s = .error e ↔ c.contains s.name = true ∧ e = .duplicateSprite s.name := by
  cases hc : c.contains s.name with
  | true => simp [insert, hc, eq_comm]
  | false => simp [insert_of_not_contains hc]

theorem settle_eq_error_iff {result : Except Error (SpriteId × Cast)} {e : Error} :
    (c.settle result).1 = .error e ↔ result = .error e := by
  cases result <;> simp [settle]

theorem entries_of_insert (h : c.insert s = .ok (id, c')) :
    c'.entries = c.entries ++ [(s.name, id)] := by
  cases hc : c.contains s.name with
  | true => simp [insert, hc] at h
  | false =>
    rw [insert_of_not_contains hc] at h
    cases h
    rfl

/-- Everything a call can do, with its answer. -/
inductive Effect (c : Cast) : Call → Except Error (Option SpriteId) → Cast → Prop
  | registered {call : Call} {s : Sprite} {id : SpriteId} {c' : Cast}
      (hs : call.sprite? = some s) (hi : c.insert s = .ok (id, c')) : Effect c call (.ok (some id)) c'
  | removed {name : String} {id : SpriteId} {c' : Cast} (hr : c.remove name = .ok (id, c')) :
      Effect c (.remove name) (.ok (some id)) c'
  | cleared : Effect c .clear (.ok none) c.clear
  | changed {id : SpriteId} {change : Sprite.Change} {c' : Cast} (hc : c.Extends c') :
      Effect c (.change id change) (.ok none) c'
  | refused (call : Call) (e : Error) : Effect c call (.error e) c

/-- **The list of effects is complete.** -/
theorem effect_perform (c : Cast) (call : Call) :
    Effect c call (c.perform call).1 (c.perform call).2 := by
  have hregister {call : Call} {s : Sprite} (hs : call.sprite? = some s) :
      Effect c call (c.settle (c.insert s)).1 (c.settle (c.insert s)).2 := by
    cases hi : c.insert s with
    | error e => exact .refused call e
    | ok p => exact .registered hs hi
  cases call with
  | insert s => exact hregister rfl
  | create name texture source => exact hregister rfl
  | remove name =>
    simp only [perform]
    cases hr : c.remove name with
    | error e => exact .refused _ e
    | ok p => exact .removed hr
  | clear => exact .cleared
  | change id change =>
    simp only [perform]
    cases ha : change.apply (c.sprite id) with
    | error e => exact .refused _ e
    | ok s => exact .changed (extends_replace (Sprite.Change.extends_of_apply ha))

/-! ### Order in the register -/

/-- Every sprite is registered under its own name. -/
def Named (c : Cast) : Prop := ∀ e ∈ c.entries, (c.sprite e.2).name = e.1

theorem Named.extends (h : c.Named) (hc : c.Extends c') : c'.Named := by
  intro e he
  rw [hc.entries] at he
  exact (hc.sprite e.2).name.trans (h e he)

theorem Named.insert (h : c.Named) (hmade : ∀ id ∈ c.registered, id.index < c.sprites.length)
    (hi : c.insert s = .ok (id, c')) : c'.Named := by
  have hc := inserted_of_insert hi
  intro e he
  rw [entries_of_insert hi] at he
  rcases List.mem_append.1 he with he | he
  · rw [hc.kept (hmade e.2 (List.mem_map.2 ⟨e, he, rfl⟩))]
    exact h e he
  · obtain rfl := List.mem_singleton.1 he
    rw [hc.sprite]

theorem Named.remove (h : c.Named) (hr : c.remove name = .ok (id, c')) : c'.Named := by
  obtain ⟨-, rfl⟩ := remove_eq_ok_iff.1 hr
  exact fun e he => h e (Keyed.mem_without.1 he).1

/-- No name and no sprite stands twice in the register, and every sprite stands there under its own
name. -/
structure Orderly (c : Cast) : Prop where
  names : c.names.Nodup
  sprites : c.registered.Nodup
  made : ∀ id ∈ c.registered, id.index < c.sprites.length
  named : c.Named

theorem orderly_of_nil (h : c.entries = []) : c.Orderly where
  names := by simp [Cast.names, h]
  sprites := by simp [registered, h]
  made := by simp [registered, h]
  named := by simp [Named, h]

theorem Orderly.extends (h : c.Orderly) (hc : c.Extends c') : c'.Orderly where
  names := by
    rw [Cast.names, hc.entries]
    exact h.names
  sprites := by
    rw [registered, hc.entries]
    exact h.sprites
  made := by
    rw [registered, hc.entries, hc.length]
    exact h.made
  named := h.named.extends hc

theorem Orderly.insert (h : c.Orderly) (hi : c.insert s = .ok (id, c')) : c'.Orderly := by
  have hc := inserted_of_insert hi
  refine ⟨?_, ?_, fun other ho => ?_, h.named.insert h.made hi⟩
  · rw [hc.names, ← List.concat_eq_append]
    exact List.Nodup.concat hc.fresh h.names
  · -- the identity is the next one, and those registered are earlier
    rw [hc.registered, ← List.concat_eq_append]
    refine List.Nodup.concat (fun hm => ?_) h.sprites
    have hlt := h.made id hm
    rw [hc.index] at hlt
    exact Nat.lt_irrefl _ hlt
  · rw [hc.length]
    rw [hc.registered] at ho
    rcases List.mem_append.1 ho with ho | ho
    · exact Nat.lt_succ_of_lt (h.made other ho)
    · obtain rfl := List.mem_singleton.1 ho
      rw [hc.index]
      exact Nat.lt_succ_self _

theorem Orderly.remove (h : c.Orderly) (hr : c.remove name = .ok (id, c')) : c'.Orderly := by
  have hnamed := h.named.remove hr
  obtain ⟨-, rfl⟩ := remove_eq_ok_iff.1 hr
  have hsub : (Keyed.without name c.entries).Sublist c.entries := List.filter_sublist
  exact ⟨h.names.sublist (hsub.map _), h.sprites.sublist (hsub.map _),
    fun id hid => h.made id ((hsub.map _).subset hid), hnamed⟩

theorem Orderly.after (h : c.Orderly) (call : Call) : (c.after call).Orderly := by
  have he := effect_perform c call
  show (c.perform call).2.Orderly
  generalize (c.perform call).1 = answer, (c.perform call).2 = c' at he
  cases he with
  | registered hs hi => exact h.insert hi
  | removed hr => exact h.remove hr
  | cleared => exact orderly_of_nil rfl
  | changed hc => exact h.extends hc
  | refused => exact h

theorem orderly_run (calls : List Call) : (empty.run calls).Orderly := by
  induction calls using List.reverseRecOn with
  | nil => exact orderly_of_nil rfl
  | append_singleton earlier call ih =>
    rw [run_concat]
    exact ih.after call

/-! ### Looking up -/

theorem mem_entries_of_find? (h : c.find? name = some id) : (name, id) ∈ c.entries := by
  obtain ⟨l₁, l₂, h, -⟩ := List.lookup_eq_some_iff.1 h
  simp [h]

theorem mem_names_iff : name ∈ c.names ↔ c.contains name = true := by
  refine ⟨fun hm => ?_, fun hc => ?_⟩
  · by_contra hc
    exact not_mem_names_of_not_contains (by simpa using hc) hm
  · obtain ⟨id, hf⟩ := Option.isSome_iff_exists.1 hc
    exact List.mem_map.2 ⟨_, mem_entries_of_find? hf, rfl⟩

theorem get_eq (c : Cast) (name : String) :
    (∃ id, c.get name = .ok id) ∧ name ∈ c.names ∨
      c.get name = .error (.unknownSprite name) ∧ name ∉ c.names := by
  rw [mem_names_iff, contains, get]
  cases c.find? name <;> simp

theorem Orderly.name_of_find? (h : c.Orderly) (hf : c.find? name = some id) :
    (c.sprite id).name = name :=
  h.named _ (mem_entries_of_find? hf)

/-! ### Order of registration -/

/-- What can happen to the register. -/
inductive Event
  | registered (name : String)
  | removed (name : String)
  | cleared

/-- What a call does to the register if it succeeds. -/
def Call.event? : Call → Option Event
  | insert s => some (.registered s.name)
  | create name _ _ => some (.registered name)
  | remove name => some (.removed name)
  | clear => some .cleared
  | change .. => none

/-- What an answered call did to the register. -/
def event? : Call × Except Error (Option SpriteId) → Option Event
  | (call, .ok _) => call.event?
  | (_, .error _) => none

/-- What happened to the register in a run, the earliest first. -/
def history (c : Cast) (calls : List Call) : List Event := (c.answers calls).filterMap event?

/-- Whether an event decides if a name is registered. -/
def Event.concerns (name : String) : Event → Bool
  | registered other => other == name
  | removed other => other == name
  | cleared => true

/-- The names that are registered last of all that concerns them, in order of time. -/
def standing : List Event → List String
  | [] => []
  | .registered name :: later =>
      if later.any (·.concerns name) then standing later else name :: standing later
  | _ :: later => standing later

theorem standing_concat (events : List Event) (e : Event) :
    standing (events ++ [e]) =
      (standing events).filter (fun name => !e.concerns name) ++ standing [e] := by
  induction events with
  | nil => rfl
  | cons first later ih =>
    cases first with
    | registered name =>
      by_cases hl : later.any (·.concerns name) = true
      · simp [standing, hl, ih]
      · cases he : e.concerns name <;> simp [standing, hl, he, ih]
    | removed name => simpa [standing] using ih
    | cleared => simpa [standing] using ih

theorem Call.event?_of_sprite? (h : call.sprite? = some s) :
    call.event? = some (.registered s.name) := by
  cases call with
  | insert s => cases h; rfl
  | create name t source => cases h; rfl
  | _ => cases h

/-- What happened to the register tells what became of the names. -/
theorem names_effect (he : Effect c call answer c') :
    c'.names = (event? (call, answer)).elim c.names fun e =>
      c.names.filter (fun name => !e.concerns name) ++ standing [e] := by
  cases he with
  | @registered call s id c' hs hi =>
    have hc := inserted_of_insert hi
    have hkept : c.names.filter (fun name => !(Event.registered s.name).concerns name) = c.names :=
      List.filter_eq_self.2 fun name hn => by
        simpa [Event.concerns] using fun he : s.name = name => hc.fresh (he ▸ hn)
    simp only [event?, Call.event?_of_sprite? hs, Option.elim_some, hkept]
    exact hc.names
  | @removed name id c' hr =>
    obtain ⟨-, rfl⟩ := remove_eq_ok_iff.1 hr
    have hleft : Cast.names { c with entries := Keyed.without name c.entries } =
        c.names.filter (· != name) := Keyed.map_fst_without name c.entries
    simp [hleft, event?, Call.event?, Event.concerns, standing, bne, BEq.comm]
  | cleared => simp [event?, Call.event?, Event.concerns, standing]
  | changed hc => simp [event?, Call.event?, Cast.names, hc.entries]
  | refused => rfl

/-- **The names are those that were registered last, in order of time.** -/
theorem names_run (calls : List Call) :
    (empty.run calls).names = standing (empty.history calls) := by
  induction calls using List.reverseRecOn with
  | nil => rfl
  | append_singleton earlier call ih =>
    have hhistory : empty.history (earlier ++ [call]) = empty.history earlier ++
        (event? (call, ((empty.run earlier).perform call).1)).toList := by
      rw [history, answers_concat, List.filterMap_append]
      cases he : event? (call, ((empty.run earlier).perform call).1) <;> simp [history, he]
    rw [run_concat, after, names_effect (effect_perform _ call), hhistory, ih]
    cases event? (call, ((empty.run earlier).perform call).1) with
    | none => simp
    | some e => exact (standing_concat _ e).symm

/-- A name that is given again comes last. -/
example : standing [.registered "c", .registered "a", .registered "b", .removed "a",
    .registered "a"] = ["c", "b", "a"] := by decide

/-! ### Batches over all sprites -/

/-- `c'` is `c` with `f` applied once to each of the sprites and nothing else changed. -/
structure Visited (f : Sprite → Except Error Sprite) (c : Cast) (ids : List SpriteId)
    (c' : Cast) : Prop where
  entries : c'.entries = c.entries
  length : c'.sprites.length = c.sprites.length
  changed : ∀ id ∈ ids, f (c.sprite id) = .ok (c'.sprite id)
  kept : ∀ id ∉ ids, c'.sprite id = c.sprite id

/-- How a batch over all sprites ends: each registered sprite was visited once, or one of them
refused after those registered before it were visited. The error is that of the change itself. -/
inductive Tour (f : Sprite → Except Error Sprite) (c : Cast) : Except Error Nat × Cast → Prop
  | all {c' : Cast} (h : Visited f c c.registered c') : Tour f c (.ok c.registered.length, c')
  | stopped {before after : List (String × SpriteId)} {name : String} {id : SpriteId} {c' : Cast}
      {e : Error} (hn : c.entries = before ++ (name, id) :: after)
      (hb : Visited f c (before.map Prod.snd) c') (he : f (c.sprite id) = .error e) :
      Tour f c (.error (.batch name before.length e), c')

variable {f : Sprite → Except Error Sprite}

/-- One more sprite is visited. -/
theorem Visited.concat {ids : List SpriteId} (h : Visited f c ids c') (hid : id ∉ ids)
    (hlt : id.index < c.sprites.length) (hs : f (c.sprite id) = .ok s) :
    Visited f c (ids ++ [id]) (c'.replace id s) := by
  have hsprite : (c'.replace id s).sprite id = s :=
    sprite_replace_of_lt (h.length.symm ▸ hlt) s
  refine ⟨h.entries, by simp [replace, h.length], fun other ho => ?_, fun other ho => ?_⟩
  · rcases List.mem_append.1 ho with ho | ho
    · have hne : id ≠ other := fun he => hid (he ▸ ho)
      rw [sprite_replace_of_ne hne]
      exact h.changed other ho
    · obtain rfl := List.mem_singleton.1 ho
      rw [hsprite, hs]
  · obtain ⟨ho, hne⟩ := not_or.1 (fun hm => ho (List.mem_append.2 hm))
    rw [sprite_replace_of_ne fun he => hne (List.mem_singleton.2 he.symm)]
    exact h.kept other ho

/-- Looking up a registered name finds the sprite of its entry. -/
theorem update_eq_of_mem (hn : c.names.Nodup) (hm : (name, id) ∈ c.entries) :
    c.update name f = (f (c.sprite id)).map (c.replace id) := by
  have hg : c.get name = .ok id := get_eq_ok_iff.2 (Keyed.lookup_of_mem hn hm)
  unfold update
  rw [hg]
  cases hs : f (c.sprite id) <;> simp [bind, Except.bind, hs, Except.map, pure, Except.pure]

/-- A batch that has visited the entries `before` goes on through the entries `after`. -/
theorem Orderly.tour_updateEach (h : c.Orderly) {before after : List (String × SpriteId)}
    (hn : c.entries = before ++ after) (hv : Visited f c (before.map Prod.snd) c') :
    let p := c'.updateEach f before.length (after.map Prod.fst)
    Tour f c (p.1.map fun _ => c.registered.length, p.2) := by
  induction after generalizing before c' with
  | nil =>
    rw [List.append_nil] at hn
    exact .all (by rw [registered, hn]; exact hv)
  | cons entry after ih =>
    obtain ⟨name, id⟩ := entry
    have hregistered : c.registered = before.map Prod.snd ++ id :: after.map Prod.snd := by
      simp [registered, hn]
    have hid : id ∉ before.map Prod.snd := by
      have hnodup := h.sprites
      rw [hregistered, List.nodup_middle] at hnodup
      exact fun hm => (List.nodup_cons.1 hnodup).1 (List.mem_append_left _ hm)
    have hlt : id.index < c.sprites.length := h.made id (by simp [hregistered])
    have hnames : c'.names.Nodup := by
      rw [Cast.names, hv.entries]
      exact h.names
    have hmem : (name, id) ∈ c'.entries := by simp [hv.entries, hn]
    have hupdate : c'.update name f = (f (c.sprite id)).map (c'.replace id) := by
      rw [update_eq_of_mem hnames hmem, hv.kept id hid]
    intro p
    cases hs : f (c.sprite id) with
    | error e =>
      rw [hs] at hupdate
      have hp : p = (.error (.batch name before.length e), c') := by
        simp only [p, List.map_cons, updateEach, hupdate, Except.map]
      rw [hp]
      exact .stopped hn hv hs
    | ok s =>
      rw [hs] at hupdate
      have hp : p = (c'.replace id s).updateEach f (before ++ [(name, id)]).length
          (after.map Prod.fst) := by
        simp only [p, List.map_cons, updateEach, hupdate, Except.map, List.length_append,
          List.length_singleton]
      rw [hp]
      refine ih (by simp [hn]) ?_
      rw [List.map_append]
      exact hv.concat hid hlt hs

/-- **A batch over all sprites visits each of them once, in order of registration.** -/
theorem Orderly.tour_batch (h : c.Orderly) (f : Sprite → Except Error Sprite) :
    Tour f c (c.batch .all f) := by
  have hlength : c.names.length = c.registered.length := by simp [Cast.names, registered]
  have hstart : Visited f c (([] : List (String × SpriteId)).map Prod.snd) c :=
    ⟨rfl, rfl, fun id hid => absurd hid List.not_mem_nil, fun id _ => rfl⟩
  have htour := h.tour_updateEach (List.nil_append c.entries).symm hstart
  rw [← hlength] at htour
  exact htour

end SpriteStage.Cast
