import SpriteStage.Proofs.Directive
import SpriteStage.Proofs.Effect
import SpriteStage.Proofs.Options.Keywords

/-!
# Options that only directives set

A directive sets the options that its keywords are read as, and these keep the groups exclusive. A
new destination has no options. So the groups of a destination stay exclusive as long as nothing but
directives changes its options.

* `OptionsChange`: what can become of the options of a destination when some options are given;
* `Cast.Regives`: that for every destination of every sprite; batches too (`regives_batch`);
* `Host.regives_after`: every action gives one set of options at most, a directive an exclusive one;
* `Host.Directed`: a run in which only directives change the options of a destination;
* `keywords_exclusive`: how keywords are read, and what that means for runs.
-/

namespace SpriteStage

/-- What can become of the options of a destination under a change that gives these options, if it
gives any: they are replaced, or there is a new destination, or nothing happens. -/
inductive OptionsChange (given : Option RenderOptions) :
    Option RenderOptions → Option RenderOptions → Prop
  | kept (o : Option RenderOptions) : OptionsChange given o o
  | replaced (old : RenderOptions) {o : RenderOptions} (h : given = some o) :
      OptionsChange given (some old) (some o)
  | added (h : given = none) : OptionsChange given none (some .empty)

variable {given : Option RenderOptions}

theorem OptionsChange.trans {o o₁ o₂ : Option RenderOptions} (h₁ : OptionsChange given o o₁)
    (h₂ : OptionsChange given o₁ o₂) : OptionsChange given o o₂ := by
  cases h₁ with
  | kept => exact h₂
  | replaced old h =>
    cases h₂ with
    | kept => exact .replaced old h
    | replaced _ h' => exact .replaced old h'
  | added h =>
    cases h₂ with
    | kept => exact .added h
    | replaced _ h' =>
      rw [h] at h'
      cases h'

/-! ### Sprites -/

/-- The options of a destination, if the sprite has it. -/
def Sprite.options? (s : Sprite) (i : Nat) : Option RenderOptions :=
  s.destinations[i]?.map (·.options)

/-- The options that an adjustment gives. -/
def Adjustment.given? : Adjustment → Option RenderOptions
  | setOptions options => some options
  | _ => none

/-- The options that a change gives. -/
def Sprite.Change.given? : Sprite.Change → Option RenderOptions
  | adjust _ a => a.given?
  | _ => none

namespace Sprite

variable {s s' : Sprite} {i j : Nat}

theorem optionsChange_set {old new : Destination} (hold : s.destinations[j]? = some old)
    (hnew : new.options = old.options ∨ given = some new.options) (i : Nat) :
    OptionsChange given (s.options? i)
      (options? { s with destinations := s.destinations.set j new } i) := by
  by_cases hij : j = i
  · subst hij
    have hlt := (List.getElem?_eq_some_iff.1 hold).1
    have hbefore : s.options? j = some old.options := by simp [options?, hold]
    have hafter : options? { s with destinations := s.destinations.set j new } j =
        some new.options := by
      simp [options?, hlt]
    rw [hbefore, hafter]
    rcases hnew with hnew | hnew
    · rw [hnew]
      exact .kept _
    · exact .replaced old.options hnew
  · have hsame : options? { s with destinations := s.destinations.set j new } i = s.options? i := by
      simp [options?, List.getElem?_set_ne hij]
    rw [hsame]
    exact .kept _

theorem optionsChange_of_modify {f : Destination → Destination} (h : s.modify j f = .ok s')
    (hf : ∀ d, (f d).options = d.options) (i : Nat) :
    OptionsChange given (s.options? i) (s'.options? i) := by
  obtain ⟨old, hold, rfl⟩ := modify_eq_ok_iff.1 h
  exact optionsChange_set hold (.inl (hf old)) i

theorem optionsChange_addDestination (s : Sprite) (x y : Int32) (i : Nat) :
    OptionsChange none (s.options? i) ((s.addDestination x y).options? i) := by
  rcases Nat.lt_trichotomy i s.destinations.length with hi | rfl | hi
  · have hsame : (s.addDestination x y).options? i = s.options? i := by
      simp [options?, addDestination, List.getElem?_append_left hi]
    rw [hsame]
    exact .kept _
  · have hold : s.options? s.destinations.length = none := by simp [options?]
    have hnew : (s.addDestination x y).options? s.destinations.length = some .empty := by
      simp [options?, addDestination, Destination.plain]
    rw [hold, hnew]
    exact .added rfl
  · have hlen : (s.addDestination x y).destinations.length ≤ i := by
      rw [length_addDestination]
      exact hi
    have hsame : (s.addDestination x y).options? i = s.options? i := by
      rw [options?, options?, List.getElem?_eq_none hlen, List.getElem?_eq_none (Nat.le_of_lt hi)]
    rw [hsame]
    exact .kept _

theorem optionsChange_of_adjustment {a : Adjustment} (h : a.apply s j = .ok s') (i : Nat) :
    OptionsChange a.given? (s.options? i) (s'.options? i) := by
  rcases Adjustment.apply_eq_ok_iff.1 h with ⟨x, y, rfl, rfl⟩ | ⟨old, new, hold, ha, rfl⟩
  · exact optionsChange_addDestination s x y i
  · refine optionsChange_set hold ?_ i
    cases ha with
    | setOptions options => exact .inr rfl
    | _ => exact .inl rfl

theorem optionsChange_of_centerIn {area : Rect} (h : s.centerIn j area = .ok s') (i : Nat) :
    OptionsChange given (s.options? i) (s'.options? i) := by
  obtain ⟨d, -, h⟩ := exists_of_bind_eq_ok h
  obtain ⟨x, -, h⟩ := exists_of_bind_eq_ok h
  obtain ⟨y, -, h⟩ := exists_of_bind_eq_ok h
  exact optionsChange_of_modify h (fun _ => rfl) i

/-- **A change gives its options to destinations that are there, and none to new ones.** -/
theorem optionsChange_of_apply {change : Sprite.Change} (h : change.apply s = .ok s') (i : Nat) :
    OptionsChange change.given? (s.options? i) (s'.options? i) := by
  cases change with
  | place j rect => exact optionsChange_of_modify h (fun _ => rfl) i
  | center j area => exact optionsChange_of_centerIn h i
  | adjust j a => exact optionsChange_of_adjustment h i

end Sprite

/-! ### Casts -/

namespace Cast

variable {c c' d : Cast} {r : ValueReader} {line name : String} {id : SpriteId} {s : Sprite}
  {o : RenderOptions} {f : Sprite → Except Error Sprite}

/-- The options of a destination of the sprite of an identity. -/
def options? (c : Cast) (id : SpriteId) (i : Nat) : Option RenderOptions := (c.sprite id).options? i

/-- `c'` is what a change that gives these options can make of `c`. -/
def Regives (given : Option RenderOptions) (c c' : Cast) : Prop :=
  ∀ id i, OptionsChange given (c.options? id i) (c'.options? id i)

theorem regives_of_sprites (h : c'.sprites = c.sprites) : c.Regives given c' := by
  intro id i
  have hsprite : c'.sprite id = c.sprite id := by rw [sprite, sprite, h]
  rw [options?, options?, hsprite]
  exact .kept _

theorem Regives.trans (h₁ : c.Regives given c') (h₂ : c'.Regives given d) : c.Regives given d :=
  fun id i => (h₁ id i).trans (h₂ id i)

theorem regives_replace (hs : ∀ i, OptionsChange given ((c.sprite id).options? i) (s.options? i)) :
    c.Regives given (c.replace id s) := by
  intro other i
  rw [options?, options?]
  by_cases ho : id = other
  · subst ho
    rcases sprite_replace_self c id s with hself | hself <;> rw [hself]
    · exact hs i
    · exact .kept _
  · rw [sprite_replace_of_ne ho]
    exact .kept _

theorem regives_of_update
    (hf : ∀ s s', f s = .ok s' → ∀ i, OptionsChange given (s.options? i) (s'.options? i))
    (h : c.update name f = .ok c') : c.Regives given c' := by
  obtain ⟨id, -, h⟩ := exists_of_bind_eq_ok h
  obtain ⟨s, hs, h⟩ := exists_of_bind_eq_ok h
  cases h
  exact regives_replace (hf _ _ hs)

/-- **A batch does to options what its single changes do.** -/
theorem regives_batch
    (hf : ∀ s s', f s = .ok s' → ∀ i, OptionsChange given (s.options? i) (s'.options? i))
    (c : Cast) (selection : Selection) : c.Regives given (c.batch selection f).2 :=
  updateEach_induction (P := c.Regives given) (fun _ _ _ h hc => hc.trans (regives_of_update hf h))
    (regives_of_sprites rfl) 0 (c.selected selection)

/-- A new sprite has one destination, without options. -/
theorem regives_insert {t : Texture} {source : Rect}
    (h : c.insert (.new name t source) = .ok (id, c')) : c.Regives none c' := by
  have hc := inserted_of_insert h
  intro other i
  rw [options?, options?]
  rcases Nat.lt_trichotomy other.index c.sprites.length with ho | ho | ho
  · rw [hc.kept ho]
    exact .kept _
  · obtain rfl : other = id := by
      cases other
      cases id
      simpa [← hc.index] using ho
    have hold : (c.sprite other).options? i = none := by
      simp [sprite, ho, Sprite.absent, Sprite.options?]
    rw [hold, hc.sprite]
    cases i with
    | zero => exact .added rfl
    | succ i => exact .kept _
  · have hsame : c'.sprite other = c.sprite other := by
      have hlen : c'.sprites.length ≤ other.index := by rw [hc.length]; exact ho
      simp [sprite, List.getD_eq_getElem?_getD, hlen, Nat.le_of_lt ho]
    rw [hsame]
    exact .kept _

/-! #### Directives -/

theorem exists_of_ofWords_eq_options {words : List String}
    (h : Adjustment.Reach.ofWords words = some (.part .options)) :
    ∃ options, words = "setOptions" :: options := by
  unfold Adjustment.Reach.ofWords at h
  split at h
  case h_8 options => exact ⟨options, rfl⟩
  all_goals cases h

theorem readDirective_of_words {options : List String}
    (h : Text.words line = "setOptions" :: options) :
    c.readDirective r line = (RenderOptions.parse options).map .setOptions := by
  rw [readDirective, h]
  rfl

/-- **The options that a directive gives are read from its words**, and so they are exclusive. -/
theorem exclusive_of_readDirective {a : Adjustment} (h : c.readDirective r line = .ok a)
    (ho : a.given? = some o) : o.Exclusive := by
  cases a with
  | setOptions options =>
    obtain rfl := Option.some.inj ho
    obtain ⟨words, hwords⟩ := exists_of_ofWords_eq_options (reach_of_readDirective h)
    rw [readDirective_of_words hwords] at h
    obtain ⟨read, hread, heq⟩ := exists_of_map_eq_ok h
    cases heq
    exact RenderOptions.exclusive_of_parse hread
  | _ => cases ho

end Cast

/-! ### Hosts -/

/-- Whether an action is a directive, or a batch of directives. -/
def Action.isDirective {β : Type} : Action β → Bool
  | direct .. | directEach .. => true
  | _ => false

namespace Host

variable {β : Type} {h h' : Host β}

/-- The options that an action gives. Those of a directive are read from its words. -/
def given? (h : Host β) : Action β → Option RenderOptions
  | .direct _ _ line | .directEach _ _ line =>
      match h.stage.cast.readDirective h.stage.reader line with
      | .ok a => a.given?
      | .error _ => none
  | .changeEach _ change | .changeSprite _ change => change.given?
  | _ => none

/-- **What a directive gives is exclusive.** -/
theorem exclusive_of_given {a : Action β} {o : RenderOptions} (ha : a.isDirective = true)
    (ho : h.given? a = some o) : o.Exclusive := by
  cases a with
  | direct _ _ line | directEach _ _ line =>
    simp only [given?] at ho
    split at ho
    · next hr => exact Cast.exclusive_of_readDirective hr ho
    · cases ho
  | _ => cases ha

/-- `h'` is what an action that gives these options can make of the options in `h`. -/
def Regives (given : Option RenderOptions) (h h' : Host β) : Prop :=
  h.stage.cast.Regives given h'.stage.cast

theorem regives_self (h : Host β) : h.Regives given h := Cast.regives_of_sprites rfl

theorem regives_of_edited (he : Edited h h') : h.Regives given h' := by
  cases he with
  | mk hs hi =>
    rw [Regives, hs.eq]
    exact Cast.regives_of_sprites rfl

theorem regives_change {f : Stage → Except Error Cast}
    (hf : ∀ c, f h.stage = .ok c → h.stage.cast.Regives given c) :
    h.Regives given (h.change fun s => do return { s with cast := ← f s }).2 := by
  refine change_cases (P := h.Regives given) (regives_self h) fun s hs => ?_
  obtain ⟨c, hc, hs⟩ := exists_of_bind_eq_ok hs
  cases hs
  exact hf c hc

theorem regives_runSchedule (h : Host β) : h.Regives given h.runSchedule := by
  unfold runSchedule
  dsimp only
  split
  · exact Cast.regives_of_sprites rfl
  · exact Cast.regives_of_sprites rfl

/-! #### Making and deleting -/

theorem regives_register (s : Stage) (b : β) (name : String) (t : Texture) (source : Rect) :
    s.cast.Regives none (s.register b name t source).stage.cast := by
  unfold Stage.register
  split
  · exact Cast.regives_of_sprites rfl
  · next id c hi => exact Cast.regives_insert hi

variable [TextureLoader β]

theorem regives_createSprite (h : Host β) (name key : String) (source : Rect) :
    h.Regives none (h.createSprite name key source).2 := by
  unfold createSprite Stage.createSprite
  split
  · exact regives_self h
  · split
    · exact regives_self h
    · next t textures b _ => exact regives_register { h.stage with textures } b name t source

theorem regives_createFromFile (h : Host β) (path : String) :
    h.Regives none (h.createFromFile path).2 := by
  unfold createFromFile Stage.createFromFile
  split
  · exact regives_self h
  · split
    · exact regives_self h
    · next t textures b _ => exact regives_register { h.stage with textures } b path t .empty

theorem regives_createFromRectangle (h : Host β) (name : String) (width height : Int32)
    (color : Color) : h.Regives none (h.createFromRectangle name width height color).2 := by
  unfold createFromRectangle Stage.createFromRectangle
  split
  · exact regives_self h
  · split
    · exact regives_self h
    · next t textures b _ =>
      have hmade := regives_register { h.stage with textures } b name t .empty
      dsimp only
      split
      · exact hmade
      · split
        · exact hmade
        · next sprite hs =>
          exact hmade.trans (Cast.regives_replace (Sprite.optionsChange_of_modify hs fun _ => rfl))

theorem regives_deleteSprite (h : Host β) (name : String) :
    h.Regives given (h.deleteSprite name).2 := by
  unfold deleteSprite Stage.deleteSprite
  split
  · exact regives_self h
  · next id c hr =>
    obtain ⟨-, rfl⟩ := Cast.remove_eq_ok_iff.1 hr
    exact Cast.regives_of_sprites rfl

theorem regives_deleteTexture (h : Host β) (key : String) :
    h.Regives given (h.deleteTexture key).2 := by
  unfold deleteTexture
  simp only [Stage.deleteTexture]
  split
  · exact regives_self h
  · split
    · exact regives_self h
    · exact regives_deleteSprite h key

variable [Canvas β]

theorem regives_renderPass (h : Host β) : h.Regives given h.renderPass.2 := by
  unfold renderPass Stage.renderPass
  split
  · exact regives_self h
  · exact Cast.regives_of_sprites rfl

/-! #### Every action -/

/-- **Every action gives its options to destinations that are there, and none to new ones.** -/
theorem regives_after (h : Host β) (a : Action β) : h.Regives (h.given? a) (h.after a) := by
  cases a with
  | createSprite name key source => exact regives_createSprite h name key source
  | createFromFile path => exact regives_createFromFile h path
  | createFromRectangle name width height color =>
    exact regives_createFromRectangle h name width height color
  | deleteSprite name => exact regives_deleteSprite h name
  | deleteTexture key => exact regives_deleteTexture h key
  | direct name i line =>
    refine regives_change (f := fun s => s.cast.direct s.reader name i line) fun c hc => ?_
    obtain ⟨id, a, s, -, ha, hs, rfl⟩ := Cast.direct_eq_ok_iff.1 hc
    simp only [given?, ha]
    exact Cast.regives_replace (Sprite.optionsChange_of_adjustment hs)
  | directEach selection i line =>
    show h.stage.cast.Regives _ (h.stage.cast.directEach h.stage.reader selection i line).2
    unfold Cast.directEach
    cases ha : h.stage.cast.readDirective h.stage.reader line with
    | error e => exact Cast.regives_of_sprites rfl
    | ok a =>
      simp only [given?, ha]
      exact Cast.regives_batch (fun _ _ hs => Sprite.optionsChange_of_adjustment hs) _ _
  | changeEach selection change =>
    exact Cast.regives_batch (fun _ _ hs => Sprite.optionsChange_of_apply hs) _ _
  | centerInSprite name i other j =>
    refine regives_change (f := (·.cast.centerInSprite name i other j)) fun c hc => ?_
    obtain ⟨id, -, hc⟩ := exists_of_bind_eq_ok hc
    obtain ⟨target, -, hc⟩ := exists_of_bind_eq_ok hc
    obtain ⟨area, -, hc⟩ := exists_of_bind_eq_ok hc
    obtain ⟨s, hs, hc⟩ := exists_of_bind_eq_ok hc
    cases hc
    exact Cast.regives_replace (Sprite.optionsChange_of_centerIn hs)
  | changeSprite ref change =>
    refine withSprite_cases (P := h.Regives _) (regives_self h) fun id hk => ?_
    split
    · next s hs => exact Cast.regives_replace (Sprite.optionsChange_of_apply hs)
    · exact regives_self h
  | push | swap | replaceAt | replaceLast | append | insert | move | exchange | remove | toggle
  | clearQueue | directQueue => exact regives_of_edited (edited_after h rfl)
  | renderPass => exact regives_renderPass h
  | runSchedule => exact regives_runSchedule h
  | holdSprite label ref =>
    exact withSprite_cases (P := h.Regives _) (regives_self h) fun id hk => regives_self h
  | holdItem label i =>
    show h.Regives _ (perform h (.holdItem label i)).2
    simp only [perform]
    split
    · exact Cast.regives_of_sprites rfl
    · exact regives_self h
  | _ => exact Cast.regives_of_sprites rfl

/-! ### Runs -/

variable {id : SpriteId} {i : Nat} {actions : List (Action β)}

/-- The options of a destination, if there is one. -/
def options? (h : Host β) (id : SpriteId) (i : Nat) : Option RenderOptions :=
  h.stage.cast.options? id i

/-- In this run only directives change the options that a destination has. -/
def Directed (h : Host β) (id : SpriteId) (i : Nat) (actions : List (Action β)) : Prop :=
  ∀ earlier a later, actions = earlier ++ a :: later → a.isDirective = false →
    ∀ o, (h.run earlier).options? id i = some o → ((h.run earlier).after a).options? id i = some o

/-- The options of a destination are exclusive, if there is one. -/
def ExclusiveAt (h : Host β) (id : SpriteId) (i : Nat) : Prop :=
  ∀ o, h.options? id i = some o → o.Exclusive

theorem exclusiveAt_after {a : Action β} (he : h.ExclusiveAt id i)
    (ha : a.isDirective = false → ∀ o, h.options? id i = some o →
      (h.after a).options? id i = some o) : (h.after a).ExclusiveAt id i := by
  have hchange : OptionsChange (h.given? a) (h.options? id i) ((h.after a).options? id i) :=
    regives_after h a id i
  intro o ho
  rw [ho] at hchange
  cases hd : a.isDirective with
  | true =>
    generalize hold : h.options? id i = old at hchange
    cases hchange with
    | kept => exact he o hold
    | replaced old hgiven => exact exclusive_of_given hd hgiven
    | added => exact RenderOptions.exclusive_empty
  | false =>
    cases hold : h.options? id i with
    | some old =>
      rw [ha hd old hold, Option.some.injEq] at ho
      exact ho ▸ he old hold
    | none =>
      rw [hold] at hchange
      cases hchange with
      | added => exact RenderOptions.exclusive_empty

/-- **What only directives change stays exclusive.** -/
theorem exclusiveAt_run (hd : h.Directed id i actions) (he : h.ExclusiveAt id i) :
    (h.run actions).ExclusiveAt id i := by
  induction actions using List.reverseRecOn with
  | nil => exact he
  | append_singleton earlier a ih =>
    have hearlier : h.Directed id i earlier := by
      rintro before b later rfl
      exact hd before b (later ++ [a]) (by simp)
    rw [run_append]
    exact exclusiveAt_after (ih hearlier) (hd earlier a [] rfl)

/-- **Keywords are read exactly, and they keep the groups exclusive.** A list of words is read
exactly if every word is a keyword and no two are for different flags of one group. What is read is
the union of their flags: it has at most one flag of each group and no other bits, and it depends on
the words alone, not on their order, on repetitions or on `default`. Otherwise the first word that is
no keyword, or clashes with an earlier one, is reported. What was read can be read again from its
description. So in every run a destination whose options only directives change has at most one flag
of each group at the end. -/
theorem keywords_exclusive (name : String) (screen : ScreenSize) (b : β)
    (actions : List (Action β)) (words : List String) :
    (∀ o, RenderOptions.parse words = .ok o ↔
      RenderOptions.Acceptable words ∧ o = RenderOptions.union words) ∧
    (∀ o, RenderOptions.parse words = .ok o → o.Exclusive ∧ o.unknownBits = 0 ∧
      (∀ others, RenderOptions.SameWords words others → RenderOptions.parse others = .ok o) ∧
      RenderOptions.parse (RenderOptions.spaced o.describe) = .ok o) ∧
    (∀ e, RenderOptions.parse words = .error e ↔
      ∃ before w after, words = before ++ w :: after ∧ RenderOptions.Acceptable before ∧
        ((RenderOptions.ofKeyword? w = none ∧ e = .unknownOption w) ∨
          (∃ v ∈ before, RenderOptions.Clash v w) ∧
            e = .parse w s!"conflicts with '{(RenderOptions.union before).describe}'")) ∧
    ∀ id i, (Host.new name screen b).Directed id i actions →
      ∀ o, ((Host.new name screen b).run actions).options? id i = some o → o.Exclusive := by
  refine ⟨fun o => RenderOptions.parse_eq_ok_iff, fun o ho => ?_,
    fun e => RenderOptions.parse_eq_error_iff, fun id i hd => ?_⟩
  · refine ⟨RenderOptions.exclusive_of_parse ho, RenderOptions.unknownBits_of_parse ho,
      fun others hsame => ?_, RenderOptions.parse_describe ho⟩
    exact (RenderOptions.parse_congr hsame).1 ho
  · exact exclusiveAt_run hd fun o ho => nomatch ho

/-- A sprite is made, a directive gives it options, and then its color is changed without one. -/
def recoloring : List (Action Recorder) :=
  [.createFromRectangle "player" 20 10 .black, .direct "player" 0 "setOptions rotate-90 blend-add",
    .changeSprite (.registered "player") (.adjust 0 (.setColor ⟨255, 0, 0, 255⟩))]

theorem directed_recoloring :
    (Host.new "stage" ⟨200, 100⟩ Recorder.new).Directed ⟨0⟩ 0 recoloring := by
  intro earlier a later hsplit ha o ho
  match earlier, hsplit with
  | [], hsplit =>
    -- there is no sprite yet
    cases ho
  | [_], hsplit =>
    cases hsplit
    cases ha
  | [_, _], hsplit =>
    cases hsplit
    exact ho
  | _ :: _ :: _ :: _, hsplit => simp [recoloring] at hsplit

/-- Words with a repetition and `default`, and a destination that a directive gave two options. -/
theorem keywords_exclusive_of_recoloring :
    let h := Host.new "stage" ⟨200, 100⟩ Recorder.new
    let words := ["rotate-90", "default", "flip-h", "rotate-90"]
    RenderOptions.parse words = .ok ⟨20⟩ ∧ (⟨20⟩ : RenderOptions).Exclusive ∧
      RenderOptions.SameWords words ["flip-h", "rotate-90"] ∧
      RenderOptions.parse ["flip-h", "rotate-90"] = .ok ⟨20⟩ ∧
      h.Directed ⟨0⟩ 0 recoloring ∧ (h.run recoloring).options? ⟨0⟩ 0 = some ⟨528⟩ ∧
      (⟨528⟩ : RenderOptions).Exclusive := by
  intro h words
  have hwords := keywords_exclusive "stage" ⟨200, 100⟩ Recorder.new recoloring words
  have hread : RenderOptions.parse words = .ok ⟨20⟩ := rfl
  have hsame : RenderOptions.SameWords words ["flip-h", "rotate-90"] := by
    intro w hw
    simp only [words, List.mem_cons, List.not_mem_nil, hw]
    tauto
  have hoptions : (h.run recoloring).options? ⟨0⟩ 0 = some ⟨528⟩ := rfl
  exact ⟨hread, (hwords.2.1 _ hread).1, hsame, (hwords.2.1 _ hread).2.2.1 _ hsame,
    directed_recoloring, hoptions, hwords.2.2.2 _ _ directed_recoloring _ hoptions⟩

end Host

end SpriteStage
