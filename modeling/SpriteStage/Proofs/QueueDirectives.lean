import SpriteStage.Proofs.Anchored
import SpriteStage.Proofs.ExactCentring

/-!
# What queue directives do

A queue directive does for its sprite what the operation of its keyword does. Of a sprite that is
not registered, items can only be taken out, shown and hidden.

* `Stage.Commands`: the words of a directive with what the operation of their keyword gives;
* `QueueEdit.Refuses`: the words that are no directive, with the error for them;
* `commands_or_refused`: every list of words is one or the other, and it is read as such
  (`parse_of_commands`, `parse_of_refuses`);
* `ValueReader.index_of_expression`: the text of an expression near to an index is one;
* `directQueue_of_refuses`, `directQueue_of_commands`: what a directive does for a known name;
* `draws_sublist_of_unregistered`: what a directive leaves of the queue for a deleted sprite;
* `Stage.directive_follows_keyword`: what a directive does, for every stage, name and line.
-/

namespace SpriteStage

open Formula (Tree)
open Stage (AnchorWords)

/-! ### Words -/

/-- The words a queue directive begins with. -/
def QueueEdit.keywords : List String :=
  ["append", "remove", "toggle"] ++ AnchoredEdit.all.map AnchoredEdit.keyword

/-- The words of a queue directive, with what the operation of their keyword gives for a destination
of the sprite of a name. The words behind a keyword name the anchor. -/
inductive Stage.Commands (s : Stage) (name : String) (d : Nat) :
    List String → Except Error Stage → Prop
  | append : Commands s name d ["append"] ((s.append name d).map (·.2))
  | insertAfter {args : List String} {other : String} {j : Nat}
      (h : AnchorWords s.reader args other j) :
      Commands s name d ("insertAfter" :: args) ((s.insert .after name d other j).map (·.2))
  | insertBefore {args : List String} {other : String} {j : Nat}
      (h : AnchorWords s.reader args other j) :
      Commands s name d ("insertBefore" :: args) ((s.insert .before name d other j).map (·.2))
  | moveAfter {args : List String} {other : String} {j : Nat}
      (h : AnchorWords s.reader args other j) :
      Commands s name d ("moveAfter" :: args) ((s.move .after name d other j).map (·.2))
  | moveBefore {args : List String} {other : String} {j : Nat}
      (h : AnchorWords s.reader args other j) :
      Commands s name d ("moveBefore" :: args) ((s.move .before name d other j).map (·.2))
  | swap {args : List String} {other : String} {j : Nat}
      (h : AnchorWords s.reader args other j) :
      Commands s name d ("swap" :: args) ((s.exchange name d other j).map (·.2))
  | remove : Commands s name d ["remove"] ((s.remove name d).map (·.2))
  | flip : Commands s name d ["toggle"] ((s.toggle name d .flip).map (·.2))
  | on : Commands s name d ["toggle", "on"] ((s.toggle name d .on).map (·.2))
  | off : Commands s name d ["toggle", "off"] ((s.toggle name d .off).map (·.2))

/-- The words that are no queue directive, with the error that says why. -/
inductive QueueEdit.Refuses (r : ValueReader) : List String → Error → Prop
  | blank : Refuses r [] (.unknownCommand "")
  | unknown {command : String} {args : List String} (h : command ∉ keywords) :
      Refuses r (command :: args) (.unknownCommand command)
  | bareCount {command : String} {args : List String} (h : command = "append" ∨ command = "remove")
      (ha : args ≠ []) : Refuses r (command :: args) (.argumentCount command "0" args.length)
  | visibility {word : String} (hon : word ≠ "on") (hoff : word ≠ "off") :
      Refuses r ["toggle", word] (.parse word "expected 'on' or 'off'")
  | toggleCount {args : List String} (h : 1 < args.length) :
      Refuses r ("toggle" :: args) (.argumentCount "toggle" "0 or 1" args.length)
  | anchorCount (edit : AnchoredEdit) {args : List String} (h : args.length ≠ 1)
      (h' : args.length ≠ 2) :
      Refuses r (edit.keyword :: args) (.argumentCount edit.keyword "1 or 2" args.length)
  | index (edit : AnchoredEdit) {other index : String} {e : Error} (h : r.index index = .error e) :
      Refuses r [edit.keyword, other, index] e

variable {s : Stage} {name line : String} {d : Nat} {ws : List String} {e : Error}
  {outcome : Except Error Stage} {r : ValueReader}

theorem Stage.exists_commands (edit : AnchoredEdit) {args : List String} {other : String} {j : Nat}
    (h : AnchorWords s.reader args other j) :
    ∃ outcome, s.Commands name d (edit.keyword :: args) outcome := by
  cases edit with
  | insert side =>
    cases side with
    | after => exact ⟨_, .insertAfter h⟩
    | before => exact ⟨_, .insertBefore h⟩
  | move side =>
    cases side with
    | after => exact ⟨_, .moveAfter h⟩
    | before => exact ⟨_, .moveBefore h⟩
  | swap => exact ⟨_, .swap h⟩

/-- Whatever the words are, they are those of a directive or refused. -/
theorem Stage.commands_or_refused (s : Stage) (name : String) (d : Nat) (ws : List String) :
    (∃ outcome, s.Commands name d ws outcome) ∨ ∃ e, QueueEdit.Refuses s.reader ws e := by
  cases ws with
  | nil => exact .inr ⟨_, .blank⟩
  | cons command args =>
    by_cases hc : command ∈ QueueEdit.keywords
    · simp only [QueueEdit.keywords, List.cons_append, List.nil_append, List.mem_cons,
        List.mem_map] at hc
      rcases hc with rfl | rfl | rfl | ⟨edit, -, rfl⟩
      · cases args with
        | nil => exact .inl ⟨_, .append⟩
        | cons w ws => exact .inr ⟨_, .bareCount (.inl rfl) (List.cons_ne_nil w ws)⟩
      · cases args with
        | nil => exact .inl ⟨_, .remove⟩
        | cons w ws => exact .inr ⟨_, .bareCount (.inr rfl) (List.cons_ne_nil w ws)⟩
      · match args with
        | [] => exact .inl ⟨_, .flip⟩
        | [word] =>
          by_cases hon : word = "on"
          · subst hon
            exact .inl ⟨_, .on⟩
          by_cases hoff : word = "off"
          · subst hoff
            exact .inl ⟨_, .off⟩
          exact .inr ⟨_, .visibility hon hoff⟩
        | _ :: _ :: _ => exact .inr ⟨_, .toggleCount (by simp)⟩
      · match args with
        | [] => exact .inr ⟨_, .anchorCount edit (by simp) (by simp)⟩
        | [other] => exact .inl (exists_commands edit (.bare other))
        | [other, index] =>
          cases hi : s.reader.index index with
          | error e => exact .inr ⟨e, .index edit hi⟩
          | ok j => exact .inl (exists_commands edit (.indexed hi))
        | _ :: _ :: _ :: _ => exact .inr ⟨_, .anchorCount edit (by simp) (by simp)⟩
    · exact .inr ⟨_, .unknown hc⟩

/-! ### Reading -/

namespace QueueEdit

theorem ofKeyword?_eq_none {word : String} (h : word ∉ keywords) :
    AnchoredEdit.ofKeyword? word = none := by
  refine List.find?_eq_none.2 fun edit hedit hword => h ?_
  exact List.mem_append_right _ (List.mem_map.2 ⟨edit, hedit, by simpa using hword⟩)

/-- **Words that are no directive are reported with the error for them.** -/
theorem parse_of_refuses (hw : Text.words line = ws) (h : Refuses r ws e) :
    parse r line = .error e := by
  cases h with
  | blank => simp [parse, hw]
  | @unknown command args h =>
    have hne : command ≠ "append" ∧ command ≠ "remove" ∧ command ≠ "toggle" := by
      refine ⟨?_, ?_, ?_⟩ <;> rintro rfl <;> exact h (by decide)
    simp [parse, hw, hne, ofKeyword?_eq_none h]
  | bareCount h ha => rcases h with rfl | rfl <;> simp [parse, hw, readBare, ha]
  | visibility hon hoff => simp [parse, hw, readToggle, hon, hoff]
  | @toggleCount args h =>
    match args, h with
    | _ :: _ :: _, _ => simp [parse, hw, readToggle]
  | @anchorCount edit args h h' =>
    rw [Stage.parse_of_keyword hw]
    match args, h, h' with
    | [], _, _ => rfl
    | _ :: _ :: _ :: _, _, _ => rfl
  | index edit h =>
    rw [Stage.parse_of_keyword hw, readAnchor, h]
    rfl

theorem reaches_anchored (edit : AnchoredEdit) {other : String} {j : Nat} :
    (anchored edit other j).reachesDeleted = true ↔
      some edit.keyword = some "remove" ∨ some edit.keyword = some "toggle" := by
  obtain ⟨-, hremove, htoggle⟩ := Stage.keyword_ne edit
  simp [reachesDeleted, hremove, htoggle]

/-- **The words of a directive are read as the edit of their keyword.** Only `remove` and `toggle`
reach sprites that are not registered. -/
theorem parse_of_commands (hw : Text.words line = ws) (h : s.Commands name d ws outcome) :
    ∃ edit, parse s.reader line = .ok edit ∧ edit.apply s name d = outcome ∧
      (edit.reachesDeleted = true ↔ ws.head? = some "remove" ∨ ws.head? = some "toggle") := by
  cases h with
  | append => exact ⟨.append, by simp [parse, hw, readBare], rfl, by decide⟩
  | remove => exact ⟨.remove, by simp [parse, hw, readBare], rfl, by decide⟩
  | flip => exact ⟨.toggle .flip, by simp [parse, hw, readToggle], rfl, by decide⟩
  | on => exact ⟨.toggle .on, by simp [parse, hw, readToggle], rfl, by decide⟩
  | off => exact ⟨.toggle .off, by simp [parse, hw, readToggle], rfl, by decide⟩
  | insertAfter h =>
    exact ⟨.anchored (.insert .after) _ _, Stage.parse_anchored hw h, rfl, reaches_anchored _⟩
  | insertBefore h =>
    exact ⟨.anchored (.insert .before) _ _, Stage.parse_anchored hw h, rfl, reaches_anchored _⟩
  | moveAfter h =>
    exact ⟨.anchored (.move .after) _ _, Stage.parse_anchored hw h, rfl, reaches_anchored _⟩
  | moveBefore h =>
    exact ⟨.anchored (.move .before) _ _, Stage.parse_anchored hw h, rfl, reaches_anchored _⟩
  | swap h => exact ⟨.anchored .swap _ _, Stage.parse_anchored hw h, rfl, reaches_anchored _⟩

end QueueEdit

/-- **The text of an expression is an index** if the whole number nearest to its value is one. -/
theorem ValueReader.index_of_expression (r : ValueReader) (t : Tree .expression) {v : Binary64}
    {q : ℚ} {j : Nat} (ht : t.outcome r.screen = .ok v) (hv : v.value? = some q)
    (hnear : nearest q = j) (hj : j ≤ 2147483647) : r.index (String.ofList t.render) = .ok j := by
  refine ValueReader.index_eq_ok_iff.2 ⟨v, q, ?_, hv, hnear, hj⟩
  rw [Formula.value_ofList_render, ht]
  rfl

/-! ### Sprites that are not registered -/

namespace Stage

theorem isQueued_iff :
    s.isQueued name = true ↔ ∃ item ∈ s.queue, (s.spriteOf item).name = name := by
  simp [isQueued]

/-- A name that is neither registered nor queued is reported before the line is read. -/
theorem directQueue_of_unknown (hr : s.cast.contains name = false) (hq : s.isQueued name = false) :
    s.directQueue name d line = .error (.unknownSprite name) := by
  simp [directQueue, hr, hq]

theorem directQueue_of_known (h : s.cast.contains name = true ∨ s.isQueued name = true) :
    s.directQueue name d line = QueueEdit.parse s.reader line >>= fun edit =>
      if s.cast.contains name = true ∨ edit.reachesDeleted = true then edit.apply s name d
      else .error (.unknownSprite name) := by
  unfold directQueue
  rw [if_neg (by rcases h with h | h <;> simp [h])]
  congr 1
  funext edit
  cases s.cast.contains name <;> cases edit.reachesDeleted <;> rfl

theorem directQueue_of_refuses (hknown : s.cast.contains name = true ∨ s.isQueued name = true)
    (h : QueueEdit.Refuses s.reader (Text.words line) e) :
    s.directQueue name d line = .error e := by
  rw [directQueue_of_known hknown, QueueEdit.parse_of_refuses rfl h]
  rfl

/-- A directive for a known name does what the operation of its keyword does, if the name is
registered or the keyword does not ask for that. -/
theorem directQueue_of_commands (hknown : s.cast.contains name = true ∨ s.isQueued name = true)
    (h : s.Commands name d (Text.words line) outcome) :
    s.directQueue name d line =
      if s.cast.contains name = true ∨ (Text.words line).head? = some "remove" ∨
        (Text.words line).head? = some "toggle" then outcome
      else .error (.unknownSprite name) := by
  obtain ⟨edit, hedit, rfl, hreach⟩ := QueueEdit.parse_of_commands rfl h
  rw [directQueue_of_known hknown, bind_of_eq_ok hedit]
  exact if_congr (or_congr_right hreach) rfl rfl

theorem afterCall_of_error (h : s.directQueue name d line = .error e) :
    s.afterCall (.directive name d line) = s := by
  simp [afterCall, call, h, Except.map]

/-- An edit that is open to sprites that are not registered puts nothing into the queue. -/
theorem draws_sublist_of_edit {t : Stage} {edit : QueueEdit} (hr : edit.reachesDeleted = true)
    (h : edit.apply s name d = .ok t) :
    (t.queue.map QueueItem.draws).Sublist (s.queue.map QueueItem.draws) := by
  obtain ⟨returned, put, taken, ha⟩ := amends_of_edit h
  generalize t.queue = after at ha ⊢
  cases edit with
  | append | anchored edit other j => cases hr
  | remove =>
    cases ha with
    | remove hq ho =>
      rw [hq]
      exact ((List.sublist_cons_self _ _).append_left _).map _
  | toggle u =>
    cases ha with
    | toggle hd => rw [hd]

/-- **Nothing is added or moved for a sprite that is not registered**: what is queued after a
directive for it was queued before, in the same order. -/
theorem draws_sublist_of_unregistered (hr : s.cast.contains name = false) :
    ((s.afterCall (.directive name d line)).queue.map QueueItem.draws).Sublist
      (s.queue.map QueueItem.draws) := by
  cases h : s.directQueue name d line with
  | error e => rw [afterCall_of_error h]
  | ok t =>
    have hafter : s.afterCall (.directive name d line) = t := by
      simp [afterCall, call, h, Except.map]
    obtain ⟨edit, -, h, hopen⟩ := edit_of_directQueue h
    rw [hafter]
    exact draws_sublist_of_edit (hopen.resolve_left (by simp [hr])) h

/-! ### Every line -/

/-- **A queue directive does what its keyword says.** A name that is neither registered nor queued
is reported, whatever the line is. Otherwise words that are no directive are reported with the error
for them, and every other line does exactly what the operation of its keyword does for the
destination of the name and the anchor of its words. Of these only `remove` and `toggle` do so for a
name that is not registered; the others report it, and in no case is anything added or moved for
it. What fails changes nothing. The index of an anchor is zero or a word whose value is nearest to
a coordinate that is not negative, such as the text of every expression of such a value. -/
theorem directive_follows_keyword (s : Stage) (name : String) (d : Nat) (line : String) :
    let answer := s.directQueue name d line
    let registered := s.cast.contains name = true
    let queued := ∃ item ∈ s.queue, (s.spriteOf item).name = name
    let ws := Text.words line
    (¬ registered → ¬ queued → answer = .error (.unknownSprite name)) ∧
    (registered ∨ queued →
      (∀ e, QueueEdit.Refuses s.reader ws e → answer = .error e) ∧
      ∀ outcome, s.Commands name d ws outcome →
        (registered ∨ ws.head? = some "remove" ∨ ws.head? = some "toggle" → answer = outcome) ∧
        (¬ registered → ws.head? ≠ some "remove" → ws.head? ≠ some "toggle" →
          answer = .error (.unknownSprite name))) ∧
    ((∃ outcome, s.Commands name d ws outcome) ∨ ∃ e, QueueEdit.Refuses s.reader ws e) ∧
    (∀ e, answer = .error e → s.afterCall (.directive name d line) = s) ∧
    (¬ registered → ((s.afterCall (.directive name d line)).queue.map QueueItem.draws).Sublist
      (s.queue.map QueueItem.draws)) ∧
    (∀ token j, s.reader.index token = .ok j ↔ ∃ v q, s.reader.value token = .ok v ∧
      v.value? = some q ∧ nearest q = j ∧ j ≤ 2147483647) ∧
    ∀ (t : Tree .expression) v q (j : Nat), t.outcome s.reader.screen = .ok v →
      v.value? = some q → nearest q = j → j ≤ 2147483647 →
      s.reader.index (String.ofList t.render) = .ok j := by
  intro answer registered queued ws
  have hunregistered (h : ¬ registered) : s.cast.contains name = false := Bool.eq_false_iff.2 h
  refine ⟨fun hr hq => ?_, fun hknown => ?_, commands_or_refused s name d ws,
    fun e => afterCall_of_error, fun hr => draws_sublist_of_unregistered (hunregistered hr),
    fun token j => ValueReader.index_eq_ok_iff, fun t v q j => s.reader.index_of_expression t⟩
  · exact directQueue_of_unknown (hunregistered hr) (Bool.eq_false_iff.2 (mt isQueued_iff.1 hq))
  · have hknown' := hknown.imp_right isQueued_iff.2
    refine ⟨fun e h => directQueue_of_refuses hknown' h, fun outcome h => ?_⟩
    have hanswer : answer = _ := directQueue_of_commands hknown' h
    refine ⟨fun hopen => hanswer.trans (if_pos hopen), fun hr hremove htoggle => ?_⟩
    exact hanswer.trans (if_neg (not_or.2 ⟨hr, not_or.2 ⟨hremove, htoggle⟩⟩))

/-- Two queued sprites, one of them deleted. -/
def halfDeleted : Stage :=
  ((Host.new "" ⟨320, 200⟩ Recorder.new).run
    [.createFromRectangle "a" 8 8 .black, .createFromRectangle "b" 8 8 .black, .append "a" 0,
      .append "b" 0, .deleteSprite "a"]).stage

/-- A deleted sprite that is queued can be taken out and hidden, but not moved. -/
theorem deleted_removed_not_moved :
    halfDeleted.directQueue "ghost" 0 "remove" = .error (.unknownSprite "ghost") ∧
    halfDeleted.directQueue "a" 0 "moveAfter b" = .error (.unknownSprite "a") ∧
    halfDeleted.directQueue "a" 0 "toggle maybe" =
      .error (.parse "maybe" "expected 'on' or 'off'") ∧
    halfDeleted.directQueue "a" 0 "remove" = (halfDeleted.remove "a" 0).map (·.2) ∧
    halfDeleted.directQueue "b" 0 "moveBefore a 0.4" =
      (halfDeleted.move .before "b" 0 "a" 0).map (·.2) := by
  have hghost : ¬ halfDeleted.cast.contains "ghost" = true := by decide
  have ha : ¬ halfDeleted.cast.contains "a" = true := by decide
  have hb : halfDeleted.cast.contains "b" = true := by decide
  have hqueued : ∃ item ∈ halfDeleted.queue, (halfDeleted.spriteOf item).name = "a" :=
    ⟨⟨⟨0⟩, 0, true⟩, List.mem_cons_self, rfl⟩
  have hnot : ¬ ∃ item ∈ halfDeleted.queue, (halfDeleted.spriteOf item).name = "ghost" := by
    decide
  have hindex : halfDeleted.reader.index "0.4" = .ok 0 := by decide +kernel
  have hfollows := directive_follows_keyword halfDeleted
  refine ⟨?_, ?_, ?_, ?_, ?_⟩
  · exact (hfollows "ghost" 0 "remove").1 hghost hnot
  · exact (((hfollows "a" 0 "moveAfter b").2.1 (.inr hqueued)).2 _ (.moveAfter (.bare "b"))).2 ha
      (by decide) (by decide)
  · exact ((hfollows "a" 0 "toggle maybe").2.1 (.inr hqueued)).1 _
      (.visibility (by decide) (by decide))
  · exact (((hfollows "a" 0 "remove").2.1 (.inr hqueued)).2 _ .remove).1 (.inr (.inl rfl))
  · exact (((hfollows "b" 0 "moveBefore a 0.4").2.1 (.inl hb)).2 _
      (.moveBefore (.indexed hindex))).1 (.inl hb)

end Stage

end SpriteStage
