import SpriteStage.Recorder

/-!
# What the recording backend holds

* `Recorder.Holding r handles`: these handles are live, each once, and the counters agree;
* loading adds a handle that nobody had as long as fewer than `2 ^ 32` were issued, unloading takes
  its handle away and drawing leaves the handles alone;
* a frame is drawn when all its textures are live (`drawFrame_eq_ok`).
-/

namespace SpriteStage.Recorder

/-- The live handles are these, and the counters agree with them. -/
structure Holding (r : Recorder) (handles : List TextureHandle) : Prop where
  live : r.live.Perm handles
  nodup : handles.Nodup
  issued : ∀ t ∈ handles, t.number.toNat ≤ r.loads
  last : r.last.toNat = r.loads
  counted : r.loads = r.unloads + handles.length

variable {r r' : Recorder} {handles handles' : List TextureHandle} {t : TextureHandle}

theorem holding_new : new.Holding [] :=
  ⟨.nil, List.nodup_nil, by simp, rfl, rfl⟩

theorem Holding.perm (h : r.Holding handles) (hp : handles.Perm handles') :
    r.Holding handles' :=
  ⟨h.live.trans hp, hp.nodup_iff.1 h.nodup, fun t ht => h.issued t (hp.mem_iff.2 ht), h.last,
    hp.length_eq ▸ h.counted⟩

theorem Holding.mem_live (h : r.Holding handles) (ht : t ∈ handles) : t ∈ r.live :=
  h.live.mem_iff.2 ht

/-- Files and frames do not matter. -/
theorem Holding.of_eq (h : r.Holding handles) (hlive : r'.live = r.live) (hlast : r'.last = r.last)
    (hloads : r'.loads = r.loads) (hunloads : r'.unloads = r.unloads) : r'.Holding handles :=
  ⟨hlive ▸ h.live, h.nodup, hloads ▸ h.issued, by rw [hlast, hloads, h.last],
    by rw [hloads, hunloads, h.counted]⟩

/-! ### Loading and unloading -/

/-- The number of the next handle does not wrap around. -/
theorem Holding.number_issue (h : r.Holding handles) (width height : Int32)
    (hl : (r.issue width height).2.loads < UInt32.size) :
    (r.issue width height).1.handle.number.toNat = r.loads + 1 := by
  have hone : (1 : UInt32).toNat = 1 := rfl
  show (r.last + 1).toNat = r.loads + 1
  rw [UInt32.toNat_add, hone, h.last]
  exact Nat.mod_eq_of_lt hl

/-- The handle that is issued next is new, since every earlier one has a smaller number. -/
theorem Holding.issue (h : r.Holding handles) (width height : Int32)
    (hl : (r.issue width height).2.loads < UInt32.size) :
    (r.issue width height).2.Holding ((r.issue width height).1.handle :: handles) := by
  have hloads : (r.issue width height).2.loads = r.loads + 1 := rfl
  have hnext := h.number_issue width height hl
  refine ⟨h.live.cons _, List.nodup_cons.2 ⟨fun hm => ?_, h.nodup⟩, fun t ht => ?_, hnext, ?_⟩
  · have := h.issued _ hm
    omega
  · rw [hloads]
    rcases List.mem_cons.1 ht with rfl | ht
    · exact Nat.le_of_eq hnext
    · exact Nat.le_succ_of_le (h.issued t ht)
  · have := h.counted
    rw [hloads, List.length_cons]
    show r.loads + 1 = r.unloads + (handles.length + 1)
    omega

/-- Unloading meets a live handle and takes it away. -/
theorem Holding.unload (h : r.Holding (t :: handles)) : (r.unload t).Holding handles := by
  obtain ⟨ht, hn⟩ := List.nodup_cons.1 h.nodup
  have hlive : t ∈ r.live := h.mem_live List.mem_cons_self
  have hcounted := h.counted
  rw [List.length_cons] at hcounted
  rw [Recorder.unload, if_pos hlive]
  refine ⟨?_, hn, fun u hu => h.issued u (List.mem_cons_of_mem t hu), h.last, ?_⟩
  · -- all copies of the handle go, but there is only one
    have hrest : (t :: handles).filter (· != t) = handles := by
      rw [List.filter_cons_of_neg (by simp)]
      refine List.filter_eq_self.2 fun u hu => ?_
      simpa using fun hut : u = t => ht (hut ▸ hu)
    exact hrest ▸ h.live.filter _
  · show r.loads = r.unloads + 1 + handles.length
    omega

theorem Holding.unloadAll (h : r.Holding handles) :
    (handles.foldl Recorder.unload r).Holding [] := by
  induction handles generalizing r with
  | nil => exact h
  | cons t rest ih => exact ih h.unload

/-- Unloading changes which handles are live and nothing else. -/
theorem unload_eq (r : Recorder) (t : TextureHandle) :
    ∃ live unloads, r.unload t = { r with live, unloads } := by
  unfold unload
  split
  · exact ⟨_, _, rfl⟩
  · exact ⟨r.live, r.unloads, rfl⟩

theorem unloadAll_eq (r : Recorder) (handles : List TextureHandle) :
    ∃ live unloads, handles.foldl Recorder.unload r = { r with live, unloads } := by
  induction handles generalizing r with
  | nil => exact ⟨r.live, r.unloads, rfl⟩
  | cons t rest ih =>
    obtain ⟨live, unloads, ht⟩ := unload_eq r t
    rw [List.foldl_cons, ht]
    exact ih _

/-- Unloading is no loading. -/
@[simp] theorem loads_unload (r : Recorder) (t : TextureHandle) : (r.unload t).loads = r.loads := by
  obtain ⟨live, unloads, ht⟩ := unload_eq r t
  rw [ht]

/-- A loader that gives a texture has issued it. -/
def Issues (load : Recorder → Except String LoadedTexture × Recorder) : Prop :=
  ∀ r, (∃ reason, load r = (.error reason, r)) ∨
    ∃ width height, load r = (.ok (r.issue width height).1, (r.issue width height).2)

section Issuing

variable {load : Recorder → Except String LoadedTexture × Recorder}

theorem Issues.eq_issue {loaded : LoadedTexture} (hl : Issues load)
    (h : load r = (.ok loaded, r')) :
    ∃ width height, loaded = (r.issue width height).1 ∧ r' = (r.issue width height).2 := by
  rcases hl r with ⟨reason, hr⟩ | ⟨width, height, hr⟩
  · rw [hr] at h
    cases h
  · rw [hr] at h
    cases h
    exact ⟨width, height, rfl, rfl⟩

/-- A refusal to make a texture changes nothing. -/
theorem Issues.eq_of_error {reason : String} (hl : Issues load)
    (h : load r = (.error reason, r')) : r' = r := by
  rcases hl r with ⟨refusal, hr⟩ | ⟨width, height, hr⟩
  · rw [hr] at h
    cases h
    rfl
  · rw [hr] at h
    cases h

end Issuing

theorem issues_loadFile (path : String) : Issues (TextureLoader.loadFile · path) := by
  intro r
  show (∃ reason, r.answer (r.loadFile path) = _) ∨ ∃ width height, r.answer (r.loadFile path) = _
  unfold loadFile
  cases r.files.lookup path with
  | none => exact .inl ⟨_, rfl⟩
  | some size => exact .inr ⟨size.1, size.2, rfl⟩

theorem issues_createSolid (width height : Int32) (color : Color) :
    Issues (TextureLoader.createSolid · width height color) := by
  intro r
  show (∃ reason, r.answer (r.createSolid width height) = _) ∨
    ∃ w h, r.answer (r.createSolid width height) = _
  unfold createSolid
  split
  · exact .inl ⟨_, rfl⟩
  · exact .inr ⟨width, height, rfl⟩

/-! ### Drawing -/

/-- A call that is drawn goes into the open frame, one that is refused changes nothing. -/
theorem draw_cases (r : Recorder) (call : DrawCall) :
    (∃ reason, Canvas.draw r call = (.error reason, r)) ∨
      ∃ current, Canvas.draw r call = (.ok (), { r with current }) := by
  show (∃ reason, r.answer ((r.draw call).map ((), ·)) = _) ∨
    ∃ current, r.answer ((r.draw call).map ((), ·)) = _
  unfold draw
  split
  · split
    · exact .inr ⟨_, rfl⟩
    · exact .inl ⟨_, rfl⟩
  · exact .inl ⟨_, rfl⟩

theorem drawAll_eq (r : Recorder) (calls : List DrawCall) :
    ∃ current, (Canvas.drawAll r calls).2 = { r with current } := by
  induction calls generalizing r with
  | nil => exact ⟨r.current, rfl⟩
  | cons call rest ih =>
    rcases draw_cases r call with ⟨reason, hd⟩ | ⟨current, hd⟩
    · exact ⟨r.current, by simp only [Canvas.drawAll, hd]⟩
    · obtain ⟨current', hr⟩ := ih { r with current }
      exact ⟨current', by simp only [Canvas.drawAll, hd, hr]⟩

/-- Drawing a frame changes the frames and nothing else. -/
theorem drawFrame_eq (r : Recorder) (calls : List DrawCall) :
    ∃ completed current, (Canvas.drawFrame r calls).2 = { r with completed, current } := by
  obtain ⟨current, hd⟩ := drawAll_eq r.beginFrame calls
  have hframe :
      (Canvas.drawFrame r calls).2 = ({ r.beginFrame with current } : Recorder).endFrame :=
    congrArg endFrame hd
  cases current with
  | none => exact ⟨r.completed, none, hframe⟩
  | some frame => exact ⟨frame :: r.completed, none, hframe⟩

theorem Holding.drawFrame (h : r.Holding handles) (calls : List DrawCall) :
    (Canvas.drawFrame r calls).2.Holding handles := by
  obtain ⟨completed, current, hd⟩ := drawFrame_eq r calls
  rw [hd]
  exact h.of_eq rfl rfl rfl rfl

theorem draw_eq_ok {call : DrawCall} {frame : List DrawCall} (hc : call.texture ∈ r.live)
    (hf : r.current = some frame) :
    Canvas.draw r call = (.ok (), { r with current := some (frame ++ [call]) }) := by
  show r.answer ((r.draw call).map ((), ·)) = _
  simp only [draw, if_pos hc, hf]
  rfl

/-- Calls of live textures go into the open frame, one after the other, before the calls behind
them. -/
theorem drawAll_append {drawn rest frame : List DrawCall}
    (hd : ∀ call ∈ drawn, call.texture ∈ r.live) (hf : r.current = some frame) :
    Canvas.drawAll r (drawn ++ rest) =
      Canvas.drawAll { r with current := some (frame ++ drawn) } rest := by
  induction drawn generalizing r frame with
  | nil => simp [← hf]
  | cons call drawn ih =>
    have hcall := draw_eq_ok (hd call List.mem_cons_self) hf
    have hrest := @ih { r with current := some (frame ++ [call]) } (frame ++ [call])
      (fun c hc => hd c (List.mem_cons_of_mem call hc)) rfl
    rw [List.cons_append, Canvas.drawAll, hcall]
    simpa using hrest

theorem drawAll_eq_ok {calls frame : List DrawCall} (hc : ∀ call ∈ calls, call.texture ∈ r.live)
    (hf : r.current = some frame) :
    Canvas.drawAll r calls = (.ok (), { r with current := some (frame ++ calls) }) := by
  rw [← List.append_nil calls, drawAll_append hc hf, List.append_nil]
  rfl

/-- **A frame of live textures is drawn and recorded as it is.** -/
theorem drawFrame_eq_ok {calls : List DrawCall} (hc : ∀ call ∈ calls, call.texture ∈ r.live) :
    Canvas.drawFrame r calls =
      (.ok (), { r with completed := calls :: r.completed, current := none }) := by
  have hd : Canvas.drawAll r.beginFrame calls = (.ok (), { r with current := some calls }) :=
    drawAll_eq_ok (r := r.beginFrame) hc rfl
  show ((Canvas.drawAll r.beginFrame calls).1, (Canvas.drawAll r.beginFrame calls).2.endFrame) = _
  rw [hd]
  rfl

end SpriteStage.Recorder
