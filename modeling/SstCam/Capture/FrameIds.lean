import SstCam.Capture.GStreamerAdapter

/-!
# Frame ids

The adapter numbers the frames it makes from a counter that only grows, over restarts too. What it
makes is newer than all before; but with no sample it can convert, it answers with the frame it kept.
-/

namespace SstCam
set_option autoImplicit false

/-- A frame can be made from the sample. -/
def GstSample.converts (sample : GstSample) : Bool :=
  match sample.info, sample.map with
  | some info, some map =>
    match map.data with
    | none => false
    | some mappedData =>
      !info.planes.isEmpty && map.size != 0 && (info.planes.mapM (framePlane mappedData map.size info.planes)).isSome &&
        info.format.toPixelFormat.isSome
  | _, _ => false

theorem GstSample.converts_eq (sample : GstSample) : sample.converts =
    match sample.info, sample.map with
    | some info, some map => (map.framePlanes info).isSome && info.format.toPixelFormat.isSome
    | _, _ => false := by
  unfold converts GstMapInfo.framePlanes
  cases sample.info with
  | none => rfl
  | some info =>
    cases sample.map with
    | none => rfl
    | some map =>
      obtain ⟨data, size⟩ := map
      obtain ⟨format, width, height, planes⟩ := info
      cases data <;> cases planes <;> cases size <;> simp

namespace GStreamerAdapter

variable {a b c : GStreamerAdapter} {now : Nat} {sample : GstSample}

/-- What an operation does to the counter and to the frame that is kept. -/
structure Advances (a b : GStreamerAdapter) : Prop where
  counter : a.frameCounter ≤ b.frameCounter
  kept : ∀ frame, b.lastFrame = some frame →
    a.lastFrame = some frame ∨ a.frameCounter ≤ frame.frameId ∧ frame.frameId < b.frameCounter

@[simp] theorem Advances.refl (a : GStreamerAdapter) : a.Advances a := ⟨Nat.le_refl _, fun _ => .inl⟩

/-- What the counter and the kept frame do not show. -/
theorem Advances.of_eq (counter : b.frameCounter = a.frameCounter) (kept : b.lastFrame = a.lastFrame) : a.Advances b :=
  ⟨Nat.le_of_eq counter.symm, fun _ h => .inl (kept ▸ h)⟩

theorem Advances.trans (h : a.Advances b) (h' : b.Advances c) : a.Advances c := by
  have first := h.counter
  have second := h'.counter
  constructor
  · omega
  · intro frame kept
    obtain before | ⟨above, below⟩ := h'.kept frame kept
    · obtain before | ⟨above, below⟩ := h.kept frame before
      · exact .inl before
      · apply Or.inr
        omega
    · apply Or.inr
      omega

/-- A conversion keeps all but the counter; the frame it makes has the next id. -/
theorem createFrameFromSample_spec (now : Nat) (sample : GstSample) (a : GStreamerAdapter) :
    (a.createFrameFromSample now sample).1.lastFrame = a.lastFrame ∧
      a.frameCounter ≤ (a.createFrameFromSample now sample).1.frameCounter ∧
      (a.createFrameFromSample now sample).2.isSome = sample.converts ∧
      ∀ frame, (a.createFrameFromSample now sample).2 = some frame →
        frame.frameId = a.frameCounter ∧ (a.createFrameFromSample now sample).1.frameCounter = a.frameCounter + 1 := by
  rw [GstSample.converts_eq, createFrameFromSample]
  cases sample.info with
  | none => simp
  | some info =>
    cases sample.map with
    | none => simp
    | some map =>
      cases cut : map.framePlanes info with
      | none => simp [cut]
      | some planes =>
        dsimp only
        rw [cut]
        refine ⟨rfl, Nat.le_succ _, by simp [GstMapInfo.frame], fun frame made => ⟨?_, rfl⟩⟩
        exact (GstMapInfo.frame_some made).1

/-- What is kept of a sample is a frame newer than all before, or what was kept already. -/
theorem keepFrame_spec (now : Nat) (sample : GstSample) (a : GStreamerAdapter) :
    a.Advances (a.keepFrame now sample).1 ∧
      match (a.keepFrame now sample).2 with
      | none => sample.converts = false ∧ (a.keepFrame now sample).1.lastFrame = a.lastFrame
      | some frame =>
        sample.converts = true ∧ (a.keepFrame now sample).1.lastFrame = some frame ∧ a.frameCounter ≤ frame.frameId := by
  obtain ⟨kept, counter, converts, made⟩ := a.createFrameFromSample_spec now sample
  rw [keepFrame]
  revert kept counter converts made
  obtain ⟨b, _ | frame⟩ := a.createFrameFromSample now sample
  · intro kept counter converts _
    refine ⟨⟨counter, fun _ h => .inl (kept ▸ h)⟩, ?_, kept⟩
    simpa using converts.symm
  · intro _ counter converts made
    obtain ⟨id, next⟩ := made frame rfl
    refine ⟨⟨counter, ?_⟩, by simpa using converts.symm, rfl, by simp [id]⟩
    intro other same
    cases same
    apply Or.inr
    simp only at next ⊢
    omega

theorem start_advances (comesUp : Bool) (prime : Option GstSample) (now : Nat) (a : GStreamerAdapter) :
    a.Advances (a.start comesUp prime now) := by
  unfold start
  repeat' split
  · exact .refl a
  · exact .refl a
  · exact .of_eq rfl rfl
  · apply Advances.trans _ (keepFrame_spec now _ _).1
    exact .of_eq rfl rfl

theorem stop_advances (a : GStreamerAdapter) : a.Advances a.stop := ⟨Nat.le_refl _, by simp [stop]⟩

theorem sample_advances (s : GstSample) (a : GStreamerAdapter) : a.Advances (a.sample s) := by
  unfold GStreamerAdapter.sample
  split
  · exact .refl a
  · exact .of_eq rfl rfl

theorem fault_advances (a : GStreamerAdapter) : a.Advances a.fault := .of_eq rfl rfl

/-- The capture finds nothing new, and answers with the frame that is kept. -/
def Cached (a : GStreamerAdapter) (frame : Frame) : Prop :=
  a.isRunning = true ∧ a.lastFrame = some frame ∧
    ∃ p, a.pipeline = some p ∧ p.failed = false ∧ ∀ sample, p.samples.getLast? = some sample → sample.converts = false

/-- What the capture answers is the frame it keeps then: a newer one than all before, or the cached one. -/
theorem capture_spec (now : Nat) (a : GStreamerAdapter) :
    a.Advances (a.capture now).1 ∧
      ∀ frame, (a.capture now).2 = some frame →
        (a.capture now).1.lastFrame = some frame ∧ (a.Cached frame ∨ a.frameCounter ≤ frame.frameId) := by
  unfold capture
  split
  case isTrue => simp
  case isFalse running =>
    simp only [Bool.not_eq_true, Bool.not_eq_false'] at running
    split
    case h_1 => simp
    case h_2 p up =>
      split
      case isTrue => simpa using a.stop_advances
      case isFalse failed =>
        simp only
        split
        case h_1 empty =>
          refine ⟨.of_eq rfl rfl, ?_⟩
          intro frame cached
          exact ⟨cached, .inl ⟨running, cached, p, up, by simpa using failed, by simp [empty]⟩⟩
        case h_2 sample newest =>
          have drained : a.Advances { a with pipeline := some { p with samples := [] } } := .of_eq rfl rfl
          have spec := keepFrame_spec now sample { a with pipeline := some { p with samples := [] } }
          revert spec
          obtain ⟨b, _ | fresh⟩ := keepFrame now sample { a with pipeline := some { p with samples := [] } }
          · rintro ⟨advances, bad, kept⟩
            have whole : a.Advances b := drained.trans advances
            refine ⟨whole, ?_⟩
            intro frame cached
            refine ⟨cached, .inl ⟨running, kept ▸ cached, p, up, by simpa using failed, ?_⟩⟩
            intro other same
            rw [newest] at same
            cases same
            exact bad
          · rintro ⟨advances, -, kept, newer⟩
            have whole : a.Advances b := drained.trans advances
            refine ⟨whole, ?_⟩
            intro frame same
            cases same
            exact ⟨kept, .inr newer⟩

/-- A cached frame is answered. -/
theorem Cached.capture {frame : Frame} (h : a.Cached frame) (now : Nat) : (a.capture now).2 = some frame := by
  obtain ⟨running, kept, p, up, healthy, bad⟩ := h
  rw [GStreamerAdapter.capture, if_neg (by simp [running]), up]
  simp only
  rw [if_neg (by simp [healthy])]
  split
  case h_1 => exact kept
  case h_2 sample newest =>
    have spec := (keepFrame_spec now sample { a with pipeline := some { p with samples := [] } }).2
    revert spec
    obtain ⟨b, _ | fresh⟩ := keepFrame now sample { a with pipeline := some { p with samples := [] } }
    · rintro ⟨-, same⟩
      exact same.trans kept
    · rintro ⟨good, -⟩
      rw [bad sample newest] at good
      cases good

end GStreamerAdapter

end SstCam
