import SstCam.Capture.FrameIds
import SstCam.Lib.Runs
import SstCam.Pipeline.PipelineOrchestrator
import Mathlib.Data.List.Forall2

/-!
# Where the frames go

Each sensor frame is to be used once: the frames of a camera handed to the raw-capture sink and to
its slot, and those that reach the final sink, have strictly increasing ids. The producer polls
faster than a sensor delivers, and a capture without a new sample answers with the frame it kept:
the frame is then handed on again.
-/

namespace SstCam
set_option autoImplicit false

/-- The frames have strictly increasing ids. -/
def Increasing (frames : List Frame) : Prop := frames.Pairwise fun f g => f.frameId < g.frameId

instance (frames : List Frame) : Decidable (Increasing frames) := by unfold Increasing; infer_instance

theorem increasing_concat {frames : List Frame} {frame : Frame} :
    Increasing (frames ++ [frame]) ↔ Increasing frames ∧ ∀ f ∈ frames, f.frameId < frame.frameId := by
  simp [Increasing, List.pairwise_append]

/-- A frame handed on twice is not newer than itself. -/
theorem not_increasing {frames : List Frame} {frame : Frame} (h : ∃ f ∈ frames, f.frameId = frame.frameId) :
    ¬ Increasing (frames ++ [frame]) := by
  obtain ⟨f, hf, same⟩ := h
  intro increasing
  have below := (increasing_concat.1 increasing).2 f hf
  omega

namespace CameraChain

variable {rawSink : Bool} {env : StageEnv} {c d : CameraChain} {frame : Frame}

/-- The capture finds nothing new, and what it answers with has been handed on. -/
def Repeats (env : StageEnv) (c : CameraChain) : Prop :=
  ∃ frame, c.capture.Cached frame ∧ (∃ f ∈ c.toSlot, f.frameId = frame.frameId) ∧
    OpenCvPreprocessor.accepts c.preprocessor env.mem env.buf frame = true

/-- What ties the frames handed on to the capture and to the slot. -/
structure Tracked (rawSink : Bool) (c : CameraChain) : Prop where
  raw : c.toRawSink = if rawSink then c.toSlot else []
  increasing : Increasing c.toSlot
  counted : ∀ f ∈ c.toSlot, f.frameId < c.capture.frameCounter
  last_counted : ∀ frame, c.capture.lastFrame = some frame → frame.frameId < c.capture.frameCounter
  last_newest : ∀ frame, c.capture.lastFrame = some frame → ∀ f ∈ c.toSlot, f.frameId ≤ frame.frameId
  held : ∀ bundle, c.slot.slot = some bundle → ∃ f ∈ c.toSlot, f.frameId = bundle.sourceFrame.frameId

/-- The frame is older than what the camera will still hand to the consumer. -/
structure Behind (frame : Frame) (c : CameraChain) : Prop where
  handed : ∃ f ∈ c.toSlot, frame.frameId ≤ f.frameId
  held : ∀ bundle, c.slot.slot = some bundle → frame.frameId < bundle.sourceFrame.frameId

/-- What becomes of a camera in a step that repeats no frame. -/
inductive Moves (rawSink : Bool) (c : CameraChain) : CameraChain → Prop where
  | capture {capture : GStreamerAdapter} (advances : c.capture.Advances capture) : Moves rawSink c { c with capture }
  | close : Moves rawSink c { c with slot := c.slot.close }
  | take : Moves rawSink c { c with slot := c.slot.take.1 }
  | handOn {capture : GStreamerAdapter} {bundle : FrameBundle} (advances : c.capture.Advances capture)
      (kept : ∃ frame, capture.lastFrame = some frame ∧ bundle.sourceFrame.frameId = frame.frameId)
      (newer : ∀ f ∈ c.toSlot, f.frameId < bundle.sourceFrame.frameId) :
      Moves rawSink c (CameraChain.handOn rawSink bundle { c with capture })

theorem Moves.refl (rawSink : Bool) (c : CameraChain) : Moves rawSink c c := .capture (.refl c.capture)

/-- An iteration of the producer hands nothing on, or a bundle of the frame the capture answered. -/
theorem produce_cases (rawSink : Bool) (env : StageEnv) (c : CameraChain) :
    c.produce rawSink env = { c with capture := (c.capture.capture env.now).1 } ∧
        (∀ frame, (c.capture.capture env.now).2 = some frame →
          OpenCvPreprocessor.accepts c.preprocessor env.mem env.buf frame = false) ∨
      ∃ frame bundle, (c.capture.capture env.now).2 = some frame ∧
        OpenCvPreprocessor.accepts c.preprocessor env.mem env.buf frame = true ∧
        bundle.sourceFrame.frameId = frame.frameId ∧
        c.produce rawSink env = handOn rawSink bundle { c with capture := (c.capture.capture env.now).1 } := by
  unfold produce
  obtain ⟨capture, _ | raw⟩ := c.capture.capture env.now
  · exact .inl ⟨rfl, by simp⟩
  · rcases processed : OpenCvPreprocessor.process c.preprocessor env.mem env.buf raw with _ | _ | bundle
    · apply Or.inl
      constructor
      · simp only [processed]
      · rintro frame ⟨⟩
        simp [OpenCvPreprocessor.accepts, processed]
    · apply Or.inl
      constructor
      · simp only [processed]
      · rintro frame ⟨⟩
        simp [OpenCvPreprocessor.accepts, processed]
    · apply Or.inr
      refine ⟨raw, { bundle with sourceFrame := materializeFrame env.frameBuf bundle.sourceFrame }, rfl, ?_, ?_, ?_⟩
      · simp [OpenCvPreprocessor.accepts, processed]
      · rw [OpenCvPreprocessor.process_sourceFrame processed]
        rfl
      · simp only [processed]

/-- A bundle made of a frame that has been handed on before is handed on again. -/
theorem Repeats.not_increasing (h : c.Repeats env) (rawSink : Bool) : ¬ Increasing (c.produce rawSink env).toSlot := by
  obtain ⟨frame, cached, ⟨f, hf, same⟩, accepted⟩ := h
  have answered := cached.capture env.now
  obtain ⟨-, refused⟩ | ⟨other, bundle, answered', -, id, handed⟩ := c.produce_cases rawSink env
  · rw [refused frame answered] at accepted
    cases accepted
  · rw [answered] at answered'
    cases answered'
    rw [handed]
    apply SstCam.not_increasing
    exact ⟨f, hf, same.trans id.symm⟩

/-- An iteration that repeats no frame hands on nothing, or a newer frame than all before. -/
theorem Tracked.produce_moves (h : c.Tracked rawSink) (fresh : ¬ c.Repeats env) : c.Moves rawSink (c.produce rawSink env) := by
  obtain ⟨advances, answer⟩ := c.capture.capture_spec env.now
  obtain ⟨nothing, -⟩ | ⟨frame, bundle, answered, accepted, id, handed⟩ := c.produce_cases rawSink env
  · rw [nothing]
    exact .capture advances
  · obtain ⟨kept, origin⟩ := answer frame answered
    rw [handed]
    apply Moves.handOn advances ⟨frame, kept, id⟩
    intro f hf
    rw [id]
    obtain cached | newer := origin
    · have upTo := h.last_newest frame cached.2.1 f hf
      have another : f.frameId ≠ frame.frameId := fun same => fresh ⟨frame, cached, ⟨f, hf, same⟩, accepted⟩
      omega
    · have counted := h.counted f hf
      omega

theorem Tracked.moves (h : c.Tracked rawSink) (m : c.Moves rawSink d) : d.Tracked rawSink := by
  have upTo : ∀ {capture : GStreamerAdapter}, c.capture.Advances capture → ∀ f ∈ c.toSlot, f.frameId < capture.frameCounter :=
    fun advances f hf => Nat.lt_of_lt_of_le (h.counted f hf) advances.counter
  have last : ∀ {capture : GStreamerAdapter}, c.capture.Advances capture →
      ∀ frame, capture.lastFrame = some frame → frame.frameId < capture.frameCounter := by
    intro capture advances frame kept
    obtain before | ⟨-, below⟩ := advances.kept frame kept
    · exact Nat.lt_of_lt_of_le (h.last_counted frame before) advances.counter
    · exact below
  cases m with
  | capture advances =>
    refine { h with counted := upTo advances, last_counted := last advances, last_newest := ?_ }
    intro frame kept f hf
    obtain before | ⟨above, -⟩ := advances.kept frame kept
    · exact h.last_newest frame before f hf
    · have counted := h.counted f hf
      omega
  | close => exact { h with }
  | take => exact { h with held := by simp }
  | handOn advances kept newer =>
    rename_i capture bundle
    obtain ⟨frame, kept, id⟩ := kept
    constructor
    · have raw := h.raw
      cases rawSink <;> simpa [handOn] using raw
    · exact increasing_concat.2 ⟨h.increasing, newer⟩
    · intro f hf
      obtain old | new := List.mem_append.1 hf
      · exact upTo advances f old
      · rw [List.mem_singleton.1 new, id]
        exact last advances frame kept
    · exact last advances
    · intro other kept' f hf
      have same : frame = other := Option.some.inj (kept.symm.trans kept')
      subst same
      obtain old | new := List.mem_append.1 hf
      · have older := newer f old
        omega
      · rw [List.mem_singleton.1 new, id]
    · intro other held
      obtain rfl | before := LatestOnlySlot.push_holds held
      · exact ⟨other.sourceFrame, by simp [handOn], rfl⟩
      · obtain ⟨f, hf, same⟩ := h.held other before
        exact ⟨f, List.mem_append_left _ hf, same⟩

theorem Behind.moves (h : c.Behind frame) (m : c.Moves rawSink d) : d.Behind frame := by
  cases m with
  | capture | close => exact { h with }
  | take => exact { h with held := by simp }
  | handOn advances kept newer =>
    rename_i capture bundle
    obtain ⟨f, hf, upTo⟩ := h.handed
    constructor
    · exact ⟨f, List.mem_append_left _ hf, upTo⟩
    · intro other held
      obtain rfl | before := LatestOnlySlot.push_holds held
      · have older := newer f hf
        omega
      · exact h.held other before

/-- What the slot gave to the consumer is behind. -/
theorem Tracked.behind (h : c.Tracked rawSink) {bundle : FrameBundle} (held : c.slot.slot = some bundle)
    (id : frame.frameId = bundle.sourceFrame.frameId) : Behind frame { c with slot := c.slot.take.1 } := by
  obtain ⟨f, hf, same⟩ := h.held bundle held
  constructor
  · exact ⟨f, hf, by omega⟩
  · simp

theorem startAll_moves (rawSink : Bool) (comesUp : Nat → Bool) (prime : Nat → Option GstSample) (now i : Nat)
    (cs : List CameraChain) : List.Forall₂ (Moves rawSink) cs (startAll comesUp prime now i cs).1 := by
  induction cs generalizing i with
  | nil => exact .nil
  | cons c cs ih =>
    have later := ih (i + 1)
    have started := c.capture.start_advances (comesUp i) (prime i) now
    rw [startAll]
    split
    · exact .cons (.capture started) (List.forall₂_same.2 fun c _ => .refl rawSink c)
    · split
      case h_1 up => exact .cons (.capture started) (by rwa [up] at later)
      case h_2 down => exact .cons (.capture (started.trans (GStreamerAdapter.stop_advances _))) (by rwa [down] at later)

end CameraChain

namespace PipelineOrchestrator

open CameraChain (Tracked Behind Moves)

variable {decide : List (Option FrameBundle) → Option CameraChoice} {s : PipelineOrchestrator} {e : PipelineEvent}

/-- The frames of each camera, and those that reach the final sink, have strictly increasing ids. -/
structure UsedOnce (s : PipelineOrchestrator) : Prop where
  rawSink : ∀ c ∈ s.cameras, Increasing c.toRawSink
  slot : ∀ c ∈ s.cameras, Increasing c.toSlot
  sink : Increasing s.toSink

/-- A producer hands a frame on a second time. -/
def Repeats (s : PipelineOrchestrator) : PipelineEvent → Prop
  | .produce camera env => (s.running || s.joining) = true ∧ ∃ c, s.cameras[camera]? = some c ∧ c.Repeats env
  | _ => False

/-- The invariant: the final sink is fed from camera 0. -/
structure Ordered (s : PipelineOrchestrator) : Prop where
  tracked : ∀ c ∈ s.cameras, c.Tracked s.rawSink
  sink : Increasing s.toSink
  behind : ∀ frame ∈ s.toSink, ∃ c, s.cameras[0]? = some c ∧ c.Behind frame

theorem Ordered.usedOnce (h : s.Ordered) : s.UsedOnce := by
  constructor
  · intro c hc
    obtain ⟨raw, increasing⟩ := h.tracked c hc
    rw [raw]
    split
    · exact increasing
    · exact .nil
  · intro c hc
    exact (h.tracked c hc).increasing
  · exact h.sink

theorem forall₂_modify {cs : List CameraChain} {i : Nat} {f : CameraChain → CameraChain} {rawSink : Bool}
    (h : ∀ c, cs[i]? = some c → c.Moves rawSink (f c)) : List.Forall₂ (Moves rawSink) cs (cs.modify i f) := by
  apply List.forall₂_of_length_eq_of_get
  · simp
  · intro j hj hj'
    simp only [List.get_eq_getElem, List.getElem_modify]
    split
    case isTrue here => exact h _ (by rw [here]; exact List.getElem?_eq_getElem hj)
    case isFalse => exact .refl rawSink _

theorem forall₂_map {cs : List CameraChain} {f : CameraChain → CameraChain} {rawSink : Bool}
    (h : ∀ c : CameraChain, c.Moves rawSink (f c)) : List.Forall₂ (Moves rawSink) cs (cs.map f) :=
  List.forall₂_map_right_iff.2 (List.forall₂_same.2 fun c _ => h c)

theorem forall₂_getElem? {R : CameraChain → CameraChain → Prop} {cs ds : List CameraChain} (h : List.Forall₂ R cs ds)
    {i : Nat} {c : CameraChain} (hc : cs[i]? = some c) : ∃ d, ds[i]? = some d ∧ R c d := by
  obtain ⟨within, rfl⟩ := List.getElem?_eq_some_iff.1 hc
  have within' : i < ds.length := h.length_eq ▸ within
  exact ⟨ds[i], List.getElem?_eq_getElem within', h.get within within'⟩

theorem start_moves (comesUp : Nat → Bool) (prime : Nat → Option GstSample) (now : Nat) (s : PipelineOrchestrator) :
    List.Forall₂ (Moves s.rawSink) s.cameras (s.start comesUp prime now).1.cameras := by
  have unmoved : List.Forall₂ (Moves s.rawSink) s.cameras s.cameras := List.forall₂_same.2 fun c _ => .refl s.rawSink c
  have moved := CameraChain.startAll_moves s.rawSink comesUp prime now 0 s.cameras
  unfold start
  split
  · exact unmoved
  · split
    · exact unmoved
    · split
      case h_1 down => rwa [down] at moved
      case h_2 up => rwa [up] at moved

/-- What becomes of the cameras in a step that repeats no frame. -/
theorem step_moves (decide : List (Option FrameBundle) → Option CameraChoice)
    (h : ∀ c ∈ s.cameras, c.Tracked s.rawSink) (fresh : ¬ s.Repeats e) :
    List.Forall₂ (Moves s.rawSink) s.cameras (s.step decide e).cameras := by
  have unmoved : List.Forall₂ (Moves s.rawSink) s.cameras s.cameras := List.forall₂_same.2 fun c _ => .refl s.rawSink c
  cases e with
  | start comesUp prime now =>
    rw [step]
    split
    · exact unmoved
    · exact s.start_moves comesUp prime now
  | stop =>
    rw [step, stop]
    split
    · exact unmoved
    · split
      · exact unmoved
      · exact forall₂_map fun _ => .close
  | join =>
    rw [step]
    split
    · exact forall₂_map fun c => .capture c.capture.stop_advances
    · exact unmoved
  | sample i sample => exact forall₂_modify fun c _ => .capture (c.capture.sample_advances sample)
  | fault i => exact forall₂_modify fun c _ => .capture c.capture.fault_advances
  | produce i env =>
    rw [step]
    split
    case isTrue runs =>
      apply forall₂_modify
      intro c hc
      apply (h c (List.mem_of_getElem? hc)).produce_moves
      exact fun repeats => fresh ⟨runs, c, hc, repeats⟩
    case isFalse => exact unmoved
  | consume overlay env =>
    rw [step]
    split
    · rw [consume_cameras]
      exact forall₂_map fun _ => .take
    · exact unmoved

theorem start_rest (comesUp : Nat → Bool) (prime : Nat → Option GstSample) (now : Nat) (s : PipelineOrchestrator) :
    (s.start comesUp prime now).1.rawSink = s.rawSink ∧ (s.start comesUp prime now).1.toSink = s.toSink := by
  unfold start
  repeat' split
  all_goals exact ⟨rfl, rfl⟩

/-- The final sink is handed what the postprocessor made of the bundle the decision chose. -/
theorem consume_toSink (decide : List (Option FrameBundle) → Option CameraChoice)
    (overlay : Option RgbaImage) (env : StageEnv) (s : PipelineOrchestrator) :
    (s.consume decide overlay env).rawSink = s.rawSink ∧
      ((s.consume decide overlay env).toSink = s.toSink ∨
        ∃ choice c bundle frame, decide s.latest = some choice ∧ s.cameras[choice.cameraIndex]? = some c ∧
          c.slot.slot = some bundle ∧ frame.frameId = bundle.sourceFrame.frameId ∧
          (s.consume decide overlay env).toSink = s.toSink ++ [frame]) := by
  unfold consume
  split
  case h_1 => exact ⟨rfl, .inl rfl⟩
  case h_2 choice decided =>
    split
    case h_2 => exact ⟨rfl, .inl rfl⟩
    case h_1 chosen there =>
      split
      case h_1 | h_2 => exact ⟨rfl, .inl rfl⟩
      case h_3 final made =>
        refine ⟨rfl, .inr ?_⟩
        rw [latest, List.getElem?_map] at there
        obtain ⟨c, hc, held⟩ := Option.map_eq_some_iff.1 there
        refine ⟨choice, c, chosen, overlaid overlay env final, decided, hc, ?_, ?_, rfl⟩
        · rwa [LatestOnlySlot.take_snd] at held
        · rw [overlaid_frameId]
          exact OpenCvPostprocessor.process_frameId made

/-- Nothing but the consumer feeds the final sink. -/
theorem step_toSink (decide : List (Option FrameBundle) → Option CameraChoice) (s : PipelineOrchestrator)
    (e : PipelineEvent) :
    (s.step decide e).rawSink = s.rawSink ∧
      ((s.step decide e).toSink = s.toSink ∨
        ∃ choice c bundle frame, decide s.latest = some choice ∧ s.cameras[choice.cameraIndex]? = some c ∧
          c.slot.slot = some bundle ∧ frame.frameId = bundle.sourceFrame.frameId ∧
          (s.step decide e).cameras = s.cameras.map (fun c => { c with slot := c.slot.take.1 }) ∧
          (s.step decide e).toSink = s.toSink ++ [frame]) := by
  cases e with
  | start comesUp prime now =>
    rw [step]
    split
    · exact ⟨rfl, .inl rfl⟩
    · obtain ⟨rawSink, toSink⟩ := s.start_rest comesUp prime now
      exact ⟨rawSink, .inl toSink⟩
  | stop =>
    rw [step, stop]
    repeat' split
    all_goals exact ⟨rfl, .inl rfl⟩
  | join | produce =>
    rw [step]
    split <;> exact ⟨rfl, .inl rfl⟩
  | sample | fault => exact ⟨rfl, .inl rfl⟩
  | consume overlay env =>
    rw [step]
    split
    · obtain ⟨rawSink, same | ⟨choice, c, bundle, frame, decided, hc, held, id, sunk⟩⟩ :=
        s.consume_toSink decide overlay env
      · exact ⟨rawSink, .inl same⟩
      · exact ⟨rawSink, .inr ⟨choice, c, bundle, frame, decided, hc, held, id, consume_cameras overlay env s, sunk⟩⟩
    · exact ⟨rfl, .inl rfl⟩

/-- The static decision presents camera 0. -/
theorem decide_cameraIndex {cameras : List (Option FrameBundle)} {choice : CameraChoice}
    (h : StaticDecision.decide cameras = some choice) : choice.cameraIndex = 0 := by
  unfold StaticDecision.decide at h
  repeat' split at h
  all_goals cases h
  rfl

/-- **One step.** If it repeats no frame the order is kept. -/
theorem Ordered.step (h : s.Ordered) (fresh : ¬ s.Repeats e) : (s.step StaticDecision.decide e).Ordered := by
  have moves := step_moves StaticDecision.decide h.tracked fresh
  have behind : ∀ frame ∈ s.toSink, ∃ c, (s.step StaticDecision.decide e).cameras[0]? = some c ∧ c.Behind frame := by
    intro frame hframe
    obtain ⟨c, hc, older⟩ := h.behind frame hframe
    obtain ⟨d, hd, moved⟩ := forall₂_getElem? moves hc
    exact ⟨d, hd, older.moves moved⟩
  obtain ⟨rawSink, sunk⟩ := s.step_toSink StaticDecision.decide e
  constructor
  · intro d hd
    obtain ⟨i, hi⟩ := List.getElem?_of_mem hd
    obtain ⟨c, hc, moved⟩ := forall₂_getElem? moves.flip hi
    rw [rawSink]
    exact (h.tracked c (List.mem_of_getElem? hc)).moves moved
  · obtain same | ⟨choice, c, bundle, frame, decided, hc, held, id, -, sunk⟩ := sunk
    · rw [same]
      exact h.sink
    · rw [decide_cameraIndex decided] at hc
      rw [sunk]
      apply increasing_concat.2 ⟨h.sink, ?_⟩
      intro old hold
      obtain ⟨c', hc', older⟩ := h.behind old hold
      rw [hc] at hc'
      cases hc'
      rw [id]
      exact older.held bundle held
  · obtain same | ⟨choice, c, bundle, frame, decided, hc, held, id, taken, sunk⟩ := sunk
    · rw [same]
      exact behind
    · rw [decide_cameraIndex decided] at hc
      rw [sunk]
      intro other hother
      obtain old | new := List.mem_append.1 hother
      · exact behind other old
      · rw [List.mem_singleton.1 new, taken, List.getElem?_map, hc]
        exact ⟨_, rfl, (h.tracked c (List.mem_of_getElem? hc)).behind held id⟩

/-- A step that repeats a frame hands it to the slot again. -/
theorem Repeats.not_usedOnce (h : s.Repeats e) : ¬ (s.step decide e).UsedOnce := by
  intro once
  cases e with
  | produce camera env =>
    obtain ⟨runs, c, hc, repeats⟩ := h
    apply repeats.not_increasing s.rawSink
    apply once.slot
    rw [PipelineOrchestrator.step, if_pos runs]
    apply List.mem_of_getElem? (i := camera)
    simp [atCamera, hc]
  | start | stop | join | sample | fault | consume => cases h

theorem create_ordered (preprocessors : List PreprocessConfig) (postprocessor : PostprocessConfig) (rawSink : Bool) :
    (create preprocessors postprocessor rawSink).Ordered := by
  constructor
  · intro c hc
    obtain ⟨preprocessor, -, rfl⟩ := List.mem_map.1 hc
    constructor
    · simp
    · exact .nil
    all_goals simp
  · exact .nil
  · intro frame hframe
    cases hframe

/-- **Each sensor frame is used at most once**, as long as no producer is answered with a frame that
it has handed on already: the frame its capture kept, for want of a new sample. -/
theorem used_once_iff (preprocessors : List PreprocessConfig) (postprocessor : PostprocessConfig) (rawSink : Bool)
    (events : List PipelineEvent) :
    Runs.Along (step StaticDecision.decide) (fun s e => (s.step StaticDecision.decide e).UsedOnce)
        (create preprocessors postprocessor rawSink) events ↔
      Runs.Along (step StaticDecision.decide) (fun s e => ¬ s.Repeats e)
        (create preprocessors postprocessor rawSink) events := by
  apply Runs.along_iff (I := Ordered)
  · intro s e h
    constructor
    · intro once repeats
      exact repeats.not_usedOnce once
    · intro fresh
      exact (h.step fresh).usedOnce
  · intro s e h fresh
    exact h.step fresh
  · exact create_ordered preprocessors postprocessor rawSink

/-- A picture of two pixels by two, as the sensor delivers it. -/
def smallSample : GstSample where
  info := some { format := .nv12, width := 2, height := 2, planes := [{ stride := 2, offset := 0 }, { stride := 2, offset := 4 }] }
  map := some { data := some 64, size := 6 }

/-- A producer that polls twice for one sample hands the frame on twice. -/
theorem polled_twice_not_used_once :
    ¬ Runs.Along (step StaticDecision.decide) (fun s e => (s.step StaticDecision.decide e).UsedOnce) (create [{}] {} false)
      [.start (fun _ => true) (fun _ => none) 0, .sample 0 smallSample, .produce 0 {}, .produce 0 {}] := by
  rintro ⟨-, -, -, last, -⟩
  have increasing := last.slot _ (List.mem_cons_self ..)
  revert increasing
  decide

end PipelineOrchestrator

end SstCam
