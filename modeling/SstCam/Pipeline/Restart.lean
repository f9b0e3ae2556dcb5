import SstCam.Lib.Runs
import SstCam.Pipeline.PipelineOrchestrator

/-!
# Restarting the pipeline

A running pipeline delivers if what a producer pushes is accepted by its slot and is what the
consumer takes next, unless a newer bundle comes first. `Stop` closes the slots and nothing opens
them again: a pipeline that is started behind a stop runs and delivers nothing.
-/

namespace SstCam
set_option autoImplicit false

namespace CameraChain

/-- All of a camera but its capture. -/
def rest (c : CameraChain) : CameraChain := { c with capture := {} }

theorem startAll_rest (comesUp : Nat → Bool) (prime : Nat → Option GstSample) (now i : Nat) (cs : List CameraChain) :
    (startAll comesUp prime now i cs).1.map rest = cs.map rest := by
  induction cs generalizing i with
  | nil => rfl
  | cons c cs ih =>
    have later := ih (i + 1)
    rw [startAll]
    split
    · rfl
    · split
      case h_1 up => rw [up] at later; simpa [rest] using later
      case h_2 down => rw [down] at later; simpa [rest] using later

/-- An iteration of the producer hands one bundle on, or changes the capture only. -/
theorem produce_rest (rawSink : Bool) (env : StageEnv) (c : CameraChain) :
    (c.produce rawSink env).rest = c.rest ∨ ∃ bundle, (c.produce rawSink env).rest = handOn rawSink bundle c.rest := by
  unfold produce
  split
  · exact .inl rfl
  · split
    · exact .inl rfl
    · exact .inl rfl
    · exact .inr ⟨_, rfl⟩

end CameraChain

namespace PipelineOrchestrator

open CameraChain (rest handOn)

variable {decide : List (Option FrameBundle) → Option CameraChoice} {s : PipelineOrchestrator} {camera : Nat}

/-- The cameras without their captures. -/
def chains (s : PipelineOrchestrator) : List CameraChain := s.cameras.map rest

theorem atCamera_chains {i : Nat} {f g : CameraChain → CameraChain}
    (h : ∀ c, s.cameras[i]? = some c → (f c).rest = g c.rest) : (s.atCamera i f).chains = s.chains.modify i g := by
  apply List.ext_getElem?
  intro j
  simp only [chains, atCamera, List.getElem?_map, List.getElem?_modify]
  by_cases here : i = j
  · subst here
    cases found : s.cameras[i]? with
    | none => rfl
    | some c => simp [h c found]
  · simp [here]

/-- The captures are not part of the chains. -/
theorem atCamera_capture (i : Nat) (f : GStreamerAdapter → GStreamerAdapter) :
    (s.atCamera i fun c => { c with capture := f c.capture }).chains = s.chains := by
  have same : (s.atCamera i fun c => { c with capture := f c.capture }).chains = s.chains.modify i id :=
    atCamera_chains fun _ _ => rfl
  rw [same, List.modify_id]

/-- A start of a pipeline that is stopped is that of its cameras. -/
theorem start_stopped (comesUp : Nat → Bool) (prime : Nat → Option GstSample) (now : Nat) (stopped : s.running = false)
    (some : s.cameras ≠ []) :
    s.start comesUp prime now =
      ({ s with
          cameras := (CameraChain.startAll comesUp prime now 0 s.cameras).1
          running := (CameraChain.startAll comesUp prime now 0 s.cameras).2 },
        (CameraChain.startAll comesUp prime now 0 s.cameras).2) := by
  rw [start, if_neg (by simp [stopped]), if_neg some]
  obtain ⟨cameras, _ | _⟩ := CameraChain.startAll comesUp prime now 0 s.cameras
  · simp [stopped]
  · rfl

theorem start_running (comesUp : Nat → Bool) (prime : Nat → Option GstSample) (now : Nat) (s : PipelineOrchestrator) :
    (s.start comesUp prime now).1.running = (s.start comesUp prime now).2 := by
  by_cases running : s.running = true
  · simp [start, running]
  · by_cases none : s.cameras = []
    · simp [start, none, running]
    · rw [start_stopped comesUp prime now (by simpa using running) none]

theorem start_chains (comesUp : Nat → Bool) (prime : Nat → Option GstSample) (now : Nat) (s : PipelineOrchestrator) :
    (s.start comesUp prime now).1.chains = s.chains := by
  by_cases running : s.running = true
  · simp [start, running]
  · by_cases none : s.cameras = []
    · simp [start, none, running]
    · rw [start_stopped comesUp prime now (by simpa using running) none]
      exact CameraChain.startAll_rest comesUp prime now 0 s.cameras

theorem consume_chains (overlay : Option RgbaImage) (env : StageEnv) (s : PipelineOrchestrator) :
    (s.consume decide overlay env).chains = s.chains.map fun c => { c with slot := c.slot.take.1 } := by
  rw [chains, chains, consume_cameras, List.map_map, List.map_map]
  rfl

theorem join_chains (s : PipelineOrchestrator) : s.join.chains = s.chains := by
  rw [chains, chains, join, List.map_map]
  rfl

/-- The pipeline runs from a start that returns true to the next stop. -/
theorem step_running (decide : List (Option FrameBundle) → Option CameraChoice) (s : PipelineOrchestrator)
    (e : PipelineEvent) : (s.step decide e).running =
    match e with
    | .start comesUp prime now => if s.joining then s.running else (s.start comesUp prime now).2
    | .stop => s.running && s.joining
    | _ => s.running := by
  cases e with
  | start comesUp prime now =>
    rw [step]
    split
    · rfl
    · exact s.start_running comesUp prime now
  | stop =>
    rw [step, stop]
    split
    case isTrue joining => simp [joining]
    case isFalse joining =>
      split
      case isTrue stopped => simp_all
      case isFalse => simp [joining]
  | join | produce =>
    rw [step]
    split <;> rfl
  | sample | fault => rfl
  | consume overlay env =>
    rw [step]
    split
    · exact s.consume_running overlay env
    · rfl

/-- What a step does to the slots: a stop closes them, a producer hands a bundle to one, the
consumer takes what they hold, and nothing else touches them. -/
theorem step_chains (decide : List (Option FrameBundle) → Option CameraChoice) (s : PipelineOrchestrator)
    (e : PipelineEvent) :
    (s.step decide e).chains = s.chains ∨
      e = .stop ∧ s.joining = false ∧ (s.step decide e).chains = s.chains.map (fun c => { c with slot := c.slot.close }) ∨
      (∃ i env bundle, e = .produce i env ∧ (s.step decide e).chains = s.chains.modify i (handOn s.rawSink bundle)) ∨
      ∃ overlay env, e = .consume overlay env ∧
        (s.step decide e).chains = s.chains.map fun c => { c with slot := c.slot.take.1 } := by
  cases e with
  | start comesUp prime now =>
    apply Or.inl
    rw [step]
    split
    · rfl
    · exact s.start_chains comesUp prime now
  | stop =>
    rw [step, stop]
    split
    case isTrue => exact .inl rfl
    case isFalse joining =>
      split
      · exact .inl rfl
      · refine .inr (.inl ⟨rfl, by simpa using joining, ?_⟩)
        rw [chains, chains, List.map_map, List.map_map]
        rfl
  | join =>
    apply Or.inl
    rw [step]
    split
    · exact s.join_chains
    · rfl
  | sample i sample => exact .inl (atCamera_capture i (·.sample sample))
  | fault i => exact .inl (atCamera_capture i (·.fault))
  | produce i env =>
    rw [step]
    split
    · cases found : s.cameras[i]? with
      | none =>
        apply Or.inl
        rw [atCamera_chains (g := id) (by simp [found]), List.modify_id]
      | some c =>
        obtain same | ⟨bundle, handed⟩ := c.produce_rest s.rawSink env
        · apply Or.inl
          rw [atCamera_chains (g := id) (by simpa [found] using same), List.modify_id]
        · refine .inr (.inr (.inl ⟨i, env, bundle, rfl, ?_⟩))
          exact atCamera_chains (by simpa [found] using handed)
    · exact .inl rfl
  | consume overlay env =>
    rw [step]
    split
    · exact .inr (.inr (.inr ⟨overlay, env, rfl, s.consume_chains overlay env⟩))
    · exact .inl rfl

/-! ## Delivery -/

def SlotsOpen (s : PipelineOrchestrator) : Prop := ∀ c ∈ s.chains, c.slot.closed = false

/-- The pipeline once a producer has handed a bundle on. -/
def pushed (camera : Nat) (bundle : FrameBundle) (s : PipelineOrchestrator) : PipelineOrchestrator :=
  s.atCamera camera (handOn s.rawSink bundle)

/-- The event pops nothing, and hands no newer bundle of the camera to its slot. -/
def Leaves (decide : List (Option FrameBundle) → Option CameraChoice) (camera : Nat) (s : PipelineOrchestrator)
    (e : PipelineEvent) : Prop :=
  (∀ overlay env, e ≠ .consume overlay env) ∧
    (s.step decide e).chains[camera]?.map (·.toSlot) = s.chains[camera]?.map (·.toSlot)

/-- Every bundle pushed is accepted by its slot, and is what the next pop of the slot takes. -/
structure Delivers (decide : List (Option FrameBundle) → Option CameraChoice) (s : PipelineOrchestrator) : Prop where
  accepted : ∀ c ∈ s.chains, ∀ bundle, (c.slot.push bundle).1.pushed = c.slot.pushed + 1
  popped : ∀ camera < s.chains.length, ∀ bundle between,
    Runs.Along (step decide) (Leaves decide camera) (s.pushed camera bundle) between →
      (between.foldl (step decide) (s.pushed camera bundle)).latest[camera]? = some (some bundle)

/-- No start succeeds on slots that a stop has closed. -/
def StartsOpen (s : PipelineOrchestrator) : PipelineEvent → Prop
  | .start comesUp prime now =>
    s.running = false → s.joining = false → (s.start comesUp prime now).2 = true → s.SlotsOpen
  | _ => True

theorem latest_eq (s : PipelineOrchestrator) : s.latest = s.chains.map fun c => c.slot.slot := by
  rw [latest, chains, List.map_map]
  apply List.map_congr_left
  intro c _
  exact c.slot.take_snd

/-- What leaves the slot alone leaves what it holds. -/
theorem Leaves.slot {e : PipelineEvent} (h : Leaves decide camera s e) :
    (s.step decide e).chains[camera]?.map (·.slot.slot) = s.chains[camera]?.map (·.slot.slot) := by
  obtain ⟨no_pop, no_newer⟩ := h
  obtain same | ⟨-, -, closed⟩ | ⟨i, env, bundle, -, handed⟩ | ⟨overlay, env, rfl, -⟩ := s.step_chains decide e
  · rw [same]
  · rw [closed, List.getElem?_map, Option.map_map]
    rfl
  · rw [handed, List.getElem?_modify] at no_newer ⊢
    by_cases here : i = camera
    · subst here
      cases found : s.chains[i]? with
      | none => rfl
      | some c => simp [found, handOn] at no_newer
    · simp [here]
  · exact absurd rfl (no_pop overlay env)

theorem SlotsOpen.delivers (h : s.SlotsOpen) : s.Delivers decide := by
  constructor
  · intro c hc bundle
    exact (c.slot.push_slot (h c hc) bundle).2
  · intro camera within bundle between leaves
    -- from the push on the slot holds the bundle
    have held : (between.foldl (step decide) (s.pushed camera bundle)).chains[camera]?.map (·.slot.slot) = some (some bundle) := by
      apply Runs.foldl_inv (I := fun t => t.chains[camera]?.map (·.slot.slot) = some (some bundle)) _ _ leaves
      · intro t e held leaves
        rw [Leaves.slot leaves]
        exact held
      · have chain := List.getElem?_eq_getElem within
        have there := h _ (List.getElem_mem within)
        rw [pushed, atCamera_chains (g := handOn s.rawSink bundle) (fun _ _ => rfl), List.getElem?_modify, chain]
        simp [handOn, (LatestOnlySlot.push_slot there bundle).1]
    rw [latest_eq, List.getElem?_map]
    exact held

theorem Delivers.slotsOpen (h : s.Delivers decide) : s.SlotsOpen := by
  intro c hc
  by_contra closed
  have accepted := h.accepted c hc { sourceFrame := {}, aiFrame := {} }
  rw [(c.slot.push_refused (by simpa using closed) _).2] at accepted
  omega

/-! ## Runs -/

/-- The slots of a pipeline that runs are open. -/
def RunsOpen (s : PipelineOrchestrator) : Prop := s.running = true → s.SlotsOpen

/-- A step with a guarded start keeps the slots of a running pipeline open. -/
theorem RunsOpen.step {e : PipelineEvent} (h : s.RunsOpen) (guarded : s.StartsOpen e) : (s.step decide e).RunsOpen := by
  intro running
  rw [step_running] at running
  have slots : s.SlotsOpen := by
    cases e with
    | start comesUp prime now =>
      by_cases here : s.running = true
      · exact h here
      · have joining : s.joining = false := by
          by_contra joining
          simp_all
        apply guarded (by simpa using here) joining
        simpa [joining] using running
    | stop => exact h (Bool.and_eq_true_iff.1 running).1
    | join | sample | fault | produce | consume => exact h running
  intro c hc
  obtain same | ⟨rfl, joining, -⟩ | ⟨i, env, bundle, rfl, handed⟩ | ⟨overlay, env, rfl, taken⟩ :=
    s.step_chains decide e
  · rw [same] at hc
    exact slots c hc
  · simp [joining] at running
  · rw [handed] at hc
    obtain ⟨j, within, rfl⟩ := List.getElem_of_mem hc
    rw [List.length_modify] at within
    have there := slots _ (List.getElem_mem within)
    rw [List.getElem_modify]
    split
    · simpa [handOn] using there
    · exact there
  · rw [taken] at hc
    obtain ⟨d, hd, rfl⟩ := List.mem_map.1 hc
    simpa using slots d hd

/-- A step leaves the pipeline stopped or delivering exactly if it is no start on closed slots. -/
theorem RunsOpen.step_delivers_iff {e : PipelineEvent} (h : s.RunsOpen) :
    ((s.step decide e).running = true → (s.step decide e).Delivers decide) ↔ s.StartsOpen e := by
  constructor
  · intro delivers
    cases e with
    | start comesUp prime now =>
      intro _ joining up
      have running := step_running decide s (.start comesUp prime now)
      simp only [joining, up] at running
      have slots := (delivers running).slotsOpen
      have same : (PipelineOrchestrator.step decide s (.start comesUp prime now)).chains = s.chains := by
        rw [PipelineOrchestrator.step, if_neg (by simp [joining]), start_chains]
      rwa [SlotsOpen, same] at slots
    | stop | join | sample | fault | produce | consume => trivial
  · intro guarded running
    exact (h.step guarded running).delivers

/-- **The pipeline can be restarted** exactly as long as no start succeeds on slots that a stop has
closed. -/
theorem restart_iff (decide : List (Option FrameBundle) → Option CameraChoice) (preprocessors : List PreprocessConfig)
    (postprocessor : PostprocessConfig) (rawSink : Bool) (events : List PipelineEvent) :
    Runs.Along (step decide) (fun s e => (s.step decide e).running = true → (s.step decide e).Delivers decide)
        (create preprocessors postprocessor rawSink) events ↔
      Runs.Along (step decide) StartsOpen (create preprocessors postprocessor rawSink) events := by
  apply Runs.along_iff (I := RunsOpen)
  · intro s e h
    exact h.step_delivers_iff
  · intro s e h guarded
    exact h.step guarded
  · intro running
    cases running

/-- A camera whose pipeline comes up. -/
def comesUp : PipelineEvent := .start (fun _ => true) (fun _ => none) 0

/-- A pipeline that is stopped and started again runs, and its slot takes nothing. -/
theorem restarted_delivers_nothing :
    ([comesUp, .stop, .join, comesUp].foldl (step StaticDecision.decide) (create [{}] {} false)).running = true ∧
      ¬ Runs.Along (step StaticDecision.decide)
        (fun s e =>
          (s.step StaticDecision.decide e).running = true → (s.step StaticDecision.decide e).Delivers StaticDecision.decide)
        (create [{}] {} false) [comesUp, .stop, .join, comesUp] := by
  constructor
  · rfl
  · rintro ⟨-, -, -, last, -⟩
    have slots := (last rfl).slotsOpen
    have closed := slots _ (List.mem_cons_self ..)
    cases closed

end PipelineOrchestrator

end SstCam
