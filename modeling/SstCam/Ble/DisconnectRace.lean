import SstCam.Ble.BluezBleTransport
import SstCam.Control.Calm
import SstCam.Control.Teardown

/-!
# A disconnect beside the event loop

`Stop` runs on the main thread while writes are handled on the event loop. The disconnect checks
the phase, cleans up in three sections and clears the session, with everything unlocked in
between, so what the loop starts behind a section it has passed is left without an owner, and a
central that connects before the session is cleared is left in phase Idle. `raceOutline` is the
invariant both threads keep as long as none of this happens: its guard names the four ways.
-/

namespace SstCam
set_option autoImplicit false

open Atomic Device

variable {ρ γ : Type}

/-! ## The two threads -/

inductive RaceThread where
  | stop
  | loop
  deriving DecidableEq, Repr

section
variable [IContinuousRecorder ρ] [IPlatformStreamer γ]

/-- The event loop: one write after the other. -/
def eventLoop (codec : Codec) : List (Ports γ × Bytes) → Prog Call (System ρ γ) Unit
  | [] => return ()
  | write :: writes => do
    let _ ← System.onRawCommand codec write.1 write.2
    eventLoop codec writes

/-- The system with a stop and a sequence of writes about to start. -/
def racePool (codec : Codec) (s : System ρ γ) (p : Ports γ) (writes : List (Ports γ × Bytes)) :
    Pool RaceThread Call (System ρ γ) Unit where
  shared := s
  threads
    | .stop => System.stop p
    | .loop => eventLoop codec writes

end

/-! ## The outline -/

/-- How far the stop has got. -/
inductive StopStage where
  | before
  | armed
  | checked
  | finalized
  | streamsStopped
  | tornDown
  | done
  | skipped
  deriving DecidableEq, Repr

namespace StopStage

/-- A central was taken and the session is not cleared yet. -/
def disconnecting : StopStage → Bool
  | .armed | .checked | .finalized | .streamsStopped | .tornDown => true
  | _ => false

/-- The disconnect goes through with the cleanup. -/
def cleaning : StopStage → Bool
  | .checked | .finalized | .streamsStopped | .tornDown => true
  | _ => false

/-- The recorder is stopped and the session not cleared yet. -/
def recorderDown : StopStage → Bool
  | .finalized | .streamsStopped | .tornDown => true
  | _ => false

/-- So are the streams. -/
def streamsDown : StopStage → Bool
  | .streamsStopped | .tornDown => true
  | _ => false

end StopStage

/-- How far the stop has got; and whether the loop still has to surface a connect, has started a
recording the session has not accepted yet, has formed such a group. -/
structure RaceMark where
  stage : StopStage := .before
  owesConnect : Bool := false
  starting : Bool := false
  forming : Bool := false
  deriving DecidableEq, Repr

def NoStreams (d : Device ρ γ) : Prop :=
  d.streaming.appStreamServer.serving = none ∧ d.streaming.platformStreams = ∅

/-- While the session is idle, and for each part behind the section of the disconnect that stops
it, nothing runs but what the loop has yet to get accepted. A central is present only with a
session, or with a connect to surface; while disconnecting, only with a connect to surface. -/
structure NoOrphan (s : System ρ γ) (stage : StopStage) (loop : RaceMark) : Prop where
  inStep : s.device.streaming.InStep
  recorder : s.device.session.phase = .idle ∨ stage.recorderDown = true →
    s.device.recording.state = .idle ∨ loop.starting = true
  streams : s.device.session.phase = .idle ∨ stage.streamsDown = true → NoStreams s.device
  group : s.device.session.phase = .idle ∨ stage = .tornDown → s.device.wifi.group = none ∨ loop.forming = true
  present : s.ble.centralPresent = true → s.device.session.phase ≠ .idle ∨ loop.owesConnect = true
  taken : stage.disconnecting = true → s.ble.centralPresent = true → loop.owesConnect = true
  unmet : stage = .armed → s.device.session.phase = .idle → s.ble.centralPresent = false ∧ loop.owesConnect = true
  awake : stage.cleaning = true → s.device.session.phase ≠ .idle

def raceMark (n : Call) (s t : System ρ γ) (v : RaceMark) : RaceMark :=
  match n with
  | .takeCentral => { v with stage := if s.ble.centralPresent then .armed else .skipped }
  | .checkPhase => { v with stage := if s.device.session.phase = .idle then .skipped else .checked }
  | .finalizeRecording => { v with stage := .finalized }
  | .stopStreaming => { v with stage := .streamsStopped }
  | .teardownWifiDirect => { v with stage := .tornDown }
  | .clearSession => { v with stage := .done }
  | .receive => { v with owesConnect := !s.ble.centralPresent }
  | .onConnect => { v with owesConnect := false }
  | .startRecording => { v with starting := decide (t.device.recording.state ≠ s.device.recording.state) }
  | .onRecordingStart => { v with starting := v.starting && decide (s.device.session.phase ≠ .ready) }
  | .stopRecording => { v with starting := false }
  | .startP2pGroupOwner => { v with forming := decide (t.device.wifi ≠ s.device.wifi) }
  | .onWifiReady => { v with forming := v.forming && decide (s.device.session.phase = .idle) }
  | .wifiStop => { v with forming := false }
  | _ => v

/-- The four ways the loop may not get between the sections of the disconnect: it surfaces a
connect to a session about to be cleared; the session accepts a recording whose recorder runs
behind the finalization; a stream starts behind the streams' stop, or in an idle session; the
session accepts a group that stands behind the teardown. -/
def raceGuard (n : Call) (s t : System ρ γ) (stage : StopStage) : Prop :=
  match n with
  | .onConnect => stage.disconnecting = true → s.device.session.phase = .idle
  | .onRecordingStart =>
    stage.recorderDown = true → s.device.session.phase = .ready → s.device.recording.state = .idle
  | .startAppStream | .startPlatformStream =>
    s.device.session.phase = .idle ∨ stage.streamsDown = true → NoStreams t.device
  | .onWifiReady => stage = .tornDown → s.device.session.phase ≠ .idle → s.device.wifi.group = none
  | _ => True

instance [DecidableEq γ] (d : Device ρ γ) : Decidable (NoStreams d) := inferInstanceAs (Decidable (_ ∧ _))

instance [DecidableEq γ] (n : Call) (s t : System ρ γ) (stage : StopStage) : Decidable (raceGuard n s t stage) := by
  unfold raceGuard
  split <;> infer_instance

def raceOutline (ρ γ : Type) : Outline RaceThread Call (System ρ γ) RaceMark Unit where
  mark _ := raceMark
  note _ _ _ _ _ := id
  Inv s marks _ := NoOrphan s (marks .stop).stage (marks .loop)
  Guard
    | .stop, _, _, _, _, _ => True
    | .loop, n, s, t, marks, _ => raceGuard n s t (marks .stop).stage

instance [DecidableEq γ] : (i : RaceThread) → (n : Call) → (s t : System ρ γ) → (marks : RaceThread → RaceMark) →
    (notes : Unit) → Decidable ((raceOutline ρ γ).Guard i n s t marks notes)
  | .stop, _, _, _, _, _ => .isTrue trivial
  | .loop, n, s, t, marks, _ => inferInstanceAs (Decidable (raceGuard n s t (marks .stop).stage))

section
variable {s t : System ρ γ} {stage : StopStage} {loop v : RaceMark} {n : Call}

/-! ### The calls of the loop -/

/-- A calm call of the device, or one of the transport's that leaves the central alone. -/
def SystemCalm (n : Call) (s t : System ρ γ) : Prop :=
  Calm n s.device t.device ∧ t.ble.centralPresent = s.ble.centralPresent

theorem NoOrphan.calm (h : NoOrphan s stage loop) (calm : SystemCalm n s t) : NoOrphan t stage loop := by
  obtain ⟨calm, present⟩ := calm
  exact
    { inStep := calm.inStep h.inStep
      recorder := fun down => (h.recorder (down.imp_left calm.idle.1)).imp_left calm.recording
      streams := fun down => (h.streams (down.imp_left calm.idle.1)).imp calm.preview calm.platform
      group := fun down => (h.group (down.imp_left calm.idle.1)).imp_left calm.group
      present := fun here => (h.present (present ▸ here)).imp_left (mt calm.idle.1)
      taken := fun down here => h.taken down (present ▸ here)
      unmet := fun armed idle => by rw [present]; exact h.unmet armed (calm.idle.1 idle)
      awake := fun down => mt calm.idle.1 (h.awake down) }

theorem raceMark_unmarked (h : n.marked = false) : raceMark n s t v = v := by
  cases n <;> first | rfl | cases h

theorem outlined_calm {α : Type} {q : Prog Call (System ρ γ) α} (calm : q.Within SystemCalm) :
    (raceOutline ρ γ).Outlined .loop (fun v' _ => v' = v) v q :=
  Outline.Outlined.of_within calm fun _ _ _ _ _ calm _ inv _ =>
    ⟨raceMark_unmarked calm.1.unmarked, NoOrphan.calm inv calm⟩

/-- A calm handler keeps the loop's mark. -/
theorem outlined_onDevice {α : Type} {q : Prog Call (Device ρ γ) α} (calm : q.Within Calm) :
    (raceOutline ρ γ).Outlined .loop (fun v' _ => v' = v) v (System.onDevice q) :=
  outlined_calm (calm.zoom fun _ _ _ calm => ⟨calm, rfl⟩)

/-- A call of the device by the loop. -/
theorem outlined_call {α : Type} {f : Device ρ γ → Device ρ γ × α} {Post : RaceMark → α → Prop}
    (keep : ∀ (s : System ρ γ) stage, NoOrphan s stage v →
      raceGuard n s { s with device := (f s.device).1 } stage →
      NoOrphan { s with device := (f s.device).1 } stage (raceMark n s { s with device := (f s.device).1 } v) ∧
        Post (raceMark n s { s with device := (f s.device).1 } v) (f s.device).2) :
    (raceOutline ρ γ).Outlined .loop Post v (System.onDevice (.atomically n f)) := by
  have lifted : System.onDevice (.atomically n f) =
      .atomically n fun s : System ρ γ => ({ s with device := (f s.device).1 }, (f s.device).2) := rfl
  rw [lifted]
  refine Outline.outlined_atomically.2 fun s vs _ hv inv guard => ?_
  subst hv
  exact keep s (vs .stop).stage inv guard

/-- A call of the transport by the loop. -/
theorem outlined_callBle {α : Type} {f : BluezBleTransport → BluezBleTransport × α} {Post : RaceMark → α → Prop}
    (keep : ∀ (s : System ρ γ) stage, NoOrphan s stage v →
      NoOrphan { s with ble := (f s.ble).1 } stage (raceMark n s { s with ble := (f s.ble).1 } v) ∧
        Post (raceMark n s { s with ble := (f s.ble).1 } v) (f s.ble).2) :
    (raceOutline ρ γ).Outlined .loop Post v (System.callBle n f) := by
  refine Outline.outlined_atomically.2 fun s vs _ hv inv guard => ?_
  subst hv
  exact keep s (vs .stop).stage inv

theorem outlined_receive (codec : Codec) (chunk : ChunkedPayload) :
    (raceOutline ρ γ).Outlined .loop (fun v' received => v' = { owesConnect := received.connect }) {}
      (System.callBle .receive (BluezBleTransport.receive codec chunk)) := by
  refine outlined_callBle fun s stage inv => ?_
  show NoOrphan _ stage { owesConnect := !s.ble.centralPresent } ∧
    ({ owesConnect := !s.ble.centralPresent } : RaceMark) = { owesConnect := _ }
  rw [BluezBleTransport.receive_connect]
  refine ⟨?_, rfl⟩
  exact
    { inStep := inv.inStep
      recorder := inv.recorder
      streams := inv.streams
      group := inv.group
      present := fun _ => by
        cases here : s.ble.centralPresent with
        | false => exact .inr rfl
        | true => exact .inl ((inv.present here).resolve_right (by simp))
      taken := fun down _ => by
        cases here : s.ble.centralPresent with
        | false => rfl
        | true => exact absurd (inv.taken down here) (by simp)
      unmet := fun armed idle => absurd (inv.unmet armed idle).2 (by simp)
      awake := inv.awake }

theorem outlined_onConnect :
    (raceOutline ρ γ).Outlined .loop (fun v' _ => v' = {}) { owesConnect := true }
      (System.onDevice (callSession .onConnect fun state => ((SessionManager.onConnect state).1, ()))) := by
  refine outlined_call fun s stage inv guard => ⟨?_, rfl⟩
  have awake : (SessionManager.onConnect s.device.session).1.phase ≠ .idle := by
    rw [SessionManager.onConnect_phase]
    split <;> simp_all
  exact
    { inStep := inv.inStep
      recorder := fun down => inv.recorder (down.imp_left fun idle => absurd idle awake)
      streams := fun down => inv.streams (down.imp_left fun idle => absurd idle awake)
      group := fun down => inv.group (down.imp_left fun idle => absurd idle awake)
      present := fun _ => .inl awake
      taken := fun down here => by
        -- The session is idle, so the disconnect has not checked it yet, and nobody is present.
        have idle := guard down
        have early : stage = .armed := by
          have := mt inv.awake (not_not.2 idle)
          cases stage <;> simp_all [StopStage.disconnecting, StopStage.cleaning]
        exact absurd here (by simp [(inv.unmet early idle).1])
      unmet := fun _ idle => absurd idle awake
      awake := fun _ => awake }

theorem outlined_startRecording [IContinuousRecorder ρ] (video thumbnail : String) (enoughSpace comesUp : Bool) :
    (raceOutline ρ γ).Outlined .loop (fun v' started => v' = { starting := started }) {}
      (System.onDevice (callRecording .startRecording
        (RecordingService.startRecording video thumbnail enoughSpace comesUp))) := by
  refine outlined_call fun s stage inv _ => ?_
  rcases RecordingService.startRecording_state video thumbnail enoughSpace comesUp s.device.recording with
    ⟨yes, before, after⟩ | ⟨no, same⟩
  · refine ⟨{ inv with recorder := fun _ => .inr ?_ }, ?_⟩
    · simp [raceMark, before, after]
    · simp [raceMark, before, after, yes]
  · refine ⟨{ inv with recorder := fun down => .inl ?_ }, ?_⟩
    · exact same.trans ((inv.recorder down).resolve_right (by simp))
    · simp [raceMark, same, no]

/-- The session accepts the recording, or leaves it to the handler to stop. -/
theorem outlined_onRecordingStart :
    (raceOutline ρ γ).Outlined .loop (fun v' accepted => v' = { starting := !accepted }) { starting := true }
      (System.onDevice (callSession .onRecordingStart SessionManager.onRecordingStart)) := by
  refine outlined_call fun s stage inv guard => ?_
  by_cases ready : s.device.session.phase = .ready
  · have accepted : SessionManager.onRecordingStart s.device.session = ({ s.device.session with phase := .recording }, true) :=
      if_neg (not_not.2 ready)
    have mark : ∀ t, raceMark .onRecordingStart s t { starting := true } = {} := fun t => by simp [raceMark, ready]
    simp only [accepted, mark]
    refine ⟨?_, rfl⟩
    exact
      { inStep := inv.inStep
        recorder := fun down => .inl (guard (down.resolve_left (by simp)) ready)
        streams := fun down => inv.streams (.inr (down.resolve_left (by simp)))
        group := fun down => inv.group (.inr (down.resolve_left (by simp)))
        present := fun _ => .inl (by simp)
        taken := inv.taken
        unmet := fun _ idle => by simp at idle
        awake := fun _ => by simp }
  · have refused : SessionManager.onRecordingStart s.device.session = (s.device.session, false) := if_pos ready
    have mark : ∀ t, raceMark .onRecordingStart s t { starting := true } = { starting := true } := fun t => by
      simp [raceMark, ready]
    simp only [refused, mark]
    exact ⟨inv, rfl⟩

/-- A stopped recorder is nobody's. -/
theorem outlined_stopRecording [IContinuousRecorder ρ] (written : Bool) :
    (raceOutline ρ γ).Outlined .loop (fun v' _ => v' = { v with starting := false }) v
      (System.onDevice (callRecording .stopRecording (RecordingService.stop written))) := by
  refine outlined_call fun s stage inv _ => ⟨?_, rfl⟩
  exact { inv with recorder := fun _ => .inl (RecordingService.stop_state _ _) }

theorem outlined_startP2pGroupOwner (formed : Option WifiDirectGroup) :
    (raceOutline ρ γ).Outlined .loop (fun v' result => ∃ forming, v' = { forming } ∧ (result = none → forming = false)) {}
      (System.onDevice (callWifi .startP2pGroupOwner (WpaWifiManager.startP2pGroupOwner formed))) := by
  refine outlined_call fun s stage inv _ => ?_
  cases formed with
  | none =>
    refine ⟨{ inv with group := fun down => .inl ?_ }, false, by simp [raceMark, WpaWifiManager.startP2pGroupOwner],
      fun _ => rfl⟩
    exact (inv.group down).resolve_right (by simp)
  | some group =>
    refine ⟨{ inv with group := fun down => .inr ?_ }, _, rfl, fun no => by cases no⟩
    have none : s.device.wifi.group = none := (inv.group down).resolve_right (by simp)
    show decide ((⟨some group⟩ : WpaWifiManager) ≠ s.device.wifi) = true
    refine decide_eq_true fun same => ?_
    rw [← same] at none
    cases none

/-- The session accepts the group, or leaves it to the handler to stop. -/
theorem outlined_onWifiReady {forming : Bool} :
    (raceOutline ρ γ).Outlined .loop (fun v' ready => v' = { forming := forming && !ready }) { forming }
      (System.onDevice (callSession .onWifiReady SessionManager.onWifiReady)) := by
  refine outlined_call fun s stage inv guard => ?_
  have result := SessionManager.onWifiReady_snd s.device.session
  have mark : ∀ t, raceMark .onWifiReady s t { forming } =
      { forming := forming && decide (s.device.session.phase = .idle) } := fun t => rfl
  rw [result, mark]
  refine ⟨?_, by simp⟩
  have idle : (SessionManager.onWifiReady s.device.session).1.phase = .idle ↔ s.device.session.phase = .idle := by
    rw [SessionManager.onWifiReady_phase]
    split <;> simp_all
  exact
    { inStep := inv.inStep
      recorder := fun down => inv.recorder (down.imp_left idle.1)
      streams := fun down => inv.streams (down.imp_left idle.1)
      group := fun down => by
        by_cases before : s.device.session.phase = .idle
        · simpa [before] using inv.group (.inl before)
        · exact .inl (guard (down.resolve_left (mt idle.1 before)) before)
      present := fun here => (inv.present here).imp_left (mt idle.1)
      taken := inv.taken
      unmet := fun armed now => inv.unmet armed (idle.1 now)
      awake := fun down => mt idle.1 (inv.awake down) }

theorem outlined_wifiStop :
    (raceOutline ρ γ).Outlined .loop (fun v' _ => v' = { v with forming := false }) v
      (System.onDevice (callWifi .wifiStop fun w => (w.stop, ()))) := by
  refine outlined_call fun s stage inv _ => ⟨?_, rfl⟩
  exact { inv with group := fun _ => .inl rfl }

/-- A stream the guard lets start runs in a session that is not about to be cleared. -/
theorem outlined_startStream {α : Type} {f : StreamingService AppStreamPort γ → StreamingService AppStreamPort γ × α}
    (start : n = .startAppStream ∨ n = .startPlatformStream) (inStep : ∀ s, s.InStep → (f s).1.InStep) :
    (raceOutline ρ γ).Outlined .loop (fun v' _ => v' = v) v (System.onDevice (callStreaming n f)) := by
  refine outlined_call fun s stage inv guard => ?_
  obtain rfl | rfl := start <;>
    exact ⟨{ inv with inStep := inStep _ inv.inStep, streams := guard }, rfl⟩

theorem outlined_return {α : Type} (a : α) :
    (raceOutline ρ γ).Outlined .loop (fun v' _ => v' = v) v (System.onDevice (pure a)) :=
  outlined_onDevice (Prog.within_pure a)

/-! ### The handlers -/

theorem outlined_recordingHandler [IContinuousRecorder ρ] (p : Ports γ) (cmd : Command) :
    (raceOutline ρ γ).Outlined .loop (fun v' _ => v' = {}) {} (System.onDevice (RecordingHandler.handle p cmd)) := by
  unfold RecordingHandler.handle
  split
  · rw [System.onDevice_bind]
    refine (outlined_onDevice snapshot_calm).bind fun v state same => ?_
    subst same
    split
    · exact outlined_return _
    · split
      · exact outlined_return _
      · rw [System.onDevice_bind]
        refine (outlined_startRecording _ _ _ _).bind fun v started mark => ?_
        subst mark
        cases started with
        | false => exact outlined_return _
        | true =>
          rw [if_neg (by simp), System.onDevice_bind]
          refine outlined_onRecordingStart.bind fun v accepted mark => ?_
          subst mark
          cases accepted with
          | true => exact outlined_return _
          | false =>
            rw [if_pos (by simp), System.onDevice_bind]
            refine (outlined_stopRecording _).bind fun v _ mark => ?_
            subst mark
            exact outlined_return _
  · rw [System.onDevice_bind]
    refine (outlined_stopRecording _).bind fun v _ mark => ?_
    subst mark
    rw [System.onDevice_bind]
    refine (outlined_onDevice (callSession_calm rfl fun s => ?_)).bind fun v _ mark => ?_
    · rw [SessionManager.onRecordingStop_phase]
      split <;> simp_all
    · subst mark
      exact outlined_return _
  · refine outlined_onDevice ((callRecording_calm rfl fun r idle => ?_).bind fun _ => trivial)
    have same := RecordingService.pause_isActive r
    rw [(RecordingState.isActive_eq_false_iff _).2 idle] at same
    exact (RecordingState.isActive_eq_false_iff _).1 same
  · refine outlined_onDevice ((callRecording_calm rfl fun r idle => ?_).bind fun _ => trivial)
    have same := RecordingService.resume_isActive r
    rw [(RecordingState.isActive_eq_false_iff _).2 idle] at same
    exact (RecordingState.isActive_eq_false_iff _).1 same
  · exact outlined_return _

theorem outlined_wifiStart (p : Ports γ) :
    (raceOutline ρ γ).Outlined .loop (fun v' _ => v' = {}) {} (System.onDevice (WifiDirectHandler.handleStart p)) := by
  unfold WifiDirectHandler.handleStart
  rw [System.onDevice_bind]
  refine (outlined_startP2pGroupOwner _).bind fun v formed ⟨forming, mark, failed⟩ => ?_
  subst mark
  cases formed with
  | none =>
    obtain rfl := failed rfl
    exact outlined_return _
  | some group =>
    dsimp only
    rw [System.onDevice_bind]
    refine (outlined_onDevice (callDhcp_calm rfl)).bind fun v serving mark => ?_
    subst mark
    cases serving with
    | false =>
      rw [if_pos (by simp), System.onDevice_bind]
      refine outlined_wifiStop.bind fun v _ mark => ?_
      subst mark
      exact outlined_return _
    | true =>
      rw [if_neg (by simp), System.onDevice_bind]
      refine outlined_onWifiReady.bind fun v ready mark => ?_
      subst mark
      cases ready with
      | false =>
        rw [if_pos (by simp), System.onDevice_bind]
        refine (outlined_onDevice (callDhcp_calm rfl)).bind fun v _ mark => ?_
        subst mark
        rw [System.onDevice_bind]
        refine outlined_wifiStop.bind fun v _ mark => ?_
        subst mark
        exact outlined_return _
      | true =>
        rw [if_neg (by simp), System.onDevice_bind]
        refine (outlined_startStream (.inl rfl) fun s h => StreamingService.startAppStream_inStep _ _ h).bind
          fun v _ mark => ?_
        subst mark
        simp only [Bool.not_true, Bool.and_false]
        exact outlined_return _

theorem outlined_wifiStopHandler :
    (raceOutline ρ γ).Outlined .loop (fun v' _ => v' = {}) {} (System.onDevice WifiDirectHandler.handleStop) := by
  unfold WifiDirectHandler.handleStop
  rw [System.onDevice_bind]
  refine (outlined_onDevice (callDhcp_calm rfl)).bind fun v _ mark => ?_
  subst mark
  rw [System.onDevice_bind]
  refine outlined_wifiStop.bind fun v _ mark => ?_
  subst mark
  rw [System.onDevice_bind]
  refine (outlined_onDevice (callSession_calm rfl fun s => ?_)).bind fun v _ mark => ?_
  · rw [SessionManager.onWifiStopped_phase]
    split <;> simp_all
  · subst mark
    exact outlined_return _

theorem outlined_streamingControl [IPlatformStreamer γ] (p : Ports γ) (msg : StreamingControlCommand) :
    (raceOutline ρ γ).Outlined .loop (fun v' _ => v' = {}) {}
      (System.onDevice (StreamingHandler.handleControl p msg)) := by
  have start : ∀ destination, (raceOutline ρ γ).Outlined .loop (fun v' _ => v' = {}) {}
      (System.onDevice (StreamingHandler.startStream p destination)) := by
    intro destination
    unfold StreamingHandler.startStream
    split
    · exact outlined_return _
    · rw [System.onDevice_bind]
      refine (outlined_startStream (.inr rfl) fun s h => StreamingService.startPlatformStream_inStep _ _ _ h).bind
        fun v _ mark => ?_
      subst mark
      exact outlined_return _
  unfold StreamingHandler.handleControl
  split
  · split
    · rw [System.onDevice_bind]
      refine (outlined_onDevice (callUrl_calm rfl)).bind fun v configured mark => ?_
      subst mark
      exact start configured
    · exact start _
  · refine outlined_onDevice (Prog.Within.bind (Prog.within_atomically.2 fun d => ?_) fun _ => trivial)
    exact ⟨rfl, .rfl, id, fun none => by simpa using none, StreamingService.stopPlatformStream_empty _,
      StreamingService.stopPlatformStream_inStep _, id⟩
  · exact outlined_return _

section
variable [IContinuousRecorder ρ] [IPlatformStreamer γ]

theorem outlined_handlerFor (p : Ports γ) (cmd : Command) (payload : CommandPayload) :
    (raceOutline ρ γ).Outlined .loop (fun v' _ => v' = {}) {} (System.onDevice (handlerFor p cmd payload)) := by
  cases payload with
  | startWifiDirect => exact outlined_wifiStart p
  | stopWifiDirect => exact outlined_wifiStopHandler
  | recordingControl action => exact outlined_recordingHandler p cmd
  | streamingControl msg => exact outlined_streamingControl p msg
  | getDeviceInfo | getTelemetry =>
    refine outlined_onDevice ?_
    show (DeviceHandler.handle p cmd).Within _
    unfold DeviceHandler.handle
    split
    · trivial
    · exact telemetry_calm p
  | pushSessionConfig msg => exact outlined_onDevice (sessionHandler_calm p cmd)
  | pushOverlayLayout layout => exact outlined_onDevice (overlayHandler_calm p cmd)
  | matchControl msg => exact outlined_onDevice (matchControl_calm p msg)
  | scoreUpdate msg => exact outlined_onDevice (scoreUpdate_calm p msg)
  | bannerEvent msg =>
    exact outlined_onDevice ((callOverlay_calm rfl).bind fun _ => (callOverlay_calm rfl).bind fun _ => trivial)
  | getMatchState => exact outlined_onDevice (snapshot_calm.bind fun _ => trivial)
  | setStreamingConfig url => exact outlined_onDevice ((callUrl_calm rfl).bind fun _ => trivial)
  | rawCapture msg => exact outlined_onDevice (rawCapture_calm p cmd)
  | listRecordings | downloadRequest id | thumbnail msg | unwired n => exact outlined_return _

theorem outlined_dispatch (p : Ports γ) (cmd : Command) :
    (raceOutline ρ γ).Outlined .loop (fun v' _ => v' = {}) {} (System.onDevice (dispatch p cmd)) := by
  cases h : cmd.payload with
  | none =>
    rw [dispatch_none p cmd h]
    exact outlined_return _
  | some payload =>
    rw [dispatch_eq p cmd h, System.onDevice_map]
    exact Outline.Outlined.map (outlined_handlerFor p cmd payload)

/-- A write, from its chunk to its response. -/
theorem outlined_onRawCommand (codec : Codec) (p : Ports γ) (bytes : Bytes) :
    (raceOutline ρ γ).Outlined .loop (fun v' _ => v' = {}) {} (System.onRawCommand codec p bytes) := by
  have answered : ∀ cmd : Command, (raceOutline ρ γ).Outlined .loop (fun v' _ => v' = {}) {}
      (do
        let response ← System.onDevice (dispatch (ρ := ρ) p cmd)
        System.callBle .sendResponse fun t => (t.sendResponse codec response, ())
        return some cmd) := by
    intro cmd
    refine (outlined_dispatch (ρ := ρ) p cmd).bind fun v response mark => ?_
    subst mark
    refine (outlined_callBle (n := .sendResponse) fun s stage inv => ⟨?_, rfl⟩).bind
      fun v _ (mark : v = {}) => Outline.outlined_pure.2 mark
    exact inv.calm ⟨Calm.refl (show Call.sendResponse.marked = false from rfl) s.device,
      BluezBleTransport.sendResponse_centralPresent _ _ _⟩
  unfold System.onRawCommand
  split
  · exact Outline.outlined_pure.2 rfl
  · refine (outlined_receive codec _).bind fun v received mark => ?_
    obtain ⟨connect, command⟩ := received
    subst mark
    cases connect with
    | false =>
      cases command with
      | none => exact Outline.outlined_pure.2 rfl
      | some cmd => exact answered cmd
    | true =>
      refine outlined_onConnect.bind fun v _ mark => ?_
      subst mark
      cases command with
      | none => exact Outline.outlined_pure.2 rfl
      | some cmd => exact answered cmd

theorem outlined_eventLoop (codec : Codec) (writes : List (Ports γ × Bytes)) :
    (raceOutline ρ γ).Outlined .loop (fun v' _ => v' = {}) {} (eventLoop codec writes) := by
  induction writes with
  | nil => exact Outline.outlined_pure.2 rfl
  | cons write writes ih =>
    refine (outlined_onRawCommand codec write.1 write.2).bind fun v _ mark => ?_
    subst mark
    exact ih

end

/-! ### The stop -/

/-- A call of the device by the stop. -/
theorem outlined_stopCall {α : Type} {f : Device ρ γ → Device ρ γ × α} {Post : RaceMark → α → Prop}
    (keep : ∀ (s : System ρ γ) loop, NoOrphan s v.stage loop →
      NoOrphan { s with device := (f s.device).1 } (raceMark n s { s with device := (f s.device).1 } v).stage loop ∧
        Post (raceMark n s { s with device := (f s.device).1 } v) (f s.device).2) :
    (raceOutline ρ γ).Outlined .stop Post v (System.onDevice (.atomically n f)) := by
  have lifted : System.onDevice (.atomically n f) =
      .atomically n fun s : System ρ γ => ({ s with device := (f s.device).1 }, (f s.device).2) := rfl
  rw [lifted]
  refine Outline.outlined_atomically.2 fun s vs _ hv inv _ => ?_
  subst hv
  exact keep s (vs .loop) inv

theorem outlined_takeCentral :
    (raceOutline ρ γ).Outlined .stop (fun v' present => present = true → v'.stage = .armed) {}
      (System.callBle .takeCentral BluezBleTransport.takeCentral) := by
  refine Outline.outlined_atomically.2 fun s vs _ hv inv _ => ?_
  have inv : NoOrphan s .before (vs .loop) := by
    have stage : (vs .stop).stage = .before := by rw [hv]
    exact stage ▸ inv
  show NoOrphan _ (if s.ble.centralPresent = true then StopStage.armed else .skipped) (vs .loop) ∧
    (s.ble.centralPresent = true → (if s.ble.centralPresent = true then StopStage.armed else .skipped) = .armed)
  refine ⟨?_, fun here => if_pos here⟩
  by_cases here : s.ble.centralPresent = true
  · rw [if_pos here]
    exact { inv with
      recorder := fun down => inv.recorder (down.imp_right fun no => by cases no)
      streams := fun down => inv.streams (down.imp_right fun no => by cases no)
      group := fun down => inv.group (down.imp_right fun no => by cases no)
      present := fun no => by cases no
      taken := fun _ no => by cases no
      unmet := fun _ idle => ⟨rfl, (inv.present here).resolve_left (not_not.2 idle)⟩
      awake := fun no => by cases no }
  · rw [if_neg here]
    exact { inv with
      recorder := fun down => inv.recorder (down.imp_right fun no => by cases no)
      streams := fun down => inv.streams (down.imp_right fun no => by cases no)
      group := fun down => inv.group (down.imp_right fun no => by cases no)
      present := fun no => by cases no
      taken := fun no => by cases no
      unmet := fun no => by cases no
      awake := fun no => by cases no }

theorem outlined_checkPhase (armed : v.stage = .armed) :
    (raceOutline ρ γ).Outlined .stop (fun v' idle => idle = false → v'.stage = .checked) v
      (System.onDevice (callSession .checkPhase fun s => (s, decide (s.phase = .idle)))) := by
  refine outlined_stopCall fun s loop inv => ?_
  rw [armed] at inv
  show NoOrphan _ (if s.device.session.phase = .idle then StopStage.skipped else .checked) loop ∧
    (decide (s.device.session.phase = .idle) = false →
      (if s.device.session.phase = .idle then StopStage.skipped else .checked) = .checked)
  by_cases idle : s.device.session.phase = .idle
  · rw [if_pos idle]
    refine ⟨{ inv with
      recorder := fun _ => inv.recorder (.inl idle)
      streams := fun _ => inv.streams (.inl idle)
      group := fun _ => inv.group (.inl idle)
      taken := fun no => by cases no
      unmet := fun no => by cases no
      awake := fun no => by cases no }, fun no => by simp [idle] at no⟩
  · rw [if_neg idle]
    refine ⟨{ inv with
      recorder := fun down => inv.recorder (down.imp_right fun no => by cases no)
      streams := fun down => inv.streams (down.imp_right fun no => by cases no)
      group := fun down => inv.group (down.imp_right fun no => by cases no)
      taken := fun _ => inv.taken rfl
      unmet := fun no => by cases no
      awake := fun _ => idle }, fun _ => rfl⟩

/-- Each section of the cleanup stops its part, and the loop starts nothing behind it. -/
theorem outlined_cleanup [IContinuousRecorder ρ] (p : Ports γ) (checked : v.stage = .checked) :
    (raceOutline ρ γ).Outlined .stop (fun _ _ => True) v
      (System.onDevice (do
        Prog.atomically .finalizeRecording fun d : Device ρ γ => (SessionCleanup.finalizeRecording p d, ())
        Prog.atomically .stopStreaming fun d => (SessionCleanup.stopStreaming d, ())
        Prog.atomically .teardownWifiDirect fun d => (SessionCleanup.teardownWifiDirect d, ())
        callSession .clearSession fun _ => ({}, ()))) := by
  rw [System.onDevice_bind]
  have finalized : (raceOutline ρ γ).Outlined .stop (fun v' _ => v'.stage = .finalized) v
      (System.onDevice (.atomically .finalizeRecording fun d : Device ρ γ => (SessionCleanup.finalizeRecording p d, ()))) :=
    outlined_stopCall fun s loop inv => by
      rw [checked] at inv
      refine ⟨?_, rfl⟩
      show NoOrphan _ .finalized loop
      exact { inv with
        recorder := fun _ => .inl (RecordingService.stop_state _ _)
        streams := fun down => inv.streams (down.imp_right fun no => by cases no)
        group := fun down => inv.group (down.imp_right fun no => by cases no)
        taken := fun _ => inv.taken rfl
        unmet := fun no => by cases no
        awake := fun _ => inv.awake rfl }
  refine finalized.bind fun v _ stage => ?_
  rw [System.onDevice_bind]
  have stopped : (raceOutline ρ γ).Outlined .stop (fun v' _ => v'.stage = .streamsStopped) v
      (System.onDevice (.atomically .stopStreaming fun d : Device ρ γ => (SessionCleanup.stopStreaming d, ()))) :=
    outlined_stopCall fun s loop inv => by
      rw [stage] at inv
      refine ⟨?_, rfl⟩
      show NoOrphan _ .streamsStopped loop
      have stopped := StreamingService.stopAppStream_inStep inv.inStep
      exact
        { inStep := (StreamingService.foldl_stop_mem _ 0 stopped).1
          recorder := fun _ => inv.recorder (.inr rfl)
          streams := fun _ => ⟨SessionCleanup.stopStreaming_serving s.device, (StreamingService.stopAll_empty stopped).1⟩
          group := fun down => inv.group (down.imp_right fun no => by cases no)
          present := inv.present
          taken := fun _ => inv.taken rfl
          unmet := fun no => by cases no
          awake := fun _ => inv.awake rfl }
  refine stopped.bind fun v _ stage => ?_
  rw [System.onDevice_bind]
  have tornDown : (raceOutline ρ γ).Outlined .stop (fun v' _ => v'.stage = .tornDown) v
      (System.onDevice (.atomically .teardownWifiDirect fun d : Device ρ γ => (SessionCleanup.teardownWifiDirect d, ()))) :=
    outlined_stopCall fun s loop inv => by
      rw [stage] at inv
      refine ⟨?_, rfl⟩
      show NoOrphan _ .tornDown loop
      exact { inv with
        recorder := fun _ => inv.recorder (.inr rfl)
        streams := fun _ => inv.streams (.inr rfl)
        group := fun _ => .inl rfl
        taken := fun _ => inv.taken rfl
        unmet := fun no => by cases no
        awake := fun _ => inv.awake rfl }
  refine tornDown.bind fun v _ stage => ?_
  refine outlined_stopCall fun s loop inv => ?_
  rw [stage] at inv
  refine ⟨?_, trivial⟩
  show NoOrphan _ .done loop
  exact
    { inStep := inv.inStep
      recorder := fun _ => inv.recorder (.inr rfl)
      streams := fun _ => inv.streams (.inr rfl)
      group := fun _ => inv.group (.inr rfl)
      present := fun here => .inr (inv.taken rfl here)
      taken := fun no => by cases no
      unmet := fun no => by cases no
      awake := fun no => by cases no }

theorem outlined_stop [IContinuousRecorder ρ] (p : Ports γ) :
    (raceOutline ρ γ).Outlined .stop (fun _ _ => True) {} (System.stop (ρ := ρ) p) := by
  have reset : ∀ v, (raceOutline ρ γ).Outlined .stop (fun _ _ => True) v
      (System.callBle .resetAssembler fun t => (t.resetAssembler, ())) := fun v => by
    refine Outline.outlined_atomically.2 fun s vs _ hv inv _ => ⟨?_, trivial⟩
    have inv : NoOrphan s v.stage (vs .loop) := hv ▸ inv
    show NoOrphan _ v.stage (vs .loop)
    exact { inv with }
  unfold System.stop
  refine outlined_takeCentral.bind fun v present armed => ?_
  cases present with
  | false => exact reset v
  | true =>
    rw [if_pos rfl]
    have disconnected : (raceOutline ρ γ).Outlined .stop (fun _ _ => True) v (System.onDevice (onDisconnect p)) := by
      unfold onDisconnect
      rw [System.onDevice_bind]
      refine (outlined_checkPhase (armed rfl)).bind fun v idle checked => ?_
      cases idle with
      | true => exact Outline.outlined_pure.2 trivial
      | false => exact outlined_cleanup p (checked rfl)
    exact disconnected.bind fun v _ _ => reset v

end

/-! ## The race -/

section
variable [IContinuousRecorder ρ] [IPlatformStreamer γ]

def raceStart (codec : Codec) (s : System ρ γ) (p : Ports γ) (writes : List (Ports γ × Bytes)) :
    Marked RaceThread Call (System ρ γ) RaceMark Unit Unit :=
  ⟨racePool codec s p writes, fun _ => {}, ()⟩

/-- What is left running has an owner: nothing runs in an idle session, and a central that is
present has a session. -/
structure Attended (s : System ρ γ) : Prop where
  idle : s.device.session.phase = .idle →
    s.device.recording.state = .idle ∧ NoStreams s.device ∧ s.device.wifi.group = none
  present : s.ble.centralPresent = true → s.device.session.phase ≠ .idle

/-- Between events what is active belongs to a session. -/
theorem owned_of_events (codec : Codec) (cfg : ChunkAssemblerConfig) (recorder : ρ) (events : List (System.Event γ)) :
    (System.after codec cfg recorder events).link.Owned := by
  refine Runs.foldl_inv' (I := fun s : System ρ γ => s.link.Owned) (fun s e owned => ?_) events (Link.start_owned recorder)
  rcases System.step_link codec s e with same | ⟨e', stepped⟩
  · rwa [same]
  · rw [stepped]
    exact Link.step_owned s.link e' owned

/-- At the start nothing is left over. -/
theorem raceStart_holds (codec : Codec) {s : System ρ γ} (p : Ports γ) (writes : List (Ports γ × Bytes))
    (owned : s.link.Owned) :
    (raceOutline ρ γ).Holds (fun | .stop => fun _ _ => True | .loop => fun v _ => v = {})
      (raceStart codec s p writes) where
  inv :=
    { inStep := owned.inStep
      recorder := fun down => .inl (owned.quiet (down.resolve_right (by simp [raceStart, StopStage.recorderDown]))).recording
      streams := fun down =>
        have quiet := owned.quiet (down.resolve_right (by simp [raceStart, StopStage.streamsDown]))
        ⟨quiet.preview, quiet.platform⟩
      group := fun down => .inl (owned.quiet (down.resolve_right (by simp [raceStart]))).group
      present := fun here => .inl (owned.present_iff.1 here)
      taken := fun no => by cases no
      unmet := fun no => by cases no
      awake := fun no => by cases no }
  outlined i := by
    cases i with
    | stop => exact outlined_stop p
    | loop => exact outlined_eventLoop codec writes

/-- **A disconnect beside the event loop.** From any state between events, one stop and any
writes leave nothing without an owner, in every interleaving whose calls meet the guard. -/
theorem race_attended (codec : Codec) (cfg : ChunkAssemblerConfig) (recorder : ρ) (events : List (System.Event γ))
    (p : Ports γ) (writes : List (Ports γ × Bytes)) (schedule : List RaceThread)
    (guarded : Runs.Along (raceOutline ρ γ).step (raceOutline ρ γ).Guarded
      (raceStart codec (System.after codec cfg recorder events) p writes) schedule)
    (returned : ((racePool codec (System.after codec cfg recorder events) p writes).run schedule).Returned) :
    Attended ((racePool codec (System.after codec cfg recorder events) p writes).run schedule).shared := by
  have owned := owned_of_events codec cfg recorder events
  generalize System.after codec cfg recorder events = s at *
  have holds := (raceStart_holds codec p writes owned).run guarded
  have pool : (schedule.foldl (raceOutline ρ γ).step (raceStart codec s p writes)).pool =
      (racePool codec s p writes).run schedule := Outline.run_pool _ schedule
  have settled : (schedule.foldl (raceOutline ρ γ).step (raceStart codec s p writes)).marks .loop = {} :=
    (holds.post_of_returned (by rwa [pool]) .loop).elim fun _ mark => mark
  have inv : NoOrphan _ _ _ := holds.inv
  rw [pool, settled] at inv
  refine ⟨fun idle => ⟨?_, inv.streams (.inl idle), ?_⟩, fun here => ?_⟩
  · exact (inv.recorder (.inl idle)).resolve_right (by simp)
  · exact (inv.group (.inl idle)).resolve_right (by simp)
  · exact (inv.present here).resolve_right (by simp)

end

/-- A codec for writes of one byte: 0 is an ack, the others a command in one frame. -/
def raceCodec : Codec where
  parseChunk
    | [0] => some { correlationId := "ack" }
    | [k] => some { correlationId := "command", totalChunks := 1, data := [k] }
    | _ => none
  parseCommand
    | [1] => some { correlationId := "command", payload := some .startWifiDirect }
    | [2] => some { correlationId := "command", payload := some (.pushSessionConfig {}) }
    | [3] => some { correlationId := "command", payload := some (.pushOverlayLayout {}) }
    | [4] => some { correlationId := "command", payload := some (.recordingControl .start) }
    | _ => none
  serializeChunk _ := []
  serializeAck _ := []
  serializeResponse _ := []

/-- The stop takes the central; the loop takes in an ack, and surfaces a connect to the session
that is still there; then the session is cleared. -/
def lostConnect : List RaceThread := [.stop, .loop, .loop, .stop, .stop, .stop, .stop, .stop, .stop]

/-- A central is left present with the session idle. -/
theorem race_loses_connect :
    ¬∀ (codec : Codec) (events : List (System.Event StreamerPort)) (p : Ports StreamerPort)
        (writes : List (Ports StreamerPort × Bytes)) (schedule : List RaceThread),
      ((racePool codec (System.after codec {} ({} : RecorderPort) events) p writes).run schedule).Returned →
      Attended ((racePool codec (System.after codec {} ({} : RecorderPort) events) p writes).run schedule).shared := by
  intro all
  have attended := all raceCodec [.write {} [0]] {} [({}, [0])] lostConnect (fun i => by cases i <;> decide)
  exact absurd (attended.present (by decide)) (by decide)

/-- A session on its way to Ready, as it comes in. -/
def readyWrites : List (System.Event StreamerPort) :=
  [.write fieldPorts [1], .write fieldPorts [2], .write fieldPorts [3]]

/-- A recording starts before the disconnect finalizes, and is accepted in time. -/
def acceptedInTime : List RaceThread :=
  [.loop, .loop, .loop, .stop, .stop, .loop, .stop, .stop, .stop, .stop, .loop, .stop]

theorem acceptedInTime_guarded :
    Runs.Along (raceOutline RecorderPort StreamerPort).step (raceOutline RecorderPort StreamerPort).Guarded
      (raceStart raceCodec (System.after raceCodec {} {} readyWrites) {} [(fieldPorts, [4])]) acceptedInTime := by
  decide

theorem race_attended_in_time :
    Attended ((racePool raceCodec (System.after raceCodec {} ({} : RecorderPort) readyWrites) {}
      [(fieldPorts, [4])]).run acceptedInTime).shared :=
  race_attended raceCodec {} ({} : RecorderPort) readyWrites {} [(fieldPorts, [4])] acceptedInTime acceptedInTime_guarded
    (fun i => by cases i <;> decide)

end SstCam
