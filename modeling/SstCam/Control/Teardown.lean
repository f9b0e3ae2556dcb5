import SstCam.Control.WifiResources

/-!
# Teardown

A disconnect leaves nothing behind it running. `OnDisconnect` does nothing in phase Idle, so
this rests on an invariant of the device behind its transport: whatever is active belongs to a
session that is not Idle (`Link.Owned`).
-/

namespace SstCam
set_option autoImplicit false

open Atomic

variable {ρ γ : Type}

namespace Device

/-- No recording, no stream, no group and no DHCP server. -/
structure Quiet (d : Device ρ γ) : Prop where
  recording : d.recording.state = .idle
  preview : d.streaming.appStreamServer.serving = none
  platform : d.streaming.platformStreams = ∅
  group : d.wifi.group = none
  dhcp : d.dhcp.pid = none

/-- The device after a disconnect, against the one before: the session is cleared, everything is
stopped, and the recorder was stopped once if it was held and not at all otherwise. -/
structure TornDown [IContinuousRecorder ρ] (before after : Device ρ γ) : Prop where
  quiet : after.Quiet
  session : after.session = {}
  recorder : after.recording.recorder =
    if before.recording.state = .idle then before.recording.recorder
    else (IContinuousRecorder.stop before.recording.recorder).1

section
variable [IContinuousRecorder ρ]

theorem finalizeRecording_recorder (p : Ports γ) (d : Device ρ γ) :
    (SessionCleanup.finalizeRecording p d).recording.recorder =
      if d.recording.state = .idle then d.recording.recorder
      else (IContinuousRecorder.stop d.recording.recorder).1 := by
  unfold SessionCleanup.finalizeRecording RecordingService.stop
  split <;> rfl

/-- A disconnect outside Idle stops and clears everything. -/
theorem disconnect_tornDown (p : Ports γ) {d : Device ρ γ} (inStep : d.streaming.InStep)
    (awake : d.session.phase ≠ .idle) : d.TornDown (d.disconnect p) := by
  rw [disconnect_eq, if_neg awake]
  have preview := SessionCleanup.stopStreaming_serving (SessionCleanup.finalizeRecording p d)
  have platform : (SessionCleanup.stopStreaming (SessionCleanup.finalizeRecording p d)).streaming.platformStreams = ∅ :=
    (StreamingService.stopAll_empty (StreamingService.stopAppStream_inStep inStep)).1
  exact
    { quiet := ⟨RecordingService.stop_state _ _, preview, platform, rfl, rfl⟩
      session := rfl
      recorder := finalizeRecording_recorder p d }

/-- From then on the streams are in step as well: there are none. -/
theorem disconnect_inStep (p : Ports γ) {d : Device ρ γ} (inStep : d.streaming.InStep) :
    (d.disconnect p).streaming.InStep := by
  rw [disconnect_eq]
  split
  · exact inStep
  · exact (StreamingService.foldl_stop_mem _ 0 (StreamingService.stopAppStream_inStep inStep)).1

end

variable [IContinuousRecorder ρ] [IPlatformStreamer γ]

theorem command_inStep (p : Ports γ) (cmd : Command) {d : Device ρ γ} (h : d.streaming.InStep) :
    (d.command p cmd).streaming.InStep := by
  have move := command_streaming p cmd d
  generalize (d.command p cmd).streaming = after at move
  generalize cmd.payload = payload at move
  cases move with
  | stay => exact h
  | preview config => exact StreamingService.startAppStream_inStep config p.attaches h
  | start msg destination => exact StreamingService.startPlatformStream_inStep _ p.made p.accepts h
  | stop => exact StreamingService.stopPlatformStream_inStep _ h

theorem step_inStep (d : Device ρ γ) (e : DeviceEvent γ) (h : d.streaming.InStep) : (d.step e).streaming.InStep := by
  cases e with
  | connect => exact h
  | disconnect p => exact disconnect_inStep p h
  | command p cmd => exact command_inStep p cmd h
  | tick p => exact (tick_touches p d .streaming (by decide)) ▸ h
  | frame f => exact StreamingService.push_inStep f h

/-- A command never puts a session back to Idle. -/
theorem command_awake (p : Ports γ) (cmd : Command) {d : Device ρ γ} (awake : d.session.phase ≠ .idle) :
    (d.command p cmd).session.phase ≠ .idle := by
  have move := command_moves p cmd d
  show (d.command p cmd).stage.phase ≠ .idle
  have before : d.stage.phase ≠ .idle := awake
  generalize (d.command p cmd).stage = b at move
  generalize d.stage = a at move before
  generalize cmd.payload = payload at move
  cases move with
  | stay => exact before
  | recordingStop => by_cases h : a.phase = .recording <;> simp [h, before]
  | _ => simp

end Device

/-! ## The device behind its transport -/

namespace Link

/-- Whatever is active belongs to a session: a central is present exactly while the phase is not
Idle, and in phase Idle the session is clear and the device is quiet. -/
structure Owned (l : Link ρ γ) : Prop where
  present_iff : l.centralPresent = true ↔ l.device.session.phase ≠ .idle
  clear : l.device.session.phase = .idle → l.device.session = {}
  quiet : l.device.session.phase = .idle → l.device.Quiet
  inStep : l.device.streaming.InStep

theorem start_owned (recorder : ρ) : (start (γ := γ) recorder).Owned where
  present_iff := by simp [start, Device.start]
  clear _ := rfl
  quiet _ := ⟨rfl, rfl, rfl, rfl, rfl⟩
  inStep _ := Iff.rfl

variable [IContinuousRecorder ρ] [IPlatformStreamer γ]

/-- In phase Idle the clock does nothing. -/
theorem tick_owned (p : Ports γ) {l : Link ρ γ} (h : l.Owned) : (l.step (.tick p)).Owned := by
  by_cases idle : l.device.session.phase = .idle
  · have same : l.step (.tick p) = l := congrArg (Link.mk l.centralPresent) (tick_unconfigured p (by simp [idle]))
    rwa [same]
  · have phase : (l.step (.tick p)).device.session.phase = l.device.session.phase :=
      congrArg Stage.phase (tick_stage p l.device)
    exact
      { present_iff := h.present_iff.trans (by rw [phase])
        clear := fun now => absurd (phase.symm.trans now) idle
        quiet := fun now => absurd (phase.symm.trans now) idle
        inStep := Device.step_inStep l.device (.tick p) h.inStep }

theorem frame_owned (f : Frame) {l : Link ρ γ} (h : l.Owned) : (l.step (.frame f)).Owned := by
  refine ⟨h.present_iff, h.clear, fun idle => ?_, Device.step_inStep l.device (.frame f) h.inStep⟩
  have quiet := h.quiet idle
  refine ⟨?_, ?_, ?_, quiet.group, quiet.dhcp⟩
  · exact (RecordingService.push_state f l.device.recording).trans quiet.recording
  · exact (congrArg AppStreamPort.serving (StreamingService.push_serving f l.device.streaming)).trans quiet.preview
  · exact StreamingService.push_empty f quiet.platform

/-- The device once a write has surfaced the connect: the session is awake. -/
theorem connected_awake {l : Link ρ γ} (h : l.Owned) :
    ((if l.centralPresent then [] else [.connect] : List (DeviceEvent γ)).foldl Device.step l.device).session.phase ≠
      .idle := by
  split
  case isTrue present => exact h.present_iff.1 present
  case isFalse absent =>
    have idle : l.device.session.phase = .idle := by simpa [h.present_iff] using absent
    simp [Device.step, Device.connect, idle]

theorem write_owned (p : Ports γ) (cmd : Option Command) {l : Link ρ γ} (h : l.Owned) : (l.step (.write p cmd)).Owned := by
  have awake := connected_awake h
  have inStep := Runs.foldl_inv' Device.step_inStep (events l.centralPresent (.write p cmd)) h.inStep
  have after : (l.step (.write p cmd)).device.session.phase ≠ .idle := by
    show (List.foldl Device.step l.device (_ ++ _)).session.phase ≠ .idle
    rw [List.foldl_append]
    cases cmd with
    | none => exact awake
    | some cmd => exact Device.command_awake p cmd awake
  exact ⟨⟨fun _ => after, fun _ => rfl⟩, fun idle => absurd idle after, fun idle => absurd idle after, inStep⟩

/-- The end of a connection tears the device down, also where nobody was connected. -/
theorem stop_tornDown (p : Ports γ) {l : Link ρ γ} (h : l.Owned) : l.device.TornDown (l.step (.stop p)).device := by
  by_cases awake : l.device.session.phase = .idle
  · have absent : l.centralPresent = false := by simpa [awake] using h.present_iff
    have same : (l.step (.stop p)).device = l.device := by simp [step, events, absent]
    rw [same]
    exact ⟨h.quiet awake, h.clear awake, (if_pos (h.quiet awake).recording).symm⟩
  · have stopped : (l.step (.stop p)).device = l.device.disconnect p := by
      simp [step, events, h.present_iff.2 awake, Device.step]
    rw [stopped]
    exact Device.disconnect_tornDown p h.inStep awake

theorem stop_owned (p : Ports γ) {l : Link ρ γ} (h : l.Owned) : (l.step (.stop p)).Owned := by
  have torn := stop_tornDown p h
  exact
    { present_iff := by
        rw [torn.session]
        simp [step, present]
      clear := fun _ => torn.session
      quiet := fun _ => torn.quiet
      inStep := Runs.foldl_inv' Device.step_inStep (events l.centralPresent (.stop p)) h.inStep }

theorem step_owned (l : Link ρ γ) (e : LinkEvent γ) (h : l.Owned) : (l.step e).Owned := by
  cases e with
  | write p cmd => exact write_owned p cmd h
  | stop p => exact stop_owned p h
  | tick p => exact tick_owned p h
  | frame f => exact frame_owned f h

/-- In every state the transport's device reaches, what is active belongs to a session. -/
theorem owned_of_run (recorder : ρ) (es : List (LinkEvent γ)) : (es.foldl step (start recorder)).Owned :=
  Runs.foldl_inv' step_owned es (start_owned recorder)

/-- **Teardown.** In every reachable state an active recorder, stream, group or DHCP server means
that the phase is not Idle, and a disconnect ends with the session cleared and everything
stopped, the recorder once if it was held and not at all otherwise. -/
theorem disconnect_tears_down (recorder : ρ) (es : List (LinkEvent γ)) :
    let l := es.foldl step (start recorder)
    (¬l.device.Quiet → l.device.session.phase ≠ .idle) ∧
      ∀ p, l.device.TornDown (l.step (.stop p)).device ∧ l.device.TornDown (l.device.disconnect p) := by
  have owned := owned_of_run recorder es
  refine ⟨fun active idle => active (owned.quiet idle), fun p => ⟨stop_tornDown p owned, ?_⟩⟩
  by_cases idle : (es.foldl step (start recorder)).device.session.phase = .idle
  · rw [Device.disconnect_eq, if_pos idle]
    exact ⟨owned.quiet idle, owned.clear idle, (if_pos (owned.quiet idle).recording).symm⟩
  · exact Device.disconnect_tornDown p owned.inStep idle

end Link

end SstCam
