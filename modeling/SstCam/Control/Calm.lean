import SstCam.Control.Footprint

/-!
# Calm calls

The calls of the handlers that start nothing and leave an idle session idle and another awake,
so that a disconnect may run beside them. The calls that matter to it are `marked`: the handlers
that make them have their own outlines (`SstCam.Ble.DisconnectRace`).
-/

namespace SstCam
set_option autoImplicit false

open Atomic Device

variable {ρ γ : Type}

/-- The calls that start or stop something, connect, or belong to a disconnect. -/
def Call.marked : Call → Bool
  | .receive | .onConnect | .startRecording | .onRecordingStart | .stopRecording | .startP2pGroupOwner
  | .onWifiReady | .wifiStop | .startAppStream | .startPlatformStream | .takeCentral | .checkPhase
  | .finalizeRecording | .stopStreaming | .teardownWifiDirect | .clearSession => true
  | _ => false

/-- Nothing that was down comes up, and the session is as idle as before. -/
structure Calm (n : Call) (a b : Device ρ γ) : Prop where
  unmarked : n.marked = false
  idle : b.session.phase = .idle ↔ a.session.phase = .idle
  recording : a.recording.state = .idle → b.recording.state = .idle
  preview : a.streaming.appStreamServer.serving = none → b.streaming.appStreamServer.serving = none
  platform : a.streaming.platformStreams = ∅ → b.streaming.platformStreams = ∅
  inStep : a.streaming.InStep → b.streaming.InStep
  group : a.wifi.group = none → b.wifi.group = none

section
variable {name : Call} (unmarked : name.marked = false)
include unmarked

theorem Calm.refl (d : Device ρ γ) : Calm name d d := ⟨unmarked, .rfl, id, id, id, id, id⟩

theorem callSession_calm {α : Type} {f : SessionState → SessionState × α}
    (idle : ∀ s, (f s).1.phase = .idle ↔ s.phase = .idle) :
    (callSession (ρ := ρ) (γ := γ) name f).Within Calm :=
  Prog.within_atomically.2 fun d => ⟨unmarked, idle d.session, id, id, id, id, id⟩

theorem callRecording_calm {α : Type} {f : RecordingService ρ → RecordingService ρ × α}
    (recording : ∀ r, r.state = .idle → (f r).1.state = .idle) : (callRecording (γ := γ) name f).Within Calm :=
  Prog.within_atomically.2 fun d => ⟨unmarked, .rfl, recording d.recording, id, id, id, id⟩

theorem callDhcp_calm {α : Type} {f : DnsmasqDhcpServer → DnsmasqDhcpServer × α} :
    (callDhcp (ρ := ρ) (γ := γ) name f).Within Calm :=
  Prog.within_atomically.2 fun _ => ⟨unmarked, .rfl, id, id, id, id, id⟩

theorem callOverlay_calm {α : Type} {f : OverlayController → OverlayController × α} :
    (callOverlay (ρ := ρ) (γ := γ) name f).Within Calm :=
  Prog.within_atomically.2 fun _ => ⟨unmarked, .rfl, id, id, id, id, id⟩

theorem callUrl_calm {α : Type} {f : String → String × α} : (callUrl (ρ := ρ) (γ := γ) name f).Within Calm :=
  Prog.within_atomically.2 fun _ => ⟨unmarked, .rfl, id, id, id, id, id⟩

theorem callRawCapture_calm {α : Type} {f : RawCaptureSink → RawCaptureSink × α} :
    (callRawCapture (ρ := ρ) (γ := γ) name f).Within Calm :=
  Prog.within_atomically.2 fun _ => ⟨unmarked, .rfl, id, id, id, id, id⟩

end

theorem snapshot_calm : (snapshot (ρ := ρ) (γ := γ)).Within Calm := callSession_calm rfl fun _ => .rfl

/-! ## Calm handlers -/

theorem applyMatchUpdate_calm (mutate : LiveMatch → LiveMatch) :
    (callSession (ρ := ρ) (γ := γ) .applyMatchUpdate (SessionManager.applyMatchUpdate mutate)).Within Calm :=
  callSession_calm rfl fun s => by rw [SessionManager.applyMatchUpdate_phase]

theorem syncOverlay_calm (p : Ports γ) : (MatchHandler.syncOverlay (ρ := ρ) p).Within Calm :=
  snapshot_calm.bind fun _ => (callOverlay_calm rfl).bind fun _ => (callOverlay_calm rfl).bind fun _ => trivial

theorem matchControl_calm (p : Ports γ) (msg : MatchControlCommand) :
    (MatchHandler.handleMatchControl (ρ := ρ) p msg).Within Calm := by
  refine (applyMatchUpdate_calm _).bind fun applied => ?_
  split
  · trivial
  · exact (syncOverlay_calm p).bind fun _ => trivial

theorem scoreUpdate_calm (p : Ports γ) (msg : ScoreUpdateCommand) :
    (MatchHandler.handleScoreUpdate (ρ := ρ) p msg).Within Calm := by
  refine snapshot_calm.bind fun state => ?_
  split
  · trivial
  · dsimp only
    split
    · trivial
    · refine (applyMatchUpdate_calm _).bind fun applied => ?_
      split
      · trivial
      · exact (syncOverlay_calm p).bind fun _ => trivial

theorem sessionHandler_calm (p : Ports γ) (cmd : Command) : (SessionHandler.handle (ρ := ρ) p cmd).Within Calm := by
  refine (callSession_calm rfl fun s => ?_).bind fun _ => trivial
  rcases SessionManager.applySessionConfig_phase p.mkdir (sessionConfigOf cmd.pushSessionConfig) s with
    same | ⟨before, after⟩
  · rw [same]
  · simp [before, after]

theorem overlayHandler_calm (p : Ports γ) (cmd : Command) : (OverlayHandler.handle (ρ := ρ) p cmd).Within Calm := by
  refine (callSession_calm rfl fun s => ?_).bind fun accepted => ?_
  · rcases SessionManager.onOverlayConfigured_phase s with same | ⟨before, after⟩
    · rw [same]
    · simp [before, after]
  · split
    · trivial
    · exact (callOverlay_calm rfl).bind fun _ => snapshot_calm.bind fun _ => (callOverlay_calm rfl).bind fun _ =>
        (callOverlay_calm rfl).bind fun _ => trivial

theorem rawCapture_calm (p : Ports γ) (cmd : Command) : (RawCaptureHandler.handle (ρ := ρ) p cmd).Within Calm := by
  unfold RawCaptureHandler.handle
  split
  · trivial
  · split
    · trivial
    · split
      · trivial
      · exact (callRawCapture_calm rfl).bind fun _ => trivial
  · exact (callRawCapture_calm rfl).bind fun _ => trivial
  · trivial
  · trivial
  · trivial

theorem telemetry_calm (p : Ports γ) : (DeviceHandler.handleTelemetry (ρ := ρ) p).Within Calm :=
  (Prog.within_atomically.2 fun d => .refl rfl d).bind fun _ =>
    (Prog.within_atomically.2 fun d => .refl rfl d).bind fun _ =>
    (Prog.within_atomically.2 fun d => .refl rfl d).bind fun _ => trivial

end SstCam
