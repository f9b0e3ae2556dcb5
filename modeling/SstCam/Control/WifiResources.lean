import SstCam.Control.RecorderPhase

/-!
# The resources of the WiFi Direct group

The group, the DHCP server on it and the preview served over it, against the phase of the
session. In every state the device reaches, WifiReady or later means that group and DHCP are up
and a preview means that the group is up, until one of two commands comes: a StartWifiDirect
that forms a group while DHCP is running, which tears the standing group down again, or a
StopWifiDirect while the preview is served, which does not stop it.
-/

namespace SstCam
set_option autoImplicit false

open Atomic

variable {ρ γ : Type}

namespace Device

/-- A preview is being served. -/
def previewRuns (d : Device ρ γ) : Bool := d.streaming.isAppStreamRunning

/-- From WifiReady on the group and DHCP are up; a preview needs the group. -/
def WifiMatches (d : Device ρ γ) : Prop :=
  (¬d.session.phase < .wifiReady → d.wifi.group.isSome ∧ d.dhcp.pid.isSome) ∧
    (d.previewRuns → d.wifi.group.isSome)

/-- Group, DHCP, preview and phase are as they were. -/
def SameWifi (a b : Device ρ γ) : Prop :=
  b.wifi = a.wifi ∧ b.dhcp = a.dhcp ∧ b.streaming.appStreamServer = a.streaming.appStreamServer ∧
    b.session.phase = a.session.phase

instance (d : Device ρ γ) : Decidable d.WifiMatches := inferInstanceAs (Decidable (_ ∧ _))

instance (a b : Device ρ γ) : Decidable (a.SameWifi b) := inferInstanceAs (Decidable (_ ∧ _))

section
variable [IContinuousRecorder ρ] [IPlatformStreamer γ]

/-- What is asked of a step: the resources match after it, and a StartWifiDirect that answers
ERROR changed none of them. -/
def KeepsWifi (d : Device ρ γ) (e : DeviceEvent γ) : Prop :=
  (d.step e).WifiMatches ∧
    match e with
    | .command p cmd =>
      cmd.payload = some .startWifiDirect → (d.response p cmd).status = .error → d.SameWifi (d.step e)
    | _ => True

instance (d : Device ρ γ) (e : DeviceEvent γ) : Decidable (d.KeepsWifi e) := by
  unfold KeepsWifi
  cases e <;> exact instDecidableAnd

end

/-- The two commands that break the match: a group formed while DHCP runs, and the group
stopped under a preview. -/
def SpoilsWifi (d : Device ρ γ) : DeviceEvent γ → Prop
  | .command p cmd =>
    cmd.payload = some .startWifiDirect ∧ p.group.isSome ∧ d.dhcp.pid.isSome ∨
      cmd.payload = some .stopWifiDirect ∧ d.previewRuns
  | _ => False

/-- The invariant behind the match: group, DHCP and a phase from WifiReady on come and go
together. -/
structure WifiTogether (d : Device ρ γ) : Prop where
  dhcp_iff : d.dhcp.pid.isSome = d.wifi.group.isSome
  phase_iff : d.session.phase < .wifiReady ↔ d.wifi.group = none
  preview : d.previewRuns → d.wifi.group.isSome

theorem WifiTogether.matches {d : Device ρ γ} (h : d.WifiTogether) : d.WifiMatches := by
  refine ⟨fun late => ?_, h.preview⟩
  have up : d.wifi.group.isSome := Option.isSome_iff_ne_none.2 fun no => late (h.phase_iff.2 no)
  exact ⟨up, h.dhcp_iff.trans up⟩

/-- The invariant is about the four resources alone. -/
theorem WifiTogether.of_same {a b : Device ρ γ} (h : a.WifiTogether) (wifi : b.wifi = a.wifi) (dhcp : b.dhcp = a.dhcp)
    (preview : b.streaming.appStreamServer = a.streaming.appStreamServer)
    (phase : b.session.phase < .wifiReady ↔ a.session.phase < .wifiReady) : b.WifiTogether where
  dhcp_iff := by rw [wifi, dhcp, h.dhcp_iff]
  phase_iff := by rw [phase, wifi, h.phase_iff]
  preview := by
    unfold previewRuns StreamingService.isAppStreamRunning
    rw [wifi, preview]
    exact h.preview

theorem start_wifiTogether (recorder : ρ) : (start (γ := γ) recorder).WifiTogether where
  dhcp_iff := rfl
  phase_iff := by simp [start]
  preview := by simp [start, previewRuns, StreamingService.isAppStreamRunning, IAppStreamServer.isRunning]

end Device

/-- Only the WiFi commands move the phase across WifiReady. -/
theorem Moves.wifiReady_iff {payload : Option CommandPayload} {a b : Stage} (move : Moves payload a b)
    (start : payload ≠ some .startWifiDirect) (stop : payload ≠ some .stopWifiDirect) :
    b.phase < .wifiReady ↔ a.phase < .wifiReady := by
  cases move with
  | stay => exact Iff.rfl
  | groupUp => exact absurd rfl start
  | groupDown => exact absurd rfl stop
  | configured | overlayReady | recordingStart => simp
  | recordingStop => by_cases h : a.phase = .recording <;> simp [h]

/-! ## Steps -/

namespace Device

theorem disconnect_wifiTogether [IContinuousRecorder ρ] (p : Ports γ) {d : Device ρ γ} (h : d.WifiTogether) :
    (d.disconnect p).WifiTogether := by
  rw [disconnect_eq]
  split
  · exact h
  · exact
      { dhcp_iff := rfl
        phase_iff := by simp [SessionCleanup.teardownWifiDirect, WpaWifiManager.stop]
        preview := fun runs => absurd runs (by
          simp [previewRuns, StreamingService.isAppStreamRunning, IAppStreamServer.isRunning,
            SessionCleanup.teardownWifiDirect, SessionCleanup.stopStreaming_serving]) }

/-- A StartWifiDirect that forms no group while DHCP runs keeps the invariant, and answers ERROR
only where it changed nothing. -/
theorem wifiStart_keeps (p : Ports γ) {d : Device ρ γ} (h : d.WifiTogether)
    (fair : ¬(p.group.isSome ∧ d.dhcp.pid.isSome)) :
    ((WifiDirectHandler.handleStart p).exec d).1.WifiTogether ∧
      (((WifiDirectHandler.handleStart p).exec d).2.status = .error →
        d.SameWifi ((WifiDirectHandler.handleStart p).exec d).1) := by
  have started := wifiStarted p d
  generalize (WifiDirectHandler.handleStart p).exec d = run at started
  -- Where a group was formed, DHCP was down, and with it the group.
  have down : ∀ group, p.group = some group → d.dhcp.pid = none ∧ d.wifi = {} := by
    intro group formed
    have noDhcp : d.dhcp.pid = none := by simpa [formed] using fair
    have noGroup : d.wifi.group = none := by simpa [noDhcp] using h.dhcp_iff.symm
    exact ⟨noDhcp, congrArg WpaWifiManager.mk noGroup⟩
  cases started with
  | notFormed => exact ⟨h, fun _ => ⟨rfl, rfl, rfl, rfl⟩⟩
  | noDhcp group formed refused =>
    obtain ⟨noDhcp, wifi⟩ := down group formed
    have dhcp : (DnsmasqDhcpServer.start group.groupInterface p.dhcpLaunched d.dhcp).1 = d.dhcp := by
      have off := DnsmasqDhcpServer.start_stopped group.groupInterface p.dhcpLaunched noDhcp
      rw [refused, Option.isSome_eq_false_iff, Option.isNone_iff_eq_none] at off
      exact congrArg DnsmasqDhcpServer.mk (off.trans noDhcp.symm)
    have same : { d with wifi := {}, dhcp := (DnsmasqDhcpServer.start group.groupInterface p.dhcpLaunched d.dhcp).1 } =
        d := by rw [dhcp, ← wifi]
    exact same.symm ▸ ⟨h, fun _ => ⟨rfl, rfl, rfl, rfl⟩⟩
  | notReady group formed serving idle =>
    obtain ⟨noDhcp, wifi⟩ := down group formed
    have dhcp : d.dhcp = {} := congrArg DnsmasqDhcpServer.mk noDhcp
    have same : { d with wifi := {}, dhcp := {} } = d := by rw [← wifi, ← dhcp]
    exact same.symm ▸ ⟨h, fun _ => ⟨rfl, rfl, rfl, rfl⟩⟩
  | up group formed serving awake =>
    have runs := DnsmasqDhcpServer.start_stopped group.groupInterface p.dhcpLaunched (down group formed).1
    refine ⟨⟨runs.trans serving, ?_, fun _ => rfl⟩, fun bad => ?_⟩
    · by_cases connected : d.session.phase = .connected <;> simp [connected, awake]
    · simp [WifiDirectHandler.groupResponse] at bad

/-- Stopping the group without a preview keeps the invariant. -/
theorem wifiStop_keeps {d : Device ρ γ} (noPreview : ¬d.previewRuns) :
    (WifiDirectHandler.handleStop.exec d).1.WifiTogether := by
  rw [wifiStop_exec]
  refine ⟨rfl, ?_, fun runs => absurd runs noPreview⟩
  by_cases idle : d.session.phase = .idle <;> simp [idle]

variable [IContinuousRecorder ρ] [IPlatformStreamer γ]

/-- Only a StartWifiDirect touches the preview. -/
theorem command_preview (p : Ports γ) (cmd : Command) (d : Device ρ γ)
    (start : cmd.payload ≠ some .startWifiDirect) :
    (d.command p cmd).streaming.appStreamServer = d.streaming.appStreamServer := by
  have move := command_streaming p cmd d
  generalize (d.command p cmd).streaming = after at move
  generalize cmd.payload = payload at move start
  cases move with
  | stay => rfl
  | preview => exact absurd rfl start
  | start | stop => simp

/-- Only the WiFi commands touch the group and DHCP. -/
theorem command_wifi (p : Ports γ) (cmd : Command) (d : Device ρ γ)
    (start : cmd.payload ≠ some .startWifiDirect) (stop : cmd.payload ≠ some .stopWifiDirect) :
    (d.command p cmd).wifi = d.wifi ∧ (d.command p cmd).dhcp = d.dhcp := by
  have touched := command_touches p cmd d
  have away : Part.wifi ∉ cmd.parts ∧ Part.dhcp ∉ cmd.parts := by
    unfold Command.parts
    cases h : cmd.payload with
    | none => simp
    | some payload => cases payload <;> simp_all [CommandPayload.parts]
  exact ⟨touched .wifi away.1, touched .dhcp away.2⟩

theorem wifiTogether_step (d : Device ρ γ) (e : DeviceEvent γ) (h : d.WifiTogether) (fair : ¬d.SpoilsWifi e) :
    (d.step e).WifiTogether := by
  cases e with
  | connect =>
    refine h.of_same rfl rfl rfl ?_
    by_cases idle : d.session.phase = .idle <;> simp [step, connect, idle]
  | disconnect p => exact disconnect_wifiTogether p h
  | tick p =>
    have touched := tick_touches p d
    have phase : (d.tick p).session.phase = d.session.phase := congrArg Stage.phase (tick_stage p d)
    exact h.of_same (touched .wifi (by decide)) (touched .dhcp (by decide))
      (congrArg _ (touched .streaming (by decide))) (by rw [step, phase])
  | frame f => exact h.of_same rfl rfl (StreamingService.push_serving f d.streaming) Iff.rfl
  | command p cmd =>
    by_cases start : cmd.payload = some .startWifiDirect
    · rw [step, command_eq p cmd d start]
      exact (wifiStart_keeps p h fun both => fair (.inl ⟨start, both⟩)).1
    · by_cases stop : cmd.payload = some .stopWifiDirect
      · rw [step, command_eq p cmd d stop]
        exact wifiStop_keeps fun runs => fair (.inr ⟨stop, runs⟩)
      · obtain ⟨wifi, dhcp⟩ := command_wifi p cmd d start stop
        exact h.of_same wifi dhcp (command_preview p cmd d start) ((command_moves p cmd d).wifiReady_iff start stop)

/-- From the invariant, a step keeps the resources matched exactly when it is not one of the two
that spoil them. -/
theorem keepsWifi_iff (d : Device ρ γ) (e : DeviceEvent γ) (h : d.WifiTogether) :
    d.KeepsWifi e ↔ ¬d.SpoilsWifi e := by
  refine ⟨fun keeps spoils => ?_, fun fair => ⟨(wifiTogether_step d e h fair).matches, ?_⟩⟩
  · cases e with
    | command p cmd =>
      rcases spoils with ⟨start, formed, running⟩ | ⟨stop, runs⟩
      · -- The running DHCP server refuses, and the handler takes the standing group down.
        obtain ⟨group, formed⟩ := Option.isSome_iff_exists.1 formed
        have started := wifiStarted p d
        have refused : (DnsmasqDhcpServer.start group.groupInterface p.dhcpLaunched d.dhcp).2 = false := by
          rw [DnsmasqDhcpServer.start_running _ _ running]
        have same := keeps.2 start
        rw [response_eq p cmd d start, step, command_eq p cmd d start] at same
        change ((WifiDirectHandler.handleStart p).exec d).2.status = .error →
          d.SameWifi ((WifiDirectHandler.handleStart p).exec d).1 at same
        generalize (WifiDirectHandler.handleStart p).exec d = run at started same
        have up : d.wifi.group.isSome := h.dhcp_iff.symm.trans running
        cases started with
        | notFormed no => simp [no] at formed
        | noDhcp => simp [← (same rfl).1] at up
        | notReady other formed' serving => simp_all
        | up other formed' serving => simp_all
      · -- The group goes and the preview stays.
        have after := keeps.1.2
        rw [step, command_eq p cmd d stop] at after
        change (WifiDirectHandler.handleStop.exec d).1.previewRuns → _ at after
        rw [wifiStop_exec] at after
        exact absurd (after runs) (by simp [handlerFor, wifiStop_exec])
    | _ => exact spoils
  · cases e with
    | command p cmd =>
      intro start
      rw [response_eq p cmd d start, step, command_eq p cmd d start]
      exact (wifiStart_keeps p h fun both => fair (.inl ⟨start, both⟩)).2
    | _ => trivial

/-- **WiFi resources.** Along every run group, DHCP, preview and phase match and a failing
StartWifiDirect changes none of them, provided no step is one of the two that spoil them; and
only then. -/
theorem wifi_matches_along_iff (recorder : ρ) (es : List (DeviceEvent γ)) :
    Runs.Along step KeepsWifi (start recorder) es ↔
      Runs.Along step (fun d e => ¬d.SpoilsWifi e) (start recorder) es :=
  Runs.along_iff keepsWifi_iff wifiTogether_step (start_wifiTogether recorder) es

/-- A second StartWifiDirect that forms a group answers ERROR and takes the first group down. -/
theorem wifi_lost_on_restart :
    ¬∀ es : List (DeviceEvent StreamerPort), Runs.Along step KeepsWifi (start ({} : RecorderPort)) es := by
  intro all
  have run := all (readySession ++ [.command fieldPorts { payload := some .startWifiDirect }])
  exact absurd run (by decide)

end Device

end SstCam
