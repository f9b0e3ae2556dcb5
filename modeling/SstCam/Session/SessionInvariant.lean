import SstCam.Lib.Runs
import SstCam.Session.SessionManager

/-!
# The session invariant

The operations of `ISessionManager`, one after the other, on one manager. A configuration is
there exactly from phase Configured on, and before it the match has its default value; the phase
Recording is entered from Ready only; what is refused changes nothing. `OnDisconnect` runs the
cleanup outside the manager, and whatever a step of it throws, the others and the reset follow.
-/

namespace SstCam
set_option autoImplicit false

/-- What a cleanup step may throw. -/
inductive Thrown where
  | exception (what : String)
  | nonStd
  deriving DecidableEq, Repr

/-- `ISessionCleanup`: steps on the subsystems, each of which may throw on the way. -/
structure ISessionCleanup (κ : Type) where
  finalizeRecording : κ → κ × Option Thrown
  stopStreaming : κ → κ × Option Thrown
  teardownWifiDirect : κ → κ × Option Thrown

namespace SessionManager

variable {κ : Type}

/-- What the cleanup left behind, with the errors it logged, each with its step. -/
structure CleanedUp (κ : Type) where
  subsystems : κ
  errors : List (String × Thrown) := []
  deriving DecidableEq, Repr

/-- Runs a step and catches what it throws. -/
def safe (step : String) (action : κ → κ × Option Thrown) (c : CleanedUp κ) : CleanedUp κ where
  subsystems := (action c.subsystems).1
  errors := c.errors ++ ((action c.subsystems).2.map (step, ·)).toList

def onDisconnect (cleanup : ISessionCleanup κ) (subsystems : κ) (s : SessionState) : SessionState × CleanedUp κ :=
  if s.phase = .idle then (s, { subsystems })
  else
    let cleaned := safe "TeardownWifiDirect" cleanup.teardownWifiDirect
      (safe "StopStreaming" cleanup.stopStreaming
        (safe "FinalizeRecording" cleanup.finalizeRecording { subsystems }))
    ({}, cleaned)

/-- `ApplyMatchUpdate` as it is called: the function may be empty, and is then refused. -/
def applyMatchFunction (mutate : Option (LiveMatch → LiveMatch)) (s : SessionState) : SessionState × Bool :=
  match mutate with
  | none => (s, false)
  | some mutate => applyMatchUpdate mutate s

/-! ## What a transition keeps -/

/-- The joint invariant of phase, configuration and match. -/
structure Consistent (s : SessionState) : Prop where
  config : s.config.isSome = true ↔ ¬ s.phase < .configured
  liveMatch : s.phase < .configured → s.liveMatch = {}

theorem Consistent.start : Consistent {} where
  config := by decide
  liveMatch := fun _ => rfl

/-- A transition that keeps the invariant, enters Recording from Ready only and refuses without
a trace. -/
structure Lawful (transition : SessionState → SessionState × Bool) : Prop where
  consistent : ∀ s, Consistent s → Consistent (transition s).1
  recording : ∀ s, (transition s).1.phase = .recording → s.phase = .recording ∨ s.phase = .ready
  refused : ∀ s, (transition s).2 = false → (transition s).1 = s

theorem onConnect_lawful : Lawful onConnect := by
  constructor
  · intro s h
    unfold onConnect
    split
    · exact h
    case isFalse idle =>
      have idle : s.phase = .idle := by simpa using idle
      have none : s.config = none := by simpa [idle] using h.config
      have blank := h.liveMatch (by simp [idle])
      constructor <;> simp [none, blank]
  · intro s h
    rw [onConnect_phase] at h
    split at h <;> simp_all
  · intro s h
    unfold onConnect at h ⊢
    split at h <;> simp_all

theorem onWifiReady_lawful : Lawful onWifiReady := by
  constructor
  · intro s h
    unfold onWifiReady
    split
    · exact h
    · split
      case isTrue connected =>
        have none : s.config = none := by simpa [connected] using h.config
        have blank := h.liveMatch (by simp [connected])
        constructor <;> simp [none, blank]
      · exact h
  · intro s h
    rw [onWifiReady_phase] at h
    split at h <;> simp_all
  · intro s h
    unfold onWifiReady at h ⊢
    repeat' split at h
    all_goals simp_all

theorem onWifiStopped_lawful : Lawful onWifiStopped := by
  constructor
  · intro s h
    unfold onWifiStopped
    split
    · exact h
    · constructor <;> simp
  · intro s h
    rw [onWifiStopped_phase] at h
    split at h <;> simp_all
  · intro s h
    unfold onWifiStopped at h ⊢
    split at h <;> simp_all

theorem applySessionConfig_lawful (mkdir : String → Bool) (config : SessionConfig) :
    Lawful (applySessionConfig mkdir config) := by
  constructor
  · intro s h
    unfold applySessionConfig
    split
    · exact h
    · split
      · exact h
      case isFalse order _ =>
        constructor
        · by_cases ready : s.phase = .wifiReady <;> simp_all
        · by_cases ready : s.phase = .wifiReady <;> simp_all
  · intro s h
    obtain same | ⟨-, configured⟩ := applySessionConfig_phase mkdir config s
    · exact .inl (same ▸ h)
    · rw [configured] at h
      exact absurd h (by decide)
  · intro s h
    unfold applySessionConfig at h ⊢
    repeat' split at h
    all_goals simp_all

theorem onOverlayConfigured_lawful : Lawful onOverlayConfigured := by
  constructor
  · intro s h
    unfold onOverlayConfigured
    split
    · exact h
    · split
      case isTrue configured =>
        have some : s.config.isSome = true := by simpa [configured] using h.config
        constructor <;> simp [some]
      · exact h
  · intro s h
    obtain same | ⟨-, ready⟩ := onOverlayConfigured_phase s
    · exact .inl (same ▸ h)
    · rw [ready] at h
      exact absurd h (by decide)
  · intro s h
    unfold onOverlayConfigured at h ⊢
    repeat' split at h
    all_goals simp_all

theorem onRecordingStart_lawful : Lawful onRecordingStart := by
  constructor
  · intro s h
    unfold onRecordingStart
    split
    · exact h
    case isFalse ready =>
      have ready : s.phase = .ready := by simpa using ready
      have some : s.config.isSome = true := by simpa [ready] using h.config
      constructor <;> simp [some]
  · intro s h
    rw [onRecordingStart_phase] at h
    split at h <;> simp_all
  · intro s h
    unfold onRecordingStart at h ⊢
    split at h <;> simp_all

theorem onRecordingStop_lawful : Lawful onRecordingStop := by
  constructor
  · intro s h
    unfold onRecordingStop
    split
    · exact h
    case isFalse recording =>
      have recording : s.phase = .recording := by simpa using recording
      have some : s.config.isSome = true := by simpa [recording] using h.config
      constructor <;> simp [some]
  · intro s h
    rw [onRecordingStop_phase] at h
    split at h <;> simp_all
  · intro s h
    unfold onRecordingStop at h ⊢
    split at h <;> simp_all

theorem applyMatchFunction_lawful (mutate : Option (LiveMatch → LiveMatch)) : Lawful (applyMatchFunction mutate) := by
  cases mutate with
  | none => exact ⟨fun _ h => h, fun _ h => .inl h, fun _ _ => rfl⟩
  | some mutate =>
    constructor
    · intro s h
      show Consistent (applyMatchUpdate mutate s).1
      unfold applyMatchUpdate
      split
      · exact h
      case isFalse active => exact ⟨h.config, fun early => absurd early active⟩
    · intro s h
      exact .inl (by simpa [applyMatchFunction] using h)
    · intro s
      show (applyMatchUpdate mutate s).2 = false → (applyMatchUpdate mutate s).1 = s
      unfold applyMatchUpdate
      intro h
      split at h <;> simp_all

/-! ## Runs -/

/-- The manager with the subsystems its cleanup reaches. -/
structure Managed (κ : Type) where
  state : SessionState := {}
  subsystems : κ

/-- An operation, with the outcomes that the file system and the cleanup decide. -/
inductive Operation (κ : Type) where
  | onConnect
  | onWifiReady
  | onWifiStopped
  | applySessionConfig (mkdir : String → Bool) (config : SessionConfig)
  | onOverlayConfigured
  | onRecordingStart
  | onRecordingStop
  | applyMatchUpdate (mutate : Option (LiveMatch → LiveMatch))
  | onDisconnect (cleanup : ISessionCleanup κ)

namespace Managed

def transit (transition : SessionState → SessionState × Bool) (m : Managed κ) : Managed κ × Option Bool :=
  ({ m with state := (transition m.state).1 }, some (transition m.state).2)

/-- What an operation leads to and what it returns; `OnDisconnect` returns nothing. -/
def call (m : Managed κ) : Operation κ → Managed κ × Option Bool
  | .onConnect => m.transit onConnect
  | .onWifiReady => m.transit onWifiReady
  | .onWifiStopped => m.transit onWifiStopped
  | .applySessionConfig mkdir config => m.transit (applySessionConfig mkdir config)
  | .onOverlayConfigured => m.transit onOverlayConfigured
  | .onRecordingStart => m.transit onRecordingStart
  | .onRecordingStop => m.transit onRecordingStop
  | .applyMatchUpdate mutate => m.transit (applyMatchFunction mutate)
  | .onDisconnect cleanup =>
    let cleared := onDisconnect cleanup m.subsystems m.state
    ({ state := cleared.1, subsystems := cleared.2.subsystems }, none)

def step (m : Managed κ) (op : Operation κ) : Managed κ := (m.call op).1

/-- An operation enters Recording from Ready only, and what it refuses leaves no trace. -/
structure Orderly (m : Managed κ) (op : Operation κ) : Prop where
  recording : m.state.phase ≠ .recording → (m.step op).state.phase = .recording → m.state.phase = .ready
  refused : (m.call op).2 = some false → m.step op = m

/-- Every operation but `OnDisconnect` is a lawful transition. -/
theorem call_cases (m : Managed κ) (op : Operation κ) :
    (∃ transition, Lawful transition ∧ m.call op = m.transit transition) ∨ ∃ cleanup, op = .onDisconnect cleanup := by
  cases op with
  | onConnect => exact .inl ⟨_, onConnect_lawful, rfl⟩
  | onWifiReady => exact .inl ⟨_, onWifiReady_lawful, rfl⟩
  | onWifiStopped => exact .inl ⟨_, onWifiStopped_lawful, rfl⟩
  | applySessionConfig mkdir config => exact .inl ⟨_, applySessionConfig_lawful mkdir config, rfl⟩
  | onOverlayConfigured => exact .inl ⟨_, onOverlayConfigured_lawful, rfl⟩
  | onRecordingStart => exact .inl ⟨_, onRecordingStart_lawful, rfl⟩
  | onRecordingStop => exact .inl ⟨_, onRecordingStop_lawful, rfl⟩
  | applyMatchUpdate mutate => exact .inl ⟨_, applyMatchFunction_lawful mutate, rfl⟩
  | onDisconnect cleanup => exact .inr ⟨cleanup, rfl⟩

theorem onDisconnect_state (cleanup : ISessionCleanup κ) (m : Managed κ) :
    (m.step (.onDisconnect cleanup)).state = if m.state.phase = .idle then m.state else {} := by
  simp only [step, call, onDisconnect]
  split <;> rfl

theorem step_consistent (m : Managed κ) (op : Operation κ) (h : Consistent m.state) : Consistent (m.step op).state := by
  obtain ⟨transition, lawful, called⟩ | ⟨cleanup, rfl⟩ := m.call_cases op
  · rw [step, called]
    exact lawful.consistent m.state h
  · rw [onDisconnect_state]
    split
    · exact h
    · exact .start

theorem step_orderly (m : Managed κ) (op : Operation κ) : m.Orderly op := by
  obtain ⟨transition, lawful, called⟩ | ⟨cleanup, rfl⟩ := m.call_cases op
  · constructor
    · intro before after
      rw [step, called] at after
      obtain recording | ready := lawful.recording m.state after
      · exact absurd recording before
      · exact ready
    · intro refused
      rw [called] at refused
      rw [step, called, transit, lawful.refused m.state (Option.some.inj refused)]
  · constructor
    · intro before after
      rw [onDisconnect_state] at after
      split at after
      · exact absurd after before
      · exact absurd after (by decide)
    · intro refused
      exact absurd refused (by simp [call])

/-- **The session machine.** Whatever operations are called, in whatever order and with whatever
outcomes, every state they lead to is consistent, Recording is entered from Ready only, and an
operation that returns false leaves everything as it was. -/
theorem run_consistent (subsystems : κ) (ops : List (Operation κ)) :
    Consistent (ops.foldl step { subsystems }).state ∧ Runs.Along step Orderly { subsystems } ops := by
  constructor
  · exact Runs.foldl_inv' (I := fun m : Managed κ => Consistent m.state) step_consistent ops .start
  · exact Runs.along_of_inv (I := fun _ => True) (fun _ _ _ => trivial) (fun m op _ => step_orderly m op) trivial ops

end Managed

end SessionManager

end SstCam
