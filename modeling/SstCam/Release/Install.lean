import SstCam.Lib.Runs

/-!
# Updates in place

The script that updates the binary on the device (`deploy/install.sh`), command by command: each event is
what the command at hand does, or the service going down and systemd bringing it up again. A run may be
cut off anywhere. The temporary copy is on the file system of the binary, so that `mv` is a rename.
-/

namespace SstCam
set_option autoImplicit false

namespace Install

structure Binary where
  bytes : List UInt8
  executable : Bool
  deriving DecidableEq, Repr

/-- `chmod +x`. -/
def Binary.runnable (binary : Binary) : Binary := { binary with executable := true }

/-- `INSTALL_PATH`, `BACKUP_PATH`, and the service: the image it runs, if it is active, and whether it
is meant to run. -/
structure Host where
  installed : Option Binary := none
  backup : Option Binary := none
  service : Option (List UInt8) := none
  wanted : Bool := false
  deriving DecidableEq, Repr

/-- The command that comes next. -/
inductive Stage where
  /-- All up to the validated download. -/
  | fetch
  | compare
  | stop
  /-- `cp -p` of the binary to its backup. -/
  | backup
  /-- `mv -f` of the new binary. -/
  | swap
  | chmod
  | start
  | verify (startFailed : Bool)
  /-- `mv -f` of the backup. -/
  | restore
  | restoreChmod
  | restart
  deriving DecidableEq, Repr

inductive Ending where
  | exited (status : Nat)
  | killed
  deriving DecidableEq, Repr

structure Update where
  stage : Stage := .fetch
  /-- What was downloaded. -/
  asset : List UInt8 := []
  host : Host
  /-- The warning that the service was not stopped. -/
  warned : Bool := false
  ended : Option Ending := none
  deriving DecidableEq, Repr

inductive Event where
  /-- The download is there, and what `file` says of it. -/
  | fetched (bytes : List UInt8) (isElf : Bool)
  | succeeded
  | failed
  /-- A copy that failed: how much of it there is, and its mode, if it was begun. -/
  | cut (copied : Option (Nat × Bool))
  /-- The script is killed; a copy may be under way. -/
  | killed (copied : Option (Nat × Bool))
  | down
  /-- systemd starts what it is meant to run. -/
  | up
  deriving DecidableEq, Repr

namespace Update

variable {δ : Type} [DecidableEq δ] (sha256 : List UInt8 → δ)

def exit (status : Nat) (u : Update) : Update := { u with ended := some (.exited status) }

/-- `systemctl start` of a service that is not active; of one that is it does nothing. -/
def launch (host : Host) : Host :=
  { host with
    wanted := true
    service := if host.service = none then host.installed.map Binary.bytes else host.service }

/-- What is left of the copy to the backup. -/
def partialCopy (copied : Option (Nat × Bool)) (host : Host) : Host :=
  match copied, host.installed with
  | some (n, executable), some binary => { host with backup := some { bytes := binary.bytes.take n, executable } }
  | _, _ => host

/-- The command at hand succeeds. -/
def succeed (u : Update) : Update :=
  match u.stage with
  | .fetch => u
  | .compare =>
    match u.host.installed with
    | some binary => if sha256 u.asset = sha256 binary.bytes then u.exit 0 else { u with stage := .stop }
    | none => { u with stage := .stop }
  | .stop => { u with stage := .backup, host := { u.host with service := none, wanted := false } }
  | .backup =>
    { u with
      stage := .swap
      host := if u.host.installed = none then u.host else { u.host with backup := u.host.installed } }
  | .swap =>
    { u with stage := .chmod, host := { u.host with installed := some { bytes := u.asset, executable := true } } }
  | .chmod =>
    { u with
      stage := .start
      host := { u.host with installed := u.host.installed.map Binary.runnable } }
  | .start => { u with stage := .verify false, host := launch u.host }
  | .verify startFailed =>
    if startFailed = false ∧ u.host.service ≠ none then u.exit 0 else { u with stage := .restore }
  | .restore =>
    match u.host.backup with
    | none => u.exit 1
    | some backup => { u with stage := .restoreChmod, host := { u.host with installed := some backup, backup := none } }
  | .restoreChmod =>
    { u with
      stage := .restart
      host := { u.host with installed := u.host.installed.map Binary.runnable } }
  | .restart => { u with host := launch u.host }.exit 1

/-- The command at hand fails; `set -e` ends the script, but for the commands that are guarded. -/
def fail (u : Update) : Update :=
  match u.stage with
  | .stop => { u with stage := .backup, warned := true }
  | .start => { u with stage := .verify true, host := { u.host with wanted := true } }
  | .verify _ => { u with stage := .restore }
  | .restart => { u with host := { u.host with wanted := true } }.exit 1
  | _ => u.exit 1

/-- What an event does to a script that is running. -/
def act (u : Update) : Event → Update
  | .fetched bytes isElf =>
    if u.stage = .fetch then
      if bytes = [] ∨ isElf = false then u.exit 1 else { u with stage := .compare, asset := bytes }
    else u
  | .succeeded => succeed sha256 u
  | .failed => fail u
  | .cut copied => if u.stage = .backup then { u with host := partialCopy copied u.host }.exit 1 else u
  | .killed copied =>
    { u with
      host := if u.stage = .backup then partialCopy copied u.host else u.host
      ended := some .killed }
  | .down => { u with host := { u.host with service := none } }
  | .up => if u.host.wanted then { u with host := launch u.host } else u

/-- The service goes up and down also after the script. -/
def step (u : Update) (event : Event) : Update :=
  if u.ended ≠ none ∧ event ≠ .down ∧ event ≠ .up then u else act sha256 u event

/-- A run of the script on a host. -/
def run (host : Host) (events : List Event) : Update := events.foldl (step sha256) { host }

/-- Runs one after the other, each of them up to its last event. -/
def runs (host : Host) (updates : List (List Event)) : Host :=
  updates.foldl (fun host events => (run sha256 host events).host) host

/-! ## What is in place at each command -/

variable {before : Host} {u : Update} {event : Event}

/-- What a backup holds once it is made: the binary that was in place, or else a backup that was there. -/
def saved (before : Host) : Option Binary := before.installed.or before.backup

/-- The files at each command, of a run from this host. Only a backup that was cut off is anything else. -/
def Held (before : Host) (u : Update) : Prop :=
  match u.stage with
  | .fetch | .compare | .stop => u.host.installed = before.installed ∧ u.host.backup = before.backup
  | .backup => u.host.installed = before.installed ∧ (u.ended = none → u.host.backup = before.backup)
  | .swap => u.host.installed = before.installed ∧ u.host.backup = saved before
  | .chmod | .start | .verify _ | .restore => u.host.installed = some ⟨u.asset, true⟩ ∧ u.host.backup = saved before
  | .restoreChmod => u.host.installed = saved before ∧ u.host.backup = none
  | .restart => u.host.installed = (saved before).map Binary.runnable ∧ u.host.backup = none

/-- The image that the service runs, unless it was not stopped. -/
def Serves (u : Update) : Prop :=
  match u.stage with
  | .fetch | .compare | .stop => True
  | .backup | .swap | .chmod | .start => u.host.service = none ∧ u.host.wanted = false
  | .verify _ | .restore => u.host.service = none ∨ u.host.service = some u.asset
  | .restoreChmod | .restart =>
    u.host.service = none ∨ u.host.service = some u.asset ∨ u.host.service = u.host.installed.map Binary.bytes

theorem partialCopy_installed (copied : Option (Nat × Bool)) (host : Host) :
    (partialCopy copied host).installed = host.installed := by
  unfold partialCopy
  split <;> rfl

theorem Held.succeed (h : Held before u) (running : u.ended = none) : Held before (succeed sha256 u) := by
  cases stage : u.stage <;> simp only [Held, stage] at h <;> simp only [Update.succeed, stage]
  case fetch => simpa only [Held, stage] using h
  case compare =>
    split
    · split
      · simpa only [Held, Update.exit, stage] using h
      · exact h
    · exact h
  case stop => exact ⟨h.1, fun _ => h.2⟩
  case backup =>
    obtain ⟨installed, backup⟩ := h
    split
    case isTrue none => exact ⟨installed, by simp [saved, ← installed, none, backup running]⟩
    case isFalse some =>
      refine ⟨installed, ?_⟩
      rw [saved, ← installed]
      cases held : u.host.installed with
      | none => exact absurd held some
      | some binary => rfl
  case swap => exact ⟨rfl, h.2⟩
  case chmod => exact ⟨by simp [h.1, Binary.runnable], h.2⟩
  case start => exact h
  case verify =>
    split
    · simpa only [Held, Update.exit, stage] using h
    · exact h
  case restore =>
    split
    case h_1 none => simpa only [Held, Update.exit, stage] using h
    case h_2 backup some => exact ⟨some.symm.trans h.2, rfl⟩
  case restoreChmod => exact ⟨congrArg (Option.map Binary.runnable) h.1, h.2⟩
  case restart => simpa only [Held, Update.exit, launch, stage] using h

theorem Held.fail (h : Held before u) : Held before (fail u) := by
  cases stage : u.stage <;> simp only [Held, stage] at h <;> simp only [Update.fail, Update.exit, stage, Held]
  case backup => exact ⟨h.1, nofun⟩
  case stop => exact ⟨h.1, fun _ => h.2⟩
  all_goals exact h

theorem Held.cutOff (h : Held before u) (copied : Option (Nat × Bool)) (ending : Ending) :
    Held before
      { u with host := if u.stage = .backup then partialCopy copied u.host else u.host, ended := some ending } := by
  cases stage : u.stage <;> simp only [Held, stage] at h <;> simp only [Held]
  case backup =>
    rw [if_pos trivial, partialCopy_installed]
    exact ⟨h.1, nofun⟩
  all_goals simpa using h

/-- A step keeps to what is in place at each command. -/
theorem Held.step (h : Held before u) (event : Event) : Held before (step sha256 u event) := by
  have unmoved : ∀ host : Host, host.installed = u.host.installed → host.backup = u.host.backup →
      Held before { u with host := host } := by
    intro host installed backup
    simp only [Held, installed, backup]
    exact h
  unfold Update.step
  split
  case isTrue => exact h
  case isFalse going =>
    unfold act
    cases event with
    | fetched bytes isElf =>
      simp only
      split
      case isTrue fetching =>
        simp only [Held, fetching] at h
        split
        · simpa only [Held, Update.exit, fetching] using h
        · exact h
      case isFalse => exact h
    | succeeded => exact h.succeed sha256 (by simpa using going)
    | failed => exact h.fail
    | cut copied =>
      simp only
      split
      case isTrue copying =>
        have cut := h.cutOff copied (.exited 1)
        rw [if_pos copying] at cut
        exact cut
      case isFalse => exact h
    | killed copied => exact h.cutOff copied .killed
    | down => exact unmoved _ rfl rfl
    | up =>
      simp only
      split
      · exact unmoved _ rfl rfl
      · exact h

theorem held_run (host : Host) (events : List Event) : Held host (run sha256 host events) := by
  have start : Held host { host } := ⟨rfl, rfl⟩
  have keep : ∀ u event, Held host u → Held host (step sha256 u event) := fun _ event h => h.step sha256 event
  exact Runs.foldl_inv' keep events start

theorem succeed_warned : (succeed sha256 u).warned = u.warned := by
  unfold Update.succeed
  split
  case h_2 =>
    split
    · split <;> rfl
    · rfl
  case h_8 => split <;> rfl
  case h_9 => split <;> rfl
  all_goals rfl

theorem Serves.succeed (h : Serves u) (held : Held before u) : Serves (succeed sha256 u) := by
  cases stage : u.stage <;> simp only [Held, stage] at held <;> simp only [Serves, stage] at h <;>
    simp only [Update.succeed, stage]
  case fetch => simp only [Serves, stage]
  case compare =>
    split
    · split
      · simp only [Serves, Update.exit, stage]
      · trivial
    · trivial
  case stop => exact ⟨rfl, rfl⟩
  case backup =>
    split
    · exact h
    · exact h
  case swap => exact h
  case chmod => exact h
  case start => exact .inr (by simp [launch, h.1, held.1])
  case verify =>
    split
    · simpa only [Serves, Update.exit, stage] using h
    · exact h
  case restore =>
    split
    · simpa only [Serves, Update.exit, stage] using h
    · exact h.imp_right .inl
  case restoreChmod =>
    refine h.imp_right (Or.imp_right fun image => image.trans ?_)
    cases u.host.installed <;> rfl
  case restart =>
    simp only [Serves, Update.exit, launch]
    split
    · exact .inr (.inr rfl)
    · exact h

theorem Serves.up (h : Serves u) (held : Held before u) :
    Serves (if u.host.wanted then { u with host := launch u.host } else u) := by
  split
  case isFalse => exact h
  case isTrue wanted =>
    cases stage : u.stage <;> simp only [Held, stage] at held <;> simp only [Serves, stage] at h <;>
      simp only [Serves, launch]
    case backup | swap | chmod | start => simp [h.2] at wanted
    case verify | restore =>
      split
      · exact .inr (by simp [held.1])
      · exact h
    case restoreChmod | restart =>
      split
      · exact .inr (.inr rfl)
      · exact h

theorem Serves.down (h : Serves u) : Serves { u with host := { u.host with service := none } } := by
  cases stage : u.stage <;> simp only [Serves, stage] at h <;> simp only [Serves]
  case backup | swap | chmod | start => exact ⟨trivial, h.2⟩
  case verify | restore | restoreChmod | restart => exact .inl trivial

/-- The image depends on the stage and on what the service has to do with. -/
theorem Serves.congr {v : Update} (h : Serves u) (stage : v.stage = u.stage) (asset : v.asset = u.asset)
    (installed : v.host.installed = u.host.installed) (service : v.host.service = u.host.service)
    (wanted : u.host.wanted = false → v.host.wanted = false) : Serves v := by
  unfold Serves at h ⊢
  rw [stage, asset, installed, service]
  revert h
  split
  case h_4 | h_5 | h_6 | h_7 => exact fun h => ⟨h.1, wanted h.2⟩
  all_goals exact id

theorem Serves.fail (h : u.warned = false → Serves u) : (fail u).warned = false → Serves (fail u) := by
  unfold Update.fail
  split
  case h_1 => exact nofun
  case h_2 stage =>
    intro quiet
    have now := h quiet
    simp only [Serves, stage] at now
    exact .inl now.1
  case h_3 stage =>
    intro quiet
    have now := h quiet
    simp only [Serves, stage] at now
    exact now
  case h_4 stage =>
    intro quiet
    have now := h quiet
    simp only [Serves, stage] at now
    simpa only [Serves, Update.exit, stage] using now
  case h_5 => exact fun quiet => (h quiet).congr rfl rfl rfl rfl id

theorem partialCopy_service (copied : Option (Nat × Bool)) (host : Host) :
    (partialCopy copied host).service = host.service ∧ (partialCopy copied host).wanted = host.wanted := by
  unfold partialCopy
  split <;> exact ⟨rfl, rfl⟩

/-- A step keeps to what the service may run, unless it was not stopped. -/
theorem serves_step (h : u.warned = false → Serves u) (held : Held before u) (event : Event) :
    (step sha256 u event).warned = false → Serves (step sha256 u event) := by
  unfold Update.step
  split
  case isTrue => exact h
  case isFalse =>
    cases event with
    | fetched bytes isElf =>
      unfold act
      simp only
      split
      · split
        · exact fun quiet => (h quiet).congr rfl rfl rfl rfl id
        · exact fun _ => trivial
      · exact h
    | succeeded =>
      intro quiet
      rw [act, succeed_warned] at quiet
      exact (h quiet).succeed sha256 held
    | failed => exact Serves.fail h
    | cut copied =>
      unfold act
      simp only
      obtain ⟨service, wanted⟩ := partialCopy_service copied u.host
      split
      · exact fun quiet =>
          (h quiet).congr rfl rfl (partialCopy_installed copied u.host) service fun idle => wanted.trans idle
      · exact h
    | killed copied =>
      unfold act
      simp only
      obtain ⟨service, wanted⟩ := partialCopy_service copied u.host
      split
      · exact fun quiet =>
          (h quiet).congr rfl rfl (partialCopy_installed copied u.host) service fun idle => wanted.trans idle
      · exact fun quiet => (h quiet).congr rfl rfl rfl rfl id
    | down => exact fun quiet => (h quiet).down
    | up =>
      intro quiet
      have same : (if u.host.wanted then { u with host := launch u.host } else u).warned = u.warned := by split <;> rfl
      exact (h (same.symm.trans quiet)).up held

theorem serves_run (host : Host) (events : List Event) :
    (run sha256 host events).warned = false → Serves (run sha256 host events) := by
  have keep : ∀ u event, (Held host u ∧ (u.warned = false → Serves u)) →
      Held host (step sha256 u event) ∧ ((step sha256 u event).warned = false → Serves (step sha256 u event)) :=
    fun _ event h => ⟨h.1.step sha256 event, serves_step sha256 h.2 h.1 event⟩
  have start : Held host { host } ∧ (({ host } : Update).warned = false → Serves { host }) := ⟨⟨rfl, rfl⟩, fun _ => trivial⟩
  exact (Runs.foldl_inv' keep events start).2

/-! ## Runs -/

/-- Past the download the asset is one that was downloaded, not empty and an ELF file for the device. -/
def Fetched (events : List Event) (u : Update) : Prop :=
  u.stage ≠ .fetch → u.asset ≠ [] ∧ Event.fetched u.asset true ∈ events

theorem succeed_asset : (succeed sha256 u).asset = u.asset := by
  unfold Update.succeed
  split
  case h_2 =>
    split
    · split <;> rfl
    · rfl
  case h_8 => split <;> rfl
  case h_9 => split <;> rfl
  all_goals rfl

theorem fail_asset : (fail u).asset = u.asset := by
  unfold Update.fail
  split <;> rfl

theorem Fetched.congr {events : List Event} {v : Update} (h : Fetched events u) (asset : v.asset = u.asset)
    (stage : u.stage = .fetch → v.stage = .fetch) : Fetched events v := by
  intro moved
  rw [asset]
  exact h fun first => moved (stage first)

theorem Fetched.step {events : List Event} (h : Fetched events u) (mem : event ∈ events) :
    Fetched events (step sha256 u event) := by
  unfold Update.step
  split
  case isTrue => exact h
  case isFalse =>
    cases event with
    | fetched bytes isElf =>
      unfold act
      simp only
      split
      · split
        case isTrue => exact h.congr rfl id
        case isFalse passes =>
          rw [not_or, Bool.not_eq_false] at passes
          exact fun _ => ⟨passes.1, passes.2 ▸ mem⟩
      · exact h
    | succeeded => exact h.congr (succeed_asset sha256) fun first => by simp [act, Update.succeed, first]
    | failed => exact h.congr fail_asset fun first => by simp [act, Update.fail, Update.exit, first]
    | cut copied =>
      unfold act
      simp only
      split
      · exact h.congr rfl id
      · exact h
    | killed copied => exact h.congr rfl id
    | down => exact h.congr rfl id
    | up =>
      unfold act
      simp only
      split
      · exact h.congr rfl id
      · exact h

theorem fetched_run (host : Host) (events : List Event) : Fetched events (run sha256 host events) := by
  have keep : ∀ u event, Fetched events u → event ∈ events → Fetched events (Update.step sha256 u event) :=
    fun _ event h mem => h.step sha256 mem
  have start : Fetched events { host } := fun moved => absurd rfl moved
  exact Runs.foldl_inv keep start (Runs.along_of_forall fun event mem => mem)

/-- After any part of a run there is a binary in place, and it is the one before or the one downloaded. -/
theorem run_installed {host : Host} {f : Binary} (there : host.installed = some f) (runnable : f.executable = true)
    (events : List Event) :
    ∃ g, (run sha256 host events).host.installed = some g ∧ g.executable = true ∧
      (g = f ∨ g.bytes ≠ [] ∧ Event.fetched g.bytes true ∈ events) := by
  have same : f.runnable = f := by rw [Binary.runnable, ← runnable]
  have held := held_run sha256 host events
  have fetched := fetched_run sha256 host events
  generalize run sha256 host events = u at held fetched ⊢
  have kept : u.host.installed = some f → ∃ g, u.host.installed = some g ∧ g.executable = true ∧
      (g = f ∨ g.bytes ≠ [] ∧ Event.fetched g.bytes true ∈ events) := fun old => ⟨f, old, runnable, .inl rfl⟩
  cases stage : u.stage <;> simp only [Held, stage, there, saved, Option.some_or, Option.map_some, same] at held
  case fetch | compare | stop | backup | swap | restoreChmod | restart => exact kept held.1
  case chmod | start | verify | restore => exact ⟨_, held.1, rfl, .inr (fetched (by simp [stage]))⟩

/-- **No update leaves a broken binary.** Where a binary is in place, there is one after any updates, each
of them cut off anywhere and any of its commands failing: the first one, or one that was downloaded. -/
theorem updates_intact {host : Host} {f : Binary} (there : host.installed = some f) (runnable : f.executable = true)
    (updates : List (List Event)) :
    ∃ g, (runs sha256 host updates).installed = some g ∧ g.executable = true ∧
      (g = f ∨ ∃ events ∈ updates, g.bytes ≠ [] ∧ Event.fetched g.bytes true ∈ events) := by
  induction updates generalizing host f with
  | nil => exact ⟨f, there, runnable, .inl rfl⟩
  | cons events updates ih =>
    obtain ⟨g, here, able, which⟩ := run_installed sha256 there runnable events
    obtain ⟨last, final, able', which'⟩ := ih here able
    refine ⟨last, final, able', ?_⟩
    rcases which' with rfl | ⟨later, mem, downloaded⟩
    · exact which.imp_right fun downloaded => ⟨events, List.mem_cons_self, downloaded⟩
    · exact .inr ⟨later, List.mem_cons_of_mem _ mem, downloaded⟩

/-- Where a script ends with 0: the binary is there already, or the service is active. -/
def Completes (u : Update) : Prop :=
  (u.stage = .compare ∧ ∃ binary, u.host.installed = some binary ∧ sha256 u.asset = sha256 binary.bytes) ∨
    u.stage = .verify false ∧ u.host.service ≠ none

/-- Where a script may end with 1. -/
def Aborts (event : Event) (u : Update) : Prop :=
  match u.stage with
  | .start | .verify _ => False
  | .chmod => event = .failed
  | .restore => event = .failed ∨ u.host.backup = none
  | _ => True

theorem succeed_ends {status : Nat} (running : u.ended = none) (ends : (succeed sha256 u).ended = some (.exited status)) :
    (succeed sha256 u).stage = u.stage ∧
      (status = 0 ∧ (succeed sha256 u).host = u.host ∧ (succeed sha256 u).asset = u.asset ∧ Completes sha256 u ∨
        status = 1 ∧ Aborts .succeeded u) := by
  cases stage : u.stage <;> simp only [Update.succeed, stage] at ends ⊢
  case compare =>
    cases there : u.host.installed with
    | none => simp [there, running] at ends
    | some binary =>
      simp only [there] at ends ⊢
      split at ends
      case isTrue same =>
        rw [if_pos same]
        cases ends
        exact ⟨stage, .inl ⟨rfl, rfl, rfl, .inl ⟨stage, binary, there, same⟩⟩⟩
      case isFalse => simp [running] at ends
  case verify =>
    split at ends
    case isTrue up =>
      rw [if_pos up]
      cases ends
      exact ⟨stage, .inl ⟨rfl, rfl, rfl, .inr ⟨up.1 ▸ stage, up.2⟩⟩⟩
    case isFalse => simp [running] at ends
  case restore =>
    cases backup : u.host.backup with
    | none =>
      simp only [backup] at ends ⊢
      cases ends
      exact ⟨stage, .inr ⟨rfl, by simp [Aborts, stage, backup]⟩⟩
    | some binary => simp [backup, running] at ends
  case restart =>
    cases ends
    exact ⟨rfl, .inr ⟨rfl, by simp [Aborts, stage]⟩⟩
  all_goals simp [running] at ends

theorem fail_ends {status : Nat} (running : u.ended = none) (ends : (fail u).ended = some (.exited status)) :
    (fail u).stage = u.stage ∧ status = 1 ∧ Aborts .failed u := by
  cases stage : u.stage <;> simp only [Update.fail, Update.exit, stage, running] at ends ⊢
  case stop | start | verify => cases ends
  all_goals
    cases ends
    exact ⟨trivial, rfl, by simp [Aborts, stage]⟩

/-- How a script ends by itself. -/
theorem step_ends {status : Nat} (running : u.ended = none) (ends : (step sha256 u event).ended = some (.exited status)) :
    (step sha256 u event).stage = u.stage ∧
      (status = 0 ∧ (step sha256 u event).host = u.host ∧ (step sha256 u event).asset = u.asset ∧ Completes sha256 u ∨
        status = 1 ∧ Aborts event u) := by
  have going : ¬ (u.ended ≠ none ∧ event ≠ .down ∧ event ≠ .up) := by simp [running]
  unfold Update.step at ends ⊢
  rw [if_neg going] at ends ⊢
  cases event with
  | fetched bytes isElf =>
    unfold act at ends ⊢
    simp only at ends ⊢
    split at ends
    case isTrue first =>
      split at ends
      case isTrue bad =>
        rw [if_pos first, if_pos bad]
        cases ends
        exact ⟨rfl, .inr ⟨rfl, by simp [Aborts, first]⟩⟩
      case isFalse => simp [running] at ends
    case isFalse => simp [running] at ends
  | succeeded => exact succeed_ends sha256 running ends
  | failed => exact (fail_ends running ends).imp_right .inr
  | cut copied =>
    unfold act at ends ⊢
    simp only at ends ⊢
    split at ends
    case isTrue copying =>
      rw [if_pos copying]
      cases ends
      exact ⟨rfl, .inr ⟨rfl, by simp [Aborts, copying]⟩⟩
    case isFalse => simp [running] at ends
  | killed copied => cases ends
  | down => simp [act, running] at ends
  | up =>
    unfold act at ends
    simp only at ends
    split at ends <;> simp [running] at ends

/-- **What the exit status says.** With 0 the files are as before and match the download, or the download
is in place, the binary before it is the backup, and the service is active; it runs the download unless it
could not be stopped. With 1 the binary from before is in place, unless the script could not make the new
one executable or could not bring the old one back. -/
theorem update_outcome {host : Host} {events : List Event} {event : Event} {status : Nat}
    (running : (run sha256 host events).ended = none)
    (ends : (run sha256 host (events ++ [event])).ended = some (.exited status)) :
    let u := run sha256 host (events ++ [event])
    (status = 0 ∧
        (u.host.installed = host.installed ∧ u.host.backup = host.backup ∧
            (∃ binary, host.installed = some binary ∧ sha256 u.asset = sha256 binary.bytes) ∨
          u.host.installed = some ⟨u.asset, true⟩ ∧ u.host.backup = saved host ∧
            (∃ image, u.host.service = some image ∧ (u.warned = false → image = u.asset)))) ∨
      (status = 1 ∧
        ∀ f : Binary, host.installed = some f → f.executable = true →
          u.host.installed = some f ∨
            u.host.installed = some ⟨u.asset, true⟩ ∧ event = .failed ∧ (u.stage = .chmod ∨ u.stage = .restore)) := by
  have split : run sha256 host (events ++ [event]) = step sha256 (run sha256 host events) event := by
    simp [run, List.foldl_append]
  have held := held_run sha256 host (events ++ [event])
  have served := serves_run sha256 host (events ++ [event])
  have before := held_run sha256 host events
  rw [split] at ends held served ⊢
  obtain ⟨stage, ⟨rfl, same, asset, completes⟩ | ⟨rfl, aborts⟩⟩ := step_ends sha256 running ends
  · refine .inl ⟨rfl, ?_⟩
    rcases completes with ⟨at', binary, there, digest⟩ | ⟨at', active⟩
    · simp only [Held, at'] at before
      rw [same, asset]
      exact .inl ⟨before.1, before.2, binary, before.1.symm.trans there, digest⟩
    · rw [← same] at active
      rw [at'] at stage
      simp only [Held, stage] at held
      simp only [Serves, stage] at served
      obtain ⟨image, runs⟩ := Option.ne_none_iff_exists'.1 active
      refine .inr ⟨held.1, held.2, image, runs, fun quiet => ?_⟩
      rcases served quiet with none | here
      · exact absurd none active
      · exact Option.some.inj (runs.symm.trans here)
  · refine .inr ⟨rfl, fun f there runnable => ?_⟩
    have able : f.runnable = f := by rw [Binary.runnable, ← runnable]
    generalize Update.step sha256 (run sha256 host events) event = u at stage held ⊢
    cases at' : (run sha256 host events).stage <;> rw [at'] at stage <;>
      simp only [Aborts, at'] at aborts <;> simp only [Held, at', there, saved, Option.some_or] at before <;>
      simp only [Held, stage, there, saved, Option.some_or, Option.map_some, able] at held
    case chmod => exact .inr ⟨held.1, aborts, .inl stage⟩
    case restore =>
      rcases aborts with failed | none
      · exact .inr ⟨held.1, failed, .inr stage⟩
      · simp [none] at before
    all_goals exact .inl held.1

/-- Three bytes in place, and the service runs them. -/
def oldHost : Host := { installed := some ⟨[1, 1, 1], true⟩, service := some [1, 1, 1], wanted := true }

/-- The download does not come up, and the binary before is brought back. -/
def rolledBack : List Event :=
  [.fetched [2, 2] true, .succeeded, .succeeded, .succeeded, .succeeded, .succeeded, .succeeded, .down, .succeeded, .succeeded,
    .succeeded]

theorem old_host_intact :
    ∃ g, (runs List.length oldHost
        [rolledBack, [.fetched [2, 2] true, .succeeded, .succeeded, .cut (some (1, true))]]).installed = some g ∧
      g.executable = true ∧
      (g = ⟨[1, 1, 1], true⟩ ∨
        ∃ events ∈ [rolledBack, [.fetched [2, 2] true, .succeeded, .succeeded, .cut (some (1, true))]],
          g.bytes ≠ [] ∧ Event.fetched g.bytes true ∈ events) :=
  updates_intact List.length rfl rfl _

theorem rolled_back_outcome : (run List.length oldHost (rolledBack ++ [.succeeded])).host.installed = some ⟨[1, 1, 1], true⟩ := by
  have running : (run List.length oldHost rolledBack).ended = none := by decide
  have ends : (run List.length oldHost (rolledBack ++ [.succeeded])).ended = some (.exited 1) := by decide
  rcases update_outcome List.length running ends with ⟨zero, -⟩ | ⟨-, which⟩
  · cases zero
  · exact (which ⟨[1, 1, 1], true⟩ rfl rfl).resolve_right fun other => nomatch other.2.1

/-- A service that could not be stopped runs the old image, and the script reports success. -/
example :
    let u := run List.length oldHost
      [.fetched [2, 2] true, .succeeded, .failed, .succeeded, .succeeded, .succeeded, .succeeded, .succeeded]
    u.ended = some (.exited 0) ∧ u.host.installed = some ⟨[2, 2], true⟩ ∧ u.host.service = some [1, 1, 1] := by decide

end Update

end Install

end SstCam
