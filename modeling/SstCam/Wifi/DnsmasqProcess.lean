import SstCam.Control.Device
import SstCam.Lib.Port

/-!
# DnsmasqDhcpServer

The child process behind the DHCP server (`adapters/control/wifi/wpa_supplicant/dnsmasq-dhcp-server.cpp`), with the
kernel's table of processes. A child keeps its pid, also when it has exited, until it is waited for; a pid that
is free is given out again. The server's calls do not overlap; between the system calls of one, any
process may exit and those of others come and go.
-/

namespace SstCam
set_option autoImplicit false

/-- Whose child a process is. -/
inductive Parent where
  | server
  | other
  deriving DecidableEq, Repr

structure Process where
  parent : Parent
  exited : Bool := false
  deriving DecidableEq, Repr

/-- Where the server is: in no call, behind the `fork` of a start, or before the `kill` or the `waitpid` of a
stop. -/
inductive DhcpCall where
  | idle
  | forked (groupInterface : String) (pid : Nat)
  | kill
  | wait
  deriving DecidableEq, Repr

structure DnsmasqProcess where
  pid : Option Nat := none
  processes : Nat → Option Process := fun _ => none
  call : DhcpCall := .idle
  /-- What the last start returned. -/
  answer : Bool := false
  /-- A signal went to a process that is not the server's child. -/
  astray : Bool := false

namespace DnsmasqProcess

def put (pid : Nat) (process : Option Process) (u : DnsmasqProcess) : DnsmasqProcess :=
  { u with processes := fun p => if p = pid then process else u.processes p }

/-- The pid that `fork` gives: none where it fails, and no pid that is taken. -/
def fork (given : Option Nat) (u : DnsmasqProcess) : Option Nat := given.filter fun pid => (u.processes pid).isNone

/-- `Start`, until the child is there. -/
def start (groupInterface : String) (given : Option Nat) (u : DnsmasqProcess) : DnsmasqProcess :=
  if u.pid.isSome then { u with answer := false }
  else if groupInterface = "" then { u with answer := false }
  else
    match u.fork given with
    | none => { u with answer := false }
    | some pid => { u.put pid (some { parent := .server }) with call := .forked groupInterface pid }

/-- `Stop`, until it sends the signal. -/
def stop (u : DnsmasqProcess) : DnsmasqProcess := if u.pid.isNone then u else { u with call := .kill }

/-- A child of the server, and whether it has exited: what `waitpid` asks. -/
def waitable (pid : Nat) (u : DnsmasqProcess) : Option Bool :=
  match u.processes pid with
  | some { parent := .server, exited } => some exited
  | _ => none

/-- The rest of a call. The `waitpid` of a stop waits for its child to exit; one of a pid that is no
child returns at once. -/
def callStep (u : DnsmasqProcess) : DnsmasqProcess :=
  match u.call with
  | .idle => u
  | .forked _ pid =>
    if u.waitable pid = some true then { u.put pid none with pid := none, call := .idle, answer := false }
    else { u with pid := some pid, call := .idle, answer := true }
  | .kill => { u with astray := u.astray || (u.pid.bind u.waitable).isNone, call := .wait }
  | .wait =>
    match u.pid with
    | none => { u with call := .idle }
    | some pid =>
      match u.waitable pid with
      | some false => u
      | some true => { u.put pid none with pid := none, call := .idle }
      | none => { u with pid := none, call := .idle }

inductive Event where
  | start (groupInterface : String) (given : Option Nat)
  | stop
  | call
  | exit (pid : Nat)
  | spawn (pid : Nat)
  | reap (pid : Nat)
  deriving DecidableEq, Repr

/-- A process exits by itself or by a signal. The processes of others are waited for by others. -/
def step (u : DnsmasqProcess) : Event → DnsmasqProcess
  | .start groupInterface given => if u.call = .idle then u.start groupInterface given else u
  | .stop => if u.call = .idle then u.stop else u
  | .call => u.callStep
  | .exit pid =>
    match u.processes pid with
    | some process => u.put pid (some { process with exited := true })
    | none => u
  | .spawn pid => if (u.processes pid).isNone then u.put pid (some { parent := .other }) else u
  | .reap pid => if u.processes pid = some { parent := .other, exited := true } then u.put pid none else u

/-! ## The child -/

/-- The child that the server has to wait for. -/
def child (u : DnsmasqProcess) : Option Nat :=
  match u.call with
  | .forked _ pid => some pid
  | _ => u.pid

/-- The children of the server are the one that it has to wait for. -/
structure Held (u : DnsmasqProcess) : Prop where
  children : ∀ pid, (u.waitable pid).isSome ↔ u.child = some pid
  fresh : ∀ groupInterface pid, u.call = .forked groupInterface pid → u.pid = none ∧ groupInterface ≠ ""
  stopping : u.call = .kill ∨ u.call = .wait → u.pid.isSome
  sound : u.astray = false

theorem held_new : Held {} := by
  constructor <;> simp [waitable, child]

variable {u : DnsmasqProcess}

theorem waitable_put (pid p : Nat) (process : Option Process) :
    (u.put pid process).waitable p =
      if p = pid then (match process with | some { parent := .server, exited } => some exited | _ => none)
      else u.waitable p := by
  unfold waitable put
  by_cases same : p = pid <;> simp [same]

theorem Held.start (h : u.Held) (idle : u.call = .idle) (groupInterface : String) (given : Option Nat) :
    (u.start groupInterface given).Held := by
  obtain ⟨children, fresh, stopping, sound⟩ := h
  unfold DnsmasqProcess.start
  split
  case isTrue => exact ⟨children, fresh, stopping, sound⟩
  case isFalse down =>
    split
    case isTrue => exact ⟨children, fresh, stopping, sound⟩
    case isFalse named =>
      have none : u.pid = none := by simpa using down
      split
      case h_1 => exact ⟨children, fresh, stopping, sound⟩
      case h_2 pid forked =>
        refine ⟨fun p => ?_, ?_, nofun, sound⟩
        case refine_2 =>
          rintro _ _ ⟨⟩
          exact ⟨none, named⟩
        have others := children p
        rw [child, idle, none] at others
        show ((u.put pid (some { parent := .server })).waitable p).isSome ↔ some pid = some p
        rw [waitable_put]
        grind

theorem Held.callStep (h : u.Held) : u.callStep.Held := by
  obtain ⟨children, fresh, stopping, sound⟩ := h
  unfold DnsmasqProcess.callStep
  unfold child at children
  cases at_ : u.call with
  | idle =>
    simp only [at_] at children
    exact ⟨by simpa [child, at_] using children, fresh, stopping, sound⟩
  | forked groupInterface pid =>
    simp only [at_] at children
    dsimp only
    split
    case isTrue exited =>
      refine ⟨fun p => ?_, nofun, nofun, sound⟩
      have others := children p
      show ((u.put pid none).waitable p).isSome ↔ none = some p
      rw [waitable_put]
      grind
    case isFalse => exact ⟨children, nofun, nofun, sound⟩
  | kill =>
    simp only [at_] at children
    obtain ⟨pid, running⟩ := Option.isSome_iff_exists.1 (stopping (.inl at_))
    have mine := (children pid).2 running
    refine ⟨children, nofun, fun _ => stopping (.inl at_), ?_⟩
    simp [sound, running, mine]
  | wait =>
    simp only [at_] at children
    obtain ⟨pid, running⟩ := Option.isSome_iff_exists.1 (stopping (.inr at_))
    have mine := (children pid).2 running
    rw [running]
    dsimp only
    split
    case h_1 => exact ⟨by simpa [child, at_] using children, fresh, stopping, sound⟩
    case h_2 =>
      refine ⟨fun p => ?_, nofun, nofun, sound⟩
      have others := children p
      show ((u.put pid none).waitable p).isSome ↔ none = some p
      rw [waitable_put]
      grind
    case h_3 stranger =>
      rw [stranger] at mine
      cases mine

/-- What happens to the processes leaves the server's children what they are. -/
theorem Held.frame (h : u.Held) {pid : Nat} {process : Option Process}
    (same : ((u.put pid process).waitable pid).isSome = (u.waitable pid).isSome) : (u.put pid process).Held := by
  obtain ⟨children, fresh, stopping, sound⟩ := h
  refine ⟨fun p => ?_, fresh, stopping, sound⟩
  refine Iff.trans ?_ (children p)
  by_cases here : p = pid
  · rw [here, same]
  · rw [waitable_put, if_neg here]

theorem Held.step (h : u.Held) (e : Event) : (u.step e).Held := by
  cases e with
  | start groupInterface given =>
    simp only [DnsmasqProcess.step]
    split
    case isTrue idle => exact h.start idle groupInterface given
    case isFalse => exact h
  | stop =>
    simp only [DnsmasqProcess.step, DnsmasqProcess.stop]
    split
    case isTrue idle =>
      split
      case isTrue => exact h
      case isFalse up =>
        have children := h.children
        unfold child at children
        rw [idle] at children
        exact ⟨children, nofun, fun _ => Option.isSome_iff_ne_none.2 (by simpa using up), h.sound⟩
    case isFalse => exact h
  | call => exact h.callStep
  | exit pid =>
    simp only [DnsmasqProcess.step]
    split
    case h_1 process there =>
      refine h.frame ?_
      rw [waitable_put, if_pos rfl, waitable, there]
      rcases process with ⟨_ | _, _⟩ <;> rfl
    case h_2 => exact h
  | spawn pid =>
    simp only [DnsmasqProcess.step]
    split
    case isTrue free =>
      refine h.frame ?_
      rw [waitable_put, if_pos rfl, waitable, Option.isNone_iff_eq_none.1 free]
    case isFalse => exact h
  | reap pid =>
    simp only [DnsmasqProcess.step]
    split
    case isTrue there =>
      refine h.frame ?_
      rw [waitable_put, if_pos rfl, waitable, there]
    case isFalse => exact h

theorem held_run (es : List Event) : (es.foldl step {}).Held :=
  Runs.foldl_inv' (I := Held) (fun _ e h => h.step e) es held_new

/-- In every interleaving a stop signals the server's own child, also where the child has exited by itself
and pids are given out again; the server has at most one child to wait for, and once a stop has returned,
or a start has failed, none is left behind. -/
theorem signals_own_child (es : List Event) :
    (es.foldl step {}).astray = false ∧
      (∀ pid, ((es.foldl step {}).waitable pid).isSome ↔ (es.foldl step {}).child = some pid) ∧
      ((es.foldl step {}).call = .idle → (es.foldl step {}).pid = none →
        ∀ pid exited, (es.foldl step {}).processes pid ≠ some { parent := .server, exited }) := by
  obtain ⟨children, -, -, sound⟩ := held_run es
  generalize es.foldl step {} = u at children sound ⊢
  refine ⟨sound, children, fun idle down pid exited there => ?_⟩
  have mine := (children pid).1 (by rw [waitable, there]; rfl)
  rw [child, idle, down] at mine
  cases mine

/-! ## The server as its callers see it -/

/-- The server without its calls' steps. -/
def port (u : DnsmasqProcess) : DnsmasqDhcpServer := { pid := u.pid }

/-- A call with what the port takes from outside: the child that was alive at the check. -/
inductive Call where
  | start (groupInterface : String) (launched : Option Nat)
  | stop
  deriving DecidableEq, Repr

def Call.apply (d : DnsmasqDhcpServer) : Call → DnsmasqDhcpServer
  | .start groupInterface launched => (d.start groupInterface launched).1
  | .stop => d.stop

/-- What the port answers: a start its result, a stop whether a child is left. -/
def Call.answer (d : DnsmasqDhcpServer) : Call → Bool
  | .start groupInterface launched => (d.start groupInterface launched).2
  | .stop => d.stop.pid.isSome

/-- The call that an event makes return. -/
def returned (u : DnsmasqProcess) : Event → Option Call
  | .start groupInterface given =>
    if u.call = .idle ∧ (u.pid.isSome ∨ groupInterface = "" ∨ u.fork given = none) then some (.start groupInterface none)
    else none
  | .stop => if u.call = .idle ∧ u.pid = none then some .stop else none
  | .call =>
    match u.call with
    | .forked groupInterface pid => some (.start groupInterface (if u.waitable pid = some true then none else some pid))
    | .wait => if u.pid.bind u.waitable = some false then none else some .stop
    | _ => none
  | _ => none

/-- What the server answers. -/
def answered (u : DnsmasqProcess) : Call → Bool
  | .start .. => u.answer
  | .stop => u.pid.isSome

/-- An event makes a call of the port return, or callers cannot tell it. -/
theorem port_step (h : u.Held) (e : Event) :
    (u.step e).port = (u.returned e).elim u.port (Call.apply u.port) ∧
      ∀ c, u.returned e = some c → answered (u.step e) c = Call.answer u.port c := by
  cases e with
  | start groupInterface given =>
    by_cases idle : u.call = .idle
    · simp only [DnsmasqProcess.step, returned, idle, ↓reduceIte, true_and, DnsmasqProcess.start]
      cases up : u.pid with
      | some pid => simp [port, up, Call.apply, Call.answer, answered, DnsmasqDhcpServer.start]
      | none =>
        by_cases unnamed : groupInterface = ""
        · simp [port, up, unnamed, Call.apply, Call.answer, answered, DnsmasqDhcpServer.start]
        · cases forked : u.fork given with
          | none => simp [port, up, unnamed, Call.apply, Call.answer, answered, DnsmasqDhcpServer.start]
          | some pid => simp [port, up, unnamed, put]
    · simp [DnsmasqProcess.step, returned, idle]
  | stop =>
    by_cases idle : u.call = .idle
    · cases up : u.pid <;>
        simp [DnsmasqProcess.step, returned, idle, DnsmasqProcess.stop, up, port, Call.apply, Call.answer, answered,
          DnsmasqDhcpServer.stop]
    · simp [DnsmasqProcess.step, returned, idle]
  | call =>
    simp only [DnsmasqProcess.step, DnsmasqProcess.callStep, returned]
    cases at_ : u.call with
    | idle | kill => simp [port]
    | forked groupInterface pid =>
      obtain ⟨down, named⟩ := h.fresh groupInterface pid at_
      by_cases exited : u.waitable pid = some true <;>
        simp [exited, port, down, named, put, Call.apply, Call.answer, answered, DnsmasqDhcpServer.start]
    | wait =>
      obtain ⟨pid, running⟩ := Option.isSome_iff_exists.1 (h.stopping (.inr at_))
      simp only [running, Option.bind_some]
      cases mine : u.waitable pid with
      | none => simp [port, Call.apply, Call.answer, answered, DnsmasqDhcpServer.stop]
      | some exited =>
        cases exited <;> simp [running, put, port, Call.apply, Call.answer, answered, DnsmasqDhcpServer.stop]
  | exit pid =>
    simp only [DnsmasqProcess.step, returned]
    split <;> simp [port, put]
  | spawn pid | reap pid =>
    simp only [DnsmasqProcess.step, returned]
    split <;> simp [port, put]

/-- In every interleaving the calls return what the port returns, and leave the server with the child that the
port has: one that exits by itself is not noticed before the next stop. -/
theorem process_refines (es : List Event) :
    (es.foldl step {}).port = ((Runs.answers step returned answered {} es).map Prod.fst).foldl Call.apply {} ∧
      Runs.answers step returned answered {} es =
        Runs.portAnswers Call.apply Call.answer {} ((Runs.answers step returned answered {} es).map Prod.fst) := by
  have refinement : Runs.Refinement step returned answered Call.apply Call.answer port Held :=
    { keeps := fun u e h => h.step e
      port_step := fun u e h => (port_step h e).1
      answers_step := fun u e h => (port_step h e).2 }
  exact refinement.run held_new es

end DnsmasqProcess

end SstCam
