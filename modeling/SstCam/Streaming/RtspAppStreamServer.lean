import SstCam.Lib.Ledger
import SstCam.Streaming.StreamingService

/-!
# GstRtspAppStreamServer

The preview server (`adapters/streaming/gst_rtsp`) with its threads: a caller in `Start` or `Stop`,
the thread of the main loop, the framework's threads that configure a client's media, and pushes.
Each locked section is one step. The streaming service makes its calls one at a time.
-/

namespace SstCam
set_option autoImplicit false

/-- An object of the server, by the start it belongs to, or a client's source. -/
inductive RtspObject where
  | context (start : Nat)
  | loop (start : Nat)
  | server (start : Nat)
  | appsrc (media : Nat)
  deriving DecidableEq, Repr

/-- The thread of the main loop: `spawned` before it runs the loop, `left` behind it. -/
inductive LoopThread where
  | none
  | spawned
  | looping
  | left
  | ended
  deriving DecidableEq, Repr

/-- Where a caller stands: joining the loop's thread, or before the second section of `Stop`. -/
inductive RtspCaller where
  | idle
  | join
  | release
  deriving DecidableEq, Repr

/-- The server's members, a pointer by the object's number; what the last `Start` returned; whether
the loop runs; the sources that pushes in flight hold. `terminated` is an assignment to a joinable
thread, `dangling` a use of the loop or its context by a thread that outlives them. -/
structure RtspServer where
  config : AppStreamConfig := {}
  running : Bool := false
  context : Option Nat := none
  loop : Option Nat := none
  server : Option Nat := none
  attached : Bool := false
  thread : LoopThread := .none
  loopRunning : Bool := false
  appsrc : Option Nat := none
  caller : RtspCaller := .idle
  answer : Bool := false
  inFlight : List Nat := []
  refs : Ledger RtspObject := {}
  starts : Nat := 0
  medias : Nat := 0
  terminated : Bool := false
  dangling : Bool := false

namespace RtspServer

/-- `g_object_unref` and its kin on the three objects of a start. -/
def release (u : RtspServer) : RtspServer :=
  let u := match u.server with
    | some n => { u with refs := u.refs.give (.server n), server := none }
    | none => u
  let u := match u.loop with
    | some n => { u with refs := u.refs.give (.loop n), loop := none }
    | none => u
  match u.context with
  | some n => { u with refs := u.refs.give (.context n), context := none }
  | none => u

/-- The objects of a start. -/
def allocate (u : RtspServer) : RtspServer :=
  let n := u.starts + 1
  { u with
    starts := n
    context := some n
    loop := some n
    server := some n
    refs := ((u.refs.take (.context n)).take (.loop n)).take (.server n) }

/-- `Start`; `attaches` is whether the server attaches to the context. -/
def start (config : AppStreamConfig) (attaches : Bool) (u : RtspServer) : RtspServer :=
  if u.running then { u with answer := true }
  else if !attaches then { { u with config }.allocate.release with attached := false, answer := false }
  else
    { { u with config }.allocate with
      attached := true
      running := true
      thread := .spawned
      terminated := u.terminated || decide (u.thread ≠ .none)
      answer := true }

/-- The first section of `Stop`. A loop that does not run yet is not told to quit. -/
def stop (u : RtspServer) : RtspServer :=
  if !u.running then u
  else
    let u := match u.appsrc with
      | some media => { u with refs := u.refs.give (.appsrc media), appsrc := none }
      | none => u
    { u with
      loopRunning := if u.loop.isSome && u.loopRunning then false else u.loopRunning
      running := false
      caller := .join }

def callerStep (u : RtspServer) : RtspServer :=
  match u.caller with
  | .idle => u
  | .join =>
    match u.thread with
    | .none => { u with caller := .release }
    | .ended => { u with thread := .none, caller := .release }
    | _ => u
  | .release =>
    { u.release with
      attached := if u.context.isSome then false else u.attached
      caller := .idle }

/-- A step of the loop's thread; `g_main_loop_run` sets the loop running and returns once it is not. -/
def loopStep (u : RtspServer) : RtspServer :=
  let u := match u.thread with
    | .spawned | .looping | .left => { u with dangling := u.dangling || u.context.isNone || u.loop.isNone }
    | _ => u
  match u.thread with
  | .spawned => { u with thread := .looping, loopRunning := true }
  | .looping => if u.loopRunning then u else { u with thread := .left }
  | .left => { u with thread := .ended }
  | .none | .ended => u

/-- `OnMediaConfigure` for a client's media, in which `found` is whether the source is there. -/
def mediaConfigure (found : Bool) (u : RtspServer) : RtspServer :=
  if !found then u
  else
    let media := u.medias + 1
    let u := { u with medias := media, refs := u.refs.take (.appsrc media) }
    let u := match u.appsrc with
      | some old => { u with refs := u.refs.give (.appsrc old) }
      | none => u
    { u with appsrc := some media }

/-- `Push` up to the reference it takes. -/
def pushBegin (u : RtspServer) : RtspServer :=
  match u.appsrc with
  | some media =>
    if !u.running then u else { u with refs := u.refs.take (.appsrc media), inFlight := media :: u.inFlight }
  | none => u

def pushEnd (media : Nat) (u : RtspServer) : RtspServer :=
  if media ∈ u.inFlight then
    { u with refs := u.refs.give (.appsrc media), inFlight := u.inFlight.erase media }
  else u

inductive Event where
  | start (config : AppStreamConfig) (attaches : Bool)
  | stop
  | caller
  | loop
  | mediaConfigure (found : Bool)
  | pushBegin
  | pushEnd (media : Nat)
  deriving DecidableEq, Repr

def step (u : RtspServer) : Event → RtspServer
  | .start config attaches => if u.caller = .idle then u.start config attaches else u
  | .stop => if u.caller = .idle then u.stop else u
  | .caller => u.callerStep
  | .loop => u.loopStep
  | .mediaConfigure found => u.mediaConfigure found
  | .pushBegin => u.pushBegin
  | .pushEnd media => u.pushEnd media

/-- The references to sources: the server's pointer, and the pushes in flight. -/
def sources (u : RtspServer) : List RtspObject :=
  u.appsrc.toList.map .appsrc ++ u.inFlight.map .appsrc

/-- The references that the server's pointers and the pushes in flight own. -/
def owners (u : RtspServer) : List RtspObject :=
  u.context.toList.map .context ++ u.loop.toList.map .loop ++ u.server.toList.map .server ++ u.sources

end RtspServer

end SstCam
