import SstCam.Lib.Ledger
import SstCam.Streaming.GstRtmpStreamer

/-!
# The watcher of an RTMP uplink

The threads inside one `GstRtmpStreamer`: a caller in `Start` or `Stop`, the watcher that rebuilds
the pipeline after an uplink error, and pushes. `mtx_` is held from one step to a later one where
the source blocks while it holds it, so that a push can find it taken. References to the framework's
objects are kept in a ledger. The streaming service makes the calls of one streamer one at a time.
-/

namespace SstCam
set_option autoImplicit false

/-- `backoff` and the slices it is slept in, in milliseconds. -/
def kBaseBackoff : Nat := 500

def kMaxBackoff : Nat := 8000

def kBackoffSliceMs : Nat := 100

/-- An object of the media framework, by the build it belongs to. -/
inductive GstObject where
  | pipeline (build : Nat)
  | appsrc (build : Nat)
  | bus (build : Nat)
  deriving DecidableEq, Repr

/-- What `BuildAndPlayLocked` meets. A parse error may come with an element. -/
inductive BuildOutcome where
  | parseError (element : Bool)
  | noPipeline
  | noAppsrc
  | notPlaying
  | playing
  deriving DecidableEq, Repr

inductive UplinkThread where
  | caller
  | watcher
  deriving DecidableEq, Repr

/-- Where the watcher thread stands; `none` before it is spawned and after it is joined. -/
inductive WatcherPc where
  | none
  | test
  | takeBus
  | poll (build : Nat)
  | backOff
  | lock
  | recheck
  | rebuild
  | returned
  deriving DecidableEq, Repr

inductive CallerPc where
  | idle
  | startLock (config : PlatformStreamConfig)
  | startBody (config : PlatformStreamConfig)
  | stopStore
  | join
  | stopLock
  | stopBody
  deriving DecidableEq, Repr

/-- The caller is in a body under the lock. -/
def CallerPc.holds : CallerPc → Bool
  | .startBody _ | .stopBody => true
  | _ => false

/-- A stop has taken the watch away. -/
def CallerPc.stopping : CallerPc → Bool
  | .join | .stopLock | .stopBody => true
  | _ => false

/-- A stop has joined the watcher. -/
def CallerPc.joined : CallerPc → Bool
  | .stopLock | .stopBody => true
  | _ => false

def WatcherPc.holds : WatcherPc → Bool
  | .recheck | .rebuild => true
  | _ => false

/-- A healthy tick, or a rebuild with how long the watcher slept for it. -/
inductive WatchRecord where
  | healthy
  | rebuild (waited : Nat) (played : Bool)
  deriving DecidableEq, Repr

/-- The streamer's members, a framework pointer by the build of its object; then what the last
`Start` returned, `backoff` and `waited` of the watcher, and the sources that pushes in flight hold.
`history` is newest first; `terminated` is an assignment to a joinable thread. -/
structure RtmpUplink where
  config : PlatformStreamConfig := {}
  mutex : Option UplinkThread := none
  running : Bool := false
  watching : Bool := false
  watcher : WatcherPc := .none
  pipeline : Option Nat := none
  appsrc : Option Nat := none
  launch : Option RtmpLaunch := none
  caller : CallerPc := .idle
  answer : Bool := false
  backoff : Nat := kBaseBackoff
  waited : Nat := 0
  inFlight : List Nat := []
  refs : Ledger GstObject := {}
  builds : Nat := 0
  history : List WatchRecord := []
  terminated : Bool := false

namespace RtmpUplink

def teardown (u : RtmpUplink) : RtmpUplink :=
  let u := match u.appsrc with
    | some build => { u with refs := u.refs.give (.appsrc build), appsrc := none }
    | none => u
  match u.pipeline with
  | some build => { u with refs := u.refs.give (.pipeline build), pipeline := none, launch := none }
  | none => u

/-- `gst_parse_launch` returns an element, the caller's to release. -/
def parsed (u : RtmpUplink) : RtmpUplink :=
  { u with
    pipeline := some u.builds
    refs := u.refs.take (.pipeline u.builds)
    launch := some (GstRtmpStreamer.buildLaunch u.config) }

/-- So does `gst_bin_get_by_name`. -/
def withAppsrc (u : RtmpUplink) : RtmpUplink :=
  { u with appsrc := some u.builds, refs := u.refs.take (.appsrc u.builds) }

def buildAndPlayLocked (outcome : BuildOutcome) (u : RtmpUplink) : RtmpUplink × Bool :=
  let u := { u with builds := u.builds + 1 }
  match outcome with
  | .parseError true => (u.parsed.teardown, false)
  | .parseError false => ({ u with pipeline := none, launch := none }.teardown, false)
  | .noPipeline => ({ u with pipeline := none, launch := none }, false)
  | .noAppsrc => ({ u.parsed with appsrc := none }.teardown, false)
  | .notPlaying => (u.parsed.withAppsrc.teardown, false)
  | .playing => (u.parsed.withAppsrc, true)

/-- The body of `Start`, under the lock. -/
def startBody (config : PlatformStreamConfig) (outcome : BuildOutcome) (u : RtmpUplink) : RtmpUplink × Bool :=
  if u.running then (u, true)
  else if config.url = "" ∨ config.streamKey = "" then (u, false)
  else
    let built := { u with config }.buildAndPlayLocked outcome
    if !built.2 then (built.1, false)
    else
      ({ built.1 with
          running := true
          watching := true
          watcher := .test
          backoff := kBaseBackoff
          history := []
          terminated := built.1.terminated || decide (built.1.watcher ≠ .none) }, true)

/-- The body of `Stop`, under the lock; the bus it flushes on is returned before it goes on. -/
def stopBody (u : RtmpUplink) : RtmpUplink :=
  if !u.running then u else { u.teardown with running := false }

def callerStep (outcome : BuildOutcome) (u : RtmpUplink) : RtmpUplink :=
  match u.caller with
  | .idle => u
  | .startLock config =>
    if u.mutex.isSome then u else { u with mutex := some .caller, caller := .startBody config }
  | .startBody config =>
    { (u.startBody config outcome).1 with
      mutex := none
      caller := .idle
      answer := (u.startBody config outcome).2 }
  | .stopStore => { u with watching := false, caller := .join }
  | .join =>
    match u.watcher with
    | .none => { u with caller := .stopLock }
    | .returned => { u with watcher := .none, caller := .stopLock }
    | _ => u
  | .stopLock => if u.mutex.isSome then u else { u with mutex := some .caller, caller := .stopBody }
  | .stopBody => { u.stopBody with mutex := none, caller := .idle }

/-- The rebuild of the watcher, under the lock. -/
def rebuildBody (outcome : BuildOutcome) (u : RtmpUplink) : RtmpUplink :=
  let built := u.teardown.buildAndPlayLocked outcome
  { built.1 with
    backoff := if built.2 then kBaseBackoff else min (built.1.backoff * 2) kMaxBackoff
    history := .rebuild built.1.waited built.2 :: built.1.history }

/-- One step of `WatcherLoop`. `error` is whether the poll of the bus ends with an error message. -/
def watcherStep (error : Bool) (outcome : BuildOutcome) (u : RtmpUplink) : RtmpUplink :=
  match u.watcher with
  | .none | .returned => u
  | .test => { u with watcher := if u.watching then .takeBus else .returned }
  | .takeBus =>
    if u.mutex.isSome then u
    else
      match u.pipeline with
      | some build => { u with refs := u.refs.take (.bus build), watcher := .poll build }
      | none => { u with watcher := .backOff, waited := 0 }
  | .poll build =>
    if error then { u with refs := u.refs.give (.bus build), watcher := .backOff, waited := 0 }
    else
      { u with
        refs := u.refs.give (.bus build)
        watcher := .test
        backoff := kBaseBackoff
        history := .healthy :: u.history }
  | .backOff =>
    if u.watching && decide (u.waited < u.backoff) then { u with waited := u.waited + kBackoffSliceMs }
    else { u with watcher := .lock }
  | .lock => if u.mutex.isSome then u else { u with mutex := some .watcher, watcher := .recheck }
  | .recheck =>
    if !u.watching || !u.running then { u with mutex := none, watcher := .returned }
    else { u with watcher := .rebuild }
  | .rebuild => { u.rebuildBody outcome with mutex := none, watcher := .test }

/-- `Push` up to the reference it takes; `locks` is whether a try of the free mutex succeeds. -/
def pushBegin (locks : Bool) (u : RtmpUplink) : RtmpUplink :=
  match u.appsrc with
  | some build =>
    if u.mutex.isSome || !locks || !u.running then u
    else { u with refs := u.refs.take (.appsrc build), inFlight := build :: u.inFlight }
  | none => u

/-- The end of a push in flight: the reference it took goes back. -/
def pushEnd (build : Nat) (u : RtmpUplink) : RtmpUplink :=
  if build ∈ u.inFlight then
    { u with refs := u.refs.give (.appsrc build), inFlight := u.inFlight.erase build }
  else u

inductive Event where
  | start (config : PlatformStreamConfig)
  | stop
  | caller (outcome : BuildOutcome)
  | watcher (error : Bool) (outcome : BuildOutcome)
  | pushBegin (locks : Bool)
  | pushEnd (build : Nat)

def step (u : RtmpUplink) : Event → RtmpUplink
  | .start config => if u.caller = .idle then { u with caller := .startLock config } else u
  | .stop => if u.caller = .idle then { u with caller := .stopStore } else u
  | .caller outcome => u.callerStep outcome
  | .watcher error outcome => u.watcherStep error outcome
  | .pushBegin locks => u.pushBegin locks
  | .pushEnd build => u.pushEnd build

/-- The references that the poll of the bus and the pushes in flight hold. -/
def borrowed (u : RtmpUplink) : List GstObject :=
  (match u.watcher with | .poll build => [.bus build] | _ => []) ++ u.inFlight.map .appsrc

/-- The references that the streamer's pointers and its threads own. -/
def owners (u : RtmpUplink) : List GstObject :=
  (u.pipeline.toList.map .pipeline ++ u.appsrc.toList.map .appsrc) ++ u.borrowed

end RtmpUplink

end SstCam
