import SstCam.Streaming.RtmpWatcher
import SstCam.Lib.Runs

/-!
# What an uplink owns

The pipeline is replaced by the watcher, taken down by a stop and pushed to in between, so each
object of the framework is reached from several threads. `Scheduled` says where the threads can be
at once, `Accounted` that the references held are exactly those of the pointers, of the poll of the
bus and of the pushes in flight; each needs the other, and every step keeps both.
-/

namespace SstCam
set_option autoImplicit false

namespace RtmpUplink

variable {u : RtmpUplink}

/-! ## The pipeline -/

/-- Neither pointer without the other; the pipeline is the one of the configuration. -/
structure Paired (u : RtmpUplink) : Prop where
  appsrc : u.appsrc = u.pipeline
  launch : u.launch = u.pipeline.map fun _ => GstRtmpStreamer.buildLaunch u.config

/-- The uplink with the pipeline of this build up, or with none, and the ledger. -/
def withPipeline (u : RtmpUplink) (pipeline : Option Nat) (refs : Ledger GstObject) : RtmpUplink :=
  { u with
    pipeline
    appsrc := pipeline
    launch := pipeline.map fun _ => GstRtmpStreamer.buildLaunch u.config
    refs }

/-- The references to the objects of a build. -/
def pointersTo (pipeline : Option Nat) : List GstObject :=
  pipeline.toList.map .pipeline ++ pipeline.toList.map .appsrc

/-- `Teardown` gives the pointers' references back and touches nothing else. -/
theorem Paired.teardown (h : u.Paired) :
    ∃ refs, u.teardown = u.withPipeline none refs ∧
      ∀ rest, u.refs.Balanced (pointersTo u.pipeline ++ rest) → refs.Balanced rest := by
  obtain ⟨appsrc, launch⟩ := h
  cases up : u.pipeline with
  | none =>
    rw [up] at appsrc launch
    refine ⟨u.refs, ?_, fun rest balanced => balanced⟩
    cases u
    simp_all [RtmpUplink.teardown, withPipeline]
  | some build =>
    rw [up] at appsrc
    refine ⟨(u.refs.give (.appsrc build)).give (.pipeline build),
      by simp [RtmpUplink.teardown, withPipeline, appsrc, up], fun rest balanced => ?_⟩
    have swapped : u.refs.Balanced (.appsrc build :: .pipeline build :: rest) :=
      balanced.perm (List.Perm.swap _ _ _)
    exact swapped.give.give

/-- The build that an outcome leaves up. -/
def builtUp (build : Nat) : BuildOutcome → Option Nat
  | .playing => some build
  | _ => none

/-- With no pipeline, `BuildAndPlayLocked` leaves one up exactly when it says so. -/
theorem buildAndPlayLocked_eq (outcome : BuildOutcome) (paired : u.Paired) (down : u.pipeline = none) :
    ∃ refs, u.buildAndPlayLocked outcome =
        ({ u with builds := u.builds + 1 }.withPipeline (builtUp (u.builds + 1) outcome) refs,
          (builtUp (u.builds + 1) outcome).isSome) ∧
      ∀ rest, u.refs.Balanced rest → refs.Balanced (pointersTo (builtUp (u.builds + 1) outcome) ++ rest) := by
  obtain ⟨appsrc, launch⟩ := paired
  rw [down] at appsrc launch
  cases outcome with
  | parseError element =>
    cases element with
    | false =>
      refine ⟨u.refs, ?_, fun rest balanced => balanced⟩
      simp [buildAndPlayLocked, RtmpUplink.teardown, withPipeline, appsrc, builtUp]
    | true =>
      refine ⟨(u.refs.take (.pipeline (u.builds + 1))).give (.pipeline (u.builds + 1)), ?_,
        fun rest balanced => balanced.take.give⟩
      simp [buildAndPlayLocked, parsed, RtmpUplink.teardown, withPipeline, appsrc, builtUp]
  | noPipeline =>
    refine ⟨u.refs, ?_, fun rest balanced => balanced⟩
    simp [buildAndPlayLocked, withPipeline, appsrc, builtUp]
  | noAppsrc =>
    refine ⟨(u.refs.take (.pipeline (u.builds + 1))).give (.pipeline (u.builds + 1)), ?_,
      fun rest balanced => balanced.take.give⟩
    simp [buildAndPlayLocked, parsed, RtmpUplink.teardown, withPipeline, builtUp]
  | notPlaying =>
    refine ⟨(((u.refs.take (.pipeline (u.builds + 1))).take (.appsrc (u.builds + 1))).give
        (.appsrc (u.builds + 1))).give (.pipeline (u.builds + 1)), ?_,
      fun rest balanced => balanced.take.take.give.give⟩
    simp [buildAndPlayLocked, parsed, withAppsrc, RtmpUplink.teardown, withPipeline, builtUp]
  | playing =>
    refine ⟨(u.refs.take (.pipeline (u.builds + 1))).take (.appsrc (u.builds + 1)), ?_,
      fun rest balanced => balanced.take.take.perm (List.Perm.swap _ _ _)⟩
    simp [buildAndPlayLocked, parsed, withAppsrc, withPipeline, builtUp]

/-! ## The threads -/

/-- Where the threads are. The mutex is taken where one is under it; an uplink that does not run has
no pipeline and no watcher, and one that runs has a watcher that watches, unless a stop is under way. -/
structure Scheduled (u : RtmpUplink) : Prop where
  callerHolds : u.mutex = some .caller ↔ u.caller.holds = true
  watcherHolds : u.mutex = some .watcher ↔ u.watcher.holds = true
  down : u.running = false → u.pipeline = none ∧ u.watcher = .none
  attended : u.running = true → u.caller.joined = false → u.watcher ≠ .none
  joined : u.caller.joined = true → u.watcher = .none
  watched : u.running = true → u.caller.stopping = false → u.watching = true
  unwatched : u.caller.stopping = true → u.watching = false
  returned : u.watcher = .returned → u.watching = false

/-- What the threads own: the pointers are of one build, and the references held are exactly theirs. -/
structure Accounted (u : RtmpUplink) : Prop where
  paired : u.Paired
  balanced : u.refs.Balanced u.owners
  unterminated : u.terminated = false

theorem scheduled_new : Scheduled {} := by
  constructor <;> simp [CallerPc.holds, CallerPc.joined, CallerPc.stopping, WatcherPc.holds]

theorem accounted_new : Accounted {} := ⟨⟨rfl, rfl⟩, Ledger.balanced_new, rfl⟩

/-- `Start` turns the call down, fails to play the pipeline, or leaves it up under a fresh watcher. -/
inductive Started (u : RtmpUplink) (config : PlatformStreamConfig) (outcome : BuildOutcome) :
    RtmpUplink × Bool → Prop where
  | already (running : u.running = true) : Started u config outcome (u, true)
  | rejected (stopped : u.running = false) (incomplete : config.url = "" ∨ config.streamKey = "") :
    Started u config outcome (u, false)
  | failed (refs : Ledger GstObject) (stopped : u.running = false)
      (complete : ¬ (config.url = "" ∨ config.streamKey = "")) (silent : outcome ≠ .playing)
      (balanced : ∀ rest, u.refs.Balanced rest → refs.Balanced rest) :
    Started u config outcome (RtmpUplink.withPipeline { u with config, builds := u.builds + 1 } none refs, false)
  | played (refs : Ledger GstObject) (stopped : u.running = false)
      (complete : ¬ (config.url = "" ∨ config.streamKey = "")) (plays : outcome = .playing)
      (balanced : ∀ rest, u.refs.Balanced rest → refs.Balanced (pointersTo (some (u.builds + 1)) ++ rest)) :
    Started u config outcome
      (RtmpUplink.withPipeline
        { u with
          config
          running := true
          watching := true
          watcher := .test
          backoff := kBaseBackoff
          history := []
          builds := u.builds + 1 } (some (u.builds + 1)) refs, true)

theorem startBody_cases (config : PlatformStreamConfig) (outcome : BuildOutcome) (h : u.Accounted) (s : u.Scheduled) :
    Started u config outcome (u.startBody config outcome) := by
  unfold startBody
  split
  case isTrue running => exact .already running
  case isFalse stopped =>
    have off : u.running = false := by simpa using stopped
    split
    case isTrue incomplete => exact .rejected off incomplete
    case isFalse complete =>
      obtain ⟨down, unwatched⟩ := s.down off
      have paired : Paired { u with config } := ⟨h.paired.appsrc, by simpa [down] using h.paired.launch⟩
      obtain ⟨refs, built, balanced⟩ := buildAndPlayLocked_eq outcome paired down
      rw [built]
      cases outcome with
      | playing =>
        have played := Started.played refs off complete rfl balanced
        simpa [builtUp, withPipeline, unwatched, h.unterminated] using played
      | _ => exact .failed refs off complete nofun balanced

/-- `Stop` takes down what is up. -/
theorem stopBody_eq (h : u.Accounted) (s : u.Scheduled) :
    ∃ refs, u.stopBody = { u.withPipeline none refs with running := false } ∧
      ∀ rest, u.refs.Balanced (pointersTo u.pipeline ++ rest) → refs.Balanced rest := by
  unfold stopBody
  split
  case isTrue stopped =>
    have off : u.running = false := by simpa using stopped
    obtain ⟨down, -⟩ := s.down off
    obtain ⟨appsrc, launch⟩ := h.paired
    rw [down] at appsrc launch
    refine ⟨u.refs, ?_, fun rest balanced => by simpa [down, pointersTo] using balanced⟩
    cases u
    simp_all [withPipeline]
  case isFalse =>
    obtain ⟨refs, down, balanced⟩ := h.paired.teardown
    exact ⟨refs, by rw [down], balanced⟩

theorem Scheduled.caller (s : u.Scheduled) (h : u.Accounted) (outcome : BuildOutcome) :
    (u.callerStep outcome).Scheduled := by
  have start := fun config => startBody_cases config outcome h s
  obtain ⟨refs, stopped, -⟩ := stopBody_eq h s
  obtain ⟨callerHolds, watcherHolds, down, attended, joined, watched, unwatched, returned⟩ := s
  unfold callerStep
  split
  case h_3 config pc =>
    have started := start config
    generalize u.startBody config outcome = after at started
    -- no arithmetic in where the threads are, so its solvers are off
    cases started <;> constructor <;>
      grind -ring -linarith -order [CallerPc.holds, CallerPc.joined, CallerPc.stopping, WatcherPc.holds, withPipeline]
  case h_7 pc =>
    rw [stopped]
    constructor <;>
      grind -ring -linarith -order [CallerPc.holds, CallerPc.joined, CallerPc.stopping, WatcherPc.holds, withPipeline]
  all_goals constructor <;> grind -ring -linarith -order [CallerPc.holds, CallerPc.joined, CallerPc.stopping, WatcherPc.holds]

/-- The watcher builds where it has torn down. -/
theorem rebuildBody_eq (outcome : BuildOutcome) (h : u.Accounted) :
    ∃ refs, u.rebuildBody outcome =
        RtmpUplink.withPipeline
          { u with
            builds := u.builds + 1
            backoff := if outcome = .playing then kBaseBackoff else min (u.backoff * 2) kMaxBackoff
            history := .rebuild u.waited (decide (outcome = .playing)) :: u.history }
          (builtUp (u.builds + 1) outcome) refs ∧
      ∀ rest, u.refs.Balanced (pointersTo u.pipeline ++ rest) →
        refs.Balanced (pointersTo (builtUp (u.builds + 1) outcome) ++ rest) := by
  obtain ⟨torn, down, given⟩ := h.paired.teardown
  obtain ⟨refs, built, balanced⟩ :=
    buildAndPlayLocked_eq (u := u.withPipeline none torn) outcome ⟨rfl, rfl⟩ rfl
  refine ⟨refs, ?_, fun rest before => balanced rest (given rest before)⟩
  rw [rebuildBody, down, built]
  cases outcome <;> simp [builtUp, withPipeline]

theorem Scheduled.watcher (s : u.Scheduled) (h : u.Accounted) (error : Bool) (outcome : BuildOutcome) :
    (u.watcherStep error outcome).Scheduled := by
  obtain ⟨refs, rebuilt, -⟩ := rebuildBody_eq outcome h
  obtain ⟨callerHolds, watcherHolds, down, attended, joined, watched, unwatched, returned⟩ := s
  unfold watcherStep
  split
  case h_9 pc =>
    rw [rebuilt]
    constructor <;>
      grind -ring -linarith -order [CallerPc.holds, CallerPc.joined, CallerPc.stopping, WatcherPc.holds, withPipeline]
  all_goals constructor <;> grind -ring -linarith -order [CallerPc.holds, CallerPc.joined, CallerPc.stopping, WatcherPc.holds]

theorem Scheduled.step (s : u.Scheduled) (h : u.Accounted) (e : Event) : (u.step e).Scheduled := by
  cases e with
  | caller outcome => exact s.caller h outcome
  | watcher error outcome => exact s.watcher h error outcome
  | _ =>
    obtain ⟨callerHolds, watcherHolds, down, attended, joined, watched, unwatched, returned⟩ := s
    constructor <;>
      grind [RtmpUplink.step, RtmpUplink.pushBegin, RtmpUplink.pushEnd, CallerPc.holds, CallerPc.joined, CallerPc.stopping]

/-! ## What they own -/

theorem Paired.owners_eq (h : u.Paired) : u.owners = pointersTo u.pipeline ++ u.borrowed := by
  rw [owners, h.appsrc, pointersTo]

/-- A thread that moves on without touching the framework's objects. -/
theorem Accounted.frame (h : u.Accounted) {v : RtmpUplink} (paired : v.Paired) (same : v.pipeline = u.pipeline)
    (ledger : v.refs = u.refs) (borrowed : v.borrowed = u.borrowed) (alive : v.terminated = u.terminated) : v.Accounted where
  paired := paired
  balanced := by
    rw [paired.owners_eq, same, ledger, borrowed, ← h.paired.owners_eq]
    exact h.balanced
  unterminated := alive.trans h.unterminated

/-- A body under the lock that leaves another pipeline behind. -/
theorem Accounted.replace (h : u.Accounted) (v : RtmpUplink) (pipeline : Option Nat) {refs : Ledger GstObject}
    (config : v.terminated = u.terminated) (borrowed : v.borrowed = u.borrowed)
    (balanced : ∀ rest, u.refs.Balanced (pointersTo u.pipeline ++ rest) → refs.Balanced (pointersTo pipeline ++ rest)) :
    (v.withPipeline pipeline refs).Accounted where
  paired := ⟨rfl, rfl⟩
  balanced := by
    have before := h.balanced
    rw [h.paired.owners_eq, ← borrowed] at before
    exact balanced _ before
  unterminated := config.trans h.unterminated

theorem Accounted.caller (h : u.Accounted) (s : u.Scheduled) (outcome : BuildOutcome) :
    (u.callerStep outcome).Accounted := by
  have paired := h.paired
  unfold callerStep
  split
  case h_1 => exact h
  case h_2 config pc =>
    split
    · exact h
    · exact h.frame ⟨paired.appsrc, paired.launch⟩ rfl rfl rfl rfl
  case h_3 config pc =>
    have started := startBody_cases config outcome h s
    generalize u.startBody config outcome = after at started
    cases started with
    | already => exact h.frame ⟨paired.appsrc, paired.launch⟩ rfl rfl rfl rfl
    | rejected => exact h.frame ⟨paired.appsrc, paired.launch⟩ rfl rfl rfl rfl
    | failed refs stopped _ _ balanced =>
      let v : RtmpUplink := { u with config, builds := u.builds + 1, mutex := none, caller := .idle, answer := false }
      have replaced := h.replace v none rfl rfl fun rest => by
        rw [(s.down stopped).1]
        exact balanced rest
      exact replaced
    | played refs stopped _ _ balanced =>
      obtain ⟨down, unwatched⟩ := s.down stopped
      let v : RtmpUplink :=
        { u with
          config
          running := true
          watching := true
          watcher := .test
          backoff := kBaseBackoff
          history := []
          builds := u.builds + 1
          mutex := none
          caller := .idle
          answer := true }
      have replaced := h.replace v (some (u.builds + 1)) rfl (by simp [v, borrowed, unwatched]) fun rest => by
        rw [down]
        exact balanced rest
      exact replaced
  case h_4 => exact h.frame ⟨paired.appsrc, paired.launch⟩ rfl rfl rfl rfl
  case h_5 pc =>
    split
    case h_1 => exact h.frame ⟨paired.appsrc, paired.launch⟩ rfl rfl rfl rfl
    case h_2 returned => exact h.frame ⟨paired.appsrc, paired.launch⟩ rfl rfl (by simp [borrowed, returned]) rfl
    case h_3 => exact h
  case h_6 =>
    split
    · exact h
    · exact h.frame ⟨paired.appsrc, paired.launch⟩ rfl rfl rfl rfl
  case h_7 =>
    obtain ⟨refs, stopped, balanced⟩ := stopBody_eq h s
    rw [stopped]
    exact h.replace { u with running := false, mutex := none, caller := .idle } none rfl rfl balanced

theorem Accounted.watcher (h : u.Accounted) (error : Bool) (outcome : BuildOutcome) :
    (u.watcherStep error outcome).Accounted := by
  have paired := h.paired
  have balanced := h.balanced
  rw [paired.owners_eq] at balanced
  unfold watcherStep
  split
  case h_1 | h_2 => exact h
  case h_3 pc =>
    refine h.frame ⟨paired.appsrc, paired.launch⟩ rfl rfl ?_ rfl
    cases watching : u.watching <;> simp [borrowed, pc]
  case h_4 pc =>
    split
    · exact h
    · split
      case h_1 build up =>
        refine ⟨⟨paired.appsrc, paired.launch⟩, ?_, h.unterminated⟩
        have taken := balanced.take (o := .bus build)
        rw [owners, paired.appsrc]
        refine taken.perm ?_
        simp only [borrowed, pc, List.nil_append]
        exact List.perm_middle
      case h_2 => exact h.frame ⟨paired.appsrc, paired.launch⟩ rfl rfl (by simp [borrowed, pc]) rfl
  case h_5 build pc =>
    have given : (u.refs.give (.bus build)).Balanced (pointersTo u.pipeline ++ u.inFlight.map .appsrc) := by
      refine (balanced.perm ?_).give
      simp only [borrowed, pc]
      exact List.perm_middle.symm
    split
    all_goals
      refine ⟨⟨paired.appsrc, paired.launch⟩, ?_, h.unterminated⟩
      simpa [owners, borrowed, paired.appsrc, pointersTo] using given
  case h_6 pc =>
    split
    · exact h.frame ⟨paired.appsrc, paired.launch⟩ rfl rfl rfl rfl
    · exact h.frame ⟨paired.appsrc, paired.launch⟩ rfl rfl (by simp [borrowed, pc]) rfl
  case h_7 pc =>
    split
    · exact h
    · exact h.frame ⟨paired.appsrc, paired.launch⟩ rfl rfl (by simp [borrowed, pc]) rfl
  case h_8 pc =>
    split
    all_goals exact h.frame ⟨paired.appsrc, paired.launch⟩ rfl rfl (by simp [borrowed, pc]) rfl
  case h_9 pc =>
    obtain ⟨refs, rebuilt, balanced⟩ := rebuildBody_eq outcome h
    rw [rebuilt]
    let v : RtmpUplink :=
      { u with
        builds := u.builds + 1
        backoff := if outcome = .playing then kBaseBackoff else min (u.backoff * 2) kMaxBackoff
        history := .rebuild u.waited (decide (outcome = .playing)) :: u.history
        mutex := none
        watcher := .test }
    exact h.replace v (builtUp (u.builds + 1) outcome) rfl (by simp [v, borrowed, pc]) balanced

theorem Accounted.push (h : u.Accounted) (locks : Bool) : (u.pushBegin locks).Accounted := by
  have paired := h.paired
  have balanced := h.balanced
  unfold pushBegin
  split
  case h_1 build up =>
    split
    · exact h
    · refine ⟨⟨paired.appsrc, paired.launch⟩, (balanced.take (o := .appsrc build)).perm ?_, h.unterminated⟩
      simp only [owners, borrowed, List.map_cons, ← List.append_assoc]
      exact List.perm_middle
  case h_2 => exact h

theorem Accounted.pushEnd (h : u.Accounted) (build : Nat) : (u.pushEnd build).Accounted := by
  have paired := h.paired
  have balanced := h.balanced
  unfold RtmpUplink.pushEnd
  split
  case isTrue flying =>
    refine ⟨⟨paired.appsrc, paired.launch⟩, (balanced.perm ?_).give, h.unterminated⟩
    have back : (u.inFlight.map GstObject.appsrc).Perm (.appsrc build :: (u.inFlight.erase build).map .appsrc) :=
      (List.perm_cons_erase flying).map _
    simp only [owners, borrowed, ← List.append_assoc]
    exact (List.perm_middle.symm.trans (List.Perm.append_left _ back.symm))
  case isFalse => exact h

theorem Accounted.step (h : u.Accounted) (s : u.Scheduled) (e : Event) : (u.step e).Accounted := by
  have paired := h.paired
  cases e with
  | caller outcome => exact h.caller s outcome
  | watcher error outcome => exact h.watcher error outcome
  | pushBegin locks => exact h.push locks
  | pushEnd build => exact h.pushEnd build
  | start config =>
    simp only [RtmpUplink.step]
    split
    · exact h.frame ⟨paired.appsrc, paired.launch⟩ rfl rfl rfl rfl
    · exact h
  | stop =>
    simp only [RtmpUplink.step]
    split
    · exact h.frame ⟨paired.appsrc, paired.launch⟩ rfl rfl rfl rfl
    · exact h

/-- Every run keeps both. -/
theorem accounted_run (es : List Event) : (es.foldl step {}).Scheduled ∧ (es.foldl step {}).Accounted :=
  Runs.foldl_inv' (I := fun u : RtmpUplink => u.Scheduled ∧ u.Accounted)
    (fun _ e h => ⟨h.1.step h.2 e, h.2.step h.1 e⟩) es ⟨scheduled_new, accounted_new⟩

/-- In every interleaving no reference is given back twice and no joinable thread is assigned to; the
references held are exactly the threads', so a push in flight has a live source whatever the watcher does;
the pipeline is the configuration's; and with the uplink down and no push in flight, nothing is held. -/
theorem uplink_references (es : List Event) :
    (es.foldl step {}).refs.overdrawn = false ∧ (es.foldl step {}).terminated = false ∧
      (∀ o, (es.foldl step {}).refs.held o = (es.foldl step {}).owners.count o) ∧
      (∀ build ∈ (es.foldl step {}).inFlight, 0 < (es.foldl step {}).refs.held (.appsrc build)) ∧
      (es.foldl step {}).appsrc = (es.foldl step {}).pipeline ∧
      (es.foldl step {}).launch =
        (es.foldl step {}).pipeline.map (fun _ => GstRtmpStreamer.buildLaunch (es.foldl step {}).config) ∧
      ((es.foldl step {}).running = false → (es.foldl step {}).inFlight = [] →
        ∀ o, (es.foldl step {}).refs.held o = 0) := by
  obtain ⟨scheduled, accounted⟩ := accounted_run es
  generalize es.foldl step {} = u at scheduled accounted ⊢
  refine ⟨accounted.balanced.sound, accounted.unterminated, accounted.balanced.counts, fun build flying => ?_,
    accounted.paired.appsrc, accounted.paired.launch, fun off landed o => ?_⟩
  · refine accounted.balanced.held_pos ?_
    simp [owners, borrowed, flying]
  · obtain ⟨down, unwatched⟩ := scheduled.down off
    refine accounted.balanced.held_eq_zero ?_
    simp [accounted.paired.owners_eq, borrowed, pointersTo, down, unwatched, landed]

end RtmpUplink

end SstCam
