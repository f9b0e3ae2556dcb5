import Mathlib.Algebra.Group.Nat.Defs
import SstCam.Lib.Port
import SstCam.Lib.Progress
import SstCam.Streaming.RtmpOwnership

/-!
# An uplink that reconnects

What the watcher does over a run: how long it sleeps before each rebuild, that it brings an uplink
back and ends when it is stopped, and that for its callers the uplink is a `GstRtmpStreamer`.
-/

namespace SstCam
set_option autoImplicit false

namespace RtmpUplink

variable {u : RtmpUplink}

/-! ## The backoff -/

/-- Rebuilds that failed since the uplink was last alive. -/
def failures : List WatchRecord → Nat
  | .rebuild _ false :: older => failures older + 1
  | _ => 0

/-- Doubled with each failure, up to the cap. -/
def backoffAfter (history : List WatchRecord) : Nat :=
  min (kBaseBackoff * 2 ^ failures history) kMaxBackoff

/-- Each rebuild was slept for as long as the failures before it call for. -/
def Paced : List WatchRecord → Prop
  | [] => True
  | .healthy :: older => Paced older
  | .rebuild waited _ :: older => waited = backoffAfter older ∧ Paced older

theorem backoffAfter_alive {history : List WatchRecord} (alive : failures history = 0) :
    backoffAfter history = kBaseBackoff := by
  simp [backoffAfter, alive, kBaseBackoff, kMaxBackoff]

theorem backoffAfter_failed (waited : Nat) (older : List WatchRecord) :
    backoffAfter (.rebuild waited false :: older) = min (backoffAfter older * 2) kMaxBackoff := by
  simp only [backoffAfter, failures, pow_succ, ← mul_assoc]
  omega

/-- A backoff is a whole number of slices. -/
theorem slice_dvd_backoffAfter (history : List WatchRecord) : kBackoffSliceMs ∣ backoffAfter history := by
  rw [backoffAfter, kBaseBackoff]
  rcases Nat.le_total (500 * 2 ^ failures history) kMaxBackoff with le | le
  · rw [Nat.min_eq_left le]
    exact Nat.dvd_mul_right_of_dvd (by decide) _
  · rw [Nat.min_eq_right le]
    decide

/-- How far the sleep before a rebuild has got. -/
structure Timed (u : RtmpUplink) : Prop where
  backoff : u.backoff = backoffAfter u.history
  paced : Paced u.history
  sleeping : u.watcher = .backOff → u.waited ≤ u.backoff ∧ kBackoffSliceMs ∣ u.waited
  slept : u.watcher = .lock ∨ u.watcher = .recheck → u.watching = true → u.waited = u.backoff
  rebuilding : u.watcher = .rebuild → u.waited = u.backoff

theorem timed_new : Timed {} where
  backoff := rfl
  paced := trivial
  sleeping := by simp
  slept := by simp
  rebuilding := by simp

theorem Timed.caller (t : u.Timed) (h : u.Accounted) (s : u.Scheduled) (outcome : BuildOutcome) :
    (u.callerStep outcome).Timed := by
  obtain ⟨refs, stopped, -⟩ := stopBody_eq h s
  have down := s.down
  have start := fun config => startBody_cases config outcome h s
  obtain ⟨backoff, paced, sleeping, slept, rebuilding⟩ := t
  unfold callerStep
  split
  case h_3 config pc =>
    have started := start config
    generalize u.startBody config outcome = after at started
    cases started with
    | played refs off =>
      exact ⟨rfl, trivial, by simp [withPipeline], by simp [withPipeline], by simp [withPipeline]⟩
    | _ => exact ⟨backoff, paced, sleeping, slept, rebuilding⟩
  case h_7 pc =>
    rw [stopped]
    exact ⟨backoff, paced, sleeping, slept, rebuilding⟩
  all_goals constructor <;> grind -ring -linarith -order

theorem Timed.watcher (t : u.Timed) (h : u.Accounted) (error : Bool) (outcome : BuildOutcome) :
    (u.watcherStep error outcome).Timed := by
  obtain ⟨refs, rebuilt, -⟩ := rebuildBody_eq outcome h
  obtain ⟨backoff, paced, sleeping, slept, rebuilding⟩ := t
  unfold watcherStep
  split
  case h_4 pc =>
    split
    · exact ⟨backoff, paced, sleeping, slept, rebuilding⟩
    · split
      · exact ⟨backoff, paced, by simp, by simp, by simp⟩
      · exact ⟨backoff, paced, fun _ => ⟨Nat.zero_le _, Nat.dvd_zero _⟩, by simp, by simp⟩
  case h_5 build pc =>
    split
    · exact ⟨backoff, paced, fun _ => ⟨Nat.zero_le _, Nat.dvd_zero _⟩, by simp, by simp⟩
    · exact ⟨(backoffAfter_alive rfl).symm, paced, by simp, by simp, by simp⟩
  case h_6 pc =>
    obtain ⟨le, slices⟩ := sleeping pc
    split
    case isTrue more =>
      simp only [Bool.and_eq_true, decide_eq_true_eq] at more
      refine ⟨backoff, paced, fun _ => ?_, by simp [pc], by simp [pc]⟩
      have whole := slice_dvd_backoffAfter u.history
      rw [← backoff] at whole
      simp only [kBackoffSliceMs] at whole slices ⊢
      omega
    case isFalse done =>
      refine ⟨backoff, paced, by simp, fun _ watching => ?_, by simp⟩
      have past : u.backoff ≤ u.waited := by simpa [show u.watching = true from watching] using done
      exact Nat.le_antisymm le past
  case h_9 pc =>
    rw [rebuilt]
    refine ⟨?_, ⟨(rebuilding pc).trans backoff, paced⟩, by simp [withPipeline], by simp [withPipeline],
      by simp [withPipeline]⟩
    cases outcome with
    | playing => exact (backoffAfter_alive rfl).symm
    | _ => exact (congrArg (fun b => min (b * 2) kMaxBackoff) backoff).trans (backoffAfter_failed u.waited u.history).symm
  all_goals constructor <;> grind -ring -linarith -order

theorem Timed.step (t : u.Timed) (h : u.Accounted) (s : u.Scheduled) (e : Event) : (u.step e).Timed := by
  obtain ⟨backoff, paced, sleeping, slept, rebuilding⟩ := id t
  cases e with
  | caller outcome => exact t.caller h s outcome
  | watcher error outcome => exact t.watcher h error outcome
  | _ => constructor <;> grind -ring -linarith -order [RtmpUplink.step, RtmpUplink.pushBegin, RtmpUplink.pushEnd]

/-- All three hold of an uplink at every step. -/
structure Sound (u : RtmpUplink) : Prop where
  scheduled : u.Scheduled
  accounted : u.Accounted
  timed : u.Timed

theorem Sound.step (h : u.Sound) (e : Event) : (u.step e).Sound :=
  ⟨h.scheduled.step h.accounted e, h.accounted.step h.scheduled e, h.timed.step h.accounted h.scheduled e⟩

theorem sound_run (es : List Event) : (es.foldl RtmpUplink.step {}).Sound :=
  Runs.foldl_inv' (fun _ e h => h.step e) es ⟨scheduled_new, accounted_new, timed_new⟩

theorem Paced.split {newer older : List WatchRecord} {waited : Nat} {played : Bool}
    (h : Paced (newer ++ .rebuild waited played :: older)) : waited = backoffAfter older := by
  induction newer with
  | nil => exact h.1
  | cons r newer ih =>
    cases r with
    | healthy => exact ih h
    | rebuild => exact ih h.2

/-- In every interleaving each rebuild is slept for, 500 ms doubled once for each rebuild that failed
since the uplink was last alive, and at most 8000 ms. -/
theorem rebuild_backoff (es : List Event) {newer older : List WatchRecord} {waited : Nat} {played : Bool}
    (rebuilt : (es.foldl step {}).history = newer ++ .rebuild waited played :: older) :
    waited = min (500 * 2 ^ failures older) 8000 := by
  have paced := (sound_run es).timed.paced
  rw [rebuilt] at paced
  exact paced.split

/-- An uplink whose first rebuild fails and whose second plays. -/
def outage : List Event :=
  [.start { url := "rtmp://host/app", streamKey := "key" }, .caller .playing, .caller .playing] ++
    List.replicate 11 (.watcher true .notPlaying) ++ [.watcher true .notPlaying] ++
      List.replicate 15 (.watcher true .playing) ++ [.watcher true .playing]

theorem outage_backoff : 1000 = min (500 * 2 ^ failures [.rebuild 500 false]) 8000 := by
  have rebuilt : (outage.foldl step {}).history = [] ++ .rebuild 1000 true :: [.rebuild 500 false] := by
    decide +kernel
  exact rebuild_backoff outage rebuilt

/-! ## The way out -/

/-- The thread whose step an event is. -/
def Event.thread : Event → Option UplinkThread
  | .watcher .. => some .watcher
  | .caller _ => some .caller
  | _ => none

/-- How many of its steps the watcher is away from its end, once a stop has taken the watch away. -/
def stepsToEnd : WatcherPc → Nat
  | .none | .returned => 0
  | .test | .recheck => 1
  | .lock | .rebuild => 2
  | .backOff => 3
  | .poll _ => 4
  | .takeBus => 5

/-- How many steps a stop has left once the watcher has ended. -/
def stepsToReturn : CallerPc → Nat
  | .join => 3
  | .stopLock => 2
  | .stopBody => 1
  | _ => 0

/-- The builds that a stop can still see. -/
def buildsInSight (u : RtmpUplink) : Nat :=
  u.builds + match u.watcher with | .rebuild => 1 | _ => 0

def stepsToStop (u : RtmpUplink) : Nat :=
  stepsToEnd u.watcher + stepsToReturn u.caller

/-- A stop needs the watcher to end, then itself. -/
def stopNeeds (u : RtmpUplink) : UplinkThread :=
  if stepsToEnd u.watcher = 0 then .caller else .watcher

/-- A stop has returned. -/
structure Stopped (u : RtmpUplink) : Prop where
  idle : u.caller = .idle
  running : u.running = false
  watching : u.watching = false
  pipeline : u.pipeline = none
  watcher : u.watcher = .none

/-- The mutex is free for a watcher that waits for it while a stop waits for the watcher. -/
theorem Scheduled.free (s : u.Scheduled) (stopping : u.caller.stopping = true) (alive : u.watcher ≠ .none)
    (waits : u.watcher.holds = false) : u.mutex.isSome = false := by
  have callerHolds := s.callerHolds
  have watcherHolds := s.watcherHolds
  have joined := s.joined
  cases mutex : u.mutex with
  | none => rfl
  | some holder =>
    cases holder with
    | watcher => simp [waits, mutex] at watcherHolds
    | caller =>
      -- under the lock a stop has joined the watcher
      cases at_ : u.caller <;> simp_all [CallerPc.holds, CallerPc.stopping, CallerPc.joined]

/-- A stop under way that will see no more builds. -/
structure Draining (builds : Nat) (u : RtmpUplink) : Prop where
  sound : u.Sound
  stopping : u.caller.stopping = true
  few : u.buildsInSight ≤ builds

/-- A step of the watcher brings it nearer to its end, unless it is there. -/
theorem drain_watcher (s : u.Scheduled) (h : u.Accounted) (stopping : u.caller.stopping = true) (error : Bool)
    (outcome : BuildOutcome) :
    (u.watcherStep error outcome).caller = u.caller ∧
      (u.watcherStep error outcome).buildsInSight ≤ u.buildsInSight ∧
      (stepsToEnd (u.watcherStep error outcome).watcher < stepsToEnd u.watcher ∨
        stepsToEnd u.watcher = 0 ∧ stepsToEnd (u.watcherStep error outcome).watcher = 0) := by
  obtain ⟨refs, rebuilt, -⟩ := rebuildBody_eq outcome h
  have unwatched := s.unwatched stopping
  unfold watcherStep
  split
  case h_4 pc =>
    rw [s.free stopping (by simp [pc]) (by rw [pc]; rfl)]
    refine ⟨?_, ?_, ?_⟩ <;> grind -ring -linarith -order [stepsToEnd, buildsInSight]
  case h_7 pc =>
    rw [s.free stopping (by simp [pc]) (by rw [pc]; rfl)]
    refine ⟨?_, ?_, ?_⟩ <;> grind -ring -linarith -order [stepsToEnd, buildsInSight]
  case h_9 pc =>
    rw [rebuilt]
    refine ⟨?_, ?_, ?_⟩ <;> grind -ring -linarith -order [stepsToEnd, buildsInSight, withPipeline]
  all_goals refine ⟨?_, ?_, ?_⟩ <;> grind -ring -linarith -order [stepsToEnd, buildsInSight]

/-- A step of the stop waits for the watcher; once it has ended, it brings the stop nearer to its return. -/
theorem drain_caller (s : u.Scheduled) (h : u.Accounted) (stopping : u.caller.stopping = true) (outcome : BuildOutcome) :
    (u.callerStep outcome).buildsInSight ≤ u.buildsInSight ∧
      (Stopped (u.callerStep outcome) ∨
        (u.callerStep outcome).caller.stopping = true ∧
          stepsToEnd (u.callerStep outcome).watcher = stepsToEnd u.watcher ∧
          (stepsToReturn (u.callerStep outcome).caller < stepsToReturn u.caller ∨
            stepsToEnd u.watcher ≠ 0 ∧ u.callerStep outcome = u)) := by
  obtain ⟨refs, stopped, -⟩ := stopBody_eq h s
  have unwatched := s.unwatched stopping
  have joined := s.joined
  have callerHolds := s.callerHolds
  have watcherHolds := s.watcherHolds
  unfold callerStep
  split
  case h_1 pc | h_2 pc | h_3 pc | h_4 pc => simp [pc, CallerPc.stopping] at stopping
  case h_5 pc =>
    split
    case h_3 alive ended =>
      refine ⟨Nat.le_refl _, .inr ⟨stopping, rfl, .inr ⟨?_, rfl⟩⟩⟩
      cases at_ : u.watcher <;> simp_all [stepsToEnd]
    all_goals
      refine ⟨?_, .inr ⟨?_, ?_, .inl ?_⟩⟩ <;>
        grind -ring -linarith -order [stepsToEnd, stepsToReturn, buildsInSight, CallerPc.stopping]
  case h_6 pc =>
    have free : u.mutex.isSome = false := by
      have none := joined (by rw [pc]; rfl)
      cases mutex : u.mutex with
      | none => rfl
      | some holder => cases holder <;> grind [CallerPc.holds, WatcherPc.holds]
    rw [free]
    refine ⟨?_, .inr ⟨?_, ?_, .inl ?_⟩⟩ <;>
      grind -ring -linarith -order [stepsToEnd, stepsToReturn, buildsInSight, CallerPc.stopping]
  case h_7 pc =>
    rw [stopped]
    have none := joined (by rw [pc]; rfl)
    exact ⟨Nat.le_refl _, .inl ⟨rfl, rfl, unwatched, rfl, none⟩⟩

/-- A stop makes progress while it is under way. -/
theorem draining_progress (builds : Nat) :
    Runs.Progress step Event.thread (fun _ => True) (Draining builds) (fun u => Stopped u ∧ u.builds ≤ builds)
      stopNeeds stepsToStop where
  pos u h := by
    have stopping := h.stopping
    have left : 0 < stepsToReturn u.caller := by
      cases at_ : u.caller <;> simp_all [stepsToReturn, CallerPc.stopping]
    exact Nat.add_pos_right _ left
  moves u e h _ := by
    have sound := h.sound.step e
    have few := h.few
    cases e with
    | watcher error outcome =>
      obtain ⟨same, sight, nearer⟩ := drain_watcher h.sound.scheduled h.sound.accounted h.stopping error outcome
      refine .inr ⟨⟨sound, same ▸ h.stopping, Nat.le_trans sight few⟩, ?_⟩
      simp only [stepsToStop, stopNeeds, RtmpUplink.step, Event.thread, same]
      grind
    | caller outcome =>
      obtain ⟨sight, stopped | ⟨stopping, same, nearer⟩⟩ :=
        drain_caller h.sound.scheduled h.sound.accounted h.stopping outcome
      · exact .inl ⟨stopped, Nat.le_trans (Nat.le_add_right _ _) (Nat.le_trans sight few)⟩
      · refine .inr ⟨⟨sound, stopping, Nat.le_trans sight few⟩, ?_⟩
        simp only [stepsToStop, stopNeeds, RtmpUplink.step, Event.thread, same]
        grind
    | start config | stop | pushBegin locks | pushEnd build =>
      have stopping := h.stopping
      refine .inr ⟨⟨sound, ?_, ?_⟩, .inr ⟨?_, ?_, by simp [Event.thread]⟩⟩ <;>
        grind -ring -linarith -order [RtmpUplink.step, RtmpUplink.pushBegin, RtmpUplink.pushEnd, CallerPc.stopping,
          buildsInSight, stepsToStop, stopNeeds]

/-- A stop returns within eight rounds, whatever the uplink meets and pushes do meanwhile, with the
watcher ended and the pipeline down; at most the rebuild that is under way is still made. -/
theorem stop_returns (es : List Event) (rounds : List (List Event))
    (fair : ∀ round ∈ rounds, ∀ thread, ∃ e ∈ round, Event.thread e = some thread) (enough : 8 ≤ rounds.length)
    (stopping : (es.foldl step {}).caller.stopping = true) :
    ∃ first, first <+: rounds.flatten ∧ Stopped (first.foldl step (es.foldl step {})) ∧
      (first.foldl step (es.foldl step {})).builds ≤ (es.foldl step {}).builds + 1 := by
  have sound := sound_run es
  generalize es.foldl step {} = u at sound stopping ⊢
  have watcher : stepsToEnd u.watcher ≤ 5 := by cases u.watcher <;> simp [stepsToEnd]
  have caller : stepsToReturn u.caller ≤ 3 := by cases u.caller <;> simp [stepsToReturn]
  have sight : u.buildsInSight ≤ u.builds + 1 := by
    unfold buildsInSight
    split <;> omega
  exact (draining_progress _).rounds rounds (fun _ _ _ _ => trivial) fair ⟨sound, stopping, sight⟩
    (Nat.le_trans (Nat.add_le_add watcher caller) enough)

/-- A stop while the uplink is down. -/
def stoppedOutage : List Event := outage.take 15 ++ [.stop, .caller .playing]

theorem outage_stop_returns :
    ∃ first, first <+: (List.replicate 8 [.watcher true .playing, .caller .playing]).flatten ∧
      Stopped (first.foldl step (stoppedOutage.foldl step {})) ∧
      (first.foldl step (stoppedOutage.foldl step {})).builds ≤ (stoppedOutage.foldl step {}).builds + 1 := by
  refine stop_returns _ _ (fun round mem thread => ?_) (by decide) (by decide +kernel)
  rw [List.eq_of_mem_replicate mem]
  cases thread <;> simp [Event.thread]

/-! ## The way back -/

/-- Events under which no call is made and each build plays. -/
def Undisturbed : Event → Prop
  | .watcher _ outcome => outcome = .playing
  | .pushBegin _ | .pushEnd _ => True
  | _ => False

/-- How many of its steps a watcher that sleeps the longest is away from the pipeline being up. -/
def stepsToUp (u : RtmpUplink) : Nat :=
  match u.watcher with
  | .rebuild => 1
  | .recheck => 2
  | .lock => 3
  | .backOff => 4 + (kMaxBackoff - u.waited) / kBackoffSliceMs
  | .takeBus => 85
  | .test => 86
  | _ => 87

/-- Running with nobody in a call, and without a pipeline. -/
structure Broken (u : RtmpUplink) : Prop where
  idle : u.caller = .idle
  running : u.running = true
  down : u.pipeline = none

theorem broken_watcher (s : u.Scheduled) (h : u.Accounted) (t : u.Timed) (broken : Broken u) (error : Bool) :
    (u.watcherStep error .playing).pipeline.isSome = true ∨
      Broken (u.watcherStep error .playing) ∧ stepsToUp (u.watcherStep error .playing) < stepsToUp u := by
  obtain ⟨idle, running, down⟩ := broken
  obtain ⟨refs, rebuilt, -⟩ := rebuildBody_eq .playing h
  have watched := s.watched running (by rw [idle]; rfl)
  have attended := s.attended running (by rw [idle]; rfl)
  have returned := s.returned
  have free : u.watcher.holds = false → u.mutex.isSome = false := fun waits => by
    have callerHolds := s.callerHolds
    have watcherHolds := s.watcherHolds
    cases mutex : u.mutex with
    | none => rfl
    | some holder => cases holder <;> simp_all [CallerPc.holds]
  unfold watcherStep
  split
  case h_1 pc => exact absurd pc attended
  case h_2 pc => simp [returned pc] at watched
  case h_3 pc => exact .inr ⟨⟨idle, running, down⟩, by simp [stepsToUp, pc, watched]⟩
  case h_4 pc =>
    rw [free (by rw [pc]; rfl)]
    simp only [down, Bool.false_eq_true, ↓reduceIte]
    exact .inr ⟨⟨idle, running, rfl⟩, by simp [stepsToUp, pc, kMaxBackoff, kBackoffSliceMs]⟩
  case h_5 build pc =>
    refine .inr ?_
    split
    all_goals exact ⟨⟨idle, running, down⟩, by simp [stepsToUp, pc, kMaxBackoff, kBackoffSliceMs]⟩
  case h_6 pc =>
    refine .inr ?_
    obtain ⟨le, slices⟩ := t.sleeping pc
    have capped : u.backoff ≤ kMaxBackoff := by
      rw [t.backoff]
      exact Nat.min_le_right ..
    split
    case isTrue more =>
      refine ⟨⟨idle, running, down⟩, ?_⟩
      simp only [watched, Bool.true_and, decide_eq_true_eq] at more
      simp only [stepsToUp, pc]
      simp only [kBackoffSliceMs, kMaxBackoff] at slices capped ⊢
      omega
    case isFalse =>
      refine ⟨⟨idle, running, down⟩, ?_⟩
      simp only [stepsToUp, pc]
      exact Nat.lt_add_right _ (by decide)
  case h_7 pc =>
    rw [free (by rw [pc]; rfl)]
    exact .inr ⟨⟨idle, running, down⟩, by simp [stepsToUp, pc]⟩
  case h_8 pc =>
    simp only [watched, running, Bool.not_true, Bool.or_self, Bool.false_eq_true, ↓reduceIte]
    exact .inr ⟨⟨idle, rfl, down⟩, by simp [stepsToUp, pc]⟩
  case h_9 pc =>
    rw [rebuilt]
    exact .inl rfl

/-- An uplink without a pipeline makes progress with each step of the watcher. -/
theorem broken_progress :
    Runs.Progress step Event.thread Undisturbed (fun u => u.Sound ∧ Broken u) (fun u => u.pipeline.isSome = true)
      (fun _ => .watcher) stepsToUp where
  pos u _ := by
    simp only [stepsToUp, kBackoffSliceMs]
    split <;> omega
  moves u e h undisturbed := by
    obtain ⟨sound, broken⟩ := h
    cases e with
    | start | stop | caller => exact undisturbed.elim
    | pushBegin locks | pushEnd build =>
      have sound' := sound.step
      obtain ⟨idle, running, down⟩ := broken
      refine .inr ⟨⟨sound' _, ?_, ?_, ?_⟩, .inr ⟨?_, rfl, by simp [Event.thread]⟩⟩ <;>
        grind -ring -linarith -order [RtmpUplink.step, RtmpUplink.pushBegin, RtmpUplink.pushEnd, stepsToUp]
    | watcher error outcome =>
      obtain rfl : outcome = .playing := undisturbed
      have moved := broken_watcher sound.scheduled sound.accounted sound.timed broken error
      exact moved.imp_right fun still => ⟨⟨sound.step _, still.1⟩, .inl still.2⟩

/-- An uplink that runs without a pipeline gets it back: within 87 steps of the watcher, if the builds
play and no call is made, whatever pushes do. -/
theorem uplink_recovers (es fs : List Event) (undisturbed : ∀ e ∈ fs, Undisturbed e)
    (enough : 87 ≤ fs.countP fun e => Event.thread e = some .watcher) (idle : (es.foldl step {}).caller = .idle)
    (running : (es.foldl step {}).running = true) :
    ∃ first, first <+: fs ∧ (first.foldl step (es.foldl step {})).pipeline.isSome = true := by
  have sound := sound_run es
  generalize es.foldl step {} = u at sound idle running ⊢
  cases down : u.pipeline with
  | some build => exact ⟨[], List.nil_prefix, by simp [down]⟩
  | none =>
    have far : stepsToUp u ≤ 87 := by
      simp only [stepsToUp, kMaxBackoff, kBackoffSliceMs]
      split <;> omega
    exact broken_progress.events (fun _ => rfl) fs undisturbed ⟨sound, idle, running, down⟩ (Nat.le_trans far enough)

theorem outage_recovers :
    ∃ first, first <+: List.replicate 87 (.watcher true .playing) ∧
      (first.foldl step ((outage.take 15).foldl step {})).pipeline.isSome = true :=
  uplink_recovers _ _ (fun e mem => by rw [List.eq_of_mem_replicate mem]; rfl) (by decide +kernel)
    (by decide +kernel) (by decide +kernel)

/-! ## The uplink as its callers see it -/

/-- The uplink without its threads: a pipeline that reconnects is up. -/
def streamer (u : RtmpUplink) : GstRtmpStreamer where
  config := u.config
  running := u.running
  pipeline := if u.running then some (GstRtmpStreamer.buildLaunch u.config) else none

inductive Call where
  | start (config : PlatformStreamConfig) (accepts : Bool)
  | stop
  deriving DecidableEq, Repr

namespace Call

/-- The call as the streamer's own model has it. -/
def apply (g : GstRtmpStreamer) : Call → GstRtmpStreamer
  | .start config accepts => (g.start config accepts).1
  | .stop => g.stop

/-- What the streamer's own model answers; a stop answers nothing. -/
def answer (g : GstRtmpStreamer) : Call → Option Bool
  | .start config accepts => some (g.start config accepts).2
  | .stop => none

end Call

/-- What the uplink answers. -/
def answered (u : RtmpUplink) : Call → Option Bool
  | .start .. => some u.answer
  | .stop => none

/-- The call whose body the event runs. -/
def commit (u : RtmpUplink) (e : Event) : Option Call :=
  match e, u.caller with
  | .caller outcome, .startBody config => some (.start config (decide (outcome = .playing)))
  | .caller _, .stopBody => some .stop
  | _, _ => none

/-- The watcher changes nothing that a caller can tell. -/
theorem watcherStep_streamer (h : u.Accounted) (error : Bool) (outcome : BuildOutcome) :
    (u.watcherStep error outcome).streamer = u.streamer := by
  obtain ⟨refs, rebuilt, -⟩ := rebuildBody_eq outcome h
  have same : (u.watcherStep error outcome).config = u.config ∧ (u.watcherStep error outcome).running = u.running := by
    unfold watcherStep
    split
    case h_9 =>
      rw [rebuilt]
      exact ⟨rfl, rfl⟩
    all_goals grind
  simp only [streamer, same.1, same.2]

/-- A call takes effect as the streamer's does, or callers cannot tell. -/
structure Simulates (u v : RtmpUplink) (called : Option Call) : Prop where
  streamer : v.streamer = called.elim u.streamer (Call.apply u.streamer)
  answer : ∀ c, called = some c → answered v c = Call.answer u.streamer c

theorem Simulates.silent {v : RtmpUplink} (same : v.streamer = u.streamer) : Simulates u v none := ⟨same, nofun⟩

theorem Simulates.of_start {v : RtmpUplink} {config : PlatformStreamConfig} {accepts : Bool}
    (after : (v.streamer, v.answer) = u.streamer.start config accepts) : Simulates u v (some (.start config accepts)) := by
  obtain ⟨same, answer⟩ := Prod.ext_iff.1 after
  refine ⟨same, ?_⟩
  rintro c ⟨⟩
  exact congrArg some answer

theorem simulates_caller (s : u.Scheduled) (h : u.Accounted) (outcome : BuildOutcome) :
    Simulates u (u.callerStep outcome) (commit u (.caller outcome)) := by
  obtain ⟨refs, stopped, -⟩ := stopBody_eq h s
  unfold callerStep commit
  cases pc : u.caller with
  | startBody config =>
    have started := startBody_cases config outcome h s
    simp only
    apply Simulates.of_start
    generalize u.startBody config outcome = after at started
    cases started with
    | already running => simp [streamer, GstRtmpStreamer.start, running]
    | rejected off incomplete => simp [streamer, GstRtmpStreamer.start, off, incomplete]
    | failed refs off complete silent => simp [streamer, GstRtmpStreamer.start, off, complete, silent, withPipeline]
    | played refs off complete plays => simp [streamer, GstRtmpStreamer.start, off, complete, plays, withPipeline]
  | stopBody =>
    refine ⟨?_, ?_⟩
    · simp only [stopped]
      cases running : u.running <;> simp [Call.apply, streamer, GstRtmpStreamer.stop, withPipeline, running]
    · rintro c ⟨⟩
      rfl
  | idle | stopStore => exact .silent rfl
  | startLock config | stopLock =>
    simp only
    split <;> exact .silent rfl
  | join =>
    simp only
    split <;> exact .silent rfl

theorem simulates_step (s : u.Scheduled) (h : u.Accounted) (e : Event) : Simulates u (u.step e) (commit u e) := by
  cases e with
  | caller outcome => exact simulates_caller s h outcome
  | watcher error outcome => exact .silent (watcherStep_streamer h error outcome)
  | start | stop =>
    simp only [commit, RtmpUplink.step]
    split <;> exact .silent rfl
  | pushBegin locks =>
    simp only [commit, RtmpUplink.step, RtmpUplink.pushBegin]
    split
    · split <;> exact .silent rfl
    · exact .silent rfl
  | pushEnd build =>
    simp only [commit, RtmpUplink.step, RtmpUplink.pushEnd]
    split <;> exact .silent rfl

/-- In every interleaving the uplink is, for its callers, the streamer that takes the calls one at a time
in the order in which they run under the lock: the same configuration, pipeline and answers. -/
theorem uplink_refines (es : List Event) :
    (es.foldl step {}).streamer = ((Runs.answers step commit answered {} es).map Prod.fst).foldl Call.apply {} ∧
      Runs.answers step commit answered {} es =
        Runs.portAnswers Call.apply Call.answer {} ((Runs.answers step commit answered {} es).map Prod.fst) := by
  have refinement : Runs.Refinement step commit answered Call.apply Call.answer streamer
      fun u => u.Scheduled ∧ u.Accounted :=
    { keeps := fun u e h => ⟨h.1.step h.2 e, h.2.step h.1 e⟩
      port_step := fun u e h => (simulates_step h.1 h.2 e).1
      answers_step := fun u e h => (simulates_step h.1 h.2 e).2 }
  exact refinement.run ⟨scheduled_new, accounted_new⟩ es

end RtmpUplink

end SstCam
