import SstCam.Lib.Port
import SstCam.Lib.Progress
import SstCam.Streaming.RtspAppStreamServer

/-!
# The life of the preview server

What the server's threads own in every interleaving, when a stop returns, and that the server is, for
its callers, the port that the device's model has it as.
-/

namespace SstCam
set_option autoImplicit false

namespace RtspServer

/-! ## What holds at every step -/

/-- The objects of a start are there together. -/
structure Together (u : RtspServer) : Prop where
  loop : u.loop = u.context
  server : u.server = u.context

/-- Where the caller and the loop's thread are. -/
structure Scheduled (u : RtspServer) : Prop where
  up : u.running = true → u.caller = .idle
  built : u.context.isSome = true ↔ u.running = true ∨ u.caller ≠ .idle
  thread : u.thread ≠ .none ↔ u.running = true ∨ u.caller = .join
  flag : u.loopRunning = true → u.thread = .looping
  serving : u.running = true → u.thread = .spawned ∨ u.thread = .looping ∧ u.loopRunning = true
  attached : u.attached = u.context.isSome

structure Accounted (u : RtspServer) : Prop where
  together : u.Together
  balanced : u.refs.Balanced u.owners
  unterminated : u.terminated = false
  alive : u.dangling = false

theorem scheduled_new : Scheduled {} := by
  constructor <;> simp

theorem accounted_new : Accounted {} := ⟨⟨rfl, rfl⟩, Ledger.balanced_new, rfl, rfl⟩

variable {u : RtspServer}

/-- The references of the objects of a start. -/
def objects (context : Option Nat) : List RtspObject :=
  context.toList.map .context ++ context.toList.map .loop ++ context.toList.map .server

theorem Together.owners_eq (h : u.Together) : u.owners = objects u.context ++ u.sources := by
  simp [owners, objects, h.loop, h.server]

theorem Together.release (h : u.Together) :
    ∃ refs, u.release = { u with context := none, loop := none, server := none, refs } ∧
      ∀ rest, u.refs.Balanced (objects u.context ++ rest) → refs.Balanced rest := by
  obtain ⟨loop, server⟩ := h
  cases built : u.context with
  | none =>
    rw [built] at loop server
    refine ⟨u.refs, ?_, fun rest balanced => balanced⟩
    cases u
    simp_all [RtspServer.release]
  | some n =>
    rw [built] at loop server
    refine ⟨((u.refs.give (.server n)).give (.loop n)).give (.context n),
      by simp [RtspServer.release, loop, server, built], fun rest balanced => ?_⟩
    have turned := (List.reverse_perm [RtspObject.context n, .loop n, .server n]).append_right rest
    exact (balanced.perm turned).give.give.give

theorem allocate_balanced {rest : List RtspObject} (balanced : u.refs.Balanced rest) :
    u.allocate.refs.Balanced (objects (some (u.starts + 1)) ++ rest) := by
  have turned := List.reverse_perm [RtspObject.context (u.starts + 1), .loop (u.starts + 1), .server (u.starts + 1)]
  exact balanced.take.take.take.perm (turned.symm.append_right rest)

/-- With no objects, `Start` leaves those of a new start behind exactly when the server attaches. -/
theorem start_eq (config : AppStreamConfig) (attaches : Bool) (stopped : u.running = false) (down : u.context = none)
    (together : u.Together) :
    ∃ refs, u.start config attaches =
        (if attaches then
          { u with
            config
            starts := u.starts + 1
            context := some (u.starts + 1)
            loop := some (u.starts + 1)
            server := some (u.starts + 1)
            attached := true
            running := true
            thread := .spawned
            terminated := u.terminated || decide (u.thread ≠ .none)
            answer := true
            refs }
        else { u with config, starts := u.starts + 1, attached := false, answer := false, refs }) ∧
      ∀ rest, u.refs.Balanced rest →
        refs.Balanced (objects (if attaches then some (u.starts + 1) else none) ++ rest) := by
  rw [start, if_neg (by simp [stopped])]
  cases attaches with
  | true => exact ⟨_, rfl, fun rest balanced => allocate_balanced balanced⟩
  | false =>
    obtain ⟨loop, server⟩ := together
    rw [down] at loop server
    have built : ({ u with config } : RtspServer).allocate.Together := ⟨rfl, rfl⟩
    obtain ⟨refs, released, balanced⟩ := built.release
    refine ⟨refs, ?_, fun rest before => balanced rest (allocate_balanced before)⟩
    simp only [Bool.not_false, ↓reduceIte, released]
    simp [allocate, down, loop, server]

theorem Scheduled.step (s : u.Scheduled) (h : u.Accounted) (e : Event) : (u.step e).Scheduled := by
  obtain ⟨refs, released, -⟩ := h.together.release
  have started := fun config attaches stopped down => start_eq (u := u) config attaches stopped down h.together
  obtain ⟨up, built, thread, flag, serving, attached⟩ := s
  cases e with
  | start config attaches =>
    simp only [RtspServer.step]
    split
    case isFalse => exact ⟨up, built, thread, flag, serving, attached⟩
    case isTrue idle =>
      cases running : u.running with
      | true =>
        rw [start, if_pos running]
        exact ⟨up, built, thread, flag, serving, attached⟩
      | false =>
        have down : u.context = none := by
          cases context : u.context <;> simp_all
        obtain ⟨refs, after, -⟩ := started config attaches running down
        rw [after]
        -- no arithmetic in where the threads are, so its solvers are off
        cases attaches <;> constructor <;> grind -ring -linarith -order
  | stop =>
    simp only [RtspServer.step, RtspServer.stop]
    have loop := h.together.loop
    constructor <;> grind -ring -linarith -order
  | caller =>
    simp only [RtspServer.step, callerStep, released]
    constructor <;> grind -ring -linarith -order
  | loop =>
    simp only [RtspServer.step, loopStep]
    constructor <;> grind -ring -linarith -order
  | mediaConfigure found =>
    simp only [RtspServer.step, RtspServer.mediaConfigure]
    constructor <;> grind -ring -linarith -order
  | pushBegin =>
    simp only [RtspServer.step, RtspServer.pushBegin]
    constructor <;> grind -ring -linarith -order
  | pushEnd media =>
    simp only [RtspServer.step, RtspServer.pushEnd]
    constructor <;> grind -ring -linarith -order

theorem Accounted.of {v : RtspServer} (together : v.Together) (balanced : v.refs.Balanced (objects v.context ++ v.sources))
    (unterminated : v.terminated = false) (alive : v.dangling = false) : v.Accounted :=
  ⟨together, by rwa [together.owners_eq], unterminated, alive⟩

theorem Accounted.balanced' (h : u.Accounted) : u.refs.Balanced (objects u.context ++ u.sources) := by
  rw [← h.together.owners_eq]
  exact h.balanced

/-- A thread that moves on without touching the objects. -/
theorem Accounted.frame (h : u.Accounted) {v : RtspServer} (together : v.Together) (context : v.context = u.context)
    (ledger : v.refs = u.refs) (sources : v.sources = u.sources) (unterminated : v.terminated = false)
    (alive : v.dangling = false) : v.Accounted := by
  refine .of together ?_ unterminated alive
  rw [context, ledger, sources]
  exact h.balanced'

theorem Accounted.start (h : u.Accounted) (s : u.Scheduled) (config : AppStreamConfig) (attaches : Bool)
    (idle : u.caller = .idle) : (u.start config attaches).Accounted := by
  obtain ⟨up, built, thread, flag, serving, attached⟩ := s
  have together := h.together
  cases running : u.running with
  | true =>
    rw [RtspServer.start, if_pos running]
    exact h.frame ⟨together.loop, together.server⟩ rfl rfl rfl h.unterminated h.alive
  | false =>
    have down : u.context = none := by cases context : u.context <;> simp_all
    have free : u.thread = .none := by simpa [running, idle] using thread
    obtain ⟨refs, after, balanced⟩ := start_eq config attaches running down together
    have before := h.balanced'
    rw [down] at before
    have balanced := balanced _ before
    rw [after]
    cases attaches with
    | false =>
      refine .of ⟨together.loop, together.server⟩ ?_ h.unterminated h.alive
      rw [if_neg Bool.false_ne_true] at balanced ⊢
      simpa [down, sources, objects] using balanced
    | true => exact .of ⟨rfl, rfl⟩ balanced (by simp [h.unterminated, free]) h.alive

theorem Accounted.stop (h : u.Accounted) : u.stop.Accounted := by
  have together := h.together
  have balanced := h.balanced'
  unfold RtspServer.stop
  split
  case isTrue => exact h
  case isFalse =>
    cases bound : u.appsrc with
    | none => exact h.frame ⟨together.loop, together.server⟩ rfl rfl (by simp [sources, bound]) h.unterminated h.alive
    | some media =>
      rw [sources, bound] at balanced
      exact .of ⟨together.loop, together.server⟩ (balanced.perm List.perm_middle.symm).give h.unterminated h.alive

theorem Accounted.caller (h : u.Accounted) : u.callerStep.Accounted := by
  have together := h.together
  obtain ⟨refs, released, balanced⟩ := together.release
  unfold callerStep
  split
  case h_1 => exact h
  case h_2 =>
    split
    case h_3 => exact h
    all_goals exact h.frame ⟨together.loop, together.server⟩ rfl rfl rfl h.unterminated h.alive
  case h_3 =>
    rw [released]
    exact .of ⟨rfl, rfl⟩ (balanced _ h.balanced') h.unterminated h.alive

theorem Accounted.loop (h : u.Accounted) (s : u.Scheduled) : u.loopStep.Accounted := by
  have together := h.together
  have alive : u.thread ≠ .none → u.context.isNone = false := fun there => by
    have used := s.thread.1 there
    have built := s.built
    cases context : u.context with
    | some n => rfl
    | none => grind
  have same := together.loop
  refine h.frame ⟨?_, ?_⟩ ?_ ?_ ?_ ?_ ?_
  all_goals
    unfold loopStep
    have := h.unterminated
    have := h.alive
    have := together.server
    cases at_ : u.thread <;> grind [sources]

theorem Accounted.mediaConfigure (h : u.Accounted) (found : Bool) : (u.mediaConfigure found).Accounted := by
  have together := h.together
  unfold RtspServer.mediaConfigure
  split
  case isTrue => exact h
  case isFalse =>
    have taken := h.balanced'.take (o := .appsrc (u.medias + 1))
    cases bound : u.appsrc with
    | none =>
      rw [sources, bound] at taken
      exact .of ⟨together.loop, together.server⟩ (taken.perm List.perm_middle) h.unterminated h.alive
    | some old =>
      rw [sources, bound] at taken
      have turned := List.Perm.swap (RtspObject.appsrc (u.medias + 1)) (.appsrc old) (u.inFlight.map .appsrc)
      have moved := (List.perm_middle.symm.trans (turned.append_left (objects u.context))).trans List.perm_middle
      exact .of ⟨together.loop, together.server⟩ (taken.perm moved).give h.unterminated h.alive

theorem Accounted.pushBegin (h : u.Accounted) : u.pushBegin.Accounted := by
  have together := h.together
  unfold RtspServer.pushBegin
  split
  case h_1 media bound =>
    split
    · exact h
    · have taken := h.balanced'.take (o := .appsrc media)
      refine .of ⟨together.loop, together.server⟩ (taken.perm ?_) h.unterminated h.alive
      simp only [sources, List.map_cons, ← List.append_assoc]
      exact List.perm_middle
  case h_2 => exact h

theorem Accounted.pushEnd (h : u.Accounted) (media : Nat) : (u.pushEnd media).Accounted := by
  have together := h.together
  unfold RtspServer.pushEnd
  split
  case isTrue flying =>
    refine .of ⟨together.loop, together.server⟩ ((h.balanced'.perm ?_).give) h.unterminated h.alive
    have back : (u.inFlight.map RtspObject.appsrc).Perm (.appsrc media :: (u.inFlight.erase media).map .appsrc) :=
      (List.perm_cons_erase flying).map _
    simp only [sources, ← List.append_assoc]
    exact List.perm_middle.symm.trans (back.symm.append_left _)
  case isFalse => exact h

theorem Accounted.step (h : u.Accounted) (s : u.Scheduled) (e : Event) : (u.step e).Accounted := by
  cases e with
  | start config attaches =>
    simp only [RtspServer.step]
    split
    case isTrue idle => exact h.start s config attaches idle
    case isFalse => exact h
  | stop =>
    simp only [RtspServer.step]
    split
    · exact h.stop
    · exact h
  | caller => exact h.caller
  | loop => exact h.loop s
  | mediaConfigure found => exact h.mediaConfigure found
  | pushBegin => exact h.pushBegin
  | pushEnd media => exact h.pushEnd media

/-- Every run keeps both. -/
theorem server_run (es : List Event) : (es.foldl step {}).Scheduled ∧ (es.foldl step {}).Accounted :=
  Runs.foldl_inv' (I := fun u : RtspServer => u.Scheduled ∧ u.Accounted)
    (fun _ e h => ⟨h.1.step h.2 e, h.2.step h.1 e⟩) es ⟨scheduled_new, accounted_new⟩

/-- In every interleaving no reference is given back twice, no joinable thread is assigned to and the
loop's thread never outlives the loop or its context; the references held are exactly the threads', so a
push in flight has a live source; and a server that no call is under way on holds, when it does not run,
no object of a start. -/
theorem server_references (es : List Event) :
    (es.foldl step {}).refs.overdrawn = false ∧ (es.foldl step {}).terminated = false ∧
      (es.foldl step {}).dangling = false ∧
      (∀ o, (es.foldl step {}).refs.held o = (es.foldl step {}).owners.count o) ∧
      (∀ media ∈ (es.foldl step {}).inFlight, 0 < (es.foldl step {}).refs.held (.appsrc media)) ∧
      ((es.foldl step {}).caller = .idle → (es.foldl step {}).running = false →
        (es.foldl step {}).thread = .none ∧ ∀ n, (es.foldl step {}).refs.held (.context n) = 0 ∧
          (es.foldl step {}).refs.held (.loop n) = 0 ∧ (es.foldl step {}).refs.held (.server n) = 0) := by
  obtain ⟨scheduled, accounted⟩ := server_run es
  generalize es.foldl step {} = u at scheduled accounted ⊢
  refine ⟨accounted.balanced.sound, accounted.unterminated, accounted.alive, accounted.balanced.counts,
    fun media flying => ?_, fun idle off => ?_⟩
  · refine accounted.balanced.held_pos ?_
    simp [owners, sources, flying]
  · have down : u.context = none := by
      have built := scheduled.built
      cases context : u.context <;> simp_all
    have free : u.thread = .none := by simpa [idle, off] using scheduled.thread
    refine ⟨free, fun n => ?_⟩
    have balanced := accounted.balanced'
    rw [down] at balanced
    refine ⟨balanced.held_eq_zero ?_, balanced.held_eq_zero ?_, balanced.held_eq_zero ?_⟩ <;> simp [objects, sources]

/-! ## When a stop returns -/

/-- The thread whose step an event is: the caller's or the loop's. -/
inductive ServerThread where
  | caller
  | loop
  deriving DecidableEq, Repr

def Event.thread : Event → Option ServerThread
  | .caller => some .caller
  | .loop => some .loop
  | _ => none

/-- A stop under way whose loop is not to quit. -/
structure Stuck (u : RtspServer) : Prop where
  join : u.caller = .join
  loop : u.thread = .spawned ∨ u.thread = .looping ∧ u.loopRunning = true

theorem Stuck.step (h : Stuck u) (e : Event) : Stuck (u.step e) := by
  obtain ⟨join, loop⟩ := h
  cases e with
  | start | stop =>
    simp only [RtspServer.step, join]
    exact ⟨join, loop⟩
  | caller =>
    simp only [RtspServer.step, callerStep, join]
    obtain at_ | ⟨at_, on⟩ := loop
    · rw [at_]
      exact ⟨join, .inl at_⟩
    · rw [at_]
      exact ⟨join, .inr ⟨at_, on⟩⟩
  | loop =>
    simp only [RtspServer.step, loopStep]
    obtain at_ | ⟨at_, on⟩ := loop
    · rw [at_]
      exact ⟨join, .inr ⟨rfl, rfl⟩⟩
    · rw [at_]
      simp only [on, ↓reduceIte]
      exact ⟨join, .inr ⟨rfl, rfl⟩⟩
  | mediaConfigure found | pushBegin | pushEnd media =>
    constructor <;> grind [RtspServer.step, RtspServer.mediaConfigure, RtspServer.pushBegin, RtspServer.pushEnd]

/-- How many steps the loop's thread is away from its end once the loop was told to quit. -/
def stepsToEnd : LoopThread → Nat
  | .looping => 2
  | .left => 1
  | _ => 0

def stepsToReturn : RtspCaller → Nat
  | .join => 2
  | .release => 1
  | .idle => 0

/-- A stop under way whose loop was told to quit. -/
structure Draining (u : RtspServer) : Prop where
  scheduled : u.Scheduled
  accounted : u.Accounted
  stopping : u.caller ≠ .idle
  told : u.caller = .join → u.loopRunning = false ∧ u.thread ≠ .spawned

/-- A stop has returned. -/
structure Stopped (u : RtspServer) : Prop where
  idle : u.caller = .idle
  running : u.running = false
  context : u.context = none
  thread : u.thread = .none

/-- The second section of a stop finds the thread joined. -/
theorem Scheduled.released (s : u.Scheduled) (at_ : u.caller = .release) : u.thread = .none := by
  have up := s.up
  have thread := s.thread
  cases there : u.thread <;> simp_all

theorem draining_progress :
    Runs.Progress step Event.thread (fun _ => True) Draining Stopped
      (fun u => if stepsToEnd u.thread = 0 then .caller else .loop)
      (fun u => stepsToEnd u.thread + stepsToReturn u.caller) where
  pos u h := by
    have stopping := h.stopping
    cases at_ : u.caller <;> simp_all [stepsToReturn]
  moves u e h _ := by
    obtain ⟨scheduled, accounted, stopping, told⟩ := h
    have scheduled' := scheduled.step accounted e
    have accounted' := accounted.step scheduled e
    cases e with
    | start | stop =>
      simp only [RtspServer.step, stopping, ↓reduceIte]
      exact .inr ⟨⟨scheduled, accounted, stopping, told⟩, .inr ⟨trivial, trivial, nofun⟩⟩
    | caller =>
      obtain ⟨refs, released, -⟩ := accounted.together.release
      have up := scheduled.up
      cases at_ : u.caller with
      | idle => exact absurd at_ stopping
      | release =>
        have off : u.running = false := by cases running : u.running <;> simp_all
        refine .inl ⟨?_, ?_, ?_, ?_⟩ <;>
          simp [RtspServer.step, callerStep, at_, released, off, scheduled.released at_]
      | join =>
        obtain ⟨quit, run⟩ := told at_
        refine .inr ⟨⟨scheduled', accounted', ?_, ?_⟩, ?_⟩
        all_goals
          simp only [RtspServer.step, callerStep, at_]
          cases there : u.thread <;> simp_all [stepsToEnd, stepsToReturn, Event.thread]
    | loop =>
      cases at_ : u.caller with
      | idle => exact absurd at_ stopping
      | release =>
        have unmoved : u.step .loop = u := by simp [RtspServer.step, loopStep, scheduled.released at_]
        rw [unmoved]
        refine .inr ⟨⟨scheduled, accounted, stopping, told⟩, .inr ⟨by rw [at_], rfl, ?_⟩⟩
        simp [scheduled.released at_, stepsToEnd, Event.thread]
      | join =>
        obtain ⟨quit, run⟩ := told at_
        refine .inr ⟨⟨scheduled', accounted', ?_, ?_⟩, ?_⟩
        all_goals
          cases there : u.thread <;> simp_all [RtspServer.step, loopStep, stepsToEnd, Event.thread]
    | mediaConfigure found | pushBegin | pushEnd media =>
      refine .inr ⟨⟨scheduled', accounted', ?_, ?_⟩, .inr ⟨?_, ?_, nofun⟩⟩ <;>
        grind [RtspServer.step, RtspServer.mediaConfigure, RtspServer.pushBegin, RtspServer.pushEnd]

/-- A stop of a running server returns within four rounds, with the thread ended and the objects freed,
exactly when the loop runs already; a stop that comes before the thread has got to run the loop tells
nobody to quit, and waits for the thread for good. -/
theorem stop_returns_iff (es : List Event) (idle : (es.foldl step {}).caller = .idle)
    (running : (es.foldl step {}).running = true) :
    ((es.foldl step {}).thread = .looping ∧ ∀ rounds : List (List Event),
        (∀ round ∈ rounds, ∀ thread, ∃ e ∈ round, Event.thread e = some thread) → 4 ≤ rounds.length →
          ∃ first, first <+: rounds.flatten ∧ Stopped (first.foldl step ((es.foldl step {}).step .stop))) ∨
      (es.foldl step {}).thread = .spawned ∧
        ∀ fs : List Event, (fs.foldl step ((es.foldl step {}).step .stop)).caller = .join := by
  obtain ⟨s, h⟩ := server_run es
  generalize es.foldl step {} = u at s h idle running ⊢
  have built : u.loop.isSome = true := by
    rw [h.together.loop]
    exact s.built.2 (.inl running)
  have stopped : (u.step .stop).caller = .join ∧ (u.step .stop).thread = u.thread ∧ (u.step .stop).loopRunning = false := by
    simp only [RtspServer.step, idle, ↓reduceIte, RtspServer.stop, running]
    grind
  obtain ⟨join, same, quit⟩ := stopped
  obtain spawned | ⟨looping, -⟩ := s.serving running
  · refine .inr ⟨spawned, fun fs => ?_⟩
    have stuck : Stuck (u.step .stop) := ⟨join, .inl (same.trans spawned)⟩
    exact (Runs.foldl_inv' (fun _ e h => h.step e) fs stuck).join
  · refine .inl ⟨looping, fun rounds fair enough => ?_⟩
    have draining : Draining (u.step .stop) :=
      ⟨s.step h .stop, h.step s .stop, by simp [join], fun _ => ⟨quit, by simp [same, looping]⟩⟩
    refine draining_progress.rounds rounds (fun _ _ _ _ => trivial) fair draining ?_
    simpa [same, looping, join, stepsToEnd, stepsToReturn] using enough

/-- A server whose loop runs. -/
def serving : List Event := [.start {} true, .loop]

theorem serving_stop_returns :
    ((serving.foldl step {}).thread = .looping ∧ ∀ rounds : List (List Event),
        (∀ round ∈ rounds, ∀ thread, ∃ e ∈ round, Event.thread e = some thread) → 4 ≤ rounds.length →
          ∃ first, first <+: rounds.flatten ∧ Stopped (first.foldl step ((serving.foldl step {}).step .stop))) ∨
      (serving.foldl step {}).thread = .spawned ∧
        ∀ fs : List Event, (fs.foldl step ((serving.foldl step {}).step .stop)).caller = .join :=
  stop_returns_iff serving (by decide) (by decide)

/-! ## The server as its callers see it -/

/-- The server without its threads. -/
def port (u : RtspServer) : AppStreamPort where
  serving := if u.running then some u.config else none

/-- The calls that a run's events make, with what the streaming service sees of each. -/
inductive Call where
  | start (config : AppStreamConfig) (attaches : Bool)
  | stop

def Call.apply (a : AppStreamPort) : Call → AppStreamPort
  | .start config attaches => (IAppStreamServer.start a config attaches).1
  | .stop => IAppStreamServer.stop a

def call (u : RtspServer) (e : Event) : Option Call :=
  if u.caller = .idle then
    match e with
    | .start config attaches => some (.start config attaches)
    | .stop => some .stop
    | _ => none
  else none

/-- What the port answers to a call. -/
def Call.answer (a : AppStreamPort) : Call → Bool
  | .start config attaches => (IAppStreamServer.start a config attaches).2
  | .stop => IAppStreamServer.isRunning (IAppStreamServer.stop a)

/-- What the server answers to a call: a start its result, a stop whether the server still runs. -/
def answered (u : RtspServer) : Call → Bool
  | .start .. => u.answer
  | .stop => u.running

theorem port_start (s : u.Scheduled) (h : u.Accounted) (idle : u.caller = .idle) (config : AppStreamConfig)
    (attaches : Bool) :
    ((u.start config attaches).port, (u.start config attaches).answer) = IAppStreamServer.start u.port config attaches := by
  cases running : u.running with
  | true => simp [RtspServer.start, port, running, IAppStreamServer.start]
  | false =>
    have down : u.context = none := by
      have built := s.built
      cases context : u.context <;> simp_all
    obtain ⟨refs, after, -⟩ := start_eq config attaches running down h.together
    rw [after]
    cases attaches <;> simp [port, running, IAppStreamServer.start]

theorem port_stop : u.stop.port = IAppStreamServer.stop u.port ∧ u.stop.running = false := by
  unfold RtspServer.stop
  cases running : u.running <;> simp [port, running, IAppStreamServer.stop]

/-- An event is a call of the port, or callers cannot tell it. -/
theorem port_step (s : u.Scheduled) (h : u.Accounted) (e : Event) :
    (u.step e).port = (call u e).elim u.port (Call.apply u.port) ∧
      ∀ c, call u e = some c → answered (u.step e) c = Call.answer u.port c := by
  cases e with
  | start config attaches =>
    by_cases idle : u.caller = .idle
    · obtain ⟨after, answer⟩ := Prod.ext_iff.1 (port_start s h idle config attaches)
      simp only [call, idle, ↓reduceIte, RtspServer.step, Option.elim_some, Option.some.injEq, forall_eq']
      exact ⟨after, answer⟩
    · simp [call, idle, RtspServer.step]
  | stop =>
    by_cases idle : u.caller = .idle
    · obtain ⟨after, off⟩ := port_stop (u := u)
      simp only [call, idle, ↓reduceIte, RtspServer.step, Option.elim_some, Option.some.injEq, forall_eq']
      exact ⟨after, off⟩
    · simp [call, idle, RtspServer.step]
  | caller =>
    obtain ⟨refs, released, -⟩ := h.together.release
    have same : u.callerStep.running = u.running ∧ u.callerStep.config = u.config := by
      unfold callerStep
      rw [released]
      grind
    simp [call, RtspServer.step, port, same]
  | loop =>
    have same : u.loopStep.running = u.running ∧ u.loopStep.config = u.config := by
      cases there : u.thread <;> grind [loopStep]
    simp [call, RtspServer.step, port, same]
  | mediaConfigure found =>
    have same : (u.mediaConfigure found).running = u.running ∧ (u.mediaConfigure found).config = u.config := by
      grind [RtspServer.mediaConfigure]
    simp [call, RtspServer.step, port, same]
  | pushBegin =>
    have same : u.pushBegin.running = u.running ∧ u.pushBegin.config = u.config := by
      grind [RtspServer.pushBegin]
    simp [call, RtspServer.step, port, same]
  | pushEnd media =>
    have same : (u.pushEnd media).running = u.running ∧ (u.pushEnd media).config = u.config := by
      grind [RtspServer.pushEnd]
    simp [call, RtspServer.step, port, same]

/-- In every interleaving the server answers the calls as the port does, and serves what the port serves. -/
theorem server_refines (es : List Event) :
    (es.foldl step {}).port = ((Runs.answers step call answered {} es).map Prod.fst).foldl Call.apply {} ∧
      Runs.answers step call answered {} es =
        Runs.portAnswers Call.apply Call.answer {} ((Runs.answers step call answered {} es).map Prod.fst) := by
  have refinement : Runs.Refinement step call answered Call.apply Call.answer port fun u => u.Scheduled ∧ u.Accounted :=
    { keeps := fun u e h => ⟨h.1.step h.2 e, h.2.step h.1 e⟩
      port_step := fun u e h => (port_step h.1 h.2 e).1
      answers_step := fun u e h => (port_step h.1 h.2 e).2 }
  exact refinement.run ⟨scheduled_new, accounted_new⟩ es

end RtspServer

end SstCam
