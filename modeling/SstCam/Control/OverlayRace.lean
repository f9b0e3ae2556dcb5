import SstCam.Control.RecorderPhase

/-!
# Two threads behind one overlay

The clock thread and the BLE thread each update the match, take a snapshot of the session and
publish its binding data, in three separate critical sections. A snapshot may therefore be published
over one that has seen more updates. Where no publication comes that late (`overlayOutline`), the thread
of the last update publishes a snapshot that has seen all of them, and nothing older comes after it.
-/

namespace SstCam
set_option autoImplicit false

open Atomic Device

variable {ρ γ : Type}

/-- The two threads that update the match. -/
inductive OverlayThread where
  | clock
  | ble
  deriving DecidableEq, Repr

/-- The commands that update the match. -/
inductive MatchRequest where
  | score (msg : ScoreUpdateCommand)
  | control (msg : MatchControlCommand)
  deriving DecidableEq, Repr

def MatchRequest.payload : MatchRequest → CommandPayload
  | .score msg => .scoreUpdate msg
  | .control msg => .matchControl msg

/-- The clock thread: one `TickClock` after the other. -/
def clockThread : List (Ports γ) → Prog Call (Device ρ γ) Unit
  | [] => return ()
  | p :: ps => do
    MatchHandler.tickClock p
    clockThread ps

section
variable [IContinuousRecorder ρ] [IPlatformStreamer γ]

/-- A match command under its correlation id, dispatched. -/
def dispatchMatch (p : Ports γ) (id : String) (request : MatchRequest) : Prog Call (Device ρ γ) CommandResponse :=
  dispatch p { correlationId := id, payload := some request.payload }

/-- The BLE thread: one dispatched command after the other. -/
def bleThread : List (Ports γ × String × MatchRequest) → Prog Call (Device ρ γ) Unit
  | [] => return ()
  | write :: rest => do
    let _ ← dispatchMatch write.1 write.2.1 write.2.2
    bleThread rest

/-- The device with both threads about to start. -/
def overlayPool (d : Device ρ γ) (ticks : List (Ports γ)) (writes : List (Ports γ × String × MatchRequest)) :
    Pool OverlayThread Call (Device ρ γ) Unit where
  shared := d
  threads
    | .clock => clockThread ticks
    | .ble => bleThread writes

end

/-! ## The outline -/

/-- What a thread has in hand: the snapshot it took last, whether it has applied an update and taken no
snapshot since, and whether it has taken one since and not published it. -/
structure Publisher where
  snap : SessionState
  owes : Bool := false
  carries : Bool := false

/-- The thread is not between an update and its publication. -/
structure Publisher.Idle (v : Publisher) : Prop where
  owes : v.owes = false
  carries : v.carries = false

/-- What has happened so far: the updates applied, how many of them the snapshot of each thread has seen,
and the snapshot published last with how many it had seen. -/
structure Published where
  updates : Nat := 0
  seen : OverlayThread → Nat := fun _ => 0
  last : Option SessionState := none
  shown : Nat := 0

/-- A snapshot that has seen every update is the session; and as long as the one published last is not,
some thread has its update still to publish, by a snapshot that has seen every update. -/
structure ShowsPublished (s : Device ρ γ) (threads : OverlayThread → Publisher) (g : Published) : Prop where
  configured : ¬s.session.phase < .configured
  shows : ∀ x, g.last = some x → s.overlay.bindingData = buildBindingData x
  seen_le : ∀ i, g.seen i ≤ g.updates
  shown_le : g.shown ≤ g.updates
  snapped : ∀ i, g.seen i = g.updates → (threads i).snap = s.session
  current : g.shown = g.updates → ∀ x, g.last = some x → x = s.session
  published : 0 < g.updates → (g.last.isSome ∧ g.shown = g.updates) ∨
    ∃ i, (threads i).owes = true ∨ ((threads i).carries = true ∧ g.seen i = g.updates)

/-- The guard: no thread publishes a snapshot that has seen fewer updates than the one published last. -/
def overlayOutline (ρ γ : Type) : Outline OverlayThread Call (Device ρ γ) Publisher Published where
  mark _ call s _ v :=
    match call with
    | .snapshot => { snap := s.session, carries := v.owes || v.carries }
    | .applyMatchUpdate => { v with owes := true }
    | .setBindingData => { v with carries := false }
    | _ => v
  note i call _ _ v g :=
    match call with
    | .snapshot => { g with seen := Function.update g.seen i g.updates }
    | .applyMatchUpdate => { g with updates := g.updates + 1 }
    | .setBindingData => { g with last := some v.snap, shown := g.seen i }
    | _ => g
  Inv := ShowsPublished
  Guard i call _ _ _ g := call = .setBindingData → g.shown ≤ g.seen i

instance (i : OverlayThread) (call : Call) (s t : Device ρ γ) (vs : OverlayThread → Publisher) (g : Published) :
    Decidable ((overlayOutline ρ γ).Guard i call s t vs g) :=
  inferInstanceAs (Decidable (call = .setBindingData → g.shown ≤ g.seen i))

variable {i : OverlayThread} {v : Publisher}

theorem outlined_snapshot :
    (overlayOutline ρ γ).Outlined i
      (fun v' state => v'.snap = state ∧ v'.owes = false ∧ v'.carries = (v.owes || v.carries)) v snapshot := by
  refine Outline.outlined_atomically.2 fun s vs g hv inv _ => ?_
  refine ⟨⟨inv.configured, inv.shows, fun j => ?_, inv.shown_le, fun j seen => ?_, inv.current, fun some => ?_⟩,
    rfl, rfl, rfl⟩
  · by_cases hj : j = i
    · simp [overlayOutline, hj]
    · simpa [overlayOutline, Function.update_of_ne hj] using inv.seen_le j
  · by_cases hj : j = i
    · subst hj
      simp [overlayOutline]
    · simp only [overlayOutline, Function.update_of_ne hj] at seen ⊢
      exact inv.snapped j seen
  · refine (inv.published some).imp_right fun ⟨j, pending⟩ => ⟨j, ?_⟩
    by_cases hj : j = i
    · subst hj
      rw [hv] at pending
      right
      simpa [overlayOutline] using pending.imp_right And.left
    · simpa [overlayOutline, Function.update_of_ne hj] using pending

theorem outlined_applyMatchUpdate (mutate : LiveMatch → LiveMatch) :
    (overlayOutline ρ γ).Outlined i (fun _ applied => applied = true) v
      (callSession .applyMatchUpdate (SessionManager.applyMatchUpdate mutate)) := by
  refine Outline.outlined_atomically.2 fun s vs g hv inv _ => ?_
  refine ⟨⟨?_, inv.shows, fun j => Nat.le_succ_of_le (inv.seen_le j), Nat.le_succ_of_le inv.shown_le,
    fun j seen => ?_, fun shown => ?_, fun _ => .inr ⟨i, .inl ?_⟩⟩, ?_⟩
  · simpa using inv.configured
  · exact absurd seen (Nat.lt_succ_of_le (inv.seen_le j)).ne
  · exact absurd shown (Nat.lt_succ_of_le inv.shown_le).ne
  · simp [overlayOutline]
  · show (SessionManager.applyMatchUpdate mutate s.session).2 = true
    rw [SessionManager.applyMatchUpdate, if_neg inv.configured]

/-- Publishing the snapshot in hand. -/
theorem outlined_setBindingData {state : SessionState} (snap : v.snap = state) (taken : v.owes = false) :
    (overlayOutline ρ γ).Outlined i (fun v' _ => v'.Idle) v
      (callOverlay .setBindingData fun c => (c.setBindingData (buildBindingData state), ())) := by
  refine Outline.outlined_atomically.2 fun s vs g hv inv guard => ?_
  have inOrder : g.shown ≤ g.seen i := guard rfl
  refine ⟨⟨inv.configured, fun x last => ?_, inv.seen_le, inv.seen_le i, fun j seen => ?_, fun seen x last => ?_,
    fun some => ?_⟩, taken, rfl⟩
  · cases last
    rw [snap]
    rfl
  · have kept := inv.snapped j seen
    by_cases hj : j = i
    · subst hj
      rw [hv] at kept
      simpa [overlayOutline] using kept
    · simpa [Function.update_of_ne hj] using kept
  · cases last
    exact hv ▸ inv.snapped i seen
  · by_cases all : g.seen i = g.updates
    · exact .inl ⟨rfl, all⟩
    · have fewer := inv.seen_le i
      obtain ⟨-, shown⟩ | ⟨j, pending⟩ := inv.published some
      · exact absurd (Nat.le_antisymm fewer (shown ▸ inOrder)) all
      · refine .inr ⟨j, ?_⟩
        by_cases hj : j = i
        · subst hj
          rw [hv, taken] at pending
          exact absurd (pending.resolve_left (by simp)).2 all
        · simpa [overlayOutline, Function.update_of_ne hj] using pending

theorem outlined_refresh (nowMs : Nat) :
    (overlayOutline ρ γ).Outlined i (fun v' _ => v' = v) v (callOverlay .refresh (OverlayController.refresh nowMs)) := by
  refine Outline.outlined_atomically.2 fun s vs g hv inv _ => ?_
  have same : Function.update vs i v = vs := by rw [← hv, Function.update_eq_self]
  refine ⟨?_, rfl⟩
  show ShowsPublished _ (Function.update vs i v) g
  rw [same]
  exact { inv with shows := fun x last => (OverlayController.bindingData_refresh nowMs s.overlay).trans (inv.shows x last) }

theorem outlined_syncOverlay (p : Ports γ) :
    (overlayOutline ρ γ).Outlined i (fun v' _ => v'.Idle) v (MatchHandler.syncOverlay p) := by
  refine outlined_snapshot.bind fun v' state ⟨snap, taken, _⟩ => ?_
  refine (outlined_setBindingData snap taken).bind fun v' _ idle => ?_
  exact (outlined_refresh p.nowMs).bind fun v'' _ same => Outline.outlined_pure.2 (same ▸ idle)

theorem outlined_tickClock (p : Ports γ) :
    (overlayOutline ρ γ).Outlined i (fun v' _ => v'.Idle) v (MatchHandler.tickClock p) := by
  refine (outlined_applyMatchUpdate _).bind fun v' advanced applied => ?_
  rw [applied, if_pos rfl]
  exact outlined_syncOverlay p

theorem outlined_matchControl (p : Ports γ) (msg : MatchControlCommand) :
    (overlayOutline ρ γ).Outlined i (fun v' _ => v'.Idle) v (MatchHandler.handleMatchControl p msg) := by
  refine (outlined_applyMatchUpdate _).bind fun v' applied yes => ?_
  rw [yes]
  exact (outlined_syncOverlay p).bind fun _ _ idle => Outline.outlined_pure.2 idle

/-- The snapshot that the team is checked against comes before the update. -/
theorem outlined_scoreUpdate (p : Ports γ) (msg : ScoreUpdateCommand) (idle : v.Idle) :
    (overlayOutline ρ γ).Outlined i (fun v' _ => v'.Idle) v (MatchHandler.handleScoreUpdate p msg) := by
  refine outlined_snapshot.bind fun v' state ⟨_, taken, carries⟩ => ?_
  have idle' : v'.Idle := ⟨taken, by rw [carries, idle.owes, idle.carries]; rfl⟩
  split
  · exact Outline.outlined_pure.2 idle'
  · dsimp only
    split
    · exact Outline.outlined_pure.2 idle'
    · apply (outlined_applyMatchUpdate _).bind
      rintro v' applied yes
      rw [yes]
      exact (outlined_syncOverlay p).bind fun _ _ idle => Outline.outlined_pure.2 idle

theorem outlined_clockThread (ticks : List (Ports γ)) (idle : v.Idle) :
    (overlayOutline ρ γ).Outlined i (fun v' _ => v'.Idle) v (clockThread ticks) := by
  induction ticks generalizing v with
  | nil => exact Outline.outlined_pure.2 idle
  | cons p ps ih => exact (outlined_tickClock p).bind fun _ _ idle => ih idle

section
variable [IContinuousRecorder ρ] [IPlatformStreamer γ]

theorem outlined_dispatchMatch (p : Ports γ) (id : String) (request : MatchRequest) (idle : v.Idle) :
    (overlayOutline ρ γ).Outlined i (fun v' _ => v'.Idle) v (dispatchMatch p id request) := by
  rw [dispatchMatch, dispatch_eq p _ rfl]
  refine Outline.Outlined.map ?_
  cases request with
  | score msg => exact outlined_scoreUpdate p msg idle
  | control msg => exact outlined_matchControl p msg

theorem outlined_bleThread (writes : List (Ports γ × String × MatchRequest)) (idle : v.Idle) :
    (overlayOutline ρ γ).Outlined i (fun v' _ => v'.Idle) v (bleThread writes) := by
  induction writes generalizing v with
  | nil => exact Outline.outlined_pure.2 idle
  | cons write rest ih =>
    exact (outlined_dispatchMatch write.1 write.2.1 write.2.2 idle).bind fun _ _ idle => ih idle

/-- The pool with its ghosts: each thread has seen the session, and nothing is published. -/
def overlayStart (d : Device ρ γ) (ticks : List (Ports γ)) (writes : List (Ports γ × String × MatchRequest)) :
    Marked OverlayThread Call (Device ρ γ) Publisher Published Unit :=
  ⟨overlayPool d ticks writes, fun _ => { snap := d.session }, {}⟩

def overlayRun (d : Device ρ γ) (ticks : List (Ports γ)) (writes : List (Ports γ × String × MatchRequest))
    (schedule : List OverlayThread) : Marked OverlayThread Call (Device ρ γ) Publisher Published Unit :=
  schedule.foldl (overlayOutline ρ γ).step (overlayStart d ticks writes)

theorem overlayRun_pool (d : Device ρ γ) (ticks : List (Ports γ)) (writes : List (Ports γ × String × MatchRequest))
    (schedule : List OverlayThread) :
    (overlayRun d ticks writes schedule).pool = (overlayPool d ticks writes).run schedule :=
  Outline.run_pool _ schedule

/-- No call of the schedule publishes a snapshot over one that has seen more updates. -/
def PublishedInOrder (d : Device ρ γ) (ticks : List (Ports γ)) (writes : List (Ports γ × String × MatchRequest))
    (schedule : List OverlayThread) : Prop :=
  Runs.Along (overlayOutline ρ γ).step (overlayOutline ρ γ).Guarded (overlayStart d ticks writes) schedule

instance (d : Device ρ γ) (ticks : List (Ports γ)) (writes : List (Ports γ × String × MatchRequest))
    (schedule : List OverlayThread) : Decidable (PublishedInOrder d ticks writes schedule) :=
  inferInstanceAs (Decidable (Runs.Along ..))

/-- The outline holds along every schedule that publishes in order. -/
theorem overlayRun_holds {d : Device ρ γ} {ticks : List (Ports γ)} {writes : List (Ports γ × String × MatchRequest)}
    {schedule : List OverlayThread} (configured : ¬d.session.phase < .configured)
    (inOrder : PublishedInOrder d ticks writes schedule) :
    (overlayOutline ρ γ).Holds (fun _ v _ => v.Idle) (overlayRun d ticks writes schedule) := by
  have start : (overlayOutline ρ γ).Holds (fun _ v (_ : Unit) => v.Idle) (overlayStart d ticks writes) :=
    { inv :=
        { configured := configured
          shows := by simp [overlayStart]
          seen_le := fun _ => Nat.le_refl _
          shown_le := Nat.le_refl _
          snapped := fun _ _ => rfl
          current := by simp [overlayStart]
          published := by simp [overlayStart] }
      outlined := fun i => by
        cases i with
        | clock => exact outlined_clockThread ticks ⟨rfl, rfl⟩
        | ble => exact outlined_bleThread writes ⟨rfl, rfl⟩ }
  exact start.run inOrder

/-- **The overlay and the match.** Along every schedule that publishes in order, once all calls have
returned, with an update applied, the controller shows the session as it is. -/
theorem overlay_latest (d : Device ρ γ) (ticks : List (Ports γ)) (writes : List (Ports γ × String × MatchRequest))
    (schedule : List OverlayThread) (configured : ¬d.session.phase < .configured)
    (returned : ((overlayPool d ticks writes).run schedule).Returned)
    (applied : 0 < (overlayRun d ticks writes schedule).notes.updates)
    (inOrder : PublishedInOrder d ticks writes schedule) :
    ((overlayPool d ticks writes).run schedule).shared.overlay.bindingData =
      buildBindingData ((overlayPool d ticks writes).run schedule).shared.session := by
  have holds := overlayRun_holds configured inOrder
  have idle : ∀ i, ((overlayRun d ticks writes schedule).marks i).Idle := fun i =>
    (holds.post_of_returned (by rwa [overlayRun_pool]) i).elim fun _ idle => idle
  rw [← overlayRun_pool]
  obtain ⟨published, shown⟩ | ⟨i, pending⟩ := holds.inv.published applied
  · obtain ⟨last, published⟩ := Option.isSome_iff_exists.1 published
    rw [holds.inv.shows last published, holds.inv.current shown last published]
  · rw [(idle i).owes, (idle i).carries] at pending
    simp at pending

end

/-- A configured session between teams A and B. -/
def configuredDevice : Device RecorderPort StreamerPort where
  session := { phase := .configured, config := some { teamAId := "A", teamBId := "B" } }
  recording := { recorder := {} }

/-- A goal for A. -/
def goalForA : List (Ports StreamerPort × String × MatchRequest) :=
  [({}, "goal", .score { teamId := "A", delta := 1 })]

/-- One tick and one goal. The clock publishes the snapshot it took before the goal, and then the goal is
published. -/
def orderlySchedule : List OverlayThread :=
  [.clock, .ble, .clock, .ble, .clock, .ble, .ble, .clock, .ble]

theorem orderlySchedule_returned : ((overlayPool configuredDevice [{}] goalForA).run orderlySchedule).Returned :=
  fun i => by cases i <;> decide

theorem overlay_latest_at_orderly :
    ((overlayPool configuredDevice [{}] goalForA).run orderlySchedule).shared.overlay.bindingData =
      buildBindingData ((overlayPool configuredDevice [{}] goalForA).run orderlySchedule).shared.session :=
  overlay_latest configuredDevice [{}] goalForA orderlySchedule (by decide) orderlySchedule_returned (by decide)
    (by decide)

/-- The same calls. The clock takes its snapshot, the goal is applied and published, and then the clock
publishes. -/
def staleSchedule : List OverlayThread :=
  [.clock, .clock, .ble, .ble, .ble, .ble, .ble, .clock, .clock]

theorem staleSchedule_returned : ((overlayPool configuredDevice [{}] goalForA).run staleSchedule).Returned :=
  fun i => by cases i <;> decide

/-- The overlay keeps the score from before the goal. -/
theorem overlay_left_stale :
    ¬∀ (d : Device RecorderPort StreamerPort) (ticks : List (Ports StreamerPort))
        (writes : List (Ports StreamerPort × String × MatchRequest)) (schedule : List OverlayThread),
      ¬d.session.phase < .configured → ((overlayPool d ticks writes).run schedule).Returned →
      0 < (overlayRun d ticks writes schedule).notes.updates →
      ((overlayPool d ticks writes).run schedule).shared.overlay.bindingData =
        buildBindingData ((overlayPool d ticks writes).run schedule).shared.session := by
  intro all
  have shown := all configuredDevice [{}] goalForA staleSchedule (by decide) staleSchedule_returned (by decide)
  exact absurd shown (by decide)

end SstCam
