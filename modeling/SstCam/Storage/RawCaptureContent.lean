import Mathlib.Data.List.TakeWhile
import SstCam.Lib.Runs
import SstCam.Storage.RawCaptureAccount
import SstCam.Storage.RawCaptureStart

/-!
# What a raw capture leaves on the disk

When a stop returns, the file of each camera holds the frames that were accepted for the camera, in
order, but for those its ring dropped to make room. The writers keep their accounts in every
interleaving; a thread that a stop has joined has emptied its ring, and once the writers are taken
away no ring gets a frame any more.
-/

namespace SstCam
set_option autoImplicit false

/-- The thread of the camera has been joined. -/
def StopPc.joined (camera : Nat) : StopPc → Bool
  | .notCalled => false
  | .marking i | .closing i | .joining i => camera < i
  | .draining i | .writing i _ | .closingFile i => camera ≤ i
  | .returned => true

namespace RawCaptureEvent

/-- No write of the event fails. -/
def Faultless : RawCaptureEvent → Prop
  | .writer _ room | .stopper room => room = none
  | _ => True

end RawCaptureEvent

namespace RawCapture

variable {group : List Char} {s : RawCapture} {e : RawCaptureEvent} {camera : Nat} {w : CameraWriter} {accepted : List Accepted}

/-- What a step adds to the frames accepted for a camera: the call of `PushCamera` finds the mutex
free, the sink capturing and the camera there. -/
def observe (camera : Nat) (s : RawCapture) (accepted : List Accepted) : RawCaptureEvent → List Accepted
  | .push cameraIndex held locked =>
    if cameraIndex = camera ∧ locked = false ∧ s.sink.capturing = true then
      match s.sink.writers[camera]? with
      | none => accepted
      | some w => acceptFrame w.ring.queue.length held accepted
    else accepted
  | _ => accepted

/-- The invariant of a run: where the writers are, and in what state each is. -/
structure Arranged (group : List Char) (s : RawCapture) : Prop where
  sound : ∀ camera (w : CameraWriter), s.writers[camera]? = some w →
    w.Sound s.sink.capturing (s.stopPc.joined camera) (cameraFile group camera)
  capturing : s.sink.capturing = true → s.draining = [] ∧ s.stopPc = .notCalled
  stopped : s.sink.capturing = false → s.sink.writers = []
  idle : ∀ camera held, s.stopPc ≠ .writing camera held

theorem getElem?_modify_some {ws : List CameraWriter} {f : CameraWriter → CameraWriter} {i : Nat} {P : CameraWriter → Prop}
    (hw : ws[camera]? = some w) (here : i = camera → P (f w)) (there : i ≠ camera → P w) :
    ∃ v, (ws.modify i f)[camera]? = some v ∧ P v := by
  rw [List.getElem?_modify, hw]
  by_cases same : i = camera
  · exact ⟨f w, by simp [same], here same⟩
  · exact ⟨w, by simp [same], there same⟩

theorem atWriter_writers (h : s.Arranged group) (i : Nat) (f : CameraWriter → CameraWriter) :
    (s.atWriter i f).writers = s.writers.modify i f := by
  rw [writers, writers, atWriter]
  cases on : s.sink.capturing with
  | true => simp [(h.capturing on).1]
  | false => simp [h.stopped on]

/-- A push that is accepted. -/
theorem push_cases (cameraIndex : Nat) (held : HeldFrame) (locked : Bool) (s : RawCapture) :
    (s.sink.pushCamera cameraIndex held locked = s.sink ∧
        ∀ camera accepted, s.observe camera accepted (.push cameraIndex held locked) = accepted) ∨
      (s.sink.capturing = true ∧
        s.sink.pushCamera cameraIndex held locked =
          { s.sink with writers := s.sink.writers.modify cameraIndex fun w => { w with ring := (w.ring.push held).1 } } ∧
        ∀ camera w accepted, s.sink.writers[camera]? = some w →
          s.observe camera accepted (.push cameraIndex held locked) =
            if cameraIndex = camera then acceptFrame w.ring.queue.length held accepted else accepted) := by
  unfold FilesystemRawCaptureSink.pushCamera
  split
  case isTrue refused =>
    refine .inl ⟨rfl, ?_⟩
    intro camera accepted
    rw [observe]
    split
    case isTrue here =>
      obtain ⟨rfl, free, on⟩ := here
      have absent : s.sink.writers[cameraIndex]? = none := by simpa [free, on] using refused
      rw [absent]
    case isFalse => rfl
  case isFalse taken =>
    simp only [Bool.not_eq_true, Bool.or_eq_false_iff, Bool.not_eq_false'] at taken
    obtain ⟨⟨free, on⟩, -⟩ := taken
    refine .inr ⟨on, rfl, ?_⟩
    intro camera w accepted hw
    rw [observe]
    simp only [free, on, and_true, hw]

/-- What a step makes of the writer of a camera. -/
def Follows (group : List Char) (camera : Nat) (s : RawCapture) (e : RawCaptureEvent) (w v : CameraWriter) : Prop :=
  v.Sound (s.step e).sink.capturing ((s.step e).stopPc.joined camera) (cameraFile group camera) ∧
    ∀ accepted, w.Account s.disk accepted → v.Account (s.step e).disk (s.observe camera accepted e)

theorem Arranged.push (h : s.Arranged group) {i : Nat} {held : HeldFrame} {locked : Bool} (hw : s.writers[camera]? = some w) :
    ∃ v, (s.step (.push i held locked)).writers[camera]? = some v ∧ Follows group camera s (.push i held locked) w v := by
  have sound := h.sound camera w hw
  obtain ⟨refused, unseen⟩ | ⟨on, taken, seen⟩ := s.push_cases i held locked
  · have same : s.step (.push i held locked) = s := by rw [step, refused]
    refine ⟨w, by rw [same]; exact hw, ?_⟩
    rw [Follows, same]
    refine ⟨sound, ?_⟩
    intro accepted account
    rwa [unseen]
  · have alone : s.writers = s.sink.writers := by simp [writers, (h.capturing on).1]
    have after : (s.step (.push i held locked)).writers =
        s.writers.modify i fun w => { w with ring := (w.ring.push held).1 } := by
      rw [step, taken, alone, writers, (h.capturing on).1, List.append_nil]
    rw [alone] at hw
    have seen := fun accepted => seen camera w accepted hw
    rw [after, alone]
    apply getElem?_modify_some hw
    · rintro rfl
      rw [Follows, step, taken]
      constructor
      · exact { sound with
          capacity := (w.ring.push_capacity held).trans sound.capacity
          capturing := fun _ => ⟨(sound.capturing on).1, (w.ring.push_closed held).trans (sound.capturing on).2⟩
          emptied := fun exited => absurd (sound.stopping (w.leftLoop_of_exited exited)) (by simp [(sound.capturing on).1]) }
      · intro accepted account
        rw [seen, if_pos rfl]
        exact account.push (sound.capturing on).2 sound.capacity held
    · intro other
      rw [Follows, step, taken]
      refine ⟨sound, ?_⟩
      intro accepted account
      rwa [seen, if_neg other]

theorem Arranged.writer (h : s.Arranged group) {i : Nat} (hw : s.writers[camera]? = some w) :
    ∃ v, (s.step (.writer i none)).writers[camera]? = some v ∧ Follows group camera s (.writer i none) w v := by
  have sound := h.sound camera w hw
  cases there : s.writers[i]? with
  | none =>
    have same : s.step (.writer i none) = s := by rw [step, RawCapture.writer, there]
    refine ⟨w, by rw [same]; exact hw, ?_⟩
    rw [Follows, same]
    exact ⟨sound, fun _ => id⟩
  | some u =>
    obtain ⟨loops, account, others⟩ := (h.sound i u there).writerLoop s.disk
    have after : s.step (.writer i none) =
        { s.atWriter i (fun _ => (u.writerLoop none s.disk).2) with disk := (u.writerLoop none s.disk).1 } := by
      rw [step, RawCapture.writer, there]
    have writers : (s.step (.writer i none)).writers = s.writers.modify i fun _ => (u.writerLoop none s.disk).2 := by
      rw [after]
      exact atWriter_writers h i _
    rw [writers]
    apply getElem?_modify_some hw
    · rintro rfl
      rw [there] at hw
      cases hw
      rw [Follows, after]
      exact ⟨loops, account⟩
    · intro ne
      rw [Follows, after]
      refine ⟨sound, ?_⟩
      intro accepted account
      apply account.of_eq rfl rfl
      apply others
      rw [sound.named]
      exact fun same => ne (cameraFile_inj.1 same).symm

theorem Arranged.stop (h : s.Arranged group) (hw : s.writers[camera]? = some w) :
    ∃ v, (s.step .stop).writers[camera]? = some v ∧ Follows group camera s .stop w v := by
  have sound := h.sound camera w hw
  cases on : s.sink.capturing with
  | false =>
    have same : s.step .stop = s := by simp [step, RawCapture.stop, on]
    refine ⟨w, by rw [same]; exact hw, ?_⟩
    rw [Follows, same]
    exact ⟨sound, fun _ => id⟩
  | true =>
    have after : s.step .stop =
        { s with
          sink := { s.sink with capturing := false, writers := [], captureGroupId := [] }
          draining := s.sink.writers
          stopPc := .marking 0 } := by
      simp [step, RawCapture.stop, on]
    have alone : s.writers = s.sink.writers := by simp [writers, (h.capturing on).1]
    refine ⟨w, by rw [after, writers, List.nil_append, ← alone]; exact hw, ?_⟩
    rw [Follows, after]
    refine ⟨sound.mono ?_ ?_, fun _ => id⟩
    · intro past
      cases past
    · intro joined
      simp [StopPc.joined] at joined

/-- A step of a stop that changes one writer, but none of its frames. -/
theorem Arranged.stops (h : s.Arranged group) (off : s.sink.capturing = false) {room : Option Nat} (i : Nat)
    (f : CameraWriter → CameraWriter) (stopPc : StopPc) (hw : s.writers[camera]? = some w)
    (after : s.step (.stopper room) = { s.atWriter i f with stopPc })
    (here : i = camera → w.Sound false (s.stopPc.joined camera) (cameraFile group camera) →
      (f w).Sound false (stopPc.joined camera) (cameraFile group camera) ∧
        ∀ accepted, w.Account s.disk accepted → (f w).Account s.disk accepted)
    (there : i ≠ camera → stopPc.joined camera = s.stopPc.joined camera) :
    ∃ v, (s.step (.stopper room)).writers[camera]? = some v ∧ Follows group camera s (.stopper room) w v := by
  have sound := h.sound camera w hw
  have writers : (s.step (.stopper room)).writers = s.writers.modify i f := by
    rw [after]
    exact atWriter_writers h i f
  have off' : (s.step (.stopper room)).sink.capturing = false := by
    rw [after]
    exact off
  rw [writers]
  apply getElem?_modify_some hw
  · intro same
    obtain ⟨sound', account⟩ := here same (off ▸ sound)
    rw [Follows, off', after]
    exact ⟨sound', account⟩
  · intro other
    rw [Follows, off', after]
    refine ⟨?_, fun _ => id⟩
    rw [there other, ← off]
    exact sound

theorem off_of_stopPc (h : s.Arranged group) (called : s.stopPc ≠ .notCalled) : s.sink.capturing = false := by
  by_contra on
  exact called (h.capturing (by simpa using on)).2

theorem atWriter_id (i : Nat) (s : RawCapture) : s.atWriter i id = s := by
  rw [atWriter, List.modify_id, List.modify_id]

/-- `Stop` has gone through all writers. -/
theorem Arranged.returns (h : s.Arranged group) {room : Option Nat} {i : Nat} (pc : s.stopPc = .marking i)
    (past : s.draining.length ≤ i) (hw : s.writers[camera]? = some w) :
    ∃ v, (s.step (.stopper room)).writers[camera]? = some v ∧ Follows group camera s (.stopper room) w v := by
  have sound := h.sound camera w hw
  have off := off_of_stopPc h (by simp [pc])
  have after : s.step (.stopper room) = { s with stopPc := .returned } := by simp [step, RawCapture.stopper, pc, past]
  refine ⟨w, by rw [after]; exact hw, ?_⟩
  rw [Follows, after]
  refine ⟨sound.mono id ?_, fun _ => id⟩
  intro _
  have within : camera < s.draining.length := by
    have there := (List.getElem?_eq_some_iff.1 hw).1
    rwa [writers, h.stopped off, List.nil_append] at there
  apply Or.inl
  rw [pc]
  simp only [StopPc.joined, decide_eq_true_eq]
  omega

/-- A writer whose thread has been joined has nothing left in its ring. -/
theorem Arranged.drained (h : s.Arranged group) {i : Nat} {u : CameraWriter} (pc : s.stopPc = .draining i)
    (there : s.draining[i]? = some u) : s.writers[i]? = some u ∧ u.ring.queue = [] := by
  have named : s.writers[i]? = some u := by
    rwa [writers, h.stopped (off_of_stopPc h (by simp [pc])), List.nil_append]
  have joined := h.sound i u named
  rw [pc] at joined
  exact ⟨named, joined.emptied (joined.joined (by simp [StopPc.joined]))⟩

theorem Arranged.stopper (h : s.Arranged group) {room : Option Nat} (hw : s.writers[camera]? = some w) :
    ∃ v, (s.step (.stopper room)).writers[camera]? = some v ∧ Follows group camera s (.stopper room) w v := by
  have off := off_of_stopPc h
  have unchanged : s.step (.stopper room) = s →
      ∃ v, (s.step (.stopper room)).writers[camera]? = some v ∧ Follows group camera s (.stopper room) w v := by
    intro same
    refine ⟨w, by rw [same]; exact hw, ?_⟩
    rw [Follows, same]
    exact ⟨h.sound camera w hw, fun _ => id⟩
  have found : s.sink.capturing = false → s.draining[camera]? = some w := by
    intro off
    rwa [writers, h.stopped off, List.nil_append] at hw
  cases pc : s.stopPc with
  | notCalled | returned =>
    apply unchanged
    simp [step, RawCapture.stopper, pc]
  | marking i =>
    by_cases past : s.draining.length ≤ i
    · exact h.returns pc past hw
    · apply h.stops (off (by simp [pc])) i (fun w => { w with stopping := true }) (.closing i) hw
      · simp [step, RawCapture.stopper, pc, past]
      · rintro rfl sound
        rw [pc] at sound
        exact ⟨{ sound with capturing := (by simp), stopping := fun _ => rfl }, fun _ account => account.of_eq rfl rfl rfl⟩
      · intro _
        rw [pc]
        rfl
  | closing i =>
    apply h.stops (off (by simp [pc])) i (fun w => { w with ring := w.ring.close }) (.joining i) hw
    · simp [step, RawCapture.stopper, pc]
    · rintro rfl sound
      rw [pc] at sound
      exact ⟨{ sound with capturing := (by simp) }, fun _ account => account.of_eq rfl rfl rfl⟩
    · intro _
      rw [pc]
      rfl
  | joining i =>
    cases there : s.draining[i]? with
    | none =>
      apply unchanged
      simp [step, RawCapture.stopper, pc, there]
    | some u =>
      by_cases exited : u.exited = true
      · apply h.stops (off (by simp [pc])) i id (.draining i) hw
        · simp [step, RawCapture.stopper, pc, there, exited, atWriter_id]
        · rintro rfl sound
          rw [pc] at sound
          have same := (found (off (by simp [pc]))).symm.trans there
          cases same
          exact ⟨sound.mono id fun _ => .inr exited, fun _ => id⟩
        · intro other
          rw [pc]
          simp only [StopPc.joined, decide_eq_decide]
          omega
      · apply unchanged
        simp [step, RawCapture.stopper, pc, there, exited]
  | draining i =>
    cases there : s.draining[i]? with
    | none =>
      apply unchanged
      simp [step, RawCapture.stopper, pc, there]
    | some u =>
      obtain ⟨named, empty⟩ := h.drained pc there
      apply h.stops (off (by simp [pc])) i (fun w => { w with ring := u.ring }) (.closingFile i) hw
      · simp [step, RawCapture.stopper, pc, there, DropOldestRing.tryPop, DropOldestRing.take_empty empty]
      · rintro rfl sound
        rw [pc] at sound
        have same := named.symm.trans hw
        cases same
        exact ⟨sound, fun _ => id⟩
      · intro _
        rw [pc]
        rfl
  | writing i held => exact absurd pc (h.idle i held)
  | closingFile i =>
    apply h.stops (off (by simp [pc])) i (fun w => { w with file := { w.file with isOpen := false } })
      (.marking (i + 1)) hw
    · simp [step, RawCapture.stopper, pc]
    · rintro rfl sound
      rw [pc] at sound
      have exited := sound.joined (by simp [StopPc.joined])
      exact ⟨{ sound with usable := .inr exited, joined := fun _ => exited }, fun _ account => account.of_eq rfl rfl rfl⟩
    · intro other
      rw [pc]
      simp only [StopPc.joined, decide_eq_decide]
      omega

/-- What becomes of the writer of a camera in a step in which no write fails. -/
theorem Arranged.follows (h : s.Arranged group) (faultless : e.Faultless) (hw : s.writers[camera]? = some w) :
    ∃ v, (s.step e).writers[camera]? = some v ∧ Follows group camera s e w v := by
  cases e with
  | push i held locked => exact h.push hw
  | writer i room =>
    cases faultless
    exact h.writer hw
  | stop => exact h.stop hw
  | stopper room => exact h.stopper hw

/-- What a step does not touch: how many writers there are, and the files that are not theirs. -/
structure Frames (group : List Char) (s t : RawCapture) : Prop where
  length : t.writers.length = s.writers.length
  disk : ∀ name, (∀ camera < s.writers.length, name ≠ cameraFile group camera) → t.disk name = s.disk name
  capturing : t.sink.capturing = true → t.draining = [] ∧ t.stopPc = .notCalled
  stopped : t.sink.capturing = false → t.sink.writers = []
  idle : ∀ camera held, t.stopPc ≠ .writing camera held

theorem Arranged.refl (h : s.Arranged group) : Frames group s s where
  length := rfl
  disk := fun _ _ => rfl
  capturing := h.capturing
  stopped := h.stopped
  idle := h.idle

/-- A change of one writer's own data, and of where `Stop` is once it has been called. -/
theorem Arranged.atWriter (h : s.Arranged group) (i : Nat) (f : CameraWriter → CameraWriter) {disk : Disk} {stopPc : StopPc}
    (frame : ∀ name, (∀ camera < s.writers.length, name ≠ cameraFile group camera) → disk name = s.disk name)
    (called : s.sink.capturing = true → stopPc = s.stopPc) (idle : ∀ camera held, stopPc ≠ .writing camera held) :
    Frames group s { s.atWriter i f with disk, stopPc } where
  length := by
    have writers := atWriter_writers h i f
    exact (congrArg List.length writers).trans (List.length_modify ..)
  disk := frame
  capturing := by
    intro on
    obtain ⟨draining, pc⟩ := h.capturing on
    simp [RawCapture.atWriter, draining, called on, pc]
  stopped := by
    intro off
    simp [RawCapture.atWriter, h.stopped off]
  idle := idle

theorem Arranged.frames (h : s.Arranged group) (faultless : e.Faultless) : Frames group s (s.step e) := by
  have same := h.refl
  cases e with
  | push i held locked =>
    obtain ⟨refused, -⟩ | ⟨on, taken, -⟩ := s.push_cases i held locked
    · rw [step, refused]
      exact same
    · rw [step, taken]
      exact {
        length := by simp [writers]
        disk := fun _ _ => rfl
        capturing := h.capturing
        stopped := fun off => absurd on (by simpa using off)
        idle := h.idle }
  | writer i room =>
    cases faultless
    rw [step, RawCapture.writer]
    cases there : s.writers[i]? with
    | none => exact same
    | some u =>
      apply h.atWriter i _ _ (fun _ => rfl) h.idle
      intro name strange
      apply ((h.sound i u there).writerLoop s.disk).2.2
      exact strange i (List.getElem?_eq_some_iff.1 there).1
  | stop =>
    rw [step, RawCapture.stop]
    split
    case isTrue => exact same
    case isFalse on =>
      have alone := (h.capturing (by simpa using on)).1
      exact {
        length := by simp [writers, alone]
        disk := fun _ _ => rfl
        capturing := fun on => by cases on
        stopped := fun _ => rfl
        idle := fun _ _ => by simp }
  | stopper room =>
    have off := off_of_stopPc h
    have moved : ∀ (i : Nat) (f : CameraWriter → CameraWriter) (stopPc : StopPc), s.stopPc ≠ .notCalled →
        (∀ camera held, stopPc ≠ .writing camera held) → Frames group s { s.atWriter i f with stopPc } := by
      intro i f stopPc called idle
      exact h.atWriter i f (fun _ _ => rfl) (fun on => absurd (off called) (by simp [on])) idle
    have goesOn : ∀ stopPc : StopPc, s.stopPc ≠ .notCalled → (∀ camera held, stopPc ≠ .writing camera held) →
        Frames group s { s with stopPc } := by
      intro stopPc called idle
      have unmoved := moved 0 id stopPc called idle
      rwa [atWriter_id] at unmoved
    rw [step, RawCapture.stopper]
    cases pc : s.stopPc with
    | notCalled | returned => exact same
    | marking i =>
      simp only
      split
      · exact goesOn _ (by simp [pc]) (by simp)
      · exact moved i _ _ (by simp [pc]) (by simp)
    | closing i | closingFile i => exact moved i _ _ (by simp [pc]) (by simp)
    | joining i =>
      simp only
      split
      · exact same
      · split
        · exact goesOn _ (by simp [pc]) (by simp)
        · exact same
    | draining i =>
      simp only
      cases there : s.draining[i]? with
      | none => exact same
      | some u =>
        obtain ⟨-, empty⟩ := h.drained pc there
        simp only [DropOldestRing.tryPop, DropOldestRing.take_empty empty]
        exact moved i _ _ (by simp [pc]) (by simp)
    | writing i held => exact absurd pc (h.idle i held)

theorem Arranged.step (h : s.Arranged group) (faultless : e.Faultless) : (s.step e).Arranged group := by
  have frames := h.frames faultless
  refine { frames with sound := ?_ }
  intro camera v hv
  have within : camera < s.writers.length := by
    rw [← frames.length]
    exact (List.getElem?_eq_some_iff.1 hv).1
  obtain ⟨u, hu, sound, -⟩ := h.follows faultless (List.getElem?_eq_getElem within)
  rw [hv] at hu
  cases hu
  exact sound

/-! ## Runs -/

/-- A step, and what it adds to the frames accepted for a camera. -/
def tracked (camera : Nat) (p : RawCapture × List Accepted) (e : RawCaptureEvent) : RawCapture × List Accepted :=
  (p.1.step e, p.1.observe camera p.2 e)

/-- The frames accepted for a camera in a run, in order. -/
def acceptedFrames (camera : Nat) (s : RawCapture) (events : List RawCaptureEvent) : List Accepted :=
  (events.foldl (tracked camera) (s, [])).2

theorem tracked_fst (camera : Nat) (p : RawCapture × List Accepted) (events : List RawCaptureEvent) :
    (events.foldl (tracked camera) p).1 = events.foldl RawCapture.step p.1 := by
  induction events generalizing p with
  | nil => rfl
  | cons e events ih => exact ih _

/-- The account of a camera's writer. -/
def Balanced (group : List Char) (camera : Nat) (p : RawCapture × List Accepted) : Prop :=
  p.1.Arranged group ∧ ∃ w, p.1.writers[camera]? = some w ∧ w.Account p.1.disk p.2

theorem Balanced.tracked {p : RawCapture × List Accepted} (h : Balanced group camera p) (faultless : e.Faultless) :
    Balanced group camera (tracked camera p e) := by
  obtain ⟨arranged, w, hw, account⟩ := h
  obtain ⟨v, hv, -, follows⟩ := arranged.follows faultless hw
  exact ⟨arranged.step faultless, v, hv, follows p.2 account⟩

theorem Balanced.run {p : RawCapture × List Accepted} (h : Balanced group camera p) {events : List RawCaptureEvent}
    (faultless : ∀ e ∈ events, e.Faultless) : Balanced group camera (events.foldl (RawCapture.tracked camera) p) :=
  Runs.foldl_inv (fun _ _ => Balanced.tracked) h (Runs.along_of_forall faultless)

theorem Arranged.run (h : s.Arranged group) {events : List RawCaptureEvent} (faultless : ∀ e ∈ events, e.Faultless) :
    Frames group s (events.foldl RawCapture.step s) := by
  have invariant : (events.foldl RawCapture.step s).Arranged group ∧ Frames group s (events.foldl RawCapture.step s) := by
    apply Runs.foldl_inv (I := fun t : RawCapture => t.Arranged group ∧ Frames group s t) _ ⟨h, h.refl⟩
      (Runs.along_of_forall faultless)
    rintro t e ⟨arranged, before⟩ faultless
    have after := arranged.frames faultless
    refine ⟨arranged.step faultless, { after with length := after.length.trans before.length, disk := ?_ }⟩
    intro name strange
    rw [after.disk name (before.length ▸ strange), before.disk name strange]
  exact invariant.2

/-- Once `Stop` has taken the writers away nothing more is accepted. -/
theorem observe_stopped (off : s.sink.capturing = false) (camera : Nat) (accepted : List Accepted) (e : RawCaptureEvent) :
    (s.step e).sink.capturing = false ∧ s.observe camera accepted e = accepted := by
  constructor
  · cases e with
    | push i held locked => simp [RawCapture.step, FilesystemRawCaptureSink.pushCamera, off]
    | writer i room =>
      rw [RawCapture.step, RawCapture.writer]
      split
      · exact off
      · exact off
    | stop => simp [RawCapture.step, RawCapture.stop, off]
    | stopper room =>
      rw [RawCapture.step, RawCapture.stopper]
      repeat' split
      all_goals exact off
  · cases e with
    | push i held locked => simp [observe, off]
    | writer | stop | stopper => rfl

theorem stop_off (s : RawCapture) : (s.step .stop).sink.capturing = false := by
  rw [step, RawCapture.stop]
  split
  case isTrue off => simpa using off
  case isFalse => rfl

theorem tracked_stopped {p : RawCapture × List Accepted} (off : p.1.sink.capturing = false) (events : List RawCaptureEvent) :
    (events.foldl (RawCapture.tracked camera) p).2 = p.2 := by
  have unchanged : (events.foldl (RawCapture.tracked camera) p).1.sink.capturing = false ∧
      (events.foldl (RawCapture.tracked camera) p).2 = p.2 := by
    apply Runs.foldl_inv' (I := fun q : RawCapture × List Accepted => q.1.sink.capturing = false ∧ q.2 = p.2) _ events ⟨off, rfl⟩
    rintro q e ⟨off, same⟩
    obtain ⟨off', kept⟩ := observe_stopped off camera q.2 e
    exact ⟨off', kept.trans same⟩
  exact unchanged.2

/-! ## The start -/

theorem created_sound (group : List Char) (camera : Nat) : (created group camera).Sound true false (cameraFile group camera) where
  named := rfl
  healthy := rfl
  usable := .inl rfl
  capacity := rfl
  capturing := fun _ => ⟨rfl, rfl⟩
  stopping := by simp [created, CameraWriter.leftLoop]
  joined := by simp
  emptied := fun _ => rfl

/-- A start that succeeds leaves each camera an empty file, an empty ring and a thread at its beginning. -/
theorem start_spec {hasDir : Bool} {opens : Nat → Bool} {disk disk₀ : Disk} {sink sink₀ : FilesystemRawCaptureSink}
    (started : sink.start group hasDir opens disk = (disk₀, sink₀, true)) :
    sink₀.capturing = true ∧ sink₀.writers = (List.range sink.cameraCount).map (created group) ∧
      (∀ camera < sink.cameraCount, disk₀ (cameraFile group camera) = some []) ∧
      ∀ name, (∀ camera < sink.cameraCount, name ≠ cameraFile group camera) → disk₀ name = disk name := by
  obtain ⟨-, files, outcome⟩ | ⟨-, unchanged⟩ := sink.start_eq group hasDir opens disk
  · rw [started] at files outcome
    by_cases all : (List.range sink.cameraCount).all opens = true
    · rw [if_pos all] at outcome
      have opened : (List.range sink.cameraCount).takeWhile opens = List.range sink.cameraCount :=
        List.takeWhile_eq_self_iff.2 (List.all_eq_true.1 all)
      rw [opened] at files
      cases outcome
      cases files
      refine ⟨rfl, rfl, ?_, ?_⟩
      · intro camera within
        exact FilesystemRawCaptureSink.emptied_self (List.mem_range.2 within)
      · intro name strange
        exact if_neg fun ⟨camera, within, same⟩ => strange camera (List.mem_range.1 within) same
    · rw [if_neg all] at outcome
      cases outcome
  · rw [started] at unchanged
    cases unchanged

/-- A capture that has just started. -/
def begun (sink : FilesystemRawCaptureSink) (disk : Disk) : RawCapture := { sink, disk }

/-- The invariants hold once the capture has started. -/
theorem start_arranged {hasDir : Bool} {opens : Nat → Bool} {disk disk₀ : Disk} {sink sink₀ : FilesystemRawCaptureSink}
    (started : sink.start group hasDir opens disk = (disk₀, sink₀, true)) :
    (begun sink₀ disk₀).Arranged group ∧ ∀ camera < sink.cameraCount, Balanced group camera (begun sink₀ disk₀, []) := by
  obtain ⟨on, made, emptied, -⟩ := start_spec started
  have all : (begun sink₀ disk₀).writers = (List.range sink.cameraCount).map (created group) := by
    rw [writers, begun, List.append_nil, made]
  have arranged : (begun sink₀ disk₀).Arranged group := by
    constructor
    · intro camera w hw
      have within := (List.getElem?_eq_some_iff.1 hw).1
      rw [all, List.length_map, List.length_range] at within
      rw [all, List.getElem?_map, List.getElem?_range within] at hw
      cases hw
      exact on ▸ created_sound group camera
    · exact fun _ => ⟨rfl, rfl⟩
    · exact fun off => absurd (on.symm.trans off) (by simp)
    · exact fun _ _ => by simp [begun]
  refine ⟨arranged, ?_⟩
  intro camera within
  refine ⟨arranged, created group camera, ?_, [], [], rfl, rfl, ?_⟩
  · simp [all, within]
  · exact emptied camera within

/-- **The files a capture leaves.** In a run from a start to the return of a stop, in which no
write fails, the file of each camera ends up as the frames accepted for the camera and not dropped,
one behind the other. All that is accepted is accepted before the stop takes the writers away; the
frames that are in the ring then are the last of them, and none of these has been dropped. No other
file changes. -/
theorem raw_capture_content {hasDir : Bool} {opens : Nat → Bool} {disk disk₀ : Disk} {sink sink₀ : FilesystemRawCaptureSink}
    (started : sink.start group hasDir opens disk = (disk₀, sink₀, true)) {before after : List RawCaptureEvent}
    (faultless : ∀ e ∈ before ++ .stop :: after, e.Faultless)
    (returned : ((before ++ .stop :: after).foldl step (begun sink₀ disk₀)).stopPc = .returned) :
    (∀ camera < sink.cameraCount,
      ((before ++ .stop :: after).foldl step (begun sink₀ disk₀)).disk (cameraFile group camera) =
          some ((kept (acceptedFrames camera (begun sink₀ disk₀) (before ++ .stop :: after))).flatMap HeldFrame.bytes) ∧
        acceptedFrames camera (begun sink₀ disk₀) (before ++ .stop :: after) =
          acceptedFrames camera (begun sink₀ disk₀) before ∧
        ∃ w earlier, (before.foldl step (begun sink₀ disk₀)).writers[camera]? = some w ∧
          acceptedFrames camera (begun sink₀ disk₀) before = earlier ++ fresh w.ring.queue) ∧
      ∀ name, (∀ camera < sink.cameraCount, name ≠ cameraFile group camera) →
        ((before ++ .stop :: after).foldl step (begun sink₀ disk₀)).disk name = disk name := by
  obtain ⟨arranged, balanced⟩ := start_arranged started
  obtain ⟨-, made, -, others⟩ := start_spec started
  constructor
  · intro camera within
    have whole := (balanced camera within).run faultless
    have half := (balanced camera within).run fun e he => faultless e (List.mem_append_left _ he)
    refine ⟨?_, ?_, ?_⟩
    · obtain ⟨arranged', w, hw, account⟩ := whole
      rw [tracked_fst] at arranged' hw account
      have sound := arranged'.sound camera w hw
      rw [returned] at sound
      exact sound.settled (sound.joined rfl) account
    · rw [acceptedFrames, List.foldl_append, List.foldl_cons, tracked_stopped]
      · rfl
      · exact stop_off _
    · obtain ⟨-, w, hw, earlier, written, split, -⟩ := half
      rw [tracked_fst] at hw
      exact ⟨w, earlier, hw, split⟩
  · intro name strange
    have unwritten := (arranged.run faultless).disk name
    rw [writers, begun, List.append_nil, made, List.length_map, List.length_range] at unwritten
    exact (unwritten strange).trans (others name strange)

/-- A frame with two planes that are written and two that are not. -/
def shot : HeldFrame where
  frame := { planes := [{ data := some 3, size := 2 }, { data := some 7 }, { size := 4 }, { data := some 9, size := 1 }] }
  mem := UInt8.ofNat

/-- Two frames are pushed, of which the thread has one in hand; a third push finds the mutex taken. -/
def twoShots : List RawCaptureEvent :=
  [.push 0 shot false, .writer 0 none, .writer 0 none, .push 0 shot false, .push 0 shot true]

/-- The stop from its join on, with a push that comes too late. -/
def stopping : List RawCaptureEvent :=
  [.push 0 shot false, .stopper none, .stopper none, .writer 0 none, .writer 0 none, .writer 0 none, .writer 0 none,
    .writer 0 none, .stopper none, .stopper none, .stopper none, .stopper none]

theorem two_shots_written :
    ((twoShots ++ .stop :: stopping).foldl step
        (begun { cameraCount := 1, capturing := true, captureGroupId := ['g'], writers := [created ['g'] 0] }
          (Disk.set (fun _ => none) (cameraFile ['g'] 0) []))).disk (cameraFile ['g'] 0) =
      some [3, 4, 9, 3, 4, 9] := by
  have started : (FilesystemRawCaptureSink.mk 1 false [] []).start ['g'] true (fun _ => true) (fun _ => none) =
      (Disk.set (fun _ => none) (cameraFile ['g'] 0) [],
        { cameraCount := 1, capturing := true, captureGroupId := ['g'], writers := [created ['g'] 0] }, true) := rfl
  have faultless : ∀ e ∈ twoShots ++ .stop :: stopping, e.Faultless := by
    simp [twoShots, stopping, RawCaptureEvent.Faultless]
  have content := (raw_capture_content started faultless rfl).1 0 Nat.one_pos
  exact content.1

end RawCapture

end SstCam
