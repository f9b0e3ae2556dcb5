import SstCam.Storage.FilesystemRawCaptureSink

/-!
# The account of a writer

What is in a writer's file, then what its thread has in hand, then what is in its ring: these are the
frames accepted for the camera, but for those the ring dropped to make room. A push puts a frame into
the ring, and a step of the thread moves one on from the ring to the hand or from the hand to the file.
-/

namespace SstCam
set_option autoImplicit false

/-- A frame the sink has accepted, and whether the ring has dropped it since. -/
structure Accepted where
  held : HeldFrame
  evicted : Bool := false

/-- The frames that were not dropped. -/
def kept (accepted : List Accepted) : List HeldFrame := (accepted.filter fun a => !a.evicted).map (·.held)

/-- Frames as they are accepted. -/
def fresh (queue : List HeldFrame) : List Accepted := queue.map fun held => { held }

@[simp] theorem kept_append (xs ys : List Accepted) : kept (xs ++ ys) = kept xs ++ kept ys := by
  simp [kept]

@[simp] theorem kept_fresh (queue : List HeldFrame) : kept (fresh queue) = queue := by
  induction queue with
  | nil => rfl
  | cons held queue ih => simpa [kept, fresh] using ih

@[simp] theorem fresh_append (xs ys : List HeldFrame) : fresh (xs ++ ys) = fresh xs ++ fresh ys := by
  simp [fresh]

@[simp] theorem length_fresh (queue : List HeldFrame) : (fresh queue).length = queue.length := by
  simp [fresh]

/-- Marks a frame as dropped. -/
def Accepted.evict (a : Accepted) : Accepted := { a with evicted := true }

theorem modify_length (f : Accepted → Accepted) (gone : List Accepted) (a : Accepted) (rest : List Accepted) :
    (gone ++ a :: rest).modify gone.length f = gone ++ f a :: rest := by
  induction gone with
  | nil => rfl
  | cons first gone ih => exact congrArg (first :: ·) ih

/-- What is accepted when a frame is pushed: a full ring, of the last frames, drops the first of these. -/
def acceptFrame (depth : Nat) (held : HeldFrame) (accepted : List Accepted) : List Accepted :=
  (if kQueueCapacity ≤ depth then accepted.modify (accepted.length - depth) Accepted.evict else accepted) ++ fresh [held]

theorem writeFramePlanes_spec (held : HeldFrame) (disk : Disk) {file : OutFile} (healthy : file.failed = false)
    (usable : file.isOpen = true) :
    (writeFramePlanes none held disk file).2 = file ∧
      (writeFramePlanes none held disk file).1 file.name = (disk file.name).map (· ++ held.bytes) ∧
      ∀ name ≠ file.name, (writeFramePlanes none held disk file).1 name = disk name := by
  unfold writeFramePlanes
  split
  case isTrue nothing => simp [nothing]
  case isFalse =>
    rw [if_neg (by simp [healthy, usable])]
    refine ⟨rfl, by simp [Disk.append], ?_⟩
    intro name other
    simp [Disk.append, other]

namespace CameraWriter

variable {w : CameraWriter} {disk : Disk} {name : List Char} {accepted : List Accepted} {capturing joined : Bool}

/-- The frame the thread has taken and not written. -/
def inHand (w : CameraWriter) : List HeldFrame :=
  match w.pc with
  | .writing held | .drainWriting held => [held]
  | _ => []

/-- The thread has left its loop. -/
def leftLoop (w : CameraWriter) : Bool :=
  match w.pc with
  | .draining | .drainWriting _ | .exited => true
  | _ => false

theorem leftLoop_of_exited (w : CameraWriter) (h : w.exited = true) : w.leftLoop = true := by
  revert h
  rw [exited, leftLoop]
  cases w.pc <;> simp

/-- What holds of a writer while the sink captures or not, and once its thread has been joined. -/
structure Sound (capturing joined : Bool) (name : List Char) (w : CameraWriter) : Prop where
  named : w.file.name = name
  healthy : w.file.failed = false
  usable : w.file.isOpen = true ∨ w.exited = true
  capacity : w.ring.capacity = kQueueCapacity
  capturing : capturing = true → w.stopping = false ∧ w.ring.closed = false
  stopping : w.leftLoop = true → w.stopping = true
  joined : joined = true → w.exited = true
  emptied : w.exited = true → w.ring.queue = []

/-- **The account** of a writer: of the frames accepted the last are in the ring, and of the others
those not dropped are in the file or in hand. -/
def Account (disk : Disk) (accepted : List Accepted) (w : CameraWriter) : Prop :=
  ∃ gone written, accepted = gone ++ fresh w.ring.queue ∧ kept gone = written ++ w.inHand ∧
    disk w.file.name = some (written.flatMap HeldFrame.bytes)

/-- What is neither written nor taken leaves the account. -/
theorem Account.of_eq {v : CameraWriter} {disk' : Disk} (h : w.Account disk accepted) (queue : v.ring.queue = w.ring.queue)
    (inHand : v.inHand = w.inHand) (content : disk' v.file.name = disk w.file.name) : v.Account disk' accepted := by
  obtain ⟨gone, written, split, balance, file⟩ := h
  exact ⟨gone, written, by rw [split, queue], by rw [balance, inHand], by rw [content, file]⟩

/-- The oldest frame of the ring goes into the hand. -/
theorem Account.take {v : CameraWriter} {held : HeldFrame} (h : w.Account disk accepted) (free : w.inHand = [])
    (took : w.ring.queue = held :: v.ring.queue) (inHand : v.inHand = [held]) (file : v.file = w.file) :
    v.Account disk accepted := by
  obtain ⟨gone, written, split, balance, content⟩ := h
  refine ⟨gone ++ fresh [held], written, ?_, ?_, by rw [file, content]⟩
  · rw [split, took, List.append_assoc, ← fresh_append]
    rfl
  · rw [kept_append, balance, free, inHand, kept_fresh, List.append_nil]

/-- The frame in hand goes into the file. -/
theorem Account.write {v : CameraWriter} {disk' : Disk} {held : HeldFrame} (h : w.Account disk accepted)
    (inHand : w.inHand = [held]) (queue : v.ring.queue = w.ring.queue) (free : v.inHand = [])
    (content : disk' v.file.name = (disk w.file.name).map (· ++ held.bytes)) : v.Account disk' accepted := by
  obtain ⟨gone, written, split, balance, file⟩ := h
  refine ⟨gone, written ++ [held], by rw [split, queue], ?_, ?_⟩
  · rw [balance, inHand, free, List.append_nil]
  · rw [content, file]
    simp

/-- A frame that is accepted goes into the ring, from which a full ring drops the oldest. -/
theorem Account.push (h : w.Account disk accepted) (isOpen : w.ring.closed = false) (capacity : w.ring.capacity = kQueueCapacity)
    (held : HeldFrame) :
    ({ w with ring := (w.ring.push held).1 } : CameraWriter).Account disk
      (acceptFrame w.ring.queue.length held accepted) := by
  obtain ⟨gone, written, split, balance, file⟩ := h
  have queue := DropOldestRing.push_queue isOpen held
  rw [acceptFrame, split]
  rw [capacity] at queue
  split
  case isTrue full =>
    rw [if_pos full] at queue
    cases oldest : w.ring.queue with
    | nil =>
      rw [oldest] at full
      cases full
    | cons first rest =>
      rw [oldest, List.tail_cons] at queue
      refine ⟨gone ++ [{ held := first, evicted := true }], written, ?_, ?_, file⟩
      · have place : (gone ++ fresh (first :: rest)).length - (first :: rest).length = gone.length := by simp
        have dropped := modify_length Accepted.evict gone { held := first } (fresh rest)
        rw [place, queue, fresh_append, ← List.append_assoc, List.append_assoc gone]
        exact congrArg (· ++ fresh [held]) dropped
      · rw [kept_append, balance]
        exact List.append_nil _
  case isFalse room =>
    rw [if_neg room] at queue
    refine ⟨gone, written, ?_, balance, file⟩
    simp only [queue, fresh_append, List.append_assoc]

/-- A step of a thread that goes on. -/
theorem Sound.goesOn {ring : DropOldestRing HeldFrame} {pc : WriterPc} (h : w.Sound capturing joined name)
    (runs : w.exited = false) (capacity : ring.capacity = w.ring.capacity) (closed : ring.closed = w.ring.closed)
    (stopping : ({ w with ring, pc } : CameraWriter).leftLoop = true → w.stopping = true)
    (emptied : ({ w with ring, pc } : CameraWriter).exited = true → ring.queue = []) :
    ({ w with ring, pc } : CameraWriter).Sound capturing joined name where
  named := h.named
  healthy := h.healthy
  usable := .inl (h.usable.resolve_right (by simp [runs]))
  capacity := capacity.trans h.capacity
  capturing := fun on => ⟨(h.capturing on).1, closed.trans (h.capturing on).2⟩
  stopping := stopping
  joined := fun past => absurd (h.joined past) (by simp [runs])
  emptied := emptied

/-- A thread that has a frame in hand writes it, and goes on. -/
theorem Sound.writes {held : HeldFrame} {pc : WriterPc} (h : w.Sound capturing joined name) (inHand : w.inHand = [held])
    (runs : w.exited = false) (free : ({ w with pc } : CameraWriter).inHand = [])
    (stopping : ({ w with pc } : CameraWriter).leftLoop = true → w.stopping = true)
    (runs' : ({ w with pc } : CameraWriter).exited = false) :
    ({ w with file := (writeFramePlanes none held disk w.file).2, pc } : CameraWriter).Sound capturing joined name ∧
      (∀ accepted, w.Account disk accepted →
        ({ w with file := (writeFramePlanes none held disk w.file).2, pc } : CameraWriter).Account
          (writeFramePlanes none held disk w.file).1 accepted) ∧
      ∀ other ≠ name, (writeFramePlanes none held disk w.file).1 other = disk other := by
  have usable := h.usable.resolve_right (by simp [runs])
  obtain ⟨file, content, others⟩ := writeFramePlanes_spec held disk h.healthy usable
  rw [file]
  refine ⟨h.goesOn runs rfl rfl stopping ?_, ?_, ?_⟩
  · intro exited
    rw [runs'] at exited
    cases exited
  · intro accepted account
    exact account.write inHand rfl free content
  · intro other ne
    exact others other (h.named ▸ ne)

/-- A step of a writer thread keeps its account, and touches no other file. -/
theorem Sound.writerLoop (h : w.Sound capturing joined name) (disk : Disk) :
    (w.writerLoop none disk).2.Sound capturing joined name ∧
      (∀ accepted, w.Account disk accepted → (w.writerLoop none disk).2.Account (w.writerLoop none disk).1 accepted) ∧
      ∀ other ≠ name, (w.writerLoop none disk).1 other = disk other := by
  have took := w.ring.take_queue
  have closed := w.ring.take_closed
  have capacity := w.ring.take_capacity
  have empty := w.ring.take_none
  have stopping := h.stopping
  revert took closed capacity empty
  cases at_ : w.pc with
  | checking =>
    intros
    have runs : w.exited = false := by simp [exited, at_]
    rw [CameraWriter.writerLoop, at_]
    refine ⟨h.goesOn runs rfl rfl ?_ ?_, fun _ account => account.of_eq rfl ?_ rfl, fun _ _ => rfl⟩
    · cases w.stopping <;> simp [leftLoop]
    · cases w.stopping <;> simp [exited]
    · cases w.stopping <;> simp [inHand, at_]
  | popping =>
    have runs : w.exited = false := by simp [exited, at_]
    rw [CameraWriter.writerLoop, at_, DropOldestRing.pop]
    obtain ⟨ring, _ | held⟩ := w.ring.take
    · intro took closed capacity _
      refine ⟨h.goesOn runs capacity closed ?_ ?_, fun _ account => account.of_eq took ?_ rfl, fun _ _ => rfl⟩
      · simp [leftLoop]
      · simp [exited]
      · simp [inHand, at_]
    · intro took closed capacity _
      refine ⟨h.goesOn runs capacity closed ?_ ?_, fun _ account => account.take ?_ took.symm rfl rfl, fun _ _ => rfl⟩
      · simp [leftLoop]
      · simp [exited]
      · simp [inHand, at_]
  | writing held =>
    intros
    rw [CameraWriter.writerLoop, at_]
    apply h.writes
    · simp [inHand, at_]
    · simp [exited, at_]
    · rfl
    · simp [leftLoop]
    · rfl
  | draining =>
    have runs : w.exited = false := by simp [exited, at_]
    have left : w.stopping = true := stopping (by simp [leftLoop, at_])
    rw [CameraWriter.writerLoop, at_, DropOldestRing.tryPop]
    obtain ⟨ring, _ | held⟩ := w.ring.take
    · intro took closed capacity empty
      refine ⟨h.goesOn runs capacity closed (fun _ => left) ?_, fun _ account => account.of_eq took ?_ rfl, fun _ _ => rfl⟩
      · intro _
        exact took.trans (empty rfl)
      · simp [inHand, at_]
    · intro took closed capacity _
      refine ⟨h.goesOn runs capacity closed (fun _ => left) ?_, fun _ account => account.take ?_ took.symm rfl rfl,
        fun _ _ => rfl⟩
      · simp [exited]
      · simp [inHand, at_]
  | drainWriting held =>
    intros
    have left : w.stopping = true := stopping (by simp [leftLoop, at_])
    rw [CameraWriter.writerLoop, at_]
    apply h.writes
    · simp [inHand, at_]
    · simp [exited, at_]
    · rfl
    · exact fun _ => left
    · rfl
  | exited =>
    intros
    rw [CameraWriter.writerLoop, at_]
    exact ⟨h, fun _ => id, fun _ _ => rfl⟩

/-- An exited thread leaves its ring empty, and nothing in hand. -/
theorem Sound.settled (h : w.Sound capturing joined name) (exited : w.exited = true) (account : w.Account disk accepted) :
    disk name = some ((kept accepted).flatMap HeldFrame.bytes) := by
  obtain ⟨gone, written, split, balance, content⟩ := account
  have free : w.inHand = [] := by
    revert exited
    rw [CameraWriter.exited, inHand]
    cases w.pc <;> simp
  rw [← h.named, content, split, h.emptied exited, kept_append, balance, free]
  simp [fresh, kept]

theorem Sound.mono {capturing' joined' : Bool} (h : w.Sound capturing joined name) (on : capturing' = true → capturing = true)
    (past : joined' = true → joined = true ∨ w.exited = true) : w.Sound capturing' joined' name :=
  { h with
    capturing := fun on' => h.capturing (on on')
    joined := fun past' => (past past').elim h.joined id }

end CameraWriter

end SstCam
