import SstCam.Pipeline.CaptureBuffers

/-!
# What the capture owns

Between the steps the references are those of the appsink's samples, of the last frame and, while the
adapter runs, of the pipeline. Within a step more is held, and `Holding` says what: each function is told by
what it takes and what it leaves. Without the ownership the adapter is the one of the pipeline (`erase`).
-/

namespace SstCam
set_option autoImplicit false

/-- Made before the counters had these values. -/
def CaptureOwner.Before (samples frames : Nat) : CaptureOwner → Prop
  | sample id _ => id < samples
  | frame id _ => id < frames

theorem CaptureOwner.Before.mono {k : CaptureOwner} {samples frames samples' frames' : Nat} (h : k.Before samples frames)
    (more : samples ≤ samples') (more' : frames ≤ frames') : k.Before samples' frames' := by
  cases k with
  | sample => exact Nat.lt_of_lt_of_le h more
  | frame => exact Nat.lt_of_lt_of_le h more'

/-- The references of the pointers. -/
def GstPointers.loose (p : GstPointers) : List CaptureResource :=
  (if p.sink then [.sink] else []) ++ (if p.bus then [.bus] else []) ++
    (if p.pipeline then [.pipeline] else []) ++ if p.err then [.error] else []

/-- As a start leaves them. -/
def GstPointers.up : GstPointers := { pipeline := true, bus := true, sink := true }

theorem GstPointers.cleanup_owned {p : GstPointers} {heap : CaptureHeap} {handles : List CaptureOwner}
    {rest : List CaptureResource} (h : heap.Owned CaptureOwner.owns handles (p.loose ++ rest)) :
    (p.cleanup heap).Owned CaptureOwner.owns handles rest := by
  obtain ⟨pipeline, bus, sink, err⟩ := p
  unfold GstPointers.cleanup
  cases sink <;> cases bus <;> cases pipeline <;> cases err
  all_goals
    simp only [GstPointers.loose, Bool.false_eq_true, if_false, if_true, List.nil_append, List.append_nil,
      List.cons_append] at h ⊢
    first
    | exact h
    | exact h.give
    | exact h.give.give
    | exact h.give.give.give
    | exact h.give.give.give.give

namespace CaptureBuffers

def owners (a : CaptureBuffers) : List CaptureOwner := a.lastOwner ++ a.queue.map (·.owner)

/-- Besides what the adapter keeps, these are held. -/
structure Holding (a : CaptureBuffers) (extra : List CaptureOwner) : Prop where
  owned : a.heap.Owned CaptureOwner.owns (extra ++ a.owners) a.pointers.loose
  before : ∀ k ∈ extra ++ a.owners, k.Before a.samples a.frameCounter

/-- An adapter that does not run has nothing. -/
structure Settled (a : CaptureBuffers) : Prop where
  pointers : a.pointers = if a.isRunning then .up else {}
  down : a.isRunning = false → a.queue = [] ∧ a.lastFrame = none ∧ a.failed = false
  distinct : (a.queue.map (·.owner)).Nodup

variable {a : CaptureBuffers} {extra : List CaptureOwner} {k : CaptureOwner}

theorem Holding.perm {extra' : List CaptureOwner} (h : a.Holding extra) (same : extra'.Perm extra) : a.Holding extra' :=
  ⟨h.owned.perm (same.append_right _), fun k mem => h.before k ((same.append_right _).mem_iff.1 mem)⟩

theorem Holding.copy (h : a.Holding extra) (there : k ∈ extra ++ a.owners) : (a.copy k).Holding (k :: extra) :=
  ⟨h.owned.copy there, fun _ mem => (List.mem_cons.1 mem).elim (fun same => same ▸ h.before k there) (h.before _)⟩

theorem Holding.drop (h : a.Holding (k :: extra)) : (a.drop k).Holding extra :=
  ⟨Shared.Owned.drop h.owned, fun _ mem => h.before _ (List.mem_cons_of_mem _ mem)⟩

/-- What is held can be read. -/
theorem Holding.use {f : MappedFrame} (h : a.Holding extra) (there : f.owner ∈ extra ++ a.owners) :
    a.onHeap (·.use (.mapping f.buffer)) = a := by
  rw [onHeap, h.owned.use there List.mem_cons_self]

theorem Holding.newSample (h : a.Holding extra) (s : PooledSample) :
    (a.newSample s).1.Holding ((a.newSample s).2.owner :: extra) := by
  have fresh : CaptureOwner.sample a.samples s.buffer ∉ extra ++ a.owners := fun mem =>
    absurd (h.before _ mem) (Nat.lt_irrefl _)
  have taken : (s.buffer.toList.foldl (fun heap b => heap.take (.buffer b)) a.heap).Owned CaptureOwner.owns
      (extra ++ a.owners) ((CaptureOwner.sample a.samples s.buffer).owns ++ a.pointers.loose) := by
    cases s.buffer with
    | none => exact h.owned
    | some b => exact h.owned.take
  refine ⟨taken.make fresh, fun k mem => ?_⟩
  obtain rfl | mem := List.mem_cons.1 mem
  · exact Nat.lt_succ_self a.samples
  · exact (h.before k mem).mono (Nat.le_succ _) (Nat.le_refl _)

@[simp] theorem newSample_queue (s : PooledSample) : (a.newSample s).1.queue = a.queue := rfl

/-- The heap and the counter, with what else is held. -/
def withHeap (heap : CaptureHeap) (frameCounter : Nat) (a : CaptureBuffers) : CaptureBuffers :=
  { a with heap, frameCounter }

theorem Holding.unmap {b : Nat} {heap : CaptureHeap} {frameCounter : Nat} (more : a.frameCounter ≤ frameCounter)
    (owned : heap.Owned CaptureOwner.owns (extra ++ a.owners) (.mapping b :: .buffer b :: a.pointers.loose))
    (before : ∀ k ∈ extra ++ a.owners, k.Before a.samples a.frameCounter) :
    ((a.withHeap heap frameCounter).unmap b).Holding extra :=
  ⟨Shared.Owned.give (Shared.Owned.give owned), fun k mem => (before k mem).mono (Nat.le_refl _) more⟩

/-- A frame is mapped, or the buffer is left as it was. -/
theorem Holding.createFrameFromSample (h : a.Holding extra) (now : Nat) (s : QueuedSample) :
    ∃ heap frameCounter made, a.createFrameFromSample now s = (a.withHeap heap frameCounter, made) ∧
      (a.withHeap heap frameCounter).Holding (made.toList.map (·.owner) ++ extra) := by
  obtain ⟨owned, before⟩ := h
  have mapped : ∀ b, ((a.heap.take (.buffer b)).take (.mapping b)).Owned CaptureOwner.owns (extra ++ a.owners)
      (.mapping b :: .buffer b :: a.pointers.loose) := fun b => owned.take.take
  unfold CaptureBuffers.createFrameFromSample
  split
  · rename_i info b _ _
    have back {frameCounter : Nat} (more : a.frameCounter ≤ frameCounter) :=
      Holding.unmap more (mapped b) before
    dsimp only
    split
    · exact ⟨_, a.frameCounter, none, rfl, ⟨Shared.Owned.give (Shared.Owned.take owned), before⟩⟩
    · split
      · exact ⟨_, a.frameCounter, none, rfl, back (Nat.le_refl _)⟩
      · split
        · exact ⟨_, a.frameCounter + 1, none, rfl, back (Nat.le_succ _)⟩
        case h_2 frame made =>
          obtain ⟨id, -⟩ := GstMapInfo.frame_some made
          have fresh : (⟨frame, b⟩ : MappedFrame).owner = .frame a.frameCounter b := by
            rw [MappedFrame.owner, id]
            rfl
          refine ⟨_, a.frameCounter + 1, some ⟨frame, b⟩, rfl, ?_⟩
          simp only [Option.toList_some, List.map_cons, List.map_nil, fresh]
          refine ⟨Shared.Owned.make (mapped b) fun mem => absurd (before _ mem) (Nat.lt_irrefl _), fun k mem => ?_⟩
          obtain rfl | mem := List.mem_cons.1 mem
          · exact Nat.lt_succ_self a.frameCounter
          · exact (before k mem).mono (Nat.le_refl _) (Nat.le_succ _)
  · exact ⟨a.heap, a.frameCounter, none, rfl, owned, before⟩

/-- The last frame is another one. -/
theorem Holding.keepLast {fresh : MappedFrame} (h : a.Holding (fresh.owner :: extra)) :
    (a.keepLast fresh).Holding (fresh.owner :: extra) := by
  obtain ⟨owned, before⟩ := h.copy (k := fresh.owner) List.mem_cons_self
  have moved : (a.lastOwner ++ (fresh.owner :: extra ++ (fresh.owner :: a.queue.map (·.owner)))).Perm
      (fresh.owner :: fresh.owner :: extra ++ a.owners) := by
    rw [List.perm_iff_count]
    intro k
    simp only [owners, List.count_append, List.count_cons]
    omega
  exact ⟨Shared.Owned.dropAll (owned.perm moved),
    fun k mem => before k (moved.mem_iff.1 (List.mem_append_right _ mem))⟩

theorem Holding.copyLast (h : a.Holding extra) :
    ∃ heap, a.copyLast = (a.withHeap heap a.frameCounter, a.lastFrame) ∧
      (a.withHeap heap a.frameCounter).Holding (a.lastOwner ++ extra) := by
  cases last : a.lastFrame with
  | none =>
    have none' : a.lastOwner = [] := by rw [lastOwner, last]; rfl
    refine ⟨a.heap, by rw [CaptureBuffers.copyLast, last]; rfl, ?_⟩
    rw [none']
    exact h
  | some frame =>
    have one : a.lastOwner = [frame.owner] := by rw [lastOwner, last]; rfl
    have there : frame.owner ∈ extra ++ a.owners := by simp [owners, one]
    refine ⟨(a.copy frame.owner).heap, by rw [CaptureBuffers.copyLast, last]; rfl, ?_⟩
    rw [one]
    exact h.copy there

/-- A stop gives back all that the adapter keeps. -/
theorem Holding.stop (h : a.Holding extra) : a.stop.Holding extra := by
  obtain ⟨owned, before⟩ := h
  have moved : (a.queue.map (·.owner) ++ (a.lastOwner ++ extra)).Perm (extra ++ a.owners) := by
    rw [List.perm_iff_count]
    intro k
    simp only [owners, List.count_append]
    omega
  have flushed := Shared.Owned.dropAll (owned.perm moved)
  rw [← List.append_nil a.pointers.loose] at flushed
  have rest := Shared.Owned.dropAll (GstPointers.cleanup_owned flushed)
  rw [← List.append_nil extra] at rest
  refine ⟨rest, fun k mem => before k (moved.mem_iff.1 ?_)⟩
  rw [show a.stop.owners = [] from rfl, List.append_nil] at mem
  exact List.mem_append_right _ (List.mem_append_right _ mem)

/-- Of the samples that are pulled the last is kept. -/
theorem Holding.drain {queue : List QueuedSample} (last : Option QueuedSample)
    (h : a.Holding (last.toList.map (·.owner) ++ (queue.map (·.owner) ++ extra))) :
    ∃ heap, drain queue last a = (a.withHeap heap a.frameCounter, queue.getLast?.or last) ∧
      (a.withHeap heap a.frameCounter).Holding ((queue.getLast?.or last).toList.map (·.owner) ++ extra) := by
  induction queue generalizing a last with
  | nil => exact ⟨a.heap, rfl, h⟩
  | cons s queue ih =>
    have newest : (s :: queue).getLast?.or last = queue.getLast?.or (some s) := by
      rw [List.getLast?_cons]
      cases queue.getLast? <;> rfl
    rw [newest]
    cases last with
    | none =>
      obtain ⟨heap, same, held⟩ := ih (some s) h
      exact ⟨heap, same, held⟩
    | some last =>
      obtain ⟨heap, same, held⟩ := ih (some s) (Holding.drop h)
      exact ⟨heap, same, held⟩

theorem Settled.pulled (h : a.Settled) (running : a.isRunning = true) (heap : CaptureHeap) (frameCounter : Nat)
    (lastFrame : Option MappedFrame) :
    Settled { a with queue := [], heap, frameCounter, lastFrame } :=
  ⟨h.pointers, fun down => absurd (running.symm.trans down) nofun, List.nodup_nil⟩

theorem Settled.onHeap (h : a.Settled) (f : CaptureHeap → CaptureHeap) : (a.onHeap f).Settled :=
  ⟨h.pointers, h.down, h.distinct⟩

theorem settled_stop : a.stop.Settled := ⟨rfl, fun _ => ⟨rfl, rfl, rfl⟩, List.nodup_nil⟩

/-- Besides what the adapter keeps, only the frame that is answered is held. -/
theorem Holding.capture (h : a.Holding extra) (settled : a.Settled) (now : Nat) :
    (a.capture now).1.Settled ∧ (a.capture now).1.Holding ((a.capture now).2.toList.map (·.owner) ++ extra) := by
  unfold CaptureBuffers.capture
  split
  · exact ⟨settled, h⟩
  rename_i up
  split
  · exact ⟨settled_stop, h.stop⟩
  have running : a.isRunning = true := by simp_all
  have pulled : { a with queue := [] : CaptureBuffers }.Holding (a.queue.map (·.owner) ++ extra) := by
    obtain ⟨owned, before⟩ := h
    have moved : (a.queue.map (·.owner) ++ extra ++ { a with queue := [] : CaptureBuffers }.owners).Perm
        (extra ++ a.owners) := by
      rw [List.perm_iff_count]
      intro k
      simp only [owners, lastOwner, List.map_nil, List.append_nil, List.count_append]
      omega
    exact ⟨owned.perm moved, fun k mem => before k (moved.mem_iff.1 mem)⟩
  obtain ⟨heap, drained, held⟩ := pulled.drain none
  rw [drained]
  generalize a.queue.getLast?.or none = newest at held ⊢
  cases newest with
  | none =>
    obtain ⟨heap', copied, held⟩ := held.copyLast
    simp only [copied]
    exact ⟨settled.pulled running heap' a.frameCounter a.lastFrame, held⟩
  | some sample =>
    dsimp only
    obtain ⟨heap', frameCounter, made, created, held⟩ := held.createFrameFromSample now sample
    rw [created]
    cases made with
    | none =>
      obtain ⟨heap'', copied, held⟩ := held.copyLast
      simp only [copied]
      exact ⟨settled.pulled running _ frameCounter a.lastFrame, (held.perm List.perm_middle.symm).drop⟩
    | some fresh =>
      exact ⟨settled.pulled running _ frameCounter (some fresh), (held.keepLast.perm (List.Perm.swap _ _ _)).drop⟩

/-- What a producer's iteration hands on holds nothing of the capture. -/
theorem Holding.produce (h : a.Holding extra) (settled : a.Settled) (preprocessor : PreprocessConfig) (env : StageEnv) :
    (a.produce preprocessor env).1.Settled ∧ (a.produce preprocessor env).1.Holding extra := by
  obtain ⟨settled, held⟩ := h.capture settled env.now
  unfold CaptureBuffers.produce
  generalize a.capture env.now = captured at settled held ⊢
  obtain ⟨b, raw⟩ := captured
  cases raw with
  | none => exact ⟨settled, held⟩
  | some raw =>
    have held : b.Holding (raw.owner :: extra) := held
    dsimp only
    split
    · exact ⟨settled.onHeap _, held.drop⟩
    · exact ⟨settled.onHeap _, held.drop⟩
    · have first := held.use (f := raw) List.mem_cons_self
      have copied := held.copy (k := raw.owner) List.mem_cons_self
      have second := copied.use (f := raw) List.mem_cons_self
      dsimp only
      rw [first, second]
      exact ⟨((settled.onHeap _).onHeap _).onHeap _, copied.drop.drop⟩

theorem Holding.evict (h : a.Holding extra) (settled : a.Settled) : a.evict.Settled ∧ a.evict.Holding extra := by
  unfold CaptureBuffers.evict
  split
  · exact ⟨settled, h⟩
  rename_i oldest queue held
  split
  · exact ⟨settled, h⟩
  have running : a.isRunning = true := by
    by_contra down
    have nothing := (settled.down (Bool.eq_false_iff.2 down)).1
    rw [held] at nothing
    cases nothing
  have distinct := settled.distinct
  rw [held, List.map_cons, List.nodup_cons] at distinct
  refine ⟨⟨settled.pointers, fun down => absurd (running.symm.trans down) nofun, distinct.2⟩, ?_⟩
  obtain ⟨owned, before⟩ := h
  have moved : (oldest.owner :: (extra ++ { a with queue : CaptureBuffers }.owners)).Perm (extra ++ a.owners) := by
    rw [List.perm_iff_count]
    intro k
    simp only [owners, lastOwner, held, List.map_cons, List.count_append, List.count_cons]
    omega
  exact ⟨Shared.Owned.drop (owned.perm moved), fun k mem => before k (moved.mem_iff.1 (List.mem_cons_of_mem _ mem))⟩

theorem evict_eq (a : CaptureBuffers) :
    ∃ heap, a.evict = { a with heap, queue := if a.queue.length < maxBuffers then a.queue else a.queue.tail } := by
  obtain ⟨pointers, queue, failed, isRunning, frameCounter, lastFrame, samples, heap⟩ := a
  cases queue with
  | nil => exact ⟨heap, rfl⟩
  | cons oldest queue =>
    by_cases room : (oldest :: queue).length < maxBuffers
    · refine ⟨heap, ?_⟩
      simp only [CaptureBuffers.evict, if_pos room]
    · refine ⟨heap.drop CaptureOwner.owns oldest.owner, ?_⟩
      simp only [CaptureBuffers.evict, if_neg room]
      rfl

theorem Holding.sample (h : a.Holding extra) (settled : a.Settled) (s : PooledSample) :
    (a.sample s).Settled ∧ (a.sample s).Holding extra := by
  unfold CaptureBuffers.sample
  split
  · exact ⟨settled, h⟩
  rename_i up
  have running : a.isRunning = true := by
    by_contra down
    simp [settled.pointers, down] at up
  obtain ⟨settled', h'⟩ := h.evict settled
  have running' : a.evict.isRunning = true := by
    obtain ⟨heap, same⟩ := a.evict_eq
    rw [same]
    exact running
  generalize a.evict = b at settled' h' running' ⊢
  obtain ⟨owned, before⟩ := h'.newSample s
  have moved : (extra ++ (b.lastOwner ++ (b.queue ++ [(b.newSample s).2]).map (·.owner))).Perm
      ((b.newSample s).2.owner :: extra ++ b.owners) := by
    rw [List.perm_iff_count]
    intro k
    simp only [owners, List.map_append, List.map_cons, List.map_nil, List.count_append, List.count_cons]
    simp
    omega
  refine ⟨⟨settled'.pointers, fun down => absurd (running'.symm.trans down) nofun, ?_⟩,
    owned.perm moved, fun k mem => before k (moved.mem_iff.1 mem)⟩
  -- the id of the new sample is beyond those in the queue
  have fresh : (b.newSample s).2.owner ∉ b.queue.map (·.owner) := fun mem =>
    absurd (h'.before _ (List.mem_append_right _ (List.mem_append_right _ mem))) (Nat.lt_irrefl _)
  show ((b.queue ++ [(b.newSample s).2]).map (·.owner)).Nodup
  rw [List.map_append, List.nodup_append]
  exact ⟨settled'.distinct, List.nodup_singleton _, fun k mem k' mem' same => by
    rw [List.map_singleton, List.mem_singleton] at mem'
    exact fresh (mem' ▸ same ▸ mem)⟩

/-- A first frame is kept, and what it was made of is given back. -/
theorem Holding.prime (h : a.Holding extra) (now : Nat) (s : PooledSample) :
    ∃ heap frameCounter samples lastFrame,
      a.prime now s = { a with heap, frameCounter, samples, lastFrame } ∧ (a.prime now s).Holding extra := by
  unfold CaptureBuffers.prime
  obtain ⟨heap, frameCounter, made, created, held⟩ := (h.newSample s).createFrameFromSample now (a.newSample s).2
  dsimp only
  rw [created]
  cases made with
  | none => exact ⟨_, _, _, _, rfl, held.drop⟩
  | some captured => exact ⟨_, _, _, _, rfl, held.keepLast.drop.drop⟩

theorem Holding.fault (h : a.Holding extra) (settled : a.Settled) : a.fault.Settled ∧ a.fault.Holding extra := by
  refine ⟨⟨settled.pointers, fun down => ?_, settled.distinct⟩, h.owned, h.before⟩
  obtain ⟨queue, lastFrame, failed⟩ := settled.down down
  refine ⟨queue, lastFrame, ?_⟩
  rw [show a.fault.isRunning = a.isRunning from rfl] at down
  simp [CaptureBuffers.fault, failed, settled.pointers, down]

theorem Holding.start (h : a.Holding extra) (settled : a.Settled) (launch : Launch) (now : Nat) :
    (a.start launch now).Settled ∧ (a.start launch now).Holding extra := by
  unfold CaptureBuffers.start
  split
  · exact ⟨settled, h⟩
  rename_i stopped
  have stopped : a.isRunning = false := Bool.eq_false_iff.2 stopped
  have none' : a.pointers = {} := by rw [settled.pointers, stopped]; rfl
  have cleaned {heap : CaptureHeap} {p : GstPointers}
      (owned : heap.Owned CaptureOwner.owns (extra ++ a.owners) (p.loose ++ a.pointers.loose)) :
      (a.onHeap fun _ => p.cleanup heap).Settled ∧ (a.onHeap fun _ => p.cleanup heap).Holding extra :=
    ⟨settled.onHeap _, GstPointers.cleanup_owned owned, h.before⟩
  cases launch with
  | unsupported => exact ⟨settled, h⟩
  | parseError element =>
    cases element with
    | false => exact cleaned h.owned.take
    | true => exact cleaned h.owned.take.take
  | noPipeline => exact ⟨settled, h⟩
  | noBus => exact cleaned h.owned.take
  | noSink => exact cleaned (p := { pipeline := true, bus := true }) h.owned.take.take
  | notPlaying => exact cleaned (p := .up) h.owned.take.take.take
  | playing first =>
    have owned := (h.owned.take (r := .pipeline)).take (r := .bus) |>.take (r := .sink)
    rw [none'] at owned
    have up : CaptureBuffers.Settled
        { a.onHeap (fun heap => ((heap.take .pipeline).take .bus).take .sink) with
          pointers := { pipeline := true, bus := true, sink := true }, isRunning := true } :=
      ⟨rfl, nofun, settled.distinct⟩
    have held : CaptureBuffers.Holding
        { a.onHeap (fun heap => ((heap.take .pipeline).take .bus).take .sink) with
          pointers := { pipeline := true, bus := true, sink := true }, isRunning := true } extra :=
      ⟨owned, h.before⟩
    cases first with
    | none => exact ⟨up, held⟩
    | some s =>
      obtain ⟨heap, frameCounter, samples, lastFrame, primed, held⟩ := held.prime now s
      refine ⟨?_, held⟩
      dsimp only
      rw [primed]
      exact ⟨rfl, nofun, settled.distinct⟩

/-! ## Without the ownership -/

/-- The adapter of the pipeline. -/
def erase (a : CaptureBuffers) : GStreamerAdapter where
  pipeline := if a.pointers.pipeline then some { samples := a.queue.map (·.sample), failed := a.failed } else none
  isRunning := a.isRunning
  frameCounter := a.frameCounter
  lastFrame := a.lastFrame.map (·.frame)

theorem erase_onHeap (f : CaptureHeap → CaptureHeap) : (a.onHeap f).erase = a.erase := rfl

theorem erase_drop (k : CaptureOwner) : (a.drop k).erase = a.erase := rfl

theorem erase_createFrameFromSample (now : Nat) (s : QueuedSample) :
    a.erase.createFrameFromSample now s.sample =
      ((a.createFrameFromSample now s).1.erase, (a.createFrameFromSample now s).2.map (·.frame)) := by
  unfold CaptureBuffers.createFrameFromSample GStreamerAdapter.createFrameFromSample
  cases s.sample.info with
  | none => rfl
  | some info =>
    cases mapped : s.sample.map with
    | none => cases s.buffer <;> rfl
    | some map =>
      obtain ⟨b, buffer⟩ := Option.isSome_iff_exists.1 (s.backed (mapped ▸ rfl))
      rw [buffer]
      dsimp only
      cases map.framePlanes info with
      | none => rfl
      | some planes =>
        dsimp only [erase, onHeap]
        cases map.frame info planes a.frameCounter now <;> rfl

theorem copyLast_eq : a.copyLast.1.erase = a.erase ∧ a.copyLast.2 = a.lastFrame := by
  unfold CaptureBuffers.copyLast
  cases a.lastFrame <;> exact ⟨rfl, rfl⟩

theorem drain_eq (queue : List QueuedSample) (last : Option QueuedSample) (a : CaptureBuffers) :
    (drain queue last a).1.erase = a.erase ∧ (drain queue last a).2 = queue.getLast?.or last := by
  induction queue generalizing a last with
  | nil => exact ⟨rfl, rfl⟩
  | cons s queue ih =>
    have newest : (s :: queue).getLast?.or last = queue.getLast?.or (some s) := by
      rw [List.getLast?_cons]
      cases queue.getLast? <;> rfl
    rw [newest]
    cases last with
    | none => exact ih (some s) a
    | some last => exact ih (some s) (a.drop last.owner)

/-- The samples that were pulled, and the adapter without them. -/
theorem erase_drained (a : CaptureBuffers) (now : Nat) {g : GStreamerAdapter}
    (same : g = { a with queue := [] : CaptureBuffers }.erase) :
    (match (a.queue.map (·.sample)).getLast? with
      | none => (g, g.lastFrame)
      | some sample =>
        match g.keepFrame now sample with
        | (g, none) => (g, g.lastFrame)
        | (g, some fresh) => (g, some fresh)) =
      match drain a.queue none { a with queue := [] } with
      | (b, none) => (b.copyLast.1.erase, b.copyLast.2.map (·.frame))
      | (b, some sample) =>
        match b.createFrameFromSample now sample with
        | (b, none) => ((b.copyLast.1.drop sample.owner).erase, b.copyLast.2.map (·.frame))
        | (b, some fresh) => (((b.keepLast fresh).drop sample.owner).erase, some fresh.frame) := by
  obtain ⟨drained, newest⟩ := drain_eq a.queue none { a with queue := [] }
  rw [Option.or_none] at newest
  rw [same, ← drained, List.getLast?_map, ← newest]
  generalize drain a.queue none { a with queue := [] } = pulled
  obtain ⟨b, last⟩ := pulled
  cases last with
  | none =>
    obtain ⟨copied, last⟩ := copyLast_eq (a := b)
    simp only [Option.map_none]
    rw [copied, last]
    rfl
  | some sample =>
    simp only [Option.map_some, GStreamerAdapter.keepFrame, erase_createFrameFromSample]
    generalize b.createFrameFromSample now sample = created
    obtain ⟨c, made⟩ := created
    cases made with
    | none =>
      obtain ⟨copied, last⟩ := copyLast_eq (a := c)
      simp only [Option.map_none]
      rw [last]
      exact Prod.ext copied.symm rfl
    | some fresh => rfl

theorem erase_capture (settled : a.Settled) (now : Nat) :
    a.erase.capture now = ((a.capture now).1.erase, (a.capture now).2.map (·.frame)) := by
  cases running : a.isRunning with
  | false =>
    have idle : a.capture now = (a, none) := by simp [CaptureBuffers.capture, running]
    have idle' : a.erase.capture now = (a.erase, none) := by simp [GStreamerAdapter.capture, erase, running]
    rw [idle, idle']
    rfl
  | true =>
    have pointers : a.pointers = .up := by rw [settled.pointers, running]; rfl
    have on : a.erase.isRunning = true := running
    have up : a.erase.pipeline = some { samples := a.queue.map (·.sample), failed := a.failed } := by
      simp [erase, pointers, GstPointers.up]
    unfold CaptureBuffers.capture GStreamerAdapter.capture
    rw [if_neg (by simp [on]), if_neg (by simp [running, pointers, GstPointers.up]), up]
    dsimp only
    by_cases failed : a.failed = true
    · rw [if_pos failed, if_pos failed]
      rfl
    · rw [if_neg failed, if_neg failed]
      have empty : { a.erase with pipeline := some { samples := [], failed := a.failed } } =
          { a with queue := [] : CaptureBuffers }.erase := by
        simp [erase, pointers, GstPointers.up]
      refine (erase_drained a now empty).trans ?_
      generalize drain a.queue none { a with queue := [] } = pulled
      obtain ⟨b, last⟩ := pulled
      cases last with
      | none => rfl
      | some sample =>
        dsimp only
        generalize b.createFrameFromSample now sample = created
        obtain ⟨c, made⟩ := created
        cases made <;> rfl

/-- An iteration of the producer is the one of the pipeline. -/
theorem erase_produce (settled : a.Settled) (rawSink : Bool) (env : StageEnv) (c : CameraChain) :
    CameraChain.produce rawSink env { c with capture := a.erase } =
      match a.produce c.preprocessor env with
      | (b, none) => { c with capture := b.erase }
      | (b, some bundle) => CameraChain.handOn rawSink bundle { c with capture := b.erase } := by
  unfold CameraChain.produce CaptureBuffers.produce
  rw [erase_capture settled]
  generalize a.capture env.now = captured
  obtain ⟨b, raw⟩ := captured
  cases raw with
  | none => rfl
  | some raw =>
    dsimp only [Option.map_some]
    rcases OpenCvPreprocessor.process c.preprocessor env.mem env.buf raw.frame with _ | _ | bundle
    · rfl
    · rfl
    · dsimp only
      rw [erase_drop, erase_drop, erase_onHeap, copy, erase_onHeap, erase_onHeap]

theorem erase_sample (s : PooledSample) : (a.sample s).erase = a.erase.sample s.sample := by
  unfold CaptureBuffers.sample GStreamerAdapter.sample
  cases up : a.pointers.pipeline with
  | false => simp [erase, up]
  | true =>
    obtain ⟨heap, same⟩ := a.evict_eq
    have kept : (if a.queue.length < maxBuffers then a.queue else a.queue.tail).map (·.sample) =
        if (a.queue.map (·.sample)).length < maxBuffers then a.queue.map (·.sample) else (a.queue.map (·.sample)).tail := by
      rw [List.length_map]
      split
      · rfl
      · exact List.map_tail
    have on : a.erase.pipeline = some { samples := a.queue.map (·.sample), failed := a.failed } := by
      rw [erase, up]
      rfl
    rw [on, same]
    dsimp only
    rw [← kept]
    simp [erase, CaptureBuffers.newSample, up]

theorem erase_fault : a.fault.erase = a.erase.fault := by
  unfold CaptureBuffers.fault GStreamerAdapter.fault erase
  cases a.pointers.pipeline <;> simp

theorem erase_prime (now : Nat) (s : PooledSample) : (a.prime now s).erase = (a.erase.keepFrame now s.sample).1 := by
  have converted := erase_createFrameFromSample (a := (a.newSample s).1) now (a.newSample s).2
  unfold CaptureBuffers.prime GStreamerAdapter.keepFrame
  rw [show a.erase.createFrameFromSample now s.sample = _ from converted]
  dsimp only
  generalize (a.newSample s).1.createFrameFromSample now (a.newSample s).2 = created
  obtain ⟨b, made⟩ := created
  cases made <;> rfl

theorem erase_start (settled : a.Settled) (launch : Launch) (now : Nat) :
    (a.start launch now).erase = a.erase.start launch.comesUp launch.first now := by
  unfold CaptureBuffers.start GStreamerAdapter.start
  cases running : a.isRunning with
  | true =>
    have on : a.erase.isRunning = true := running
    rw [on]
    rfl
  | false =>
    have off : a.erase.isRunning = false := running
    obtain ⟨queue, lastFrame, failed⟩ := settled.down running
    rw [off]
    cases launch with
    | playing first =>
      cases first with
      | none => simp [Launch.comesUp, Launch.first, erase, onHeap, queue, failed]
      | some s =>
        simp only [Launch.comesUp, Launch.first, Bool.false_eq_true, if_false, erase_prime, Bool.not_true, Option.map_some]
        simp [erase, onHeap, queue, failed]
    | _ => rfl

end CaptureBuffers

/-! ## All runs -/

inductive CameraEvent where
  | start (launch : Launch) (now : Nat)
  | stop
  | sample (s : PooledSample)
  | fault
  | produce (env : StageEnv)

namespace CaptureBuffers

def step (preprocessor : PreprocessConfig) (a : CaptureBuffers) : CameraEvent → CaptureBuffers
  | .start launch now => a.start launch now
  | .stop => a.stop
  | .sample s => a.sample s
  | .fault => a.fault
  | .produce env => (a.produce preprocessor env).1

def run (preprocessor : PreprocessConfig) (events : List CameraEvent) : CaptureBuffers := events.foldl (step preprocessor) {}

end CaptureBuffers

/-- The camera of the pipeline in the same step. -/
def CameraChain.follow (rawSink : Bool) (c : CameraChain) : CameraEvent → CameraChain
  | .start launch now => { c with capture := c.capture.start launch.comesUp launch.first now }
  | .stop => { c with capture := c.capture.stop }
  | .sample s => { c with capture := c.capture.sample s.sample }
  | .fault => { c with capture := c.capture.fault }
  | .produce env => c.produce rawSink env

namespace CaptureBuffers

variable {a : CaptureBuffers}

/-- **One step** keeps what is held to what the adapter keeps. -/
theorem step_holding (preprocessor : PreprocessConfig) (h : a.Holding []) (settled : a.Settled) (e : CameraEvent) :
    (a.step preprocessor e).Settled ∧ (a.step preprocessor e).Holding [] := by
  cases e with
  | start launch now => exact h.start settled launch now
  | stop => exact ⟨settled_stop, h.stop⟩
  | sample s => exact h.sample settled s
  | fault => exact h.fault settled
  | produce env => exact h.produce settled preprocessor env

theorem new_holding : Settled {} ∧ Holding {} [] :=
  ⟨⟨rfl, fun _ => ⟨rfl, rfl, rfl⟩, List.nodup_nil⟩, Shared.owned_new, nofun⟩

theorem run_holding (preprocessor : PreprocessConfig) (events : List CameraEvent) :
    (run preprocessor events).Settled ∧ (run preprocessor events).Holding [] := by
  have each : ∀ a : CaptureBuffers, a.Settled ∧ a.Holding [] →
      (events.foldl (step preprocessor) a).Settled ∧ (events.foldl (step preprocessor) a).Holding [] := by
    induction events with
    | nil => exact fun a h => h
    | cons e events ih => exact fun a h => ih _ (step_holding preprocessor h.2 h.1 e)
  exact each {} new_holding

/-- The step of the pipeline's camera is the same but for the ownership. -/
theorem follow_erase (settled : a.Settled) (rawSink : Bool) {c : CameraChain} (same : c.capture = a.erase) (e : CameraEvent) :
    (c.follow rawSink e).capture = (a.step c.preprocessor e).erase ∧ (c.follow rawSink e).preprocessor = c.preprocessor := by
  cases e with
  | start launch now => exact ⟨(congrArg _ same).trans (erase_start settled launch now).symm, rfl⟩
  | stop => exact ⟨congrArg GStreamerAdapter.stop same, rfl⟩
  | sample s => exact ⟨(congrArg _ same).trans (erase_sample s).symm, rfl⟩
  | fault => exact ⟨(congrArg _ same).trans erase_fault.symm, rfl⟩
  | produce env =>
    have whole : { c with capture := a.erase } = c := by rw [← same]
    have produced := erase_produce settled rawSink env c
    rw [whole] at produced
    rw [CameraChain.follow, produced, step]
    generalize a.produce c.preprocessor env = result
    obtain ⟨b, bundle⟩ := result
    cases bundle <;> exact ⟨rfl, rfl⟩

/-- The adapter of the pipeline is this one without the ownership. -/
theorem run_erase (preprocessor : PreprocessConfig) (rawSink : Bool) (events : List CameraEvent) :
    (events.foldl (CameraChain.follow rawSink) { preprocessor }).capture = (run preprocessor events).erase := by
  have each : ∀ (a : CaptureBuffers) (c : CameraChain), a.Settled → a.Holding [] → c.capture = a.erase →
      c.preprocessor = preprocessor →
        (events.foldl (CameraChain.follow rawSink) c).capture = (events.foldl (step preprocessor) a).erase := by
    induction events with
    | nil => exact fun a c _ _ same _ => same
    | cons e events ih =>
      intro a c settled held same config
      obtain ⟨same', config'⟩ := follow_erase settled rawSink same e
      rw [config] at same' config'
      obtain ⟨settled', held'⟩ := step_holding preprocessor held settled e
      exact ih _ _ settled' held' same' config'
  exact each {} _ new_holding.1 new_holding.2 rfl rfl

/-! ## The references -/

theorem owners_nodup (settled : a.Settled) : a.owners.Nodup := by
  rw [owners, List.nodup_append]
  refine ⟨?_, settled.distinct, ?_⟩
  · unfold lastOwner
    cases a.lastFrame with
    | none => exact List.nodup_nil
    | some last => exact List.nodup_singleton _
  · intro k last k' queued same
    obtain ⟨f, -, rfl⟩ := List.mem_map.1 last
    obtain ⟨s, -, rfl⟩ := List.mem_map.1 queued
    exact absurd same nofun

/-- A reference that one owner has of each of its things. -/
theorem sum_count {α : Type} {l : List α} {owner : α → CaptureOwner} {r : CaptureResource} {p : α → Bool}
    (each : ∀ x, ((owner x).owns).count r = if p x then 1 else 0) :
    (l.map fun x => ((owner x).owns).count r).sum = l.countP p := by
  induction l with
  | nil => rfl
  | cons x l ih =>
    rw [List.map_cons, List.sum_cons, ih, each, List.countP_cons]
    omega

theorem held_eq (h : a.Holding []) (settled : a.Settled) {r : CaptureResource} (queued : QueuedSample → Bool)
    (kept : MappedFrame → Bool) (eachQueued : ∀ s, s.owner.owns.count r = if queued s then 1 else 0)
    (eachKept : ∀ f, f.owner.owns.count r = if kept f then 1 else 0) :
    a.heap.resources.held r = a.pointers.loose.count r + (a.lastFrame.toList.countP kept + a.queue.countP queued) := by
  rw [h.owned.held, List.nil_append, (owners_nodup settled).dedup, owners, List.map_append, List.sum_append, lastOwner,
    List.map_map, List.map_map]
  rw [show (_ ∘ fun f : MappedFrame => f.owner) = fun f : MappedFrame => f.owner.owns.count r from rfl,
    show (_ ∘ fun s : QueuedSample => s.owner) = fun s : QueuedSample => s.owner.owns.count r from rfl,
    sum_count eachKept, sum_count eachQueued]

/-- In every run of the adapter nothing is given back that is not held, and no buffer is read that is not
mapped. A buffer is mapped while the last frame is of it, and referred to by that frame and by the samples
in the appsink; an adapter that does not run holds nothing. -/
theorem capture_references (preprocessor : PreprocessConfig) (events : List CameraEvent) :
    let a := run preprocessor events
    a.heap.copies.overdrawn = false ∧ a.heap.resources.overdrawn = false ∧ a.heap.dangled = false ∧
      (∀ b, a.heap.resources.held (.mapping b) = a.lastFrame.toList.countP (·.buffer = b)) ∧
      (∀ b, a.heap.resources.held (.buffer b) =
        a.lastFrame.toList.countP (·.buffer = b) + a.queue.countP (·.buffer = some b)) ∧
      (a.isRunning = false → ∀ r, a.heap.resources.held r = 0) := by
  intro a
  obtain ⟨settled, holding⟩ := run_holding preprocessor events
  refine ⟨holding.owned.copies.sound, holding.owned.resources.sound, holding.owned.sound, fun b => ?_, fun b => ?_, ?_⟩
  · have apart : a.pointers.loose.count (.mapping b) = 0 := List.count_eq_zero.2 (by simp [GstPointers.loose])
    have counted := held_eq holding settled (r := .mapping b) (fun _ => false) (·.buffer = b)
      (fun s => by cases buffer : s.buffer <;> simp [QueuedSample.owner, CaptureOwner.owns, buffer])
      (fun f => by simp [MappedFrame.owner, CaptureOwner.owns, List.count_cons])
    rw [counted, apart, Nat.zero_add, List.countP_false]
    rfl
  · have apart : a.pointers.loose.count (.buffer b) = 0 := List.count_eq_zero.2 (by simp [GstPointers.loose])
    have counted := held_eq holding settled (r := .buffer b) (·.buffer = some b) (·.buffer = b)
      (fun s => by cases buffer : s.buffer <;> simp [QueuedSample.owner, CaptureOwner.owns, buffer, List.count_cons])
      (fun f => by simp [MappedFrame.owner, CaptureOwner.owns, List.count_cons])
    rw [counted, apart, Nat.zero_add]
  · intro down r
    have nothing : a.pointers.loose = [] := by
      rw [settled.pointers, down]
      rfl
    obtain ⟨queue, lastFrame, -⟩ := settled.down down
    rw [holding.owned.held, nothing, List.nil_append, owners, lastOwner, queue, lastFrame]
    rfl

end CaptureBuffers

end SstCam
