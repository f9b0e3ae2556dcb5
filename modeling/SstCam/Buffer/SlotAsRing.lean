import SstCam.Buffer.RingTrace

/-!
# The slot is a ring of one place

`LatestOnlySlot` and `DropOldestRing` are written separately. A slot holds what a ring of capacity 1
holds (`Holds`), every operation keeps that and returns the same on both, so nothing but the policy
they report tells them apart (`LatestOnlySlot.same_returns`).
-/

namespace SstCam
set_option autoImplicit false

variable {α : Type}

/-- A return as that of a buffer with this policy. -/
def BufferReturn.withPolicy (policy : BufferPolicy) : BufferReturn α → BufferReturn α
  | .stats report => .stats { report with policy }
  | ret => ret

namespace LatestOnlySlot

def exec (s : LatestOnlySlot α) : BufferOp α → LatestOnlySlot α × BufferReturn α
  | .push value => ((s.push value).1, .push (s.push value).2)
  | .pop => (s.pop.1, .pop s.pop.2)
  | .tryPop => (s.tryPop.1, .pop s.tryPop.2)
  | .close => (s.close, .close)
  | .stats => (s, .stats s.stats)

def step (s : LatestOnlySlot α) (op : BufferOp α) : LatestOnlySlot α := (s.exec op).1

def returned (s : LatestOnlySlot α) (op : BufferOp α) : BufferReturn α := (s.exec op).2

/-- The wait of a pop, as for the ring. -/
theorem pop_eq (s : LatestOnlySlot α) : s.pop = if s.slot.isSome ∨ s.closed then s.take else (s, none) := by
  cases h : s.slot with
  | none =>
    have empty : s.take = (s, none) := by rw [take, h]
    rw [pop, empty, ite_self]
  | some value => rw [pop, if_pos (.inl rfl)]

/-- The slot and a ring of capacity 1 with the same value and the same counts. -/
structure Holds (s : LatestOnlySlot α) (r : DropOldestRing α) : Prop where
  one : r.capacity = 1
  queue : r.queue = s.slot.toList
  closed : r.closed = s.closed
  pushed : r.pushed = s.pushed
  popped : r.popped = s.popped
  dropped : r.dropped = s.dropped

variable {s : LatestOnlySlot α} {r : DropOldestRing α}

theorem Holds.push (h : s.Holds r) (value : α) : (s.push value).1.Holds (r.push value).1 ∧ (s.push value).2 = (r.push value).2 := by
  obtain ⟨one, queue, closed, pushed, popped, dropped⟩ := h
  unfold LatestOnlySlot.push DropOldestRing.push
  rw [closed]
  cases s.closed with
  | true => exact ⟨⟨one, queue, rfl, pushed, popped, congrArg (· + 1) dropped⟩, rfl⟩
  | false =>
    cases held : s.slot with
    | none =>
      rw [held] at queue
      rw [if_neg Bool.false_ne_true, if_neg Bool.false_ne_true, dif_neg (by simp [one, queue])]
      refine ⟨⟨one, ?_, rfl, congrArg (· + 1) pushed, popped, dropped⟩, rfl⟩
      simp [queue]
    | some old =>
      rw [held] at queue
      rw [if_neg Bool.false_ne_true, if_neg Bool.false_ne_true, dif_pos (by simp [one, queue])]
      refine ⟨⟨one, ?_, rfl, congrArg (· + 1) pushed, popped, congrArg (· + 1) dropped⟩, rfl⟩
      simp [queue]

theorem Holds.take (h : s.Holds r) : s.take.1.Holds r.take.1 ∧ s.take.2 = r.take.2 := by
  obtain ⟨one, queue, closed, pushed, popped, dropped⟩ := h
  cases held : s.slot with
  | none =>
    rw [held] at queue
    have taken : s.take = (s, none) := by rw [LatestOnlySlot.take, held]
    rw [taken, DropOldestRing.take_empty queue]
    exact ⟨⟨one, queue.trans (by rw [held]), closed, pushed, popped, dropped⟩, rfl⟩
  | some value =>
    rw [held] at queue
    have taken : s.take = ({ s with slot := none, popped := s.popped + 1 }, some value) := by
      rw [LatestOnlySlot.take, held]
    have rest := r.take_queue
    obtain ⟨pushed', dropped', popped'⟩ := r.take_counts
    have oldest : r.take.2 = some value := by rw [r.take_snd, queue]; rfl
    rw [oldest, queue, Option.toList_some, List.singleton_append, List.cons_eq_cons] at rest
    rw [oldest] at popped'
    rw [taken, oldest]
    refine ⟨⟨r.take_capacity.trans one, rest.2, r.take_closed.trans closed, pushed'.trans pushed, ?_,
      dropped'.trans dropped⟩, rfl⟩
    rw [popped', popped]
    rfl

theorem Holds.close (h : s.Holds r) : s.close.Holds r.close := ⟨h.one, h.queue, rfl, h.pushed, h.popped, h.dropped⟩

theorem Holds.stats (h : s.Holds r) : { s.stats with policy := .dropOldest } = r.stats := by
  obtain ⟨one, queue, closed, pushed, popped, dropped⟩ := h
  rw [LatestOnlySlot.stats, DropOldestRing.stats, one, queue, pushed, popped, dropped]
  cases s.slot <;> rfl

/-- One operation. -/
theorem Holds.step (h : s.Holds r) (op : BufferOp α) : (s.step op).Holds (r.step op) := by
  cases op with
  | push value => exact (h.push value).1
  | pop | tryPop => exact h.take.1
  | close => exact h.close
  | stats => exact h

theorem Holds.returned (h : s.Holds r) (op : BufferOp α) : (s.returned op).withPolicy .dropOldest = r.returned op := by
  cases op with
  | push value => exact congrArg BufferReturn.push (h.push value).2
  | pop | tryPop => exact congrArg BufferReturn.pop h.take.2
  | close => rfl
  | stats => exact congrArg BufferReturn.stats h.stats

theorem holds_fresh : ({} : LatestOnlySlot α).Holds (DropOldestRing.fresh 1 Nat.one_pos) := ⟨rfl, rfl, rfl, rfl, rfl, rfl⟩

/-- **A slot returns what a ring of capacity 1 returns**, along any sequence of operations, but for the
policy its statistics name. -/
theorem same_returns (ops : List (BufferOp α)) :
    (Runs.outputs step returned {} ops).map (·.withPolicy .dropOldest) =
      Runs.outputs DropOldestRing.step DropOldestRing.returned (DropOldestRing.fresh 1 Nat.one_pos) ops := by
  apply Runs.outputs_map_eq (R := Holds)
  · intro s r op h
    exact h.step op
  · intro s r op h
    exact h.returned op
  · exact holds_fresh

end LatestOnlySlot

end SstCam
