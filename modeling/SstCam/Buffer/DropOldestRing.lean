import SstCam.Buffer.LatestOnlySlot

/-!
# DropOldestRing

A bounded queue that makes room by dropping its oldest value
(`domain/buffer/services/drop-oldest-ring.hpp`). Each method runs under the ring's lock. A pop that
waits returns when there is a value, when the ring is closed or when its time is up, and then takes
what is there.
-/

namespace SstCam
set_option autoImplicit false

structure DropOldestRing (α : Type) where
  capacity : Nat
  capacity_pos : 0 < capacity
  queue : List α := []
  within : queue.length ≤ capacity := by exact Nat.zero_le _
  closed : Bool := false
  pushed : Nat := 0
  popped : Nat := 0
  dropped : Nat := 0
  deriving DecidableEq, Repr

namespace DropOldestRing

variable {α : Type}

/-- The constructor throws for a capacity of zero. -/
def create (capacity : Nat) : Option (DropOldestRing α) :=
  if h : 0 < capacity then some { capacity, capacity_pos := h } else none

/-- Returns whether the value displaced none and was not refused. -/
def push (value : α) (r : DropOldestRing α) : DropOldestRing α × Bool :=
  if r.closed then ({ r with dropped := r.dropped + 1 }, false)
  else if full : r.capacity ≤ r.queue.length then
    ({ r with
        queue := r.queue.tail ++ [value]
        within := by
          have pos := r.capacity_pos
          have within := r.within
          simp only [List.length_append, List.length_tail, List.length_singleton]
          omega
        dropped := r.dropped + 1
        pushed := r.pushed + 1 },
      false)
  else
    ({ r with
        queue := r.queue ++ [value]
        within := by
          simp only [List.length_append, List.length_singleton]
          omega
        pushed := r.pushed + 1 },
      true)

def take (r : DropOldestRing α) : DropOldestRing α × Option α :=
  match h : r.queue with
  | [] => (r, none)
  | value :: queue =>
    ({ r with
        queue
        within := by
          have within := r.within
          simp only [h, List.length_cons] at within
          omega
        popped := r.popped + 1 },
      some value)

def pop (r : DropOldestRing α) : DropOldestRing α × Option α := r.take

def tryPop (r : DropOldestRing α) : DropOldestRing α × Option α := r.take

def close (r : DropOldestRing α) : DropOldestRing α := { r with closed := true }

def stats (r : DropOldestRing α) : BufferStats where
  policy := .dropOldest
  capacity := r.capacity
  depth := r.queue.length
  pushed := r.pushed
  popped := r.popped
  dropped := r.dropped

@[simp] theorem close_queue (r : DropOldestRing α) : r.close.queue = r.queue := rfl

@[simp] theorem push_closed (value : α) (r : DropOldestRing α) : (r.push value).1.closed = r.closed := by
  unfold push
  repeat' split
  all_goals rfl

@[simp] theorem push_capacity (value : α) (r : DropOldestRing α) : (r.push value).1.capacity = r.capacity := by
  unfold push
  repeat' split
  all_goals rfl

@[simp] theorem take_capacity (r : DropOldestRing α) : r.take.1.capacity = r.capacity := by
  unfold take
  split <;> rfl

@[simp] theorem take_closed (r : DropOldestRing α) : r.take.1.closed = r.closed := by
  unfold take
  split <;> rfl

/-- An open ring takes every value, and makes room for it if it is full. -/
theorem push_queue {r : DropOldestRing α} (h : r.closed = false) (value : α) :
    (r.push value).1.queue = (if r.capacity ≤ r.queue.length then r.queue.tail else r.queue) ++ [value] := by
  unfold push
  rw [if_neg (by simp [h])]
  split <;> rfl

/-- A value that is taken was the oldest. -/
theorem take_queue (r : DropOldestRing α) : r.take.2.toList ++ r.take.1.queue = r.queue := by
  unfold take
  split
  · simp
  · rename_i h
    simp [h]

theorem take_empty {r : DropOldestRing α} (h : r.queue = []) : r.take = (r, none) := by
  unfold take
  split
  · rfl
  · rename_i some
    rw [h] at some
    cases some

/-- A ring that gives nothing is empty. -/
theorem take_none {r : DropOldestRing α} (h : r.take.2 = none) : r.queue = [] := by
  unfold take at h
  split at h
  · assumption
  · cases h

end DropOldestRing

end SstCam
