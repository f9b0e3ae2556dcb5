/-!
# LatestOnlySlot

A buffer of one value that a newer one replaces (`domain/buffer/services/latest-only-slot.hpp`).
Each method runs under the slot's lock. A pop that waits returns when there is a value, when the
slot is closed or when its time is up, and then takes what is there.
-/

namespace SstCam
set_option autoImplicit false

inductive BufferPolicy where
  | latestOnly
  | dropOldest
  deriving DecidableEq, Repr

structure BufferStats where
  policy : BufferPolicy
  capacity : Nat
  depth : Nat
  pushed : Nat
  popped : Nat
  dropped : Nat
  deriving DecidableEq, Repr

structure LatestOnlySlot (α : Type) where
  slot : Option α := none
  closed : Bool := false
  pushed : Nat := 0
  popped : Nat := 0
  dropped : Nat := 0
  deriving DecidableEq, Repr

namespace LatestOnlySlot

variable {α : Type}

/-- Returns whether the value displaced none and was not refused. -/
def push (value : α) (s : LatestOnlySlot α) : LatestOnlySlot α × Bool :=
  if s.closed then ({ s with dropped := s.dropped + 1 }, false)
  else
    match s.slot with
    | some _ => ({ s with slot := some value, pushed := s.pushed + 1, dropped := s.dropped + 1 }, false)
    | none => ({ s with slot := some value, pushed := s.pushed + 1 }, true)

def take (s : LatestOnlySlot α) : LatestOnlySlot α × Option α :=
  match s.slot with
  | none => (s, none)
  | some value => ({ s with slot := none, popped := s.popped + 1 }, some value)

def pop (s : LatestOnlySlot α) : LatestOnlySlot α × Option α := s.take

def tryPop (s : LatestOnlySlot α) : LatestOnlySlot α × Option α := s.take

def close (s : LatestOnlySlot α) : LatestOnlySlot α := { s with closed := true }

def stats (s : LatestOnlySlot α) : BufferStats where
  policy := .latestOnly
  capacity := 1
  depth := if s.slot.isSome then 1 else 0
  pushed := s.pushed
  popped := s.popped
  dropped := s.dropped

@[simp] theorem push_closed (value : α) (s : LatestOnlySlot α) : (s.push value).1.closed = s.closed := by
  unfold push
  repeat' split
  all_goals rfl

@[simp] theorem take_closed (s : LatestOnlySlot α) : s.take.1.closed = s.closed := by
  unfold take
  split <;> rfl

@[simp] theorem take_snd (s : LatestOnlySlot α) : s.take.2 = s.slot := by
  unfold take
  split <;> simp [*]

@[simp] theorem take_slot (s : LatestOnlySlot α) : s.take.1.slot = none := by
  unfold take
  split <;> simp [*]

/-- An open slot holds what was pushed last. -/
theorem push_slot {s : LatestOnlySlot α} (h : s.closed = false) (value : α) :
    (s.push value).1.slot = some value ∧ (s.push value).1.pushed = s.pushed + 1 := by
  unfold push
  rw [h]
  cases s.slot <;> exact ⟨rfl, rfl⟩

/-- A closed slot takes nothing more. -/
theorem push_refused {s : LatestOnlySlot α} (h : s.closed = true) (value : α) :
    (s.push value).1.slot = s.slot ∧ (s.push value).1.pushed = s.pushed := by
  unfold push
  rw [h]
  exact ⟨rfl, rfl⟩

/-- A push leaves the value pushed, or what was there. -/
theorem push_holds {s : LatestOnlySlot α} {value held : α} (h : (s.push value).1.slot = some held) :
    held = value ∨ s.slot = some held := by
  cases closed : s.closed with
  | true => exact .inr ((push_refused closed value).1 ▸ h)
  | false =>
    rw [(push_slot closed value).1] at h
    exact .inl (Option.some.inj h).symm

@[simp] theorem close_slot (s : LatestOnlySlot α) : s.close.slot = s.slot := rfl

end LatestOnlySlot

end SstCam
