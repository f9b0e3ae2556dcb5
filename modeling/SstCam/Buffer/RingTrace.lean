import Mathlib.Data.List.Infix
import SstCam.Buffer.DropOldestRing
import SstCam.Lib.Runs

/-!
# What a ring gives back

A ring along any sequence of its operations. The values pushed before the first close are accepted,
those behind it are refused; both are read off the operations. What the ring still holds are the last
values accepted, and what was popped stands among them in the order of the pushes
(`DropOldestRing.operations_law`).
-/

namespace SstCam
set_option autoImplicit false

inductive BufferOp (α : Type) where
  | push (value : α)
  | pop
  | tryPop
  | close
  | stats
  deriving DecidableEq, Repr

/-- What an operation returns. -/
inductive BufferReturn (α : Type) where
  | push (clean : Bool)
  | pop (value : Option α)
  | close
  | stats (stats : BufferStats)
  deriving DecidableEq, Repr

variable {α : Type}

namespace BufferOp

/-- The values that a buffer, closed already or not, accepts. -/
def accepted (closed : Bool) : List (BufferOp α) → List α
  | [] => []
  | .push value :: ops => if closed then accepted closed ops else value :: accepted closed ops
  | .close :: ops => accepted true ops
  | .pop :: ops | .tryPop :: ops | .stats :: ops => accepted closed ops

/-- The pushes it refuses. -/
def refused (closed : Bool) : List (BufferOp α) → Nat
  | [] => 0
  | .push _ :: ops => if closed then refused closed ops + 1 else refused closed ops
  | .close :: ops => refused true ops
  | .pop :: ops | .tryPop :: ops | .stats :: ops => refused closed ops

def closes : BufferOp α → Bool
  | .close => true
  | _ => false

theorem accepted_cons (closed : Bool) (op : BufferOp α) (ops : List (BufferOp α)) :
    accepted closed (op :: ops) = accepted closed [op] ++ accepted (closed || op.closes) ops := by
  cases op <;> cases closed <;> rfl

theorem refused_cons (closed : Bool) (op : BufferOp α) (ops : List (BufferOp α)) :
    refused closed (op :: ops) = refused closed [op] + refused (closed || op.closes) ops := by
  cases op <;> cases closed <;> simp [refused, closes, Nat.add_comm]

/-- Nothing is accepted behind a close. -/
@[simp] theorem accepted_closed (ops : List (BufferOp α)) : accepted true ops = [] := by
  induction ops with
  | nil => rfl
  | cons op ops ih => cases op <;> simpa [accepted] using ih

end BufferOp

namespace BufferReturn

/-- The value popped, if there is one. -/
def popValue : BufferReturn α → Option α
  | .pop value => value
  | _ => none

/-- The values popped, in order. -/
def popValues (returns : List (BufferReturn α)) : List α := returns.filterMap popValue

@[simp] theorem popValues_nil : popValues ([] : List (BufferReturn α)) = [] := rfl

@[simp] theorem popValues_cons (ret : BufferReturn α) (returns : List (BufferReturn α)) :
    popValues (ret :: returns) = ret.popValue.toList ++ popValues returns := by
  unfold popValues
  cases h : ret.popValue <;> simp [h]

end BufferReturn

namespace DropOldestRing

open BufferOp BufferReturn

def exec (r : DropOldestRing α) : BufferOp α → DropOldestRing α × BufferReturn α
  | .push value => ((r.push value).1, .push (r.push value).2)
  | .pop => (r.pop.1, .pop r.pop.2)
  | .tryPop => (r.tryPop.1, .pop r.tryPop.2)
  | .close => (r.close, .close)
  | .stats => (r, .stats r.stats)

def step (r : DropOldestRing α) (op : BufferOp α) : DropOldestRing α := (r.exec op).1

def returned (r : DropOldestRing α) (op : BufferOp α) : BufferReturn α := (r.exec op).2

/-! ## One operation -/

theorem push_closed_eq {r : DropOldestRing α} (h : r.closed = true) (value : α) :
    r.push value = ({ r with dropped := r.dropped + 1 }, false) := by
  rw [push, if_pos h]

/-- What an open ring counts for a push: the value is kept, and the one it may drop for it is not. -/
theorem push_counts {r : DropOldestRing α} (h : r.closed = false) (value : α) :
    (r.push value).1.pushed = r.pushed + 1 ∧ (r.push value).1.popped = r.popped ∧
      (r.push value).1.dropped + (r.push value).1.queue.length = r.dropped + r.queue.length + 1 := by
  have pos := r.capacity_pos
  unfold push
  rw [if_neg (by simp [h])]
  split
  · refine ⟨rfl, rfl, ?_⟩
    simp only [List.length_append, List.length_tail, List.length_singleton]
    omega
  · refine ⟨rfl, rfl, ?_⟩
    simp only [List.length_append, List.length_singleton]
    omega

/-- A push returns true exactly when the ring drops nothing for it and keeps it. -/
theorem push_true_iff (r : DropOldestRing α) (value : α) :
    (r.push value).2 = true ↔ (r.push value).1.dropped = r.dropped ∧ (r.push value).1.queue = r.queue ++ [value] := by
  unfold push
  split
  · simp
  · split <;> simp

theorem take_snd (r : DropOldestRing α) : r.take.2 = r.queue.head? := by
  unfold take
  split <;> simp [*]

theorem take_counts (r : DropOldestRing α) :
    r.take.1.pushed = r.pushed ∧ r.take.1.dropped = r.dropped ∧ r.take.1.popped = r.popped + r.take.2.toList.length := by
  unfold take
  split <;> simp

/-- The wait of a pop: when the time is up before a value comes or the ring is closed there is nothing
to take. -/
theorem pop_eq (r : DropOldestRing α) : r.pop = if r.queue ≠ [] ∨ r.closed then r.take else (r, none) := by
  by_cases h : r.queue = []
  · rw [pop, take_empty h, ite_self]
  · rw [pop, if_pos (.inl h)]

/-! ## Runs -/

/-- The law of a run from any ring, by what it held and counted before. -/
structure RunLaw (r : DropOldestRing α) (ops : List (BufferOp α)) (returns : List (BufferReturn α))
    (last : DropOldestRing α) : Prop where
  capacity : last.capacity = r.capacity
  suffix : last.queue <:+ r.queue ++ accepted r.closed ops
  order : (popValues returns ++ last.queue).Sublist (r.queue ++ accepted r.closed ops)
  pushes : last.pushed = r.pushed + (accepted r.closed ops).length
  pops : last.popped = r.popped + (popValues returns).length
  conserved : last.dropped + (popValues returns).length + last.queue.length =
    r.dropped + r.queue.length + (accepted r.closed ops).length + refused r.closed ops

theorem step_closed (r : DropOldestRing α) (op : BufferOp α) : (r.step op).closed = (r.closed || op.closes) := by
  cases op <;> simp [step, exec, pop, tryPop, close, closes]

theorem RunLaw.take (r : DropOldestRing α) {op : BufferOp α} (accepts : accepted r.closed [op] = [])
    (refuses : refused r.closed [op] = 0) : RunLaw r [op] [.pop r.take.2] r.take.1 := by
  obtain ⟨pushed, dropped, counted⟩ := r.take_counts
  have taken := r.take_queue
  have length := congrArg List.length taken
  rw [List.length_append] at length
  constructor
  · exact r.take_capacity
  · rw [accepts, List.append_nil]
    exact ⟨_, taken⟩
  · rw [accepts, List.append_nil, popValues_cons, popValues_nil, List.append_nil, popValue, taken]
  · rw [accepts, pushed]
    rfl
  · rw [popValues_cons, popValues_nil, List.append_nil, popValue, counted]
  · rw [accepts, refuses, popValues_cons, popValues_nil, List.append_nil, popValue, dropped, List.length_nil]
    omega

/-- One operation. -/
theorem step_law (r : DropOldestRing α) (op : BufferOp α) : RunLaw r [op] [r.returned op] (r.step op) := by
  cases op with
  | push value =>
    cases closed : r.closed with
    | true =>
      have same : r.step (.push value) = { r with dropped := r.dropped + 1 } := by
        rw [step, exec, push_closed_eq closed]
      rw [same]
      constructor <;> simp [returned, exec, BufferReturn.popValue, accepted, refused, closed]
      omega
    | false =>
      obtain ⟨pushed, popped, kept⟩ := push_counts closed value
      have accepts : accepted r.closed [.push value] = [value] := by simp [accepted, closed]
      have refuses : refused r.closed [.push value] = 0 := by simp [refused, closed]
      constructor
      · exact push_capacity value r
      · rw [accepts, step, exec, push_queue closed]
        split
        · exact List.suffix_append_self_iff.2 (List.tail_suffix _)
        · exact List.suffix_refl _
      · rw [accepts, step, exec, push_queue closed]
        split
        · exact (List.tail_sublist _).append_right _
        · exact List.Sublist.refl _
      · rw [accepts]
        exact pushed
      · exact popped
      · rw [accepts, refuses]
        exact kept
  | pop => exact .take r rfl rfl
  | tryPop => exact .take r rfl rfl
  | close => constructor <;> simp [step, returned, exec, BufferReturn.popValue, accepted, refused, close]
  | stats => constructor <;> simp [step, returned, exec, BufferReturn.popValue, accepted, refused]

theorem RunLaw.cons {r s t : DropOldestRing α} {op : BufferOp α} {ret : BufferReturn α} {ops : List (BufferOp α)}
    {returns : List (BufferReturn α)} (first : RunLaw r [op] [ret] s) (closed : s.closed = (r.closed || op.closes))
    (rest : RunLaw s ops returns t) : RunLaw r (op :: ops) (ret :: returns) t := by
  obtain ⟨capacity, suffix, order, pushes, pops, conserved⟩ := first
  obtain ⟨capacity', suffix', order', pushes', pops', conserved'⟩ := rest
  rw [popValues_cons, popValues_nil, List.append_nil] at order pops conserved
  rw [closed] at suffix' order' pushes' conserved'
  constructor
  · exact capacity'.trans capacity
  · rw [accepted_cons, ← List.append_assoc]
    exact suffix'.trans (List.suffix_append_self_iff.2 suffix)
  · rw [accepted_cons, ← List.append_assoc, popValues_cons, List.append_assoc]
    exact (order'.append_left _).trans (by rw [← List.append_assoc]; exact order.append_right _)
  · rw [accepted_cons, List.length_append]
    omega
  · rw [popValues_cons, List.length_append]
    omega
  · rw [accepted_cons, refused_cons, popValues_cons, List.length_append, List.length_append]
    omega

theorem run_law (r : DropOldestRing α) (ops : List (BufferOp α)) :
    RunLaw r ops (Runs.outputs step returned r ops) (ops.foldl step r) := by
  induction ops generalizing r with
  | nil => constructor <;> simp [accepted, refused, Runs.outputs]
  | cons op ops ih => exact (r.step_law op).cons (r.step_closed op) (ih (r.step op))

/-- A closed ring only gives up what it holds, in order. -/
theorem drain {r : DropOldestRing α} (closed : r.closed = true) (ops : List (BufferOp α)) :
    popValues (Runs.outputs step returned r ops) ++ (ops.foldl step r).queue = r.queue := by
  induction ops generalizing r with
  | nil => rfl
  | cons op ops ih =>
    have rest := ih (r := r.step op) (by rw [step_closed, closed, Bool.true_or])
    have first : (r.returned op).popValue.toList ++ (r.step op).queue = r.queue := by
      cases op with
      | push value =>
        rw [step, returned, exec, push_closed_eq closed]
        rfl
      | pop | tryPop => exact r.take_queue
      | close | stats => rfl
    rw [Runs.outputs, popValues_cons, List.append_assoc, List.foldl_cons, rest, first]

/-- A ring as it is constructed. -/
def fresh (capacity : Nat) (pos : 0 < capacity) : DropOldestRing α := { capacity, capacity_pos := pos }

@[simp] theorem fresh_queue {capacity : Nat} (pos : 0 < capacity) : (fresh capacity pos : DropOldestRing α).queue = [] := rfl

@[simp] theorem fresh_closed {capacity : Nat} (pos : 0 < capacity) : (fresh capacity pos : DropOldestRing α).closed = false :=
  rfl

theorem create_eq {capacity : Nat} (pos : 0 < capacity) :
    (create capacity : Option (DropOldestRing α)) = some (fresh capacity pos) :=
  dif_pos pos

/-- What holds of a ring that was constructed with this capacity and has run through the operations. -/
structure TraceLaw (capacity : Nat) (ops : List (BufferOp α)) (returns : List (BufferReturn α)) (r : DropOldestRing α) :
    Prop where
  size : r.stats.capacity = capacity
  bounded : r.stats.depth ≤ capacity
  depth : r.stats.depth = r.queue.length
  /-- The last values accepted, the oldest first. -/
  contents : r.queue <:+ accepted false ops
  /-- The values popped stand in the order of their pushes, and before the ones still queued. -/
  order : (popValues returns ++ r.queue).Sublist (accepted false ops)
  pushed : r.stats.pushed = (accepted false ops).length
  popped : r.stats.popped = (popValues returns).length
  conserved : r.stats.pushed + refused false ops = r.stats.popped + r.stats.dropped + r.stats.depth
  clean : ∀ value, (r.returned (.push value) = .push true ↔
    (r.step (.push value)).stats.dropped = r.stats.dropped ∧ (r.step (.push value)).queue = r.queue ++ [value])
  /-- A pop takes the oldest value, also behind a close. -/
  head : r.returned .pop = .pop r.queue.head? ∧ r.returned .tryPop = .pop r.queue.head?
  drains : ∀ later, popValues (Runs.outputs step returned (r.step .close) later) ++ (later.foldl step (r.step .close)).queue =
    r.queue

/-- **The law of a ring.** -/
theorem operations_law {capacity : Nat} (pos : 0 < capacity) (ops : List (BufferOp α)) :
    TraceLaw capacity ops (Runs.outputs step returned (fresh capacity pos) ops) (ops.foldl step (fresh capacity pos)) := by
  obtain ⟨size, contents, order, pushes, pops, conserved⟩ := run_law (fresh capacity pos) ops
  have within := (ops.foldl step (fresh capacity pos)).within
  have nothing : (fresh capacity pos : DropOldestRing α).pushed = 0 ∧ (fresh capacity pos : DropOldestRing α).popped = 0 ∧
      (fresh capacity pos : DropOldestRing α).dropped = 0 := ⟨rfl, rfl, rfl⟩
  obtain ⟨pushed, popped, dropped⟩ := nothing
  rw [fresh_queue, fresh_closed, List.nil_append] at contents order
  rw [fresh_closed, pushed, Nat.zero_add] at pushes
  rw [popped, Nat.zero_add] at pops
  rw [fresh_queue, fresh_closed, dropped, List.length_nil, Nat.zero_add] at conserved
  constructor
  · exact size
  · exact within.trans_eq size
  · rfl
  · exact contents
  · exact order
  · exact pushes
  · exact pops
  · simp only [stats]
    omega
  · intro value
    rw [returned, exec, BufferReturn.push.injEq]
    exact push_true_iff _ value
  · rw [returned, returned, exec, exec, pop, tryPop, take_snd]
    exact ⟨rfl, rfl⟩
  · intro later
    exact drain rfl later

/-- A ring of two places that overflows, is closed and drained. -/
theorem overflow_and_drain :
    TraceLaw 2 [BufferOp.push 1, .push 2, .push 3, .close, .push 4, .pop, .tryPop, .pop]
      (Runs.outputs step returned (fresh 2 Nat.two_pos)
        [BufferOp.push 1, .push 2, .push 3, .close, .push 4, .pop, .tryPop, .pop])
      ([BufferOp.push 1, .push 2, .push 3, .close, .push 4, .pop, .tryPop, .pop].foldl step (fresh 2 Nat.two_pos)) :=
  operations_law Nat.two_pos _

end DropOldestRing

end SstCam
