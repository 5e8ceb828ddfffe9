import Mathlib.Data.List.Basic
import Mathlib.Tactic.Common

/-! # Bounded dispatch queues

A full queue gives up its oldest value. One worker takes values out under the
lock and hands each to the handler outside it, so a value the worker holds is
neither queued nor handled while further values are pushed.
-/
namespace PrismRosAdapter.Dispatch

/-- The counters are naturals here; the source's are of 64 bits. -/
structure DispatchQueue (T : Type) where
  capacity : ℕ
  hasHandler : Bool := true
  running : Bool := false
  dropped : ℕ := 0
  callbackErrors : ℕ := 0
  depth : ℕ := 0
  peak : ℕ := 0
  queue : List T := []
  held : Option T := none
  deriving DecidableEq, Repr

namespace DispatchQueue
variable {T : Type}

def start (q : DispatchQueue T) : DispatchQueue T :=
  if q.hasHandler then { q with running := true } else q

def dropOldest (q : DispatchQueue T) : DispatchQueue T :=
  if q.capacity ≤ q.queue.length then
    { q with queue := q.queue.tail, dropped := q.dropped + 1 }
  else q

def enqueue (q : DispatchQueue T) (value : T) : DispatchQueue T :=
  { q with
    queue := q.queue ++ [value]
    depth := q.queue.length + 1
    peak := max q.peak (q.queue.length + 1) }

def push (q : DispatchQueue T) (value : T) : DispatchQueue T :=
  if q.hasHandler ∧ q.running then q.dropOldest.enqueue value else q

/-- The push finds the queue full. -/
def Overflows (q : DispatchQueue T) : Prop :=
  q.hasHandler = true ∧ q.running = true ∧ q.capacity ≤ q.queue.length

instance (q : DispatchQueue T) : Decidable q.Overflows := inferInstanceAs (Decidable (_ ∧ _))

/-- The locked half of one turn of the worker. -/
def pop (q : DispatchQueue T) : DispatchQueue T :=
  match q.held, q.running, q.queue with
  | none, true, value :: rest =>
    { q with queue := rest, depth := rest.length, held := some value }
  | _, _, _ => q

/-- The other half: the handler has returned, or its exception was caught. -/
def handled (q : DispatchQueue T) (threw : Bool) : DispatchQueue T :=
  { q with held := none, callbackErrors := q.callbackErrors + threw.toNat }

/-- A queue that is stopped, and whose worker has let go of its last value. -/
def Idle (q : DispatchQueue T) : Prop := q.running = false ∧ q.held = none

/-- A queue that is taking pushes. -/
structure Started (q : DispatchQueue T) : Prop where
  handler : q.hasHandler = true
  running : q.running = true
  positive : 0 < q.capacity

theorem overflows_iff {q : DispatchQueue T} (h : q.Started) :
    q.Overflows ↔ q.capacity ≤ q.queue.length :=
  ⟨fun ho => ho.2.2,fun hl => ⟨h.handler,h.running,hl⟩⟩

theorem push_overflow {q : DispatchQueue T} (h : q.Overflows) (value : T) :
    q.push value = { q with
      queue := q.queue.tail ++ [value], dropped := q.dropped + 1
      depth := q.queue.tail.length + 1, peak := max q.peak (q.queue.tail.length + 1) } := by
  obtain ⟨hh,hr,hl⟩ := h
  simp [push,dropOldest,enqueue,hh,hr,hl]

theorem push_room {q : DispatchQueue T} (h : q.Started) (hr : ¬ q.Overflows) (value : T) :
    q.push value = q.enqueue value := by
  rw [overflows_iff h] at hr
  simp [push,dropOldest,h.handler,h.running,hr]

theorem push_started {q : DispatchQueue T} (h : q.Started) (value : T) : (q.push value).Started := by
  by_cases ho : q.Overflows
  · rw [push_overflow ho]
    exact ⟨h.handler,h.running,h.positive⟩
  · rw [push_room h ho]
    exact ⟨h.handler,h.running,h.positive⟩

theorem handled_started {q : DispatchQueue T} (h : q.Started) (threw : Bool) :
    (q.handled threw).Started := ⟨h.handler,h.running,h.positive⟩

/-- A turn of the worker takes the oldest value, when it holds none. -/
theorem pop_cases {q : DispatchQueue T} (h : q.Started) :
    (∃ value rest, q.held = none ∧ q.queue = value :: rest ∧
      q.pop = { q with queue := rest, depth := rest.length, held := some value }) ∨
    (q.held.isSome ∨ q.queue = []) ∧ q.pop = q := by
  unfold pop
  rw [h.running]
  cases hh : q.held with
  | some v => exact Or.inr ⟨.inl rfl,rfl⟩
  | none =>
    cases hq : q.queue with
    | nil => exact Or.inr ⟨.inr rfl,rfl⟩
    | cons value rest => exact Or.inl ⟨value,rest,rfl,rfl,rfl⟩

end DispatchQueue
end PrismRosAdapter.Dispatch
