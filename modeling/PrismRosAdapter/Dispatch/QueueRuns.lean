import PrismRosAdapter.Dispatch.DispatchQueue
import PrismRosAdapter.Program.Runs

/-! # Runs of a dispatch queue

Producers push, the worker takes values out and hands them to the handler, and one
call of `stop` empties the queue and waits for the worker. Values leave the queue at
its front only, so what has left it and what it still holds make up the pushes.
-/
namespace PrismRosAdapter.Dispatch
open DispatchQueue Runs

variable {T : Type}

/-- The first statement of `stop`, when it finds the queue running. -/
def DispatchQueue.stopRunning (q : DispatchQueue T) : DispatchQueue T := { q with running := false }

/-- The locked part of `stop`. -/
def DispatchQueue.clear (q : DispatchQueue T) : DispatchQueue T := { q with queue := [], depth := 0 }

/-- How far a call of `stop` has got. -/
inductive StopPhase where
  | notCalled | exchanged | cleared | returned
  deriving DecidableEq, Repr

/-- What became of a value that has left the queue. -/
inductive Fate where
  | popped | dropped | discarded
  deriving DecidableEq, Repr

/-- A queue with its worker and the call of `stop`, and with what has been pushed,
what has left the queue in which way, and how the handler has ended. -/
structure Dispatching (T : Type) where
  queue : DispatchQueue T
  phase : StopPhase := .notCalled
  workerEnded : Bool := false
  pushed : List T := []
  left : List (T × Fate) := []
  handled : List (T × Bool) := []
  deriving DecidableEq, Repr

inductive QueueStep (T : Type) where
  | push (value : T)
  | pop
  | handled (threw : Bool)
  /-- The worker finds that the queue is no longer running, and leaves its loop. -/
  | leave
  | stop
  | clear
  | join
  deriving DecidableEq, Repr

namespace Dispatching

def leave (fate : Fate) (values : List T) (left : List (T × Fate)) : List (T × Fate) :=
  left ++ values.map fun value => (value,fate)

def push (d : Dispatching T) (value : T) : Dispatching T :=
  if d.queue.hasHandler ∧ d.queue.running then
    { d with
      queue := d.queue.push value
      pushed := d.pushed ++ [value]
      left := if d.queue.Overflows then leave .dropped d.queue.queue.head?.toList d.left
        else d.left }
  else d

def pop (d : Dispatching T) : Dispatching T :=
  match d.queue.held, d.queue.running, d.queue.queue with
  | none, true, value :: _ =>
    { d with queue := d.queue.pop, left := leave .popped [value] d.left }
  | _, _, _ => d

def handle (d : Dispatching T) (threw : Bool) : Dispatching T :=
  match d.queue.held with
  | some value =>
    { d with queue := d.queue.handled threw, handled := d.handled ++ [(value,threw)] }
  | none => d

def leaveLoop (d : Dispatching T) : Dispatching T :=
  if d.queue.running = false ∧ d.queue.held = none then { d with workerEnded := true } else d

/-- A second call finds the queue stopped and returns at once. -/
def stop (d : Dispatching T) : Dispatching T :=
  if d.queue.running then { d with queue := d.queue.stopRunning, phase := .exchanged } else d

def clear (d : Dispatching T) : Dispatching T :=
  if d.phase = .exchanged then
    { d with
      queue := d.queue.clear
      phase := .cleared
      left := leave .discarded d.queue.queue d.left }
  else d

def join (d : Dispatching T) : Dispatching T :=
  if d.phase = .cleared ∧ d.workerEnded then { d with phase := .returned } else d

def step (d : Dispatching T) : QueueStep T → Dispatching T
  | .push value => d.push value
  | .pop => d.pop
  | .handled threw => d.handle threw
  | .leave => d.leaveLoop
  | .stop => d.stop
  | .clear => d.clear
  | .join => d.join

/-- The values that met one fate, in the order in which they were pushed. -/
def having (d : Dispatching T) (fate : Fate) : List T :=
  (d.left.filter fun v => v.2 = fate).map Prod.fst

end Dispatching

def dispatching (T : Type) (capacity : ℕ) : Dispatching T where
  queue := DispatchQueue.start { capacity := capacity }

/-! ## What every step keeps -/

/-- The account of a queue of the given capacity. -/
structure Kept (capacity : ℕ) (d : Dispatching T) : Prop where
  capacity_eq : d.queue.capacity = capacity
  positive : 0 < capacity
  handler : d.queue.hasHandler = true
  pushed : d.pushed = d.left.map Prod.fst ++ d.queue.queue
  depth : d.queue.depth = d.queue.queue.length
  bounded : d.queue.queue.length ≤ capacity
  dropped : d.queue.dropped = (d.having .dropped).length
  popped : d.having .popped = d.handled.map Prod.fst ++ d.queue.held.toList
  errors : d.queue.callbackErrors = (d.handled.filter Prod.snd).length
  stopped : d.queue.running = false ↔ d.phase ≠ .notCalled
  discarded : d.phase = .notCalled ∨ d.phase = .exchanged → d.having .discarded = []
  cleared : d.phase = .cleared ∨ d.phase = .returned → d.queue.queue = []
  ended : d.workerEnded = true → d.queue.running = false ∧ d.queue.held = none
  returned : d.phase = .returned → d.workerEnded = true

section
variable {capacity : ℕ} {d : Dispatching T}

theorem kept_dispatching (T : Type) (h : 0 < capacity) : Kept capacity (dispatching T capacity) := by
  refine ⟨rfl,h,rfl,rfl,rfl,Nat.zero_le _,rfl,rfl,rfl,?_,fun _ => rfl,fun _ => rfl,nofun,nofun⟩
  exact iff_of_false Bool.noConfusion fun hp => hp rfl

/-- Values that leave are added to their fate alone. -/
theorem having_leave (fate other : Fate) (values : List T) (left : List (T × Fate)) :
    ((Dispatching.leave fate values left).filter fun v => v.2 = other).map Prod.fst =
      (left.filter fun v => v.2 = other).map Prod.fst ++ if fate = other then values else [] := by
  unfold Dispatching.leave
  rw [List.filter_append,List.map_append]
  congr 1
  induction values with
  | nil => split <;> rfl
  | cons value rest ih =>
    by_cases hf : fate = other
    · rw [if_pos hf] at ih ⊢
      rw [List.map_cons,List.filter_cons_of_pos (by exact decide_eq_true hf),List.map_cons,ih]
    · rw [if_neg hf] at ih ⊢
      rw [List.map_cons,List.filter_cons_of_neg (by simpa using hf),ih]

theorem fst_leave (fate : Fate) (values : List T) (left : List (T × Fate)) :
    (Dispatching.leave fate values left).map Prod.fst = left.map Prod.fst ++ values := by
  simp [Dispatching.leave,Function.comp_def]

/-- A push onto a full queue gives up the oldest value. -/
theorem Kept.push_full (h : Kept capacity d) (hs : d.queue.Started) (ho : d.queue.Overflows)
    (value : T) : Kept capacity (d.push value) := by
  have hfull := (overflows_iff hs).mp ho
  have hpos := h.positive
  have hbounded := h.bounded
  have hcapacity := h.capacity_eq
  obtain ⟨oldest,rest,hq⟩ : ∃ oldest rest, d.queue.queue = oldest :: rest :=
    List.exists_cons_of_length_pos (by omega)
  have hpushed := h.pushed
  rw [hq,List.length_cons] at hbounded
  rw [hq] at hpushed
  unfold Dispatching.push
  rw [if_pos ⟨hs.handler,hs.running⟩,if_pos ho,push_overflow ho,hq]
  refine ⟨h.capacity_eq,h.positive,h.handler,?_,?_,?_,?_,?_,h.errors,h.stopped,?_,?_,h.ended,
    h.returned⟩
  · rw [fst_leave,hpushed]
    simp
  · simp
  · simpa using hbounded
  · show d.queue.dropped + 1 = _
    rw [Dispatching.having,having_leave,if_pos rfl,List.length_append,h.dropped]
    rfl
  · rw [Dispatching.having,having_leave,if_neg nofun,List.append_nil]
    exact h.popped
  · intro hp
    rw [Dispatching.having,having_leave,if_neg nofun,List.append_nil]
    exact h.discarded hp
  · intro hp
    rw [h.cleared hp] at hq
    cases hq

theorem Kept.push_room (h : Kept capacity d) (hs : d.queue.Started) (ho : ¬ d.queue.Overflows)
    (value : T) : Kept capacity (d.push value) := by
  have hcapacity := h.capacity_eq
  have hroom : d.queue.queue.length < d.queue.capacity := by
    rw [overflows_iff hs] at ho
    omega
  unfold Dispatching.push
  rw [if_pos ⟨hs.handler,hs.running⟩,if_neg ho,DispatchQueue.push_room hs ho]
  refine ⟨h.capacity_eq,h.positive,h.handler,?_,?_,?_,h.dropped,h.popped,h.errors,h.stopped,
    h.discarded,?_,h.ended,h.returned⟩
  · rw [h.pushed,List.append_assoc]
    rfl
  · simp [enqueue]
  · simp only [enqueue, List.length_append, List.length_cons, List.length_nil]
    omega
  · intro hp
    have hrunning := h.stopped.mpr (by rcases hp with hp | hp <;> rw [hp] <;> decide)
    exact absurd (hs.running.symm.trans hrunning) Bool.noConfusion

theorem Kept.push (h : Kept capacity d) (value : T) : Kept capacity (d.push value) := by
  by_cases hopen : d.queue.hasHandler = true ∧ d.queue.running = true
  · have hs : d.queue.Started := ⟨hopen.1,hopen.2,h.capacity_eq ▸ h.positive⟩
    by_cases ho : d.queue.Overflows
    · exact h.push_full hs ho value
    · exact h.push_room hs ho value
  · unfold Dispatching.push
    rw [if_neg hopen]
    exact h

/-- The worker takes the oldest value, or the step changes nothing. -/
theorem dispatching_pop_cases (d : Dispatching T) :
    (∃ value rest, d.queue.held = none ∧ d.queue.running = true ∧
      d.queue.queue = value :: rest ∧ d.pop = { d with
        queue := { d.queue with queue := rest, depth := rest.length, held := some value }
        left := Dispatching.leave .popped [value] d.left }) ∨ d.pop = d := by
  unfold Dispatching.pop
  split
  · rename_i value rest hheld hrunning hq
    refine Or.inl ⟨value,rest,hheld,hrunning,hq,?_⟩
    unfold DispatchQueue.pop
    rw [hheld,hrunning,hq]
    simp only [hrunning]
  · exact Or.inr rfl

theorem Kept.pop (h : Kept capacity d) : Kept capacity d.pop := by
  rcases dispatching_pop_cases d with ⟨value,rest,hheld,hrunning,hq,hd⟩ | hd
  · have hpushed := h.pushed
    have hbounded := h.bounded
    have hpopped := h.popped
    rw [hq] at hpushed hbounded
    rw [hheld] at hpopped
    rw [hd]
    refine ⟨h.capacity_eq,h.positive,h.handler,?_,rfl,?_,?_,?_,h.errors,h.stopped,?_,?_,?_,h.returned⟩
    · rw [fst_leave,hpushed]
      simp
    · exact (Nat.le_succ _).trans hbounded
    · rw [Dispatching.having,having_leave,if_neg nofun,List.append_nil]
      exact h.dropped
    · rw [Dispatching.having,having_leave,if_pos rfl]
      change d.having .popped ++ [value] = _
      rw [hpopped]
      simp
    · intro hp
      rw [Dispatching.having,having_leave,if_neg nofun,List.append_nil]
      exact h.discarded hp
    · intro hp
      rw [h.cleared hp] at hq
      cases hq
    · intro he
      exact absurd (hrunning.symm.trans (h.ended he).1) Bool.noConfusion
  · rw [hd]
    exact h

theorem Kept.handle (h : Kept capacity d) (threw : Bool) : Kept capacity (d.handle threw) := by
  unfold Dispatching.handle
  split
  · rename_i value hheld
    have hpopped := h.popped
    rw [hheld] at hpopped
    refine ⟨h.capacity_eq,h.positive,h.handler,h.pushed,h.depth,h.bounded,h.dropped,?_,?_,h.stopped,
      h.discarded,h.cleared,fun he => ⟨(h.ended he).1,rfl⟩,h.returned⟩
    · rw [List.map_append,List.append_assoc]
      exact hpopped
    · show d.queue.callbackErrors + threw.toNat = _
      rw [h.errors,List.filter_append,List.length_append]
      cases threw <;> rfl
  · exact h

theorem Kept.leaveLoop (h : Kept capacity d) : Kept capacity d.leaveLoop := by
  unfold Dispatching.leaveLoop
  split
  · rename_i hc
    exact ⟨h.capacity_eq,h.positive,h.handler,h.pushed,h.depth,h.bounded,h.dropped,h.popped,h.errors,
      h.stopped,h.discarded,h.cleared,fun _ => hc,fun _ => rfl⟩
  · exact h

theorem Kept.stop (h : Kept capacity d) : Kept capacity d.stop := by
  unfold Dispatching.stop
  split
  · rename_i hrunning
    have hphase : d.phase = .notCalled := by
      by_contra hp
      exact absurd (hrunning.symm.trans (h.stopped.mpr hp)) Bool.noConfusion
    refine ⟨h.capacity_eq,h.positive,h.handler,h.pushed,h.depth,h.bounded,h.dropped,h.popped,h.errors,
      iff_of_true rfl nofun,fun _ => h.discarded (Or.inl hphase),?_,?_,nofun⟩
    · rintro (hp | hp) <;> cases hp
    · intro he
      exact absurd (hrunning.symm.trans (h.ended he).1) Bool.noConfusion
  · exact h

theorem Kept.clear (h : Kept capacity d) : Kept capacity d.clear := by
  unfold Dispatching.clear
  split
  · rename_i hphase
    refine ⟨h.capacity_eq,h.positive,h.handler,?_,rfl,Nat.zero_le _,?_,?_,h.errors,?_,?_,fun _ => rfl,
      h.ended,nofun⟩
    · rw [fst_leave,h.pushed]
      simp [DispatchQueue.clear]
    · rw [Dispatching.having,having_leave,if_neg nofun,List.append_nil]
      exact h.dropped
    · rw [Dispatching.having,having_leave,if_neg nofun,List.append_nil]
      exact h.popped
    · exact iff_of_true (h.stopped.mpr (by rw [hphase]; nofun)) nofun
    · rintro (hp | hp) <;> cases hp
  · exact h

theorem Kept.join (h : Kept capacity d) : Kept capacity d.join := by
  unfold Dispatching.join
  split
  · rename_i hc
    refine ⟨h.capacity_eq,h.positive,h.handler,h.pushed,h.depth,h.bounded,h.dropped,h.popped,h.errors,
      ?_,?_,fun _ => h.cleared (Or.inl hc.1),h.ended,fun _ => hc.2⟩
    · exact iff_of_true (h.stopped.mpr (by rw [hc.1]; nofun)) nofun
    · rintro (hp | hp) <;> cases hp
  · exact h

theorem Kept.step (h : Kept capacity d) (i : QueueStep T) : Kept capacity (d.step i) := by
  cases i with
  | push value => exact h.push value
  | pop => exact h.pop
  | handled threw => exact h.handle threw
  | leave => exact h.leaveLoop
  | stop => exact h.stop
  | clear => exact h.clear
  | join => exact h.join

theorem run_kept (h : 0 < capacity) (steps : List (QueueStep T)) :
    Kept capacity (run Dispatching.step (dispatching T capacity) steps) :=
  (always_of_step Dispatching.step (H := fun _ _ => True) (fun _ i _ hd => hd.step i)
    (kept_dispatching T h) fun _ _ _ => trivial).last

/-! ## The deepest the queue has been -/

/-- The peak rises to the depth or stays, and the depth does not pass it. -/
structure PeakMoves (q r : DispatchQueue T) : Prop where
  mono : q.peak ≤ r.peak
  reached : r.peak = q.peak ∨ r.peak = r.depth
  depth_le : q.depth ≤ q.peak → r.depth ≤ r.peak

theorem peakMoves_same {q r : DispatchQueue T} (hp : r.peak = q.peak) (hd : r.depth ≤ q.depth) :
    PeakMoves q r :=
  ⟨hp.ge,Or.inl hp,fun hq => (hd.trans hq).trans hp.ge⟩

theorem peakMoves_push (q : DispatchQueue T) (value : T) : PeakMoves q (q.push value) := by
  unfold DispatchQueue.push
  split
  · obtain ⟨r,hr⟩ : ∃ r, r = q.dropOldest := ⟨_,rfl⟩
    have hpeak : r.peak = q.peak := by
      rw [hr]
      unfold dropOldest
      split <;> rfl
    rw [← hr]
    refine ⟨hpeak ▸ Nat.le_max_left _ _,?_,fun _ => Nat.le_max_right _ _⟩
    rcases Nat.le_total (r.queue.length + 1) r.peak with hle | hle
    · exact Or.inl ((Nat.max_eq_left hle).trans hpeak)
    · exact Or.inr (Nat.max_eq_right hle)
  · exact peakMoves_same rfl le_rfl

theorem peakMoves_step (h : Kept capacity d) (i : QueueStep T) :
    PeakMoves d.queue (d.step i).queue := by
  cases i with
  | push value =>
    change PeakMoves d.queue (d.push value).queue
    unfold Dispatching.push
    split
    · exact peakMoves_push d.queue value
    · exact peakMoves_same rfl le_rfl
  | pop =>
    change PeakMoves d.queue d.pop.queue
    rcases dispatching_pop_cases d with ⟨value,rest,_,_,hq,hd⟩ | hd
    · have hdepth := h.depth
      rw [hq,List.length_cons] at hdepth
      rw [hd]
      exact peakMoves_same rfl (hdepth ▸ Nat.le_succ _)
    · rw [hd]
      exact peakMoves_same rfl le_rfl
  | handled threw =>
    change PeakMoves d.queue (d.handle threw).queue
    unfold Dispatching.handle
    split <;> exact peakMoves_same rfl le_rfl
  | leave =>
    change PeakMoves d.queue d.leaveLoop.queue
    unfold Dispatching.leaveLoop
    split <;> exact peakMoves_same rfl le_rfl
  | stop =>
    change PeakMoves d.queue d.stop.queue
    unfold Dispatching.stop
    split <;> exact peakMoves_same rfl le_rfl
  | clear =>
    change PeakMoves d.queue d.clear.queue
    unfold Dispatching.clear
    split
    · exact peakMoves_same rfl (Nat.zero_le _)
    · exact peakMoves_same rfl le_rfl
  | join =>
    change PeakMoves d.queue d.join.queue
    unfold Dispatching.join
    split <;> exact peakMoves_same rfl le_rfl

/-- The peak is a depth the run has had, and the largest. -/
theorem peak_largest (h : 0 < capacity) (steps : List (QueueStep T)) :
    (∀ first, first <+: steps →
      (run Dispatching.step (dispatching T capacity) first).queue.depth ≤
        (run Dispatching.step (dispatching T capacity) steps).queue.peak) ∧
    ∃ first, first <+: steps ∧ (run Dispatching.step (dispatching T capacity) first).queue.depth =
      (run Dispatching.step (dispatching T capacity) steps).queue.peak := by
  induction steps using List.reverseRecOn with
  | nil =>
    refine ⟨fun first hf => ?_,[],List.nil_prefix,rfl⟩
    rw [List.prefix_nil.mp hf]
    exact le_rfl
  | append_singleton steps i ih =>
    obtain ⟨hle,first,hfirst,heq⟩ := ih
    obtain ⟨hmono,hpeak,hdepth⟩ := peakMoves_step (run_kept h steps) i
    rw [run_snoc]
    refine ⟨fun prior hp => ?_,?_⟩
    · rcases List.prefix_concat_iff.mp hp with rfl | hp
      · rw [run_snoc]
        exact hdepth (hle steps (List.prefix_refl _))
      · exact (hle prior hp).trans hmono
    · rcases hpeak with hsame | hnew
      · exact ⟨first,hfirst.trans (List.prefix_append _ _),heq.trans hsame.symm⟩
      · exact ⟨steps ++ [i],List.prefix_refl _,by rw [run_snoc,hnew]⟩

/-! ## Once the queue has been cleared -/

/-- A queue that has been cleared takes nothing in and gives nothing out. -/
theorem cleared_step (h : Kept capacity d) (hp : d.phase = .cleared ∨ d.phase = .returned)
    (i : QueueStep T) : (d.step i).left = d.left ∧ (d.step i).pushed = d.pushed ∧
      ((d.step i).phase = .cleared ∨ (d.step i).phase = .returned) := by
  have hrunning : d.queue.running = false :=
    h.stopped.mpr (by rcases hp with hp | hp <;> rw [hp] <;> decide)
  have hclosed : ¬ (d.queue.hasHandler = true ∧ d.queue.running = true) := by
    rw [hrunning]
    exact fun hc => Bool.noConfusion hc.2
  cases i with
  | push value =>
    change (d.push value).left = _ ∧ (d.push value).pushed = _ ∧ _
    rw [Dispatching.step,Dispatching.push,if_neg hclosed]
    exact ⟨rfl,rfl,hp⟩
  | pop =>
    rcases dispatching_pop_cases d with ⟨_,_,_,hr,_,_⟩ | hd
    · exact absurd (hr.symm.trans hrunning) Bool.noConfusion
    · rw [Dispatching.step,hd]
      exact ⟨rfl,rfl,hp⟩
  | handled threw =>
    rw [Dispatching.step,Dispatching.handle]
    split <;> exact ⟨rfl,rfl,hp⟩
  | leave =>
    rw [Dispatching.step,Dispatching.leaveLoop]
    split <;> exact ⟨rfl,rfl,hp⟩
  | stop =>
    rw [Dispatching.step,Dispatching.stop,hrunning]
    exact ⟨rfl,rfl,hp⟩
  | clear =>
    rw [Dispatching.step,Dispatching.clear,if_neg (by rcases hp with hp | hp <;> rw [hp] <;> nofun)]
    exact ⟨rfl,rfl,hp⟩
  | join =>
    rw [Dispatching.step,Dispatching.join]
    split
    · exact ⟨rfl,rfl,Or.inr rfl⟩
    · exact ⟨rfl,rfl,hp⟩

/-- Once `stop` has returned the worker is gone. -/
theorem returned_step (h : Kept capacity d) (hp : d.phase = .returned) (i : QueueStep T) :
    (d.step i).handled = d.handled ∧ (d.step i).phase = .returned := by
  have hheld := (h.ended (h.returned hp)).2
  have hrunning := (h.ended (h.returned hp)).1
  cases i with
  | push value =>
    rw [Dispatching.step,Dispatching.push]
    split <;> exact ⟨rfl,hp⟩
  | pop =>
    rw [Dispatching.step,Dispatching.pop,hheld,hrunning]
    exact ⟨rfl,hp⟩
  | handled threw =>
    rw [Dispatching.step,Dispatching.handle,hheld]
    exact ⟨rfl,hp⟩
  | leave =>
    rw [Dispatching.step,Dispatching.leaveLoop]
    split <;> exact ⟨rfl,hp⟩
  | stop =>
    rw [Dispatching.step,Dispatching.stop,hrunning]
    exact ⟨rfl,hp⟩
  | clear =>
    rw [Dispatching.step,Dispatching.clear,if_neg (by rw [hp]; nofun)]
    exact ⟨rfl,hp⟩
  | join =>
    rw [Dispatching.step,Dispatching.join]
    split
    · exact ⟨rfl,rfl⟩
    · exact ⟨rfl,hp⟩

theorem cleared_run (h : Kept capacity d) (hp : d.phase = .cleared ∨ d.phase = .returned)
    (steps : List (QueueStep T)) : (run Dispatching.step d steps).left = d.left := by
  induction steps generalizing d with
  | nil => rfl
  | cons i rest ih =>
    obtain ⟨hleft,_,hphase⟩ := cleared_step h hp i
    rw [run_cons,ih (h.step i) hphase,hleft]

theorem returned_run (h : Kept capacity d) (hp : d.phase = .returned)
    (steps : List (QueueStep T)) : (run Dispatching.step d steps).handled = d.handled ∧
      (run Dispatching.step d steps).phase = .returned := by
  induction steps generalizing d with
  | nil => exact ⟨rfl,hp⟩
  | cons i rest ih =>
    obtain ⟨hhandled,hphase⟩ := returned_step h hp i
    obtain ⟨hrest,hlast⟩ := ih (h.step i) hphase
    exact ⟨hrest.trans hhandled,hlast⟩

/-- A handler that has ended, however it ended, leaves the worker free for the next
value. -/
theorem handled_then_pop (hr : d.queue.running = true) {value : T} {rest : List T}
    (hq : d.queue.queue = value :: rest) (threw : Bool) :
    ((d.step (.handled threw)).step .pop).queue.held = some value := by
  obtain ⟨e,he,hheld,hrunning,hqueue⟩ : ∃ e, d.step (.handled threw) = e ∧ e.queue.held = none ∧
      e.queue.running = true ∧ e.queue.queue = value :: rest := by
    refine ⟨_,rfl,?_⟩
    rw [Dispatching.step,Dispatching.handle]
    split
    · exact ⟨rfl,hr,hq⟩
    · rename_i hnone
      exact ⟨hnone,hr,hq⟩
  rw [he,Dispatching.step,Dispatching.pop,hheld,hrunning,hqueue]
  simp only [DispatchQueue.pop, hheld, hrunning, hqueue]

theorem left_length (d : Dispatching T) : d.left.length =
    (d.having .popped).length + (d.having .dropped).length + (d.having .discarded).length := by
  simp only [Dispatching.having, List.length_map, ← List.countP_eq_length_filter]
  induction d.left with
  | nil => rfl
  | cons v rest ih =>
    obtain ⟨value,fate⟩ := v
    cases fate <;> simp [ih] <;> omega

/-! ## What goes in and what comes out -/

def QueueStep.pushed : QueueStep T → List T
  | .push value => [value]
  | _ => []

def QueueStep.stops : QueueStep T → Bool
  | .stop => true
  | _ => false

/-- The value whose handler ends in a step. -/
def QueueStep.ended (d : Dispatching T) : QueueStep T → List (T × Bool)
  | .handled threw => d.queue.held.toList.map fun value => (value,threw)
  | _ => []

/-- All that a step takes in and hands over; the queue runs until a call of `stop`. -/
structure Moves (d : Dispatching T) (i : QueueStep T) (e : Dispatching T) : Prop where
  pushed : e.pushed = d.pushed ++ if d.queue.running then i.pushed else []
  running : e.queue.running = (d.queue.running && !i.stops)
  handled : e.handled = d.handled ++ i.ended d

theorem moves_quiet {i : QueueStep T} (hpushed : i.pushed = []) (hstops : i.stops = false)
    (hended : i.ended d = []) {e : Dispatching T} (hp : e.pushed = d.pushed)
    (hr : e.queue.running = d.queue.running) (hh : e.handled = d.handled) : Moves d i e := by
  refine ⟨?_,?_,?_⟩
  · rw [hpushed,ite_self,List.append_nil,hp]
  · rw [hstops,hr,Bool.not_false,Bool.and_true]
  · rw [hended,List.append_nil,hh]

theorem moves_push (hhandler : d.queue.hasHandler = true) (value : T) :
    Moves d (.push value) (d.push value) := by
  unfold Dispatching.push
  cases hr : d.queue.running with
  | false =>
    rw [if_neg fun h => Bool.noConfusion h.2]
    refine ⟨?_,?_,(List.append_nil _).symm⟩
    · rw [hr]
      exact (List.append_nil _).symm
    · rw [hr]
      rfl
  | true =>
    rw [if_pos ⟨hhandler,rfl⟩]
    refine ⟨?_,?_,(List.append_nil _).symm⟩
    · rw [hr]
      rfl
    · unfold DispatchQueue.push DispatchQueue.dropOldest DispatchQueue.enqueue
      split_ifs <;> simp [hr, QueueStep.stops]

theorem step_moves (hhandler : d.queue.hasHandler = true) (i : QueueStep T) :
    Moves d i (d.step i) := by
  cases i with
  | push value => exact moves_push hhandler value
  | pop =>
    change Moves d .pop d.pop
    rcases dispatching_pop_cases d with ⟨_,_,_,_,_,hd⟩ | hd <;> rw [hd] <;>
      exact moves_quiet rfl rfl rfl rfl rfl rfl
  | handled threw =>
    change Moves d (.handled threw) (d.handle threw)
    unfold Dispatching.handle
    cases hheld : d.queue.held with
    | none => exact moves_quiet rfl rfl (by rw [QueueStep.ended,hheld]; rfl) rfl rfl rfl
    | some value =>
      refine ⟨?_,(Bool.and_true _).symm,by rw [QueueStep.ended,hheld]; rfl⟩
      rw [show (QueueStep.handled threw).pushed = ([] : List T) from rfl,ite_self,List.append_nil]
  | leave =>
    change Moves d .leave d.leaveLoop
    unfold Dispatching.leaveLoop
    split <;> exact moves_quiet rfl rfl rfl rfl rfl rfl
  | stop =>
    change Moves d .stop d.stop
    unfold Dispatching.stop
    cases hr : d.queue.running with
    | false => exact ⟨by rw [hr]; exact (List.append_nil _).symm,by rw [hr]; exact hr,
        (List.append_nil _).symm⟩
    | true => exact ⟨by rw [hr]; exact (List.append_nil _).symm,by rw [hr]; rfl,
        (List.append_nil _).symm⟩
  | clear =>
    change Moves d .clear d.clear
    unfold Dispatching.clear
    split <;> exact moves_quiet rfl rfl rfl rfl rfl rfl
  | join =>
    change Moves d .join d.join
    unfold Dispatching.join
    split <;> exact moves_quiet rfl rfl rfl rfl rfl rfl

theorem run_pushed (h : Kept capacity d) (steps : List (QueueStep T)) :
    (run Dispatching.step d steps).pushed = d.pushed ++ if d.queue.running then
      (steps.takeWhile fun i => !i.stops).flatMap QueueStep.pushed else [] := by
  induction steps generalizing d with
  | nil => split <;> exact (List.append_nil _).symm
  | cons i rest ih =>
    obtain ⟨hpushed,hrunning,_⟩ := step_moves h.handler i
    rw [run_cons,ih (h.step i),hpushed,hrunning,List.append_assoc]
    cases d.queue.running with
    | false => rfl
    | true => cases i <;> rfl

/-! ## The law of the queue -/

/-- What holds of a queue after any steps of its producers, its worker and `stop`. -/
structure Conserved (capacity : ℕ) (steps : List (QueueStep T)) (d : Dispatching T) : Prop where
  accepted : d.pushed = (steps.takeWhile fun i => !i.stops).flatMap QueueStep.pushed
  count : d.pushed.length = (d.having .popped).length + d.queue.dropped +
    (d.having .discarded).length + d.queue.depth
  undisturbed : d.phase = .notCalled → d.having .discarded = []
  bounded : d.queue.depth ≤ capacity
  peak_bounds : ∀ first, first <+: steps →
    (run Dispatching.step (dispatching T capacity) first).queue.depth ≤ d.queue.peak
  peak_reached : ∃ first, first <+: steps ∧
    (run Dispatching.step (dispatching T capacity) first).queue.depth = d.queue.peak
  order : (d.having .popped).Sublist d.pushed
  handler : d.having .popped = d.handled.map Prod.fst ++ d.queue.held.toList
  /-- All that has left the queue, dropped values included, is older than what it holds. -/
  oldest_first : d.pushed = d.left.map Prod.fst ++ d.queue.queue
  dropped : d.queue.dropped = (d.having .dropped).length
  depth : d.queue.depth = d.queue.queue.length
  errors : d.queue.callbackErrors = (d.handled.filter Prod.snd).length
  alive : d.queue.running = true → d.workerEnded = false
  goes_on : d.queue.running = true → ∀ threw value rest, d.queue.queue = value :: rest →
    ((d.step (.handled threw)).step .pop).queue.held = some value
  stop_discards : ∀ before after, steps = before ++ .clear :: after →
    (run Dispatching.step (dispatching T capacity) before).phase = .exchanged →
    d.having .discarded = (run Dispatching.step (dispatching T capacity) before).queue.queue
  stop_ends : ∀ before after, steps = before ++ after →
    (run Dispatching.step (dispatching T capacity) before).phase = .returned →
    d.handled = (run Dispatching.step (dispatching T capacity) before).handled ∧
      d.queue.held = none

/-- A stop discards what is queued then, and nothing is discarded before or after it. -/
theorem clear_discards {before after : List (QueueStep T)} (h : 0 < capacity)
    (hp : (run Dispatching.step (dispatching T capacity) before).phase = .exchanged) :
    (run Dispatching.step (dispatching T capacity) (before ++ .clear :: after)).having .discarded =
      (run Dispatching.step (dispatching T capacity) before).queue.queue := by
  have hbefore := run_kept h before
  rw [run_append,run_cons]
  have hclear : (run Dispatching.step (dispatching T capacity) before).step .clear =
      { run Dispatching.step (dispatching T capacity) before with
        queue := (run Dispatching.step (dispatching T capacity) before).queue.clear
        phase := .cleared
        left := Dispatching.leave .discarded
          (run Dispatching.step (dispatching T capacity) before).queue.queue
          (run Dispatching.step (dispatching T capacity) before).left } := by
    rw [Dispatching.step,Dispatching.clear,if_pos hp]
  have hphase : ((run Dispatching.step (dispatching T capacity) before).step .clear).phase =
      .cleared := by rw [hclear]
  rw [Dispatching.having,cleared_run (hbefore.step .clear) (Or.inl hphase) after,hclear,
    having_leave,if_pos rfl]
  have hnone := hbefore.discarded (Or.inr hp)
  rw [Dispatching.having] at hnone
  rw [hnone,List.nil_append]

/-- Whatever the producers, the worker, its handler and one call of `stop` interleave,
no value is lost unaccounted, none is repeated and none is overtaken. -/
theorem dispatch_conserves {T : Type} {capacity : ℕ} (h : 0 < capacity)
    (steps : List (QueueStep T)) :
    Conserved capacity steps (run Dispatching.step (dispatching T capacity) steps) := by
  have hkept := run_kept h steps
  obtain ⟨hbounds,hreached⟩ := peak_largest h steps
  refine ⟨run_pushed (kept_dispatching T h) steps,?_,fun hp => hkept.discarded (Or.inl hp),
    hkept.depth ▸ hkept.bounded,hbounds,hreached,?_,
    hkept.popped,hkept.pushed,hkept.dropped,hkept.depth,hkept.errors,?_,?_,?_,?_⟩
  · have hlength := congrArg List.length hkept.pushed
    rw [List.length_append,List.length_map,← hkept.depth,left_length,← hkept.dropped] at hlength
    exact hlength
  · rw [hkept.pushed]
    exact (List.filter_sublist.map _).trans (List.sublist_append_left _ _)
  · intro hr
    exact Bool.eq_false_iff.mpr fun he =>
      absurd (hr.symm.trans (hkept.ended he).1) Bool.noConfusion
  · exact fun hr threw value rest hq => handled_then_pop hr hq threw
  · rintro before after rfl hp
    exact clear_discards h hp
  · rintro before after rfl hp
    rw [run_append] at hkept ⊢
    obtain ⟨hhandled,hlast⟩ := returned_run (run_kept h before) hp after
    exact ⟨hhandled,(hkept.ended (hkept.returned hlast)).2⟩

theorem dispatch_conserves_stopped :
    Conserved 1 [.push 1, .push 2, .pop, .push 3, .stop, .clear, .handled true, .leave, .join]
      (run Dispatching.step (dispatching ℕ 1)
        [.push 1, .push 2, .pop, .push 3, .stop, .clear, .handled true, .leave, .join]) :=
  dispatch_conserves (by decide) _

end
end PrismRosAdapter.Dispatch
