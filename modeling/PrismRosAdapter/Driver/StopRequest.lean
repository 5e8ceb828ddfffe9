import PrismRosAdapter.Driver.Run

/-! # Stop requests and the main loop

Any thread may request a stop at any time. `run` clears the flag before it starts
up and its loop looks at the flag before each iteration, so that a request is lost
exactly when it comes before the flag is cleared and is not made again.
-/
namespace PrismRosAdapter.Driver
open Runs Program

/-- How far a call of `run` has come. -/
inductive RunPhase where
  | called
  | startingUp
  | atGuard
  | iterating
  | ended (threw : Bool)
  deriving DecidableEq, Repr

inductive StopEvent where
  | stopRequested
  | iterationStarted
  deriving DecidableEq, Repr

structure StopRun where
  driver : DriverState
  stopRequested : Bool := false
  phase : RunPhase := .called
  events : List StopEvent := []
  /-- A request was made before the flag was cleared, and none since. -/
  forgotten : Bool := false

inductive StopStep where
  /-- The only step of other threads. -/
  | requestStop
  /-- `run` stores `false`, its first statement. -/
  | clearStop
  | startUp
  /-- The guard of the loop: the flag is read, then `keep_running` is called. -/
  | check (keepRunning : Bool)
  | turn (action : Action)
  | finishIteration (threw : Bool)
  deriving DecidableEq, Repr

namespace StopRun
variable (w : World)

def requestStop (s : StopRun) : StopRun :=
  { s with
    stopRequested := true
    events := s.events ++ [.stopRequested]
    forgotten := false }

def clearStop (s : StopRun) : StopRun :=
  { s with stopRequested := false, phase := .startingUp, forgotten := s.stopRequested }

def startUp (s : StopRun) : StopRun :=
  { s with
    driver := (startRun w s.driver).2
    phase := if (startRun w s.driver).1.isOk then .atGuard else .ended true }

/-- An iteration starts with the look at the flag that lets it in. -/
def check (s : StopRun) (keepRunning : Bool) : StopRun :=
  if s.stopRequested ∨ ¬ keepRunning then { s with phase := .ended false }
  else { s with phase := .iterating, events := s.events ++ [.iterationStarted] }

/-- The receive loop inside an iteration looks at the flag as well. -/
def turn (s : StopRun) (action : Action) : StopRun :=
  if action = .receive ∧ s.stopRequested then s else { s with driver := act w s.driver action }

def finishIteration (s : StopRun) (threw : Bool) : StopRun :=
  { s with phase := if threw then .ended true else .atGuard }

def step (s : StopRun) : StopStep → StopRun
  | .requestStop => s.requestStop
  | .clearStop => if s.phase = .called then s.clearStop else s
  | .startUp => if s.phase = .startingUp then s.startUp w else s
  | .check keepRunning => if s.phase = .atGuard then s.check keepRunning else s
  | .turn action => if s.phase = .iterating then s.turn w action else s
  | .finishIteration threw => if s.phase = .iterating then s.finishIteration threw else s

/-- No iteration has started after a request returned. -/
def Honoured (s : StopRun) : Prop :=
  s.events.Pairwise fun a b => ¬ (a = .stopRequested ∧ b = .iterationStarted)

instance (s : StopRun) : Decidable s.Honoured := inferInstanceAs (Decidable (List.Pairwise _ _))

/-- An iteration is let in while the last request is one made before the flag was cleared. -/
def LosesRequest (s : StopRun) (i : StopStep) : Prop :=
  i = .check true ∧ s.phase = .atGuard ∧ s.forgotten

instance (s : StopRun) (i : StopStep) : Decidable (s.LosesRequest i) :=
  inferInstanceAs (Decidable (_ ∧ _ ∧ _))

/-- What the flag knows of the requests so far. -/
structure Tracked (s : StopRun) : Prop where
  requested : .stopRequested ∈ s.events ↔ s.stopRequested ∨ s.forgotten
  called : s.phase = .called → s.forgotten = false
  forgotten : s.forgotten → s.stopRequested = false

variable {s : StopRun}

theorem tracked_constructed (config : DriverConfig) : Tracked { driver := fresh config } where
  requested := by simp
  called _ := rfl
  forgotten := nofun

/-- What touches neither the flag nor the requests keeps what is known of them. -/
theorem Tracked.keep {t : StopRun} (h : Tracked s) (hr : t.stopRequested = s.stopRequested)
    (he : .stopRequested ∈ t.events ↔ .stopRequested ∈ s.events) (hf : t.forgotten = s.forgotten)
    (hp : t.phase = .called → s.phase = .called) : Tracked t := by
  refine ⟨?_,?_,?_⟩
  · rw [he,hr,hf]
    exact h.requested
  · intro hcalled
    rw [hf]
    exact h.called (hp hcalled)
  · rw [hf,hr]
    exact h.forgotten

theorem Tracked.requestStop : Tracked s.requestStop := by
  refine ⟨?_,fun _ => rfl,nofun⟩
  simp [StopRun.requestStop]

theorem Tracked.clearStop (h : Tracked s) (hcalled : s.phase = .called) :
    Tracked s.clearStop := by
  refine ⟨?_,nofun,fun _ => rfl⟩
  change _ ∈ s.events ↔ false = true ∨ s.stopRequested = true
  rw [h.requested,h.called hcalled]
  simp

theorem Tracked.check (h : Tracked s) (keepRunning : Bool) : Tracked (s.check keepRunning) := by
  unfold StopRun.check
  split
  · exact h.keep rfl Iff.rfl rfl nofun
  · exact h.keep rfl (by simp) rfl nofun

theorem Tracked.step (h : Tracked s) (i : StopStep) : Tracked (s.step w i) := by
  cases i with
  | requestStop => exact .requestStop
  | clearStop =>
    dsimp only [StopRun.step]
    split
    · exact h.clearStop ‹_›
    · exact h
  | startUp =>
    dsimp only [StopRun.step]
    split
    · refine h.keep rfl Iff.rfl rfl ?_
      dsimp only [StopRun.startUp]
      split <;> exact nofun
    · exact h
  | check keepRunning =>
    dsimp only [StopRun.step]
    split
    · exact h.check keepRunning
    · exact h
  | turn action =>
    dsimp only [StopRun.step]
    split
    · unfold StopRun.turn
      split
      · exact h
      · exact h.keep rfl Iff.rfl rfl id
    · exact h
  | finishIteration threw =>
    dsimp only [StopRun.step]
    split
    · refine h.keep rfl Iff.rfl rfl ?_
      cases threw <;> exact nofun
    · exact h

theorem honoured_requestStop : s.requestStop.Honoured ↔ s.Honoured := by
  unfold Honoured StopRun.requestStop
  rw [List.pairwise_append]
  refine ⟨And.left,fun h => ⟨h,List.pairwise_singleton _ _,?_⟩⟩
  intro a _ b hb
  rw [List.mem_singleton.mp hb]
  exact fun hab => nomatch hab.2

/-- At the guard an iteration starts after a request exactly when the request was lost. -/
theorem honoured_check_iff (h : Tracked s) (hh : s.Honoured) (hp : s.phase = .atGuard)
    (keepRunning : Bool) :
    (s.check keepRunning).Honoured ↔ ¬ s.LosesRequest (.check keepRunning) := by
  unfold StopRun.check
  by_cases hc : s.stopRequested ∨ ¬ keepRunning
  · rw [if_pos hc]
    refine iff_of_true hh fun hl => ?_
    obtain ⟨hi,_,hf⟩ := hl
    obtain rfl := StopStep.check.inj hi
    rcases hc with hr | hk
    · rw [h.forgotten hf] at hr
      cases hr
    · exact hk rfl
  · rw [if_neg hc]
    push Not at hc
    obtain ⟨hr,rfl⟩ := hc
    have hlost : s.LosesRequest (.check true) ↔ .stopRequested ∈ s.events := by
      rw [h.requested]
      exact ⟨fun hl => .inr hl.2.2,fun hm => ⟨rfl,hp,hm.resolve_left hr⟩⟩
    rw [hlost,Honoured,List.pairwise_append]
    constructor
    · intro ht hm
      exact ht.2.2 _ hm _ List.mem_cons_self ⟨rfl,rfl⟩
    · intro hm
      refine ⟨hh,List.pairwise_singleton _ _,?_⟩
      rintro a ha b _ ⟨rfl,_⟩
      exact hm ha

theorem honoured_step_iff (h : Tracked s) (hh : s.Honoured) (i : StopStep) :
    (s.step w i).Honoured ↔ ¬ s.LosesRequest i := by
  cases i with
  | requestStop => exact iff_of_true (honoured_requestStop.mpr hh) nofun
  | clearStop =>
    refine iff_of_true ?_ nofun
    dsimp only [StopRun.step]
    split <;> exact hh
  | startUp =>
    refine iff_of_true ?_ nofun
    dsimp only [StopRun.step]
    split <;> exact hh
  | check keepRunning =>
    dsimp only [StopRun.step]
    split
    · exact honoured_check_iff h hh ‹_› keepRunning
    · exact iff_of_true hh fun hl => absurd hl.2.1 ‹_›
  | turn action =>
    refine iff_of_true ?_ nofun
    dsimp only [StopRun.step]
    split
    · unfold StopRun.turn
      split <;> exact hh
    · exact hh
  | finishIteration threw =>
    refine iff_of_true ?_ nofun
    dsimp only [StopRun.step]
    split <;> exact hh

end StopRun

open StopRun

/-- However other threads' requests fall between the steps of `run`, no iteration starts
after a request exactly when none is let in while the last request is one made before
`run` cleared the flag. -/
theorem stop_honoured_iff (w : World) (config : DriverConfig) (steps : List StopStep) :
    Always (StopRun.step w) Honoured { driver := fresh config } steps ↔
      EachStep (StopRun.step w) (fun s i => ¬ s.LosesRequest i) { driver := fresh config }
        steps := by
  have htracked : Always (StopRun.step w) Tracked { driver := fresh config } steps :=
    always_of_step (H := fun _ _ => True) (StopRun.step w) (fun _ i _ h => h.step w i)
      (tracked_constructed config) fun _ _ _ => trivial
  exact always_iff_eachStep (StopRun.step w) (H := fun s _ => Tracked s)
    (fun _ i ht hh => honoured_step_iff w ht hh i)
    (show Honoured { driver := fresh config } from .nil) (htracked.eachStep (StopRun.step w))

/-- The thread that serves the callbacks fails before `run` has cleared the flag. -/
theorem early_request_forgotten :
    ¬ Always (StopRun.step {}) Honoured { driver := fresh {} }
      [.requestStop,.clearStop,.startUp,.check true] := by
  intro h
  have hlast : (run (StopRun.step {}) { driver := fresh {} }
      [.requestStop,.clearStop,.startUp,.check true]).events =
        [.stopRequested,.iterationStarted] := by decide +kernel
  have hpairwise := h.last
  rw [Honoured,hlast] at hpairwise
  exact absurd hpairwise (by decide)

end PrismRosAdapter.Driver
