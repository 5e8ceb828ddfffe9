import PrismRosAdapter.Program.Runs
import Mathlib.Data.List.Nodup
import Mathlib.Tactic.Common

/-! # The control command queue

Service threads enqueue commands under a lock. The run thread swaps the whole
queue out and works through its local batch without the lock, so a command is
queued, in the batch at hand, or resolved. Commands are named by the order in
which `invokeControl` was called.
-/
namespace PrismRosAdapter.Driver
open Runs

def controlQueueLimit : ℕ := 64

/-- What the run thread is doing with the batch it has swapped out. -/
inductive Activity where
  | idle
  | processing (batch : List ℕ)
  | cancelling (batch : List ℕ)
  deriving DecidableEq, Repr

inductive Resolution where
  | executed (threw : Bool)
  | cancelled
  deriving DecidableEq, Repr

structure ControlQueue where
  accepting : Bool := false
  commands : List ℕ := []
  activity : Activity := .idle
  invoked : ℕ := 0
  accepted : List ℕ := []
  rejected : List ℕ := []
  resolved : List (ℕ × Resolution) := []
  deriving DecidableEq, Repr

inductive ControlStep where
  | invokeControl
  | enableControls
  | processControls
  | cancelControls
  /-- One turn of the loop over the batch; past the last one the call returns. -/
  | proceed (threw : Bool)
  deriving DecidableEq, Repr

namespace ControlQueue

def invokeControl (q : ControlQueue) : ControlQueue :=
  if ¬ q.accepting ∨ controlQueueLimit ≤ q.commands.length then
    { q with invoked := q.invoked + 1, rejected := q.rejected ++ [q.invoked] }
  else
    { q with
      invoked := q.invoked + 1
      accepted := q.accepted ++ [q.invoked]
      commands := q.commands ++ [q.invoked] }

def enableControls (q : ControlQueue) : ControlQueue := { q with accepting := true }

def processControls (q : ControlQueue) : ControlQueue :=
  { q with commands := [], activity := .processing q.commands }

def cancelControls (q : ControlQueue) : ControlQueue :=
  { q with accepting := false, commands := [], activity := .cancelling q.commands }

def proceed (q : ControlQueue) (threw : Bool) : ControlQueue :=
  match q.activity with
  | .idle => q
  | .processing [] | .cancelling [] => { q with activity := .idle }
  | .processing (c :: rest) =>
    { q with activity := .processing rest, resolved := q.resolved ++ [(c,.executed threw)] }
  | .cancelling (c :: rest) =>
    { q with activity := .cancelling rest, resolved := q.resolved ++ [(c,.cancelled)] }

/-- The run thread starts a call only after its last one has returned. -/
def step (q : ControlQueue) : ControlStep → ControlQueue
  | .invokeControl => q.invokeControl
  | .enableControls => if q.activity = .idle then q.enableControls else q
  | .processControls => if q.activity = .idle then q.processControls else q
  | .cancelControls => if q.activity = .idle then q.cancelControls else q
  | .proceed threw => q.proceed threw

def batch (q : ControlQueue) : List ℕ :=
  match q.activity with
  | .idle => []
  | .processing batch | .cancelling batch => batch

def resolvedCommands (q : ControlQueue) : List ℕ := q.resolved.map Prod.fst

/-- The commands executed so far, in the order of their execution. -/
def executed (q : ControlQueue) : List ℕ :=
  (q.resolved.filter fun r => r.2 ≠ .cancelled).map Prod.fst

/-- Every accepted command is resolved, in the batch at hand or queued, and the
three together keep the order of acceptance. -/
structure Accounted (q : ControlQueue) : Prop where
  commands : q.accepted = q.resolvedCommands ++ q.batch ++ q.commands
  increasing : q.accepted.Pairwise (· < ·)
  accepted_lt : ∀ c ∈ q.accepted, c < q.invoked
  rejected_lt : ∀ c ∈ q.rejected, c < q.invoked
  rejected : ∀ c ∈ q.rejected, c ∉ q.accepted
  length_le : q.commands.length ≤ controlQueueLimit

theorem accounted_empty : Accounted {} := by
  refine ⟨rfl,.nil,?_,?_,?_,Nat.zero_le _⟩ <;> simp

theorem Accounted.invokeControl {q : ControlQueue} (h : Accounted q) :
    Accounted q.invokeControl := by
  unfold ControlQueue.invokeControl
  by_cases hr : ¬ q.accepting ∨ controlQueueLimit ≤ q.commands.length
  · rw [if_pos hr]
    refine ⟨h.commands,h.increasing,?_,?_,?_,h.length_le⟩
    · exact fun c hc => Nat.lt_succ_of_lt (h.accepted_lt c hc)
    · intro c hc
      rcases List.mem_append.mp hc with hc | hc
      · exact Nat.lt_succ_of_lt (h.rejected_lt c hc)
      · rw [List.mem_singleton.mp hc]
        exact Nat.lt_succ_self _
    · intro c hc ha
      rcases List.mem_append.mp hc with hc | hc
      · exact h.rejected c hc ha
      · rw [List.mem_singleton.mp hc] at ha
        exact Nat.lt_irrefl _ (h.accepted_lt _ ha)
  · rw [if_neg hr]
    have hlen : q.commands.length < controlQueueLimit := by
      by_contra hl
      exact hr (.inr (Nat.le_of_not_lt hl))
    refine ⟨?_,?_,?_,?_,?_,?_⟩
    · rw [h.commands,List.append_assoc]
      rfl
    · refine List.pairwise_append.mpr ⟨h.increasing,List.pairwise_singleton _ _,?_⟩
      intro c hc d hd
      rw [List.mem_singleton.mp hd]
      exact h.accepted_lt c hc
    · intro c hc
      rcases List.mem_append.mp hc with hc | hc
      · exact Nat.lt_succ_of_lt (h.accepted_lt c hc)
      · rw [List.mem_singleton.mp hc]
        exact Nat.lt_succ_self _
    · exact fun c hc => Nat.lt_succ_of_lt (h.rejected_lt c hc)
    · intro c hc ha
      rcases List.mem_append.mp ha with ha | ha
      · exact h.rejected c hc ha
      · have hlt := h.rejected_lt c hc
        rw [List.mem_singleton.mp ha] at hlt
        exact Nat.lt_irrefl _ hlt
    · rw [List.length_append]
      exact hlen

/-- Swapping the queue out and working through the batch keep the account. -/
theorem Accounted.transfer {q r : ControlQueue} (h : Accounted q)
    (hc : r.resolvedCommands ++ r.batch ++ r.commands =
      q.resolvedCommands ++ q.batch ++ q.commands)
    (ha : r.accepted = q.accepted) (hi : r.invoked = q.invoked) (hr : r.rejected = q.rejected)
    (hl : r.commands.length ≤ q.commands.length) : Accounted r := by
  refine ⟨?_,?_,?_,?_,?_,hl.trans h.length_le⟩
  · rw [ha,hc,h.commands]
  · rw [ha]
    exact h.increasing
  · rw [ha,hi]
    exact h.accepted_lt
  · rw [hr,hi]
    exact h.rejected_lt
  · rw [hr,ha]
    exact h.rejected

theorem Accounted.proceed {q : ControlQueue} (h : Accounted q) (threw : Bool) :
    Accounted (q.proceed threw) := by
  unfold ControlQueue.proceed
  split
  · exact h
  · next ha => exact h.transfer (by simp [batch,resolvedCommands,ha]) rfl rfl rfl le_rfl
  · next ha => exact h.transfer (by simp [batch,resolvedCommands,ha]) rfl rfl rfl le_rfl
  · next c rest ha => exact h.transfer (by simp [batch,resolvedCommands,ha]) rfl rfl rfl le_rfl
  · next c rest ha => exact h.transfer (by simp [batch,resolvedCommands,ha]) rfl rfl rfl le_rfl

theorem Accounted.step {q : ControlQueue} (h : Accounted q) (i : ControlStep) :
    Accounted (q.step i) := by
  cases i with
  | invokeControl => exact h.invokeControl
  | proceed threw => exact h.proceed threw
  | enableControls =>
    dsimp only [ControlQueue.step]
    split
    · exact h.transfer rfl rfl rfl rfl le_rfl
    · exact h
  | processControls =>
    dsimp only [ControlQueue.step]
    split
    · next ha =>
      refine h.transfer ?_ rfl rfl rfl (Nat.zero_le _)
      simp [processControls,batch,resolvedCommands,ha]
    · exact h
  | cancelControls =>
    dsimp only [ControlQueue.step]
    split
    · next ha =>
      refine h.transfer ?_ rfl rfl rfl (Nat.zero_le _)
      simp [cancelControls,batch,resolvedCommands,ha]
    · exact h

theorem run_accounted (steps : List ControlStep) :
    Accounted (run ControlQueue.step {} steps) := by
  have hany : EachStep ControlQueue.step (fun _ _ => True) {} steps := fun _ _ _ => trivial
  exact (always_of_step ControlQueue.step (P := Accounted) (fun q i _ h => h.step i)
    accounted_empty hany).last

/-- No command can be accepted or executed any more: the run thread is about to
return from `cancelControls`, or has returned and not enabled controls again. -/
structure Closed (q : ControlQueue) (before : List ℕ) : Prop where
  accepting : q.accepting = false
  commands : q.commands = []
  batch : ∀ batch, q.activity = .processing batch → batch = []
  executed_eq : q.executed = before

theorem closed_cancelControls (q : ControlQueue) : Closed q.cancelControls q.executed := by
  refine ⟨rfl,rfl,?_,rfl⟩
  intro batch hb
  cases hb

theorem Closed.step {q : ControlQueue} {before : List ℕ} (h : Closed q before)
    {i : ControlStep} (hi : i ≠ .enableControls) : Closed (q.step i) before := by
  cases i with
  | invokeControl =>
    dsimp only [ControlQueue.step]
    unfold ControlQueue.invokeControl
    rw [if_pos (.inl (by simp [h.accepting]))]
    exact ⟨h.accepting,h.commands,h.batch,h.executed_eq⟩
  | enableControls => exact absurd rfl hi
  | processControls =>
    dsimp only [ControlQueue.step]
    split
    · refine ⟨h.accepting,rfl,?_,h.executed_eq⟩
      intro batch hb
      rw [← Activity.processing.inj hb]
      exact h.commands
    · exact h
  | cancelControls =>
    dsimp only [ControlQueue.step]
    split
    · refine ⟨rfl,rfl,?_,h.executed_eq⟩
      intro batch hb
      cases hb
    · exact h
  | proceed threw =>
    dsimp only [ControlQueue.step]
    unfold ControlQueue.proceed
    split
    · exact h
    · refine ⟨h.accepting,h.commands,?_,h.executed_eq⟩
      intro batch hb
      cases hb
    · refine ⟨h.accepting,h.commands,?_,h.executed_eq⟩
      intro batch hb
      cases hb
    · next c rest ha => cases h.batch _ ha
    · next c rest ha =>
      refine ⟨h.accepting,h.commands,?_,?_⟩
      · intro batch hb
        cases hb
      · rw [← h.executed_eq]
        simp [ControlQueue.executed]

theorem closed_run {q : ControlQueue} {before : List ℕ} (h : Closed q before)
    {steps : List ControlStep} (hn : .enableControls ∉ steps) :
    Closed (run ControlQueue.step q steps) before := by
  induction steps generalizing q with
  | nil => exact h
  | cons i rest ih =>
    have hi : i ≠ .enableControls := fun he => hn (he ▸ List.mem_cons_self ..)
    exact ih (h.step hi) (fun hr => hn (List.mem_cons_of_mem _ hr))

theorem Accounted.all_resolved {q : ControlQueue} (h : Accounted q) (ha : q.activity = .idle)
    (hc : q.commands = []) : q.resolvedCommands = q.accepted := by
  rw [h.commands]
  simp [batch,ha,hc]

theorem Accounted.executed_sublist {q : ControlQueue} (h : Accounted q) :
    q.executed.Sublist q.accepted := by
  rw [h.commands,List.append_assoc]
  refine List.Sublist.trans ?_ (List.sublist_append_left _ _)
  exact (List.filter_sublist ..).map _

theorem Accounted.resolved_nodup {q : ControlQueue} (h : Accounted q) :
    q.resolvedCommands.Nodup := by
  have hn : q.accepted.Nodup := h.increasing.imp Nat.ne_of_lt
  rw [h.commands,List.append_assoc] at hn
  exact (List.nodup_append.mp hn).1

theorem Accounted.rejected_not_resolved {q : ControlQueue} (h : Accounted q) {c : ℕ}
    (hc : c ∈ q.rejected) : c ∉ q.resolvedCommands := by
  intro hr
  apply h.rejected c hc
  rw [h.commands,List.append_assoc]
  exact List.mem_append_left _ hr

theorem step_grows (q : ControlQueue) (i : ControlStep) :
    q.accepted <+: (q.step i).accepted ∧ q.rejected <+: (q.step i).rejected := by
  have hrefl : q.accepted <+: q.accepted ∧ q.rejected <+: q.rejected :=
    ⟨List.prefix_refl _,List.prefix_refl _⟩
  cases i with
  | invokeControl =>
    dsimp only [step]
    unfold invokeControl
    split
    · exact ⟨List.prefix_refl _,List.prefix_append _ _⟩
    · exact ⟨List.prefix_append _ _,List.prefix_refl _⟩
  | proceed threw =>
    dsimp only [step]
    unfold proceed
    split <;> exact hrefl
  | enableControls =>
    dsimp only [step]
    split <;> exact hrefl
  | processControls =>
    dsimp only [step]
    split <;> exact hrefl
  | cancelControls =>
    dsimp only [step]
    split <;> exact hrefl

theorem run_grows (q : ControlQueue) (steps : List ControlStep) :
    q.accepted <+: (run step q steps).accepted ∧ q.rejected <+: (run step q steps).rejected := by
  induction steps generalizing q with
  | nil => exact ⟨List.prefix_refl _,List.prefix_refl _⟩
  | cons i rest ih =>
    obtain ⟨ha,hr⟩ := step_grows q i
    obtain ⟨ha',hr'⟩ := ih (q.step i)
    exact ⟨ha.trans ha',hr.trans hr'⟩

/-- A call of `invokeControl` is rejected when controls are not accepted or the
queue is full, and is accepted otherwise. -/
theorem invoke_rejected_iff (before after : List ControlStep) :
    (run step {} before).invoked ∈ (run step {} (before ++ .invokeControl :: after)).rejected ↔
      (run step {} before).accepting = false ∨
        controlQueueLimit ≤ (run step {} before).commands.length := by
  have hend := run_accounted (before ++ .invokeControl :: after)
  rw [run_append,run_cons] at hend ⊢
  obtain ⟨ha,hr⟩ := run_grows ((run step {} before).step .invokeControl) after
  by_cases h : ¬ (run step {} before).accepting ∨
      controlQueueLimit ≤ (run step {} before).commands.length
  · have hmem : (run step {} before).invoked ∈
        ((run step {} before).step .invokeControl).rejected := by
      dsimp only [step]
      rw [invokeControl,if_pos h]
      simp
    exact iff_of_true (hr.subset hmem) (by simpa using h)
  · have hmem : (run step {} before).invoked ∈
        ((run step {} before).step .invokeControl).accepted := by
      dsimp only [step]
      rw [invokeControl,if_neg h]
      simp
    exact iff_of_false (fun hc => hend.rejected _ hc (ha.subset hmem)) (by simpa using h)

theorem proceed_done {q : ControlQueue} (h : q.batch = []) (threw : Bool) :
    q.proceed threw = { q with activity := .idle } := by
  obtain ⟨accepting,commands,activity,invoked,accepted,rejected,resolved⟩ := q
  cases activity with
  | idle => rfl
  | processing batch =>
    obtain rfl : batch = [] := h
    rfl
  | cancelling batch =>
    obtain rfl : batch = [] := h
    rfl

theorem proceed_next {q : ControlQueue} {c : ℕ} {rest : List ℕ} (h : q.batch = c :: rest)
    (threw : Bool) : (q.proceed threw).batch = rest ∧
      (q.proceed threw).commands = q.commands ∧ (q.proceed threw).accepted = q.accepted := by
  obtain ⟨accepting,commands,activity,invoked,accepted,rejected,resolved⟩ := q
  cases activity with
  | idle => cases h
  | processing batch =>
    obtain rfl : batch = c :: rest := h
    exact ⟨rfl,rfl,rfl⟩
  | cancelling batch =>
    obtain rfl : batch = c :: rest := h
    exact ⟨rfl,rfl,rfl⟩

/-- The loop over a batch ends, and leaves the queue alone. -/
theorem finish_batch (q : ControlQueue) : ∃ turns,
    (run step q (List.replicate turns (.proceed false))).activity = .idle ∧
      (run step q (List.replicate turns (.proceed false))).commands = q.commands ∧
      (run step q (List.replicate turns (.proceed false))).accepted = q.accepted := by
  obtain ⟨batch,hb⟩ : ∃ batch, q.batch = batch := ⟨_,rfl⟩
  induction batch generalizing q with
  | nil =>
    refine ⟨1,?_⟩
    rw [List.replicate_one,run_cons,run_nil]
    change (q.proceed false).activity = .idle ∧ (q.proceed false).commands = _ ∧
      (q.proceed false).accepted = _
    rw [proceed_done hb]
    exact ⟨rfl,rfl,rfl⟩
  | cons c rest ih =>
    obtain ⟨hbatch,hcommands,haccepted⟩ := proceed_next hb false
    obtain ⟨turns,hidle,hc,ha⟩ := ih (q.proceed false) hbatch
    refine ⟨turns + 1,?_⟩
    rw [List.replicate_succ,run_cons]
    exact ⟨hidle,hc.trans hcommands,ha.trans haccepted⟩

/-- Calls of the run thread alone, ending in `cancelControls`, resolve all that
has been accepted. -/
theorem run_thread_resolves (steps : List ControlStep) : ∃ rest : List ControlStep,
    (∀ i ∈ rest, i = .proceed false ∨ i = .cancelControls) ∧
      (run step {} (steps ++ rest)).resolvedCommands = (run step {} steps).accepted := by
  obtain ⟨first,hidle,_,haccepted⟩ := finish_batch (run step {} steps)
  obtain ⟨q,hq⟩ : ∃ q, q = run step (run step {} steps) (List.replicate first (.proceed false)) :=
    ⟨_,rfl⟩
  rw [← hq] at hidle haccepted
  have hcancel : q.step .cancelControls = q.cancelControls := by
    dsimp only [step]
    rw [if_pos hidle]
  obtain ⟨second,hidle',hcommands',haccepted'⟩ := finish_batch q.cancelControls
  refine ⟨List.replicate first (.proceed false) ++
    .cancelControls :: List.replicate second (.proceed false),?_,?_⟩
  · intro i hi
    rcases List.mem_append.mp hi with hi | hi
    · exact Or.inl (List.eq_of_mem_replicate hi)
    · rcases List.mem_cons.mp hi with rfl | hi
      · exact Or.inr rfl
      · exact Or.inl (List.eq_of_mem_replicate hi)
  · have hend := run_accounted (steps ++ (List.replicate first (.proceed false) ++
      .cancelControls :: List.replicate second (.proceed false)))
    rw [run_append,run_append,← hq,run_cons,hcancel] at hend ⊢
    rw [hend.all_resolved hidle' hcommands',haccepted']
    exact haccepted

/-- A command that `processControls` has swapped out: executed, or still to be. -/
def Taken (q : ControlQueue) (c : ℕ) : Prop :=
  c ∈ q.executed ∨ ∃ batch, q.activity = .processing batch ∧ c ∈ batch

theorem Taken.proceed {q : ControlQueue} {c : ℕ} (h : Taken q c) (threw : Bool) :
    Taken (q.proceed threw) c := by
  have hmore : ∀ r : ℕ × Resolution, c ∈ q.executed →
      c ∈ ((q.resolved ++ [r]).filter fun r => r.2 ≠ .cancelled).map Prod.fst := by
    intro r he
    rw [List.filter_append,List.map_append]
    exact List.mem_append_left _ he
  unfold ControlQueue.proceed
  split
  · exact h
  · rename_i hbatch
    refine h.imp_right ?_
    rintro ⟨batch,hb,hc⟩
    rw [hbatch] at hb
    cases hb
    cases hc
  · rename_i hbatch
    refine h.imp_right ?_
    rintro ⟨batch,hb,_⟩
    rw [hbatch] at hb
    cases hb
  · rename_i d rest hbatch
    rcases h with he | ⟨batch,hb,hc⟩
    · exact .inl (hmore _ he)
    · rw [hbatch] at hb
      cases hb
      rcases List.mem_cons.mp hc with rfl | hc
      · exact .inl (by simp [executed])
      · exact .inr ⟨rest,rfl,hc⟩
  · rename_i hbatch
    rcases h with he | ⟨batch,hb,_⟩
    · exact .inl (hmore _ he)
    · rw [hbatch] at hb
      cases hb

theorem Taken.step {q : ControlQueue} {c : ℕ} (h : Taken q c) (i : ControlStep) :
    Taken (q.step i) c := by
  -- a call of the run thread finds no batch at hand
  have hcall : q.activity = .idle → c ∈ q.executed := fun hidle => by
    rcases h with he | ⟨batch,hb,_⟩
    · exact he
    · rw [hidle] at hb
      cases hb
  cases i with
  | invokeControl =>
    change Taken q.invokeControl c
    unfold ControlQueue.invokeControl
    split <;> exact h
  | enableControls =>
    dsimp only [ControlQueue.step]
    split
    · exact h
    · exact h
  | processControls =>
    dsimp only [ControlQueue.step]
    split
    · rename_i hidle
      exact .inl (hcall hidle)
    · exact h
  | cancelControls =>
    dsimp only [ControlQueue.step]
    split
    · rename_i hidle
      exact .inl (hcall hidle)
    · exact h
  | proceed threw => exact h.proceed threw

theorem processed_taken (before after : List ControlStep)
    (hidle : (run step {} before).activity = .idle) :
    ∀ c ∈ (run step {} before).commands,
      Taken (run step {} (before ++ .processControls :: after)) c := by
  intro c hc
  rw [run_append,run_cons]
  have hstart : Taken ((run step {} before).step .processControls) c := by
    dsimp only [step]
    rw [if_pos hidle]
    exact .inr ⟨_,rfl,hc⟩
  exact (always_of_step step (P := (Taken · c)) (H := fun _ _ => True) (fun _ i _ h => h.step i)
    hstart fun _ _ _ => trivial).last

/-- Whatever the service threads and the run thread interleave, each accepted
command is resolved at most once and, once `cancelControls` has returned, exactly
once; execution follows the order of acceptance, a rejected command is never
resolved, and what `processControls` swaps out is executed. -/
theorem control_commands_resolved_once (steps : List ControlStep) :
    (run step {} steps).accepted = (run step {} steps).resolvedCommands ++
        (run step {} steps).batch ++ (run step {} steps).commands ∧
      (run step {} steps).resolvedCommands.Nodup ∧
      (run step {} steps).executed.Sublist (run step {} steps).accepted ∧
      (run step {} steps).accepted.Pairwise (· < ·) ∧
      (∀ c ∈ (run step {} steps).rejected, c ∉ (run step {} steps).resolvedCommands) ∧
      (run step {} steps).commands.length ≤ controlQueueLimit ∧
      (∀ before after, steps = before ++ .invokeControl :: after →
        ((run step {} before).invoked ∈ (run step {} steps).rejected ↔
          (run step {} before).accepting = false ∨
            controlQueueLimit ≤ (run step {} before).commands.length)) ∧
      (∀ before after, steps = before ++ .cancelControls :: after →
        (run step {} before).activity = .idle → .enableControls ∉ after →
          (run step {} steps).executed = (run step {} before).executed ∧
          ((run step {} steps).activity = .idle →
            (run step {} steps).resolvedCommands = (run step {} steps).accepted)) ∧
      (∀ before after, steps = before ++ .processControls :: after →
        (run step {} before).activity = .idle →
          ∀ c ∈ (run step {} before).commands, Taken (run step {} steps) c) ∧
      ∃ rest : List ControlStep, (∀ i ∈ rest, i = .proceed false ∨ i = .cancelControls) ∧
        (run step {} (steps ++ rest)).resolvedCommands = (run step {} steps).accepted := by
  have h := run_accounted steps
  refine ⟨h.commands,h.resolved_nodup,h.executed_sublist,h.increasing,
    fun c hc => h.rejected_not_resolved hc,h.length_le,?_,?_,?_,run_thread_resolves steps⟩
  · rintro before after rfl
    exact invoke_rejected_iff before after
  · rintro before after rfl hidle hn
    have hcancel : (run step {} before).step .cancelControls =
        (run step {} before).cancelControls := by
      dsimp only [step]
      rw [if_pos hidle]
    rw [run_append,run_cons,hcancel] at h ⊢
    have hclosed := closed_run (closed_cancelControls (run step {} before)) hn
    exact ⟨hclosed.executed_eq,fun ha => h.all_resolved ha hclosed.commands⟩
  · rintro before after rfl hidle
    exact processed_taken before after hidle

end ControlQueue
end PrismRosAdapter.Driver
