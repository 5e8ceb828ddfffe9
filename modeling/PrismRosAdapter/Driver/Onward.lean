import PrismRosAdapter.Driver.Resume
import PrismRosAdapter.Driver.Traversal

/-! # What no control command undoes

The journal only grows, `fatalControlError` is never cleared within a run, and
only the first session of a run ever counts as compared with the configured
device.
-/
namespace PrismRosAdapter.Driver
open Program

/-- The session is the run's first exactly when its identity has been compared. -/
def Matched (s : DriverState) : Prop :=
  1 ≤ s.link.session ∧ s.link.verified = decide (s.link.session = 1)

/-- The same of an event's session. -/
def Stamped (e : Entry) : Prop := 1 ≤ e.session ∧ e.verified = decide (e.session = 1)

structure Onward (s t : DriverState) : Prop where
  later : Later s t
  fatal : s.control.fatalControlError ≠ "" → t.control.fatalControlError ≠ ""
  matched : Matched s → Matched t ∧ ∀ e ∈ since s t, Stamped e

theorem Onward.refl (s : DriverState) : Onward s s :=
  ⟨List.prefix_refl _,id,fun h => ⟨h,by simp [since_self]⟩⟩

theorem Onward.trans {s t u : DriverState} (h : Onward s t) (h' : Onward t u) : Onward s u := by
  refine ⟨h.later.trans h'.later,h'.fatal ∘ h.fatal,fun hs => ?_⟩
  obtain ⟨ht,hst⟩ := h.matched hs
  obtain ⟨hu,htu⟩ := h'.matched ht
  refine ⟨hu,fun e he => ?_⟩
  rw [since_trans h.later h'.later] at he
  rcases List.mem_append.mp he with he | he
  · exact hst e he
  · exact htu e he

instance : Std.Refl Onward := ⟨Onward.refl⟩
instance : IsTrans DriverState Onward := ⟨fun _ _ _ => Onward.trans⟩

theorem Confined.onward {A : Feed → Prop} {K : Event → Prop} {s t : DriverState}
    (h : Confined A K s t) : Onward s t where
  later := h.later
  fatal := by
    rw [show t.control.fatalControlError = s.control.fatalControlError from
      congrArg Terms.fatal h.terms]
    exact id
  matched := by
    intro hs
    refine ⟨?_,fun e he => ?_⟩
    · unfold Matched
      rw [h.session.1,h.session.2]
      exact hs
    · unfold Stamped
      rw [(h.stamped e he).1,(h.stamped e he).2]
      exact hs

theorem onward_within {A : Feed → Prop} {K : Event → Prop} {α : Type} {x : Driving α}
    (h : Within (Confined A K) x) : Within Onward x := h.mono fun _ _ => Confined.onward

theorem onward_quiet {α : Type} {x : Driving α} (h : Within Quiet x) : Within Onward x :=
  onward_within h

theorem onward_linked {s t : DriverState} (hl : Linked s t)
    (hf : s.control.fatalControlError ≠ "" → t.control.fatalControlError ≠ "") : Onward s t where
  later := hl.later
  fatal := hf
  matched := by
    intro hs
    refine ⟨?_,by simp [hl.since_eq]⟩
    unfold Matched
    rw [hl.session,hl.verified]
    exact hs

theorem onward_modifyControl {g : Control → Control}
    (h : ∀ c, (g c).fatalControlError = c.fatalControlError) :
    Within Onward (modifyControl g) :=
  within_modify fun s => onward_linked ⟨rfl,rfl,rfl⟩ fun hf => by rw [h]; exact hf

section Commands
variable {w : World}

theorem onward_openSession (network : Bool) : Within Onward (openSession w network) := by
  unfold openSession
  refine within_bind (onward_quiet (quiet_ask fun _ => rfl)) (fun _ => ?_)
  refine within_modify fun s => ⟨List.prefix_refl _,id,fun hs => ?_⟩
  have hsession : s.link.session + 1 ≠ 1 := by
    have := hs.1
    omega
  exact ⟨⟨Nat.le_add_left 1 _,(decide_eq_false hsession).symm⟩,by simp [since]⟩

theorem onward_askRover (enable : Bool) : Within Onward (askRover w enable) := by
  have hask : ∀ {event : Except Failure Bool → Event} {reply : ℕ → Except Failure Bool},
      Within Onward (ask event reply) := fun {event reply} =>
    onward_within (within_ask (A := fun _ => True) (K := fun _ => True) (fun _ => trivial)
      fun _ _ _ => trivial)
  exact within_ite hask hask

theorem keeps_onward : Keeps w Onward where
  control := onward_modifyControl
  fatal := fun h => within_modify fun _ => onward_linked ⟨rfl,rfl,rfl⟩ fun _ => h
  status := fun _ _ => onward_quiet (within_publishStatus _ _)
  resolver := onward_quiet (within_modifyReceive _)
  plain := fun name reply => onward_quiet (quiet_consult name reply)
  query := fun q => onward_quiet (quiet_query w q)
  rover := onward_askRover
  opened := onward_openSession
  start := onward_within (within_startConfiguredStreams w)
  stop := onward_within (within_stopConfiguredStreams w)

/-- Receiving and expiring are no business of the feeds. -/
theorem quiet_receive : Within Quiet (Action.receive.program w) :=
  within_survivingTimeout (quiet_receiveFrame w)

theorem quiet_expire : Within Quiet (Action.expire.program w) :=
  within_bind (quiet_ask fun _ => rfl) fun result => quiet_consumeCameraResult w result

theorem onward_act (s : DriverState) (action : Action) : Onward s (act w s action) := by
  cases action with
  | control command => exact keeps_onward.command command s
  | receive => exact onward_quiet quiet_receive s
  | expire => exact onward_quiet quiet_expire s

end Commands
end PrismRosAdapter.Driver
