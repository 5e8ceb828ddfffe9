import PrismRosAdapter.Driver.ControlRuns

/-! # The LiDAR's power and speed

These operations neither pause the streams nor resume them: they are refused while anything
is captured. What may be sent is sent once, since a call that times out may have changed the
hardware already.
-/
namespace PrismRosAdapter.Driver
open Program

/-- What the LiDAR itself could be asked. -/
def LidarOperation.admissible (model : LidarModel) : LidarOperation → Bool
  | .getPower timeoutMs | .setStandby _ timeoutMs => 0 < timeoutMs && timeoutMs ≤ 30000
  | .getSpeed timeoutMs => model = .mid360S && 0 < timeoutMs && timeoutMs ≤ 10000
  | .setSpeed mode timeoutMs =>
    model = .mid360S && 0 < timeoutMs && timeoutMs ≤ 10000 && (mode = 1 || mode = 2)

/-- The operation reaches the SDK. -/
def LidarOperation.sent (operation : LidarOperation) (c : Control) : Bool :=
  operation.admissible c.config.lidarModel && !capturing c.running

/-- The SDK's calls about the LiDAR itself. -/
def lidarCalls : List String :=
  ["lidarPowerStatus", "setLidarStandby", "lidarSpeedStatus", "setLidarSpeedMode"]

/-- Nothing but the LiDAR is asked, and nothing is published. -/
structure Reserved (s t : DriverState) : Prop where
  quiet : Quiet s t
  statuses : t.link.statuses = s.link.statuses
  named : ∀ e ∈ since s t, ∃ name ∈ lidarCalls, ∃ answer,
    e.event = .requested (.plain name) answer

section LidarPower
variable {w : World} {s : DriverState} {α : Type}

/-- The program makes one call and nothing else where `sent` says so, and refuses elsewhere. -/
structure Sends (x : Driving α) (s : DriverState) (sent : Bool) : Prop where
  reserved : Reserved s (x s).2
  calls : (x s).2.link.calls = s.link.calls + sent.toNat
  refused : sent = false → ∃ e, x.Throws s e s

theorem reserved_refl (s : DriverState) : Reserved s s :=
  ⟨Confined.refl s,rfl,by simp [since_self]⟩

theorem sends_consult {name : String} (hname : name ∈ lidarCalls)
    (reply : ℕ → Except Failure α) : Sends (consult name reply) s true := by
  refine ⟨⟨quiet_consult name reply s,rfl,fun e he => ⟨name,hname,?_⟩⟩,rfl,by simp⟩
  rcases returns_or_throws (consult name reply) s with ⟨a,h⟩ | ⟨err,h⟩
  · rw [(returns_ask.mp h).2,since_asked] at he
    exact ⟨_,congrArg Entry.event (List.mem_singleton.mp he)⟩
  · rw [(throws_ask.mp h).2,since_asked] at he
    exact ⟨_,congrArg Entry.event (List.mem_singleton.mp he)⟩

theorem sends_get {f : DriverState → Driving α} {sent : Bool}
    (h : Sends (f s) s sent) : Sends (get >>= f) s sent := ⟨h.reserved,h.calls,h.refused⟩

theorem sends_refusing {β : Type} {c : Prop} [Decidable c] {e : Failure} {f : β → Driving α}
    {x : Driving α} {sent : Bool} (h : Sends x s sent) :
    Sends (if c then throw e >>= f else x) s (!decide c && sent) := by
  by_cases hc : c
  · rw [if_pos hc,decide_eq_true hc]
    exact ⟨reserved_refl s,rfl,fun _ => ⟨e,rfl⟩⟩
  · rw [if_neg hc,decide_eq_false hc]
    exact h

theorem sends_ignored {x : Driving α} {sent : Bool} (h : Sends x s sent) :
    Sends (do let _ ← x) s sent := by
  have hstate : (do let _ ← x : Driving Unit) s = ((x s).1.map fun _ => (),(x s).2) := by
    simp only [bind]
    cases x s with
    | mk r t => cases r <;> rfl
  refine ⟨?_,?_,fun hsent => ?_⟩
  · rw [hstate]
    exact h.reserved
  · rw [hstate]
    exact h.calls
  · obtain ⟨e,hthrow⟩ := h.refused hsent
    exact ⟨e,throws_bind.mpr (.inl hthrow)⟩

theorem sends_lidarSpeedOperation (model : LidarModel) (busy : Bool) (timeoutMs : UInt32)
    (mode : Option UInt8) : Sends (lidarSpeedOperation w model busy timeoutMs mode) s
      (!decide (model ≠ .mid360S) && (!decide (timeoutMs = 0 ∨ 10000 < timeoutMs) &&
        (!decide ((mode.any fun m => m ≠ 1 ∧ m ≠ 2) = true) &&
          (!decide (busy = true) && true)))) := by
  refine sends_refusing (sends_refusing (sends_refusing (sends_refusing ?_)))
  cases mode <;> exact sends_consult (by decide) _

theorem sends_lidarOperation (operation : LidarOperation) (s : DriverState) :
    Sends (operation.program w) s (operation.sent s.control) := by
  have hzero : ∀ n : UInt32, decide (0 < n) = !decide (n = 0) := fun n => by
    rw [← decide_not,decide_eq_decide,UInt32.lt_iff_toNat_lt,← UInt32.toNat_inj]
    exact Nat.pos_iff_ne_zero
  have hmost : ∀ n m : UInt32, decide (n ≤ m) = !decide (m < n) := fun n m => by
    rw [← decide_not,decide_eq_decide,UInt32.not_lt]
  cases operation with
  | getPower timeoutMs =>
    have h : Sends (getLidarPower w timeoutMs) s _ :=
      sends_refusing (sends_get (sends_refusing (sends_consult (by decide) _)))
    simpa [LidarOperation.program, LidarOperation.sent, LidarOperation.admissible, hzero, hmost]
      using sends_ignored h
  | setStandby standby timeoutMs =>
    have h : Sends (setLidarStandby w standby timeoutMs) s _ :=
      sends_refusing (sends_get (sends_refusing (sends_consult (by decide) _)))
    simpa [LidarOperation.program, LidarOperation.sent, LidarOperation.admissible, hzero, hmost]
      using sends_ignored h
  | getSpeed timeoutMs =>
    have h : Sends (getLidarSpeed w timeoutMs) s _ :=
      sends_get (f := fun s => lidarSpeedOperation w s.control.config.lidarModel
        (capturing s.control.running) timeoutMs none) (sends_lidarSpeedOperation ..)
    simpa [LidarOperation.program, LidarOperation.sent, LidarOperation.admissible, hzero, hmost,
      Bool.and_assoc] using sends_ignored h
  | setSpeed mode timeoutMs =>
    have h : Sends (setLidarSpeed w mode timeoutMs) s _ :=
      sends_get (f := fun s => lidarSpeedOperation w s.control.config.lidarModel
        (capturing s.control.running) timeoutMs (some mode)) (sends_lidarSpeedOperation ..)
    simpa [LidarOperation.program, LidarOperation.sent, LidarOperation.admissible, hzero, hmost,
      Bool.and_assoc] using sends_ignored h

end LidarPower
end PrismRosAdapter.Driver
