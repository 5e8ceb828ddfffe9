import PrismRosAdapter.Driver.Shutdown

/-! # The LiDAR's power and speed in a run

An operation on the LiDAR's power or speed goes by the flags. They cover every feed that is on,
short of one that the Agent of an RK-local build has started with other settings.
-/
namespace PrismRosAdapter.Driver
open Program Runs Switching

section LidarIdle
variable {w : World} {s : DriverState}

theorem keeping_turn (s : DriverState) (next : Turn) : Keeping w s (turn w s next) := by
  cases next with
  | act action => exact keeping_act s action
  | publish state error => exact keeping_quiet (within_publishStatus state error) s

theorem covered_startRun (hs : Halted w s) : Covered w (startRun w s).2 := by
  have hreset : Covered w (resetRun s).2 := fun f hf => .inr (hs.stray f hf)
  exact ((upholds_keeping w).startAgain (fun info => keeping_steady (steady_verifyIdentity info))
    s).covered hreset

theorem LidarOperation.idle_of_sent {operation : LidarOperation} {c : Control}
    (h : operation.sent c = true) : ∀ f ∈ [Feed.camera, .boardImu, .lidar],
      c.running.flag f = false := by
  have hidle := (Bool.and_eq_true_iff.mp h).2
  rw [capturing,Bool.not_eq_true',Bool.or_eq_false_iff,Bool.or_eq_false_iff] at hidle
  simpa [Running.flag, and_assoc] using hidle

/-- Between the turns of a run, however these end, each of the operations is sent once where it
is admissible and nothing is flagged as captured, and not at all elsewhere; what is sent finds
every captured feed off or stray. -/
theorem lidar_operations_idle (hs : Halted w s) (turns : List Turn) :
    EachStep (turn w) (fun s next => ∀ operation, next = .act (.control (.lidar operation)) →
      Reserved s (turn w s next) ∧
      calls (turn w s next) = calls s + (operation.sent s.control).toNat ∧
      (calls (turn w s next) ≠ calls s → ∀ f ∈ [Feed.camera, .boardImu, .lidar],
        s.on w f = true → s.Stray w f)) (startRun w s).2 turns := by
  have hall : Always (turn w) (Covered w) (startRun w s).2 turns :=
    always_of_step (H := fun _ _ => True) (turn w)
      (fun t next _ => (keeping_turn t next).covered) (covered_startRun hs) fun _ _ _ => trivial
  rintro first next hfirst operation rfl
  have hcovered := hall first ((List.prefix_append _ _).trans hfirst)
  generalize run (turn w) (startRun w s).2 first = t at hcovered ⊢
  have hsends := sends_lidarOperation (w := w) operation t
  refine ⟨hsends.reserved,hsends.calls,fun hne f hf hon => ?_⟩
  have hsent : operation.sent t.control = true := by
    by_contra hsent
    rw [Bool.not_eq_true] at hsent
    have hcalls := hsends.calls
    rw [hsent] at hcalls
    exact hne hcalls
  exact (hcovered f hon).resolve_left fun hflag =>
    Bool.noConfusion ((LidarOperation.idle_of_sent hsent f hf).symm.trans hflag)

def capturesNothing : DriverConfig where
  enableCamera := false
  enableBoardImu := false

/-- With nothing configured to be captured the power is asked for once. -/
theorem lidar_power_idle :
    let d := (startRun {} (fresh capturesNothing)).2
    let t := turn {} d (.act (.control (.lidar (.getPower 1000))))
    calls t = calls d + 1 ∧ Reserved d t :=
  have hs : Halted {} (fresh capturesNothing) := (atRest_fresh _ _).halted
  have h := lidar_operations_idle hs [.act (.control (.lidar (.getPower 1000)))] [] _
    (List.prefix_refl _) _ rfl
  ⟨h.2.1,h.1⟩

end LidarIdle
end PrismRosAdapter.Driver
