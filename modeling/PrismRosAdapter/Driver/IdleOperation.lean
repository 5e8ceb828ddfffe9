import PrismRosAdapter.Driver.ControlRuns

/-! # An operation on the idle device

`runIdleOperation` stops the streams, runs the operation and starts the streams
again. Its four levels of handlers never run the operation twice, never run it
beside a stream, and never end without a fatal error before the streams have been
started again.
-/
namespace PrismRosAdapter.Driver
open Program Runs

/-- Between two commands of a run, none of which has failed fatally. -/
def Reachable (w : World) (config : DriverConfig) (s : DriverState) : Prop :=
  ∃ start actions, (startRun w).Returns (fresh config) () start ∧
    s = run (act w) start actions ∧ s.control.fatalControlError = ""

/-- None of the streams is started. -/
def Idle (s : DriverState) : Prop := s.control.running = {}

section
variable {w : World} {config : DriverConfig} {s t : DriverState}

theorem Reachable.attached (h : Reachable w config s) : Attached s := by
  obtain ⟨start,actions,hstart,rfl,_⟩ := h
  exact (always_attached (startRun_attached hstart) actions).last (act w)

theorem idle_of_off (h : ∀ f, s.flag f = false) : Idle s := by
  have hv : s.control.running.video = false := h .camera
  have hi : s.control.running.imu = false := h .boardImu
  have hl : s.control.running.lidar = false := h .lidar
  have hr : s.control.running.rover = false := h .rover
  unfold Idle
  cases hrun : s.control.running
  rw [hrun] at hv hi hl hr
  simp_all

/-- The state that the first status leaves behind. -/
def announced (stateText : String) (s : DriverState) : DriverState :=
  (publishStatus stateText "" s).2

/-- The state in which the operation runs. -/
def prepared (s : DriverState) : DriverState := (resetResolver s).2

/-- The stops succeeded, the operation ended with `result` on the idle device, and all
streams were started again. -/
def Performed {α : Type} (w : World) (stateText : String) (operation : Driving α)
    (s t : DriverState) (result : Except Failure α) : Prop :=
  ∃ a b c, (stopConfiguredStreams w).Returns (announced stateText s) () a ∧ Idle (prepared a) ∧
    operation (prepared a) = (result,b) ∧ (startConfiguredStreams w).Returns b () c ∧
    publishStreamState.Returns c () t

/-- A stop failed, and all streams were started again without running the operation. -/
def Undone (w : World) (stateText : String) (s t : DriverState) (stopError : Failure) : Prop :=
  ∃ a b, (stopConfiguredStreams w).Throws (announced stateText s) stopError a ∧
    (startConfiguredStreams w).Returns a () b ∧ publishStreamState.Returns b () t

variable {α : Type} {stateText : String} {operation : Driving α}

theorem prepared_idle {a : DriverState} (hs : Attached s)
    (h : (stopConfiguredStreams w).Returns (announced stateText s) () a) : Idle (prepared a) := by
  have hq : Quiet s (announced stateText s) := within_publishStatus stateText "" s
  have hpause := Pause.after_quiet hq (stopConfiguredStreams_returns h)
  exact idle_of_off (hpause.stopped rfl hs)

/-- What is left to do once the streams are stopped. -/
theorem runIdleOperation_paused {a : DriverState}
    (h : (stopConfiguredStreams w).Returns (announced stateText s) () a)
    {other : Driving α} (ho : other (prepared a) = operation (prepared a)) :
    runIdleOperation w stateText other s = runIdleOperation w stateText operation s := by
  unfold runIdleOperation
  have hpub : (publishStatus stateText "").Returns s () (announced stateText s) := rfl
  rw [bind_of_returns hpub,bind_of_returns hpub,bind_of_returns (pauseStreams_returns_iff.mpr h),
    bind_of_returns (pauseStreams_returns_iff.mpr h)]
  have hreset : resetResolver.Returns a () (prepared a) := rfl
  rw [bind_of_returns hreset,bind_of_returns hreset]
  exact tryCatch_congr_at (bind_congr_at ho _) _

/-- Without stopped streams the operation plays no part. -/
theorem runIdleOperation_unpaused {e : Failure} {a : DriverState}
    (h : (stopConfiguredStreams w).Throws (announced stateText s) e a) (other : Driving α) :
    runIdleOperation w stateText other s = runIdleOperation w stateText operation s := by
  unfold runIdleOperation
  have hpub : (publishStatus stateText "").Returns s () (announced stateText s) := rfl
  rw [bind_of_returns hpub,bind_of_returns hpub]
  let pause := pauseStreams w publishStreamState fun stopError e =>
    "failed to pause streams for " ++ stateText ++ ": " ++ stopError.exceptionText ++
      "; stream recovery failed: " ++ e.exceptionText
  rcases returns_or_throws pause (announced stateText s) with ⟨_,hr⟩ | ⟨e',ht⟩
  · have hstop := pauseStreams_returns_iff.mp hr
    cases hstop.symm.trans h
  · rw [bind_of_throws ht,bind_of_throws ht]

/-- A result is the operation's, after the streams were stopped and started again. -/
theorem performed_of_returns (hs : Attached s) {result : α}
    (h : (runIdleOperation w stateText operation).Returns s result t) :
    Performed w stateText operation s t (.ok result) := by
  obtain ⟨_,s1,hpub,h⟩ := returns_bind.mp h
  obtain rfl := hpub.state
  obtain ⟨_,a,hpause,h⟩ := returns_bind.mp h
  have hstop := pauseStreams_returns_iff.mp hpause
  obtain ⟨_,s2,hreset,h⟩ := returns_bind.mp h
  obtain rfl := hreset.state
  rcases returns_tryCatch.mp h with h | ⟨e,u,_,h⟩
  · obtain ⟨_,b,hop,h⟩ := returns_bind.mp h
    obtain ⟨_,u,hres,h⟩ := returns_bind.mp h
    obtain ⟨rfl,rfl⟩ := returns_pure.mp h
    obtain ⟨c,hstart,hstatus⟩ := restartStreams_returns_iff.mp hres
    exact ⟨a,b,c,hstop,prepared_idle hs hstop,hop,hstart,hstatus⟩
  · replace h := returns_get_bind.mp h
    split at h
    · exact absurd h (by simp)
    · obtain ⟨_,_,_,h⟩ := returns_bind.mp h
      exact absurd h (by simp)

theorem returns_of_performed {result : α}
    (h : Performed w stateText operation s t (.ok result)) :
    (runIdleOperation w stateText operation).Returns s result t := by
  obtain ⟨a,b,c,hstop,_,hop,hstart,hstatus⟩ := h
  have hpub : (publishStatus stateText "").Returns s () (announced stateText s) := rfl
  have hreset : resetResolver.Returns a () (prepared a) := rfl
  refine returns_bind.mpr ⟨(),_,hpub,returns_bind.mpr ⟨(),a,?_,returns_bind.mpr
    ⟨(),_,hreset,returns_tryCatch.mpr (.inl ?_)⟩⟩⟩
  · exact pauseStreams_returns_iff.mpr hstop
  · refine returns_bind.mpr ⟨result,b,hop,returns_bind.mpr ⟨(),t,?_,returns_pure.mpr ⟨rfl,rfl⟩⟩⟩
    exact restartStreams_returns_iff.mpr ⟨c,hstart,hstatus⟩

/-- A call that throws without a fatal error has started the streams again, after the
stops and after the operation, if that ran. -/
theorem recovered_of_throws (hs : Attached s) {e : Failure}
    (h : (runIdleOperation w stateText operation).Throws s e t)
    (ht : t.control.fatalControlError = "") :
    Undone w stateText s t e ∨ Performed w stateText operation s t (.error e) := by
  obtain ⟨_,s1,hpub,h⟩ := (total_publishStatus _ _).throws_bind.mp h
  obtain rfl := hpub.state
  rcases throws_bind.mp h with h | ⟨_,a,hpause,h⟩
  · exact .inl (pauseStreams_throws_undone (by simp) h ht)
  have hstop := pauseStreams_returns_iff.mp hpause
  obtain ⟨_,s2,hreset,h⟩ := total_resetResolver.throws_bind.mp h
  obtain rfl := hreset.state
  obtain ⟨operationError,b,hthrow,h⟩ := throws_tryCatch.mp h
  replace h := throws_get_bind.mp h
  split at h
  · rename_i hfatal
    obtain ⟨_,rfl⟩ := throws_throw.mp h
    exact absurd ht hfatal
  rename_i hfatal
  rcases throws_bind.mp hthrow with hop | ⟨_,u,_,hres⟩
  · rcases throws_bind.mp h with h | ⟨_,u,hres,h⟩
    · exact absurd ht (restartStreams_throws (by simp) h)
    · obtain ⟨rfl,rfl⟩ := throws_throw.mp h
      obtain ⟨c,hstart,hstatus⟩ := restartStreams_returns_iff.mp hres
      exact .inr ⟨a,b,c,hstop,prepared_idle hs hstop,hop,hstart,hstatus⟩
  · rcases throws_bind.mp hres with hres | ⟨_,_,_,hres⟩
    · exact absurd (restartStreams_throws (by simp) hres) hfatal
    · exact absurd hres (by simp)

/-- Whatever throws, the operation matters in one state at most, in which no stream is
started; a result is the operation's, and the streams were started again after it; and
a throw without a fatal error comes after they were started again, too. -/
theorem idle_operation_once (hs : Reachable w config s) (stateText : String)
    (operation : Driving α) :
    let p := runIdleOperation w stateText operation
    ((∀ other, runIdleOperation w stateText other s = p s) ∨
      ∃ idle, Idle idle ∧ ∀ other : Driving α, other idle = operation idle →
        runIdleOperation w stateText other s = p s) ∧
    (∀ result t, p.Returns s result t ↔ Performed w stateText operation s t (.ok result)) ∧
    ∀ e t, p.Throws s e t → t.control.fatalControlError = "" →
      Undone w stateText s t e ∨ Performed w stateText operation s t (.error e) := by
  intro p
  have hattached := hs.attached
  refine ⟨?_,fun result t => ⟨performed_of_returns hattached,returns_of_performed⟩,
    fun e t => recovered_of_throws hattached⟩
  rcases returns_or_throws (stopConfiguredStreams w) (announced stateText s) with
    ⟨_,hstop⟩ | ⟨e,hstop⟩
  · exact .inr ⟨_,prepared_idle hattached hstop,fun other => runIdleOperation_paused hstop⟩
  · exact .inl (runIdleOperation_unpaused hstop)

/-- Reading the hotspot's state right after the start, with every call answered. -/
theorem idle_operation_once_hotspot :
    let s := (startRun {} (fresh {})).2
    ∃ t, Performed {} "reading the hotspot" (query {} .wifiHotspotStatus) s t (.ok ()) := by
  intro s
  have hs : Reachable {} {} s :=
    ⟨s,[],returns_of_isOk (by decide +kernel),rfl,by decide +kernel⟩
  obtain ⟨_,hresult,_⟩ := idle_operation_once hs "reading the hotspot" (query {} .wifiHotspotStatus)
  exact ⟨_,(hresult () _).mp (returns_of_isOk (by decide +kernel))⟩

end
end PrismRosAdapter.Driver
