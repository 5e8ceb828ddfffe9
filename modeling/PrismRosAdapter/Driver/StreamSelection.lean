import PrismRosAdapter.Driver.StreamFlags

/-! # A stream command selects all or nothing

The enable flags change between a pass of stops and a pass of starts. A command
that returns has changed them as its request says and everything enabled runs; a
command that throws, from wherever, has put them back or never touched them.
-/
namespace PrismRosAdapter.Driver
open Program Runs

/-- The streams whose enable flag is set. -/
def Running.selection (r : Running) : Selection := ⟨r.video,r.imu,r.lidar⟩
def DriverConfig.enabled (c : DriverConfig) : Selection := c.requested.selection

/-- What a command makes of the enabled streams. -/
def StreamCommand.select (command : StreamCommand) (sel enabled : Selection) : Selection :=
  match command with
  | .start => ⟨enabled.camera || sel.camera,enabled.boardImu || sel.boardImu,
      enabled.lidar || sel.lidar⟩
  | .stop => ⟨enabled.camera && !sel.camera,enabled.boardImu && !sel.boardImu,
      enabled.lidar && !sel.lidar⟩
  | .restart => enabled

def StreamState.enabled (r : StreamState) : Selection :=
  ⟨r.cameraEnabled,r.boardImuEnabled,r.lidarEnabled⟩
def StreamState.active (r : StreamState) : Selection :=
  ⟨r.cameraActive,r.boardImuActive,r.lidarActive⟩

theorem selectStreams_enabled (command : StreamCommand) (sel : Selection) (c : DriverConfig) :
    (selectStreams command sel c).enabled = command.select sel c.enabled := by
  cases command <;> rfl

theorem restoreStreams_enabled (previous c : DriverConfig) :
    (restoreStreams previous c).enabled = previous.enabled := rfl

/-- The change leaves the enable flags as they are. -/
def SameSelection (s t : DriverState) : Prop :=
  t.control.config.enabled = s.control.config.enabled

instance : Std.Refl SameSelection := ⟨fun _ => rfl⟩
instance : IsTrans DriverState SameSelection := ⟨fun _ _ _ h h' => h'.trans h⟩

section
variable {w : World} {s t : DriverState}

theorem Confined.sameSelection {A : Feed → Prop} {K : Event → Prop} (h : Confined A K s t) :
    SameSelection s t := congrArg Running.selection h.requested

theorem sameSelection_quiet {α : Type} {x : Driving α} (h : Within Quiet x) :
    Within SameSelection x := h.mono fun _ _ => Confined.sameSelection

theorem sameSelection_stop : Within SameSelection (stopConfiguredStreams w) := by
  refine within_of_leaves fun s t h => ?_
  rcases leaves_iff.mp h with ⟨e,h⟩ | ⟨_,h⟩
  · exact (stopConfiguredStreams_throws h).confined.sameSelection
  · exact (stopConfiguredStreams_returns h).confined.sameSelection

theorem sameSelection_start : Within SameSelection (startConfiguredStreams w) := by
  refine within_of_leaves fun s t h => ?_
  rcases leaves_iff.mp h with ⟨e,h⟩ | ⟨_,h⟩
  · exact (startConfiguredStreams_throws h).confined.sameSelection
  · exact (startConfiguredStreams_returns h).confined.sameSelection

theorem sameSelection_restartStreams (fatalText : Failure → String) :
    Within SameSelection (restartStreams w publishStreamState fatalText) := by
  refine within_tryCatch ?_ (fun _ => ?_)
  · exact within_bind sameSelection_start fun _ => sameSelection_quiet quiet_publishStreamState
  · exact within_bind (within_modify fun _ => Eq.refl _) fun _ => within_throw _

/-- However the rollback ends, the enable flags are back before anything is started. -/
theorem rollBack_enabled {previous : DriverConfig} {e : Failure}
    (h : (rollBack w previous e).Leaves s t) : t.control.config.enabled = previous.enabled := by
  rcases leaves_bind.mp h with ⟨e',h⟩ | ⟨_,a,_,h⟩
  · obtain ⟨_,_,_,h⟩ := throws_tryCatch.mp h
    exact absurd h (by simp)
  obtain ⟨_,b,hset,h⟩ := (total_modify _).leaves_bind.mp h
  have hb : b.control.config.enabled = previous.enabled := by
    obtain rfl := returns_modify.mp hset
    exact restoreStreams_enabled previous a.control.config
  have hrest : Within SameSelection (do
      resetResolver
      restartStreams w publishStreamState fun e' =>
        "stream control failed: " ++ e.exceptionText ++
          "; previous stream state recovery failed: " ++ e'.exceptionText) :=
    within_bind (sameSelection_quiet quiet_resetResolver) fun _ => sameSelection_restartStreams _
  exact (hrest.leaves h).trans hb

/-- Every throw leaves the enable flags as they were before the call. -/
theorem applyStreamCommand_throws {command : StreamCommand} {sel : Selection} {e : Failure}
    (h : (applyStreamCommand w command sel).Throws s e t) : SameSelection s t := by
  replace h := throws_get_bind.mp h
  rcases throws_bind.mp h with h | ⟨_,a,hcheck,h⟩
  · exact (within_answer _).throws h
  obtain ⟨_,rfl⟩ := returns_answer.mp hcheck
  obtain ⟨_,b,hpub,h⟩ := (total_publishStatus _ _).throws_bind.mp h
  have hb : SameSelection a b := (sameSelection_quiet (within_publishStatus _ _)).returns hpub
  rcases throws_bind.mp h with h | ⟨_,c,_,h⟩
  · exact (sameSelection_stop.throws h).trans hb
  -- From here on the flags may have changed, and only the rollback brings them back.
  obtain ⟨_,d,_,h⟩ := (total_modify _).throws_bind.mp h
  obtain ⟨_,f,_,h⟩ := total_resetResolver.throws_bind.mp h
  obtain ⟨e',g,_,h⟩ := throws_tryCatch.mp h
  rcases throws_bind.mp h with h | ⟨_,i,h,hi⟩
  · exact rollBack_enabled h.leaves
  · rw [(throws_throw.mp hi).2]
    exact rollBack_enabled h.leaves

/-- A return has selected the streams, and what is enabled is what runs. -/
theorem applyStreamCommand_returns {command : StreamCommand} {sel : Selection}
    {result : StreamState} (hs : Attached s)
    (h : (applyStreamCommand w command sel).Returns s result t) :
    t.control.config.enabled = command.select sel s.control.config.enabled ∧
      AsRequested t ∧ result = streamState t.control := by
  replace h := returns_get_bind.mp h
  obtain ⟨_,a,hcheck,h⟩ := returns_bind.mp h
  obtain ⟨_,rfl⟩ := returns_answer.mp hcheck
  obtain ⟨_,b,hpub,h⟩ := returns_bind.mp h
  have hq : Quiet a b := (within_publishStatus _ _).returns hpub
  obtain ⟨_,c,hstop,h⟩ := returns_bind.mp h
  have hpause := Pause.after_quiet hq (stopConfiguredStreams_returns hstop)
  obtain ⟨_,d,hset,h⟩ := returns_bind.mp h
  have hd : d.control.config.enabled = command.select sel a.control.config.enabled := by
    have hc : c.control.config.enabled = a.control.config.enabled :=
      hpause.confined.sameSelection
    obtain rfl := returns_modify.mp hset
    rw [← hc]
    exact selectStreams_enabled command sel c.control.config
  obtain ⟨_,f,hreset,h⟩ := returns_bind.mp h
  have hqf : Quiet d f := quiet_resetResolver.returns hreset
  rcases returns_tryCatch.mp h with h | ⟨e,g,_,h⟩
  · obtain ⟨_,g,hstart,h⟩ := returns_bind.mp h
    obtain ⟨_,i,hstatus,h⟩ := returns_bind.mp h
    replace h := returns_get_bind.mp h
    obtain ⟨rfl,rfl⟩ := returns_pure.mp h
    have hresume : Resume w f t true :=
      (startConfiguredStreams_returns hstart).then_quiet
        (quiet_publishStreamState.returns hstatus)
    have hoff : ∀ feed, f.flag feed = false :=
      ((calm_setConfig.returns hset).trans (Confined.calm hqf)).off (hpause.stopped rfl hs)
    refine ⟨?_,hresume.asRequested_of_off hoff,rfl⟩
    exact (hresume.confined.sameSelection.trans hqf.sameSelection).trans hd
  · obtain ⟨_,_,_,h⟩ := returns_bind.mp h
    exact absurd h (by simp)

/-- In every state that a run reaches between commands, fatal errors among them: a stream
command that returns has updated the enable flags as requested, and reports all enabled
streams as active and no other; one that throws leaves the enable flags as they were. -/
theorem stream_command_atomic {config : DriverConfig} {start : DriverState}
    (h : (startRun w).Returns (fresh config) () start) (actions : List Action)
    (command : StreamCommand) (sel : Selection) :
    let s := run (act w) start actions
    (∀ result t, (applyStreamCommand w command sel).Returns s result t →
      t.control.config.enabled = command.select sel s.control.config.enabled ∧
      result = streamState t.control ∧ result.enabled = t.control.config.enabled ∧
      result.active = result.enabled) ∧
    ∀ e t, (applyStreamCommand w command sel).Throws s e t →
      t.control.config.enabled = s.control.config.enabled := by
  intro s
  have hs : Attached s := (always_attached (startRun_attached h) actions).last (act w)
  refine ⟨fun result t hr => ?_,fun e t ht => applyStreamCommand_throws ht⟩
  obtain ⟨hselect,hasked,rfl⟩ := applyStreamCommand_returns hs hr
  exact ⟨hselect,rfl,rfl,congrArg Running.selection hasked⟩

/-- The camera is stopped, and the board IMU alone is enabled and active. -/
theorem stream_command_atomic_stop : ∃ result t,
    (applyStreamCommand {} .stop ⟨true,false,false⟩).Returns (startRun {} (fresh {})).2 result t ∧
      t.control.config.enabled = ⟨false,true,false⟩ ∧ result.active = ⟨false,true,false⟩ := by
  have hstart : (startRun {}).Returns (fresh {}) () _ := returns_of_isOk (by decide +kernel)
  have hresult : (applyStreamCommand {} .stop ⟨true,false,false⟩ (startRun {} (fresh {})).2).1 =
      .ok ⟨false,true,false,false,true,false,.mid360⟩ := by decide +kernel
  have hreturns := returns_of_fst hresult
  have hall := (stream_command_atomic hstart [] .stop ⟨true,false,false⟩).1
  rw [run_nil] at hall
  obtain ⟨_,_,henabled,hactive⟩ := hall _ _ hreturns
  exact ⟨_,_,hreturns,henabled.symm,hactive⟩

/-- The LiDAR refuses to start: it stays disabled, and the others run as before. -/
example :
    let w : World := { lidarStart := fun _ => .error (.sdk "transfer failed") }
    let s := (startRun w (fresh {})).2
    let r := applyStreamCommand w .start ⟨false,false,true⟩ s
    r.1.isOk = false ∧ r.2.control.config = s.control.config ∧
      r.2.control.running = s.control.running := by decide +kernel

end
end PrismRosAdapter.Driver
