import PrismRosAdapter.Driver.Outcome

/-! # Runs of control commands

A run begins once `startRun` has returned. What holds between its turns holds at
the beginning and after every turn that leaves no fatal error.
-/
namespace PrismRosAdapter.Driver
open Program Runs

section Begin
variable {w : World} {config : DriverConfig} {s t : DriverState}

theorem calm_of_reopened {α : Type} {x : Driving α} (h : Within Reopened x) : Within Calm x :=
  h.mono fun _ _ h => h.toCalm

theorem calm_of_quiet {α : Type} {x : Driving α} (h : Within Quiet x) : Within Calm x :=
  h.mono fun _ _ => Confined.calm

theorem calm_verifyIdentity (info : DeviceInfo) : Within Calm (verifyIdentity w info) := by
  unfold verifyIdentity
  refine within_bind within_get (fun s => within_ite (within_pure ()) ?_)
  refine within_bind ?_ (fun equal => ?_)
  · exact within_ite (within_pure _) (within_bind (calm_of_quiet within_nextCall) fun _ =>
      within_pure _)
  · refine within_bind (calm_of_quiet (quiet_note rfl)) (fun _ => within_ite ?_ (within_throw _))
    exact within_modify fun u => ⟨List.prefix_refl _,by simp [since],fun _ => rfl,
      fun f hf => by cases f <;> exact hf,fun _ _ _ => rfl⟩

theorem quiet_requireIpv4 (name value : String) : Within Quiet (requireIpv4 name value) :=
  within_ite (within_pure ()) (within_throw _)

theorem quiet_configureLidarNetworkOnStart : Within Quiet (configureLidarNetworkOnStart w) := by
  unfold configureLidarNetworkOnStart
  refine within_bind within_get (fun s => within_ite (within_pure ()) ?_)
  refine within_bind (quiet_requireIpv4 _ _) (fun _ => ?_)
  refine within_bind (quiet_requireIpv4 _ _) (fun _ => ?_)
  refine within_bind (quiet_requireIpv4 _ _) (fun _ => ?_)
  refine within_bind (quiet_consult _ _) (fun current => within_ite (within_pure ()) ?_)
  exact within_bind (quiet_consult _ _) fun saved => within_answer _

/-- Before the first pass of starts nothing runs. -/
theorem startRun_returns (h : (startRun w).Returns (fresh config) () s) :
    ∃ b, (∀ f, b.flag f = false) ∧ (∀ f, b.active f = false) ∧ Resume w b s true := by
  obtain ⟨_,a,hreset,h⟩ := returns_bind.mp h
  obtain ⟨_,b,hopen,h⟩ := returns_bind.mp h
  obtain ⟨_,c,hkeep,h⟩ := returns_bind.mp h
  obtain ⟨info,d,hinfo,h⟩ := returns_bind.mp h
  obtain ⟨_,e,hident,h⟩ := returns_bind.mp h
  obtain ⟨_,f,htake,h⟩ := returns_bind.mp h
  obtain ⟨_,g,hboard,h⟩ := returns_bind.mp h
  obtain ⟨_,i,hmask,h⟩ := returns_bind.mp h
  obtain ⟨_,j,hcount,h⟩ := returns_bind.mp h
  obtain ⟨_,k,hobjects,h⟩ := returns_bind.mp h
  obtain ⟨_,l,hpub,h⟩ := returns_bind.mp h
  obtain ⟨_,m,hnet,h⟩ := returns_bind.mp h
  have hcontrol : ∀ {x y : DriverState} {g : Control → Control},
      (modifyControl g).Returns x () y → (∀ c, (g c).running = c.running) →
      (∀ c, (g c).config = c.config) → (∀ c, (g c).imuStream = c.imuStream) →
      (∀ c, (g c).lidarStream = c.lidarStream) → Calm x y := fun hx hr hc hi hl =>
    ((reopened_modifyControl hr hc (fun c h => by rw [hi c]; exact h)
      fun c h => by rw [hl c]; exact h).returns hx).toCalm
  have hcalm : Calm a m :=
    (((((((((((calm_of_reopened reopened_openClient).returns hopen).trans
      ((calm_of_quiet (quiet_consult _ _)).returns hkeep)).trans
      ((calm_of_quiet (quiet_consult _ _)).returns hinfo)).trans
      ((calm_verifyIdentity info).returns hident)).trans
      (hcontrol htake (fun _ => rfl) (fun _ => rfl) (fun _ => rfl) fun _ => rfl)).trans
      ((within_bind within_get fun _ => within_ite (within_throw _)
        (within_pure ())).returns hboard)).trans
      (hcontrol hmask (fun _ => rfl) (fun _ => rfl) (fun _ => rfl) fun _ => rfl)).trans
      (hcontrol hcount (fun _ => rfl) (fun _ => rfl) (fun _ => rfl) fun _ => rfl)).trans
      ((calm_of_quiet quiet_ensureStreamObjects).returns hobjects)).trans
      ((calm_of_quiet (within_publishStatus _ _)).returns hpub)).trans
      ((calm_of_quiet quiet_configureLidarNetworkOnStart).returns hnet)
  have hflag : ∀ f, a.flag f = false := by
    obtain rfl := hreset.state
    intro f
    cases f <;> rfl
  have hactive : ∀ f, a.active f = false := by
    obtain rfl := hreset.state
    intro f
    cases f <;> rfl
  exact ⟨m,fun f => (hcalm.flag f).trans (hflag f),fun f => hcalm.inactive f (hactive f),
    startConfiguredStreams_returns h⟩

theorem Calm.off (h : Calm s t) (hs : ∀ f, s.flag f = false) :
    ∀ f, t.flag f = false := fun f => (h.flag f).trans (hs f)

theorem attached_of_off (h : ∀ f, s.flag f = false) : Attached s where
  imu := fun hi => absurd ((h .boardImu).symm.trans hi) Bool.noConfusion
  lidar := fun hl => absurd ((h .lidar).symm.trans hl) Bool.noConfusion

theorem startRun_attached (h : (startRun w).Returns (fresh config) () s) : Attached s := by
  obtain ⟨b,hoff,_,hresume⟩ := startRun_returns h
  exact hresume.attached (attached_of_off hoff)

end Begin

/-! ## Streams and their objects

A new client comes with new stream objects, and only after every stream has been
stopped; so no command, however it fails, leaves a running feed without its object.
-/

/-- A change that no running feed loses its stream object in. -/
def Attaching (s t : DriverState) : Prop := Attached s → Attached t

instance : Std.Refl Attaching := ⟨fun _ => id⟩
instance : IsTrans DriverState Attaching := ⟨fun _ _ _ h h' => h' ∘ h⟩

section Attaching
variable {w : World} {s t : DriverState}

theorem attaching_quiet {α : Type} {x : Driving α} (h : Within Quiet x) : Within Attaching x :=
  h.mono fun _ _ h => h.attached

theorem attaching_stop : Within Attaching (stopConfiguredStreams w) := by
  refine within_of_leaves fun s t h => ?_
  rcases leaves_iff.mp h with ⟨e,h⟩ | ⟨_,h⟩
  · exact (stopConfiguredStreams_throws h).attached
  · exact (stopConfiguredStreams_returns h).attached

theorem attaching_start : Within Attaching (startConfiguredStreams w) := by
  refine within_of_leaves fun s t h => ?_
  rcases leaves_iff.mp h with ⟨e,h⟩ | ⟨_,h⟩
  · exact (startConfiguredStreams_throws h).attached
  · exact (startConfiguredStreams_returns h).attached

theorem attaching_modifyControl {g : Control → Control} (hr : ∀ c, (g c).running = c.running)
    (hi : ∀ c, (g c).imuStream = c.imuStream) (hl : ∀ c, (g c).lidarStream = c.lidarStream) :
    Within Attaching (modifyControl g) := by
  refine within_modify fun s hs => ⟨fun h => ?_,fun h => ?_⟩
  · rw [hr] at h
    rw [hi]
    exact hs.imu h
  · rw [hr] at h
    rw [hl]
    exact hs.lidar h

theorem attaching_setFatal {α : Type} (text : String) :
    Within Attaching (setFatal text : Driving α) :=
  within_bind (attaching_modifyControl (fun _ => rfl) (fun _ => rfl) fun _ => rfl) fun _ =>
    within_throw _

theorem attaching_restartStreams {status : Driving Unit} (hs : Within Quiet status)
    (fatalText : Failure → String) : Within Attaching (restartStreams w status fatalText) :=
  within_tryCatch (within_bind attaching_start fun _ => attaching_quiet hs) fun _ =>
    attaching_setFatal _

theorem attaching_pauseStreams {status : Driving Unit} (hs : Within Quiet status)
    (fatalText : Failure → Failure → String) : Within Attaching (pauseStreams w status fatalText) :=
  within_tryCatch attaching_stop fun _ =>
    within_bind (attaching_restartStreams hs _) fun _ => within_throw _

theorem attaching_runIdleOperation {stateText : String} {operation : Driving Unit}
    (ho : Within Quiet operation) : Within Attaching (runIdleOperation w stateText operation) := by
  refine within_bind (attaching_quiet (within_publishStatus _ _)) (fun _ => ?_)
  refine within_bind (attaching_pauseStreams quiet_publishStreamState _) (fun _ => ?_)
  refine within_bind (attaching_quiet quiet_resetResolver) (fun _ => ?_)
  have hrestart : ∀ fatalText, Within Attaching (restartStreams w publishStreamState fatalText) :=
    attaching_restartStreams quiet_publishStreamState
  refine within_tryCatch ?_ (fun _ => within_bind within_get fun _ => ?_)
  · exact within_bind (attaching_quiet ho) fun _ => within_bind (hrestart _) fun _ => within_pure _
  · exact within_ite (within_throw _) (within_bind (hrestart _) fun _ => within_throw _)

theorem attaching_performIdle (operation : IdleOperation) :
    Within Attaching (performIdle w operation) := by
  have hrun : ∀ text, Within Attaching (runIdleOperation w text (operation.program w)) :=
    fun _ => attaching_runIdleOperation (quiet_idleOperation operation)
  unfold performIdle
  split
  · exact within_ite (attaching_quiet (quiet_saveDeviceConfiguration _)) (hrun _)
  · exact hrun _

/-- Nothing runs when the client is opened again, so the new objects miss no feed. -/
theorem reconnectStreams_attached {status : Driving Unit} {fatalText : Failure → String}
    (hq : Within Quiet status) (h : (reconnectStreams w status fatalText).Leaves s t)
    (hs : ∀ f, s.flag f = false) : Attached t := by
  have hopen : ∀ {u}, Calm s u → Attached u := fun hc => attached_of_off (hc.off hs)
  have hcalm : Within Calm (reopenControlClient w) := calm_of_reopened reopened_reopenControlClient
  have hrest : Within Attaching (do startConfiguredStreams w; status) :=
    within_bind attaching_start fun _ => attaching_quiet hq
  rcases leaves_tryCatch.mp h with ⟨_,h⟩ | ⟨e,u,hthrow,h⟩
  · obtain ⟨_,b,hb,h⟩ := returns_bind.mp h
    exact hrest.returns h (hopen (hcalm.returns hb))
  · have hu : Attached u := by
      rcases throws_bind.mp hthrow with hb | ⟨_,b,hb,hthrow⟩
      · exact hopen (hcalm.throws hb)
      · exact hrest.throws hthrow (hopen (hcalm.returns hb))
    exact (attaching_setFatal _).leaves h hu

theorem attaching_synchronizeSystemTime : Within Attaching (synchronizeSystemTime w) := by
  refine within_bind (attaching_quiet quiet_checkTimeSource) (fun _ => ?_)
  refine within_bind (attaching_quiet (within_publishStatus _ _)) (fun _ => ?_)
  refine within_of_leaves fun s t h hs => ?_
  rcases leaves_bind.mp h with ⟨e,h⟩ | ⟨_,a,hpause,h⟩
  · exact (attaching_pauseStreams (within_publishStatus _ _) _).throws h hs
  have hoff : ∀ f, a.flag f = false := (pauseStreams_returns hpause).stopped rfl hs
  obtain ⟨_,b,hreset,h⟩ := total_resetResolver.leaves_bind.mp h
  have hb : ∀ f, b.flag f = false :=
    ((calm_of_quiet quiet_resetResolver).returns hreset).off hoff
  have hquery : Within Calm (query w .synchronizeSystemTime) := calm_of_quiet (quiet_query w _)
  rcases leaves_bind.mp h with ⟨e,h⟩ | ⟨_,c,hsync,h⟩
  · obtain ⟨e',c,hthrow,h⟩ := throws_tryCatch.mp h
    have hc : ∀ f, c.flag f = false := (hquery.throws hthrow).off hb
    rcases throws_bind.mp h with h | ⟨_,d,hrec,h⟩
    · exact reconnectStreams_attached (within_publishStatus _ _) h.leaves hc
    · rw [(throws_throw.mp h).2]
      exact reconnectStreams_attached (within_publishStatus _ _) hrec.leaves hc
  · have hc : ∀ f, c.flag f = false := by
      rcases returns_tryCatch.mp hsync with hsync | ⟨e,u,_,hsync⟩
      · exact (hquery.returns hsync).off hb
      · obtain ⟨_,_,_,hsync⟩ := returns_bind.mp hsync
        exact absurd hsync (by simp)
    rcases leaves_bind.mp h with ⟨e,h⟩ | ⟨_,d,hrec,h⟩
    · exact reconnectStreams_attached (within_pure ()) h.leaves hc
    · exact (attaching_quiet (within_publishStatus _ _)).leaves h
        (reconnectStreams_attached (within_pure ()) hrec.leaves hc)

theorem attaching_rollBack (previous : DriverConfig) (e : Failure) :
    Within Attaching (rollBack w previous e) := by
  refine within_bind (within_tryCatch attaching_stop fun _ => within_pure ()) (fun _ => ?_)
  refine within_bind (attaching_modifyControl (fun _ => rfl) (fun _ => rfl) fun _ => rfl)
    (fun _ => ?_)
  exact within_bind (attaching_quiet quiet_resetResolver) fun _ =>
    attaching_restartStreams quiet_publishStreamState _

theorem attaching_applyStreamCommand (command : StreamCommand) (sel : Selection) :
    Within Attaching (applyStreamCommand w command sel) := by
  refine within_bind within_get (fun s => ?_)
  refine within_bind (within_answer _) (fun _ => ?_)
  refine within_bind (attaching_quiet (within_publishStatus _ _)) (fun _ => ?_)
  refine within_bind attaching_stop (fun _ => ?_)
  refine within_bind (attaching_modifyControl (fun _ => rfl) (fun _ => rfl) fun _ => rfl)
    (fun _ => ?_)
  refine within_bind (attaching_quiet quiet_resetResolver) (fun _ => ?_)
  refine within_tryCatch ?_ (fun e => ?_)
  · exact within_bind attaching_start fun _ =>
      within_bind (attaching_quiet quiet_publishStreamState) fun _ =>
        within_bind within_get fun _ => within_pure _
  · exact within_bind (attaching_rollBack _ e) fun _ => within_throw _

theorem attaching_setRoverRtcm (enable : Bool) : Within Attaching (setRoverRtcm w enable) := by
  refine within_of_leaves fun s t h => ?_
  cases setRoverRtcm_finishes h with
  | spared h => exact h.attached
  | rover h => exact h.attached
  | resumed hc => cases hc
  | restarted hc => cases hc

theorem attaching_command (command : Command) : Within Attaching (command.program w) := by
  cases command with
  | controlStreams command sel =>
    exact within_bind (attaching_applyStreamCommand command sel) fun _ => within_pure ()
  | idle operation => exact attaching_performIdle operation
  | synchronizeSystemTime => exact attaching_synchronizeSystemTime
  | setRoverRtcm enable => exact attaching_setRoverRtcm enable
  | getDeviceInfo => exact attaching_quiet quiet_getDeviceInfo
  | lidar operation => exact attaching_quiet (within_lidarOperation quiet_consult operation)
  | ask list => exact attaching_quiet (within_forEach (quiet_query w) list)

theorem attaching_act (w : World) (s : DriverState) (action : Action) :
    Attaching s (act w s action) := by
  cases action with
  | control command => exact attaching_command command s
  | receive => exact Quiet.attached (quiet_receive s)
  | expire => exact Quiet.attached (quiet_expire s)

end Attaching

/-- Between turns a running feed has its stream object, whatever has failed. -/
theorem always_attached {w : World} {s : DriverState} (hs : Attached s) (actions : List Action) :
    Always (act w) Attached s actions :=
  always_of_step (H := fun _ _ => True) (act w) (fun t action _ => attaching_act w t action) hs
    fun _ _ _ => trivial

/-! ## Turns -/

section Turn
variable {w : World} {s : DriverState} {action : Action}

/-- What a turn without a fatal error has done. -/
theorem act_finishes (ht : (act w s action).control.fatalControlError = "") :
    Quiet s (act w s action) ∨ ∃ command, action = .control command ∧
      Finish w s (act w s action) command := by
  cases action with
  | control command => exact Or.inr ⟨command,rfl,command_finishes rfl ht⟩
  | receive => exact Or.inl (quiet_receive s)
  | expire => exact Or.inl (quiet_expire s)

theorem fatal_before (ht : (act w s action).control.fatalControlError = "") :
    s.control.fatalControlError = "" := by
  by_contra hs
  exact (onward_act s action).fatal hs ht

/-- The journal of a pause, a calm change and a pass of starts. -/
theorem saw_pass {a b t : DriverState} {ok ok' : Bool} (pause : Pause w s a ok) (calm : Calm a b)
    (resume : Resume w b t ok') (p : Entry → Bool) :
    saw p s t = (saw p s a || saw p a b || saw p b t) := by
  rw [saw_trans (pause.confined.later.trans calm.later) resume.confined.later,
    saw_trans pause.confined.later calm.later]

theorem saw_stopThrew_pass {a b t : DriverState} {ok : Bool} (pause : Pause w s a true)
    (calm : Calm a b) (resume : Resume w b t ok) (p : Running → Bool) :
    saw (stopThrew p) s t = false := by
  rw [saw_pass pause calm resume,pause.threw,calm.no_stop.2.1,resume.no_stop.2.1]
  rfl

section Rollback
variable {a b c d e t : DriverState} {ok : Bool}

theorem Rollback.off (h : Rollback w s a b c d e t ok) (hs : Attached s) :
    ∀ f, b.flag f = false := h.calm.off (h.pause.stopped rfl hs)

theorem Rollback.attached_start (h : Rollback w s a b c d e t ok) (hs : Attached s) :
    Attached c := h.start.attached (attached_of_off (h.off hs))

theorem Rollback.saw_eq (h : Rollback w s a b c d e t ok) (p : Entry → Bool) :
    saw p s t = (saw p s a || saw p a b || saw p b c || saw p c d || saw p d e || saw p e t) := by
  have hb := h.pause.confined.later.trans h.calm.later
  have hc := hb.trans h.start.confined.later
  have hd := hc.trans h.stop.confined.later
  have he := hd.trans h.restore.later
  rw [saw_trans he h.resume.confined.later,saw_trans hd h.restore.later,
    saw_trans hc h.stop.confined.later,saw_trans hb h.start.confined.later,
    saw_trans h.pause.confined.later h.calm.later]

/-- Only the second pass of stops can have thrown. -/
theorem Rollback.saw_stopThrew (h : Rollback w s a b c d e t ok) (p : Running → Bool) :
    saw (stopThrew p) s t = (!ok && p d.control.running) := by
  rw [h.saw_eq,h.pause.threw,h.calm.no_stop.2.1,h.start.no_stop.2.1,h.stop.threw,
    h.restore.no_stop.2.1,h.resume.no_stop.2.1]
  simp

end Rollback

/-- A promise about the states without a fatal error is kept by a run exactly when
none of its turns has the defect that breaks it. -/
theorem always_kept_iff {Good : DriverState → Prop} {Defect : DriverState → Action → Prop}
    (hstep : ∀ s action, Attached s → Good s →
      (act w s action).control.fatalControlError = "" →
      (Good (act w s action) ↔ ¬ Defect s action))
    (hs : Attached s) (hgood : Good s) (actions : List Action) :
    Always (act w) (fun t => t.control.fatalControlError = "" → Good t) s actions ↔
      EachStep (act w) (fun t action => (act w t action).control.fatalControlError = "" →
        ¬ Defect t action) s actions := by
  refine always_iff_eachStep (act w) (H := fun t _ => Attached t) ?_ (fun _ => hgood)
    ((always_attached hs actions).eachStep (act w))
  intro t action hat hgt
  refine ⟨fun hp hfatal => ?_,fun hc hfatal => ?_⟩
  · exact (hstep t action hat (hgt (fatal_before hfatal)) hfatal).mp (hp hfatal)
  · exact (hstep t action hat (hgt (fatal_before hfatal)) hfatal).mpr (hc hfatal)

end Turn
end PrismRosAdapter.Driver
