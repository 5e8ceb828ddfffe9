import PrismRosAdapter.Driver.Onward

/-! # How a control command can end

Every command that ends without a fatal error is one of seven sequences of
passes. What the driver promises between commands is read off these.
-/
namespace PrismRosAdapter.Driver
open Program

/-- Between two passes: no feed starts or stops, whatever else changes. -/
structure Calm (s t : DriverState) : Prop where
  later : Later s t
  events : ∀ e ∈ since s t, e.event.feed = none
  flag : ∀ f, t.flag f = s.flag f
  inactive : ∀ f, s.active f = false → t.active f = false
  silence : ∀ f : Feed, ∀ lane ∈ f.streams, t.silence lane = s.silence lane

theorem Calm.refl (s : DriverState) : Calm s s :=
  ⟨List.prefix_refl _,by simp [since_self],fun _ => rfl,fun _ => id,fun _ _ _ => rfl⟩

theorem Calm.trans {s t u : DriverState} (h : Calm s t) (h' : Calm t u) : Calm s u := by
  refine ⟨h.later.trans h'.later,?_,fun f => (h'.flag f).trans (h.flag f),
    fun f hf => h'.inactive f (h.inactive f hf),
    fun f lane hl => (h'.silence f lane hl).trans (h.silence f lane hl)⟩
  rw [since_trans h.later h'.later]
  intro e he
  rcases List.mem_append.mp he with he | he
  · exact h.events e he
  · exact h'.events e he

theorem Calm.saw_eq {s t : DriverState} (h : Calm s t) {p : Entry → Bool}
    (hp : ∀ e, e.event.feed = none → p e = false) : saw p s t = false :=
  saw_eq_false.mpr fun e he => hp e (h.events e he)

theorem Confined.calm {s t : DriverState} (h : Quiet s t) : Calm s t where
  later := h.later
  events := fun e he => Option.eq_none_iff_forall_ne_some.mpr (h.events e he).2
  flag := h.flag
  inactive := fun f hf => (h.active f).trans hf
  silence := fun f => (h.spared f id).silence

instance : Std.Refl Calm := ⟨Calm.refl⟩
instance : IsTrans DriverState Calm := ⟨fun _ _ _ => Calm.trans⟩

/-! ## What the passes leave in the journal -/

theorem Event.isStart_of_differs {e : Event} {f : Feed} (h : e.differs = some f) :
    e.isStart = true := by
  unfold differs at h
  split at h <;> first | rfl | cases h

/-- An event that starts nothing. -/
theorem not_start_of_isStart {e : Entry} (h : e.event.isStart = false) :
    startCalled e = false ∧ ∀ f, acknowledged f e = false ∧ differs f e = false := by
  refine ⟨h,fun f => ⟨decide_eq_false fun ha => ?_,decide_eq_false fun hd => ?_⟩⟩
  · rw [Event.isStart_of_acknowledged ha] at h
    cases h
  · rw [Event.isStart_of_differs hd] at h
    cases h

section Journal
variable {w : World} {s t : DriverState} {ok : Bool}

theorem Pause.no_start (h : Pause w s t ok) : saw startCalled s t = false ∧
    ∀ f, saw (acknowledged f) s t = false ∧ saw (differs f) s t = false := by
  refine ⟨?_,fun f => ⟨?_,?_⟩⟩
  · exact h.confined.saw_false fun e hk _ => (not_start_of_isStart hk).1
  · exact h.confined.saw_false fun e hk _ => ((not_start_of_isStart hk).2 f).1
  · exact h.confined.saw_false fun e hk _ => ((not_start_of_isStart hk).2 f).2

theorem Resume.no_stop (h : Resume w s t ok) : saw stopReturned s t = false ∧
    (∀ p, saw (stopThrew p) s t = false) ∧ ∀ f, saw (objectThrew f) s t = false :=
  ⟨h.confined.saw_false fun _ hk _ => (not_stop_of_isStop hk).1,
    fun p => h.confined.saw_false fun _ hk _ => (not_stop_of_isStop hk).2.1 p,
    fun f => h.confined.saw_false fun _ hk _ => (not_stop_of_isStop hk).2.2 f⟩

theorem Calm.no_start (h : Calm s t) : saw startCalled s t = false ∧
    ∀ f, saw (acknowledged f) s t = false ∧ saw (differs f) s t = false :=
  ⟨h.saw_eq fun _ he => (not_start_of_isStart (Event.isStart_of_feed he)).1,
    fun f => ⟨h.saw_eq fun _ he => ((not_start_of_isStart (Event.isStart_of_feed he)).2 f).1,
      h.saw_eq fun _ he => ((not_start_of_isStart (Event.isStart_of_feed he)).2 f).2⟩⟩

theorem Calm.no_stop (h : Calm s t) : saw stopReturned s t = false ∧
    (∀ p, saw (stopThrew p) s t = false) ∧ ∀ f, saw (objectThrew f) s t = false :=
  ⟨h.saw_eq fun _ he => (not_stop_of_isStop (Event.isStop_of_feed he)).1,
    fun p => h.saw_eq fun _ he => (not_stop_of_isStop (Event.isStop_of_feed he)).2.1 p,
    fun f => h.saw_eq fun _ he => (not_stop_of_isStop (Event.isStop_of_feed he)).2.2 f⟩

theorem Quiet.saw_stopThrew (h : Quiet s t) (p : Running → Bool) : saw (stopThrew p) s t = false :=
  (Confined.calm h).no_stop.2.1 p

end Journal

/-- The rover's flag and its setting were set together. -/
structure RoverSet (s t : DriverState) : Prop where
  later : Later s t
  events : ∀ e ∈ since s t, e.event.feed = some .rover
  rover : s.flag .rover = s.control.config.requested.rover →
    t.flag .rover = t.control.config.requested.rover
  spared : ∀ f, f ≠ .rover → Spared f s t ∧
    t.control.config.requested.flag f = s.control.config.requested.flag f
  lanes : t.control.terms.lanes = s.control.terms.lanes
  attached : Attached s → Attached t

/-- The commands that pause the streams and mean to resume them as they were. -/
def Command.resumes : Command → Bool
  | .idle _ => true
  | .synchronizeSystemTime => true
  | _ => false

/-- The terms after a stream command has selected its streams. -/
def selectedTerms (command : StreamCommand) (sel : Selection) (c : Control) : Terms :=
  { c.terms with requested := (selectStreams command sel c.config).requested }

/-- The streams were stopped, some of the selected ones were started, those were
stopped as far as possible and the earlier selection was started again. -/
structure Rollback (w : World) (s a b c d e t : DriverState) (ok : Bool) : Prop where
  pause : Pause w s a true
  calm : Calm a b
  rover : b.control.config.requested.rover = s.control.config.requested.rover
  start : Resume w b c false
  stop : Pause w c d ok
  restore : Calm d e
  same : ∀ f, e.active f = d.active f
  terms : e.control.terms = s.control.terms
  attached : Attached d → Attached e
  resume : Resume w e t true

inductive Finish (w : World) (s t : DriverState) : Command → Prop where
  | spared {c} (h : Quiet s t) : Finish w s t c
  | rover {enable} (h : RoverSet s t) : Finish w s t (.setRoverRtcm enable)
  /-- The pause failed halfway, and the streams were started again. -/
  | resumed {c a} (hc : c.resumes = true) (pause : Pause w s a false) (resume : Resume w a t true) :
      Finish w s t c
  | restarted {c a b} (hc : c.resumes = true) (pause : Pause w s a true) (calm : Calm a b)
      (hb : b.control.config.requested = s.control.config.requested)
      (resume : Resume w b t true) : Finish w s t c
  /-- The pause of a stream command failed halfway, and nothing was done about it. -/
  | abandoned {command sel} (pause : Pause w s t false) :
      Finish w s t (.controlStreams command sel)
  | switched {command sel a b} (pause : Pause w s a true) (calm : Calm a b)
      (hb : b.control.terms = selectedTerms command sel s.control) (resume : Resume w b t true) :
      Finish w s t (.controlStreams command sel)
  | rolledBack {command sel a b c d e ok} (rollback : Rollback w s a b c d e t ok) :
      Finish w s t (.controlStreams command sel)

/-! ## The parts of a command -/

section Parts
variable {w : World} {s t : DriverState}

theorem quiet_publishStreamState : Within Quiet publishStreamState :=
  within_bind within_get fun _ => within_publishStatus _ _

theorem quiet_resetResolver : Within Quiet resetResolver := within_modifyReceive _

theorem total_publishStatus (stateText error : String) : (publishStatus stateText error).Total :=
  total_modify _

theorem total_resetResolver : resetResolver.Total := total_modify _

theorem setFatal_state {α : Type} {text : String} (h : text ≠ "") (s : DriverState) :
    ((setFatal text : Driving α) s).2.control.fatalControlError ≠ "" := h

theorem setFatal_not_returns {α : Type} {text : String} {a : α} :
    ¬ (setFatal text : Driving α).Returns s a t := by
  intro h
  cases h

theorem restartStreams_returns_iff {status : Driving Unit} {fatalText : Failure → String} :
    (restartStreams w status fatalText).Returns s () t ↔
      ∃ b, (startConfiguredStreams w).Returns s () b ∧ status.Returns b () t := by
  unfold restartStreams
  rw [returns_tryCatch,returns_bind]
  constructor
  · rintro (⟨_,b,h⟩ | ⟨e,u,_,h⟩)
    · exact ⟨b,h⟩
    · exact absurd h setFatal_not_returns
  · rintro ⟨b,h⟩
    exact .inl ⟨(),b,h⟩

theorem restartStreams_returns {status : Driving Unit} {fatalText : Failure → String}
    (hs : Within Quiet status) (h : (restartStreams w status fatalText).Returns s () t) :
    Resume w s t true := by
  obtain ⟨a,hstart,hstatus⟩ := restartStreams_returns_iff.mp h
  exact (startConfiguredStreams_returns hstart).then_quiet (hs.returns hstatus)

theorem restartStreams_throws {status : Driving Unit} {fatalText : Failure → String}
    (hf : ∀ e, fatalText e ≠ "") {e : Failure}
    (h : (restartStreams w status fatalText).Throws s e t) :
    t.control.fatalControlError ≠ "" := by
  obtain ⟨e',u,_,h⟩ := throws_tryCatch.mp h
  rw [← h.state]
  exact setFatal_state (hf e') u

theorem pauseStreams_returns_iff {status : Driving Unit} {fatalText : Failure → Failure → String} :
    (pauseStreams w status fatalText).Returns s () t ↔
      (stopConfiguredStreams w).Returns s () t := by
  unfold pauseStreams
  rw [returns_tryCatch]
  refine ⟨?_,.inl⟩
  rintro (h | ⟨e,u,_,h⟩)
  · exact h
  · obtain ⟨_,_,_,h⟩ := returns_bind.mp h
    exact absurd h (by simp)

theorem pauseStreams_returns {status : Driving Unit} {fatalText : Failure → Failure → String}
    (h : (pauseStreams w status fatalText).Returns s () t) : Pause w s t true :=
  stopConfiguredStreams_returns (pauseStreams_returns_iff.mp h)

/-- A pause that throws without a fatal error has been undone. -/
theorem pauseStreams_throws_undone {status : Driving Unit} {fatalText : Failure → Failure → String}
    (hf : ∀ stop e, fatalText stop e ≠ "") {e : Failure}
    (h : (pauseStreams w status fatalText).Throws s e t) (ht : t.control.fatalControlError = "") :
    ∃ a b, (stopConfiguredStreams w).Throws s e a ∧ (startConfiguredStreams w).Returns a () b ∧
      status.Returns b () t := by
  obtain ⟨stopError,a,hstop,h⟩ := throws_tryCatch.mp h
  rcases throws_bind.mp h with h | ⟨_,_,hrestart,h⟩
  · exact absurd ht (restartStreams_throws (hf stopError) h)
  · obtain ⟨rfl,rfl⟩ := throws_throw.mp h
    obtain ⟨b,hstart,hstatus⟩ := restartStreams_returns_iff.mp hrestart
    exact ⟨a,b,hstop,hstart,hstatus⟩

theorem pauseStreams_throws {status : Driving Unit} {fatalText : Failure → Failure → String}
    (hs : Within Quiet status) (hf : ∀ stop e, fatalText stop e ≠ "") {e : Failure}
    (h : (pauseStreams w status fatalText).Throws s e t) (ht : t.control.fatalControlError = "") :
    ∃ a, Pause w s a false ∧ Resume w a t true := by
  obtain ⟨a,b,hstop,hstart,hstatus⟩ := pauseStreams_throws_undone hf h ht
  exact ⟨a,stopConfiguredStreams_throws hstop,
    (startConfiguredStreams_returns hstart).then_quiet (hs.returns hstatus)⟩

theorem quiet_modifyControl {g : Control → Control} (ht : ∀ c, (g c).terms = c.terms)
    (hr : ∀ c, (g c).running = c.running) (hi : ∀ c, (g c).imuStream = c.imuStream)
    (hl : ∀ c, (g c).lidarStream = c.lidarStream) : Within Quiet (modifyControl g) := by
  refine within_modify fun s => confined_silent ⟨rfl,rfl,rfl⟩ (ht _) ?_ ?_ fun f _ => ?_
  · intro h
    rw [← hi s.control] at h
    exact h
  · intro h
    rw [← hl s.control] at h
    exact h
  · refine ⟨congrArg (Running.flag · f) (hr s.control),?_,fun _ _ => rfl⟩
    cases f with
    | camera => exact congrArg Running.video (hr s.control)
    | boardImu => exact congrArg isActive (hi s.control)
    | lidar => exact congrArg isActive (hl s.control)
    | rover => exact congrArg Running.rover (hr s.control)

theorem quiet_saveDeviceConfiguration (r : ConfigurationRequest) :
    Within Quiet (saveDeviceConfiguration w r) :=
  within_bind (quiet_consult _ _) fun _ => within_bind (quiet_consult _ _) fun _ =>
    quiet_modifyControl (fun _ => rfl) (fun _ => rfl) (fun _ => rfl) fun _ => rfl

theorem quiet_idleOperation (operation : IdleOperation) : Within Quiet (operation.program w) := by
  cases operation with
  | setTimeSyncPort mode =>
    exact within_bind (quiet_consult _ _) fun _ => within_ite (within_throw _) (within_pure ())
  | setDeviceConfiguration request => exact quiet_saveDeviceConfiguration request
  | getLidarNetwork => exact within_bind (quiet_consult _ _) fun _ => within_pure _
  | setLidarNetwork configuration => exact within_bind (quiet_consult _ _) fun _ => within_pure _
  | _ => exact quiet_query w _

theorem restartStreams_leaves {status : Driving Unit} {fatalText : Failure → String}
    (hs : Within Quiet status) (hf : ∀ e, fatalText e ≠ "")
    (h : (restartStreams w status fatalText).Leaves s t) (ht : t.control.fatalControlError = "") :
    Resume w s t true := by
  rcases leaves_iff.mp h with ⟨e,h⟩ | ⟨_,h⟩
  · exact absurd ht (restartStreams_throws hf h)
  · exact restartStreams_returns hs h

theorem runIdleOperation_leaves {stateText : String} {operation : Driving Unit}
    (ho : Within Quiet operation) (h : (runIdleOperation w stateText operation).Leaves s t)
    (ht : t.control.fatalControlError = "") :
    (∃ a, Pause w s a false ∧ Resume w a t true) ∨
      ∃ a b, Pause w s a true ∧ Quiet a b ∧ Resume w b t true := by
  obtain ⟨_,s1,hpub,h⟩ := (total_publishStatus _ _).leaves_bind.mp h
  have hq : Quiet s s1 := (within_publishStatus _ _).returns hpub
  rcases leaves_bind.mp h with ⟨e,h⟩ | ⟨_,a,hpause,h⟩
  · obtain ⟨a,hp,hr⟩ := pauseStreams_throws quiet_publishStreamState (by simp) h ht
    exact Or.inl ⟨a,Pause.after_quiet hq hp,hr⟩
  have hpaused := Pause.after_quiet hq (pauseStreams_returns hpause)
  refine Or.inr ⟨a,?_⟩
  obtain ⟨_,s2,hreset,h⟩ := total_resetResolver.leaves_bind.mp h
  have hq2 : Quiet a s2 := quiet_resetResolver.returns hreset
  rcases leaves_tryCatch.mp h with ⟨_,h⟩ | ⟨e,s3,hthrow,h⟩
  · obtain ⟨_,b,hop,h⟩ := returns_bind.mp h
    obtain ⟨_,u,hres,h⟩ := returns_bind.mp h
    obtain ⟨_,rfl⟩ := returns_pure.mp h
    exact ⟨b,hpaused,hq2.trans (ho.returns hop),
      restartStreams_returns quiet_publishStreamState hres⟩
  · replace h := leaves_get_bind.mp h
    split at h
    · rename_i hfatal
      rw [leaves_throw.mp h] at ht
      exact absurd ht hfatal
    rename_i hfatal
    rcases throws_bind.mp hthrow with hop | ⟨_,b,_,hres⟩
    · refine ⟨s3,hpaused,hq2.trans (ho.throws hop),?_⟩
      rcases leaves_bind.mp h with ⟨e',h⟩ | ⟨_,u,hres,h⟩
      · exact absurd ht (restartStreams_throws (by simp) h)
      · rw [leaves_throw.mp h]
        exact restartStreams_returns quiet_publishStreamState hres
    · rcases throws_bind.mp hres with hres | ⟨_,_,_,h⟩
      · exact absurd (restartStreams_throws (by simp) hres) hfatal
      · exact absurd h (by simp)

theorem performIdle_finishes {operation : IdleOperation}
    (h : (performIdle w operation).Leaves s t) (ht : t.control.fatalControlError = "") :
    Finish w s t (.idle operation) := by
  have hrun : ∀ {text : String}, (runIdleOperation w text (operation.program w)).Leaves s t →
      Finish w s t (.idle operation) := by
    intro text h
    rcases runIdleOperation_leaves (quiet_idleOperation operation) h ht with
      ⟨a,hp,hr⟩ | ⟨a,b,hp,hq,hr⟩
    · exact .resumed rfl hp hr
    · exact .restarted rfl hp (Confined.calm hq)
        (hq.requested.trans hp.confined.requested) hr
  unfold performIdle at h
  split at h
  · split at h
    · exact .spared ((quiet_saveDeviceConfiguration _).leaves h)
    · exact hrun h
  · exact hrun h

/-! ## Reopening the client -/

/-- A calm change that keeps the requested feeds. -/
structure Reopened (s t : DriverState) : Prop extends Calm s t where
  requested : t.control.config.requested = s.control.config.requested

instance : Std.Refl Reopened := ⟨fun s => ⟨.refl s,rfl⟩⟩
instance : IsTrans DriverState Reopened :=
  ⟨fun _ _ _ h h' => ⟨h.toCalm.trans h'.toCalm,h'.requested.trans h.requested⟩⟩

theorem reopened_quiet {α : Type} {x : Driving α} (h : Within Quiet x) : Within Reopened x :=
  h.mono fun _ _ hq => ⟨Confined.calm hq,hq.requested⟩

theorem reopened_modifyControl {g : Control → Control} (hr : ∀ c, (g c).running = c.running)
    (hc : ∀ c, (g c).config = c.config)
    (hi : ∀ c, isActive c.imuStream = false → isActive (g c).imuStream = false)
    (hl : ∀ c, isActive c.lidarStream = false → isActive (g c).lidarStream = false) :
    Within Reopened (modifyControl g) := by
  refine within_modify fun s => ⟨⟨List.prefix_refl _,by simp [since],fun f => ?_,fun f hf => ?_,
    fun _ _ _ => rfl⟩,congrArg DriverConfig.requested (hc s.control)⟩
  · exact congrArg (Running.flag · f) (hr s.control)
  · cases f with
    | camera => exact (congrArg Running.video (hr s.control)).trans hf
    | boardImu => exact hi s.control hf
    | lidar => exact hl s.control hf
    | rover => exact (congrArg Running.rover (hr s.control)).trans hf

theorem reopened_openSession (network : Bool) : Within Reopened (openSession w network) :=
  within_bind (reopened_quiet (quiet_ask fun _ => rfl)) fun _ => within_modify fun _ =>
    ⟨⟨List.prefix_refl _,by simp [since],fun _ => rfl,fun f hf => by cases f <;> exact hf,
      fun _ _ _ => rfl⟩,rfl⟩

theorem reopened_openClient : Within Reopened (openClient w) := by
  unfold openClient
  refine within_bind within_get (fun s => ?_)
  apply within_ite
  · exact within_bind within_get fun _ => within_bind (within_answer _) fun _ =>
      reopened_openSession false
  · apply within_ite
    · exact within_bind within_get fun _ => within_bind (within_answer _) fun _ =>
        within_bind (within_answer _) fun _ => reopened_openSession true
    · refine within_bind within_get (fun s => ?_)
      refine within_ite (reopened_openSession false)
        (within_bind (reopened_quiet (quiet_consult _ _)) fun _ => ?_)
      exact within_ite (reopened_openSession false) (within_throw _)

theorem quiet_ensureStreamObjects : Within Quiet ensureStreamObjects := by
  intro s
  have h : Resuming {} (fun _ => False) s (ensureStreamObjects s).2 :=
    ensureStreamObjects_returns rfl
  exact h.confined.mono (fun _ => id) fun _ _ _ => trivial

theorem reopened_reopenControlClient : Within Reopened (reopenControlClient w) := by
  unfold reopenControlClient
  refine within_bind (reopened_modifyControl (fun _ => rfl) (fun _ => rfl) (fun _ _ => rfl)
    fun _ _ => rfl) (fun _ => ?_)
  refine within_bind (reopened_quiet (quiet_consult _ _)) (fun _ => ?_)
  refine within_bind reopened_openClient (fun _ => ?_)
  refine within_bind (reopened_quiet (quiet_consult _ _)) (fun _ => ?_)
  refine within_bind (reopened_quiet (quiet_consult _ _)) (fun info => ?_)
  refine within_bind (reopened_modifyControl (fun _ => rfl) (fun _ => rfl) (fun _ => id)
    fun _ => id) (fun _ => ?_)
  refine within_bind (within_bind within_get fun _ => within_ite (within_throw _)
    (within_pure ())) (fun _ => ?_)
  exact within_bind (reopened_modifyControl (fun _ => rfl) (fun _ => rfl) (fun _ => id)
    fun _ => id) fun _ => reopened_quiet quiet_ensureStreamObjects

theorem reconnectStreams_leaves {status : Driving Unit} {fatalText : Failure → String}
    (hs : Within Quiet status) (hf : ∀ e, fatalText e ≠ "")
    (h : (reconnectStreams w status fatalText).Leaves s t)
    (ht : t.control.fatalControlError = "") :
    ∃ b, Reopened s b ∧ Resume w b t true := by
  rcases leaves_tryCatch.mp h with ⟨_,h⟩ | ⟨e,u,_,h⟩
  · obtain ⟨_,b,hopen,h⟩ := returns_bind.mp h
    obtain ⟨_,c,hstart,hstatus⟩ := returns_bind.mp h
    exact ⟨b,reopened_reopenControlClient.returns hopen,
      (startConfiguredStreams_returns hstart).then_quiet (hs.returns hstatus)⟩
  · rw [← h] at ht
    exact absurd ht (setFatal_state (hf e) u)

theorem quiet_checkTimeSource : Within Quiet (checkTimeSource w) :=
  within_ite (within_throw _) (within_bind (quiet_consult _ _) fun _ =>
    within_ite (within_throw _) (within_pure ()))

theorem synchronizeSystemTime_finishes (h : (synchronizeSystemTime w).Leaves s t)
    (ht : t.control.fatalControlError = "") : Finish w s t .synchronizeSystemTime := by
  rcases leaves_bind.mp h with ⟨e,h⟩ | ⟨_,s1,hcheck,h⟩
  · exact .spared (quiet_checkTimeSource.throws h)
  obtain ⟨_,s2,hpub,h⟩ := (total_publishStatus _ _).leaves_bind.mp h
  have hq : Quiet s s2 :=
    (quiet_checkTimeSource.returns hcheck).trans ((within_publishStatus _ _).returns hpub)
  rcases leaves_bind.mp h with ⟨e,h⟩ | ⟨_,a,hpause,h⟩
  · obtain ⟨a,hp,hr⟩ := pauseStreams_throws (within_publishStatus _ _) (by simp) h ht
    exact .resumed rfl (Pause.after_quiet hq hp) hr
  have hpaused := Pause.after_quiet hq (pauseStreams_returns hpause)
  obtain ⟨_,s3,hreset,h⟩ := total_resetResolver.leaves_bind.mp h
  have hcalm : Reopened a s3 := (reopened_quiet quiet_resetResolver).returns hreset
  have hdone : ∀ {b c}, Reopened s3 b → Reopened b c → Resume w c t true →
      Finish w s t .synchronizeSystemTime := fun hb hc hr =>
    .restarted rfl hpaused ((hcalm.toCalm.trans hb.toCalm).trans hc.toCalm)
      (((hc.requested.trans hb.requested).trans hcalm.requested).trans
        hpaused.confined.requested) hr
  have hquery : Within Reopened (query w .synchronizeSystemTime) :=
    reopened_quiet (quiet_query w _)
  rcases leaves_bind.mp h with ⟨e,h⟩ | ⟨_,b,hsync,h⟩
  · obtain ⟨e',b,hthrow,h⟩ := throws_tryCatch.mp h
    rcases throws_bind.mp h with h | ⟨_,c,hres,h⟩
    · obtain ⟨c,hc,hr⟩ := reconnectStreams_leaves (within_publishStatus _ _) (by simp) h.leaves ht
      exact hdone (hquery.throws hthrow) hc hr
    · obtain ⟨_,rfl⟩ := throws_throw.mp h
      obtain ⟨d,hd,hr⟩ :=
        reconnectStreams_leaves (within_publishStatus _ _) (by simp) hres.leaves ht
      exact hdone (hquery.throws hthrow) hd hr
  · have hb : Reopened s3 b := by
      rcases returns_tryCatch.mp hsync with hsync | ⟨e,u,_,hsync⟩
      · exact hquery.returns hsync
      · obtain ⟨_,_,_,hsync⟩ := returns_bind.mp hsync
        exact absurd hsync (by simp)
    rcases leaves_bind.mp h with ⟨e,h⟩ | ⟨_,c,hrec,h⟩
    · obtain ⟨c,hc,hr⟩ := reconnectStreams_leaves (within_pure ()) (by simp) h.leaves ht
      exact hdone hb hc hr
    · have hq' : Quiet c t := (within_publishStatus _ _).leaves h
      have hfatal : c.control.fatalControlError = "" := by
        rw [← ht]
        exact (congrArg Terms.fatal hq'.terms).symm
      obtain ⟨d,hd,hr⟩ := reconnectStreams_leaves (within_pure ()) (by simp) hrec.leaves hfatal
      exact hdone hb hd (hr.then_quiet hq')

/-! ## Stream commands -/

theorem calm_setConfig {g : DriverConfig → DriverConfig} :
    Within Calm (modifyControl fun c => { c with config := g c.config }) :=
  within_modify fun _ => ⟨List.prefix_refl _,by simp [since],fun _ => rfl,
    fun f hf => by cases f <;> exact hf,fun _ _ _ => rfl⟩

theorem active_setConfig {g : DriverConfig → DriverConfig}
    (h : (modifyControl fun c => { c with config := g c.config }).Returns s () t) (f : Feed) :
    t.active f = s.active f := by
  obtain rfl := returns_modify.mp h
  cases f <;> rfl

theorem returns_setConfig {g : DriverConfig → DriverConfig}
    (h : (modifyControl fun c => { c with config := g c.config }).Returns s () t)
    (hm : ∀ c, (g c).lidarModel = c.lidarModel) :
    t.control.terms = { s.control.terms with requested := (g s.control.config).requested } := by
  obtain rfl := returns_modify.mp h
  simp only [Control.terms, hm]

theorem selectStreams_lidarModel (command : StreamCommand) (sel : Selection) (c : DriverConfig) :
    (selectStreams command sel c).lidarModel = c.lidarModel := by cases command <;> rfl

/-- Restoring what a stream command selected gives the request it started from. -/
theorem restoreStreams_requested {previous c : DriverConfig}
    (h : c.enableRoverRtcm = previous.enableRoverRtcm) :
    (restoreStreams previous c).requested = previous.requested := by
  simp [restoreStreams,DriverConfig.requested,h]

theorem selectStreams_requested {command : StreamCommand} {sel : Selection}
    {c c' : DriverConfig} (h : c.requested = c'.requested) :
    (selectStreams command sel c).requested = (selectStreams command sel c').requested := by
  simp only [DriverConfig.requested, Running.mk.injEq] at h
  cases command <;> simp [selectStreams,DriverConfig.requested,h]

theorem selectStreams_rover (command : StreamCommand) (sel : Selection) (c : DriverConfig) :
    (selectStreams command sel c).requested.rover = c.requested.rover := by cases command <;> rfl

theorem attached_setConfig {g : DriverConfig → DriverConfig}
    (h : (modifyControl fun c => { c with config := g c.config }).Returns s () t)
    (hs : Attached s) : Attached t := by
  obtain rfl := returns_modify.mp h
  exact ⟨hs.imu,hs.lidar⟩

theorem rollBack_leaves {previous : DriverConfig} {e : Failure}
    (h : (rollBack w previous e).Leaves s t) (ht : t.control.fatalControlError = "")
    (hp : s.control.config.requested.rover = previous.requested.rover) :
    ∃ a b ok, Pause w s a ok ∧ Calm a b ∧ (∀ f, b.active f = a.active f) ∧
      (Attached a → Attached b) ∧
      b.control.terms = { s.control.terms with requested := previous.requested } ∧
      Resume w b t true := by
  rcases leaves_bind.mp h with ⟨e',h⟩ | ⟨_,a,hstop,h⟩
  · obtain ⟨_,_,_,h⟩ := throws_tryCatch.mp h
    exact absurd h (by simp)
  have hpause : ∃ ok, Pause w s a ok := by
    rcases returns_tryCatch.mp hstop with hstop | ⟨e',u,hstop,h⟩
    · exact ⟨true,stopConfiguredStreams_returns hstop⟩
    · obtain ⟨_,rfl⟩ := returns_pure.mp h
      exact ⟨false,stopConfiguredStreams_throws hstop⟩
  obtain ⟨ok,hpause⟩ := hpause
  obtain ⟨_,b,hset,h⟩ := (total_modify _).leaves_bind.mp h
  obtain ⟨_,c,hreset,h⟩ := total_resetResolver.leaves_bind.mp h
  have hq : Quiet b c := quiet_resetResolver.returns hreset
  refine ⟨a,c,ok,hpause,?_,?_,?_,?_,?_⟩
  · exact (calm_setConfig.returns hset).trans (Confined.calm hq)
  · exact fun f => (hq.active f).trans (active_setConfig hset f)
  · exact fun ha => hq.attached (attached_setConfig hset ha)
  · have hrover : a.control.config.enableRoverRtcm = previous.enableRoverRtcm :=
      (congrArg Running.rover hpause.confined.requested).trans hp
    rw [hq.terms,returns_setConfig hset fun _ => rfl,hpause.confined.terms,
      restoreStreams_requested hrover]
  · exact restartStreams_leaves quiet_publishStreamState (by simp) h ht

theorem applyStreamCommand_finishes {command : StreamCommand} {sel : Selection}
    (h : (applyStreamCommand w command sel).Leaves s t)
    (ht : t.control.fatalControlError = "") : Finish w s t (.controlStreams command sel) := by
  replace h := leaves_get_bind.mp h
  rcases leaves_bind.mp h with ⟨e,h⟩ | ⟨_,s1,hcheck,h⟩
  · exact .spared ((within_answer _).throws h)
  obtain ⟨_,rfl⟩ := returns_answer.mp hcheck
  obtain ⟨_,s2,hpub,h⟩ := (total_publishStatus _ _).leaves_bind.mp h
  have hq : Quiet s1 s2 := (within_publishStatus _ _).returns hpub
  rcases leaves_bind.mp h with ⟨e,h⟩ | ⟨_,a,hstop,h⟩
  · exact .abandoned (Pause.after_quiet hq (stopConfiguredStreams_throws h))
  have hpaused := Pause.after_quiet hq (stopConfiguredStreams_returns hstop)
  obtain ⟨_,b,hset,h⟩ := (total_modify _).leaves_bind.mp h
  obtain ⟨_,c,hreset,h⟩ := total_resetResolver.leaves_bind.mp h
  have hqc : Quiet b c := quiet_resetResolver.returns hreset
  have hcalm : Calm a c := (calm_setConfig.returns hset).trans (Confined.calm hqc)
  have hterms : c.control.terms = selectedTerms command sel s1.control := by
    rw [hqc.terms,returns_setConfig hset (selectStreams_lidarModel command sel),
      hpaused.confined.terms,selectStreams_requested hpaused.confined.requested]
    rfl
  rcases leaves_tryCatch.mp h with ⟨_,h⟩ | ⟨e,d,hthrow,h⟩
  · obtain ⟨_,u,hstart,h⟩ := returns_bind.mp h
    obtain ⟨_,v,hstatus,h⟩ := returns_bind.mp h
    replace h := returns_get_bind.mp h
    obtain ⟨_,rfl⟩ := returns_pure.mp h
    exact .switched hpaused hcalm hterms
      ((startConfiguredStreams_returns hstart).then_quiet (quiet_publishStreamState.returns hstatus))
  have hstart : Resume w c d false := by
    rcases throws_bind.mp hthrow with hstart | ⟨_,u,_,h⟩
    · exact startConfiguredStreams_throws hstart
    · rcases throws_bind.mp h with h | ⟨_,_,_,h⟩
      · cases h
      · cases h
  have hroll : (rollBack w s1.control.config e).Leaves d t := by
    rcases leaves_bind.mp h with ⟨e',h⟩ | ⟨_,u,h,hu⟩
    · exact h.leaves
    · rw [leaves_throw.mp hu]
      exact h.leaves
  have hrover : c.control.config.requested.rover = s1.control.config.requested.rover := by
    have hc : c.control.config.requested = (selectStreams command sel s1.control.config).requested :=
      congrArg Terms.requested hterms
    rw [hc,selectStreams_rover]
  have hrover' : d.control.config.requested.rover = s1.control.config.requested.rover := by
    rw [hstart.confined.requested,hrover]
  obtain ⟨f,g,ok,hp,hcalm',hsame,hatt,hg,hr⟩ := rollBack_leaves hroll ht hrover'
  refine .rolledBack ⟨hpaused,hcalm,hrover,hstart,hp,hcalm',hsame,?_,hatt,hr⟩
  rw [hg,hstart.confined.terms,hterms]
  rfl

/-! ## Every command -/

theorem askRover_asked {enable : Bool} (h : (askRover w enable).Leaves s t) :
    ∃ event, event.feed = some .rover ∧ t = s.asked event := by
  unfold askRover at h
  split at h <;> rcases leaves_iff.mp h with ⟨e,h⟩ | ⟨a,h⟩
  · exact ⟨_,rfl,(throws_ask.mp h).2⟩
  · exact ⟨_,rfl,(returns_ask.mp h).2⟩
  · exact ⟨_,rfl,(throws_ask.mp h).2⟩
  · exact ⟨_,rfl,(returns_ask.mp h).2⟩

theorem roverSet_asked {event : Event} (he : event.feed = some .rover) :
    RoverSet s (s.asked event) where
  later := ⟨_,rfl⟩
  events := by simp [since_asked,he]
  rover := id
  spared := fun f _ => ⟨⟨rfl,active_asked s event f,fun _ _ => rfl⟩,rfl⟩
  lanes := rfl
  attached := fun hs => ⟨hs.imu,hs.lidar⟩

theorem setRoverRtcm_finishes {enable : Bool} (h : (setRoverRtcm w enable).Leaves s t) :
    Finish w s t (.setRoverRtcm enable) := by
  rcases leaves_bind.mp h with ⟨e,h⟩ | ⟨enabled,a,hask,h⟩
  · obtain ⟨event,he,rfl⟩ := askRover_asked h.leaves
    exact .rover (roverSet_asked he)
  obtain ⟨event,he,rfl⟩ := askRover_asked hask.leaves
  obtain ⟨_,u,hset,h⟩ := (total_modify _).leaves_bind.mp h
  obtain rfl := returns_modify.mp hset
  have hstate : t = { s.asked event with control := { s.control with
      running := { s.control.running with rover := enabled }
      config := { s.control.config with enableRoverRtcm := enabled } } } := by
    split at h
    · exact leaves_throw.mp h
    · exact leaves_pure.mp h
  have hasked := roverSet_asked (s := s) he
  subst hstate
  refine .rover ⟨hasked.later,hasked.events,fun _ => rfl,?_,rfl,fun hs => ⟨hs.imu,hs.lidar⟩⟩
  intro f hf
  cases f <;> first
    | exact absurd rfl hf
    | exact ⟨⟨rfl,rfl,fun _ _ => rfl⟩,rfl⟩

theorem quiet_getDeviceInfo : Within Quiet (getDeviceInfo w) :=
  within_bind (quiet_query w _) fun _ => within_bind (quiet_query w _) fun _ =>
    within_bind (quiet_consult _ _) fun _ =>
      quiet_modifyControl (fun _ => rfl) (fun _ => rfl) (fun _ => rfl) fun _ => rfl

theorem command_finishes {command : Command} (h : (command.program w).Leaves s t)
    (ht : t.control.fatalControlError = "") : Finish w s t command := by
  cases command with
  | controlStreams command sel =>
    apply applyStreamCommand_finishes _ ht
    rcases leaves_bind.mp h with ⟨e,h⟩ | ⟨_,u,h,hu⟩
    · exact h.leaves
    · rw [leaves_pure.mp hu]
      exact h.leaves
  | idle operation => exact performIdle_finishes h ht
  | synchronizeSystemTime => exact synchronizeSystemTime_finishes h ht
  | setRoverRtcm enable => exact setRoverRtcm_finishes h
  | getDeviceInfo => exact .spared (quiet_getDeviceInfo.leaves h)
  | lidar operation =>
    exact .spared ((within_lidarOperation quiet_consult operation).leaves h)
  | ask list => exact .spared ((within_forEach (quiet_query w) list).leaves h)

end Parts
end PrismRosAdapter.Driver
