import PrismRosAdapter.Driver.LidarPower
import PrismRosAdapter.Program.Metered

/-! # A batch of control commands

`processControls` works through a whole batch; whether one of its commands has failed
fatally is looked at only afterwards. A command throws without having called the SDK
only where it checks its own request first.
-/
namespace PrismRosAdapter.Driver
open Program Runs

/-- What each command of the batch has ended with, and the state after the last one. -/
def processControls (w : World) :
    List Command → DriverState → List (Except Failure Unit) × DriverState
  | [], s => ([], s)
  | command :: rest, s =>
    let (result,t) := command.program w s
    let (results,u) := processControls w rest t
    (result :: results,u)

/-- The state that one command of a batch leaves to the next. -/
def execute (w : World) (s : DriverState) (command : Command) : DriverState :=
  (command.program w s).2

/-- The batch `first ++ [command]` has ended with an error that cost no SDK call. -/
def RejectedLast (w : World) (s : DriverState) (first : List Command) (command : Command) : Prop :=
  (∃ e, (processControls w (first ++ [command]) s).1.getLast? = some (.error e)) ∧
    (processControls w (first ++ [command]) s).2.link.calls =
      (processControls w first s).2.link.calls

/-- Whatever follows a fatal error in the batch is rejected. -/
def FatalStops (w : World) (s : DriverState) (batch : List Command) : Prop :=
  ∀ first command, first ++ [command] <+: batch →
    (processControls w first s).2.control.fatalControlError ≠ "" → RejectedLast w s first command

/-- The checks that come before a command's first SDK call. -/
def refuses (w : World) (c : Control) : Command → Bool
  | .controlStreams command sel => !(checkSelection command sel c.config).isOk
  | .synchronizeSystemTime => w.rkLocal
  | .lidar operation => !operation.sent c
  | _ => false

abbrev calls (s : DriverState) : ℕ := s.link.calls
abbrev Dials : DriverState → DriverState → Prop := Onto calls

section Calls
variable {w : World} {α : Type} {event : Except Failure α → Event} {reply : ℕ → Except Failure α}

theorem dials_silent {f : DriverState → DriverState} (h : ∀ s, calls (f s) = calls s) :
    Within Dials (modify f : Driving Unit) := within_modify fun s => (h s).ge

theorem dials_modifyControl (g : Control → Control) : Within Dials (modifyControl g) :=
  dials_silent fun _ => rfl
theorem dials_modifyHealth (g : Health.SensorDataHealth → Health.SensorDataHealth) :
    Within Dials (modifyHealth g) := dials_silent fun _ => rfl
theorem dials_modifyReceive (g : Receive → Receive) : Within Dials (modifyReceive g) :=
  dials_silent fun _ => rfl
theorem dials_publishStatus (state error : String) : Within Dials (publishStatus state error) :=
  dials_silent fun _ => rfl
theorem dials_note {event : Event} : Within Dials (note event) := dials_silent fun _ => rfl
theorem dials_nextTick : Within Dials nextTick := fun _ => Nat.le_refl _
theorem dials_steadyNowNs : Within Dials (steadyNowNs w) :=
  within_bind dials_nextTick fun _ => within_pure _

theorem charged_nextCall : Charged calls nextCall := fun _ => Nat.lt_succ_self _

theorem charged_recorded {x : Driving α} (hx : Charged calls x) :
    Charged calls (recorded event x) := hx

theorem charged_ask : Charged calls (ask event reply) :=
  charged_recorded (charged_bind charged_nextCall fun _ => within_answer _)

theorem charged_consult (name : String) (reply : ℕ → Except Failure α) :
    Charged calls (consult name reply) := charged_ask
theorem charged_query (q : Query) : Charged calls (query w q) := charged_ask

theorem receives_dials (w : World) : Receives w Dials where
  addIssue := fun _ _ => dials_modifyHealth _
  observe := fun _ _ _ _ _ => within_sampling
    (within_bind dials_steadyNowNs fun _ => dials_modifyHealth _) fun _ => dials_note
  checkRoverRtcm := fun _ => within_sampling
    (within_bind (within_bind dials_steadyNowNs fun _ => dials_modifyHealth _) fun _ =>
      within_bind (dials_modifyHealth _) fun _ => dials_modifyHealth _) fun _ => dials_note
  receive := fun _ => dials_modifyReceive _
  tick := dials_nextTick
  call := charged_nextCall.within
  accumulate := fun _ _ => Nat.le_refl _
  boardTime := fun _ => within_ite (within_bind dials_steadyNowNs fun _ =>
    dials_modifyReceive _) (within_pure ())
  cameraTime := fun _ => within_ite (within_bind dials_steadyNowNs fun _ =>
    dials_modifyReceive _) (within_pure ())
  ask := fun _ => charged_ask.within
  note := fun _ => dials_note

theorem dials_resetHealth (stream : Health.Stream) (rate : ℚ) (silenceNs : UInt64) :
    Within Dials (resetHealth w stream rate silenceNs) :=
  within_bind dials_steadyNowNs fun _ => dials_modifyHealth _

/-! ## Stops -/

variable {s : DriverState}

theorem paid_recorded {x : Driving α} (hx : Paid calls x s) : Paid calls (recorded event x) s where
  onto := hx.onto
  thrown := fun h => by
    obtain ⟨t,hthrow,rfl⟩ := throws_andThen.mp h
    have hlt : calls s < calls t := hx.thrown hthrow
    exact hlt

theorem paid_modify (f : DriverState → DriverState) (h : ∀ s, calls (f s) = calls s) :
    Paid calls (modify f : Driving Unit) s :=
  paid_of_total (dials_silent h) (total_modify f) s

theorem paid_modifyControl (g : Control → Control) : Paid calls (modifyControl g) s :=
  paid_modify _ fun _ => rfl

theorem charged_hostCall (reply : ℕ → Except Failure Unit) : Charged calls (hostCall reply) :=
  charged_bind charged_nextCall fun _ => within_answer _

theorem paid_rkStop {active : Bool} {deactivate : Driving Unit}
    {event : Except Failure Unit → Event} {reply : ℕ → Except Failure Unit}
    (hd : ∀ s, Paid calls deactivate s) :
    Paid calls (rkStop w active deactivate event reply) s := by
  refine paid_ite (fun _ => paid_bind (hd s) fun _ t _ => Charged.paid ?_ t) fun _ => paid_pure () s
  refine charged_bind charged_nextCall (fun call => within_ite charged_ask.within ?_)
  exact within_pure ()

theorem paid_imuStreamStop : Paid calls (imuStreamStop w) s :=
  paid_recorded (paid_ite (fun _ => paid_get_bind (paid_rkStop fun _ => paid_modifyControl _))
    fun _ => (charged_hostCall _).paid s)

theorem paid_lidarStreamStop : Paid calls (lidarStreamStop w) s :=
  paid_recorded (paid_ite (fun _ => paid_get_bind (paid_rkStop fun _ => paid_modifyControl _))
    fun _ => (charged_hostCall _).paid s)

theorem paid_stopConfiguredStreams (s : DriverState) : Paid calls (stopConfiguredStreams w) s := by
  unfold stopConfiguredStreams
  refine paid_bind (paid_modify _ fun _ => rfl) (fun _ t _ => ?_)
  refine paid_bind (paid_get_bind (paid_ite (fun _ => ?_) fun _ => paid_pure () t)) (fun _ u _ => ?_)
  · exact (charged_bind charged_ask fun _ => dials_modifyControl _).paid t
  refine paid_bind (paid_get_bind (paid_ite (fun _ => ?_) fun _ => paid_pure () u)) (fun _ v _ => ?_)
  · refine paid_bind paid_lidarStreamStop (fun _ a _ => ?_)
    refine paid_bind (paid_modifyControl _) (fun _ b _ => ?_)
    exact paid_of_total ((receives_dials w).accumulate _) (fun _ _ _ h => by cases h) b
  refine paid_get_bind (paid_ite (fun _ => ?_) fun _ => paid_ite (fun _ => ?_) fun _ => paid_pure () v)
  · exact paid_bind paid_imuStreamStop fun _ a _ => paid_modifyControl _
  · exact (charged_bind charged_ask fun _ => dials_modifyControl _).paid v

/-! ## Starts -/

theorem dials_armCamera (fps : ℚ) : Within Dials (armCamera w fps) :=
  within_bind within_get fun _ => within_bind (within_forEach (fun _ => dials_resetHealth _ _ _) _)
    fun _ => dials_resetHealth _ _ _

theorem dials_armImu : Within Dials (armImu w) :=
  within_bind within_get fun _ => within_bind (dials_resetHealth _ _ _) fun _ =>
    dials_resetHealth _ _ _

theorem dials_armLidar : Within Dials (armLidar w) :=
  within_bind within_get fun _ => within_bind (dials_resetHealth _ _ _) fun _ =>
    dials_resetHealth _ _ _

theorem paid_rkStart {active : Bool} (reply : ℕ → Except Failure α) {keep : α → Driving Unit}
    (hk : ∀ status, Within Dials (keep status)) (refuses : α → Bool) (text : String) :
    Paid calls (rkStart active event reply keep refuses text) s := by
  refine paid_ite (fun _ => paid_pure () s) fun _ => Charged.paid ?_ s
  refine charged_bind charged_ask (fun status => within_bind (hk status) fun _ => ?_)
  exact within_ite (within_throw _) (within_pure ())

theorem paid_imuStreamStart (sensors rate : UInt32) :
    Paid calls (imuStreamStart w sensors rate) s :=
  paid_recorded (paid_ite (fun _ => paid_get_bind (paid_rkStart _ (fun _ =>
    dials_modifyControl _) _ _)) fun _ => (charged_hostCall _).paid s)

theorem paid_lidarStreamStart (model : SdkLidarModel) : Paid calls (lidarStreamStart w model) s :=
  paid_recorded (paid_ite (fun _ => paid_get_bind (paid_rkStart _ (fun _ =>
    dials_modifyControl _) _ _)) fun _ => (charged_hostCall _).paid s)

theorem paid_startCamera (s : DriverState) : Paid calls (startCamera w) s := by
  refine paid_get_bind (paid_ite (fun _ => Charged.paid ?_ s) fun _ => paid_pure () s)
  refine charged_bind charged_ask (fun video => within_bind (dials_modifyControl _) fun _ => ?_)
  exact within_ite (within_throw _) (dials_armCamera _)

theorem paid_startRover (s : DriverState) : Paid calls (startRover w) s := by
  refine paid_get_bind (paid_ite (fun _ => ?_) fun _ => paid_pure () s)
  refine paid_bind (paid_of_total (dials_resetHealth _ _ _) total_resetHealth s)
    (fun _ t _ => ?_)
  refine paid_bind (paid_modify _ fun _ => rfl) (fun _ u _ => Charged.paid ?_ u)
  refine charged_bind charged_ask (fun enabled => within_bind (dials_modifyControl _) fun _ => ?_)
  exact within_ite (within_throw _) (within_pure ())

/-- With its stream object at hand a start has nothing to throw before its call. -/
theorem paid_startBoardImu (h : Ensured s) : Paid calls (startBoardImu w) s := by
  refine paid_get_bind (paid_ite (fun hc => ?_) fun _ => paid_pure () s)
  rw [Bool.and_eq_true] at hc
  refine paid_ite (fun hn => ?_) (fun _ => ?_)
  · rw [← Option.not_isSome,h.imu hc.1] at hn
    cases hn
  · refine paid_bind (paid_of_total dials_armImu total_armImu s) (fun _ t _ => ?_)
    exact paid_bind (paid_imuStreamStart _ _) fun _ u _ => paid_modifyControl _

theorem paid_startLidar (h : Ensured s) : Paid calls (startLidar w) s := by
  refine paid_get_bind (paid_ite (fun hc => ?_) fun _ => paid_pure () s)
  rw [Bool.and_eq_true] at hc
  refine paid_ite (fun hn => ?_) (fun _ => ?_)
  · rw [← Option.not_isSome,h.lidar hc.1] at hn
    cases hn
  · refine paid_bind (paid_of_total ((receives_dials w).accumulate _)
      (fun _ _ _ h => by cases h) s) (fun _ t _ => ?_)
    refine paid_bind (paid_of_total dials_armLidar total_armLidar t)
      (fun _ u _ => ?_)
    exact paid_bind (paid_lidarStreamStart _) fun _ v _ => paid_modifyControl _

theorem paid_establishDeviceTimeReference (s : DriverState) :
    Paid calls (establishDeviceTimeReference w) s := by
  have hframe : Charged calls (awaitReferenceFrame w) :=
    charged_bind charged_ask fun frame => within_bind within_get fun t =>
      within_bind ((receives_dials w).dispatches.handleImuFrame _ frame) fun handled =>
        within_whenever ((receives_dials w).reads.handleVideoFrame frame)
  refine paid_get_bind (paid_ite (fun _ => paid_pure () s) fun _ => ?_)
  refine paid_bind (paid_of_total dials_nextTick (fun _ _ _ h => by cases h) s) (fun tick t _ => ?_)
  refine paid_bind (paid_repeatWhile (fun u => ?_) _ t) (fun _ v _ => paid_modify _ fun _ => rfl)
  exact paid_tryCatch (hframe.paid u) fun _ => within_ite (within_pure ()) (within_throw _)

theorem paid_startConfiguredStreams (s : DriverState) :
    Paid calls (startConfiguredStreams w) s := by
  unfold startConfiguredStreams
  refine paid_bind (paid_modifyControl _) (fun _ a hens => ?_)
  have ha : Ensured a := (ensureStreamObjects_returns (w := w) hens).ensured
  refine paid_bind (paid_startCamera a) (fun _ b hcam => ?_)
  have hb : Ensured b := ha.confined (startCamera_returns hcam).confined
  refine paid_bind (paid_startBoardImu hb) (fun _ c himu => ?_)
  have hc : Ensured c := hb.confined (startBoardImu_returns himu).confined
  refine paid_bind (paid_establishDeviceTimeReference c) (fun _ d href => ?_)
  have hd : Ensured d := hc.confined ((quiet_establishDeviceTimeReference w).returns href)
  refine paid_bind (paid_startRover d) (fun _ e hrov => ?_)
  exact paid_startLidar (hd.confined (startRover_returns hrov).confined)

/-! ## Commands -/

theorem charged_askRover (enable : Bool) : Charged calls (askRover w enable) := by
  cases enable with
  | true => exact charged_ask
  | false => exact charged_ask

theorem keeps_dials (w : World) : Keeps w Dials where
  control := fun _ => dials_modifyControl _
  fatal := fun _ => dials_modifyControl _
  status := dials_publishStatus
  resolver := dials_modifyReceive _
  plain := fun name reply => (charged_consult name reply).within
  query := fun q => (charged_query q).within
  rover := fun enable => (charged_askRover enable).within
  opened := fun _ => within_bind charged_ask.within fun _ => dials_silent fun _ => rfl
  start := within_of_paid paid_startConfiguredStreams
  stop := within_of_paid paid_stopConfiguredStreams

theorem paid_publishStatus (state error : String) : Paid calls (publishStatus state error) s :=
  paid_modify _ fun _ => rfl

theorem paid_resetResolver : Paid calls resetResolver s := paid_modify _ fun _ => rfl

theorem paid_publishStreamState : Paid calls publishStreamState s :=
  paid_get_bind (paid_publishStatus _ _)

theorem paid_restartStreams (fatalText : Failure → String) :
    Paid calls (restartStreams w publishStreamState fatalText) s :=
  paid_tryCatch (paid_bind (paid_startConfiguredStreams s) fun _ _ _ => paid_publishStreamState)
    fun _ => within_bind (dials_modifyControl _) fun _ => within_throw _

theorem paid_pauseStreams (fatalText : Failure → Failure → String)
    (hf : ∀ stop e, fatalText stop e ≠ "") :
    Paid calls (pauseStreams w publishStreamState fatalText) s := by
  refine paid_tryCatch (paid_stopConfiguredStreams s) (fun e => ?_)
  exact within_bind ((keeps_dials w).upholds.restartStreams (keeps_dials w).upholds.publishStreamState (hf e))
    fun _ => within_throw e

theorem paid_runIdleOperation (stateText : String) {operation : Driving Unit}
    (ho : ∀ s, Paid calls operation s) : Paid calls (runIdleOperation w stateText operation) s := by
  refine paid_bind (paid_publishStatus _ _) (fun _ a _ => ?_)
  refine paid_bind (paid_pauseStreams _ (by simp)) (fun _ b _ => ?_)
  refine paid_bind paid_resetResolver (fun _ c _ => paid_tryCatch ?_ (fun e => ?_))
  · exact paid_bind (ho c) fun _ d _ => paid_bind (paid_restartStreams _) fun _ _ _ => paid_pure _ _
  · refine within_bind within_get (fun t => within_ite (within_throw e) ?_)
    exact within_bind (within_of_paid fun _ => paid_restartStreams _) fun _ => within_throw e

theorem charged_saveDeviceConfiguration (request : ConfigurationRequest) :
    Charged calls (saveDeviceConfiguration w request) :=
  charged_bind (charged_consult _ _) fun _ => within_bind (charged_consult _ _).within fun _ =>
    dials_modifyControl _

theorem charged_idleOperation (operation : IdleOperation) :
    Charged calls (operation.program w) := by
  cases operation with
  | setTimeSyncPort mode =>
    exact charged_bind (charged_consult _ _) fun _ => within_ite (within_throw _) (within_pure ())
  | setDeviceConfiguration request => exact charged_saveDeviceConfiguration request
  | getLidarNetwork => exact charged_bind (charged_consult _ _) fun _ => within_pure _
  | setLidarNetwork configuration =>
    exact charged_bind (charged_consult _ _) fun _ => within_pure _
  | _ => exact charged_query _

theorem paid_performIdle (operation : IdleOperation) : Paid calls (performIdle w operation) s := by
  have hidle : ∀ stateText, Paid calls (runIdleOperation w stateText (operation.program w)) s :=
    fun stateText => paid_runIdleOperation stateText (charged_idleOperation operation).paid
  unfold performIdle
  split
  · exact paid_ite (fun _ => (charged_saveDeviceConfiguration _).paid s) fun _ => hidle _
  · exact hidle _

/-- In a host build the time source is asked first. -/
theorem charged_synchronizeSystemTime (hw : w.rkLocal = false) :
    Charged calls (synchronizeSystemTime w) := by
  have hcheck : Charged calls (checkTimeSource w) := by
    unfold checkTimeSource
    rw [if_neg (by simp [hw])]
    exact charged_bind (charged_consult _ _) fun _ => within_ite (within_throw _) (within_pure ())
  have hreconnect : ∀ {status : Driving Unit}, Within Dials status → ∀ fatalText,
      Within Dials (reconnectStreams w status fatalText) := fun hs fatalText =>
    within_tryCatch (within_bind ((keeps_dials w).upholds.reopenControlClient hw) fun _ =>
      within_bind (keeps_dials w).start fun _ => hs)
      fun _ => within_bind (dials_modifyControl _) fun _ => within_throw _
  refine charged_bind hcheck (fun _ => within_bind (dials_publishStatus _ _) fun _ => ?_)
  refine within_bind ((keeps_dials w).upholds.pauseStreams (dials_publishStatus _ _) (by simp)) (fun _ => ?_)
  refine within_bind (keeps_dials w).resolver (fun _ => ?_)
  refine within_bind (within_tryCatch (charged_query _).within fun e => ?_) (fun _ => ?_)
  · exact within_bind (hreconnect (dials_publishStatus _ _) _) fun _ => within_throw e
  · exact within_bind (hreconnect (within_pure ()) _) fun _ => dials_publishStatus _ _

theorem paid_applyStreamCommand {command : StreamCommand} {sel : Selection}
    (h : (checkSelection command sel s.control.config).isOk = true) :
    Paid calls (applyStreamCommand w command sel) s := by
  refine paid_get_bind (paid_bind ⟨Nat.le_refl _,fun hthrow => ?_⟩ fun _ a _ => ?_)
  · rw [(throws_answer.mp hthrow).1] at h
    cases h
  refine paid_bind (paid_publishStatus _ _) (fun _ b _ => ?_)
  refine paid_bind (paid_stopConfiguredStreams b) (fun _ c _ => ?_)
  refine paid_bind (paid_modifyControl _) (fun _ d _ => ?_)
  refine paid_bind paid_resetResolver (fun _ e _ => paid_tryCatch ?_ (fun operationError => ?_))
  · refine paid_bind (paid_startConfiguredStreams e) (fun _ f _ => ?_)
    exact paid_bind paid_publishStreamState fun _ g _ => paid_get_bind (paid_pure _ g)
  · exact within_bind ((keeps_dials w).upholds.rollBack _ operationError) fun _ => within_throw _

/-- A command that passes its own checks throws only after an SDK call. -/
theorem paid_command {command : Command} (h : refuses w s.control command = false) :
    Paid calls (command.program w) s := by
  cases command with
  | controlStreams command sel =>
    refine paid_bind (paid_applyStreamCommand ?_) (fun _ t _ => paid_pure () t)
    simpa only [refuses, Bool.not_eq_false'] using h
  | idle operation => exact paid_performIdle operation
  | synchronizeSystemTime => exact (charged_synchronizeSystemTime h).paid s
  | setRoverRtcm enable =>
    refine Charged.paid (charged_bind (charged_askRover enable) fun enabled => ?_) s
    exact within_bind (dials_modifyControl _) fun _ => within_ite (within_throw _) (within_pure ())
  | getDeviceInfo =>
    refine Charged.paid (charged_bind (charged_query _) fun _ => ?_) s
    exact within_bind (charged_query _).within fun _ =>
      within_bind (charged_consult _ _).within fun _ => dials_modifyControl _
  | lidar operation =>
    have hcalls := (sends_lidarOperation (w := w) operation s).calls
    simp only [refuses, Bool.not_eq_false'] at h
    rw [h] at hcalls
    have hlt : calls s < calls ((Command.lidar operation).program w s).2 :=
      lt_of_lt_of_eq (Nat.lt_succ_self _) hcalls.symm
    exact ⟨hlt.le,fun hthrow => hthrow.state ▸ hlt⟩
  | ask list => exact paid_forEach (fun q t => (charged_query q).paid t) list s

theorem throws_of_refuses {command : Command} (h : refuses w s.control command = true) :
    ∃ e, (command.program w).Throws s e s := by
  cases command with
  | controlStreams command sel =>
    cases hcheck : checkSelection command sel s.control.config with
    | ok _ =>
      rw [refuses,hcheck] at h
      cases h
    | error e =>
      refine ⟨e,throws_bind.mpr (.inl (throws_get_bind.mpr (throws_bind.mpr (.inl ?_))))⟩
      exact throws_answer.mpr ⟨hcheck,rfl⟩
  | synchronizeSystemTime =>
    refine ⟨.adapter "sync_system_time requires an external USB host; RK-local shares the RK clock",
      throws_bind.mpr (.inl ?_)⟩
    have hrk : w.rkLocal = true := h
    unfold checkTimeSource
    rw [if_pos hrk]
    exact throws_throw.mpr ⟨rfl,rfl⟩
  | lidar operation => exact (sends_lidarOperation operation s).refused (by simpa [refuses] using h)
  | _ => cases h

/-! ## Batches -/

/-- The command ends with an error that cost no SDK call. -/
def Rejected (w : World) (s : DriverState) (command : Command) : Prop :=
  ∃ e t, (command.program w).Throws s e t ∧ calls t = calls s

theorem rejected_iff {command : Command} :
    Rejected w s command ↔ refuses w s.control command = true := by
  constructor
  · rintro ⟨e,t,hthrow,hcalls⟩
    by_contra hrefuses
    rw [Bool.not_eq_true] at hrefuses
    have hlt : calls s < calls t := (paid_command hrefuses).thrown hthrow
    omega
  · intro h
    obtain ⟨e,hthrow⟩ := throws_of_refuses h
    exact ⟨e,s,hthrow,rfl⟩

theorem processControls_snoc (first : List Command) (command : Command) (s : DriverState) :
    processControls w (first ++ [command]) s =
      ((processControls w first s).1 ++ [(command.program w (processControls w first s).2).1],
        execute w (processControls w first s).2 command) := by
  induction first generalizing s with
  | nil => rfl
  | cons head rest ih =>
    have h := ih (head.program w s).2
    simp only [List.cons_append, processControls, h]

theorem processControls_state (batch : List Command) (s : DriverState) :
    (processControls w batch s).2 = run (execute w) s batch := by
  induction batch generalizing s with
  | nil => rfl
  | cons head rest ih => exact ih (head.program w s).2

theorem rejectedLast_iff {first : List Command} {command : Command} :
    RejectedLast w s first command ↔ Rejected w (run (execute w) s first) command := by
  unfold RejectedLast Rejected
  rw [processControls_snoc,processControls_state,List.getLast?_concat]
  generalize run (execute w) s first = t
  constructor
  · rintro ⟨⟨e,he⟩,hcalls⟩
    exact ⟨e,execute w t command,Prod.ext (Option.some.inj he) rfl,hcalls⟩
  · rintro ⟨e,u,hthrow,hcalls⟩
    obtain rfl : execute w t command = u := hthrow.state
    exact ⟨⟨e,congrArg (some ·.1) hthrow⟩,hcalls⟩

/-- A fatal error stops the rest of the batch exactly when every command behind it fails a
check of its own. -/
theorem fatal_stops_iff (w : World) (s : DriverState) (batch : List Command) :
    FatalStops w s batch ↔ EachStep (execute w) (fun t command =>
      t.control.fatalControlError ≠ "" → refuses w t.control command = true) s batch := by
  refine forall₃_congr fun first command _ => ?_
  rw [processControls_state,rejectedLast_iff,rejected_iff]

end Calls

/-- The cameras cannot be started a second time. -/
def cameraStartsOnce : World where
  startVideo := fun call => if call < 4 then .ok ⟨true,30⟩ else .error (.sdk "device busy")

/-- The query of the hotspot leaves a fatal error, and the `hello` queued behind it is sent
and answered. -/
theorem hello_behind_fatal_error :
    ¬ FatalStops cameraStartsOnce (startRun cameraStartsOnce (fresh {})).2
      [.idle .getWifiHotspot, .ask [.plain "hello"]] := by
  intro h
  obtain ⟨⟨e,he⟩,_⟩ := h [.idle .getWifiHotspot] (.ask [.plain "hello"])
    (List.prefix_refl _) (by decide +kernel)
  have hok : (processControls cameraStartsOnce [.idle .getWifiHotspot, .ask [.plain "hello"]]
      (startRun cameraStartsOnce (fresh {})).2).1.getLast?.map Except.isOk = some true := by
    decide +kernel
  rw [List.cons_append,List.nil_append] at he
  rw [he] at hok
  cases hok

end PrismRosAdapter.Driver
