import PrismRosAdapter.Driver.Quiet
import PrismRosAdapter.Driver.Run

/-! # What every control command keeps

Whatever the driver's elementary actions keep, every command keeps: it is made of
starts, stops, plain calls, new sessions and changes of the control data.
-/
namespace PrismRosAdapter.Driver
open Program

/-! ## Starts and stops -/

/-- The streams whose samples come in frames. -/
def sampled (stream : Health.Stream) : Bool :=
  stream ∈ .transport :: .roverRtcm :: captureStreams

theorem sampled_camera (i : Fin 4) : sampled (cameraStream i) = true := by
  revert i
  decide

/-- The actions that the calls of the stream objects are made of; none of them changes the
configuration. -/
structure Toggles (R : DriverState → DriverState → Prop) : Prop where
  control : ∀ {g : Control → Control}, (∀ c, (g c).config = c.config) → Within R (modifyControl g)
  call : Within R nextCall
  ask : ∀ {α : Type} {event : Except Failure α → Event} {reply : ℕ → Except Failure α},
    (∀ a, (event a).feed ≠ none) → Within R (Driver.ask event reply)
  recorded : ∀ {α : Type} {event : Except Failure α → Event} {x : Driving α},
    (∀ a, (event a).feed ≠ none) → Within R x → Within R (Driver.recorded event x)

/-- The actions that starts and stops are made of. -/
structure Adjusts (w : World) (R : DriverState → DriverState → Prop) : Prop extends Toggles R where
  reset : ∀ {stream}, sampled stream = true → ∀ rate silenceNs,
    Within R (resetHealth w stream rate silenceNs)
  resetCounter : Within R (modifyHealth fun h => h.resetCounter .roverRtcm .lostBytes)
  disable : Within R disableCaptureHealth
  accumulate : ∀ {α : Type} (x : Lidar.Accumulating α), Within R (Driver.accumulate x)

section Adjusts
variable {w : World} {R : DriverState → DriverState → Prop} [Std.Refl R] [IsTrans DriverState R]

theorem Toggles.hostCall (h : Toggles R) (reply : ℕ → Except Failure Unit) :
    Within R (Driver.hostCall reply) := within_bind h.call fun _ => within_answer _

theorem Toggles.rkStart (h : Toggles R) {α : Type} {active : Bool}
    {event : Except Failure α → Event} {reply : ℕ → Except Failure α} {keep : α → Driving Unit}
    {refuses : α → Bool} {text : String} (he : ∀ a, (event a).feed ≠ none)
    (hk : ∀ status, Within R (keep status)) :
    Within R (Driver.rkStart active event reply keep refuses text) := by
  refine within_ite (within_pure ()) (within_bind (h.ask he) fun status => ?_)
  exact within_bind (hk status) fun _ => within_ite (within_throw _) (within_pure ())

theorem Toggles.rkStop (h : Toggles R) {active : Bool} {deactivate : Driving Unit}
    {event : Except Failure Unit → Event} {reply : ℕ → Except Failure Unit}
    (he : ∀ a, (event a).feed ≠ none) (hd : Within R deactivate) :
    Within R (Driver.rkStop w active deactivate event reply) := by
  refine within_ite (within_bind hd fun _ => ?_) (within_pure ())
  exact within_bind h.call fun call => within_ite (h.ask he) (within_pure ())

theorem Toggles.imuStreamStart (h : Toggles R) (sensors rate : UInt32) :
    Within R (Driver.imuStreamStart w sensors rate) :=
  h.recorded (fun _ => Option.some_ne_none _) (within_ite (within_bind within_get fun _ =>
    h.rkStart (fun _ => Option.some_ne_none _) fun _ => h.control fun _ => rfl) (h.hostCall _))

theorem Toggles.lidarStreamStart (h : Toggles R) (model : SdkLidarModel) :
    Within R (Driver.lidarStreamStart w model) :=
  h.recorded (fun _ => Option.some_ne_none _) (within_ite (within_bind within_get fun _ =>
    h.rkStart (fun _ => Option.some_ne_none _) fun _ => h.control fun _ => rfl) (h.hostCall _))

theorem Toggles.imuStreamStop (h : Toggles R) : Within R (Driver.imuStreamStop w) :=
  h.recorded (fun _ => Option.some_ne_none _) (within_ite (within_bind within_get fun _ =>
    h.rkStop (fun _ => Option.some_ne_none _) (h.control fun _ => rfl)) (h.hostCall _))

theorem Toggles.lidarStreamStop (h : Toggles R) : Within R (Driver.lidarStreamStop w) :=
  h.recorded (fun _ => Option.some_ne_none _) (within_ite (within_bind within_get fun _ =>
    h.rkStop (fun _ => Option.some_ne_none _) (h.control fun _ => rfl)) (h.hostCall _))

theorem Adjusts.startCamera (h : Adjusts w R) : Within R (Driver.startCamera w) := by
  refine within_bind within_get (fun s => within_ite ?_ (within_pure ()))
  refine within_bind (h.ask fun _ => Option.some_ne_none _) (fun video => ?_)
  refine within_bind (h.control fun _ => rfl) (fun _ => within_ite (within_throw _) ?_)
  refine within_bind within_get (fun t => ?_)
  exact within_bind (within_forEach (fun i => h.reset (sampled_camera i) _ _) _) fun _ =>
    h.reset (by decide) _ _

theorem Adjusts.startBoardImu (h : Adjusts w R) : Within R (Driver.startBoardImu w) := by
  refine within_bind within_get (fun s => within_ite (within_ite (within_throw _) ?_)
    (within_pure ()))
  refine within_bind (within_bind within_get fun t => ?_) (fun _ => ?_)
  · exact within_bind (h.reset (by decide) _ _) fun _ => h.reset (by decide) _ _
  · exact within_bind (h.imuStreamStart _ _) fun _ => h.control fun _ => rfl

theorem Adjusts.startRover (h : Adjusts w R) : Within R (Driver.startRover w) := by
  refine within_bind within_get (fun s => within_ite ?_ (within_pure ()))
  refine within_bind (h.reset (by decide) _ _) (fun _ => within_bind h.resetCounter fun _ => ?_)
  refine within_bind (h.ask fun _ => Option.some_ne_none _) (fun enabled => ?_)
  exact within_bind (h.control fun _ => rfl) fun _ => within_ite (within_throw _) (within_pure ())

theorem Adjusts.startLidar (h : Adjusts w R) : Within R (Driver.startLidar w) := by
  refine within_bind within_get (fun s => within_ite (within_ite (within_throw _) ?_)
    (within_pure ()))
  refine within_bind (h.accumulate _) (fun _ => within_bind (within_bind within_get fun t => ?_)
    (fun _ => ?_))
  · exact within_bind (h.reset (by decide) _ _) fun _ => h.reset (by decide) _ _
  · exact within_bind (h.lidarStreamStart _) fun _ => h.control fun _ => rfl

theorem Adjusts.stopConfiguredStreams (h : Adjusts w R) :
    Within R (Driver.stopConfiguredStreams w) := by
  unfold Driver.stopConfiguredStreams
  refine within_bind h.disable (fun _ => within_bind ?_ fun _ => within_bind ?_ fun _ => ?_)
  · refine within_bind within_get (fun s => within_ite ?_ (within_pure ()))
    exact within_bind (h.ask fun _ => Option.some_ne_none _) fun _ => h.control fun _ => rfl
  · refine within_bind within_get (fun s => within_ite ?_ (within_pure ()))
    exact within_bind h.lidarStreamStop fun _ => within_bind (h.control fun _ => rfl) fun _ => h.accumulate _
  · refine within_bind within_get (fun s => within_ite ?_ (within_ite ?_ (within_pure ())))
    · exact within_bind h.imuStreamStop fun _ => h.control fun _ => rfl
    · exact within_bind (h.ask fun _ => Option.some_ne_none _) fun _ => h.control fun _ => rfl

omit [Std.Refl R] [IsTrans DriverState R] in
theorem Adjusts.askRover (h : Adjusts w R) (enable : Bool) : Within R (Driver.askRover w enable) :=
  within_ite (h.ask fun _ => Option.some_ne_none _) (h.ask fun _ => Option.some_ne_none _)

/-- A pass of starts reads frames while it waits for a clock reference. -/
theorem Adjusts.startConfiguredStreams (h : Adjusts w R)
    (hr : Within R (establishDeviceTimeReference w)) :
    Within R (Driver.startConfiguredStreams w) :=
  within_bind (h.control fun _ => rfl) fun _ => within_bind h.startCamera fun _ =>
    within_bind h.startBoardImu fun _ => within_bind hr fun _ =>
      within_bind h.startRover fun _ => h.startLidar

end Adjusts

/-- The same with any change of the control data. -/
structure Switches (w : World) (R : DriverState → DriverState → Prop) : Prop where
  control : ∀ g, Within R (modifyControl g)
  reset : ∀ stream rate silenceNs, Within R (resetHealth w stream rate silenceNs)
  resetCounter : Within R (modifyHealth fun h => h.resetCounter .roverRtcm .lostBytes)
  disable : Within R disableCaptureHealth
  accumulate : ∀ {α : Type} (x : Lidar.Accumulating α), Within R (Driver.accumulate x)
  call : Within R nextCall
  ask : ∀ {α : Type} {event : Except Failure α → Event} {reply : ℕ → Except Failure α},
    (∀ a, (event a).feed ≠ none) → Within R (Driver.ask event reply)
  recorded : ∀ {α : Type} {event : Except Failure α → Event} {x : Driving α},
    (∀ a, (event a).feed ≠ none) → Within R x → Within R (Driver.recorded event x)

section Switches
variable {w : World} {R : DriverState → DriverState → Prop} [Std.Refl R] [IsTrans DriverState R]

omit [Std.Refl R] [IsTrans DriverState R] in
theorem Switches.adjusts (h : Switches w R) : Adjusts w R where
  control := fun _ => h.control _
  reset := fun _ => h.reset _
  resetCounter := h.resetCounter
  disable := h.disable
  accumulate := h.accumulate
  call := h.call
  ask := h.ask
  recorded := h.recorded

theorem Switches.imuStreamStart (h : Switches w R) (sensors rate : UInt32) :
    Within R (Driver.imuStreamStart w sensors rate) := h.adjusts.imuStreamStart sensors rate

theorem Switches.lidarStreamStart (h : Switches w R) (model : SdkLidarModel) :
    Within R (Driver.lidarStreamStart w model) := h.adjusts.lidarStreamStart model

theorem Switches.startCamera (h : Switches w R) : Within R (Driver.startCamera w) :=
  h.adjusts.startCamera

theorem Switches.startBoardImu (h : Switches w R) : Within R (Driver.startBoardImu w) :=
  h.adjusts.startBoardImu

theorem Switches.startRover (h : Switches w R) : Within R (Driver.startRover w) :=
  h.adjusts.startRover

theorem Switches.startLidar (h : Switches w R) : Within R (Driver.startLidar w) :=
  h.adjusts.startLidar

theorem Switches.stopConfiguredStreams (h : Switches w R) :
    Within R (Driver.stopConfiguredStreams w) := h.adjusts.stopConfiguredStreams

omit [Std.Refl R] [IsTrans DriverState R] in
theorem Switches.askRover (h : Switches w R) (enable : Bool) : Within R (Driver.askRover w enable) :=
  h.adjusts.askRover enable

theorem Switches.startConfiguredStreams (h : Switches w R)
    (hr : Within R (establishDeviceTimeReference w)) :
    Within R (Driver.startConfiguredStreams w) := h.adjusts.startConfiguredStreams hr

end Switches

/-! ## Commands -/

/-- The settings that no command changes. -/
def DriverConfig.fixed (c : DriverConfig) : DriverConfig :=
  { c with
    enableRoverRtcm := false
    enableCamera := false
    enableBoardImu := false
    enableLidar := false
    cameraFps := 0
    imuRateHz := 0 }

theorem selectStreams_fixed (command : StreamCommand) (sel : Selection) (c : DriverConfig) :
    (selectStreams command sel c).fixed = c.fixed := by cases command <;> rfl

/-- A change of the control data that starts and stops nothing. -/
structure Modest (g : Control → Control) : Prop where
  fatal : ∀ c, (g c).fatalControlError = c.fatalControlError
  running : ∀ c, (g c).running = c.running
  fixed : ∀ c, (g c).config.fixed = c.config.fixed
  objects : ∀ c, isActive (g c).imuStream = isActive c.imuStream ∧
    isActive (g c).lidarStream = isActive c.lidarStream

theorem modest_of {g : Control → Control} (h : ∀ c, (g c).running = c.running ∧
    (g c).fatalControlError = c.fatalControlError ∧ (g c).config.fixed = c.config.fixed ∧
      (g c).imuStream = c.imuStream ∧ (g c).lidarStream = c.lidarStream) : Modest g where
  fatal c := (h c).2.1
  running c := (h c).1
  fixed c := (h c).2.2.1
  objects c := ⟨congrArg isActive (h c).2.2.2.1,congrArg isActive (h c).2.2.2.2⟩

/-- A stream object that is made anew is not active. -/
theorem modest_ensured : Modest fun c => { c with
    imuStream := if c.config.enableBoardImu && c.imuStream.isNone then some {} else c.imuStream
    lidarStream :=
      if c.config.enableLidar && c.lidarStream.isNone then some {} else c.lidarStream } where
  fatal _ := rfl
  running _ := rfl
  fixed _ := rfl
  objects c := by
    have hsame : ∀ (enabled : Bool) (object : Option StreamObject),
        isActive (if enabled && object.isNone then some {} else object) = isActive object := by
      intro enabled object
      cases enabled <;> cases object <;> rfl
    exact ⟨hsame _ _,hsame _ _⟩

/-- What the commands that keep their client are made of, one step above `Keeps`. -/
structure Performs (w : World) (R : DriverState → DriverState → Prop) : Prop where
  control : ∀ {g : Control → Control}, Modest g → Within R (modifyControl g)
  fatal : ∀ {text : String}, text ≠ "" →
    Within R (modifyControl fun c => { c with fatalControlError := text })
  status : ∀ state error, Within R (publishStatus state error)
  resolver : Within R resetResolver
  plain : ∀ {α : Type} (name : String) (reply : ℕ → Except Failure α),
    Within R (consult name reply)
  query : ∀ q, Within R (Driver.query w q)
  rover : ∀ enable, Within R (setRoverRtcm w enable)
  start : Within R (startConfiguredStreams w)
  stop : Within R (stopConfiguredStreams w)

/-- The same with new clients. -/
structure Upholds (w : World) (R : DriverState → DriverState → Prop) : Prop
    extends Performs w R where
  opened : Within R (openClient w)
  detach : w.rkLocal = false →
    Within R (modifyControl fun c => { c with imuStream := none, lidarStream := none })

section Upholds
variable {w : World} {R : DriverState → DriverState → Prop} [Std.Refl R] [IsTrans DriverState R]

theorem Performs.setFatal (h : Performs w R) {α : Type} {text : String} (hne : text ≠ "") :
    Within R (Driver.setFatal text : Driving α) :=
  within_bind (h.fatal hne) fun _ => within_throw _

theorem Performs.publishStreamState (h : Performs w R) : Within R Driver.publishStreamState :=
  within_bind within_get fun _ => h.status _ _

theorem Performs.restartStreams (h : Performs w R) {status : Driving Unit}
    {fatalText : Failure → String}
    (hs : Within R status) (hf : ∀ e, fatalText e ≠ "") :
    Within R (Driver.restartStreams w status fatalText) :=
  within_tryCatch (within_bind h.start fun _ => hs) fun e => h.setFatal (hf e)

theorem Performs.pauseStreams (h : Performs w R) {status : Driving Unit}
    {fatalText : Failure → Failure → String}
    (hs : Within R status) (hf : ∀ stop e, fatalText stop e ≠ "") :
    Within R (Driver.pauseStreams w status fatalText) :=
  within_tryCatch h.stop fun e =>
    within_bind (h.restartStreams hs (hf e)) fun _ => within_throw _

theorem Performs.runIdleOperation (h : Performs w R) {stateText : String} {operation : Driving Unit}
    (ho : Within R operation) : Within R (Driver.runIdleOperation w stateText operation) := by
  unfold Driver.runIdleOperation
  refine within_bind (h.status _ _) (fun _ => ?_)
  refine within_bind (h.pauseStreams h.publishStreamState (by simp)) (fun _ => ?_)
  refine within_bind h.resolver (fun _ => ?_)
  apply within_tryCatch
  · refine within_bind ho (fun _ => ?_)
    exact within_bind (h.restartStreams h.publishStreamState (by simp))
      fun _ => within_pure _
  · intro e
    refine within_bind within_get (fun s => within_ite (within_throw e) ?_)
    exact within_bind (h.restartStreams h.publishStreamState (by simp)) fun _ =>
      within_throw e

omit [Std.Refl R] in
theorem Performs.saveDeviceConfiguration (h : Performs w R) (r : ConfigurationRequest) :
    Within R (Driver.saveDeviceConfiguration w r) :=
  within_bind (h.plain _ _) fun _ => within_bind (h.plain _ _) fun _ =>
    h.control (modest_of fun _ => ⟨rfl,rfl,rfl,rfl,rfl⟩)

theorem Performs.setTimeSyncPortMode (h : Performs w R) (mode : UInt32) :
    Within R (Driver.setTimeSyncPortMode w mode) :=
  within_bind (h.plain _ _) fun _ => within_ite (within_throw _) (within_pure ())

theorem Performs.idleOperation (h : Performs w R) (operation : IdleOperation) :
    Within R (operation.program w) := by
  cases operation with
  | setTimeSyncPort mode => exact h.setTimeSyncPortMode mode
  | setDeviceConfiguration request => exact h.saveDeviceConfiguration request
  | getLidarNetwork => exact within_bind (h.plain _ _) fun _ => within_pure _
  | setLidarNetwork configuration =>
    exact within_bind (h.plain _ _) fun _ => within_pure _
  | _ => exact h.query _

theorem Performs.performIdle (h : Performs w R) (operation : IdleOperation) :
    Within R (Driver.performIdle w operation) := by
  unfold Driver.performIdle
  split
  · exact within_ite (h.saveDeviceConfiguration _)
      (h.runIdleOperation (h.idleOperation _))
  · exact h.runIdleOperation (h.idleOperation _)

theorem within_requireSensorBoard (info : DeviceInfo) (text : String) :
    Within R (requireSensorBoard info text) :=
  within_bind within_get fun _ => within_ite (within_throw _) (within_pure ())

theorem Upholds.reopenControlClient (h : Upholds w R) (hw : w.rkLocal = false) :
    Within R (Driver.reopenControlClient w) := by
  unfold Driver.reopenControlClient
  refine within_bind (h.detach hw) (fun _ => ?_)
  refine within_bind (h.plain _ _) (fun _ => ?_)
  refine within_bind h.opened (fun _ => ?_)
  refine within_bind (h.plain _ _) (fun _ => ?_)
  refine within_bind (h.plain _ _) (fun info => ?_)
  refine within_bind (h.control (modest_of fun _ => ⟨rfl,rfl,rfl,rfl,rfl⟩)) (fun _ => ?_)
  refine within_bind (within_requireSensorBoard info _) (fun _ => ?_)
  exact within_bind (h.control (modest_of fun _ => ⟨rfl,rfl,rfl,rfl,rfl⟩)) fun _ =>
    h.control modest_ensured

theorem Upholds.reconnectStreams (h : Upholds w R) (hw : w.rkLocal = false)
    {status : Driving Unit} {fatalText : Failure → String}
    (hs : Within R status) (hf : ∀ e, fatalText e ≠ "") :
    Within R (Driver.reconnectStreams w status fatalText) :=
  within_tryCatch
    (within_bind (h.reopenControlClient hw) fun _ => within_bind h.start fun _ => hs)
    fun e => h.setFatal (hf e)

theorem Performs.checkTimeSource (h : Performs w R) : Within R (Driver.checkTimeSource w) :=
  within_ite (within_throw _) (within_bind (h.plain _ _) fun _ =>
    within_ite (within_throw _) (within_pure ()))

/-- In the RK-local build nothing follows the first check. -/
theorem within_checkTimeSource_bind {α : Type} {f : Unit → Driving α}
    (hc : Within R (Driver.checkTimeSource w))
    (hf : w.rkLocal = false → Within R (f ())) : Within R (Driver.checkTimeSource w >>= f) := by
  cases hw : w.rkLocal with
  | false => exact within_bind hc fun _ => hf hw
  | true =>
    refine within_of_leaves fun s t h => ?_
    rw [Driver.checkTimeSource,if_pos hw] at h
    rw [leaves_throw_bind.mp h]
    exact Std.Refl.refl s

theorem Upholds.synchronizeSystemTime (h : Upholds w R) : Within R (Driver.synchronizeSystemTime w) := by
  unfold Driver.synchronizeSystemTime
  refine within_checkTimeSource_bind h.checkTimeSource (fun hw => ?_)
  refine within_bind (h.status _ _) (fun _ => ?_)
  refine within_bind (h.pauseStreams (h.status _ _) (by simp)) (fun _ => ?_)
  refine within_bind h.resolver (fun _ => ?_)
  refine within_bind (within_tryCatch (h.query _) fun e => ?_) (fun _ => ?_)
  · exact within_bind (h.reconnectStreams hw (h.status _ _) (by simp)) fun _ =>
      within_throw _
  · exact within_bind (h.reconnectStreams hw (within_pure ()) (by simp)) fun _ =>
      h.status _ _

theorem Performs.rollBack (h : Performs w R) (previous : DriverConfig) (e : Failure) :
    Within R (Driver.rollBack w previous e) := by
  unfold Driver.rollBack
  refine within_bind (within_tryCatch h.stop fun _ => within_pure ()) (fun _ => ?_)
  refine within_bind (h.control (modest_of fun _ => ⟨rfl,rfl,rfl,rfl,rfl⟩)) (fun _ => ?_)
  refine within_bind h.resolver (fun _ => ?_)
  exact h.restartStreams h.publishStreamState (by simp)

theorem Performs.applyStreamCommand (h : Performs w R) (command : StreamCommand) (sel : Selection) :
    Within R (Driver.applyStreamCommand w command sel) := by
  unfold Driver.applyStreamCommand
  refine within_bind within_get (fun s => ?_)
  refine within_bind (within_answer _) (fun _ => ?_)
  refine within_bind (h.status _ _) (fun _ => ?_)
  refine within_bind h.stop (fun _ => ?_)
  refine within_bind (h.control (modest_of fun c =>
    ⟨rfl,rfl,selectStreams_fixed command sel c.config,rfl,rfl⟩)) (fun _ => ?_)
  refine within_bind h.resolver (fun _ => ?_)
  apply within_tryCatch
  · refine within_bind h.start (fun _ => ?_)
    refine within_bind h.publishStreamState (fun _ => ?_)
    exact within_bind within_get fun _ => within_pure _
  · intro e
    exact within_bind (h.rollBack _ e) fun _ => within_throw _

/-- An operation on the LiDAR's power or speed makes one call or none. -/
theorem within_lidarOperation (hplain : ∀ {α : Type} (name : String) (reply : ℕ → Except Failure α),
    Within R (consult name reply)) (operation : LidarOperation) :
    Within R (operation.program w) := by
  have hspeed : ∀ model busy timeoutMs mode,
      Within R (lidarSpeedOperation w model busy timeoutMs mode) := by
    intro model busy timeoutMs mode
    refine within_ite (within_bind (within_throw _) fun _ => ?_) ?_
    all_goals refine within_ite (within_bind (within_throw _) fun _ => ?_) ?_
    all_goals refine within_ite (within_bind (within_throw _) fun _ => ?_) ?_
    all_goals refine within_ite (within_bind (within_throw _) fun _ => ?_) ?_
    all_goals cases mode <;> exact hplain _ _
  cases operation with
  | getPower timeoutMs =>
    refine within_bind ?_ fun _ => within_pure ()
    refine within_ite (within_bind (within_throw _) fun _ => ?_) ?_
    all_goals exact within_bind within_get fun _ =>
      within_ite (within_bind (within_throw _) fun _ => hplain _ _) (hplain _ _)
  | setStandby standby timeoutMs =>
    refine within_bind ?_ fun _ => within_pure ()
    refine within_ite (within_bind (within_throw _) fun _ => ?_) ?_
    all_goals exact within_bind within_get fun _ =>
      within_ite (within_bind (within_throw _) fun _ => hplain _ _) (hplain _ _)
  | getSpeed timeoutMs =>
    exact within_bind (within_bind within_get fun _ => hspeed _ _ _ _) fun _ => within_pure ()
  | setSpeed mode timeoutMs =>
    exact within_bind (within_bind within_get fun _ => hspeed _ _ _ _) fun _ => within_pure ()

/-- Only the synchronization of the device's time opens a new client. -/
theorem Performs.command (h : Performs w R) {command : Command}
    (hsync : command = .synchronizeSystemTime → Within R (Driver.synchronizeSystemTime w)) :
    Within R (command.program w) := by
  cases command with
  | controlStreams command sel =>
    exact within_bind (h.applyStreamCommand command sel) fun _ => within_pure _
  | idle operation => exact h.performIdle operation
  | synchronizeSystemTime => exact hsync rfl
  | setRoverRtcm enable => exact h.rover enable
  | getDeviceInfo =>
    exact within_bind (h.query _) fun _ => within_bind (h.query _) fun _ =>
      within_bind (h.plain _ _) fun _ => h.control (modest_of fun _ => ⟨rfl,rfl,rfl,rfl,rfl⟩)
  | lidar operation => exact within_lidarOperation h.plain operation
  | ask list => exact within_forEach h.query list

theorem Upholds.command (h : Upholds w R) (command : Command) : Within R (command.program w) :=
  h.toPerforms.command fun _ => h.synchronizeSystemTime

/-! ## The beginning of a run -/

theorem Performs.configureLidarNetworkOnStart (h : Performs w R) :
    Within R (Driver.configureLidarNetworkOnStart w) := by
  have hrequire : ∀ name value, Within R (requireIpv4 name value) :=
    fun _ _ => within_ite (within_pure ()) (within_throw _)
  unfold Driver.configureLidarNetworkOnStart
  refine within_bind within_get (fun s => within_ite (within_pure ()) ?_)
  refine within_bind (hrequire _ _) (fun _ => ?_)
  refine within_bind (hrequire _ _) (fun _ => ?_)
  refine within_bind (hrequire _ _) (fun _ => ?_)
  refine within_bind (h.plain _ _) (fun current => within_ite (within_pure ()) ?_)
  exact within_bind (h.plain _ _) fun saved => within_answer _

theorem Upholds.afterIdentity (h : Upholds w R) (info : DeviceInfo) : Within R (do
    modifyControl (takeCaptureInfo info)
    requireSensorBoard info "sensor-board is offline"
    modifyControl fun c => { c with cameraMask := cameraMaskOf info }
    modifyControl (chooseSensorCount info)
    ensureStreamObjects
    publishStatus "starting" ""
    Driver.configureLidarNetworkOnStart w
    startConfiguredStreams w) := by
  refine within_bind (h.control (modest_of fun _ => ⟨rfl,rfl,rfl,rfl,rfl⟩)) (fun _ => ?_)
  refine within_bind (within_requireSensorBoard info _) (fun _ => ?_)
  refine within_bind (h.control (modest_of fun _ => ⟨rfl,rfl,rfl,rfl,rfl⟩)) (fun _ => ?_)
  refine within_bind (h.control (modest_of fun _ => ⟨rfl,rfl,rfl,rfl,rfl⟩)) (fun _ => ?_)
  refine within_bind (h.control modest_ensured) (fun _ => ?_)
  refine within_bind (h.status _ _) (fun _ => ?_)
  exact within_bind h.configureLidarNetworkOnStart fun _ => h.start

/-- From the reset state to the end of the first pass of starts, or to what threw. -/
theorem Upholds.startAgain (h : Upholds w R) (hi : ∀ info, Within R (verifyIdentity w info))
    (s : DriverState) : R (resetRun s).2 (Driver.startRun w s).2 := by
  have hrest := within_bind h.opened fun _ =>
    within_bind (h.plain "setKeepaliveEnabled" w.setKeepaliveEnabled) fun _ =>
      within_bind (h.plain "deviceInfo" w.deviceInfo) fun info =>
        within_bind (hi info) fun _ => h.afterIdentity info
  exact hrest (resetRun s).2

theorem Upholds.startRun (h : Upholds w R) (hi : ∀ info, Within R (verifyIdentity w info))
    (config : DriverConfig) : R (cleared config) (Driver.startRun w (fresh config)).2 :=
  h.startAgain hi (fresh config)

/-! ## Turns -/

theorem Reads.expireCameraSets (h : Reads w R) : Within R (Driver.expireCameraSets w) :=
  within_bind (h.ask fun _ => rfl) fun result => h.consumeCameraResult result

theorem Upholds.act (h : Upholds w R) (hr : Reads w R) (s : DriverState) (action : Action) :
    R s (Driver.act w s action) := by
  cases action with
  | control command => exact h.command command s
  | receive => exact within_survivingTimeout hr.receiveFrame s
  | expire => exact hr.expireCameraSets s

end Upholds

structure Keeps (w : World) (R : DriverState → DriverState → Prop) : Prop where
  control : ∀ {g : Control → Control}, (∀ c, (g c).fatalControlError = c.fatalControlError) →
    Within R (modifyControl g)
  fatal : ∀ {text : String}, text ≠ "" →
    Within R (modifyControl fun c => { c with fatalControlError := text })
  status : ∀ state error, Within R (publishStatus state error)
  resolver : Within R resetResolver
  plain : ∀ {α : Type} (name : String) (reply : ℕ → Except Failure α),
    Within R (consult name reply)
  query : ∀ q, Within R (Driver.query w q)
  rover : ∀ enable, Within R (askRover w enable)
  opened : ∀ network, Within R (openSession w network)
  start : Within R (startConfiguredStreams w)
  stop : Within R (stopConfiguredStreams w)

section Keeps
variable {w : World} {R : DriverState → DriverState → Prop} [Std.Refl R] [IsTrans DriverState R]

theorem Keeps.openClient (h : Keeps w R) : Within R (Driver.openClient w) := by
  unfold Driver.openClient
  refine within_bind within_get (fun s => ?_)
  apply within_ite
  · exact within_bind within_get fun _ => within_bind (within_answer _) fun _ =>
      h.opened false
  · apply within_ite
    · exact within_bind within_get fun _ => within_bind (within_answer _) fun _ =>
        within_bind (within_answer _) fun _ => h.opened true
    · refine within_bind within_get (fun s => ?_)
      refine within_ite (h.opened false) (within_bind (h.plain _ _) fun _ => ?_)
      exact within_ite (h.opened false) (within_throw _)

theorem Keeps.setRoverRtcm (h : Keeps w R) (enable : Bool) : Within R (Driver.setRoverRtcm w enable) := by
  unfold Driver.setRoverRtcm
  refine within_bind (h.rover enable) (fun enabled => ?_)
  refine within_bind (h.control fun _ => rfl) (fun _ => ?_)
  exact within_ite (within_throw _) (within_pure ())

theorem Keeps.upholds (h : Keeps w R) : Upholds w R where
  control := fun hg => h.control hg.fatal
  fatal := h.fatal
  status := h.status
  resolver := h.resolver
  plain := h.plain
  query := h.query
  rover := h.setRoverRtcm
  opened := h.openClient
  detach _ := h.control fun _ => rfl
  start := h.start
  stop := h.stop

theorem Keeps.command (h : Keeps w R) (command : Command) : Within R (command.program w) :=
  h.upholds.command command

theorem Keeps.afterIdentity (h : Keeps w R) (info : DeviceInfo) : Within R (do
    modifyControl (takeCaptureInfo info)
    requireSensorBoard info "sensor-board is offline"
    modifyControl fun c => { c with cameraMask := cameraMaskOf info }
    modifyControl (chooseSensorCount info)
    ensureStreamObjects
    publishStatus "starting" ""
    Driver.configureLidarNetworkOnStart w
    startConfiguredStreams w) := h.upholds.afterIdentity info

end Keeps
end PrismRosAdapter.Driver
