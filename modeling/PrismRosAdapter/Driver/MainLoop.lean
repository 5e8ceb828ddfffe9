import PrismRosAdapter.Driver.ControlBatch
import PrismRosAdapter.Driver.UnsynchronizedDrops

/-! # The loop of a run and its two exits

One pass of the loop takes up the queued commands, reads a burst of frames, lets camera
sets expire and makes the polls that are due. What a poll throws ends that poll alone;
everything else that throws ends the run, by way of `cleanup` where it is a
`std::exception`.
-/
namespace PrismRosAdapter.Driver
open Program Runs

/-- What one pass of the loop finds: the queued commands, how many frames it has the time
to read, and the polls that are due. -/
structure Pass where
  commands : List Command := []
  frames : ℕ := 0
  rawPages : ℕ := 0
  navigation : Bool := false
  reception : Bool := false
  status : Bool := false
  deriving DecidableEq, Repr

/-- `catch (const std::exception&) {}`. -/
def surviving (x : Driving Unit) : Driving Unit :=
  tryCatch x fun e => if e = .foreign then throw e else return ()

def takeCommands (w : World) (batch : List Command) : Driving Unit := fun s =>
  (.ok (),(processControls w batch s).2)

/-- A timeout ends the burst, but not the run. -/
def receiveBurst (w : World) : ℕ → Driving Unit
  | 0 => return ()
  | frames + 1 => do
    let more ← tryCatch (do
        receiveFrame w
        return true)
      fun e => if isTimeout e then return false else throw e
    if more then receiveBurst w frames else return ()

/-- The polls of a group are made in order, up to the first that throws. -/
def poll (w : World) (queries : List Query) : Driving Unit := surviving (forEach (query w) queries)

def Pass.program (w : World) (pass : Pass) : Driving Unit := do
  takeCommands w pass.commands
  let s ← get
  if s.control.fatalControlError ≠ "" then throw (.adapter s.control.fatalControlError)
  receiveBurst w (min pass.frames 512)
  expireCameraSets w
  poll w (List.replicate (min pass.rawPages 4) (.plain "gnssRaw"))
  whenever pass.navigation (poll w [.plain "gnssTimingStatus", .plain "gnssObservations"])
  whenever (pass.status && pass.reception)
    (poll w [.plain "gnssReceptionStatus", .plain "timeSyncRtkStatus"])
  whenever pass.status publishStreamState

/-- `catch (...) {}`. -/
def quietly (x : Driving Unit) : Driving Unit := tryCatch x fun _ => return ()

/-- Every stop is tried, whatever the ones before it have thrown. -/
def cleanup (w : World) : Driving Unit := do
  let s ← get
  quietly (whenever s.control.running.rover do
    let _ ← ask .stopRoverRtcm w.stopRoverRtcm)
  setRunning fun r => { r with rover := false }
  quietly (whenever (s.control.running.lidar && s.control.lidarStream.isSome) (lidarStreamStop w))
  quietly (whenever (s.control.running.imu && s.control.imuStream.isSome) (imuStreamStop w))
  quietly (whenever s.control.running.video (ask .stopVideo w.stopVideo))
  quietly (consult "close" w.close)

/-- The part of `run` before its `try`. -/
def prepareRun (w : World) : Driving Unit := do
  resetRun
  openClient w
  consult "setKeepaliveEnabled" w.setKeepaliveEnabled
  let info ← consult "deviceInfo" w.deviceInfo
  verifyIdentity w info
  modifyControl (takeCaptureInfo info)
  requireSensorBoard info "sensor-board is offline"
  modifyControl fun c => { c with cameraMask := cameraMaskOf info }
  modifyControl (chooseSensorCount info)
  ensureStreamObjects
  publishStatus "starting" ""

/-- The body of the `try`: the first pass of starts and the loop. -/
def operate (w : World) (passes : List Pass) : Driving Unit := do
  configureLidarNetworkOnStart w
  startConfiguredStreams w
  publishStreamState
  forEach (Pass.program w) passes

def failRun (w : World) (e : Failure) : Driving Unit := do
  if e = .foreign then throw e
  publishStatus "failed" e.exceptionText
  cleanup w
  throw e

/-- One whole run that makes the given passes, unless one of them throws. -/
def runDriver (w : World) (passes : List Pass) : Driving Unit := do
  prepareRun w
  tryCatch (operate w passes) (failRun w)
  cleanup w
  publishStatus "stopped" ""

section
variable {w : World} {s : DriverState}

/-- The first pass of starts is where the two accounts of a run's beginning part. -/
theorem startRun_eq (w : World) : startRun w = (do
    prepareRun w
    configureLidarNetworkOnStart w
    startConfiguredStreams w) := by
  simp only [startRun,prepareRun,bind_bind]

/-! ## Passes are made of turns -/

theorem reaches_act (action : Action) : Within (Reaches (turn w)) (action.program w) :=
  fun _ => ⟨[.act action],rfl⟩

theorem reaches_publishStatus (state error : String) :
    Within (Reaches (turn w)) (publishStatus state error) := fun _ => ⟨[.publish state error],rfl⟩

theorem reaches_takeCommands (batch : List Command) :
    Within (Reaches (turn w)) (takeCommands w batch) := by
  intro s
  rw [takeCommands,processControls_state]
  exact run_within (execute w) (fun t command => reaches_act (.control command) t) s batch

theorem reaches_receiveBurst (frames : ℕ) : Within (Reaches (turn w)) (receiveBurst w frames) := by
  induction frames with
  | zero => exact within_pure ()
  | succ frames ih =>
    refine within_bind (fun s => ?_) (fun more => within_ite ih (within_pure ()))
    have hread : Reaches (turn w) s (survivingTimeout (receiveFrame w) s).2 :=
      reaches_act .receive s
    convert hread using 1
    simp only [survivingTimeout, tryCatch, tryCatchThe, MonadExceptOf.tryCatch, bind]
    cases receiveFrame w s with
    | mk r t =>
      cases r with
      | ok a => rfl
      | error e => cases h : isTimeout e <;> simp [h] <;> rfl

/-- A poll asks what a command may ask. -/
theorem reaches_poll (queries : List Query) : Within (Reaches (turn w)) (poll w queries) :=
  within_tryCatch (reaches_act (.control (.ask queries))) fun _ =>
    within_ite (within_throw _) (within_pure ())

/-- However a pass ends, it is a sequence of turns. -/
theorem reaches_pass (pass : Pass) : Within (Reaches (turn w)) (pass.program w) := by
  refine within_bind (reaches_takeCommands _) (fun _ => within_bind within_get fun s => ?_)
  refine within_ite (within_throw _) ?_
  refine within_bind (reaches_receiveBurst _) (fun _ => ?_)
  refine within_bind (reaches_act .expire) (fun _ => ?_)
  refine within_bind (reaches_poll _) (fun _ => ?_)
  refine within_bind (within_whenever (reaches_poll _)) (fun _ => ?_)
  refine within_bind (within_whenever (reaches_poll _)) (fun _ => ?_)
  exact within_whenever (within_bind within_get fun _ => reaches_publishStatus _ _)

variable {R : DriverState → DriverState → Prop} [Std.Refl R] [IsTrans DriverState R]

theorem within_quietly {x : Driving Unit} (h : Within R x) : Within R (quietly x) :=
  within_tryCatch h fun _ => within_pure ()

/-- What every turn keeps, every pass of the loop keeps. -/
theorem within_pass (hact : ∀ s action, R s (act w s action))
    (hstatus : ∀ state error, Within R (publishStatus state error)) (pass : Pass) :
    Within R (pass.program w) := by
  intro s
  obtain ⟨turns,h⟩ := reaches_pass pass s
  refine h ▸ run_within (turn w) (fun t next => ?_) s turns
  cases next with
  | act action => exact hact t action
  | publish state error => exact hstatus state error t

theorem Adjusts.cleanup (h : Adjusts w R) (hclose : Within R (consult "close" w.close)) :
    Within R (Driver.cleanup w) := by
  refine within_bind within_get (fun s => within_bind (within_quietly (within_whenever ?_)) fun _ => ?_)
  · exact within_bind (h.ask fun _ => Option.some_ne_none _) fun _ => within_pure ()
  refine within_bind (h.control fun _ => rfl) (fun _ => ?_)
  refine within_bind (within_quietly (within_whenever h.lidarStreamStop)) (fun _ => ?_)
  refine within_bind (within_quietly (within_whenever h.imuStreamStop)) (fun _ => ?_)
  exact within_bind (within_quietly (within_whenever (h.ask fun _ => Option.some_ne_none _)))
    fun _ => within_quietly hclose

/-- What an identity check, a frame and every elementary action keep is kept from the reset
state of a run to its end, whatever that is. -/
theorem Upholds.runOn (h : Upholds w R) (hclean : Within R (Driver.cleanup w))
    (hi : ∀ info, Within R (verifyIdentity w info)) (hreceive : Within R (receiveFrame w))
    (hexpire : Within R (expireCameraSets w)) (passes : List Pass) (s : DriverState) :
    R (resetRun s).2 (Driver.runDriver w passes s).2 := by
  have hact : ∀ s action, R s (Driver.act w s action) := by
    intro s action
    cases action with
    | control command => exact h.command command s
    | receive => exact within_survivingTimeout hreceive s
    | expire => exact hexpire s
  have hprepare : Within R (do
      openClient w
      consult "setKeepaliveEnabled" w.setKeepaliveEnabled
      let info ← consult "deviceInfo" w.deviceInfo
      verifyIdentity w info
      modifyControl (takeCaptureInfo info)
      requireSensorBoard info "sensor-board is offline"
      modifyControl fun c => { c with cameraMask := cameraMaskOf info }
      modifyControl (chooseSensorCount info)
      ensureStreamObjects
      publishStatus "starting" "") := by
    refine within_bind h.opened (fun _ => within_bind (h.plain _ _) fun _ => ?_)
    refine within_bind (h.plain _ _) (fun info => ?_)
    have hplain : ∀ {g : Control → Control}, (∀ c, (g c).running = c.running ∧
        (g c).fatalControlError = c.fatalControlError ∧ (g c).config.fixed = c.config.fixed ∧
          (g c).imuStream = c.imuStream ∧ (g c).lidarStream = c.lidarStream) →
        Within R (modifyControl g) := fun hg => h.control (modest_of hg)
    refine within_bind (hi info) (fun _ => ?_)
    refine within_bind (hplain fun _ => ⟨rfl,rfl,rfl,rfl,rfl⟩) (fun _ => ?_)
    refine within_bind (within_requireSensorBoard info _) (fun _ => ?_)
    refine within_bind (hplain fun _ => ⟨rfl,rfl,rfl,rfl,rfl⟩) (fun _ => ?_)
    refine within_bind (hplain fun _ => ⟨rfl,rfl,rfl,rfl,rfl⟩) (fun _ => ?_)
    exact within_bind (h.control modest_ensured) fun _ => h.status _ _
  have hoperate : Within R (operate w passes) := by
    refine within_bind h.configureLidarNetworkOnStart (fun _ => within_bind h.start fun _ => ?_)
    refine within_bind h.publishStreamState (fun _ => ?_)
    exact within_forEach (within_pass hact h.status) passes
  have hfail : ∀ e, Within R (failRun w e) := by
    refine fun e => within_ite (within_bind (within_throw _) fun _ => ?_) ?_
    all_goals exact within_bind (h.status _ _) fun _ => within_bind hclean fun _ => within_throw _
  have hrest := within_bind hprepare fun _ => within_bind (within_tryCatch hoperate hfail)
    fun _ => within_bind hclean fun _ => h.status "stopped" ""
  exact hrest (resetRun s).2

/-- What a reset keeps as well, a whole run keeps. -/
theorem Upholds.runDriver (h : Upholds w R) (ha : Adjusts w R) (hreset : Within R resetRun)
    (hi : ∀ info, Within R (verifyIdentity w info)) (hreceive : Within R (receiveFrame w))
    (hexpire : Within R (expireCameraSets w)) (passes : List Pass) :
    Within R (Driver.runDriver w passes) := fun s =>
  IsTrans.trans _ _ _ (hreset s)
    (h.runOn (ha.cleanup (h.plain _ _)) hi hreceive hexpire passes s)

end
end PrismRosAdapter.Driver
