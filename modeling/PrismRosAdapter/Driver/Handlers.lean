import PrismRosAdapter.Driver.Receive

/-! # What the handlers of samples keep

Handlers only observe health, read the clock, count and publish; they never touch
the silence monitoring, and only board and camera times change the clock reference.
Whatever these elementary actions keep, every handler keeps.
-/
namespace PrismRosAdapter.Driver
open Program Health

structure Handles (w : World) (R : DriverState → DriverState → Prop) : Prop where
  health : ∀ {g : SensorDataHealth → SensorDataHealth},
    (∀ health lane, (g health).silence lane = health.silence lane) → Within R (modifyHealth g)
  receive : ∀ {g : Receive → Receive}, (∀ r, (g r).resolver = r.resolver) →
    Within R (modifyReceive g)
  tick : Within R nextTick
  call : Within R nextCall
  accumulate : ∀ {α : Type} (x : Lidar.Accumulating α), Within R (Driver.accumulate x)
  boardTime : ∀ sample, Within R (observeBoardTime w sample)
  cameraTime : ∀ metadata, Within R (observeCameraTime w metadata)
  sampled : ∀ sample found, Within R (note (.sampled sample found))

theorem Handles.mono {w : World} {R S : DriverState → DriverState → Prop}
    (hRS : ∀ s t, R s t → S s t) (h : Handles w R) : Handles w S where
  health := fun hg => (h.health hg).mono hRS
  receive := fun hg => (h.receive hg).mono hRS
  tick := h.tick.mono hRS
  call := h.call.mono hRS
  accumulate := fun x => (h.accumulate x).mono hRS
  boardTime := fun sample => (h.boardTime sample).mono hRS
  cameraTime := fun metadata => (h.cameraTime metadata).mono hRS
  sampled := fun sample found => (h.sampled sample found).mono hRS

/-- The actions that the handlers are made of. -/
structure Serves (w : World) (R : DriverState → DriverState → Prop) : Prop where
  addIssue : ∀ stream issue, Within R (Driver.addIssue stream issue)
  observe : ∀ stream stampNs sequence bits equalStampValid,
    Within R (Driver.observe w stream stampNs sequence bits equalStampValid)
  checkRoverRtcm : ∀ chunk, Within R (Driver.checkRoverRtcm w chunk)
  receive : ∀ {g : Receive → Receive}, (∀ r, (g r).resolver = r.resolver) →
    Within R (modifyReceive g)
  tick : Within R nextTick
  call : Within R nextCall
  accumulate : ∀ {α : Type} (x : Lidar.Accumulating α), Within R (Driver.accumulate x)
  boardTime : ∀ sample, Within R (observeBoardTime w sample)
  cameraTime : ∀ metadata, Within R (observeCameraTime w metadata)

theorem countSelected_resolver (r : Receive) (resolved : Option Timing.DeviceTimeResolution) :
    (countSelected r resolved).resolver = r.resolver := by
  unfold countSelected
  split <;> rfl

section Handlers
variable {w : World} {R : DriverState → DriverState → Prop}

theorem Serves.countUnsynchronized (h : Serves w R) : Within R Driver.countUnsynchronized :=
  h.receive fun _ => rfl

theorem Serves.passLidarImu (h : Serves w R) (sample : SdkLidarImuSample)
    (resolved : Option Timing.DeviceTimeResolution) :
    Within R (Driver.passLidarImu sample resolved) :=
  h.receive fun r => countSelected_resolver r resolved

variable [IsTrans DriverState R]

theorem Serves.dropUnsynchronized (h : Serves w R) (stream : Stream) :
    Within R (Driver.dropUnsynchronized stream) :=
  within_bind (h.addIssue _ _) fun _ => h.countUnsynchronized

variable [Std.Refl R]

theorem within_steadyNowNs_of_tick (h : Within R nextTick) : Within R (Driver.steadyNowNs w) :=
  within_bind h fun _ => within_pure _

theorem Handles.steadyNowNs (h : Handles w R) : Within R (Driver.steadyNowNs w) :=
  within_steadyNowNs_of_tick h.tick

theorem within_sampling {sample : SourceSample} {x : Driving Unit} (hx : Within R x)
    (hn : ∀ found, Within R (note (.sampled sample found))) : Within R (sampling sample x) :=
  within_bind within_get fun _ => within_bind hx fun _ => hn _

theorem Handles.healthObserve (h : Handles w R) (stream : Stream) (stampNs : UInt64)
    (sequence : UInt32) (bits : ℕ) (equalStampValid : Bool) :
    Within R (Driver.healthObserve w stream stampNs sequence bits equalStampValid) :=
  within_bind h.steadyNowNs fun now => h.health fun health lane =>
    health.silence_observe stream now stampNs (some sequence.toUInt64) bits equalStampValid lane

theorem Handles.observe (h : Handles w R) (stream : Stream) (stampNs : UInt64) (sequence : UInt32)
    (bits : ℕ) (equalStampValid : Bool) :
    Within R (Driver.observe w stream stampNs sequence bits equalStampValid) :=
  within_sampling (h.healthObserve _ _ _ _ _) (h.sampled _)

theorem Handles.checkRoverRtcm (h : Handles w R) (chunk : RoverRtcmChunk) :
    Within R (Driver.checkRoverRtcm w chunk) := by
  refine within_sampling (within_bind (h.healthObserve _ _ _ _ _) fun _ => ?_) (h.sampled _)
  refine within_bind (h.health fun health _ => health.silence_counter ..) (fun _ => ?_)
  exact h.health fun health _ => health.silence_condition ..

theorem Handles.serves (h : Handles w R) : Serves w R where
  addIssue := fun stream issue => h.health fun health lane => health.silence_add stream issue 1 lane
  observe := h.observe
  checkRoverRtcm := h.checkRoverRtcm
  receive := h.receive
  tick := h.tick
  call := h.call
  accumulate := h.accumulate
  boardTime := h.boardTime
  cameraTime := h.cameraTime

theorem Serves.steadyNowNs (h : Serves w R) : Within R (Driver.steadyNowNs w) :=
  within_steadyNowNs_of_tick h.tick

omit [IsTrans DriverState R] in
theorem within_whenever {c : Bool} {x : Driving Unit} (hx : Within R x) :
    Within R (whenever c x) := within_ite hx (within_pure ())

theorem Serves.dispatchBoardImu (h : Serves w R) (sample : ImuSample) :
    Within R (Driver.dispatchBoardImu w sample) := by
  unfold Driver.dispatchBoardImu
  refine within_ite (h.addIssue _ _) ?_
  refine within_bind (h.observe _ _ _ _ _) (fun _ => ?_)
  refine within_bind (within_whenever (h.addIssue _ _)) (fun _ => ?_)
  refine within_bind within_get (fun s => ?_)
  apply within_ite
  · exact within_bind (h.addIssue _ _) fun _ => h.countUnsynchronized
  · exact within_bind (h.boardTime sample) fun _ => h.receive fun _ => rfl

theorem Serves.resolveLidarTime (h : Serves w R) (sdkNs rawNs : UInt64) :
    Within R (Driver.resolveLidarTime w sdkNs rawNs) :=
  within_bind within_get fun _ => within_bind h.steadyNowNs fun _ =>
    within_bind h.steadyNowNs fun _ => within_pure _

theorem Serves.passLidarBatch (h : Serves w R) (batch : SdkLidarPointBatch)
    (resolved : Option Timing.DeviceTimeResolution) :
    Within R (Driver.passLidarBatch w batch resolved) :=
  within_bind (within_answer _) fun _ =>
    within_bind (h.receive fun r => countSelected_resolver r resolved) fun _ =>
      within_bind (h.accumulate _) fun _ => h.receive fun _ => rfl

theorem Serves.dispatchLidarPoints (h : Serves w R) (batch : SdkLidarPointBatch) :
    Within R (Driver.dispatchLidarPoints w batch) := by
  unfold Driver.dispatchLidarPoints
  refine within_bind (h.observe _ _ _ _ _) (fun _ => ?_)
  refine within_bind (within_whenever (h.addIssue _ _)) (fun _ => ?_)
  refine within_bind within_get (fun s => ?_)
  refine within_ite (h.dropUnsynchronized _) ?_
  refine within_bind (h.resolveLidarTime _ _) (fun ⟨resolved,referenceRequired⟩ => ?_)
  exact within_ite (h.dropUnsynchronized _) (h.passLidarBatch batch resolved)

theorem Serves.dispatchLidarImu (h : Serves w R) (sample : SdkLidarImuSample) :
    Within R (Driver.dispatchLidarImu w sample) := by
  unfold Driver.dispatchLidarImu
  refine within_bind (h.observe _ _ _ _ _) (fun _ => ?_)
  refine within_bind within_get (fun s => ?_)
  refine within_ite (h.dropUnsynchronized _) ?_
  refine within_bind (h.resolveLidarTime _ _) (fun ⟨resolved,referenceRequired⟩ => ?_)
  exact within_ite (h.dropUnsynchronized _) (h.passLidarImu sample resolved)

theorem Serves.observeImage (h : Serves w R) (frame : CapturedSet) (timestampValid : Bool) (i : Fin 4) :
    Within R (Driver.observeImage w frame timestampValid i) := by
  unfold Driver.observeImage
  refine within_ite (within_pure ()) ?_
  refine within_bind (h.observe _ _ _ _ _) (fun _ => ?_)
  exact within_bind within_get fun _ => within_whenever (h.addIssue _ _)

theorem Serves.publishCameraFrame (h : Serves w R) (frame : CapturedSet) :
    Within R (Driver.publishCameraFrame w frame) := by
  unfold Driver.publishCameraFrame
  refine within_bind within_get (fun s => ?_)
  refine within_ite (within_pure ()) ?_
  refine within_bind (within_forEach (h.observeImage frame _) _) (fun _ => ?_)
  exact within_ite h.countUnsynchronized (h.receive fun _ => rfl)

theorem Serves.checkDiagnostic (h : Serves w R) (diagnostic : CameraDiagnostic) :
    Within R (Driver.checkDiagnostic diagnostic) := by
  unfold Driver.checkDiagnostic
  refine within_bind within_get (fun s => ?_)
  refine within_bind (within_forEach (fun i => within_whenever (h.addIssue _ _)) _) (fun _ => ?_)
  exact within_whenever (h.addIssue _ _)

theorem Serves.checkCameraDiagnostics (h : Serves w R) (result : CameraChunkResult) :
    Within R (Driver.checkCameraDiagnostics result) :=
  within_bind within_get fun _ =>
    within_ite (within_forEach h.checkDiagnostic _) (within_pure ())

theorem Serves.observeMeta (h : Serves w R) (metadata : VideoMeta) :
    Within R (Driver.observeMeta w metadata) :=
  within_bind within_get fun _ =>
    within_ite (within_ite (h.observe _ _ _ _ _) (h.addIssue _ _)) (within_pure ())

omit [Std.Refl R] in
theorem Serves.receiveRoverChunk (h : Serves w R) (chunk : RoverRtcmChunk) :
    Within R (Driver.receiveRoverChunk w chunk) :=
  within_bind h.tick fun _ =>
    within_bind (h.checkRoverRtcm chunk) fun _ => h.receive fun _ => rfl

/-! ## Frames of the sensors -/

/-- The handlers that take a frame apart. -/
structure Dispatches (w : World) (R : DriverState → DriverState → Prop) : Prop where
  boardImu : ∀ sample, Within R (dispatchBoardImu w sample)
  lidarPoints : ∀ batch, Within R (dispatchLidarPoints w batch)
  lidarImu : ∀ sample, Within R (dispatchLidarImu w sample)
  cameraFrame : ∀ frame, Within R (publishCameraFrame w frame)
  diagnostics : ∀ result, Within R (checkCameraDiagnostics result)
  metadata : ∀ metadata, Within R (observeMeta w metadata)
  cameraTime : ∀ metadata, Within R (observeCameraTime w metadata)
  roverChunk : ∀ chunk, Within R (receiveRoverChunk w chunk)
  call : Within R nextCall

theorem Serves.dispatches (h : Serves w R) : Dispatches w R where
  boardImu := h.dispatchBoardImu
  lidarPoints := h.dispatchLidarPoints
  lidarImu := h.dispatchLidarImu
  cameraFrame := h.publishCameraFrame
  diagnostics := h.checkCameraDiagnostics
  metadata := h.observeMeta
  cameraTime := h.cameraTime
  roverChunk := h.receiveRoverChunk
  call := h.call

theorem Dispatches.handleSample (h : Dispatches w R) {α : Type} (stream : StreamObject)
    (sample : Except Failure α) {handler : α → Driving Unit}
    (hh : ∀ value, Within R (handler value)) :
    Within R (Driver.handleSample w stream sample handler) := by
  unfold Driver.handleSample delivers
  apply within_bind
  · exact within_ite (within_pure _) (within_bind h.call fun _ => within_pure _)
  · intro delivered
    split
    · exact within_bind (within_answer _) fun value => within_bind (hh value) fun _ => within_pure _
    · exact within_pure _

theorem Dispatches.handleImuFrame (h : Dispatches w R) (stream : Option StreamObject) (frame : Frame) :
    Within R (Driver.handleImuFrame w stream frame) := by
  unfold Driver.handleImuFrame
  split
  · exact h.handleSample _ _ h.boardImu
  · exact within_pure _

theorem Dispatches.handleLidarFrame (h : Dispatches w R) (stream : Option StreamObject) (frame : Frame) :
    Within R (Driver.handleLidarFrame w stream frame) := by
  unfold Driver.handleLidarFrame
  split
  · exact h.handleSample _ _ h.lidarPoints
  · exact h.handleSample _ _ h.lidarImu
  · exact within_pure _

theorem Dispatches.handleRoverFrame (h : Dispatches w R) (frame : Frame) :
    Within R (Driver.handleRoverFrame w frame) := by
  refine within_bind within_get (fun s => ?_)
  cases frame with
  | roverRtcm chunk =>
    exact within_ite (within_bind (within_answer _) fun _ => h.roverChunk _)
      (within_pure ())
  | _ => exact within_pure ()

/-! ## Handlers that never throw -/

theorem total_addIssue (stream : Stream) (issue : Issue) : (addIssue stream issue).Total :=
  total_modify _

theorem total_nextTick : nextTick.Total :=
  total_bind total_get fun _ => total_bind (total_modify _) fun _ => total_pure _

theorem total_steadyNowNs : (steadyNowNs w).Total :=
  total_bind total_nextTick fun _ => total_pure _

theorem total_whenever {c : Bool} {x : Driving Unit} (hx : x.Total) : (whenever c x).Total :=
  total_ite hx (total_pure ())

theorem total_observe (stream : Stream) (stampNs : UInt64) (sequence : UInt32) (bits : ℕ)
    (equalStampValid : Bool) : (observe w stream stampNs sequence bits equalStampValid).Total :=
  total_bind total_get fun _ => total_bind
    (total_bind total_steadyNowNs fun _ => total_modify _) fun _ => total_modify _

theorem total_observeImage (frame : CapturedSet) (timestampValid : Bool) (i : Fin 4) :
    (observeImage w frame timestampValid i).Total := by
  refine total_ite (total_pure ()) (total_bind (total_observe _ _ _ _ _) fun _ => ?_)
  exact total_bind total_get fun _ => total_whenever (total_addIssue _ _)

end Handlers
end PrismRosAdapter.Driver
