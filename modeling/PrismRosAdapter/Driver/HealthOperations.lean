import PrismRosAdapter.Driver.Traversal
import PrismRosAdapter.Health.Operations

/-! # What the turns of a run do to the health counters

Handling frames and switching streams only ever resets, disables, observes and counts the
streams whose samples come in frames. What holds of every sequence of such operations
holds of every run.
-/
namespace PrismRosAdapter.Driver
open Program Runs Health SensorDataHealth

/-- The issues that frames are counted for besides what their observation counts. -/
def sampleIssue (issue : Issue) : Bool :=
  issue ∈ [.incomplete, .unsynchronized, .sourceGap, .rejected]

/-- An operation that a frame or a switch of streams may make. -/
def sensed : Operation → Bool
  | .reset stream _ _ _ | .disable stream | .observe stream _ _ _ _ _ => sampled stream
  | .add stream issue _ => sampled stream && sampleIssue issue
  | .condition stream issue _ => stream = .roverRtcm && issue = .sourceGap
  | .counter stream issue _ _ | .resetCounter stream issue =>
    stream = .roverRtcm && issue = .lostBytes
  | _ => false

/-- The counters have been through some such operations. -/
def Sensing (s t : DriverState) : Prop :=
  ∃ ops : List Operation, (∀ op ∈ ops, sensed op = true) ∧
    t.health = run SensorDataHealth.apply s.health ops

instance : Std.Refl Sensing := ⟨fun _ => ⟨[],List.forall_mem_nil _,rfl⟩⟩
instance : IsTrans DriverState Sensing := ⟨fun _ _ _ ⟨first,hf,hs⟩ ⟨rest,hr,ht⟩ =>
  ⟨first ++ rest,List.forall_mem_append.mpr ⟨hf,hr⟩,by rw [ht,hs,run_append]⟩⟩

section Sensing
variable {w : World} {s : DriverState}

theorem sensing_same {α : Type} {x : Driving α} (h : ∀ s, (x s).2.health = s.health) :
    Within Sensing x := fun s => ⟨[],List.forall_mem_nil _,h s⟩

theorem sensing_operations {α : Type} {x : Driving α} (ops : List Operation)
    (hops : ∀ op ∈ ops, sensed op = true)
    (h : ∀ s, (x s).2.health = run SensorDataHealth.apply s.health ops) : Within Sensing x :=
  fun s => ⟨ops,hops,h s⟩

theorem sensing_operation (op : Operation) (h : sensed op = true) :
    Within Sensing (modifyHealth fun health => health.apply op) :=
  sensing_operations [op] (by simpa using h) fun _ => rfl

theorem sensing_modifyControl (g : Control → Control) : Within Sensing (modifyControl g) :=
  sensing_same fun _ => rfl

theorem sensing_modifyReceive (g : Receive → Receive) : Within Sensing (modifyReceive g) :=
  sensing_same fun _ => rfl

theorem sensing_recorded {α : Type} {event : Except Failure α → Event} {x : Driving α}
    (h : Within Sensing x) : Within Sensing (recorded event x) :=
  within_andThen h fun _ _ => ⟨[],List.forall_mem_nil _,rfl⟩

theorem sensing_nextCall : Within Sensing nextCall := sensing_same fun _ => rfl

theorem sensing_steadyNowNs : Within Sensing (steadyNowNs w) := sensing_same fun _ => rfl

theorem sensing_ask {α : Type} {event : Except Failure α → Event}
    {reply : ℕ → Except Failure α} : Within Sensing (ask event reply) :=
  sensing_recorded (within_bind sensing_nextCall fun _ => within_answer _)

/-! ## Frames -/

theorem sensing_addIssue {stream : Stream} {issue : Issue} (hs : sampled stream = true)
    (hi : sampleIssue issue = true) : Within Sensing (addIssue stream issue) :=
  sensing_operation (.add stream issue 1) (by simp [sensed, hs, hi])

theorem sensing_note (event : Event) : Within Sensing (note event) := sensing_same fun _ => rfl

theorem sensing_healthObserve {stream : Stream} (hs : sampled stream = true) (stampNs : UInt64)
    (sequence : UInt32) (bits : ℕ) (equalStampValid : Bool) :
    Within Sensing (healthObserve w stream stampNs sequence bits equalStampValid) :=
  within_bind sensing_steadyNowNs fun now => sensing_operation
    (.observe stream now stampNs (some sequence.toUInt64) bits equalStampValid) hs

theorem sensing_observe {stream : Stream} (hs : sampled stream = true) (stampNs : UInt64)
    (sequence : UInt32) (bits : ℕ) (equalStampValid : Bool) :
    Within Sensing (observe w stream stampNs sequence bits equalStampValid) :=
  within_sampling (sensing_healthObserve hs _ _ _ _) fun _ => sensing_note _

theorem sensing_dropUnsynchronized {stream : Stream} (hs : sampled stream = true) :
    Within Sensing (dropUnsynchronized stream) :=
  within_bind (sensing_addIssue hs (by decide)) fun _ => sensing_modifyReceive _

theorem sensing_observeBoardTime (sample : ImuSample) :
    Within Sensing (observeBoardTime w sample) :=
  within_ite (within_bind sensing_steadyNowNs fun _ => sensing_modifyReceive _) (within_pure ())

theorem sensing_dispatchBoardImu (sample : ImuSample) :
    Within Sensing (dispatchBoardImu w sample) := by
  have hstream : sampled (if sample.sensorId ≠ 0 then Stream.boardImu1 else .boardImu0) = true := by
    split <;> decide
  unfold dispatchBoardImu
  refine within_ite (sensing_addIssue (by decide) (by decide)) ?_
  refine within_bind (sensing_observe hstream _ _ _ _) (fun _ => ?_)
  refine within_bind (within_whenever (sensing_addIssue hstream (by decide))) (fun _ => ?_)
  refine within_bind within_get (fun s => within_ite ?_ ?_)
  · exact sensing_dropUnsynchronized hstream
  · exact within_bind (sensing_observeBoardTime sample) fun _ => sensing_modifyReceive _

theorem sensing_resolveLidarTime (sdkNs rawNs : UInt64) :
    Within Sensing (resolveLidarTime w sdkNs rawNs) :=
  within_bind within_get fun _ => within_bind sensing_steadyNowNs fun _ =>
    within_bind sensing_steadyNowNs fun _ => within_pure _

theorem sensing_dispatchLidarPoints (batch : SdkLidarPointBatch) :
    Within Sensing (dispatchLidarPoints w batch) := by
  unfold dispatchLidarPoints
  refine within_bind (sensing_observe (by decide) _ _ _ _) (fun _ => ?_)
  refine within_bind (within_whenever (sensing_addIssue (by decide) (by decide))) (fun _ => ?_)
  refine within_bind within_get (fun s => within_ite (sensing_dropUnsynchronized (by decide)) ?_)
  refine within_bind (sensing_resolveLidarTime _ _) (fun ⟨resolved,referenceRequired⟩ => ?_)
  refine within_ite (sensing_dropUnsynchronized (by decide)) ?_
  exact within_bind (within_answer _) fun _ => within_bind (sensing_modifyReceive _) fun _ =>
    within_bind (sensing_same fun _ => rfl) fun _ => sensing_modifyReceive _

theorem sensing_dispatchLidarImu (sample : SdkLidarImuSample) :
    Within Sensing (dispatchLidarImu w sample) := by
  unfold dispatchLidarImu
  refine within_bind (sensing_observe (by decide) _ _ _ _) (fun _ => ?_)
  refine within_bind within_get (fun s => within_ite (sensing_dropUnsynchronized (by decide)) ?_)
  refine within_bind (sensing_resolveLidarTime _ _) (fun ⟨resolved,referenceRequired⟩ => ?_)
  exact within_ite (sensing_dropUnsynchronized (by decide)) (sensing_modifyReceive _)

theorem sensing_observeImage (frame : CapturedSet) (timestampValid : Bool) (i : Fin 4) :
    Within Sensing (observeImage w frame timestampValid i) := by
  refine within_ite (within_pure ()) ?_
  refine within_bind (sensing_observe (sampled_camera i) _ _ _ _) (fun _ => ?_)
  exact within_bind within_get fun _ =>
    within_whenever (sensing_addIssue (sampled_camera i) (by decide))

theorem sensing_publishCameraFrame (frame : CapturedSet) :
    Within Sensing (publishCameraFrame w frame) := by
  unfold publishCameraFrame
  refine within_bind within_get (fun s => within_ite (within_pure ()) ?_)
  refine within_bind (within_forEach (sensing_observeImage frame _) _) (fun _ => ?_)
  exact within_ite (sensing_modifyReceive _) (sensing_modifyReceive _)

theorem sensing_checkDiagnostic (diagnostic : CameraDiagnostic) :
    Within Sensing (checkDiagnostic diagnostic) := by
  refine within_bind within_get (fun s => ?_)
  refine within_bind (within_forEach (fun i => ?_) _) (fun _ => ?_)
  · exact within_whenever (sensing_addIssue (sampled_camera i) (by decide))
  · exact within_whenever (sensing_addIssue (by decide) (by decide))

theorem sensing_observeMeta (metadata : VideoMeta) : Within Sensing (observeMeta w metadata) :=
  within_bind within_get fun _ => within_ite
    (within_ite (sensing_observe (by decide) _ _ _ _) (sensing_addIssue (by decide) (by decide)))
    (within_pure ())

theorem sensing_checkRoverRtcm (chunk : RoverRtcmChunk) :
    Within Sensing (checkRoverRtcm w chunk) := by
  refine within_sampling (within_bind (sensing_healthObserve (by decide) _ _ _ _) fun _ => ?_)
    fun _ => sensing_note _
  refine within_bind (sensing_operation (.counter .roverRtcm .lostBytes chunk.droppedBytes true)
    rfl) (fun _ => ?_)
  exact sensing_operation (.condition .roverRtcm .sourceGap (chunk.flags &&& 1 != 0)) rfl

theorem reads_sensing (w : World) : Reads w Sensing where
  boardImu := sensing_dispatchBoardImu
  lidarPoints := sensing_dispatchLidarPoints
  lidarImu := sensing_dispatchLidarImu
  cameraFrame := sensing_publishCameraFrame
  diagnostics _ := within_bind within_get fun _ =>
    within_ite (within_forEach sensing_checkDiagnostic _) (within_pure ())
  metadata := sensing_observeMeta
  cameraTime _ := within_ite (within_bind sensing_steadyNowNs fun _ => sensing_modifyReceive _)
    (within_pure ())
  roverChunk chunk := within_bind (sensing_same fun _ => rfl) fun _ =>
    within_bind (sensing_checkRoverRtcm chunk) fun _ => sensing_modifyReceive _
  call := sensing_nextCall
  ask _ := sensing_ask
  note _ := sensing_same fun _ => rfl

/-! ## Commands -/

theorem sensing_disableCaptureHealth : Within Sensing disableCaptureHealth :=
  sensing_operations (captureStreams.map .disable) (by decide) fun s =>
    (List.foldl_map (f := Operation.disable) (g := SensorDataHealth.apply)).symm

theorem adjusts_sensing (w : World) : Adjusts w Sensing where
  control _ := sensing_modifyControl _
  reset {stream} hs rate silenceNs := within_bind sensing_steadyNowNs fun now =>
    sensing_operation (.reset stream now rate silenceNs) hs
  resetCounter := sensing_operation (.resetCounter .roverRtcm .lostBytes) rfl
  disable := sensing_disableCaptureHealth
  accumulate _ := sensing_same fun _ => rfl
  call := sensing_nextCall
  ask _ := sensing_ask
  recorded _ := sensing_recorded

theorem sensing_establishDeviceTimeReference :
    Within Sensing (establishDeviceTimeReference w) := by
  refine within_bind within_get (fun s => within_ite (within_pure ()) ?_)
  refine within_bind (sensing_same fun _ => rfl) (fun tick => ?_)
  refine within_bind (within_repeatWhile ?_ _) (fun _ => sensing_modifyReceive _)
  exact within_survivingTimeout (reads_sensing w).awaitReferenceFrame

theorem sensing_openClient : Within Sensing (openClient w) := by
  have hopen : ∀ network, Within Sensing (openSession w network) := fun _ =>
    within_bind sensing_ask fun _ => sensing_same fun _ => rfl
  refine within_bind within_get (fun s => within_ite ?_ (within_ite ?_ ?_))
  · exact within_bind within_get fun _ => within_bind (within_answer _) fun _ => hopen _
  · exact within_bind within_get fun _ => within_bind (within_answer _) fun _ =>
      within_bind (within_answer _) fun _ => hopen _
  · refine within_bind within_get (fun _ => within_ite (hopen _) ?_)
    exact within_bind sensing_ask fun _ => within_ite (hopen _) (within_throw _)

theorem upholds_sensing (w : World) : Upholds w Sensing where
  control _ := sensing_modifyControl _
  fatal _ := sensing_modifyControl _
  status _ _ := sensing_same fun _ => rfl
  resolver := sensing_modifyReceive _
  plain _ _ := sensing_ask
  query _ := sensing_ask
  rover enable := within_bind ((adjusts_sensing w).askRover enable) fun _ =>
    within_bind (sensing_modifyControl _) fun _ => within_ite (within_throw _) (within_pure ())
  start := (adjusts_sensing w).startConfiguredStreams sensing_establishDeviceTimeReference
  stop := (adjusts_sensing w).stopConfiguredStreams
  opened := sensing_openClient
  detach _ := sensing_modifyControl _

theorem sensing_act (s : DriverState) (action : Action) : Sensing s (act w s action) :=
  (upholds_sensing w).act (reads_sensing w) s action

/-- The counters are new when a run begins. -/
theorem sensing_startRun (w : World) (config : DriverConfig) :
    ∃ ops : List Operation, (∀ op ∈ ops, sensed op = true) ∧
      (startRun w (fresh config)).2.health = run SensorDataHealth.apply {} ops :=
  (upholds_sensing w).startRun (fun _ => within_bind within_get fun _ =>
    within_ite (within_pure ()) (within_bind (within_ite (within_pure _)
      (within_bind sensing_nextCall fun _ => within_pure _)) fun _ =>
      within_bind (sensing_same fun _ => rfl) fun _ =>
        within_ite (sensing_same fun _ => rfl) (within_throw _))) config

end Sensing
end PrismRosAdapter.Driver
