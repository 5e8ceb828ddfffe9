import PrismRosAdapter.Driver.State
import PrismRosAdapter.Lidar.Conversion
import PrismRosAdapter.Program.Loops

/-! # Handling of received frames

Each handler observes the sample's health, drops it if its time cannot be
trusted, and otherwise passes it on to a dispatcher.
-/
namespace PrismRosAdapter.Driver
open Program Health Timing Lidar

def addIssue (stream : Stream) (issue : Issue) : Driving Unit :=
  modifyHealth fun h => h.add stream issue 1

def countUnsynchronized : Driving Unit :=
  modifyReceive fun r => { r with droppedUnsynchronized := r.droppedUnsynchronized + 1 }

/-- Writes the sample down once it has been observed. -/
def sampling (sample : SourceSample) (x : Driving Unit) : Driving Unit := do
  let s ← get
  x
  note (.sampled sample (s.health.states sample.stream))

/-- `health.observe` at the time it is called. -/
def healthObserve (w : World) (stream : Stream) (stampNs : UInt64) (sequence : UInt32) (bits : ℕ)
    (equalStampValid : Bool) : Driving Unit := do
  let now ← steadyNowNs w
  modifyHealth fun h => h.observe stream now stampNs (some sequence.toUInt64) bits equalStampValid

def observe (w : World) (stream : Stream) (stampNs : UInt64) (sequence : UInt32) (bits : ℕ)
    (equalStampValid : Bool) : Driving Unit :=
  sampling (.of stream) (healthObserve w stream stampNs sequence bits equalStampValid)

def boardSample (sample : ImuSample) : BoardImuSample where
  sensorId := sample.sensorId
  sampleId := sample.sampleId
  timestampNs := sample.timestampUs * 1000
  fsyncEvent := sample.fsyncEvent
  sampleGap := sample.sampleGap
  accelerationMS2 := fun i => (sample.accelMg i : ℚ) * (980665 / 100000) / 1000
  angularVelocityRadS := fun i =>
    (sample.gyroMdps i : ℚ) * (17453292519943295769 / 1000000000000000000000) / 1000
  temperatureC := (sample.tempMilliC : ℚ) / 1000

def observeBoardTime (w : World) (sample : ImuSample) : Driving Unit := do
  if sample.timestampSynced then
    let now ← steadyNowNs w
    modifyReceive fun r =>
      { r with resolver := r.resolver.observeBoard (sample.timestampUs * 1000) now }

def dispatchBoardImu (w : World) (sample : ImuSample) : Driving Unit := do
  if 2 ≤ sample.sensorId then
    addIssue .transport .rejected
  else
    let stream := if sample.sensorId ≠ 0 then Stream.boardImu1 else Stream.boardImu0
    observe w stream (if sample.timestampSynced then sample.timestampUs * 1000 else 0)
      sample.sampleId 16 false
    whenever sample.sampleGap (addIssue stream .sourceGap)
    let s ← get
    if s.control.config.requireSynchronizedTimestamps && !sample.timestampSynced then
      addIssue stream .unsynchronized
      countUnsynchronized
    else
      observeBoardTime w sample
      modifyReceive fun r => { r with
        boardImuSamples := fun i =>
          if i.val = sample.sensorId.toNat then r.boardImuSamples i + 1 else r.boardImuSamples i
        boardImuDispatch := r.boardImuDispatch ++ [boardSample sample] }

/-- The two clock questions a LiDAR sample asks, each at its own time. -/
def resolveLidarTime (w : World) (sdkNs rawNs : UInt64) :
    Driving (Option DeviceTimeResolution × Bool) := do
  let s ← get
  let arrival ← steadyNowNs w
  let resolved := s.receive.resolver.resolveLidar sdkNs rawNs arrival
  let now ← steadyNowNs w
  return (resolved,s.receive.resolver.hasFreshReference now)

def dropUnsynchronized (stream : Stream) : Driving Unit := do
  addIssue stream .unsynchronized
  countUnsynchronized

def countSelected (r : Receive) (resolved : Option DeviceTimeResolution) : Receive :=
  match resolved with
  | some ⟨_,.lidarRaw⟩ =>
    { r with lidarRawTimestampSelected := r.lidarRawTimestampSelected + 1 }
  | _ => { r with lidarSdkTimestampSelected := r.lidarSdkTimestampSelected + 1 }

/-- Runs a call of the accumulator on the driver's own. -/
def accumulate {α : Type} (x : Accumulating α) : Driving α := fun s =>
  ((x s.receive.accumulator).1,
    { s with receive := { s.receive with accumulator := (x s.receive.accumulator).2 } })

def selectedNs (sdkNs : UInt64) (resolved : Option DeviceTimeResolution) : UInt64 :=
  match resolved with
  | some r => r.timestampNs
  | none => sdkNs

/-- Hands a batch that has got its base time to the accumulator. -/
def passLidarBatch (w : World) (batch : SdkLidarPointBatch)
    (resolved : Option DeviceTimeResolution) : Driving Unit := do
  let sourceBatch ← answer
    (convertLidarBatch w batch (selectedNs (batch.timestampUtcUs * 1000) resolved))
  modifyReceive fun r => { countSelected r resolved with
    lidarBatches := r.lidarBatches + 1
    lidarPoints := r.lidarPoints + UInt64.ofNat sourceBatch.points.length }
  let frames ← accumulate (append sourceBatch)
  modifyReceive fun r => { r with lidarDispatch := r.lidarDispatch ++ frames }

def dispatchLidarPoints (w : World) (batch : SdkLidarPointBatch) : Driving Unit := do
  observe w .lidarPoints (if batch.timestampSynced then batch.timestampUtcUs * 1000 else 0)
    batch.batchId 32 true
  whenever batch.points.isEmpty (addIssue .lidarPoints .incomplete)
  let s ← get
  if s.control.config.requireSynchronizedTimestamps && !batch.timestampSynced then
    dropUnsynchronized .lidarPoints
  else
    let (resolved,referenceRequired) ←
      resolveLidarTime w (batch.timestampUtcUs * 1000) batch.timestampRaw
    if resolved.isNone && referenceRequired &&
        s.control.config.requireSynchronizedTimestamps then
      dropUnsynchronized .lidarPoints
    else passLidarBatch w batch resolved

def lidarImuOutput (sample : SdkLidarImuSample) (resolved : Option DeviceTimeResolution) :
    LidarImuSample where
  sampleId := sample.sampleId
  timestampNs := selectedNs (sample.timestampUtcUs * 1000) resolved
  timestampRawNs := sample.timestampRawNs
  accelerationMS2 := sample.accelMS2
  angularVelocityRadS := sample.gyroRadS

def passLidarImu (sample : SdkLidarImuSample) (resolved : Option DeviceTimeResolution) :
    Driving Unit :=
  modifyReceive fun r => { countSelected r resolved with
    lidarImuSamples := r.lidarImuSamples + 1
    lidarImuDispatch := r.lidarImuDispatch ++ [lidarImuOutput sample resolved] }

def dispatchLidarImu (w : World) (sample : SdkLidarImuSample) : Driving Unit := do
  observe w .lidarImu (if sample.timestampSynced then sample.timestampUtcUs * 1000 else 0)
    sample.sampleId 32 false
  let s ← get
  if s.control.config.requireSynchronizedTimestamps && !sample.timestampSynced then
    dropUnsynchronized .lidarImu
  else
    let (resolved,referenceRequired) ←
      resolveLidarTime w (sample.timestampUtcUs * 1000) sample.timestampRawNs
    if resolved.isNone && referenceRequired &&
        s.control.config.requireSynchronizedTimestamps then
      dropUnsynchronized .lidarImu
    else passLidarImu sample resolved

def cameraStream : Fin 4 → Stream
  | 0 => .camera0
  | 1 => .camera1
  | 2 => .camera2
  | 3 => .camera3

def observeImage (w : World) (frame : CapturedSet) (timestampValid : Bool) (i : Fin 4) :
    Driving Unit := do
  if (frame.jpeg i).isEmpty then return ()
  else
    observe w (cameraStream i) (if timestampValid then frame.metadata.triggerTimeNs else 0)
      frame.frameId 32 false
    let s ← get
    whenever (s.control.config.requireSynchronizedTimestamps && !timestampValid)
      (addIssue (cameraStream i) .unsynchronized)

def cameraOutput (frame : CapturedSet) (timestampValid : Bool) : CameraFrameSet where
  timestampNs := if timestampValid then frame.metadata.triggerTimeNs else 0
  hostFrameId := frame.frameId
  carrierFrameId := frame.metadata.carrierFrameId
  width := frame.width
  height := frame.height
  jpeg := frame.jpeg
  exposureUs := frame.metadata.exposureUs
  analogGainX1024 := frame.metadata.analogGainX1024
  digitalGainX1024 := frame.metadata.digitalGainX1024

def publishCameraFrame (w : World) (frame : CapturedSet) : Driving Unit := do
  let timestampValid := frame.metadata.valid && frame.metadata.triggerTimeNs != 0
  let s ← get
  if ¬ s.control.config.enableCamera then return ()
  else
    forEach (observeImage w frame timestampValid) (List.finRange 4)
    if s.control.config.requireSynchronizedTimestamps && !timestampValid then
      countUnsynchronized
    else
      modifyReceive fun r => { r with
        cameraFrameSets := r.cameraFrameSets + 1
        cameraDispatch := r.cameraDispatch ++ [cameraOutput frame timestampValid] }

/-- RK-local acknowledges video in its own receive thread. -/
def acknowledgeVideo (w : World) (frameId : UInt32) : Driving Unit :=
  if w.rkLocal then return () else ask (.videoAck frameId) w.sendVideoAck

def bitOf (mask : UInt8) (i : ℕ) : Bool := mask.toNat.testBit i

def checkDiagnostic (diagnostic : CameraDiagnostic) : Driving Unit := do
  let s ← get
  forEach (fun i => whenever (bitOf s.control.cameraMask i.val && !diagnostic.complete i)
    (addIssue (cameraStream i) .incomplete)) (List.finRange 4)
  whenever (!diagnostic.metadataReceived) (addIssue .cameraMetadata .incomplete)

def checkCameraDiagnostics (result : CameraChunkResult) : Driving Unit := do
  let s ← get
  if s.control.config.enableCamera then forEach checkDiagnostic result.discardedDiagnostics
  else return ()

def finishSet (w : World) (frame : Option CapturedSet) : Driving Unit :=
  match frame with
  | some set => do
    acknowledgeVideo w set.frameId
    note (.published set)
    publishCameraFrame w set
  | none => return ()

def consumeCameraResult (w : World) (result : CameraChunkResult) : Driving Unit := do
  forEach (acknowledgeVideo w) result.discardedIncompleteFrameIds
  checkCameraDiagnostics result
  forEach (publishCameraFrame w) result.partialFrames
  finishSet w result.completed

def handleVideoChunk (w : World) (chunk : VideoChunk) : Driving Unit := do
  let result ← ask .assembled (w.ingest · chunk)
  consumeCameraResult w result

def observeMeta (w : World) (metadata : VideoMeta) : Driving Unit := do
  let s ← get
  if s.control.config.enableCamera then
    if metadata.valid then
      observe w .cameraMetadata metadata.triggerTimeNs metadata.hostFrameId 32 false
    else addIssue .cameraMetadata .incomplete
  else return ()

def observeCameraTime (w : World) (metadata : VideoMeta) : Driving Unit := do
  if metadata.valid && metadata.triggerTimeNs != 0 then
    let now ← steadyNowNs w
    modifyReceive fun r =>
      { r with resolver := r.resolver.observeCamera metadata.triggerTimeNs now }

def handleVideoMeta (w : World) (metadata : VideoMeta) : Driving Unit := do
  observeMeta w metadata
  observeCameraTime w metadata
  let frame ← ask .completedByMetadata (w.addMetadata · metadata)
  finishSet w frame

/-- The loss counter and its flag are cumulative on the Agent's side. -/
def checkRoverRtcm (w : World) (chunk : RoverRtcmChunk) : Driving Unit :=
  sampling (.chunk chunk) do
    healthObserve w .roverRtcm 0 chunk.sequence 32 false
    modifyHealth fun h => h.counter .roverRtcm .lostBytes chunk.droppedBytes true
    modifyHealth fun h => h.condition .roverRtcm .sourceGap (chunk.flags &&& 1 != 0)

def receiveRoverChunk (w : World) (chunk : RoverRtcmChunk) : Driving Unit := do
  let tick ← nextTick
  checkRoverRtcm w chunk
  modifyReceive fun r => { r with roverDispatch := r.roverDispatch ++ [{
    hostReceivedNs := w.systemClock tick
    sequence := chunk.sequence
    flags := chunk.flags
    droppedBytes := chunk.droppedBytes
    adapterDroppedChunks := w.roverDropped tick
    data := chunk.data }] }

/-- Whether a stream object hands the frames of its kind to its handler. -/
def delivers (w : World) (stream : StreamObject) : Driving Bool := do
  if w.rkLocal then return stream.active
  else
    let call ← nextCall
    return w.streamHandles call

/-- A frame of a stream's kind is handled, and its sample handed on if the
stream delivers. -/
def handleSample {α : Type} (w : World) (stream : StreamObject) (sample : Except Failure α)
    (handler : α → Driving Unit) : Driving Bool := do
  let delivered ← delivers w stream
  if delivered then
    let value ← answer sample
    handler value
  return w.rkLocal || delivered

def handleImuFrame (w : World) (stream : Option StreamObject) (frame : Frame) :
    Driving Bool :=
  match stream, frame with
  | some object, .imuSample sample => handleSample w object sample (dispatchBoardImu w)
  | _, _ => return false

def handleLidarFrame (w : World) (stream : Option StreamObject) (frame : Frame) :
    Driving Bool :=
  match stream, frame with
  | some object, .lidarPoints batch => handleSample w object batch (dispatchLidarPoints w)
  | some object, .lidarImuSample sample => handleSample w object sample (dispatchLidarImu w)
  | _, _ => return false

def handleVideoFrame (w : World) (frame : Frame) : Driving Unit :=
  match frame with
  | .videoChunk chunk => do
    let value ← answer chunk
    handleVideoChunk w value
  | .videoMeta metadata => do
    let value ← answer metadata
    handleVideoMeta w value
  | _ => return ()

def handleRoverFrame (w : World) (frame : Frame) : Driving Unit := do
  let s ← get
  match frame with
  | .roverRtcm chunk =>
    if s.control.running.rover then
      let value ← answer chunk
      receiveRoverChunk w value
    else return ()
  | _ => return ()

/-- One frame of the main receive loop. -/
def receiveFrame (w : World) : Driving Unit := do
  let frame ← ask .readFrame w.readFrame
  handleRoverFrame w frame
  let s ← get
  let imuHandled ← handleImuFrame w s.control.imuStream frame
  let lidarHandled ← handleLidarFrame w s.control.lidarStream frame
  whenever (!imuHandled && !lidarHandled) (handleVideoFrame w frame)

/-- One frame of the wait for a clock reference, which serves no LiDAR. -/
def awaitReferenceFrame (w : World) : Driving Unit := do
  let frame ← ask .readFrame w.readFrame
  let s ← get
  let handled ← handleImuFrame w s.control.imuStream frame
  whenever (!handled) (handleVideoFrame w frame)

/-- Runs `x`, letting it end early on an exception worded as a timeout. -/
def survivingTimeout (x : Driving Unit) : Driving Unit :=
  tryCatch x fun e => if isTimeout e then return () else throw e

end PrismRosAdapter.Driver
