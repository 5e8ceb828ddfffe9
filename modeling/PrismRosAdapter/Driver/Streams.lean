import PrismRosAdapter.Driver.Receive

/-! # Starting and stopping the configured streams

Both go through the streams one after another and end at the first SDK call that
throws. A start skips what is already flagged as started; a stop disables the
silence monitoring of every capture stream before it makes its first call.
-/
namespace PrismRosAdapter.Driver
open Program Health Lidar

def isActive (stream : Option StreamObject) : Bool :=
  match stream with
  | some object => object.active
  | none => false

def setImuActive (active : Bool) : Driving Unit :=
  modifyControl fun c => { c with imuStream := c.imuStream.map fun _ => ⟨active⟩ }
def setLidarActive (active : Bool) : Driving Unit :=
  modifyControl fun c => { c with lidarStream := c.lidarStream.map fun _ => ⟨active⟩ }

/-! ## The stream objects -/

/-- The RK-local wrapper keeps a started session even when it refuses it. -/
def rkStart {α : Type} (active : Bool) (event : Except Failure α → Event)
    (reply : ℕ → Except Failure α) (keep : α → Driving Unit) (refuses : α → Bool)
    (text : String) : Driving Unit := do
  if active then return ()
  else
    let status ← ask event reply
    keep status
    if refuses status then throw (.adapter text)

def rkImuStart (w : World) (sensors rate : UInt32) : Driving Unit := do
  let s ← get
  rkStart (isActive s.control.imuStream) (.startImu sensors rate) w.startImu
    (fun _ => setImuActive true)
    (fun status =>
      decide (status.sensors ≠ sensors ∨ (rate ≠ 0 ∧ status.nominalRateHz ≠ rate)))
    "agent acknowledged different IMU stream settings"

def rkLidarStart (w : World) (model : SdkLidarModel) : Driving Unit := do
  let s ← get
  rkStart (isActive s.control.lidarStream) (.startLidar model) w.startLidar
    (fun status => setLidarActive status.enabled)
    (fun status => decide (¬ status.enabled ∨ status.model ≠ model))
    "agent acknowledged different LiDAR settings"

/-- The RK-local wrapper is inactive before it asks the Agent to stop. -/
def rkStop (w : World) (active : Bool) (deactivate : Driving Unit)
    (event : Except Failure Unit → Event) (reply : ℕ → Except Failure Unit) : Driving Unit := do
  if active then
    deactivate
    let call ← nextCall
    if w.isOpen call then ask event reply
  else return ()

def rkImuStop (w : World) : Driving Unit := do
  let s ← get
  rkStop w (isActive s.control.imuStream) (setImuActive false) .stopImu w.stopImu

def rkLidarStop (w : World) : Driving Unit := do
  let s ← get
  rkStop w (isActive s.control.lidarStream) (setLidarActive false) .stopLidar w.stopLidar

/-- A call of one of the SDK's own stream objects. -/
def hostCall (reply : ℕ → Except Failure Unit) : Driving Unit := do
  let call ← nextCall
  answer (reply call)

def imuStreamStart (w : World) (sensors rate : UInt32) : Driving Unit :=
  recorded (.imuStart sensors rate)
    (if w.rkLocal then rkImuStart w sensors rate else hostCall w.imuStart)
def imuStreamStop (w : World) : Driving Unit :=
  recorded .imuStop (if w.rkLocal then rkImuStop w else hostCall w.imuStop)
def lidarStreamStart (w : World) (model : SdkLidarModel) : Driving Unit :=
  recorded (.lidarStart model)
    (if w.rkLocal then rkLidarStart w model else hostCall w.lidarStart)
def lidarStreamStop (w : World) : Driving Unit :=
  recorded .lidarStop (if w.rkLocal then rkLidarStop w else hostCall w.lidarStop)

/-! ## Stop -/

/-- The streams from the first camera to the LiDAR IMU. -/
def captureStreams : List Stream :=
  [.camera0, .camera1, .camera2, .camera3, .cameraMetadata, .boardImu0, .boardImu1,
    .lidarPoints, .lidarImu]

def disableCaptureHealth : Driving Unit :=
  modifyHealth fun h => captureStreams.foldl SensorDataHealth.disable h

def stopRover (w : World) : Driving Unit := do
  let s ← get
  if s.control.running.rover then
    let _ ← ask .stopRoverRtcm w.stopRoverRtcm
    setRunning fun r => { r with rover := false }
  else return ()

def stopLidar (w : World) : Driving Unit := do
  let s ← get
  if s.control.running.lidar && s.control.lidarStream.isSome then
    lidarStreamStop w
    setRunning fun r => { r with lidar := false }
    accumulate Lidar.reset
  else return ()

/-- Camera and board IMU share one capture session: either stop ends both. -/
def stopCapture (w : World) : Driving Unit := do
  let s ← get
  if s.control.running.imu && s.control.imuStream.isSome then
    imuStreamStop w
    setRunning fun r => { r with imu := false, video := false }
  else if s.control.running.video then
    ask .stopVideo w.stopVideo
    setRunning fun r => { r with video := false }
  else return ()

def stopConfiguredStreams (w : World) : Driving Unit := do
  disableCaptureHealth
  stopRover w
  stopLidar w
  stopCapture w

/-! ## Start -/

def ensureStreamObjects : Driving Unit :=
  modifyControl fun c => { c with
    imuStream := if c.config.enableBoardImu && c.imuStream.isNone then some {} else c.imuStream
    lidarStream :=
      if c.config.enableLidar && c.lidarStream.isNone then some {} else c.lidarStream }

def resetHealth (w : World) (stream : Stream) (rateHz : ℚ) (silenceNs : UInt64) :
    Driving Unit := do
  let now ← steadyNowNs w
  modifyHealth fun h => h.reset stream now rateHz silenceNs

/-- Five seconds of silence are reported, on a lane that is present. -/
def laneSilence (present : Bool) : UInt64 := if present then 5 * kSecond else 0

def armCamera (w : World) (fps : ℚ) : Driving Unit := do
  let s ← get
  forEach (fun i => resetHealth w (cameraStream i) fps
    (laneSilence (bitOf s.control.cameraMask i.val))) (List.finRange 4)
  resetHealth w .cameraMetadata fps (laneSilence true)

def startCamera (w : World) : Driving Unit := do
  let s ← get
  if s.control.config.enableCamera && !s.control.running.video then
    let video ← ask (.startVideo s.control.config.cameraFps) w.startVideo
    setRunning fun r => { r with video := video.enabled }
    if ¬ video.enabled then throw (.adapter "camera start was rejected")
    armCamera w video.fps
  else return ()

def imuRate (c : Control) : ℚ :=
  if c.config.imuRateHz ≠ 0 then c.config.imuRateHz.toNat else c.detectedImuRate.toNat

def armImu (w : World) : Driving Unit := do
  let s ← get
  resetHealth w .boardImu0 (imuRate s.control) (laneSilence (bitOf s.control.imuMask 0))
  resetHealth w .boardImu1 (imuRate s.control) (laneSilence (bitOf s.control.imuMask 1))

def startBoardImu (w : World) : Driving Unit := do
  let s ← get
  if s.control.config.enableBoardImu && !s.control.running.imu then
    if s.control.imuStream.isNone then throw (.adapter "board IMU stream is unavailable")
    armImu w
    imuStreamStart w s.control.imuSensorCount s.control.config.imuRateHz
    setRunning fun r => { r with imu := true }
  else return ()

def hasReference (s : DriverState) : Bool := s.receive.resolver.hasReference

/-- Samples dropped while the first clock reference is awaited do not count. -/
def establishDeviceTimeReference (w : World) : Driving Unit := do
  let s ← get
  if ¬ s.control.config.requireSynchronizedTimestamps ∨
      (¬ s.control.config.enableCamera ∧ ¬ s.control.config.enableBoardImu) then return ()
  else
    let tick ← nextTick
    repeatWhile (fun s => !hasReference s) (survivingTimeout (awaitReferenceFrame w))
      (w.waitTurns tick)
    modifyReceive fun r => { r with droppedUnsynchronized := 0 }

def startRover (w : World) : Driving Unit := do
  let s ← get
  if s.control.config.enableRoverRtcm && !s.control.running.rover then
    resetHealth w .roverRtcm 0 0
    modifyHealth fun h => h.resetCounter .roverRtcm .lostBytes
    let enabled ← ask .startRoverRtcm w.startRoverRtcm
    setRunning fun r => { r with rover := enabled }
    if ¬ enabled then throw (.adapter "rover RTCM start rejected")
  else return ()

/-- XT32 has no integrated IMU, so the silence of that lane means nothing. -/
def armLidar (w : World) : Driving Unit := do
  let s ← get
  resetHealth w .lidarPoints 0 (laneSilence true)
  resetHealth w .lidarImu 0 (laneSilence (s.control.config.lidarModel ≠ .xt32))

def startLidar (w : World) : Driving Unit := do
  let s ← get
  if s.control.config.enableLidar && !s.control.running.lidar then
    if s.control.lidarStream.isNone then throw (.adapter "LiDAR stream is unavailable")
    accumulate Lidar.reset
    armLidar w
    lidarStreamStart w (toSdkModel s.control.config.lidarModel)
    setRunning fun r => { r with lidar := true }
  else return ()

def startConfiguredStreams (w : World) : Driving Unit := do
  ensureStreamObjects
  startCamera w
  startBoardImu w
  establishDeviceTimeReference w
  startRover w
  startLidar w

end PrismRosAdapter.Driver
