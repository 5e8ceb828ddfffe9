import PrismRosAdapter.Failure
import PrismRosAdapter.Health.SensorDataHealth
import PrismRosAdapter.Lidar.LidarPoint
import Mathlib.Data.Rat.Defs

/-! # The device SDK as the driver sees it

The SDK is not part of the repository: a `World` fixes, for every position in
the sequence of calls, what each call would answer there or which exception it
would throw. The clocks and the number of turns a timed wait gets are given the
same way.
-/
namespace PrismRosAdapter.Driver

inductive LidarModel where
  | mid360 | mid360S | xt32
  deriving DecidableEq, Repr

/-- The SDK's own enumeration, which also knows the absence of a LiDAR. -/
inductive SdkLidarModel where
  | none | mid360 | mid360S | xt32
  deriving DecidableEq, Repr

def toSdkModel : LidarModel → SdkLidarModel
  | .mid360 => .mid360
  | .mid360S => .mid360S
  | .xt32 => .xt32

structure DeviceInfo where
  usb3Connected : Bool := false
  sensorBoardOnline : Bool := true
  sensorBoardTimeSynced : Bool := false
  productSerial : String := ""
  cameraFps : UInt32 := 0
  imuFps : UInt32 := 0
  cameraPresentMask : UInt8 := 0
  imuPresentMask : UInt8 := 0
  detectedImuCount : UInt32 := 0
  deriving DecidableEq, Repr

structure VideoStatus where
  enabled : Bool
  fps : ℚ
  deriving DecidableEq, Repr

structure ImuStatus where
  sensors : UInt32
  nominalRateHz : UInt32
  deriving DecidableEq, Repr

structure LidarStatus where
  enabled : Bool
  model : SdkLidarModel
  deriving DecidableEq, Repr

structure TimeSyncPortStatus where
  applied : Bool
  persisted : Bool
  errorCode : UInt32
  mode : UInt32
  deriving DecidableEq, Repr

structure DeviceConfiguration where
  cameraFps : UInt32 := 0
  imuRateHz : UInt32 := 0
  mjpegQuality : UInt32 := 0
  gnssUartBaud : UInt32 := 0
  deriving DecidableEq, Repr

structure LidarNetworkConfiguration where
  enabled : Bool
  hostIp : String
  netmask : String
  lidarIp : String
  deriving DecidableEq, Repr

structure LidarNetworkStatus where
  configuration : LidarNetworkConfiguration
  persisted : Bool
  errorCode : UInt32
  error : String
  deriving DecidableEq, Repr

/-! Frames of the receive loop. A parser may throw, so a frame carries what
parsing it yields. -/

structure RoverRtcmChunk where
  sequence : UInt32
  flags : UInt32
  droppedBytes : UInt64
  data : List UInt8

structure ImuSample where
  sensorId : UInt8
  sampleId : UInt32
  timestampUs : UInt64
  timestampSynced : Bool
  fsyncEvent : Bool
  sampleGap : Bool
  accelMg : Fin 3 → ℤ
  gyroMdps : Fin 3 → ℤ
  tempMilliC : ℤ

structure SdkLidarPoint where
  xMm : ℤ
  yMm : ℤ
  zMm : ℤ
  reflectivity : UInt8
  tag : UInt8
  ring : UInt16
  line : UInt8
  lineValid : Bool
  returnId : UInt8
  confidence : UInt8

structure SdkLidarPointBatch where
  batchId : UInt32
  timestampUtcUs : UInt64
  timestampRaw : UInt64
  timestampSynced : Bool
  points : List SdkLidarPoint

structure SdkLidarImuSample where
  sampleId : UInt32
  timestampUtcUs : UInt64
  timestampRawNs : UInt64
  timestampSynced : Bool
  accelMS2 : Fin 3 → ℚ
  gyroRadS : Fin 3 → ℚ

structure VideoChunk where
  bytes : List UInt8

structure VideoMeta where
  valid : Bool
  triggerTimeNs : UInt64
  hostFrameId : UInt32

structure CaptureMetadata where
  valid : Bool := false
  triggerTimeNs : UInt64 := 0
  carrierFrameId : UInt32 := 0
  exposureUs : Fin 4 → UInt32 := fun _ => 0
  analogGainX1024 : Fin 4 → UInt32 := fun _ => 0
  digitalGainX1024 : Fin 4 → UInt32 := fun _ => 0

/-- A camera set as the SDK's assembler hands it over. -/
structure CapturedSet where
  frameId : UInt32
  metadata : CaptureMetadata := {}
  width : UInt32 := 0
  height : UInt32 := 0
  jpeg : Fin 4 → List UInt8 := fun _ => []

structure CameraDiagnostic where
  complete : Fin 4 → Bool
  metadataReceived : Bool

structure CameraChunkResult where
  discardedIncompleteFrameIds : List UInt32 := []
  discardedDiagnostics : List CameraDiagnostic := []
  partialFrames : List CapturedSet := []
  completed : Option CapturedSet := none

inductive Frame where
  | roverRtcm (chunk : Except Failure RoverRtcmChunk)
  | imuSample (sample : Except Failure ImuSample)
  | lidarPoints (batch : Except Failure SdkLidarPointBatch)
  | lidarImuSample (sample : Except Failure SdkLidarImuSample)
  | videoChunk (chunk : Except Failure VideoChunk)
  | videoMeta (metadata : Except Failure VideoMeta)
  | other

/-- The SDK calls whose answers the driver only passes on. -/
inductive Query where
  | plain (name : String)
  | stopRtk (timeoutMs : UInt32)
  | startRtk (expectedCorsGeneration : UInt32) (allowGga : Bool) (timeoutMs : UInt32)
  | probeLidarNetwork
  | wifiHotspotStatus
  | setWifiHotspotEnabled (enabled : Bool)
  | synchronizeSystemTime
  deriving DecidableEq, Repr

structure LidarPowerState where
  model : UInt8
  state : UInt8
  vendorState : UInt32
  deriving DecidableEq, Repr

structure LidarSpeedState where
  model : UInt8
  mode : UInt8
  deviceType : UInt32
  deriving DecidableEq, Repr

/-! `static_cast<float>(mm) * .001F`, in the bits of a binary32: twice the nearest number of 24
significant bits, ties to even. The factor is `8589935 / 2 ^ 33`. -/

def nearestFloat (n : ℕ) : ℕ :=
  let unit := 2 ^ (n.log2 - 23)
  let up := unit < 2 * (n % unit) ∨ (unit = 2 * (n % unit) ∧ (n / unit) % 2 = 1)
  (n / unit + if up then 1 else 0) * unit

def metresBits (mm : ℤ) : UInt32 :=
  let product := nearestFloat (nearestFloat mm.natAbs * 8589935)
  let sign := if mm < 0 then 2 ^ 31 else 0
  if product = 0 then 0
  else UInt32.ofNat (sign + (product.log2 + 93) * 2 ^ 23 + product * 2 ^ 23 / 2 ^ product.log2)

example : [1000, -1000, 1, 16777217].map metresBits =
    [0x3f800000, 0xbf800000, 0x3a83126f, 0x4683126f] := by decide

structure World where
  /-- The RK-local build, with the adapter's own stream wrappers. -/
  rkLocal : Bool := false
  clock : ℕ → UInt64 := fun _ => 1
  systemClock : ℕ → UInt64 := fun _ => 0
  /-- How many turns a wait for a clock reference gets before its deadline. -/
  waitTurns : ℕ → ℕ := fun _ => 0
  networkToken : Option String := none
  isNumericAddress : String → Bool := fun _ => true
  openClient : ℕ → Except Failure Unit := fun _ => .ok ()
  enumerate : ℕ → Except Failure (List (List UInt32)) := fun _ => .ok []
  setKeepaliveEnabled : ℕ → Except Failure Unit := fun _ => .ok ()
  deviceInfo : ℕ → Except Failure DeviceInfo := fun _ => .ok {}
  serialNumber : ℕ → List UInt32 := fun _ => []
  isOpen : ℕ → Bool := fun _ => true
  close : ℕ → Except Failure Unit := fun _ => .ok ()
  startVideo : ℕ → Except Failure VideoStatus := fun _ => .ok ⟨true,30⟩
  stopVideo : ℕ → Except Failure Unit := fun _ => .ok ()
  imuStart : ℕ → Except Failure Unit := fun _ => .ok ()
  imuStop : ℕ → Except Failure Unit := fun _ => .ok ()
  lidarStart : ℕ → Except Failure Unit := fun _ => .ok ()
  lidarStop : ℕ → Except Failure Unit := fun _ => .ok ()
  startImu : ℕ → Except Failure ImuStatus := fun _ => .ok ⟨0,0⟩
  stopImu : ℕ → Except Failure Unit := fun _ => .ok ()
  startLidar : ℕ → Except Failure LidarStatus := fun _ => .ok ⟨true,.mid360⟩
  stopLidar : ℕ → Except Failure Unit := fun _ => .ok ()
  startRoverRtcm : ℕ → Except Failure Bool := fun _ => .ok true
  stopRoverRtcm : ℕ → Except Failure Bool := fun _ => .ok false
  readFrame : ℕ → Except Failure Frame := fun _ => .error (.sdk "timeout")
  /-- In a host build the SDK's own stream objects decide what they handle. -/
  streamHandles : ℕ → Bool := fun _ => true
  sendVideoAck : ℕ → Except Failure Unit := fun _ => .ok ()
  ingest : ℕ → VideoChunk → Except Failure CameraChunkResult := fun _ _ => .ok {}
  addMetadata : ℕ → VideoMeta → Except Failure (Option CapturedSet) := fun _ _ => .ok none
  expire : ℕ → Except Failure CameraChunkResult := fun _ => .ok {}
  gnssTimeSynced : ℕ → Except Failure Bool := fun _ => .ok false
  deviceConfiguration : ℕ → Except Failure DeviceConfiguration := fun _ => .ok {}
  saveDeviceConfiguration : ℕ → DeviceConfiguration → Except Failure DeviceConfiguration :=
    fun _ c => .ok c
  setTimeSyncPortMode : ℕ → UInt32 → Except Failure TimeSyncPortStatus :=
    fun _ mode => .ok ⟨true,true,0,mode⟩
  lidarNetworkStatus : ℕ → Except Failure LidarNetworkStatus :=
    fun _ => .error (.sdk "no LiDAR network")
  saveLidarNetworkConfiguration : ℕ → LidarNetworkConfiguration →
    Except Failure LidarNetworkStatus := fun _ c => .ok ⟨c,true,0,""⟩
  lidarPowerStatus : ℕ → SdkLidarModel → UInt32 → Except Failure LidarPowerState :=
    fun _ _ _ => .ok ⟨0,1,0⟩
  setLidarStandby : ℕ → SdkLidarModel → Bool → UInt32 → Except Failure LidarPowerState :=
    fun _ _ standby _ => .ok ⟨0,if standby then 2 else 1,0⟩
  lidarSpeedStatus : ℕ → SdkLidarModel → UInt32 → Except Failure LidarSpeedState :=
    fun _ _ _ => .ok ⟨2,1,0⟩
  setLidarSpeedMode : ℕ → SdkLidarModel → UInt8 → UInt32 → Except Failure LidarSpeedState :=
    fun _ _ mode _ => .ok ⟨2,mode,0⟩
  query : ℕ → Query → Except Failure Unit := fun _ _ => .ok ()
  lidarPointTimestampNs : SdkLidarPointBatch → ℕ → UInt64 → Except Failure UInt64 :=
    fun _ _ base => .ok base
  /-- The bits of the float the SDK's millimetres are converted to. -/
  metres : ℤ → UInt32 := metresBits
  roverDropped : ℕ → ℕ := fun _ => 0

/-- What the health monitoring takes for one source sample. -/
inductive SourceSample where
  | of (stream : Health.Stream)
  | chunk (chunk : RoverRtcmChunk)

def SourceSample.stream : SourceSample → Health.Stream
  | .of stream => stream
  | .chunk _ => .roverRtcm

/-! What has happened on the SDK's side of the driver, in order. -/

inductive Event where
  | opened (answer : Except Failure Unit)
  | identityCompared (equal : Bool)
  | startVideo (fps : UInt32) (answer : Except Failure VideoStatus)
  | stopVideo (answer : Except Failure Unit)
  | imuStart (sensors rate : UInt32) (answer : Except Failure Unit)
  | imuStop (answer : Except Failure Unit)
  | lidarStart (model : SdkLidarModel) (answer : Except Failure Unit)
  | lidarStop (answer : Except Failure Unit)
  | startImu (sensors rate : UInt32) (answer : Except Failure ImuStatus)
  | stopImu (answer : Except Failure Unit)
  | startLidar (model : SdkLidarModel) (answer : Except Failure LidarStatus)
  | stopLidar (answer : Except Failure Unit)
  | startRoverRtcm (answer : Except Failure Bool)
  | stopRoverRtcm (answer : Except Failure Bool)
  | videoAck (frameId : UInt32) (answer : Except Failure Unit)
  | assembled (answer : Except Failure CameraChunkResult)
  | completedByMetadata (answer : Except Failure (Option CapturedSet))
  /-- A completed set is handed to `publishCameraFrame`. -/
  | published (frame : CapturedSet)
  | readFrame (answer : Except Failure Frame)
  | requested (query : Query) (answer : Except Failure Unit)
  /-- A sample has gone into the record of its stream, which was `found` before. -/
  | sampled (sample : SourceSample) (found : Health.StreamHealth)

/-- The streams that are flagged as started. -/
structure Running where
  video : Bool := false
  imu : Bool := false
  lidar : Bool := false
  rover : Bool := false
  deriving DecidableEq, Repr

/-- An event with the flags, the session and the health records at that time. -/
structure Entry where
  event : Event
  running : Running
  session : ℕ
  verified : Bool
  health : Health.SensorDataHealth

end PrismRosAdapter.Driver
