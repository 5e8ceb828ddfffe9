import PrismRosAdapter.Driver.Sdk
import PrismRosAdapter.Health.SensorDataHealth
import PrismRosAdapter.Lidar.FrameAccumulator
import PrismRosAdapter.Timing.DeviceTimeResolver

/-! # The state of one driver run

`Control` is what the control commands change, `Receive` what arriving samples
change. `Link` is the SDK's side: how many calls and clock readings there have
been, and the journal of what happened.
-/
namespace PrismRosAdapter.Driver
open Health Timing Lidar

structure DriverConfig where
  transport : String := "auto"
  networkHost : String := ""
  networkPort : ℤ := 7443
  networkConnectTimeoutMs : ℤ := 5000
  networkTokenEnv : String := "PRISM_NETWORK_TOKEN"
  deviceSerial : String := ""
  rklocalSocket : String := "/run/prism/stream.sock"
  enableRoverRtcm : Bool := false
  enableCamera : Bool := true
  enableBoardImu : Bool := true
  enableLidar : Bool := false
  cameraFps : UInt32 := 0
  imuSensorCount : UInt32 := 0
  imuRateHz : UInt32 := 0
  lidarModel : LidarModel := .mid360
  lidarNetworkApplyOnStart : Bool := false
  lidarNetworkEnabled : Bool := true
  lidarHostIp : String := "192.168.1.5"
  lidarNetmask : String := "255.255.255.0"
  lidarIp : String := "192.168.1.3"
  requireSynchronizedTimestamps : Bool := true
  deriving DecidableEq, Repr

/-- The streams the configuration asks for. -/
def DriverConfig.requested (c : DriverConfig) : Running where
  video := c.enableCamera
  imu := c.enableBoardImu
  lidar := c.enableLidar
  rover := c.enableRoverRtcm

/-- A stream object; in the RK-local build it keeps a flag of its own. -/
structure StreamObject where
  active : Bool := false
  deriving DecidableEq, Repr

structure Control where
  config : DriverConfig
  running : Running := {}
  imuStream : Option StreamObject := none
  lidarStream : Option StreamObject := none
  imuSensorCount : UInt32 := 0
  fatalControlError : String := ""
  cameraMask : UInt8 := 0x0f
  imuMask : UInt8 := 0
  detectedCameraFps : UInt32 := 0
  detectedImuRate : UInt32 := 0
  usb3Connected : Bool := false
  sensorBoardOnline : Bool := false
  sensorBoardTimeSynced : Bool := false
  productSerial : String := ""
  deriving DecidableEq, Repr

structure RtcmData where
  hostReceivedNs : UInt64
  sequence : UInt32
  flags : UInt32
  droppedBytes : UInt64
  adapterDroppedChunks : ℕ
  data : List UInt8

structure BoardImuSample where
  sensorId : UInt8
  sampleId : UInt32
  timestampNs : UInt64
  fsyncEvent : Bool
  sampleGap : Bool
  accelerationMS2 : Fin 3 → ℚ
  angularVelocityRadS : Fin 3 → ℚ
  temperatureC : ℚ

structure LidarImuSample where
  sampleId : UInt32
  timestampNs : UInt64
  timestampRawNs : UInt64
  accelerationMS2 : Fin 3 → ℚ
  angularVelocityRadS : Fin 3 → ℚ

structure CameraFrameSet where
  timestampNs : UInt64
  hostFrameId : UInt32
  carrierFrameId : UInt32
  width : UInt32
  height : UInt32
  jpeg : Fin 4 → List UInt8
  exposureUs : Fin 4 → UInt32
  analogGainX1024 : Fin 4 → UInt32
  digitalGainX1024 : Fin 4 → UInt32

/-- What arriving samples change, with the values pushed to each dispatcher. -/
structure Receive where
  resolver : DeviceTimeResolver := {}
  accumulator : LidarFrameAccumulator := {}
  cameraFrameSets : UInt64 := 0
  boardImuSamples : Fin 2 → UInt64 := fun _ => 0
  lidarBatches : UInt64 := 0
  lidarPoints : UInt64 := 0
  lidarImuSamples : UInt64 := 0
  lidarRawTimestampSelected : UInt64 := 0
  lidarSdkTimestampSelected : UInt64 := 0
  droppedUnsynchronized : UInt64 := 0
  roverDispatch : List RtcmData := []
  cameraDispatch : List CameraFrameSet := []
  boardImuDispatch : List BoardImuSample := []
  lidarDispatch : List LidarPointBatch := []
  lidarImuDispatch : List LidarImuSample := []

structure DriverStatus where
  state : String
  error : String
  productSerial : String
  droppedUnsynchronized : UInt64
  deriving DecidableEq, Repr

structure Link where
  session : ℕ := 0
  network : Bool := false
  /-- The session's identity has been compared since it was opened. -/
  verified : Bool := false
  calls : ℕ := 0
  ticks : ℕ := 0
  journal : List Entry := []
  statuses : List DriverStatus := []

structure DriverState where
  control : Control
  health : SensorDataHealth := {}
  receive : Receive := {}
  link : Link := {}

abbrev Driving := Program DriverState Failure

def modifyControl (f : Control → Control) : Driving Unit :=
  modify fun s => { s with control := f s.control }
def modifyHealth (f : SensorDataHealth → SensorDataHealth) : Driving Unit :=
  modify fun s => { s with health := f s.health }
def modifyReceive (f : Receive → Receive) : Driving Unit :=
  modify fun s => { s with receive := f s.receive }
def modifyLink (f : Link → Link) : Driving Unit :=
  modify fun s => { s with link := f s.link }
def setRunning (f : Running → Running) : Driving Unit :=
  modifyControl fun c => { c with running := f c.running }

/-- Writes an event into the journal. -/
def DriverState.note (s : DriverState) (event : Event) : DriverState :=
  { s with link := { s.link with
    journal := s.link.journal ++
      [⟨event,s.control.running,s.link.session,s.link.verified,s.health⟩] } }

def note (event : Event) : Driving Unit := modify fun s => s.note event

/-- Runs `x` and writes down how it ended. -/
def recorded {α : Type} (event : Except Failure α → Event) (x : Driving α) : Driving α :=
  x.andThen fun answer s => s.note (event answer)

/-- The number of the SDK call that is being made. -/
def nextCall : Driving ℕ := do
  let s ← get
  modifyLink fun l => { l with calls := l.calls + 1 }
  return s.link.calls

/-- One SDK call. -/
def ask {α : Type} (event : Except Failure α → Event) (answer : ℕ → Except Failure α) :
    Driving α :=
  recorded event do
    let call ← nextCall
    Program.answer (answer call)

def query (w : World) (q : Query) : Driving Unit := ask (Event.requested q) (w.query · q)

/-- An SDK call whose answer is of no interest to the journal. -/
def consult {α : Type} (name : String) (answer : ℕ → Except Failure α) : Driving α :=
  ask (fun a => .requested (.plain name) (a.map fun _ => ())) answer

def nextTick : Driving ℕ := do
  let s ← get
  modifyLink fun l => { l with ticks := l.ticks + 1 }
  return s.link.ticks

def steadyNowNs (w : World) : Driving UInt64 := do
  let tick ← nextTick
  return w.clock tick

def publishStatus (state error : String) : Driving Unit :=
  modify fun s => { s with link := { s.link with statuses := s.link.statuses ++ [{
    state := state
    error := error
    productSerial := s.control.productSerial
    droppedUnsynchronized := s.receive.droppedUnsynchronized }] } }

def whenever (c : Bool) (x : Driving Unit) : Driving Unit := if c then x else return ()

end PrismRosAdapter.Driver
