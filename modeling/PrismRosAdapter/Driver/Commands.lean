import PrismRosAdapter.Driver.LidarNetwork
import PrismRosAdapter.Driver.Streams

/-! # The control commands

Each command pauses the streams, does its work and starts the streams again. A
pause that fails halfway is undone by a start, except in `applyStreamCommand`,
which lets the exception pass. Only a failing restart sets `fatalControlError`.
-/
namespace PrismRosAdapter.Driver
open Program

/-! ## Opening a client -/

def resolvedTransport (config : DriverConfig) (rklocalBuild : Bool) : String :=
  if config.transport = "auto" then if rklocalBuild then "rklocal" else "usb"
  else config.transport

def narrow (value : List UInt32) : String :=
  String.ofList ((value.filter (· ≤ 0x7f)).map fun c => Char.ofNat c.toNat)

def isEnvironmentName (name : String) : Bool :=
  !name.isEmpty && name.toList.all (fun c => c.isAlphanum || c = '_') &&
    !(name.toList.head?.any Char.isDigit)

def validateNetworkConfig (w : World) (config : DriverConfig) : Except Failure Unit := do
  if ¬ w.isNumericAddress config.networkHost then
    throw (.adapter
      "network_host must be a numeric IPv4 or IPv6 address, without a URL or port")
  if config.networkPort < 1 ∨ 65535 < config.networkPort then
    throw (.adapter "network_port must be 1..65535")
  if config.networkConnectTimeoutMs < 100 ∨ 60000 < config.networkConnectTimeoutMs then
    throw (.adapter "network_connect_timeout_ms must be 100..60000")
  if ¬ isEnvironmentName config.networkTokenEnv then
    throw (.adapter
      "network_token_env must name an environment variable, not contain the password")

def networkToken (w : World) : Except Failure String :=
  match w.networkToken with
  | none => throw (.adapter "network password environment variable is missing or empty")
  | some token =>
    if token = "" then
      throw (.adapter "network password environment variable is missing or empty")
    else if '\r' ∈ token.toList ∨ '\n' ∈ token.toList then
      throw (.adapter "network password must not contain line breaks")
    else return token

/-- A session that has been opened replaces the last one and is not compared yet. -/
def openSession (w : World) (network : Bool) : Driving Unit := do
  ask .opened w.openClient
  modifyLink fun l =>
    { l with session := l.session + 1, network := network, verified := false }

def openNetworkClient (w : World) : Driving Unit := do
  let s ← get
  answer (validateNetworkConfig w s.control.config)
  let _ ← answer (networkToken w)
  openSession w true

def openUsbClient (w : World) : Driving Unit := do
  let s ← get
  let serial := s.control.config.deviceSerial
  if serial = "" then openSession w false
  else
    let devices ← consult "enumerate" w.enumerate
    if devices.any fun device => decide (narrow device = serial) then openSession w false
    else throw (.adapter ("Prism device serial not found: " ++ serial))

def validateRkLocalConfig (config : DriverConfig) : Except Failure Unit := do
  if config.deviceSerial ≠ "" then
    throw (.adapter "device_serial is USB-only; use rklocal_socket on RK")
  if config.rklocalSocket.toList.head? ≠ some '/' then
    throw (.adapter "rklocal_socket must be an absolute socket path")

def openRkLocalClient (w : World) : Driving Unit := do
  let s ← get
  answer (validateRkLocalConfig s.control.config)
  openSession w false

def openClient (w : World) : Driving Unit := do
  let s ← get
  if w.rkLocal then openRkLocalClient w
  else if resolvedTransport s.control.config false = "network" then openNetworkClient w
  else openUsbClient w

def takeDeviceInfo (info : DeviceInfo) (c : Control) : Control :=
  { c with
    usb3Connected := info.usb3Connected
    sensorBoardOnline := info.sensorBoardOnline
    sensorBoardTimeSynced := info.sensorBoardTimeSynced
    productSerial := info.productSerial }

def takeCaptureInfo (info : DeviceInfo) (c : Control) : Control :=
  { takeDeviceInfo info c with
    detectedCameraFps := info.cameraFps
    detectedImuRate := info.imuFps
    imuMask := info.imuPresentMask &&& 3 }

/-- The slots that hold a camera; all of them when the device reports none. -/
def cameraMaskOf (info : DeviceInfo) : UInt8 :=
  if info.cameraPresentMask &&& 0x0f = 0 then 0x0f else info.cameraPresentMask &&& 0x0f

def requireSensorBoard (info : DeviceInfo) (text : String) : Driving Unit := do
  let s ← get
  if (s.control.config.enableCamera ∨ s.control.config.enableBoardImu) ∧
      ¬ info.sensorBoardOnline then
    throw (.adapter text)

/-! ## Recovery -/

def setFatal {α : Type} (text : String) : Driving α := do
  modifyControl fun c => { c with fatalControlError := text }
  throw (.adapter text)

def streamStateText (r : Running) : String :=
  if r.video || r.imu || r.lidar then "streaming" else "idle"

def publishStreamState : Driving Unit := do
  let s ← get
  publishStatus (streamStateText s.control.running) ""

/-- Starts the streams; a failure here is fatal for the run. -/
def restartStreams (w : World) (status : Driving Unit) (fatalText : Failure → String) :
    Driving Unit :=
  tryCatch
    (do
      startConfiguredStreams w
      status)
    fun e => setFatal (fatalText e)

/-- Stops the streams; a stop that fails halfway is undone before it is reported. -/
def pauseStreams (w : World) (status : Driving Unit) (fatalText : Failure → Failure → String) :
    Driving Unit :=
  tryCatch (stopConfiguredStreams w) fun stopError => do
    restartStreams w status (fatalText stopError)
    throw stopError

def resetResolver : Driving Unit := modifyReceive fun r => { r with resolver := {} }

/-! ## Operations on an idle device -/

def runIdleOperation {α : Type} (w : World) (stateText : String) (operation : Driving α) :
    Driving α := do
  publishStatus stateText ""
  pauseStreams w publishStreamState fun stopError e =>
    "failed to pause streams for " ++ stateText ++ ": " ++ stopError.exceptionText ++
      "; stream recovery failed: " ++ e.exceptionText
  resetResolver
  tryCatch
    (do
      let result ← operation
      restartStreams w publishStreamState fun e =>
        stateText ++ " completed, but stream restart failed: " ++ e.exceptionText
      return result)
    fun operationError => do
      let s ← get
      if s.control.fatalControlError ≠ "" then throw operationError
      else
        restartStreams w publishStreamState fun e =>
          stateText ++ " failed: " ++ operationError.exceptionText ++
            "; stream recovery failed: " ++ e.exceptionText
        throw operationError

/-- The fields of a device configuration that a request sets. -/
structure ConfigurationRequest where
  cameraFps : Option UInt32 := none
  imuRateHz : Option UInt32 := none
  mjpegQuality : Option UInt32 := none
  gnssUartBaud : Option UInt32 := none
  deriving DecidableEq, Repr

def ConfigurationRequest.apply (r : ConfigurationRequest) (c : DeviceConfiguration) :
    DeviceConfiguration where
  cameraFps := r.cameraFps.getD c.cameraFps
  imuRateHz := r.imuRateHz.getD c.imuRateHz
  mjpegQuality := r.mjpegQuality.getD c.mjpegQuality
  gnssUartBaud := r.gnssUartBaud.getD c.gnssUartBaud

def saveDeviceConfiguration (w : World) (r : ConfigurationRequest) : Driving Unit := do
  let current ← consult "deviceConfiguration" w.deviceConfiguration
  let saved ← consult "saveDeviceConfiguration"
    (w.saveDeviceConfiguration · (r.apply current))
  modifyControl fun c => { c with config := { c.config with
    cameraFps := if r.cameraFps.isSome then saved.cameraFps else c.config.cameraFps
    imuRateHz := if r.imuRateHz.isSome then saved.imuRateHz else c.config.imuRateHz } }

def setTimeSyncPortMode (w : World) (mode : UInt32) : Driving Unit := do
  let status ← consult "setTimeSyncPortMode" (w.setTimeSyncPortMode · mode)
  if ¬ status.applied ∨ ¬ status.persisted ∨ status.errorCode ≠ 0 ∨ status.mode ≠ mode then
    throw (.adapter "TimeSync mode was not applied/persisted; read current status")

inductive IdleOperation where
  | stopRtk (timeoutMs : UInt32)
  | startRtk (generation : UInt32) (allowGga : Bool) (timeoutMs : UInt32)
  | setTimeSyncPort (mode : UInt32)
  | setDeviceConfiguration (request : ConfigurationRequest)
  | getLidarNetwork
  | setLidarNetwork (configuration : LidarNetworkConfiguration)
  | probeLidarNetwork
  | getWifiHotspot
  | setWifiHotspot (enabled : Bool)
  deriving DecidableEq, Repr

def IdleOperation.stateText : IdleOperation → String
  | .stopRtk _ | .startRtk _ _ _ => "rtk_control"
  | .setTimeSyncPort _ => "timesync_mode"
  | .setDeviceConfiguration _ => "saving_device_configuration"
  | .getLidarNetwork => "reading_lidar_network"
  | .setLidarNetwork _ => "saving_lidar_network"
  | .probeLidarNetwork => "probing_lidar_network"
  | .getWifiHotspot => "reading_wifi_hotspot"
  | .setWifiHotspot _ => "saving_wifi_hotspot"

def IdleOperation.program (w : World) : IdleOperation → Driving Unit
  | .stopRtk timeoutMs => query w (.stopRtk timeoutMs)
  | .startRtk generation allowGga timeoutMs =>
    query w (.startRtk generation allowGga timeoutMs)
  | .setTimeSyncPort mode => setTimeSyncPortMode w mode
  | .setDeviceConfiguration request => saveDeviceConfiguration w request
  | .getLidarNetwork => do
    let _ ← consult "lidarNetworkStatus" w.lidarNetworkStatus
  | .setLidarNetwork configuration => do
    let _ ← consult "saveLidarNetworkConfiguration"
      (w.saveLidarNetworkConfiguration · configuration)
  | .probeLidarNetwork => query w .probeLidarNetwork
  | .getWifiHotspot => query w .wifiHotspotStatus
  | .setWifiHotspot enabled => query w (.setWifiHotspotEnabled enabled)

/-- A request for the GNSS baud rate alone does not pause the streams. -/
def ConfigurationRequest.baudOnly (r : ConfigurationRequest) : Bool :=
  r.cameraFps.isNone && r.imuRateHz.isNone && r.mjpegQuality.isNone && r.gnssUartBaud.isSome

def performIdle (w : World) (operation : IdleOperation) : Driving Unit :=
  match operation with
  | .setDeviceConfiguration request =>
    if request.baudOnly then saveDeviceConfiguration w request
    else runIdleOperation w operation.stateText (operation.program w)
  | _ => runIdleOperation w operation.stateText (operation.program w)

/-! ## Time synchronization -/

def reopenControlClient (w : World) : Driving Unit := do
  modifyControl fun c => { c with imuStream := none, lidarStream := none }
  consult "close" w.close
  openClient w
  consult "setKeepaliveEnabled" w.setKeepaliveEnabled
  let info ← consult "deviceInfo" w.deviceInfo
  modifyControl (takeCaptureInfo info)
  requireSensorBoard info "sensor-board is offline after time sync"
  modifyControl fun c => { c with cameraMask := cameraMaskOf info }
  ensureStreamObjects

/-- Opens a new client and starts the streams on it; a failure is fatal. -/
def reconnectStreams (w : World) (status : Driving Unit) (fatalText : Failure → String) :
    Driving Unit :=
  tryCatch
    (do
      reopenControlClient w
      startConfiguredStreams w
      status)
    fun e => setFatal (fatalText e)

/-- Fails before anything is paused. -/
def checkTimeSource (w : World) : Driving Unit := do
  if w.rkLocal then
    throw (.adapter
      "sync_system_time requires an external USB host; RK-local shares the RK clock")
  else
    let synced ← consult "gnssTimingStatus" w.gnssTimeSynced
    if synced then
      throw (.adapter "external GNSS time is synchronized; host time sync is forbidden")

def synchronizeSystemTime (w : World) : Driving Unit := do
  checkTimeSource w
  publishStatus "synchronizing_time" ""
  pauseStreams w (publishStatus "streaming" "") fun stopError e =>
    "failed to pause streams for time synchronization: " ++ stopError.exceptionText ++
      "; stream recovery failed: " ++ e.exceptionText
  resetResolver
  tryCatch (query w .synchronizeSystemTime) fun syncError => do
    reconnectStreams w (publishStatus "streaming" "") fun e =>
      "system time synchronization failed: " ++ syncError.exceptionText ++
        "; stream recovery failed: " ++ e.exceptionText
    throw syncError
  reconnectStreams w (return ()) fun e =>
    "system time synchronized, but stream restart failed: " ++ e.exceptionText
  publishStatus "streaming" ""

/-! ## Stream control -/

inductive StreamCommand where
  | start | stop | restart
  deriving DecidableEq, Repr

/-- The streams a request selects. -/
structure Selection where
  camera : Bool
  boardImu : Bool
  lidar : Bool
  deriving DecidableEq, Repr

def restartsDisabled (c : DriverConfig) (sel : Selection) : Bool :=
  (sel.camera && !c.enableCamera) || (sel.boardImu && !c.enableBoardImu) ||
    (sel.lidar && !c.enableLidar)

def selectStreams (command : StreamCommand) (sel : Selection) (c : DriverConfig) :
    DriverConfig :=
  match command with
  | .start => { c with
      enableCamera := c.enableCamera || sel.camera
      enableBoardImu := c.enableBoardImu || sel.boardImu
      enableLidar := c.enableLidar || sel.lidar }
  | .stop => { c with
      enableCamera := c.enableCamera && !sel.camera
      enableBoardImu := c.enableBoardImu && !sel.boardImu
      enableLidar := c.enableLidar && !sel.lidar }
  | .restart => c

def restoreStreams (previous c : DriverConfig) : DriverConfig :=
  { c with
    enableCamera := previous.enableCamera
    enableBoardImu := previous.enableBoardImu
    enableLidar := previous.enableLidar }

structure StreamState where
  cameraEnabled : Bool
  boardImuEnabled : Bool
  lidarEnabled : Bool
  cameraActive : Bool
  boardImuActive : Bool
  lidarActive : Bool
  lidarModel : LidarModel
  deriving DecidableEq, Repr

def streamState (c : Control) : StreamState where
  cameraEnabled := c.config.enableCamera
  boardImuEnabled := c.config.enableBoardImu
  lidarEnabled := c.config.enableLidar
  cameraActive := c.running.video
  boardImuActive := c.running.imu
  lidarActive := c.running.lidar
  lidarModel := c.config.lidarModel

/-- The stop of the rollback may fail: its exception is dropped. -/
def rollBack (w : World) (previous : DriverConfig) (operationError : Failure) :
    Driving Unit := do
  tryCatch (stopConfiguredStreams w) fun _ => return ()
  modifyControl fun c => { c with config := restoreStreams previous c.config }
  resetResolver
  restartStreams w publishStreamState fun e =>
    "stream control failed: " ++ operationError.exceptionText ++
      "; previous stream state recovery failed: " ++ e.exceptionText

def checkSelection (command : StreamCommand) (sel : Selection) (c : DriverConfig) :
    Except Failure Unit := do
  if ¬ sel.camera ∧ ¬ sel.boardImu ∧ ¬ sel.lidar then
    throw (.adapter "select at least one stream")
  if command = .restart ∧ restartsDisabled c sel then
    throw (.adapter "cannot restart a disabled stream")

def applyStreamCommand (w : World) (command : StreamCommand) (sel : Selection) :
    Driving StreamState := do
  let s ← get
  answer (checkSelection command sel s.control.config)
  publishStatus "reconfiguring_streams" ""
  stopConfiguredStreams w
  modifyControl fun c => { c with config := selectStreams command sel c.config }
  resetResolver
  tryCatch
    (do
      startConfiguredStreams w
      publishStreamState
      let t ← get
      return streamState t.control)
    fun operationError => do
      rollBack w s.control.config operationError
      throw operationError

/-! ## The remaining commands -/

def askRover (w : World) (enable : Bool) : Driving Bool :=
  if enable then ask .startRoverRtcm w.startRoverRtcm else ask .stopRoverRtcm w.stopRoverRtcm

/-- Flag and configuration both follow what the Agent says. -/
def setRoverRtcm (w : World) (enable : Bool) : Driving Unit := do
  let enabled ← askRover w enable
  modifyControl fun c => { c with
    running := { c.running with rover := enabled }
    config := { c.config with enableRoverRtcm := enabled } }
  if enabled ≠ enable then throw (.adapter "Agent rejected rover RTCM control")

def getDeviceInfo (w : World) : Driving Unit := do
  query w (.plain "hello")
  query w (.plain "deviceVersions")
  let info ← consult "deviceInfo" w.deviceInfo
  modifyControl (takeDeviceInfo info)

/-! The LiDAR's power and speed: neither pauses the streams nor resumes them. -/

def capturing (r : Running) : Bool := r.video || r.imu || r.lidar

/-- The timeout is checked before the operation is queued, the streams when it is taken up. -/
def getLidarPower (w : World) (timeoutMs : UInt32) : Driving LidarPowerState := do
  if timeoutMs = 0 ∨ 30000 < timeoutMs then throw (.adapter "timeout_ms must be 1..30000")
  let s ← get
  if capturing s.control.running then
    throw (.adapter "stop all capture streams before querying LiDAR power")
  consult "lidarPowerStatus"
    (w.lidarPowerStatus · (toSdkModel s.control.config.lidarModel) timeoutMs)

def setLidarStandby (w : World) (standby : Bool) (timeoutMs : UInt32) :
    Driving LidarPowerState := do
  if timeoutMs = 0 ∨ 30000 < timeoutMs then throw (.adapter "timeout_ms must be 1..30000")
  let s ← get
  if capturing s.control.running then
    throw (.adapter "stop all capture streams before changing LiDAR power")
  consult "setLidarStandby"
    (w.setLidarStandby · (toSdkModel s.control.config.lidarModel) standby timeoutMs)

/-- Without a mode the speed is only read. -/
def lidarSpeedOperation (w : World) (model : LidarModel) (busy : Bool) (timeoutMs : UInt32)
    (mode : Option UInt8) : Driving LidarSpeedState := do
  if model ≠ .mid360S then
    throw (.adapter "LiDAR speed control requires lidar_model=mid360s")
  if timeoutMs = 0 ∨ 10000 < timeoutMs then throw (.adapter "timeout_ms must be 1..10000")
  if mode.any fun m => m ≠ 1 ∧ m ≠ 2 then throw (.adapter "mode must be 1 (normal) or 2 (low)")
  if busy then
    throw (.adapter "stop all capture streams before querying or changing LiDAR speed")
  match mode with
  | some m => consult "setLidarSpeedMode" (w.setLidarSpeedMode · .mid360S m timeoutMs)
  | none => consult "lidarSpeedStatus" (w.lidarSpeedStatus · .mid360S timeoutMs)

def getLidarSpeed (w : World) (timeoutMs : UInt32) : Driving LidarSpeedState := do
  let s ← get
  lidarSpeedOperation w s.control.config.lidarModel (capturing s.control.running) timeoutMs none

def setLidarSpeed (w : World) (mode : UInt8) (timeoutMs : UInt32) :
    Driving LidarSpeedState := do
  let s ← get
  lidarSpeedOperation w s.control.config.lidarModel (capturing s.control.running) timeoutMs
    (some mode)

inductive LidarOperation where
  | getPower (timeoutMs : UInt32)
  | setStandby (standby : Bool) (timeoutMs : UInt32)
  | getSpeed (timeoutMs : UInt32)
  | setSpeed (mode : UInt8) (timeoutMs : UInt32)
  deriving DecidableEq, Repr

def LidarOperation.program (w : World) : LidarOperation → Driving Unit
  | .getPower timeoutMs => do
    let _ ← getLidarPower w timeoutMs
  | .setStandby standby timeoutMs => do
    let _ ← setLidarStandby w standby timeoutMs
  | .getSpeed timeoutMs => do
    let _ ← getLidarSpeed w timeoutMs
  | .setSpeed mode timeoutMs => do
    let _ ← setLidarSpeed w mode timeoutMs

/-- What the services queue; `ask []` is `getStreamState`, which asks the SDK nothing. -/
inductive Command where
  | controlStreams (command : StreamCommand) (sel : Selection)
  | idle (operation : IdleOperation)
  | synchronizeSystemTime
  | setRoverRtcm (enable : Bool)
  | getDeviceInfo
  | lidar (operation : LidarOperation)
  | ask (list : List Query)
  deriving DecidableEq, Repr

def Command.program (w : World) : Command → Driving Unit
  | .controlStreams command sel => do
    let _ ← applyStreamCommand w command sel
  | .idle operation => performIdle w operation
  | .synchronizeSystemTime => Driver.synchronizeSystemTime w
  | .setRoverRtcm enable => Driver.setRoverRtcm w enable
  | .getDeviceInfo => Driver.getDeviceInfo w
  | .lidar operation => operation.program w
  | .ask list => forEach (query w) list

end PrismRosAdapter.Driver
