import PrismRosAdapter.Driver.Commands
import PrismRosAdapter.Program.Runs

/-! # One run of the driver

A run opens a client, compares the device's identity, starts the configured
streams and then takes turns: control commands, frames, and camera sets that
have expired. A turn that throws keeps what it has changed so far.
-/
namespace PrismRosAdapter.Driver
open Program

/-- Whether the session is with the configured device, by either of its serials. -/
def identityMatches (w : World) (info : DeviceInfo) (serial : String) : Driving Bool := do
  if info.productSerial = serial then return true
  else
    let call ← nextCall
    return decide (narrow (w.serialNumber call) = serial)

def verifyIdentity (w : World) (info : DeviceInfo) : Driving Unit := do
  let s ← get
  if w.rkLocal || !s.link.network || decide (s.control.config.deviceSerial = "") then return ()
  else
    let equal ← identityMatches w info s.control.config.deviceSerial
    note (.identityCompared equal)
    if equal then modifyLink fun l => { l with verified := true }
    else throw (.adapter
      "network device serial does not match device_serial; no streams started")

def resetRun : Driving Unit := do
  modifyHealth fun _ => {}
  modifyControl fun c => { c with
    running := { rover := c.running.rover }
    imuStream := none
    lidarStream := none
    fatalControlError := "" }
  resetResolver
  accumulate Lidar.reset

def chooseSensorCount (info : DeviceInfo) (c : Control) : Control :=
  { c with imuSensorCount :=
      if c.config.imuSensorCount = 0 then max 1 info.detectedImuCount
      else c.config.imuSensorCount }

/-- The part of `run` before its loop. -/
def startRun (w : World) : Driving Unit := do
  resetRun
  openClient w
  consult "setKeepaliveEnabled" w.setKeepaliveEnabled
  let info ← consult "deviceInfo" w.deviceInfo
  verifyIdentity w info
  modifyControl (takeCaptureInfo info)
  requireSensorBoard info "sensor-board is offline"
  modifyControl fun c => { c with cameraMask := cameraMaskOf info }
  modifyControl (chooseSensorCount info)
  ensureStreamObjects
  publishStatus "starting" ""
  configureLidarNetworkOnStart w
  startConfiguredStreams w

/-- A driver that has not run yet. -/
def fresh (config : DriverConfig) : DriverState := { control := { config := config } }

/-- The first state of a run, of which nothing has been observed. -/
def cleared (config : DriverConfig) : DriverState := (resetRun (fresh config)).2

inductive Action where
  | control (command : Command)
  | receive
  | expire
  deriving DecidableEq, Repr

def expireCameraSets (w : World) : Driving Unit := do
  let result ← ask .assembled w.expire
  consumeCameraResult w result

def Action.program (w : World) : Action → Driving Unit
  | .control command => command.program w
  | .receive => survivingTimeout (receiveFrame w)
  | .expire => expireCameraSets w

/-- The state one turn leaves behind, whether it returns or throws. -/
def act (w : World) (s : DriverState) (action : Action) : DriverState := (action.program w s).2

end PrismRosAdapter.Driver
