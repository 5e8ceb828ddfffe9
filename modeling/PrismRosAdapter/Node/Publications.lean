import PrismRosAdapter.Dispatch.PublicationAck
import PrismRosAdapter.Dispatch.RawDispatch
import PrismRosAdapter.Driver.State
import PrismRosAdapter.Navigation.Fixes
import PrismRosAdapter.Program.Emissions
import Mathlib.Logic.Function.Basic

/-! # What the ROS 2 node publishes

Each value that a dispatcher hands to the node becomes messages on the topics it belongs
to. Camera and board IMU messages ask for an acknowledgment; whether it comes decides what
the diagnostics say, and nothing else.
-/
namespace PrismRosAdapter.Node
open Program Runs Dispatch Cloud Navigation

/-! ## Messages -/

structure CompressedImage where
  stamp : Ros2.Time
  frameId : String
  format : String
  data : List UInt8

structure CameraFrameMetadata where
  stamp : Ros2.Time
  frameId : String
  hostFrameId : UInt32
  carrierFrameId : UInt32
  exposureUs : Fin 4 → UInt32
  analogGainX1024 : Fin 4 → UInt32
  digitalGainX1024 : Fin 4 → UInt32

/-- A `sensor_msgs/Imu`; a first covariance of -1 says that there is no orientation. -/
structure Imu where
  stamp : Ros2.Time
  frameId : String
  orientationCovariance0 : ℚ := -1
  linearAcceleration : Fin 3 → ℚ
  angularVelocity : Fin 3 → ℚ

structure RtcmMessage where
  stamp : Ros2.Time
  frameId : String
  sequence : UInt32
  flags : UInt32
  droppedBytes : UInt64
  adapterDroppedChunks : ℕ
  data : List UInt8

inductive Message where
  | image (message : CompressedImage)
  | metadata (message : CameraFrameMetadata)
  | imu (message : Imu)
  | cloud (message : PointCloud2 Ros2.Time)
  | rtcm (message : RtcmMessage)
  | raw (stamp : Ros2.Time) (chunk : GnssRawState)
  | receiver (position : ReceiverPositionState)
  | fix (fix : NavSatFix)

inductive Topic where
  | image (camera : Fin 4)
  | metadata
  | boardImu (sensor : Fin 2)
  | lidarPoints
  | lidarImu
  | roverRtcm
  | gnssRaw
  | corsRaw
  | receiver (rtk : Bool)
  | fix (rtk : Bool)
  deriving DecidableEq, Repr

/-- The publishers that have an acknowledgment window. -/
inductive Window where
  | camera (camera : Fin 4)
  | boardImu (sensor : Fin 2)
  deriving DecidableEq, Repr

def Window.limit : Window → ℕ
  | .camera _ => 1
  | .boardImu _ => 64

theorem Window.limit_pos (k : Window) : 0 < k.limit := by
  cases k with
  | camera _ => exact Nat.one_pos
  | boardImu _ => exact Nat.succ_pos 63

def Topic.window : Topic → Option Window
  | .image camera => some (.camera camera)
  | .boardImu sensor => some (.boardImu sensor)
  | _ => none

inductive Level where
  | ok | warn | error
  deriving DecidableEq, Repr

/-- A `DiagnosticStatus`; the counters that it copies from the driver are left out. -/
structure Diagnostic where
  hardwareId : String
  level : Level
  message : String
  ddsAckTimeouts : UInt64
  ddsAckSupported : Bool
  deriving DecidableEq, Repr

/-! ## The node -/

/-- The settings of the node, and for every call into the middleware how it would end. -/
structure NodeWorld where
  /-- The build has the acknowledgment API. -/
  ddsAckSupported : Bool := true
  reliableSensorQos : Bool := true
  cameraFramePrefix : String := "prism_camera_"
  boardImuFramePrefix : String := "prism_imu_"
  lidarFrame : String := "prism_lidar"
  lidarImuFrame : String := "prism_lidar_imu"
  publish : ℕ → Except Failure Unit := fun _ => .ok ()
  subscribers : ℕ → ℕ := fun _ => 1
  wait : ℕ → Except Failure Bool := fun _ => .ok true

structure NodeState where
  calls : ℕ := 0
  published : List (Topic × Message) := []
  ack : Window → PublicationAckWindow := fun k => { limit := k.limit, positive := k.limit_pos }
  ddsAckTimeouts : UInt64 := 0
  /-- The calls of `published` on each window, in order. -/
  acks : List (Window × Call) := []
  callbackErrors : ℕ := 0
  diagnostics : List Diagnostic := []

abbrev Publishing := Program NodeState Failure

def nextNodeCall : Publishing ℕ := do
  let s ← get
  modify fun s => { s with calls := s.calls + 1 }
  return s.calls

def publish (w : NodeWorld) (topic : Topic) (message : Message) : Publishing Unit := do
  let call ← nextNodeCall
  answer (w.publish call)
  modify fun s => { s with published := s.published ++ [(topic,message)] }

def askAck (k : Window) (p : Publication) : Publishing (Except Failure Bool) := do
  let s ← get
  let done := (s.ack k).published p
  modify fun s => { s with
    ack := Function.update s.ack k done.window
    acks := s.acks ++ [(k,⟨p,done.answer,done.waited⟩)] }
  return done.answer

def countTimeout : Publishing Unit := modify fun s => { s with ddsAckTimeouts := s.ddsAckTimeouts + 1 }

/-- A failure of the acknowledgment is counted and otherwise ignored. -/
def acknowledgePublication (w : NodeWorld) (k : Window) (reliable : Bool) : Publishing Unit :=
  if w.ddsAckSupported then do
    let call ← nextNodeCall
    let confirmed ← askAck k ⟨reliable,w.subscribers call,w.wait call⟩
    match confirmed with
    | .ok true => return ()
    | .ok false => countTimeout
    | .error .foreign => throw .foreign
    | .error _ => countTimeout
  else return ()

/-- What the dispatchers hand to the node. The states of the timing, the reception, the RTK
module and the observations, each copied into one message of its own, are left out. -/
inductive Value where
  | camera (frame : Driver.CameraFrameSet)
  | boardImu (sample : Driver.BoardImuSample)
  | lidarPoints (batch : Lidar.LidarPointBatch)
  | lidarImu (sample : Driver.LidarImuSample)
  | roverRtcm (data : Driver.RtcmData)
  | gnssRaw (chunk : GnssRawState)
  | receiver (position : ReceiverPositionState)

inductive Callback where
  | value (value : Value)
  | status (status : Driver.DriverStatus)

section
variable (w : NodeWorld)

def compressedImage (frame : Driver.CameraFrameSet) (i : Fin 4) : CompressedImage where
  stamp := Ros2.rosTime frame.timestampNs
  frameId := w.cameraFramePrefix ++ toString i.val
  format := "jpeg"
  data := frame.jpeg i

def cameraMetadata (frame : Driver.CameraFrameSet) : CameraFrameMetadata where
  stamp := Ros2.rosTime frame.timestampNs
  frameId := "prism_camera_trigger"
  hostFrameId := frame.hostFrameId
  carrierFrameId := frame.carrierFrameId
  exposureUs := frame.exposureUs
  analogGainX1024 := frame.analogGainX1024
  digitalGainX1024 := frame.digitalGainX1024

def publishCamera (frame : Driver.CameraFrameSet) : Publishing Unit := do
  forEach (fun i : Fin 4 =>
    if (frame.jpeg i).isEmpty then return ()
    else do
      publish w (.image i) (.image (compressedImage w frame i))
      acknowledgePublication w (.camera i) true) (List.finRange 4)
  publish w .metadata (.metadata (cameraMetadata frame))

def boardImuMessage (sample : Driver.BoardImuSample) : Imu where
  stamp := Ros2.rosTime sample.timestampNs
  frameId := w.boardImuFramePrefix ++ toString sample.sensorId.toNat
  linearAcceleration := sample.accelerationMS2
  angularVelocity := sample.angularVelocityRadS

def publishBoardImu (sample : Driver.BoardImuSample) : Publishing Unit :=
  if h : sample.sensorId.toNat < 2 then do
    publish w (.boardImu ⟨sample.sensorId.toNat,h⟩) (.imu (boardImuMessage w sample))
    acknowledgePublication w (.boardImu ⟨sample.sensorId.toNat,h⟩) w.reliableSensorQos
  else return ()

def lidarImuMessage (sample : Driver.LidarImuSample) : Imu where
  stamp := Ros2.rosTime sample.timestampNs
  frameId := w.lidarImuFrame
  linearAcceleration := sample.accelerationMS2
  angularVelocity := sample.angularVelocityRadS

def rtcmMessage (data : Driver.RtcmData) : RtcmMessage where
  stamp := Ros2.rosTime data.hostReceivedNs
  frameId := "prism_gnss"
  sequence := data.sequence
  flags := data.flags
  droppedBytes := data.droppedBytes
  adapterDroppedChunks := data.adapterDroppedChunks
  data := data.data

def publishOn (topic : Topic) (channel : UInt8) (chunk : GnssRawState) : Publishing Unit :=
  if chunk.channel = 0 ∨ chunk.channel = channel then
    publish w topic (.raw (Ros2.rosTime chunk.hostReceivedNs) chunk)
  else return ()

/-- Channel 0 marks a gap or an error of both. -/
def publishGnssRaw (chunk : GnssRawState) : Publishing Unit := do
  publishOn w .gnssRaw 1 chunk
  publishOn w .corsRaw 2 chunk

def publishReceiver (position : ReceiverPositionState) : Publishing Unit := do
  let rtk := decide (position.source = "ADRNAV")
  publish w (.receiver rtk) (.receiver position)
  publish w (.fix rtk) (.fix (receiverFix position))

def publishValue : Value → Publishing Unit
  | .camera frame => publishCamera w frame
  | .boardImu sample => publishBoardImu w sample
  | .lidarPoints batch => publish w .lidarPoints (.cloud (Ros2.publishLidar w.lidarFrame batch))
  | .lidarImu sample => publish w .lidarImu (.imu (lidarImuMessage w sample))
  | .roverRtcm data => publish w .roverRtcm (.rtcm (rtcmMessage data))
  | .gnssRaw chunk => publishGnssRaw w chunk
  | .receiver position => publishReceiver w position

/-- The level and the message; an error of the driver outweighs a missing acknowledgment. -/
def diagnose (s : NodeState) (status : Driver.DriverStatus) : Diagnostic :=
  let level := if status.error = "" then Level.ok else .error
  let message := if status.error = "" then status.state else status.error
  let (level,message) :=
    if w.ddsAckSupported = false ∧ status.error = "" then
      (Level.warn,status.state ++ "; DDS acknowledgment API unavailable")
    else (level,message)
  let (level,message) :=
    if s.ddsAckTimeouts ≠ 0 ∧ status.error = "" then
      (Level.warn,status.state ++ "; DDS delivery unconfirmed")
    else (level,message)
  { hardwareId := status.productSerial
    level
    message
    ddsAckTimeouts := s.ddsAckTimeouts
    ddsAckSupported := w.ddsAckSupported }

def publishStatus (status : Driver.DriverStatus) : Publishing Unit := do
  let s ← get
  let call ← nextNodeCall
  answer (w.publish call)
  modify fun t => { t with diagnostics := t.diagnostics ++ [diagnose w s status] }

/-- What the callback of a value throws, its dispatcher catches and counts. -/
def deliver (s : NodeState) : Callback → NodeState
  | .value value =>
    match publishValue w value s with
    | (.ok _,t) => t
    | (.error _,t) => { t with callbackErrors := t.callbackErrors + 1 }
  | .status status => (publishStatus w status s).2

/-! ## What is to be published -/

def imagesOf (frame : Driver.CameraFrameSet) (i : Fin 4) : List (Topic × Message) :=
  if (frame.jpeg i).isEmpty then [] else [(.image i,.image (compressedImage w frame i))]

def rawOn (topic : Topic) (channel : UInt8) (chunk : GnssRawState) : List (Topic × Message) :=
  if chunk.channel = 0 ∨ chunk.channel = channel then
    [(topic,.raw (Ros2.rosTime chunk.hostReceivedNs) chunk)]
  else []

def messagesOf : Value → List (Topic × Message)
  | .camera frame => (List.finRange 4).flatMap (imagesOf w frame) ++
      [(.metadata,.metadata (cameraMetadata frame))]
  | .boardImu sample =>
    if h : sample.sensorId.toNat < 2 then
      [(.boardImu ⟨sample.sensorId.toNat,h⟩,.imu (boardImuMessage w sample))]
    else []
  | .lidarPoints batch => [(.lidarPoints,.cloud (Ros2.publishLidar w.lidarFrame batch))]
  | .lidarImu sample => [(.lidarImu,.imu (lidarImuMessage w sample))]
  | .roverRtcm data => [(.roverRtcm,.rtcm (rtcmMessage data))]
  | .gnssRaw chunk => rawOn .gnssRaw 1 chunk ++ rawOn .corsRaw 2 chunk
  | .receiver position =>
    let rtk := decide (position.source = "ADRNAV")
    [(.receiver rtk,.receiver position),(.fix rtk,.fix (receiverFix position))]

def valuesOf : List Callback → List Value
  | [] => []
  | .value value :: rest => value :: valuesOf rest
  | .status _ :: rest => valuesOf rest

/-- The middleware publishes, and throws nothing but exceptions of its own when it waits. -/
def Steady : Prop := (∀ call, w.publish call = .ok ()) ∧ ∀ call, w.wait call ≠ .error .foreign

/-- What has come of a value: the messages that have gone out, and whether it has thrown. -/
structure Outcome (value : Value) (out : List (Topic × Message) × Bool) : Prop where
  sent : out.1 <+: messagesOf w value
  complete : out.2 = false → out.1 = messagesOf w value
  steady : Steady w → out.2 = false

end

/-- A call that was answered, but not with an acknowledgment. -/
def unconfirmed (c : Call) : Bool :=
  match c.answer with
  | .ok confirmed => !confirmed
  | .error e => decide (e ≠ .foreign)

/-- The calls on one window. -/
def NodeState.on (s : NodeState) (k : Window) : List Call :=
  (s.acks.filter fun a => a.1 = k).map Prod.snd

/-- The counter is that of the calls, each message of a publisher with a window has led to
one, and every window is in step with its own. -/
structure Tallied (w : NodeWorld) (s : NodeState) : Prop where
  timeouts : s.ddsAckTimeouts = UInt64.ofNat (s.acks.countP fun a => unconfirmed a.2)
  asked : s.acks.map Prod.fst =
    if w.ddsAckSupported then s.published.filterMap fun m => m.1.window else []
  fenced : ∀ k, Fenced k.limit ⟨s.ack k,s.on k⟩

/-! ## Single calls -/

/-- The state after a call of `published` on one window. -/
def NodeState.acked (s : NodeState) (k : Window) (p : Publication) : NodeState :=
  let done := (s.ack k).published p
  { s with
    calls := s.calls + 1
    ack := Function.update s.ack k done.window
    acks := s.acks ++ [(k,⟨p,done.answer,done.waited⟩)]
    ddsAckTimeouts := s.ddsAckTimeouts + if unconfirmed ⟨p,done.answer,done.waited⟩ then 1 else 0 }

section
variable {w : NodeWorld} {s : NodeState} {k : Window}

theorem publish_eq (topic : Topic) (message : Message) : publish w topic message s =
    match w.publish s.calls with
    | .ok () => (.ok (),{ s with calls := s.calls + 1, published := s.published ++ [(topic,message)] })
    | .error e => (.error e,{ s with calls := s.calls + 1 }) := by
  have hstep : publish w topic message s =
      (answer (w.publish s.calls) >>= fun _ =>
        modify fun s => { s with published := s.published ++ [(topic,message)] } :
          Publishing Unit) { s with calls := s.calls + 1 } := rfl
  rw [hstep]
  cases h : w.publish s.calls <;> rfl

/-- The acknowledgment of a publication throws only what is no exception of the middleware. -/
theorem acknowledgePublication_eq (h : w.ddsAckSupported = true) (reliable : Bool) :
    let p : Publication := ⟨reliable,w.subscribers s.calls,w.wait s.calls⟩
    acknowledgePublication w k reliable s =
      (if ((s.ack k).published p).answer = .error .foreign then .error .foreign else .ok (),
        s.acked k p) := by
  intro p
  have hstep : acknowledgePublication w k reliable s =
      (match ((s.ack k).published p).answer with
        | .ok true => return ()
        | .ok false => countTimeout
        | .error .foreign => throw .foreign
        | .error _ => countTimeout : Publishing Unit)
      { s with
        calls := s.calls + 1
        ack := Function.update s.ack k ((s.ack k).published p).window
        acks := s.acks ++ [(k,⟨p,((s.ack k).published p).answer,((s.ack k).published p).waited⟩)] } := by
    unfold acknowledgePublication
    rw [if_pos h]
    rfl
  rw [hstep]
  unfold NodeState.acked unconfirmed
  generalize (s.ack k).published p = done
  obtain ⟨confirmed,window,waited⟩ := done
  cases confirmed with
  | ok confirmed => cases confirmed <;> simp <;> rfl
  | error e => cases e <;> simp <;> rfl

theorem acknowledgePublication_unsupported (h : w.ddsAckSupported = false) (reliable : Bool) :
    acknowledgePublication w k reliable s = (.ok (),s) := by
  unfold acknowledgePublication
  rw [h]
  rfl

/-! ## The bookkeeping -/

theorem tallied_initial : Tallied w {} where
  timeouts := rfl
  asked := by cases w.ddsAckSupported <;> rfl
  fenced := fun k => Fenced.initial k.limit_pos

theorem on_acked_self (p : Publication) : (s.acked k p).on k =
    s.on k ++ [⟨p,((s.ack k).published p).answer,((s.ack k).published p).waited⟩] := by
  simp [NodeState.on,NodeState.acked]

theorem on_acked_of_ne {other : Window} (h : k ≠ other) (p : Publication) :
    (s.acked k p).on other = s.on other := by
  simp [NodeState.on,NodeState.acked,h]

theorem fenced_acked (h : ∀ k, Fenced k.limit ⟨s.ack k,s.on k⟩) (p : Publication) (other : Window) :
    Fenced other.limit ⟨(s.acked k p).ack other,(s.acked k p).on other⟩ := by
  by_cases hk : k = other
  · subst hk
    have hack : (s.acked k p).ack k = ((s.ack k).published p).window := Function.update_self k _ s.ack
    rw [hack,on_acked_self]
    exact (h k).step p
  · have hack : (s.acked k p).ack other = s.ack other := Function.update_of_ne (Ne.symm hk) _ s.ack
    rw [hack,on_acked_of_ne hk]
    exact h other

/-- A message that has gone out and the call that it leads to. -/
theorem Tallied.acked (h : Tallied w s) (hsupported : w.ddsAckSupported = true) {topic : Topic}
    (hk : topic.window = some k) (message : Message) (calls : ℕ) (p : Publication) :
    Tallied w (NodeState.acked
      { s with calls := calls, published := s.published ++ [(topic,message)] } k p) where
  timeouts := by
    have hcount : UInt64.ofNat (if unconfirmed ⟨p,((s.ack k).published p).answer,
        ((s.ack k).published p).waited⟩ then 1 else 0) = if unconfirmed ⟨p,
          ((s.ack k).published p).answer,((s.ack k).published p).waited⟩ then 1 else 0 := by
      split <;> rfl
    simp only [NodeState.acked]
    rw [List.countP_append,List.countP_singleton,UInt64.ofNat_add,hcount,h.timeouts]
  asked := by
    have hasked := h.asked
    rw [if_pos hsupported] at hasked ⊢
    simp [NodeState.acked,hasked,hk]
  fenced := fenced_acked h.fenced p

/-- A step that leaves the bookkeeping right. -/
def Tallies (w : NodeWorld) (s t : NodeState) : Prop := Tallied w s → Tallied w t

instance : Std.Refl (Tallies w) := ⟨fun _ => id⟩
instance : IsTrans NodeState (Tallies w) := ⟨fun _ _ _ h h' => h' ∘ h⟩

theorem tallies_publish {topic : Topic} (h : topic.window = none) (message : Message) :
    Within (Tallies w) (publish w topic message) := by
  intro s hs
  rw [publish_eq]
  cases w.publish s.calls with
  | error e => exact ⟨hs.timeouts,hs.asked,hs.fenced⟩
  | ok u =>
    refine ⟨hs.timeouts,hs.asked.trans ?_,hs.fenced⟩
    simp [h]

theorem tallies_acknowledged {topic : Topic} (hk : topic.window = some k) (message : Message)
    (reliable : Bool) : Within (Tallies w) (do
      publish w topic message
      acknowledgePublication w k reliable) := by
  intro s hs
  have hpublish := publish_eq (w := w) (s := s) topic message
  cases h : w.publish s.calls with
  | error e =>
    rw [h] at hpublish
    rw [bind_of_throws hpublish]
    exact ⟨hs.timeouts,hs.asked,hs.fenced⟩
  | ok u =>
    rw [h] at hpublish
    rw [bind_of_returns hpublish]
    cases hsupported : w.ddsAckSupported with
    | false =>
      rw [acknowledgePublication_unsupported hsupported]
      refine ⟨hs.timeouts,hs.asked.trans ?_,hs.fenced⟩
      rw [hsupported]
      rfl
    | true =>
      rw [acknowledgePublication_eq hsupported]
      exact hs.acked hsupported hk message _ _

/-! Every value is a sequence of messages, some of them followed by a call on a window. -/

section
variable {R : NodeState → NodeState → Prop} [Std.Refl R] [IsTrans NodeState R]

theorem within_publishValue
    (hpublish : ∀ topic message, topic.window = none → Within R (publish w topic message))
    (hacknowledged : ∀ topic k message reliable, topic.window = some k → Within R (do
      publish w topic message
      acknowledgePublication w k reliable))
    (value : Value) : Within R (publishValue w value) := by
  have hraw : ∀ topic, topic.window = none → ∀ channel chunk,
      Within R (publishOn w topic channel chunk) :=
    fun topic h _ _ => within_ite (hpublish topic _ h) (within_pure ())
  cases value with
  | camera frame =>
    exact within_bind (within_forEach (fun i => within_ite (within_pure ())
      (hacknowledged (.image i) (.camera i) _ true rfl)) _) fun _ => hpublish .metadata _ rfl
  | boardImu sample =>
    simp only [publishValue,publishBoardImu]
    split
    · exact hacknowledged _ _ _ _ rfl
    · exact within_pure ()
  | lidarPoints batch => exact hpublish _ _ rfl
  | lidarImu sample => exact hpublish _ _ rfl
  | roverRtcm data => exact hpublish _ _ rfl
  | gnssRaw chunk => exact within_bind (hraw .gnssRaw rfl 1 chunk) fun _ => hraw .corsRaw rfl 2 chunk
  | receiver position =>
    exact within_bind (hpublish _ _ rfl) fun _ => hpublish _ _ rfl

end

theorem tallies_publishValue (value : Value) : Within (Tallies w) (publishValue w value) :=
  within_publishValue (fun _ message h => tallies_publish h message)
    (fun _ _ message reliable h => tallies_acknowledged h message reliable) value

theorem publishStatus_eq (status : Driver.DriverStatus) : publishStatus w status s =
    match w.publish s.calls with
    | .ok () => (.ok (),{ s with
        calls := s.calls + 1
        diagnostics := s.diagnostics ++ [diagnose w s status] })
    | .error e => (.error e,{ s with calls := s.calls + 1 }) := by
  have hstep : publishStatus w status s =
      (answer (w.publish s.calls) >>= fun _ =>
        modify fun t => { t with diagnostics := t.diagnostics ++ [diagnose w s status] } :
          Publishing Unit) { s with calls := s.calls + 1 } := rfl
  rw [hstep]
  cases h : w.publish s.calls <;> rfl

theorem tallied_deliver (h : Tallied w s) (c : Callback) : Tallied w (deliver w s c) := by
  cases c with
  | value value =>
    have hvalue := tallies_publishValue value s h
    rcases returns_or_throws (publishValue w value) s with ⟨u,hr⟩ | ⟨e,he⟩
    · rw [deliver,hr]
      exact hvalue
    · rw [deliver,he]
      exact ⟨hvalue.timeouts,hvalue.asked,hvalue.fenced⟩
  | status status =>
    simp only [deliver,publishStatus_eq]
    cases w.publish s.calls <;> exact ⟨h.timeouts,h.asked,h.fenced⟩

theorem tallied_run (h : Tallied w s) (callbacks : List Callback) :
    Tallied w (run (deliver w) s callbacks) := by
  induction callbacks generalizing s with
  | nil => exact h
  | cons c rest ih => exact ih (tallied_deliver h c)

/-! ## What goes out -/

theorem emits_publish (topic : Topic) (message : Message) :
    Emits NodeState.published [(topic,message)] (publish w topic message) := by
  intro s
  have hpublish := publish_eq (w := w) (s := s) topic message
  cases h : w.publish s.calls with
  | error e =>
    rw [h] at hpublish
    refine ⟨[],?_,List.nil_prefix,fun r t hr => ?_⟩
    · rw [hpublish,List.append_nil]
    · cases (congrArg Prod.fst (hpublish.symm.trans hr) : Except.error e = .ok r)
  | ok u =>
    rw [h] at hpublish
    exact ⟨[(topic,message)],by rw [hpublish],List.prefix_rfl,fun _ _ _ => rfl⟩

theorem emits_acknowledgePublication (reliable : Bool) :
    Emits NodeState.published [] (acknowledgePublication w k reliable) := by
  apply emits_nothing
  intro s
  cases h : w.ddsAckSupported with
  | false => rw [acknowledgePublication_unsupported h]
  | true => exact congrArg (fun r => r.2.published) (acknowledgePublication_eq h reliable)

theorem emits_acknowledged (topic : Topic) (message : Message) (reliable : Bool) :
    Emits NodeState.published [(topic,message)] (do
      publish w topic message
      acknowledgePublication w k reliable) :=
  emits_bind (emits_publish topic message) fun _ => emits_acknowledgePublication reliable

theorem emits_publishCamera (frame : Driver.CameraFrameSet) :
    Emits NodeState.published (messagesOf w (.camera frame)) (publishCamera w frame) :=
  emits_bind (emits_forEach (fun i => emits_ite (emits_pure ())
    (emits_acknowledged (.image i) (.image (compressedImage w frame i)) true)) _)
      fun _ => emits_publish _ _

theorem emits_publishValue (value : Value) :
    Emits NodeState.published (messagesOf w value) (publishValue w value) := by
  cases value with
  | camera frame => exact emits_publishCamera frame
  | boardImu sample =>
    simp only [publishValue,publishBoardImu,messagesOf]
    by_cases h : sample.sensorId.toNat < 2
    · rw [dif_pos h,dif_pos h]
      exact emits_acknowledged _ _ _
    · rw [dif_neg h,dif_neg h]
      exact emits_pure ()
  | lidarPoints batch => exact emits_publish _ _
  | lidarImu sample => exact emits_publish _ _
  | roverRtcm data => exact emits_publish _ _
  | gnssRaw chunk =>
    exact emits_bind (emits_ite (emits_publish _ _) (emits_pure ()))
      fun _ => emits_ite (emits_publish _ _) (emits_pure ())
  | receiver position => exact emits_bind (emits_publish _ _) fun _ => emits_publish _ _

/-! ## What does not throw -/

theorem total_publish (h : Steady w) (topic : Topic) (message : Message) :
    (publish w topic message).Total := by
  intro s e t ht
  rw [Throws,publish_eq,h.1 s.calls] at ht
  cases (congrArg Prod.fst ht : Except.ok () = .error e)

theorem published_answer (window : PublicationAckWindow) (p : Publication) :
    (window.published p).answer = .ok true ∨ (window.published p).answer = p.wait := by
  unfold PublicationAckWindow.published
  split
  · exact .inl rfl
  · dsimp only
    by_cases hlt : (if window.pending < window.limit then window.pending + 1
      else window.pending) < window.limit
    · rw [if_pos hlt]
      exact .inl rfl
    · rw [if_neg hlt]
      right
      cases p.wait with
      | error e => rfl
      | ok acked => cases acked <;> rfl

theorem published_ne_foreign (h : Steady w) (window : PublicationAckWindow) (reliable : Bool)
    (call : ℕ) : (window.published ⟨reliable,w.subscribers call,w.wait call⟩).answer ≠
      .error .foreign := by
  rcases published_answer window ⟨reliable,w.subscribers call,w.wait call⟩ with hanswer | hanswer
  · simp [hanswer]
  · rw [hanswer]
    exact h.2 call

theorem total_acknowledgePublication (h : Steady w) (reliable : Bool) :
    (acknowledgePublication w k reliable).Total := by
  intro s e t ht
  cases hsupported : w.ddsAckSupported with
  | false =>
    rw [Throws,acknowledgePublication_unsupported hsupported] at ht
    cases (congrArg Prod.fst ht : Except.ok () = .error e)
  | true =>
    rw [Throws,acknowledgePublication_eq hsupported,
      if_neg (published_ne_foreign h _ reliable _)] at ht
    cases (congrArg Prod.fst ht : Except.ok () = .error e)

theorem total_publishValue (h : Steady w) (value : Value) : (publishValue w value).Total := by
  have hraw : ∀ topic channel chunk, (publishOn w topic channel chunk).Total :=
    fun _ _ _ => total_ite (total_publish h _ _) (total_pure ())
  have hacknowledged : ∀ topic k message reliable, Total (do
      publish w topic message
      acknowledgePublication w k reliable) :=
    fun _ _ _ _ => total_bind (total_publish h _ _) fun _ => total_acknowledgePublication h _
  cases value with
  | camera frame =>
    exact total_bind (total_forEach (fun _ => total_ite (total_pure ()) (hacknowledged _ _ _ _)) _)
      fun _ => total_publish h _ _
  | boardImu sample =>
    simp only [publishValue,publishBoardImu]
    split
    · exact hacknowledged _ _ _ _
    · exact total_pure ()
  | lidarPoints batch => exact total_publish h _ _
  | lidarImu sample => exact total_publish h _ _
  | roverRtcm data => exact total_publish h _ _
  | gnssRaw chunk => exact total_bind (hraw _ _ _) fun _ => hraw _ _ _
  | receiver position => exact total_bind (total_publish h _ _) fun _ => total_publish h _ _

/-! ## Runs -/

/-- Publishing counts no errors. -/
def SameErrors (s t : NodeState) : Prop := t.callbackErrors = s.callbackErrors

instance : Std.Refl SameErrors := ⟨fun _ => rfl⟩
instance : IsTrans NodeState SameErrors := ⟨fun _ _ _ h h' => h'.trans h⟩

theorem sameErrors_publish (topic : Topic) (message : Message) :
    Within SameErrors (publish w topic message) := by
  intro s
  rw [publish_eq]
  cases w.publish s.calls <;> rfl

theorem sameErrors_acknowledgePublication (reliable : Bool) :
    Within SameErrors (acknowledgePublication w k reliable) := by
  intro s
  cases h : w.ddsAckSupported with
  | false =>
    rw [acknowledgePublication_unsupported h]
    rfl
  | true => exact congrArg (fun r => r.2.callbackErrors) (acknowledgePublication_eq h reliable)

theorem sameErrors_publishValue (value : Value) : Within SameErrors (publishValue w value) :=
  within_publishValue (fun topic message _ => sameErrors_publish topic message)
    (fun topic _ message reliable _ => within_bind (sameErrors_publish topic message)
      fun _ => sameErrors_acknowledgePublication reliable) value

theorem deliver_value (value : Value) : ∃ out, Outcome w value out ∧
    (deliver w s (.value value)).published = s.published ++ out.1 ∧
    (deliver w s (.value value)).callbackErrors = s.callbackErrors + out.2.toNat := by
  obtain ⟨sent,hsent,hbegun,hall⟩ := emits_publishValue (w := w) value s
  have herrors := sameErrors_publishValue (w := w) value s
  unfold SameErrors at herrors
  rcases returns_or_throws (publishValue w value) s with ⟨u,hr⟩ | ⟨e,he⟩
  · refine ⟨(sent,false),⟨hbegun,fun _ => hall u _ hr,fun _ => rfl⟩,?_,?_⟩
    · rw [← hsent,deliver,hr]
    · rw [deliver,hr]
      exact herrors
  · refine ⟨(sent,true),⟨hbegun,fun h => Bool.noConfusion h,fun h => ?_⟩,?_,?_⟩
    · exact absurd he (total_publishValue h value s e _)
    · rw [← hsent,deliver,he]
    · rw [deliver,he]
      exact congrArg (· + 1) herrors

theorem run_deliver (callbacks : List Callback) (s : NodeState) : ∃ outs,
    List.Forall₂ (Outcome w) (valuesOf callbacks) outs ∧
    (run (deliver w) s callbacks).published = s.published ++ outs.flatMap Prod.fst ∧
    (run (deliver w) s callbacks).callbackErrors = s.callbackErrors + outs.countP Prod.snd := by
  induction callbacks generalizing s with
  | nil => exact ⟨[],.nil,(List.append_nil _).symm,rfl⟩
  | cons c rest ih =>
    obtain ⟨outs,houts,hpublished,herrors⟩ := ih (deliver w s c)
    cases c with
    | value value =>
      obtain ⟨out,hout,hsent,hcount⟩ := deliver_value (w := w) (s := s) value
      refine ⟨out :: outs,.cons hout houts,?_,?_⟩
      · rw [List.flatMap_cons,← List.append_assoc,← hsent]
        exact hpublished
      · rw [List.countP_cons]
        refine herrors.trans ?_
        rw [hcount]
        cases out.2 <;> simp
        omega
    | status status =>
      have hstate : (deliver w s (.status status)).published = s.published ∧
          (deliver w s (.status status)).callbackErrors = s.callbackErrors := by
        simp only [deliver,publishStatus_eq]
        cases w.publish s.calls <;> exact ⟨rfl,rfl⟩
      exact ⟨outs,houts,by rw [← hstate.1]; exact hpublished,by rw [← hstate.2]; exact herrors⟩

theorem outcomes_of_steady (h : Steady w) {values : List Value}
    {outs : List (List (Topic × Message) × Bool)} (houts : List.Forall₂ (Outcome w) values outs) :
    outs.flatMap Prod.fst = values.flatMap (messagesOf w) ∧ outs.countP Prod.snd = 0 := by
  induction houts with
  | nil => exact ⟨rfl,rfl⟩
  | cons hout _ ih =>
    have hfalse := hout.steady h
    rw [List.flatMap_cons,List.flatMap_cons,List.countP_cons,ih.1,ih.2,hout.complete hfalse,hfalse]
    exact ⟨rfl,rfl⟩

theorem diagnose_level (status : Driver.DriverStatus) :
    ((diagnose w s status).level = .error ↔ status.error ≠ "") ∧
    ((diagnose w s status).level = .ok ↔
      status.error = "" ∧ w.ddsAckSupported = true ∧ s.ddsAckTimeouts = 0) := by
  unfold diagnose
  by_cases herror : status.error = "" <;> by_cases hcount : s.ddsAckTimeouts = 0 <;>
    cases w.ddsAckSupported <;> simp [herror,hcount]

theorem ofNat_eq_zero_iff (n : ℕ) : UInt64.ofNat n = 0 ↔ 2 ^ 64 ∣ n := by
  rw [← UInt64.toNat_inj,UInt64.toNat_ofNat',Nat.dvd_iff_mod_eq_zero]
  rfl

/-- Whatever the subscribers acknowledge, every value is published in full and in order as
long as the middleware publishes; and the diagnostics are clear only when every call that was
answered was confirmed, or their count has wrapped. -/
theorem publications_told (callbacks : List Callback) :
    let s := run (deliver w) {} callbacks
    (∃ outs, List.Forall₂ (Outcome w) (valuesOf callbacks) outs ∧
      s.published = outs.flatMap Prod.fst ∧ s.callbackErrors = outs.countP Prod.snd) ∧
    (Steady w → s.published = (valuesOf callbacks).flatMap (messagesOf w) ∧ s.callbackErrors = 0) ∧
    s.acks.map Prod.fst =
      (if w.ddsAckSupported then s.published.filterMap fun m => m.1.window else []) ∧
    (∀ k, Fenced k.limit ⟨s.ack k,s.on k⟩) ∧
    (∀ k before burst after, s.on k = before ++ burst ++ after →
      (∀ c ∈ burst, c.publication.confirmable = true ∧ c.waited = false) → burst.length < k.limit) ∧
    ∀ status, let d := diagnose w s status
      d.ddsAckTimeouts = UInt64.ofNat (s.acks.countP fun a => unconfirmed a.2) ∧
      (d.level = .error ↔ status.error ≠ "") ∧
      (d.level = .ok ↔ status.error = "" ∧ w.ddsAckSupported = true ∧
        2 ^ 64 ∣ s.acks.countP fun a => unconfirmed a.2) := by
  intro s
  have htallied : Tallied w s := tallied_run tallied_initial callbacks
  obtain ⟨outs,houts,hpublished,herrors⟩ := run_deliver (w := w) callbacks {}
  rw [List.nil_append] at hpublished
  rw [Nat.zero_add] at herrors
  refine ⟨⟨outs,houts,hpublished,herrors⟩,fun h => ?_,htallied.asked,htallied.fenced,?_,?_⟩
  · obtain ⟨hflat,hcount⟩ := outcomes_of_steady h houts
    exact ⟨hpublished.trans hflat,herrors.trans hcount⟩
  · intro k before burst after hsplit
    exact (htallied.fenced k).burst k.limit_pos hsplit
  · intro status
    obtain ⟨herror,hok⟩ := diagnose_level (w := w) (s := s) status
    rw [htallied.timeouts,ofNat_eq_zero_iff] at hok
    exact ⟨htallied.timeouts,herror,hok⟩

end

end PrismRosAdapter.Node
