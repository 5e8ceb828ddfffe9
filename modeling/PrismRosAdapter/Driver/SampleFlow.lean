import PrismRosAdapter.Driver.Shutdown
import PrismRosAdapter.Lidar.ConvertedBatches
import PrismRosAdapter.Program.Drawing

/-! # From the SDK to the dispatchers

The samples, chunks and camera sets that a driver hands to its dispatchers are some of those
the SDK has handed to it, in the order of the SDK's answers and none of them twice, and the
counters of the status count just these.
-/
namespace PrismRosAdapter.Driver
open Program Runs Health Lidar Timing StableOrder

/-! ## What the SDK hands over -/

inductive Arrival where
  | boardImu (sample : ImuSample)
  | lidarPoints (batch : SdkLidarPointBatch)
  | lidarImu (sample : SdkLidarImuSample)
  | roverChunk (chunk : RoverRtcmChunk)
  | cameraSet (frame : CapturedSet)

namespace Arrival

def boardImu? : Arrival → Option ImuSample
  | .boardImu sample => some sample
  | _ => none

def lidarPoints? : Arrival → Option SdkLidarPointBatch
  | .lidarPoints batch => some batch
  | _ => none

def lidarImu? : Arrival → Option SdkLidarImuSample
  | .lidarImu sample => some sample
  | _ => none

def roverChunk? : Arrival → Option RoverRtcmChunk
  | .roverChunk chunk => some chunk
  | _ => none

def cameraSet? : Arrival → Option CapturedSet
  | .cameraSet frame => some frame
  | _ => none

end Arrival

namespace Frame

def rover : Frame → List Arrival
  | .roverRtcm (.ok chunk) => [.roverChunk chunk]
  | _ => []

def boardImu : Frame → List Arrival
  | .imuSample (.ok sample) => [.boardImu sample]
  | _ => []

def lidar : Frame → List Arrival
  | .lidarPoints (.ok batch) => [.lidarPoints batch]
  | .lidarImuSample (.ok sample) => [.lidarImu sample]
  | _ => []

def arrivals (frame : Frame) : List Arrival := frame.rover ++ (frame.boardImu ++ frame.lidar)

end Frame

def CameraChunkResult.sets (result : CameraChunkResult) : List Arrival :=
  result.partialFrames.map .cameraSet ++ result.completed.toList.map .cameraSet

/-- What an answer of the SDK brings; camera sets come from its assembler. -/
def Event.arrivals : Event → List Arrival
  | .readFrame (.ok frame) => frame.arrivals
  | .assembled (.ok result) => result.sets
  | .completedByMetadata (.ok frame) => frame.toList.map .cameraSet
  | _ => []

/-! ## What is made of it -/

/-- Without the time, which the resolver may have chosen. -/
def LidarImuSample.untimed (sample : LidarImuSample) : LidarImuSample := { sample with timestampNs := 0 }

def RtcmData.chunk (data : RtcmData) : RoverRtcmChunk :=
  ⟨data.sequence,data.flags,data.droppedBytes,data.data⟩

def timedOutput (frame : CapturedSet) : CameraFrameSet :=
  cameraOutput frame (frame.metadata.valid && frame.metadata.triggerTimeNs != 0)

/-- The dispatched values, as far as they come from the SDK, and their counters. -/
structure Ledger where
  boardImu : List BoardImuSample := []
  lidarImu : List LidarImuSample := []
  rover : List RoverRtcmChunk := []
  camera : List CameraFrameSet := []
  boardImuSamples : Fin 2 → UInt64 := fun _ => 0
  lidarImuSamples : UInt64 := 0
  lidarBatches : UInt64 := 0
  lidarPoints : UInt64 := 0
  selected : UInt64 := 0
  cameraFrameSets : UInt64 := 0

def Receive.ledger (r : Receive) : Ledger where
  boardImu := r.boardImuDispatch
  lidarImu := r.lidarImuDispatch.map LidarImuSample.untimed
  rover := r.roverDispatch.map RtcmData.chunk
  camera := r.cameraDispatch
  boardImuSamples := r.boardImuSamples
  lidarImuSamples := r.lidarImuSamples
  lidarBatches := r.lidarBatches
  lidarPoints := r.lidarPoints
  selected := r.lidarRawTimestampSelected + r.lidarSdkTimestampSelected
  cameraFrameSets := r.cameraFrameSets

def Ledger.pass (l : Ledger) : Arrival → Ledger
  | .boardImu sample => { l with
      boardImu := l.boardImu ++ [boardSample sample]
      boardImuSamples := fun i =>
        if i.val = sample.sensorId.toNat then l.boardImuSamples i + 1 else l.boardImuSamples i }
  | .lidarPoints batch => { l with
      lidarBatches := l.lidarBatches + 1
      lidarPoints := l.lidarPoints + UInt64.ofNat batch.points.length
      selected := l.selected + 1 }
  | .lidarImu sample => { l with
      lidarImu := l.lidarImu ++ [(lidarImuOutput sample none).untimed]
      lidarImuSamples := l.lidarImuSamples + 1
      selected := l.selected + 1 }
  | .roverChunk chunk => { l with rover := l.rover ++ [chunk] }
  | .cameraSet frame => { l with
      camera := l.camera ++ [timedOutput frame]
      cameraFrameSets := l.cameraFrameSets + 1 }

/-- The journal supplies, and what is passed on is entered in the ledger. -/
def flow : Drawing DriverState Arrival where
  supplied s := s.link.journal.flatMap (·.event.arrivals)
  made passed s t := t.receive.ledger = passed.foldl Ledger.pass s.receive.ledger
  made_nil _ := rfl
  made_append h h' := by rw [List.foldl_append,← h,h']

section
variable {w : World} {s t : DriverState} {given : List Arrival}

/-! ## Actions that pass nothing on -/

theorem supplied_note (event : Event) :
    flow.supplied (s.note event) = flow.supplied s ++ event.arrivals := by
  simp [flow,DriverState.note]

theorem supplied_asked (event : Event) :
    flow.supplied (s.asked event) = flow.supplied s ++ event.arrivals := supplied_note event

theorem uses_of_same {α : Type} {x : Driving α} (hj : ∀ s, (x s).2.link.journal = s.link.journal)
    (hl : ∀ s, (x s).2.receive.ledger = s.receive.ledger) : Within (flow.Uses []) x :=
  fun s => ⟨congrArg (List.flatMap _) (hj s),[],List.Sublist.refl _,hl s⟩

theorem uses_modifyHealth (g : SensorDataHealth → SensorDataHealth) :
    Within (flow.Uses []) (modifyHealth g) := uses_of_same (fun _ => rfl) fun _ => rfl

theorem uses_modifyControl (g : Control → Control) : Within (flow.Uses []) (modifyControl g) :=
  uses_of_same (fun _ => rfl) fun _ => rfl

theorem uses_modifyReceive {g : Receive → Receive} (hg : ∀ r, (g r).ledger = r.ledger) :
    Within (flow.Uses []) (modifyReceive g) := uses_of_same (fun _ => rfl) fun s => hg s.receive

theorem uses_nextTick : Within (flow.Uses []) nextTick := uses_of_same (fun _ => rfl) fun _ => rfl
theorem uses_nextCall : Within (flow.Uses []) nextCall := uses_of_same (fun _ => rfl) fun _ => rfl

theorem uses_steadyNowNs : Within (flow.Uses []) (steadyNowNs w) :=
  within_bind uses_nextTick fun _ => within_pure _

theorem uses_addIssue (stream : Stream) (issue : Issue) :
    Within (flow.Uses []) (addIssue stream issue) := uses_modifyHealth _

theorem uses_note {event : Event} (h : event.arrivals = []) : Within (flow.Uses []) (note event) := by
  intro s
  have hs := supplied_note (s := s) event
  rw [h,List.append_nil] at hs
  exact ⟨hs,[],List.Sublist.refl _,rfl⟩

theorem uses_healthObserve (stream : Stream) (stampNs : UInt64) (sequence : UInt32) (bits : ℕ)
    (equalStampValid : Bool) :
    Within (flow.Uses []) (healthObserve w stream stampNs sequence bits equalStampValid) :=
  within_bind uses_steadyNowNs fun _ => uses_modifyHealth _

theorem uses_observe (stream : Stream) (stampNs : UInt64) (sequence : UInt32) (bits : ℕ)
    (equalStampValid : Bool) :
    Within (flow.Uses []) (observe w stream stampNs sequence bits equalStampValid) :=
  within_sampling (uses_healthObserve _ _ _ _ _) fun _ => uses_note rfl

theorem uses_dropUnsynchronized (stream : Stream) :
    Within (flow.Uses []) (dropUnsynchronized stream) :=
  within_bind (uses_addIssue _ _) fun _ => uses_modifyReceive fun _ => rfl

theorem uses_ask {α : Type} {event : Except Failure α → Event} {reply : ℕ → Except Failure α}
    (h : ∀ a, (event a).arrivals = []) : Within (flow.Uses []) (ask event reply) := by
  refine within_of_leaves fun s t hx => ?_
  rcases leaves_iff.mp hx with ⟨e,hx⟩ | ⟨a,hx⟩
  · obtain ⟨_,rfl⟩ := throws_ask.mp hx
    exact ⟨by rw [supplied_asked,h,List.append_nil],[],List.Sublist.refl _,rfl⟩
  · obtain ⟨_,rfl⟩ := returns_ask.mp hx
    exact ⟨by rw [supplied_asked,h,List.append_nil],[],List.Sublist.refl _,rfl⟩

/-- What a call is answered with is at the disposal of the rest. -/
theorem draws_ask {α β : Type} {event : Except Failure α → Event} {reply : ℕ → Except Failure α}
    {rest : α → Driving β} (h : ∀ a, Within (flow.Draws (event (.ok a)).arrivals) (rest a)) :
    Within (flow.Draws []) (ask event reply >>= rest) := by
  refine within_of_leaves fun s u hx => ?_
  rcases leaves_bind.mp hx with ⟨e,hx⟩ | ⟨a,t,ht,hx⟩
  · obtain ⟨_,rfl⟩ := throws_ask.mp hx
    exact ⟨_,[],supplied_asked _,List.nil_sublist _,rfl⟩
  · obtain ⟨_,rfl⟩ := returns_ask.mp ht
    exact Drawing.draws_supply (supplied_asked _) rfl ((h a).leaves hx)

theorem uses_idle {α : Type} {x : Driving α} (h : Within (flow.Uses []) x) :
    Within (flow.Uses given) x := Drawing.within_uses_mono h (List.nil_sublist given)

theorem uses_answer {α β : Type} {r : Except Failure α} {rest : α → Driving β}
    (h : ∀ value, r = .ok value → Within (flow.Uses given) (rest value)) :
    Within (flow.Uses given) (Program.answer r >>= rest) := by
  refine within_of_leaves fun s u hx => ?_
  rcases leaves_bind.mp hx with ⟨e,he⟩ | ⟨value,t,ht,hrest⟩
  · exact (uses_idle (within_answer _)).throws he
  · obtain ⟨hvalue,rfl⟩ := returns_answer.mp ht
    exact (h value hvalue).leaves hrest

/-! ## The handlers -/

/-- The one action of a handler that enters its sample in the ledger. -/
theorem uses_pass {g : Receive → Receive} {item : Arrival} (h : ∀ r, (g r).ledger = r.ledger.pass item) :
    Within (flow.Uses [item]) (modifyReceive g) :=
  fun s => ⟨rfl,[item],List.Sublist.refl _,h s.receive⟩

theorem uses_dispatchBoardImu (sample : ImuSample) :
    Within (flow.Uses [.boardImu sample]) (dispatchBoardImu w sample) := by
  unfold dispatchBoardImu
  refine within_ite (uses_idle (uses_addIssue _ _)) ?_
  refine Drawing.within_uses_last (uses_observe _ _ _ _ _) (fun _ => ?_)
  refine Drawing.within_uses_last (within_whenever (uses_addIssue _ _)) (fun _ => ?_)
  refine Drawing.within_uses_last within_get (fun s => within_ite (uses_idle ?_) ?_)
  · exact within_bind (uses_addIssue _ _) fun _ => uses_modifyReceive fun _ => rfl
  · refine Drawing.within_uses_last (within_ite ?_ (within_pure ())) (fun _ => uses_pass fun _ => rfl)
    exact within_bind uses_steadyNowNs fun _ => uses_modifyReceive fun _ => rfl

theorem uses_resolveLidarTime (sdkNs rawNs : UInt64) :
    Within (flow.Uses []) (resolveLidarTime w sdkNs rawNs) :=
  within_bind within_get fun _ => within_bind uses_steadyNowNs fun _ =>
    within_bind uses_steadyNowNs fun _ => within_pure _

theorem uses_gate {stream : Stream} {times : LidarTimes}
    {pass : Option DeviceTimeResolution → Driving Unit} (h : ∀ r, Within (flow.Uses given) (pass r)) :
    Within (flow.Uses given) (gate w stream times pass) := by
  refine Drawing.within_uses_last within_get (fun s => ?_)
  refine within_ite (uses_idle (uses_dropUnsynchronized _)) ?_
  refine Drawing.within_uses_last (uses_resolveLidarTime _ _) (fun _ => ?_)
  exact within_ite (uses_idle (uses_dropUnsynchronized _)) (h _)

/-- Either time is counted. -/
theorem countSelected_selected (r : Receive) (resolved : Option DeviceTimeResolution) :
    (countSelected r resolved).ledger = { r.ledger with selected := r.ledger.selected + 1 } := by
  unfold countSelected
  split
  · simp only [Receive.ledger, Ledger.mk.injEq, true_and, and_true]
    rw [UInt64.add_assoc,UInt64.add_comm 1,← UInt64.add_assoc]
  · simp only [Receive.ledger, Ledger.mk.injEq, true_and, and_true]
    exact (UInt64.add_assoc _ _ _).symm

theorem convertLidarBatch_length {batch : SdkLidarPointBatch} {base : UInt64} {out : LidarPointBatch}
    (h : convertLidarBatch w batch base = .ok out) : out.points.length = batch.points.length := by
  rcases mapM_cases (f := fun i => w.lidarPointTimestampNs batch i base)
    (List.range batch.points.length) with ⟨times,hok,htimes⟩ | ⟨e,herror,_⟩
  · obtain ⟨order,htimed,hmap⟩ := timed_of_times htimes
    rw [convertLidarBatch_eq hok hmap] at h
    rcases mapM_cases (f := convertTimedPoint w (startNs base order)) (order.map Prod.fst) with
      ⟨points,hbuilt,hpoints⟩ | ⟨e,herror,_⟩
    · rw [hbuilt] at h
      obtain rfl := Except.ok.inj h
      have hplaces := htimed.perm.length_eq
      rw [List.length_map,List.length_range] at hplaces
      rw [← hpoints.length_eq,List.length_map,hplaces]
    · rw [herror] at h
      cases h
  · unfold convertLidarBatch at h
    rw [herror] at h
    cases h

theorem uses_passLidarBatch (batch : SdkLidarPointBatch) (resolved : Option DeviceTimeResolution) :
    Within (flow.Uses [.lidarPoints batch]) (passLidarBatch w batch resolved) := by
  refine uses_answer fun source hsource => ?_
  have hlength := convertLidarBatch_length hsource
  refine Drawing.within_uses_bind (b := []) (uses_pass fun r => ?_) (fun _ => ?_)
  · rw [hlength]
    have hselected := congrArg (fun l : Ledger => { l with
      lidarBatches := r.lidarBatches + 1
      lidarPoints := r.lidarPoints + UInt64.ofNat batch.points.length })
      (countSelected_selected r resolved)
    exact hselected
  · exact within_bind (uses_of_same (fun _ => rfl) fun _ => rfl) fun _ =>
      uses_modifyReceive fun _ => rfl

theorem uses_passLidarImu (sample : SdkLidarImuSample) (resolved : Option DeviceTimeResolution) :
    Within (flow.Uses [.lidarImu sample]) (passLidarImu sample resolved) := by
  refine uses_pass fun r => ?_
  have hselected := congrArg (fun l : Ledger => { l with
    lidarImuSamples := r.lidarImuSamples + 1
    lidarImu := r.lidarImuDispatch.map LidarImuSample.untimed ++ [(lidarImuOutput sample none).untimed] })
    (countSelected_selected r resolved)
  refine Eq.trans ?_ hselected
  simp only [Receive.ledger, List.map_append, List.map_singleton]
  rfl

theorem uses_dispatchLidarPoints (batch : SdkLidarPointBatch) :
    Within (flow.Uses [.lidarPoints batch]) (dispatchLidarPoints w batch) := by
  rw [dispatchLidarPoints_eq]
  refine Drawing.within_uses_last (uses_observe _ _ _ _ _) (fun _ => ?_)
  exact Drawing.within_uses_last (within_whenever (uses_addIssue _ _)) fun _ =>
    uses_gate (uses_passLidarBatch batch)

theorem uses_dispatchLidarImu (sample : SdkLidarImuSample) :
    Within (flow.Uses [.lidarImu sample]) (dispatchLidarImu w sample) := by
  rw [dispatchLidarImu_eq]
  exact Drawing.within_uses_last (uses_observe _ _ _ _ _) fun _ => uses_gate (uses_passLidarImu sample)

theorem uses_publishCameraFrame (frame : CapturedSet) :
    Within (flow.Uses [.cameraSet frame]) (publishCameraFrame w frame) := by
  have himage : ∀ valid i, Within (flow.Uses []) (observeImage w frame valid i) := fun _ _ =>
    within_ite (within_pure ()) (within_bind (uses_observe _ _ _ _ _) fun _ =>
      within_bind within_get fun _ => within_whenever (uses_addIssue _ _))
  refine Drawing.within_uses_last within_get (fun s => ?_)
  refine within_ite (uses_idle (within_pure ())) ?_
  refine Drawing.within_uses_last (within_forEach (himage _) _) (fun _ => ?_)
  exact within_ite (uses_idle (uses_modifyReceive fun _ => rfl)) (uses_pass fun _ => rfl)

theorem uses_receiveRoverChunk (chunk : RoverRtcmChunk) :
    Within (flow.Uses [.roverChunk chunk]) (receiveRoverChunk w chunk) := by
  refine Drawing.within_uses_last uses_nextTick (fun tick => ?_)
  refine Drawing.within_uses_last ?_ (fun _ => uses_pass fun r => ?_)
  · refine within_sampling (within_bind (uses_healthObserve _ _ _ _ _) fun _ => ?_)
      fun _ => uses_note rfl
    exact within_bind (uses_modifyHealth _) fun _ => uses_modifyHealth _
  · simp only [Receive.ledger, List.map_append, List.map_singleton]
    rfl

/-! ## Frames -/

theorem uses_handleSample {α : Type} {stream : StreamObject} {sample : Except Failure α}
    {handler : α → Driving Unit}
    (h : ∀ value, sample = .ok value → Within (flow.Uses given) (handler value)) :
    Within (flow.Uses given) (handleSample w stream sample handler) := by
  have hdelivers : Within (flow.Uses []) (delivers w stream) :=
    within_ite (within_pure _) (within_bind uses_nextCall fun _ => within_pure _)
  refine Drawing.within_uses_last hdelivers (fun delivered => ?_)
  cases delivered with
  | false => exact uses_idle (within_pure _)
  | true =>
    refine uses_answer fun value hvalue => ?_
    have hrest := Drawing.within_uses_bind (b := []) (h value hvalue) fun _ =>
      within_pure (w.rkLocal || true)
    rwa [List.append_nil] at hrest

theorem uses_handleRoverFrame (frame : Frame) :
    Within (flow.Uses frame.rover) (handleRoverFrame w frame) := by
  refine Drawing.within_uses_last within_get (fun s => ?_)
  cases frame with
  | roverRtcm chunk =>
    refine within_ite ?_ (uses_idle (within_pure ()))
    refine uses_answer fun value hvalue => ?_
    subst hvalue
    exact uses_receiveRoverChunk value
  | _ => exact uses_idle (within_pure ())

theorem uses_handleImuFrame (stream : Option StreamObject) (frame : Frame) :
    Within (flow.Uses frame.boardImu) (handleImuFrame w stream frame) := by
  unfold handleImuFrame
  split
  · refine uses_handleSample fun value hvalue => ?_
    subst hvalue
    exact uses_dispatchBoardImu value
  · exact uses_idle (within_pure _)

theorem uses_handleLidarFrame (stream : Option StreamObject) (frame : Frame) :
    Within (flow.Uses frame.lidar) (handleLidarFrame w stream frame) := by
  unfold handleLidarFrame
  split
  · refine uses_handleSample fun value hvalue => ?_
    subst hvalue
    exact uses_dispatchLidarPoints value
  · refine uses_handleSample fun value hvalue => ?_
    subst hvalue
    exact uses_dispatchLidarImu value
  · exact uses_idle (within_pure _)

theorem uses_acknowledgeVideo (frameId : UInt32) : Within (flow.Uses []) (acknowledgeVideo w frameId) :=
  within_ite (within_pure ()) (uses_ask fun _ => rfl)

theorem uses_finishSet (frame : Option CapturedSet) :
    Within (flow.Uses (frame.toList.map .cameraSet)) (finishSet w frame) := by
  cases frame with
  | none => exact within_pure (R := flow.Uses []) ()
  | some set =>
    exact Drawing.within_uses_last (uses_acknowledgeVideo _) fun _ =>
      Drawing.within_uses_last (uses_note rfl) fun _ => uses_publishCameraFrame set

theorem uses_consumeCameraResult (result : CameraChunkResult) :
    Within (flow.Uses result.sets) (consumeCameraResult w result) := by
  have hdiagnostic : ∀ diagnostic, Within (flow.Uses []) (checkDiagnostic diagnostic) := fun _ =>
    within_bind within_get fun _ => within_bind
      (within_forEach (fun _ => within_whenever (uses_addIssue _ _)) _) fun _ =>
        within_whenever (uses_addIssue _ _)
  refine Drawing.within_uses_last (within_forEach uses_acknowledgeVideo _) (fun _ => ?_)
  have hcheck : Within (flow.Uses []) (checkCameraDiagnostics result) :=
    within_bind within_get fun _ => within_ite (within_forEach hdiagnostic _) (within_pure ())
  refine Drawing.within_uses_last hcheck (fun _ => ?_)
  exact Drawing.within_uses_bind (Drawing.within_uses_forEach uses_publishCameraFrame _) fun _ =>
    uses_finishSet _

theorem draws_handleVideoFrame (frame : Frame) : Within (flow.Draws []) (handleVideoFrame w frame) := by
  have hmeta : ∀ metadata, Within (flow.Uses []) (observeMeta w metadata) := fun _ =>
    within_bind within_get fun _ => within_ite
      (within_ite (uses_observe _ _ _ _ _) (uses_addIssue _ _)) (within_pure ())
  have htime : ∀ metadata, Within (flow.Uses []) (observeCameraTime w metadata) := fun _ =>
    within_ite (within_bind uses_steadyNowNs fun _ => uses_modifyReceive fun _ => rfl) (within_pure ())
  cases frame with
  | videoChunk chunk =>
    refine within_bind (within_answer _) (fun value => draws_ask fun result => ?_)
    exact Drawing.within_draws (uses_consumeCameraResult result)
  | videoMeta metadata =>
    refine within_bind (within_answer _) (fun value => ?_)
    refine within_bind (Drawing.within_draws (hmeta value)) (fun _ => ?_)
    refine within_bind (Drawing.within_draws (htime value)) (fun _ => ?_)
    exact draws_ask fun set => Drawing.within_draws (uses_finishSet set)
  | _ => exact within_pure ()

theorem draws_receiveFrame : Within (flow.Draws []) (receiveFrame w) := by
  refine draws_ask fun frame => ?_
  refine Drawing.within_draws_bind (uses_handleRoverFrame frame) (fun _ => ?_)
  have hrest := fun s : DriverState =>
    Drawing.within_draws_bind (uses_handleImuFrame (w := w) s.control.imuStream frame) fun imuHandled =>
      Drawing.within_draws_bind (uses_handleLidarFrame (w := w) s.control.lidarStream frame)
        fun lidarHandled => within_whenever (c := !imuHandled && !lidarHandled)
          (draws_handleVideoFrame (w := w) frame)
  simp only [List.append_nil] at hrest
  exact Drawing.within_draws_bind (a := []) within_get hrest

/-- A frame that is read while a clock reference is awaited may find no handler. -/
theorem draws_awaitReferenceFrame : Within (flow.Draws []) (awaitReferenceFrame w) := by
  refine draws_ask fun frame => ?_
  have hrest := fun s : DriverState =>
    Drawing.within_draws_bind (Drawing.within_uses_mono
      (uses_handleImuFrame (w := w) s.control.imuStream frame)
      (show frame.boardImu.Sublist frame.arrivals from
        (List.sublist_append_left _ _).trans (List.sublist_append_right _ _)))
      fun handled => within_whenever (c := !handled) (draws_handleVideoFrame (w := w) frame)
  simp only [List.append_nil] at hrest
  exact Drawing.within_draws_bind (a := []) within_get hrest

theorem draws_expireCameraSets : Within (flow.Draws []) (expireCameraSets w) :=
  draws_ask fun result => Drawing.within_draws (uses_consumeCameraResult result)

/-! ## Commands and runs -/

theorem arrivals_of_feed {e : Event} (h : e.feed ≠ none) : e.arrivals = [] := by
  cases e <;> first | rfl | exact absurd rfl h

theorem draws_control (g : Control → Control) : Within (flow.Draws []) (modifyControl g) :=
  Drawing.within_draws (uses_modifyControl g)

theorem draws_health (g : SensorDataHealth → SensorDataHealth) :
    Within (flow.Draws []) (modifyHealth g) := Drawing.within_draws (uses_modifyHealth g)

theorem draws_plain {α : Type} {event : Except Failure α → Event} {reply : ℕ → Except Failure α}
    (h : ∀ a, (event a).arrivals = []) : Within (flow.Draws []) (ask event reply) :=
  Drawing.within_draws (uses_ask h)

theorem adjusts_draws (w : World) : Adjusts w (flow.Draws []) where
  control := fun _ => draws_control _
  reset := fun _ _ _ => within_bind (Drawing.within_draws uses_steadyNowNs) fun _ => draws_health _
  resetCounter := draws_health _
  disable := draws_health _
  accumulate := fun _ => Drawing.within_draws (uses_of_same (fun _ => rfl) fun _ => rfl)
  call := Drawing.within_draws uses_nextCall
  ask := fun he => draws_plain fun a => arrivals_of_feed (he a)
  recorded := fun he hx => within_andThen hx fun a s =>
    (Drawing.within_draws (uses_note (arrivals_of_feed (he a)))) s

theorem draws_establishDeviceTimeReference :
    Within (flow.Draws []) (establishDeviceTimeReference w) := by
  unfold establishDeviceTimeReference
  refine within_bind within_get (fun s => within_ite (within_pure ()) ?_)
  refine within_bind (Drawing.within_draws uses_nextTick) (fun tick => ?_)
  refine within_bind (within_repeatWhile (within_survivingTimeout draws_awaitReferenceFrame) _)
    (fun _ => ?_)
  exact Drawing.within_draws (uses_modifyReceive fun _ => rfl)

theorem keeps_draws (w : World) : Keeps w (flow.Draws []) where
  control := fun _ => draws_control _
  fatal := fun _ => draws_control _
  status := fun _ _ => Drawing.within_draws (uses_of_same (fun _ => rfl) fun _ => rfl)
  resolver := Drawing.within_draws (uses_modifyReceive fun _ => rfl)
  plain := fun _ _ => draws_plain fun _ => rfl
  query := fun _ => draws_plain fun _ => rfl
  rover := fun enable => (adjusts_draws w).askRover enable
  opened := fun _ => within_bind (draws_plain fun _ => rfl) fun _ =>
    Drawing.within_draws (uses_of_same (fun _ => rfl) fun _ => rfl)
  start := (adjusts_draws w).startConfiguredStreams draws_establishDeviceTimeReference
  stop := (adjusts_draws w).stopConfiguredStreams

theorem draws_verifyIdentity (info : DeviceInfo) :
    Within (flow.Draws []) (verifyIdentity w info) := by
  unfold verifyIdentity
  refine within_bind within_get (fun s => within_ite (within_pure ()) ?_)
  refine within_bind (within_ite (within_pure _) (within_bind (Drawing.within_draws uses_nextCall)
    fun _ => within_pure _)) (fun equal => ?_)
  refine within_bind (Drawing.within_draws (uses_note rfl)) (fun _ => within_ite ?_ (within_throw _))
  exact Drawing.within_draws (uses_of_same (fun _ => rfl) fun _ => rfl)

theorem draws_runDriver (passes : List Pass) : Within (flow.Draws []) (runDriver w passes) :=
  (keeps_draws w).upholds.runDriver (adjusts_draws w)
    (Drawing.within_draws (uses_of_same (fun _ => rfl) fun _ => rfl)) draws_verifyIdentity
      draws_receiveFrame draws_expireCameraSets passes

/-- What is to be dispatched and counted of the arrivals that are passed on. -/
def Ledger.of (passed : List Arrival) : Ledger where
  boardImu := (passed.filterMap Arrival.boardImu?).map boardSample
  lidarImu := (passed.filterMap Arrival.lidarImu?).map fun sample => (lidarImuOutput sample none).untimed
  rover := passed.filterMap Arrival.roverChunk?
  camera := (passed.filterMap Arrival.cameraSet?).map timedOutput
  boardImuSamples := fun i => UInt64.ofNat
    ((passed.filterMap Arrival.boardImu?).countP fun sample => i.val = sample.sensorId.toNat)
  lidarImuSamples := UInt64.ofNat (passed.filterMap Arrival.lidarImu?).length
  lidarBatches := UInt64.ofNat (passed.filterMap Arrival.lidarPoints?).length
  lidarPoints := UInt64.ofNat ((passed.filterMap Arrival.lidarPoints?).flatMap (·.points)).length
  selected := UInt64.ofNat (passed.filterMap Arrival.lidarPoints?).length +
    UInt64.ofNat (passed.filterMap Arrival.lidarImu?).length
  cameraFrameSets := UInt64.ofNat (passed.filterMap Arrival.cameraSet?).length

theorem Ledger.of_snoc (passed : List Arrival) (item : Arrival) :
    Ledger.of (passed ++ [item]) = (Ledger.of passed).pass item := by
  cases item with
  | boardImu sample =>
    simp only [Ledger.of, Ledger.pass, List.filterMap_append, List.filterMap_cons, List.filterMap_nil,
      Arrival.boardImu?, Arrival.lidarImu?, Arrival.roverChunk?, Arrival.cameraSet?,
      Arrival.lidarPoints?, List.append_nil, List.map_append, List.map_singleton,
      List.countP_append, List.countP_singleton, UInt64.ofNat_add]
    congr 1
    funext i
    split <;> simp_all
  | lidarPoints batch =>
    simp [Ledger.of, Ledger.pass, Arrival.boardImu?, Arrival.lidarImu?, Arrival.roverChunk?,
      Arrival.cameraSet?, Arrival.lidarPoints?, List.filterMap_cons]
    exact add_right_comm _ _ _
  | lidarImu sample =>
    simp [Ledger.of, Ledger.pass, Arrival.boardImu?, Arrival.lidarImu?, Arrival.roverChunk?,
      Arrival.cameraSet?, Arrival.lidarPoints?, List.filterMap_cons]
    exact (add_assoc _ _ _).symm
  | roverChunk chunk =>
    simp [Ledger.of, Ledger.pass, Arrival.boardImu?, Arrival.lidarImu?, Arrival.roverChunk?,
      Arrival.cameraSet?, Arrival.lidarPoints?, List.filterMap_cons]
  | cameraSet frame =>
    simp [Ledger.of, Ledger.pass, Arrival.boardImu?, Arrival.lidarImu?, Arrival.roverChunk?,
      Arrival.cameraSet?, Arrival.lidarPoints?, List.filterMap_cons]

theorem foldl_pass (passed : List Arrival) : passed.foldl Ledger.pass {} = Ledger.of passed := by
  induction passed using List.reverseRecOn with
  | nil => rfl
  | append_singleton passed item ih =>
    rw [List.foldl_append,List.foldl_cons,List.foldl_nil,ih,Ledger.of_snoc]

/-- Over all the runs of a driver, what it has dispatched and counted is what has become of
some of the arrivals, in their order and each at most once. -/
theorem arrivals_passed_on (w : World) (config : DriverConfig) (runs : List (List Pass)) :
    let s := run (runAgain w) (fresh config) runs
    ∃ passed, passed.Sublist (s.link.journal.flatMap (·.event.arrivals)) ∧
      s.receive.ledger = Ledger.of passed := by
  intro s
  have hdraws : flow.Draws [] (fresh config) s :=
    run_within (runAgain w) (fun t passes => draws_runDriver passes t) (fresh config) runs
  obtain ⟨passed,hsub,hmade⟩ := hdraws.total rfl
  refine ⟨passed,hsub,?_⟩
  rw [← foldl_pass]
  exact hmade

end
end PrismRosAdapter.Driver
