import PrismRosAdapter.Driver.Feeds

/-! # Received frames leave every feed alone

Whatever a frame contains and wherever its handling throws: no feed changes its
flag, its stream object or its silence monitoring, and no start or stop is sent.
-/
namespace PrismRosAdapter.Driver
open Program Health

abbrev Quiet : DriverState → DriverState → Prop := Confined (fun _ => False) fun _ => True

theorem Quiet.confined {A : Feed → Prop} {K : Event → Prop} (hK : ∀ e, e.feed = none → K e)
    {s t : DriverState} (h : Quiet s t) : Confined A K s t :=
  h.mono (fun _ => False.elim) fun e _ hf => hK e (Option.eq_none_iff_forall_ne_some.mpr hf)

theorem handles_confined (w : World) {A : Feed → Prop} {K : Event → Prop}
    (hK : ∀ sample found, K (.sampled sample found)) : Handles w (Confined A K) where
  health := fun hg => within_modifyHealth fun health _ _ lane _ => hg health lane
  receive := fun _ => within_modifyReceive _
  tick := within_nextTick
  call := within_nextCall
  accumulate := within_accumulate
  boardTime := fun _ => within_ite (within_bind (within_steadyNowNs w) fun _ =>
    within_modifyReceive _) (within_pure ())
  cameraTime := fun _ => within_ite (within_bind (within_steadyNowNs w) fun _ =>
    within_modifyReceive _) (within_pure ())
  sampled := fun _ _ => within_modify fun s => confined_note (hK _ _) (fun _ hf => by cases hf) s

theorem handles_quiet (w : World) : Handles w Quiet := handles_confined w fun _ _ => trivial

theorem quiet_ask {α : Type} {event : Except Failure α → Event} {reply : ℕ → Except Failure α}
    (h : ∀ a, (event a).feed = none) : Within Quiet (ask event reply) :=
  within_ask (fun _ => trivial) fun a f hf => Option.some_ne_none f (hf.symm.trans (h a))

theorem quiet_consult {α : Type} (name : String) (reply : ℕ → Except Failure α) :
    Within Quiet (consult name reply) := quiet_ask fun _ => rfl

theorem quiet_query (w : World) (q : Query) : Within Quiet (query w q) := quiet_ask fun _ => rfl

theorem quiet_note {event : Event} (h : event.feed = none) : Within Quiet (note event) :=
  within_modify fun s => confined_note trivial
    (fun f hf => Option.some_ne_none f (hf.symm.trans h)) s

/-! ## Whole frames -/

/-- Calls about no feed, and what is written down about them. -/
structure Asks (R : DriverState → DriverState → Prop) : Prop where
  ask : ∀ {α : Type} {event : Except Failure α → Event} {reply : ℕ → Except Failure α},
    (∀ a, (event a).aside = true) → Within R (Driver.ask event reply)
  note : ∀ {event : Event}, event.aside = true → Within R (Driver.note event)

/-- The actions that a received frame is made of: its handlers, and calls about no feed. -/
structure Receives (w : World) (R : DriverState → DriverState → Prop) : Prop
    extends Serves w R, Asks R

/-- The same with the handlers of the samples as they are. -/
structure Reads (w : World) (R : DriverState → DriverState → Prop) : Prop
    extends Dispatches w R, Asks R

section Receives
variable {w : World} {R : DriverState → DriverState → Prop} [Std.Refl R] [IsTrans DriverState R]

theorem Receives.reads (h : Receives w R) : Reads w R where
  toDispatches := h.dispatches
  toAsks := h.toAsks

omit [IsTrans DriverState R] in
theorem Reads.acknowledgeVideo (h : Reads w R) (frameId : UInt32) :
    Within R (Driver.acknowledgeVideo w frameId) :=
  within_ite (within_pure ()) (h.ask fun _ => rfl)

theorem Reads.finishSet (h : Reads w R) (frame : Option CapturedSet) :
    Within R (Driver.finishSet w frame) := by
  cases frame with
  | none => exact within_pure ()
  | some set =>
    exact within_bind (h.acknowledgeVideo _) fun _ => within_bind (h.note rfl) fun _ =>
      h.cameraFrame set

theorem Reads.consumeCameraResult (h : Reads w R) (result : CameraChunkResult) :
    Within R (Driver.consumeCameraResult w result) := by
  unfold Driver.consumeCameraResult
  refine within_bind (within_forEach h.acknowledgeVideo _) (fun _ => ?_)
  refine within_bind (h.diagnostics result) (fun _ => ?_)
  refine within_bind (within_forEach h.cameraFrame _) (fun _ => ?_)
  exact h.finishSet result.completed

theorem Reads.handleVideoChunk (h : Reads w R) (chunk : VideoChunk) :
    Within R (Driver.handleVideoChunk w chunk) :=
  within_bind (h.ask fun _ => rfl) fun result => h.consumeCameraResult result

theorem Reads.handleVideoMeta (h : Reads w R) (metadata : VideoMeta) :
    Within R (Driver.handleVideoMeta w metadata) := by
  unfold Driver.handleVideoMeta
  refine within_bind (h.metadata metadata) (fun _ => ?_)
  refine within_bind (h.cameraTime metadata) (fun _ => ?_)
  exact within_bind (h.ask fun _ => rfl) fun frame => h.finishSet frame

theorem Reads.handleVideoFrame (h : Reads w R) (frame : Frame) :
    Within R (Driver.handleVideoFrame w frame) := by
  cases frame with
  | videoChunk chunk => exact within_bind (within_answer _) fun _ => h.handleVideoChunk _
  | videoMeta metadata => exact within_bind (within_answer _) fun _ => h.handleVideoMeta _
  | _ => exact within_pure ()

theorem Reads.receiveFrame (h : Reads w R) : Within R (Driver.receiveFrame w) := by
  unfold Driver.receiveFrame
  refine within_bind (h.ask fun _ => rfl) (fun frame => ?_)
  refine within_bind (h.handleRoverFrame frame) (fun _ => ?_)
  refine within_bind within_get (fun s => ?_)
  refine within_bind (h.handleImuFrame _ frame) (fun imuHandled => ?_)
  refine within_bind (h.handleLidarFrame _ frame) (fun lidarHandled => ?_)
  exact within_whenever (h.handleVideoFrame frame)

theorem Reads.awaitReferenceFrame (h : Reads w R) :
    Within R (Driver.awaitReferenceFrame w) := by
  unfold Driver.awaitReferenceFrame
  refine within_bind (h.ask fun _ => rfl) (fun frame => ?_)
  refine within_bind within_get (fun s => ?_)
  refine within_bind (h.handleImuFrame _ frame) (fun handled => ?_)
  exact within_whenever (h.handleVideoFrame frame)

theorem within_survivingTimeout {x : Driving Unit} (h : Within R x) :
    Within R (survivingTimeout x) :=
  within_tryCatch h fun _ => within_ite (within_pure ()) (within_throw _)

theorem Receives.establishDeviceTimeReference (h : Receives w R) :
    Within R (Driver.establishDeviceTimeReference w) := by
  unfold Driver.establishDeviceTimeReference
  refine within_bind within_get (fun s => ?_)
  refine within_ite (within_pure ()) ?_
  refine within_bind h.tick (fun tick => ?_)
  refine within_bind (within_repeatWhile (within_survivingTimeout h.reads.awaitReferenceFrame) _)
    (fun _ => ?_)
  exact h.receive fun _ => rfl

end Receives

theorem receives_quiet (w : World) : Receives w Quiet where
  toServes := (handles_quiet w).serves
  ask := fun h => quiet_ask fun a => Event.feed_of_aside (h a)
  note := fun h => quiet_note (Event.feed_of_aside h)

theorem quiet_consumeCameraResult (w : World) (result : CameraChunkResult) :
    Within Quiet (consumeCameraResult w result) := (receives_quiet w).reads.consumeCameraResult result

theorem quiet_receiveFrame (w : World) : Within Quiet (receiveFrame w) :=
  (receives_quiet w).reads.receiveFrame

theorem quiet_establishDeviceTimeReference (w : World) :
    Within Quiet (establishDeviceTimeReference w) :=
  (receives_quiet w).establishDeviceTimeReference

end PrismRosAdapter.Driver
