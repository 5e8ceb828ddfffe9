import PrismRosAdapter.Driver.DeviceIdentity
import PrismRosAdapter.Program.Obligations

/-! # Credits and completed sets of the camera

The assembler retires frame ids; each is owed an acknowledgement, and a completed
set is owed its publication. In a host build an acknowledgement that throws takes
everything with it that its result still owes, even where the loop goes on.
-/
namespace PrismRosAdapter.Driver
open Program Runs Health Obligations

inductive Duty where
  | acknowledge (frameId : UInt32)
  | publish (set : CapturedSet)

def setDuties : Option CapturedSet → List Duty
  | some set => [.acknowledge set.frameId, .publish set]
  | none => []

/-- One credit per retired id, then the completed set. -/
def CameraChunkResult.duties (r : CameraChunkResult) : List Duty :=
  r.discardedIncompleteFrameIds.map .acknowledge ++ setDuties r.completed

def cameraLedger : Ledger Event Duty where
  incurs
    | .assembled (.ok result) => some result.duties
    | .completedByMetadata (.ok frame) => some (setDuties frame)
    | _ => none
  performs
    | .videoAck frameId _ => some (.acknowledge frameId)
    | .published set => some (.publish set)
    | _ => none
  fails
    | .videoAck _ (.error _) => true
    | _ => false

/-- The event by which a duty is performed without failing. -/
def Duty.event : Duty → Event
  | .acknowledge frameId => .videoAck frameId (.ok ())
  | .publish set => .published set

theorem duty_performs : cameraLedger.Performs Duty.event where
  incurs := fun d => by cases d <;> rfl
  performs := fun d => by cases d <;> rfl
  fails := fun d => by cases d <;> rfl

/-- What happened apart from the samples that were observed. -/
def eventsOf (entries : List Entry) : List Event :=
  (entries.map Entry.event).filter fun e => !e.samples

@[simp] theorem eventsOf_append (l m : List Entry) : eventsOf (l ++ m) = eventsOf l ++ eventsOf m := by
  simp [eventsOf]

/-- From `s` to `t` just these events happened. -/
structure Logged (events : List Event) (s t : DriverState) : Prop where
  later : Later s t
  events_eq : eventsOf (since s t) = events

/-- What the journal has gained keeps the ledger. -/
structure Tallied (s t : DriverState) : Prop where
  later : Later s t
  kept : cameraLedger.Kept (eventsOf (since s t))

section
variable {w : World} {s t u : DriverState} {l m : List Event}

theorem Logged.trans (h : Logged l s t) (h' : Logged m t u) : Logged (l ++ m) s u where
  later := h.later.trans h'.later
  events_eq := by
    rw [since_trans h.later h'.later,eventsOf_append,h.events_eq,h'.events_eq]

theorem Tallied.trans (h : Tallied s t) (h' : Tallied t u) : Tallied s u where
  later := h.later.trans h'.later
  kept := by
    rw [since_trans h.later h'.later,eventsOf_append]
    exact h.kept.append h'.kept

instance : Std.Refl Tallied := ⟨fun s => ⟨List.prefix_refl _,by
  rw [since_self]
  exact .nil⟩⟩
instance : IsTrans DriverState Tallied := ⟨fun _ _ _ => Tallied.trans⟩

theorem Logged.tallied (h : Logged l s t) (hl : cameraLedger.Kept l) : Tallied s t :=
  ⟨h.later,h.events_eq ▸ hl⟩

theorem logged_asked {event : Event} (h : event.samples = false) :
    Logged [event] s (s.asked event) :=
  ⟨⟨_,rfl⟩,by rw [since_asked]; simp [eventsOf,h]⟩

theorem logged_note {event : Event} (h : event.samples = false) : Logged [event] s (s.note event) :=
  ⟨later_note s event,by rw [since_note]; simp [eventsOf,h]⟩

/-- A handler that makes no SDK call. -/
theorem Confined.logged {A : Feed → Prop} (h : Confined A (·.samples = true) s t) :
    Logged [] s t where
  later := h.later
  events_eq := by
    rw [eventsOf,List.filter_eq_nil_iff]
    intro event he
    obtain ⟨e,hm,rfl⟩ := List.mem_map.mp he
    simp [(h.events e hm).1]

theorem tallied_noted {event : Event} (h : cameraLedger.Aside event) : Tallied s (s.note event) where
  later := later_note s event
  kept := by
    refine Ledger.kept_of_aside fun other he => ?_
    rw [since_note] at he
    obtain ⟨e,hm,rfl⟩ := List.mem_map.mp (List.mem_of_mem_filter he)
    rw [List.mem_singleton.mp hm]
    exact h

theorem Confined.tallied {A : Feed → Prop} (h : Confined A cameraLedger.Aside s t) :
    Tallied s t where
  later := h.later
  kept := by
    refine Ledger.kept_of_aside fun event he => ?_
    obtain ⟨e,hm,rfl⟩ := List.mem_map.mp (List.mem_of_mem_filter he)
    exact (h.events e hm).1

/-! ## Consuming a result -/

theorem total_publishCameraFrame (frame : CapturedSet) : (publishCameraFrame w frame).Total := by
  refine total_bind total_get (fun _ => total_ite (total_pure ()) ?_)
  refine total_bind (total_forEach (total_observeImage frame _) _) (fun _ => ?_)
  exact total_ite (total_modify _) (total_modify _)

theorem total_checkCameraDiagnostics (result : CameraChunkResult) :
    (checkCameraDiagnostics result).Total := by
  refine total_bind total_get (fun _ => total_ite (total_forEach (fun diagnostic => ?_) _)
    (total_pure ()))
  refine total_bind total_get (fun _ => total_bind (total_forEach (fun i => ?_) _) fun _ => ?_)
  · exact total_whenever (total_addIssue _ _)
  · exact total_whenever (total_addIssue _ _)

/-- The duties were performed in order, up to an acknowledgement that threw. -/
inductive Discharged (duties : List Duty) (s t : DriverState) : Prop where
  | all (h : Logged (duties.map Duty.event) s t)
  | cut (first : List Duty) (frameId : UInt32) (rest : List Duty) (e : Failure)
      (hd : duties = first ++ .acknowledge frameId :: rest)
      (h : Logged (first.map Duty.event ++ [.videoAck frameId (.error e)]) s t)

theorem Logged.then_discharged {first rest : List Duty} (h : Logged (first.map Duty.event) s t)
    (h' : Discharged rest t u) : Discharged (first ++ rest) s u := by
  cases h' with
  | all h' => exact .all (by rw [List.map_append]; exact h.trans h')
  | cut more frameId left e hd h' =>
    refine .cut (first ++ more) frameId left e (by rw [hd,List.append_assoc]) ?_
    rw [List.map_append,List.append_assoc]
    exact h.trans h'

theorem Discharged.then_silent {duties : List Duty} (h : Discharged duties s t)
    (h' : Logged [] t u) : Discharged duties s u := by
  have happend : ∀ {l}, Logged l s t → Logged l s u := fun h => by simpa using h.trans h'
  cases h with
  | all h => exact .all (happend h)
  | cut first frameId rest e hd h => exact .cut first frameId rest e hd (happend h)

/-- The duties incurred by an event, discharged right after it. -/
theorem Discharged.tallied {event : Event} {duties : List Duty} (he : Logged [event] s t)
    (hi : cameraLedger.incurs event = some duties) (hp : cameraLedger.performs event = none)
    (hf : cameraLedger.fails event = false) (h : Discharged duties t u) : Tallied s u := by
  cases h with
  | all h => exact (he.trans h).tallied (.settled duty_performs hi hp hf)
  | cut first frameId rest e hd h =>
    subst hd
    exact (he.trans h).tallied (.cut duty_performs hi hp hf rfl rfl rfl)

theorem acknowledgeVideo_returns {frameId : UInt32} (hw : w.rkLocal = false)
    (h : (acknowledgeVideo w frameId).Returns s () t) :
    Logged [.videoAck frameId (.ok ())] s t := by
  unfold acknowledgeVideo at h
  rw [if_neg (by simp [hw])] at h
  obtain ⟨_,rfl⟩ := returns_ask.mp h
  exact logged_asked rfl

theorem acknowledgeVideo_throws {frameId : UInt32} {e : Failure} (hw : w.rkLocal = false)
    (h : (acknowledgeVideo w frameId).Throws s e t) :
    Logged [.videoAck frameId (.error e)] s t := by
  unfold acknowledgeVideo at h
  rw [if_neg (by simp [hw])] at h
  obtain ⟨_,rfl⟩ := throws_ask.mp h
  exact logged_asked rfl

theorem acknowledgements_returns (hw : w.rkLocal = false) {ids : List UInt32}
    (h : (forEach (acknowledgeVideo w) ids).Returns s () t) :
    Logged ((ids.map Duty.acknowledge).map Duty.event) s t := by
  induction ids generalizing s with
  | nil =>
    obtain rfl := forEach_nil_returns.mp h
    exact ⟨List.prefix_refl _,by rw [since_self]; rfl⟩
  | cons frameId rest ih =>
    obtain ⟨u,hu,hr⟩ := forEach_cons_returns.mp h
    exact (acknowledgeVideo_returns hw hu).trans (ih hr)

theorem acknowledgements_throws (hw : w.rkLocal = false) {ids : List UInt32} {e : Failure}
    (h : (forEach (acknowledgeVideo w) ids).Throws s e t) (more : List Duty) :
    Discharged (ids.map Duty.acknowledge ++ more) s t := by
  induction ids generalizing s with
  | nil => exact absurd h forEach_nil_throws
  | cons frameId rest ih =>
    rcases forEach_cons_throws.mp h with h | ⟨u,hu,h⟩
    · exact .cut [] frameId (rest.map Duty.acknowledge ++ more) e rfl
        (acknowledgeVideo_throws hw h)
    · have hfirst : Logged ([Duty.acknowledge frameId].map Duty.event) s u :=
        acknowledgeVideo_returns hw hu
      exact hfirst.then_discharged (ih h)

theorem logged_publishCameraFrame {frame : CapturedSet}
    (h : (publishCameraFrame w frame).Leaves s t) : Logged [] s t :=
  Confined.logged (A := fun _ => False) (((handles_confined w fun _ _ => rfl).serves.publishCameraFrame frame).leaves h)

theorem finishSet_leaves (hw : w.rkLocal = false) {frame : Option CapturedSet}
    (h : (finishSet w frame).Leaves s t) : Discharged (setDuties frame) s t := by
  cases frame with
  | none =>
    obtain rfl := leaves_pure.mp h
    exact .all ⟨List.prefix_refl _,by rw [since_self]; rfl⟩
  | some set =>
    rcases leaves_bind.mp h with ⟨e,h⟩ | ⟨_,a,hack,h⟩
    · exact .cut [] set.frameId [.publish set] e rfl (acknowledgeVideo_throws hw h)
    obtain ⟨_,b,hnote,h⟩ := (total_modify _).leaves_bind.mp h
    obtain rfl := returns_modify.mp hnote
    have hall : Discharged [.acknowledge set.frameId, .publish set] s (a.note (.published set)) :=
      .all ((acknowledgeVideo_returns hw hack).trans (logged_note rfl))
    exact hall.then_silent (logged_publishCameraFrame h)

theorem consumeCameraResult_leaves (hw : w.rkLocal = false) {result : CameraChunkResult}
    (h : (consumeCameraResult w result).Leaves s t) : Discharged result.duties s t := by
  rcases leaves_bind.mp h with ⟨e,h⟩ | ⟨_,a,hacks,h⟩
  · exact acknowledgements_throws hw h _
  obtain ⟨_,b,hcheck,h⟩ := (total_checkCameraDiagnostics result).leaves_bind.mp h
  obtain ⟨_,c,hpublished,h⟩ :=
    (total_forEach (fun frame => total_publishCameraFrame frame) _).leaves_bind.mp h
  have hb : Logged [] a b := Confined.logged (A := fun _ => False)
    (((handles_confined w fun _ _ => rfl).serves.checkCameraDiagnostics result).returns hcheck)
  have hc : Logged [] b c := Confined.logged (A := fun _ => False)
    ((within_forEach ((handles_confined w fun _ _ => rfl).serves.publishCameraFrame) _).returns hpublished)
  have hfirst := ((acknowledgements_returns hw hacks).trans hb).trans hc
  rw [List.append_nil,List.append_nil] at hfirst
  exact hfirst.then_discharged (finishSet_leaves hw h)

/-! ## Everything the driver runs -/

theorem tallied_discharged {α : Type} {event : Except Failure α → Event}
    {reply : ℕ → Except Failure α} {duties : α → List Duty} {consume : α → Driving Unit}
    (hi : ∀ a, cameraLedger.incurs (event (.ok a)) = some (duties a))
    (hp : ∀ a, cameraLedger.performs (event a) = none)
    (hf : ∀ a, cameraLedger.fails (event a) = false)
    (he : ∀ e, cameraLedger.incurs (event (.error e)) = none)
    (hs : ∀ a, (event a).samples = false)
    (hc : ∀ a s t, (consume a).Leaves s t → Discharged (duties a) s t) :
    Within Tallied (do
      let a ← ask event reply
      consume a) := by
  refine within_of_leaves fun s t h => ?_
  rcases leaves_bind.mp h with ⟨e,h⟩ | ⟨a,u,hask,h⟩
  · obtain ⟨_,rfl⟩ := throws_ask.mp h
    exact (logged_asked (hs _)).tallied (Ledger.Aside.kept ⟨he e,hp _,hf _⟩)
  · obtain ⟨_,rfl⟩ := returns_ask.mp hask
    exact (hc a _ _ h).tallied (logged_asked (hs _)) (hi a) (hp _) (hf _)

theorem tallied_consumed (hw : w.rkLocal = false) {reply : ℕ → Except Failure CameraChunkResult} :
    Within Tallied (do
      let result ← ask .assembled reply
      consumeCameraResult w result) :=
  tallied_discharged (fun _ => rfl) (fun _ => rfl) (fun _ => rfl) (fun _ => rfl) (fun _ => rfl)
    fun _ _ _ => consumeCameraResult_leaves hw

theorem handles_tallied (w : World) : Handles w Tallied :=
  (handles_confined w (A := fun _ => False) fun _ _ => ⟨rfl,rfl,rfl⟩).mono fun _ _ => Confined.tallied

theorem tallied_handleVideoMeta (hw : w.rkLocal = false) (metadata : VideoMeta) :
    Within Tallied (handleVideoMeta w metadata) := by
  unfold handleVideoMeta
  refine within_bind ((handles_tallied w).serves.observeMeta metadata) (fun _ => ?_)
  refine within_bind ((handles_tallied w).cameraTime metadata) (fun _ => ?_)
  exact tallied_discharged (fun _ => rfl) (fun _ => rfl) (fun _ => rfl) (fun _ => rfl) (fun _ => rfl)
    fun _ _ _ => finishSet_leaves hw

theorem tallied_handleVideoFrame (hw : w.rkLocal = false) (frame : Frame) :
    Within Tallied (handleVideoFrame w frame) := by
  cases frame with
  | videoChunk chunk => exact within_bind (within_answer _) fun _ => tallied_consumed hw
  | videoMeta metadata => exact within_bind (within_answer _) fun _ => tallied_handleVideoMeta hw _
  | _ => exact within_pure ()

theorem tallied_silent {f : DriverState → DriverState}
    (h : ∀ s, (f s).link.journal = s.link.journal) :
    Within Tallied (modify f : Driving Unit) :=
  within_modify fun s => ⟨by rw [Later,h],by
    rw [since,h,List.drop_length]
    exact .nil⟩

theorem tallied_modifyControl (g : Control → Control) : Within Tallied (modifyControl g) :=
  tallied_silent fun _ => rfl
theorem tallied_publishStatus (state error : String) : Within Tallied (publishStatus state error) :=
  tallied_silent fun _ => rfl

theorem tallied_recorded {α : Type} {event : Except Failure α → Event} {x : Driving α}
    (he : ∀ a, cameraLedger.Aside (event a)) (hx : Within Tallied x) :
    Within Tallied (recorded event x) :=
  within_andThen hx fun a _ => tallied_noted (he a)

theorem tallied_ask {α : Type} {event : Except Failure α → Event} {reply : ℕ → Except Failure α}
    (he : ∀ a, cameraLedger.Aside (event a)) : Within Tallied (ask event reply) :=
  tallied_recorded he (within_bind (handles_tallied {}).call fun _ => within_answer _)

theorem tallied_consult {α : Type} (name : String) (reply : ℕ → Except Failure α) :
    Within Tallied (consult name reply) := tallied_ask fun _ => ⟨rfl,rfl,rfl⟩
theorem tallied_query (q : Query) : Within Tallied (query w q) := tallied_ask fun _ => ⟨rfl,rfl,rfl⟩

theorem tallied_awaitReferenceFrame (hw : w.rkLocal = false) :
    Within Tallied (awaitReferenceFrame w) := by
  unfold awaitReferenceFrame
  refine within_bind (tallied_ask fun _ => ⟨rfl,rfl,rfl⟩) (fun frame => ?_)
  refine within_bind within_get (fun s => ?_)
  refine within_bind ((handles_tallied w).serves.dispatches.handleImuFrame _ frame) (fun _ => ?_)
  exact within_ite (tallied_handleVideoFrame hw frame) (within_pure ())

theorem tallied_receiveFrame (hw : w.rkLocal = false) : Within Tallied (receiveFrame w) := by
  unfold receiveFrame
  refine within_bind (tallied_ask fun _ => ⟨rfl,rfl,rfl⟩) (fun frame => ?_)
  refine within_bind ((handles_tallied w).serves.dispatches.handleRoverFrame frame) (fun _ => ?_)
  refine within_bind within_get (fun s => ?_)
  refine within_bind ((handles_tallied w).serves.dispatches.handleImuFrame _ frame) (fun _ => ?_)
  refine within_bind ((handles_tallied w).serves.dispatches.handleLidarFrame _ frame) (fun _ => ?_)
  exact within_ite (tallied_handleVideoFrame hw frame) (within_pure ())

theorem tallied_establishDeviceTimeReference (hw : w.rkLocal = false) :
    Within Tallied (establishDeviceTimeReference w) := by
  unfold establishDeviceTimeReference
  refine within_bind within_get (fun s => within_ite (within_pure ()) ?_)
  refine within_bind (handles_tallied w).tick (fun tick => ?_)
  refine within_bind (within_repeatWhile (within_survivingTimeout
    (tallied_awaitReferenceFrame hw)) _) (fun _ => ?_)
  exact tallied_silent fun _ => rfl

/-! ### Starts and stops -/

theorem cameraLedger_aside {event : Event} (h : event.feed ≠ none) : cameraLedger.Aside event := by
  cases event <;> first | exact ⟨rfl,rfl,rfl⟩ | exact absurd rfl h

theorem switches_tallied (w : World) : Switches w Tallied where
  control := tallied_modifyControl
  reset := fun _ _ _ => within_bind (handles_tallied w).steadyNowNs fun _ =>
    tallied_silent fun _ => rfl
  resetCounter := tallied_silent fun _ => rfl
  disable := tallied_silent fun _ => rfl
  accumulate := (handles_tallied w).accumulate
  call := (handles_tallied w).call
  ask := fun h => tallied_ask fun a => cameraLedger_aside (h a)
  recorded := fun h => tallied_recorded fun a => cameraLedger_aside (h a)

theorem tallied_openSession (network : Bool) : Within Tallied (openSession w network) :=
  within_bind (tallied_ask fun _ => ⟨rfl,rfl,rfl⟩) fun _ => tallied_silent fun _ => rfl

theorem keeps_tallied (hw : w.rkLocal = false) : Keeps w Tallied where
  control := fun _ => tallied_modifyControl _
  fatal := fun _ => tallied_modifyControl _
  status := tallied_publishStatus
  resolver := tallied_silent fun _ => rfl
  plain := tallied_consult
  query := tallied_query
  rover := (switches_tallied w).askRover
  opened := tallied_openSession
  start := (switches_tallied w).startConfiguredStreams (tallied_establishDeviceTimeReference hw)
  stop := (switches_tallied w).stopConfiguredStreams

theorem tallied_verifyIdentity (info : DeviceInfo) : Within Tallied (verifyIdentity w info) := by
  unfold verifyIdentity
  refine within_bind within_get (fun s => within_ite (within_pure ()) ?_)
  refine within_bind ?_ (fun equal => within_bind ?_ fun _ => within_ite ?_ (within_throw _))
  · exact within_ite (within_pure _) (within_bind (handles_tallied w).call fun _ =>
      within_pure _)
  · exact within_modify fun _ => tallied_noted ⟨rfl,rfl,rfl⟩
  · exact tallied_silent fun _ => rfl

theorem tallied_resetRun : Within Tallied resetRun :=
  within_bind (tallied_silent fun _ => rfl) fun _ => within_bind (tallied_modifyControl _) fun _ =>
    within_bind (tallied_silent fun _ => rfl) fun _ => (handles_tallied {}).accumulate _

theorem tallied_startRun (hw : w.rkLocal = false) : Within Tallied (startRun w) :=
  within_bind tallied_resetRun fun _ => within_bind (keeps_tallied hw).openClient fun _ =>
    within_bind (tallied_consult _ _) fun _ => within_bind (tallied_consult _ _) fun info =>
      within_bind (tallied_verifyIdentity info) fun _ => (keeps_tallied hw).afterIdentity info

theorem tallied_act (hw : w.rkLocal = false) (s : DriverState) (action : Action) :
    Tallied s (act w s action) := by
  cases action with
  | control command => exact (keeps_tallied hw).command command s
  | receive => exact within_survivingTimeout (tallied_receiveFrame hw) s
  | expire => exact tallied_consumed hw s

/-! ## Whole runs -/

theorem tallied_run (hw : w.rkLocal = false) (s : DriverState) (actions : List Action) :
    Tallied s (run (act w) s actions) := by
  induction actions generalizing s with
  | nil => exact Std.Refl.refl s
  | cons action rest ih => exact (tallied_act hw s action).trans (ih _)

theorem tallied_driverRun (hw : w.rkLocal = false) (config : DriverConfig)
    (actions : List Action) : Tallied (fresh config) (driverRun w config actions) := by
  have hstart := tallied_startRun hw (fresh config)
  unfold driverRun
  cases h : startRun w (fresh config) with
  | mk result s =>
    rw [h] at hstart
    cases result with
    | ok u => exact hstart.trans (tallied_run hw s actions)
    | error e => exact hstart

def DriverState.events (s : DriverState) : List Event := eventsOf s.link.journal

/-- An acknowledgement was attempted for every retired id and every completed set was
published, each exactly once and in order. -/
def CreditsKept (s : DriverState) : Prop :=
  cameraLedger.performed s.events = cameraLedger.incurred s.events

/-- No acknowledgement threw while its result still owed anything. -/
def NothingCutOff (s : DriverState) : Prop := cameraLedger.lossless [] s.events = true

instance (s : DriverState) : Decidable (NothingCutOff s) := inferInstanceAs (Decidable (_ = true))

/-- In a host build every credit is given back and every completed set is published
exactly when no acknowledgement that throws is followed by further duties. -/
theorem credits_kept_iff (hw : w.rkLocal = false) (config : DriverConfig)
    (actions : List Action) :
    CreditsKept (driverRun w config actions) ↔ NothingCutOff (driverRun w config actions) := by
  have hkept := (tallied_driverRun hw config actions).kept
  have hevents : eventsOf (since (fresh config) (driverRun w config actions)) =
      (driverRun w config actions).events := rfl
  rw [hevents] at hkept
  exact hkept.exact

theorem credits_kept_discarded :
    CreditsKept (driverRun { expire := fun _ => .ok { discardedIncompleteFrameIds := [7, 8] } } {}
      [.receive, .expire]) :=
  (credits_kept_iff rfl _ _).mpr (by decide +kernel)

/-- The read is taken for idle, and the second of two retired ids is never
acknowledged. -/
theorem timed_out_acknowledgement_loses_credit :
    ∃ (w : World) (config : DriverConfig) (s : DriverState), w.rkLocal = false ∧
      (startRun w).Returns (fresh config) () s ∧
      (Action.receive.program w).Returns s () (act w s .receive) ∧
      ¬ CreditsKept (driverRun w config [.receive]) := by
  refine ⟨{
      readFrame := fun _ => .ok (.videoChunk (.ok ⟨[]⟩))
      ingest := fun _ _ => .ok { discardedIncompleteFrameIds := [7, 8] }
      sendVideoAck := fun _ => .error (.sdk "bulk transfer timed out") },{},_,rfl,
    returns_of_isOk (by decide +kernel),returns_of_isOk (by decide +kernel),?_⟩
  intro h
  exact absurd (congrArg List.length h) (by decide +kernel)

end
end PrismRosAdapter.Driver
