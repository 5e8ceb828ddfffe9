import PrismRosAdapter.Cloud.PointCloud
import PrismRosAdapter.Dispatch.QueueRuns
import PrismRosAdapter.Navigation.GnssEpoch

/-! # The fixes that are published

Each batch of the receiver's sentences gives a GNSS position and an RTK position. They wait in
one queue of eight, and the node makes of each a `NavSatFix` on its own topic. A subscriber
cannot tell a fix from the lack of one but by its fields, so these are to say no more than the
sentences do.
-/
namespace PrismRosAdapter.Navigation
open Cloud Dispatch Runs

/-- A `sensor_msgs/NavSatFix`; a double that is not a number is left out. -/
structure NavSatFix where
  stamp : Ros2.Time := Ros2.rosTime 0
  frameId : String := ""
  status : ℤ := 0
  service : UInt16 := 0
  latitude : Option ℚ := some 0
  longitude : Option ℚ := some 0
  altitude : Option ℚ := some 0
  positionCovariance : Fin 9 → ℚ := fun _ => 0
  positionCovarianceType : UInt8 := 0

def noFix (fix : NavSatFix) : NavSatFix :=
  { fix with
    status := -1
    service := 0
    latitude := none
    longitude := none
    altitude := none
    positionCovariance := fun _ => 0
    positionCovarianceType := 0 }

def fillReceiverFix (fix : NavSatFix) (s : ReceiverPositionState) : NavSatFix :=
  let fix := noFix fix
  if ¬ s.valid ∨ 2000 < s.ageMs ∨ 90 < |s.latitudeDeg| ∨ 180 < |s.longitudeDeg| then fix
  else
    let fix := { fix with
      status := if s.quality = 2 ∨ s.quality = 4 ∨ s.quality = 5 then 2 else 0
      latitude := some s.latitudeDeg
      longitude := some s.longitudeDeg
      altitude := if s.heightValid then some s.ellipsoidalHeightM else fix.altitude }
    if s.covarianceValid ∧ 0 < s.eastStdM ∧ 0 < s.northStdM ∧ 0 < s.upStdM then
      { fix with
        positionCovariance := fun i =>
          if i = 0 then s.eastStdM * s.eastStdM
          else if i = 4 then s.northStdM * s.northStdM
          else if i = 8 then s.upStdM * s.upStdM
          else fix.positionCovariance i
        positionCovarianceType := 2 }
    else fix

def receiverFix (s : ReceiverPositionState) : NavSatFix :=
  { fillReceiverFix {} s with
    frameId := "prism_gnss"
    stamp := Ros2.rosTime (if s.timestampValid then s.epochUs * 1000 else 0) }

/-- The receiver's model, the queue to the node's handler and the fixes published so far. -/
structure FixTopics (Model : Type) where
  receiver : ReceiverModel Model
  dispatch : Dispatching ReceiverPositionState := dispatching ReceiverPositionState 8
  gnssFix : List NavSatFix := []
  rtkFix : List NavSatFix := []

/-- What becomes of the queue but for the driver's pushes. -/
inductive Handling where
  | pop
  | handled (threw : Bool)
  | leave
  | stop
  | clear
  | join

def Handling.queueStep : Handling → QueueStep ReceiverPositionState
  | .pop => .pop
  | .handled threw => .handled threw
  | .leave => .leave
  | .stop => .stop
  | .clear => .clear
  | .join => .join

inductive Intake where
  | timing (timing : GnssTimingStatusState)
  /-- The queue's worker goes on between the pushes of the two positions. -/
  | observations (batch : GnssObservations) (meanwhile : List Handling)
  | handling (i : Handling)

namespace FixTopics
variable {Model : Type} (sdk : GnssPlot Model)

def fixes (t : FixTopics Model) (rtk : Bool) : List NavSatFix := if rtk then t.rtkFix else t.gnssFix

def publishReceiver (t : FixTopics Model) (s : ReceiverPositionState) : FixTopics Model :=
  if s.source = "ADRNAV" then { t with rtkFix := t.rtkFix ++ [receiverFix s] }
  else { t with gnssFix := t.gnssFix ++ [receiverFix s] }

/-- The fix is the last that the handler publishes: when it throws, no fix has gone out. -/
def handle (t : FixTopics Model) (i : Handling) : FixTopics Model :=
  let published := match i, t.dispatch.queue.held with
    | .handled false, some s => t.publishReceiver s
    | _, _ => t
  { published with dispatch := t.dispatch.step i.queueStep }

def push (t : FixTopics Model) (s : ReceiverPositionState) : FixTopics Model :=
  { t with dispatch := t.dispatch.push s }

def dispatchReceiverBatch (t : FixTopics Model) (batch : GnssObservations)
    (meanwhile : List Handling) : FixTopics Model :=
  let receiver := t.receiver.apply sdk batch
  let t := { t with receiver }
  let t := t.push (receiver.position sdk false batch.deviceMonotonicMs)
  let t := run handle t meanwhile
  t.push (receiver.position sdk true batch.deviceMonotonicMs)

def step (t : FixTopics Model) : Intake → FixTopics Model
  | .timing timing => { t with receiver := { t.receiver with timing } }
  | .observations batch meanwhile => t.dispatchReceiverBatch sdk batch meanwhile
  | .handling i => t.handle i

end FixTopics

/-- The batches of a history. -/
def batchesOf : List Intake → List GnssObservations
  | [] => []
  | .observations batch _ :: rest => batch :: batchesOf rest
  | _ :: rest => batchesOf rest

/-- The receiver as it hands over its two positions, with the batches it has had by then. -/
structure Handover (Model : Type) where
  batches : List GnssObservations
  receiver : ReceiverModel Model
  now : UInt64

section
variable {Model : Type} (sdk : GnssPlot Model)

def Handover.position (h : Handover Model) (rtk : Bool) : ReceiverPositionState :=
  h.receiver.position sdk rtk h.now

/-- What a receiver that has had some batches hands over in a history. -/
def handovers : List GnssObservations → ReceiverModel Model → List Intake → List (Handover Model)
  | _, _, [] => []
  | batches, receiver, .timing timing :: rest => handovers batches { receiver with timing } rest
  | batches, receiver, .observations batch _ :: rest =>
    ⟨batches ++ [batch],receiver.apply sdk batch,batch.deviceMonotonicMs⟩ ::
      handovers (batches ++ [batch]) (receiver.apply sdk batch) rest
  | batches, receiver, .handling _ :: rest => handovers batches receiver rest

def handed (handovers : List (Handover Model)) : List ReceiverPositionState :=
  handovers.flatMap fun h => [h.position sdk false, h.position sdk true]

end

/-! ## What a fix may say -/

section
variable {Model : Type} (sdk : GnssPlot Model)

def plotPosition (r : ReceiverModel Model) (rtk : Bool) : PlotPosition :=
  if rtk then sdk.rtk r.model else sdk.gnss r.model

/-- A position of the receiver that is worth a fix at the time `now`. -/
structure Usable (p : PlotPosition) (now : UInt64) : Prop where
  valid : p.valid = true
  numbered : p.sequence ≠ 0
  recent : p.ms ≤ now ∧ now.toNat ≤ p.ms.toNat + 2000
  latitude : |p.latitude| ≤ 90
  longitude : |p.longitude| ≤ 180

def diagonal (east north up : ℚ) (i : Fin 9) : ℚ :=
  if i = 0 then east * east else if i = 4 then north * north else if i = 8 then up * up else 0

/-- The deviations are those of a sentence: of the RTK position's own, or of the last GST,
which belongs to the GNSS position. -/
def Sourced (batches : List GnssObservations) (r : ReceiverModel Model) (rtk : Bool) (now : UInt64)
    (east north up : ℚ) : Prop :=
  if rtk then (sdk.rtk r.model).eastSigma = some east ∧ (sdk.rtk r.model).northSigma = some north ∧
    (sdk.rtk r.model).upSigma = some up
  else ∃ batch record fields out, LastGst sdk batches batch record fields ∧
    sdk.session r.model = batch.session ∧ DeviationsFrom sdk record fields (sdk.gnss r.model) now out ∧
      out.eastStdM = east ∧ out.northStdM = north ∧ out.upStdM = up

/-- What the fix says is what the receiver has sent. -/
structure Tells (batches : List GnssObservations) (r : ReceiverModel Model) (rtk : Bool)
    (now : UInt64) (fix : NavSatFix) : Prop where
  fixed : 0 ≤ fix.status ↔ Usable (plotPosition sdk r rtk) now
  place : 0 ≤ fix.status → fix.latitude = some (plotPosition sdk r rtk).latitude ∧
    fix.longitude = some (plotPosition sdk r rtk).longitude ∧
      fix.altitude = (plotPosition sdk r rtk).height
  nowhere : fix.status < 0 → fix.latitude = none ∧ fix.longitude = none ∧ fix.altitude = none ∧
    fix.positionCovarianceType = 0
  unknown : fix.positionCovarianceType = 0 → ∀ i, fix.positionCovariance i = 0
  known : fix.positionCovarianceType ≠ 0 → fix.positionCovarianceType = 2 ∧ ∃ east north up,
    0 < east ∧ 0 < north ∧ 0 < up ∧ fix.positionCovariance = diagonal east north up ∧
      Sourced sdk batches r rtk now east north up
  stamp : fix.stamp.toNs = (r.position sdk rtk now).epochUs.toNat * 1000
  frame : fix.frameId = "prism_gnss"

end

section
variable {Model : Type} {sdk : GnssPlot Model} {r : ReceiverModel Model} {rtk : Bool} {now : UInt64}

theorem ageMs_le_iff {p : PlotPosition} : ReceiverModel.ageMs p now ≤ 2000 ↔
    p.sequence ≠ 0 ∧ p.ms ≤ now ∧ now.toNat ≤ p.ms.toNat + 2000 := by
  refine ⟨ageMs_le,fun ⟨hsequence,hle,hlimit⟩ => ?_⟩
  have hsub := UInt64.toNat_sub_of_le _ _ hle
  rw [ReceiverModel.ageMs,if_pos ⟨hsequence,hle⟩,UInt32.le_iff_toNat_le,UInt32.toNat_ofNat']
  have hlimit' : (2000 : UInt32).toNat = 2000 := rfl
  omega

theorem position_valid : (r.position sdk rtk now).valid =
    ((plotPosition sdk r rtk).valid && decide (ReceiverModel.ageMs (plotPosition sdk r rtk) now ≤ 2000)) :=
  rfl

/-- The checks of `fillReceiverFix` together. -/
theorem usable_iff : Usable (plotPosition sdk r rtk) now ↔
    ¬ (¬ (r.position sdk rtk now).valid ∨ 2000 < (r.position sdk rtk now).ageMs ∨
      90 < |(r.position sdk rtk now).latitudeDeg| ∨ 180 < |(r.position sdk rtk now).longitudeDeg|) := by
  have hage : (r.position sdk rtk now).ageMs = ReceiverModel.ageMs (plotPosition sdk r rtk) now := rfl
  have hlatitude : (r.position sdk rtk now).latitudeDeg = (plotPosition sdk r rtk).latitude := rfl
  have hlongitude : (r.position sdk rtk now).longitudeDeg = (plotPosition sdk r rtk).longitude := rfl
  rw [position_valid,hage,hlatitude,hlongitude]
  push Not
  rw [Bool.and_eq_true,decide_eq_true_iff,ageMs_le_iff]
  constructor
  · intro h
    have hrecent := ageMs_le_iff.mpr ⟨h.numbered,h.recent⟩
    exact ⟨⟨h.valid,h.numbered,h.recent⟩,UInt32.not_lt.mpr hrecent,h.latitude,h.longitude⟩
  · rintro ⟨⟨hvalid,hnumbered,hrecent⟩,_,hlat,hlon⟩
    exact ⟨hvalid,hnumbered,hrecent,hlat,hlon⟩

/-- The deviations of an RTK position are its own. -/
theorem position_sigmas (h : (r.position sdk true now).covarianceValid = true) :
    (sdk.rtk r.model).eastSigma = some (r.position sdk true now).eastStdM ∧
    (sdk.rtk r.model).northSigma = some (r.position sdk true now).northStdM ∧
    (sdk.rtk r.model).upSigma = some (r.position sdk true now).upStdM := by
  let p := sdk.rtk r.model
  let valid := p.valid && decide (ReceiverModel.ageMs p now ≤ 2000)
  have hcov : (r.deviations sdk true p valid now).2.2.2 = true := h
  change p.eastSigma = some (r.deviations sdk true p valid now).1 ∧
    p.northSigma = some (r.deviations sdk true p valid now).2.1 ∧
      p.upSigma = some (r.deviations sdk true p valid now).2.2.1
  unfold ReceiverModel.deviations at hcov ⊢
  generalize p.eastSigma = east at hcov ⊢
  generalize p.northSigma = north at hcov ⊢
  generalize p.upSigma = up at hcov ⊢
  cases east <;> cases north <;> cases up
  case some.some.some => exact ⟨rfl,rfl,rfl⟩
  all_goals cases hcov

theorem sourced_position (hsdk : sdk.Documented) {batches : List GnssObservations}
    (hstems : Stems sdk batches r) (h : (r.position sdk rtk now).covarianceValid = true) :
    Sourced sdk batches r rtk now (r.position sdk rtk now).eastStdM
      (r.position sdk rtk now).northStdM (r.position sdk rtk now).upStdM := by
  cases rtk with
  | true => exact position_sigmas h
  | false =>
    obtain ⟨batch,record,fields,hlast,hread⟩ := hstems.gst (position_deviations h).1.1
    obtain ⟨last,hmem,hsession⟩ := hlast.mem_batches
    exact ⟨batch,record,fields,_,hlast,(hstems.session last hmem).trans hsession,
      deviationsFrom_of_read hsdk h hlast.fields_eq hread,rfl,rfl,rfl⟩

/-- The stamp is the receiver's own epoch, or none at all. -/
theorem receiverFix_stamp : (receiverFix (r.position sdk rtk now)).stamp.toNs =
    (r.position sdk rtk now).epochUs.toNat * 1000 := by
  let epochUs := if rtk then r.gpsEpochUs sdk (plotPosition sdk r rtk).epoch
    else r.utcEpochUs sdk (plotPosition sdk r rtk).epoch
  change (Ros2.rosTime (if ReceiverModel.timestampValid epochUs then
      (if ReceiverModel.timestampValid epochUs then epochUs else 0) * 1000 else 0)).toNs =
    (if ReceiverModel.timestampValid epochUs then epochUs else 0).toNat * 1000
  cases hvalid : ReceiverModel.timestampValid epochUs with
  | false =>
    simp only [Bool.false_eq_true, if_false]
    rfl
  | true =>
    obtain ⟨_,hbound⟩ := timestampValid_iff.mp hvalid
    have hmul : (epochUs * 1000).toNat = epochUs.toNat * 1000 := by
      have hthousand : (1000 : UInt64).toNat = 1000 := rfl
      rw [UInt64.toNat_mul,hthousand]
      omega
    rw [if_pos rfl,if_pos rfl,toNs_rosTime (by omega),hmul,Nat.cast_mul]
    rfl

/-- What a fix says of a position that fails the checks. -/
theorem receiverFix_of_unusable (h : ¬ Usable (plotPosition sdk r rtk) now) :
    receiverFix (r.position sdk rtk now) = { noFix {} with
      frameId := "prism_gnss"
      stamp := (receiverFix (r.position sdk rtk now)).stamp } := by
  rw [usable_iff,not_not] at h
  simp only [receiverFix, fillReceiverFix, if_pos h]

/-- A position that passes the checks, before its deviations are looked at. -/
def placedFix (s : ReceiverPositionState) : NavSatFix :=
  { noFix {} with
    frameId := "prism_gnss"
    stamp := Ros2.rosTime (if s.timestampValid then s.epochUs * 1000 else 0)
    status := if s.quality = 2 ∨ s.quality = 4 ∨ s.quality = 5 then 2 else 0
    latitude := some s.latitudeDeg
    longitude := some s.longitudeDeg
    altitude := if s.heightValid then some s.ellipsoidalHeightM else none }

theorem receiverFix_of_usable (h : Usable (plotPosition sdk r rtk) now) :
    let s := r.position sdk rtk now
    receiverFix s = if s.covarianceValid ∧ 0 < s.eastStdM ∧ 0 < s.northStdM ∧ 0 < s.upStdM then
      { placedFix s with
        positionCovariance := diagonal s.eastStdM s.northStdM s.upStdM
        positionCovarianceType := 2 }
      else placedFix s := by
  intro s
  rw [usable_iff] at h
  unfold receiverFix fillReceiverFix
  rw [if_neg h]
  by_cases hcov : s.covarianceValid ∧ 0 < s.eastStdM ∧ 0 < s.northStdM ∧ 0 < s.upStdM
  · rw [if_pos hcov,if_pos hcov]
    rfl
  · rw [if_neg hcov,if_neg hcov]
    rfl

theorem placedFix_place :
    0 ≤ (placedFix (r.position sdk rtk now)).status ∧
    (placedFix (r.position sdk rtk now)).altitude = (plotPosition sdk r rtk).height := by
  constructor
  · simp only [placedFix]
    split <;> decide
  · change (if (plotPosition sdk r rtk).height.isSome then
      some ((plotPosition sdk r rtk).height.getD 0) else none) = (plotPosition sdk r rtk).height
    cases (plotPosition sdk r rtk).height <;> rfl

theorem receiverFix_tells (hsdk : sdk.Documented) {batches : List GnssObservations}
    (hstems : Stems sdk batches r) :
    Tells sdk batches r rtk now (receiverFix (r.position sdk rtk now)) := by
  have hstamp : (receiverFix (r.position sdk rtk now)).stamp.toNs = _ := receiverFix_stamp
  have two_ne : (2 : UInt8) ≠ 0 := by decide
  have neg_one_lt : ¬ 0 ≤ (-1 : ℤ) := by decide
  by_cases h : Usable (plotPosition sdk r rtk) now
  · obtain ⟨hstatus,haltitude⟩ : 0 ≤ (placedFix (r.position sdk rtk now)).status ∧ _ :=
      placedFix_place
    have hfix := receiverFix_of_usable h
    dsimp only at hfix
    split at hfix
    · rename_i hcov
      rw [hfix] at hstamp ⊢
      exact {
        fixed := ⟨fun _ => h,fun _ => hstatus⟩
        place := fun _ => ⟨rfl,rfl,haltitude⟩
        nowhere := fun hlt => absurd hstatus (not_le.mpr hlt)
        unknown := fun htype => absurd htype two_ne
        known := fun _ => ⟨rfl,_,_,_,hcov.2.1,hcov.2.2.1,hcov.2.2.2,rfl,
          sourced_position hsdk hstems hcov.1⟩
        stamp := hstamp
        frame := rfl }
    · rw [hfix] at hstamp ⊢
      exact {
        fixed := ⟨fun _ => h,fun _ => hstatus⟩
        place := fun _ => ⟨rfl,rfl,haltitude⟩
        nowhere := fun hlt => absurd hstatus (not_le.mpr hlt)
        unknown := fun _ _ => rfl
        known := fun htype => absurd rfl htype
        stamp := hstamp
        frame := rfl }
  · rw [receiverFix_of_unusable h] at hstamp ⊢
    exact {
      fixed := ⟨fun hle => absurd hle neg_one_lt,fun hu => absurd hu h⟩
      place := fun hle => absurd hle neg_one_lt
      nowhere := fun _ => ⟨rfl,rfl,rfl,rfl⟩
      unknown := fun _ _ => rfl
      known := fun htype => absurd rfl htype
      stamp := hstamp
      frame := rfl }

/-! ## The way to the topics -/

def onTopic (rtk : Bool) (s : ReceiverPositionState) : Bool := decide (s.source = "ADRNAV") == rtk

/-- The positions whose handler has not thrown. -/
def published (d : Dispatching ReceiverPositionState) : List ReceiverPositionState :=
  (d.handled.filter fun v => !v.2).map Prod.fst

/-- The topics tell of the positions handed over, as far as the queue has passed them on. -/
structure Relays (handed : List ReceiverPositionState) (t : FixTopics Model) : Prop where
  kept : Kept 8 t.dispatch
  pushed : t.dispatch.pushed.Sublist handed
  running : t.dispatch.queue.running = true → t.dispatch.pushed = handed
  fixes : ∀ rtk, t.fixes rtk = ((published t.dispatch).filter (onTopic rtk)).map receiverFix

section
variable {t : FixTopics Model} {positions : List ReceiverPositionState}

theorem publishReceiver_fixes (s : ReceiverPositionState) :
    (t.publishReceiver s).fixes rtk = t.fixes rtk ++ ([s].filter (onTopic rtk)).map receiverFix := by
  unfold FixTopics.publishReceiver FixTopics.fixes onTopic
  by_cases hs : s.source = "ADRNAV" <;> cases rtk <;> simp [hs]

/-- Only a handler that has not thrown adds a fix. -/
theorem handle_fixes (i : Handling) : (t.handle i).fixes rtk = t.fixes rtk ++
    ((((i.queueStep.ended t.dispatch).filter fun v => !v.2).map Prod.fst).filter (onTopic rtk)).map
      receiverFix := by
  cases i with
  | handled threw =>
    unfold FixTopics.handle Handling.queueStep QueueStep.ended
    cases t.dispatch.queue.held with
    | none => cases threw <;> exact (List.append_nil _).symm
    | some s =>
      cases threw with
      | true => exact (List.append_nil _).symm
      | false => exact publishReceiver_fixes s
  | _ => exact (List.append_nil _).symm

theorem handle_receiver (i : Handling) : (t.handle i).receiver = t.receiver := by
  unfold FixTopics.handle FixTopics.publishReceiver
  dsimp only
  split
  · split <;> rfl
  · rfl

theorem run_handle_receiver (meanwhile : List Handling) :
    (run FixTopics.handle t meanwhile).receiver = t.receiver := by
  induction meanwhile generalizing t with
  | nil => rfl
  | cons i rest ih => exact (ih (t := t.handle i)).trans (handle_receiver i)

theorem Relays.handle (h : Relays positions t) (i : Handling) : Relays positions (t.handle i) := by
  obtain ⟨hmoves,hrunning,hhandled⟩ := step_moves h.kept.handler i.queueStep
  have hdispatch : (t.handle i).dispatch = t.dispatch.step i.queueStep := rfl
  have hpushed : (t.dispatch.step i.queueStep).pushed = t.dispatch.pushed := by
    rw [hmoves,show i.queueStep.pushed = [] by cases i <;> rfl,ite_self,List.append_nil]
  refine ⟨h.kept.step i.queueStep,?_,fun hr => ?_,fun rtk => ?_⟩
  · rw [hdispatch,hpushed]
    exact h.pushed
  · rw [hdispatch] at hr ⊢
    exact hpushed.trans (h.running (Bool.and_eq_true_iff.mp (hrunning ▸ hr)).1)
  · rw [handle_fixes,h.fixes,hdispatch]
    simp only [published, hhandled, List.filter_append, List.map_append]

theorem Relays.run_handle (h : Relays positions t) (meanwhile : List Handling) :
    Relays positions (run FixTopics.handle t meanwhile) := by
  induction meanwhile generalizing t with
  | nil => exact h
  | cons i rest ih => exact ih (h.handle i)

/-- A position is on its way, unless the queue has been stopped. -/
theorem Relays.push (h : Relays positions t) (s : ReceiverPositionState) :
    Relays (positions ++ [s]) (t.push s) := by
  have hdispatch : (t.push s).dispatch = t.dispatch.push s := rfl
  obtain ⟨hpushed,hrunning,hhandled⟩ := moves_push h.kept.handler s
  refine ⟨h.kept.push s,?_,fun hr => ?_,fun rtk => ?_⟩
  · rw [hdispatch,hpushed]
    split
    · exact h.pushed.append (List.Sublist.refl [s])
    · exact h.pushed.append (List.nil_sublist [s])
  · have hopen : t.dispatch.queue.running = true :=
      (Bool.and_eq_true_iff.mp (hrunning.symm.trans hr)).1
    rw [hdispatch,hpushed,if_pos hopen,h.running hopen]
    rfl
  · have hnone : (QueueStep.push s).ended t.dispatch = [] := rfl
    rw [hdispatch,published,hhandled,hnone,List.append_nil]
    exact h.fixes rtk

variable (sdk) in
theorem run_relays (batches : List GnssObservations) (h : Relays positions t)
    (intakes : List Intake) :
    Relays (positions ++ handed sdk (handovers sdk batches t.receiver intakes))
      (run (FixTopics.step sdk) t intakes) := by
  induction intakes generalizing t positions batches with
  | nil => simpa [handovers, handed] using h
  | cons intake rest ih =>
    cases intake with
    | timing timing =>
      exact ih batches (t := { t with receiver := { t.receiver with timing } })
        ⟨h.kept,h.pushed,h.running,h.fixes⟩
    | handling i =>
      have hrest := ih batches (h.handle i)
      rwa [handle_receiver] at hrest
    | observations batch meanwhile =>
      let receiver := t.receiver.apply sdk batch
      have hreceiver : Relays positions { t with receiver } := ⟨h.kept,h.pushed,h.running,h.fixes⟩
      have hpushed := ((hreceiver.push (receiver.position sdk false batch.deviceMonotonicMs)).run_handle
        meanwhile).push (receiver.position sdk true batch.deviceMonotonicMs)
      have hrest := ih (batches ++ [batch]) hpushed
      have hsame : ((run FixTopics.handle (FixTopics.push { t with receiver }
          (receiver.position sdk false batch.deviceMonotonicMs)) meanwhile).push
            (receiver.position sdk true batch.deviceMonotonicMs)).receiver = receiver :=
        run_handle_receiver meanwhile
      rw [hsame,List.append_assoc,List.append_assoc] at hrest
      exact hrest

end

/-! ## Whole histories -/

section
variable {batches : List GnssObservations}

theorem stems_timing (h : Stems sdk batches r) (timing : GnssTimingStatusState) :
    Stems sdk batches { r with timing } := ⟨h.session,h.gst⟩

theorem stems_handovers (hsdk : sdk.Documented) (hstems : Stems sdk batches r)
    {intakes : List Intake} (hb : ∀ batch ∈ batches ++ batchesOf intakes, batch.session ≠ 0) :
    ∀ h ∈ handovers sdk batches r intakes, Stems sdk h.batches h.receiver := by
  induction intakes generalizing batches r with
  | nil => exact List.forall_mem_nil _
  | cons intake rest ih =>
    cases intake with
    | timing timing => exact ih (stems_timing hstems timing) hb
    | handling i => exact ih hstems hb
    | observations batch meanwhile =>
      have hnext : Stems sdk (batches ++ [batch]) (r.apply sdk batch) :=
        hstems.step hsdk (fun b hmem => hb b (List.mem_append_left _ hmem)) batch
      refine List.forall_mem_cons.mpr ⟨hnext,ih hnext fun b hmem => hb b ?_⟩
      simpa [batchesOf, or_assoc] using hmem

variable (sdk batches r) in
theorem length_handovers (intakes : List Intake) :
    (handovers sdk batches r intakes).length = (batchesOf intakes).length := by
  induction intakes generalizing batches r with
  | nil => rfl
  | cons intake rest ih =>
    cases intake with
    | timing timing => exact ih _ _
    | handling i => exact ih _ _
    | observations batch meanwhile => exact congrArg Nat.succ (ih _ _)

theorem handed_onTopic (hs : List (Handover Model)) :
    (handed sdk hs).filter (onTopic rtk) = hs.map (·.position sdk rtk) := by
  induction hs with
  | nil => rfl
  | cons h rest ih =>
    rw [handed,List.flatMap_cons,List.filter_append,← handed,ih]
    cases rtk <;> rfl

variable (sdk) in
theorem length_handed (hs : List (Handover Model)) : (handed sdk hs).length = 2 * hs.length := by
  simp [handed, Nat.mul_comm]

end

section
variable {t : FixTopics Model} {positions : List ReceiverPositionState}

theorem Relays.fixes_sublist (h : Relays positions t) :
    (t.fixes rtk).Sublist ((positions.filter (onTopic rtk)).map receiverFix) := by
  rw [h.fixes]
  refine List.Sublist.map _ (List.Sublist.filter _ ?_)
  have hhandled : (t.dispatch.handled.map Prod.fst).Sublist t.dispatch.pushed := by
    have hpopped : (t.dispatch.having .popped).Sublist (t.dispatch.left.map Prod.fst) :=
      List.filter_sublist.map _
    rw [h.kept.popped] at hpopped
    rw [h.kept.pushed]
    exact ((List.sublist_append_left _ _).trans hpopped).trans (List.sublist_append_left _ _)
  exact ((List.filter_sublist.map _).trans hhandled).trans h.pushed

/-- Each position is published, lost and counted, or on its way. -/
theorem Relays.count (h : Relays positions t) (hr : t.dispatch.queue.running = true) :
    positions.length = (t.fixes false).length + (t.fixes true).length + t.dispatch.queue.dropped +
      t.dispatch.queue.callbackErrors + t.dispatch.queue.queue.length +
        t.dispatch.queue.held.toList.length := by
  have hphase : t.dispatch.phase = .notCalled := by
    by_contra hp
    exact absurd (hr.symm.trans (h.kept.stopped.mpr hp)) Bool.noConfusion
  have hpushed := congrArg List.length h.kept.pushed
  rw [h.running hr,List.length_append,List.length_map,left_length,
    h.kept.discarded (.inl hphase),h.kept.popped,← h.kept.dropped,List.length_append,
    List.length_map] at hpushed
  have htopics : (t.fixes false).length + (t.fixes true).length = (published t.dispatch).length := by
    have hother : onTopic false = fun s => !onTopic true s :=
      funext fun s => by cases hs : decide (s.source = "ADRNAV") <;> simp [onTopic, hs]
    rw [h.fixes,h.fixes,List.length_map,List.length_map,hother,Nat.add_comm]
    exact (List.length_eq_length_filter_add (onTopic true)).symm
  have hthrown := List.length_eq_length_filter_add (l := t.dispatch.handled) Prod.snd
  rw [← h.kept.errors] at hthrown
  rw [published,List.length_map] at htopics
  rw [hpushed,List.length_nil]
  omega

end

/-- However the queue's worker goes on beside the polls, and whichever handlers throw: each fix
that goes out is that of one position the receiver has handed over, in order and none twice,
and what it says is what the sentences up to then say: a position that is valid and recent and
in range, or none; deviations of its own epoch, or none; the receiver's time, or none. Until a
stop each position of a batch has gone out, has been counted as lost, or is on its way. -/
theorem fixes_tell (hsdk : sdk.Documented) {r : ReceiverModel Model}
    (hstart : r.gst.valid = false) (intakes : List Intake)
    (hb : ∀ b ∈ batchesOf intakes, b.session ≠ 0) :
    let t := run (FixTopics.step sdk) { receiver := r } intakes
    (∀ rtk, ∃ kept : List (Handover Model), kept.Sublist (handovers sdk [] r intakes) ∧
      List.Forall₂ (fun h fix => Tells sdk h.batches h.receiver rtk h.now fix) kept (t.fixes rtk)) ∧
    (t.dispatch.queue.running = true → 2 * (batchesOf intakes).length =
      (t.fixes false).length + (t.fixes true).length + t.dispatch.queue.dropped +
        t.dispatch.queue.callbackErrors + t.dispatch.queue.queue.length +
          t.dispatch.queue.held.toList.length) := by
  intro t
  have hbegun : Relays [] ({ receiver := r } : FixTopics Model) :=
    ⟨kept_dispatching _ (by decide),List.Sublist.refl _,fun _ => rfl,fun rtk => by cases rtk <;> rfl⟩
  have hrelays : Relays (handed sdk (handovers sdk [] r intakes)) t := by
    have hrun := run_relays sdk [] hbegun intakes
    rwa [List.nil_append] at hrun
  have hstems := stems_handovers hsdk (⟨nofun,fun h => absurd h (by rw [hstart]; exact nofun)⟩ :
    Stems sdk [] r) hb
  refine ⟨fun rtk => ?_,fun hr => ?_⟩
  · have hsublist : (t.fixes rtk).Sublist _ := hrelays.fixes_sublist
    rw [handed_onTopic,List.map_map] at hsublist
    obtain ⟨kept,hkept,heq⟩ := List.sublist_map_iff.mp hsublist
    refine ⟨kept,hkept,?_⟩
    rw [heq,List.forall₂_map_right_iff,List.forall₂_same]
    exact fun h hmem => receiverFix_tells hsdk (hstems h (hkept.subset hmem))
  · rw [← length_handovers sdk r [],← length_handed sdk]
    exact hrelays.count hr

end

/-- A PPS, and a batch with a GGA sentence and its GST; the handler of the RTK position throws. -/
def matchedIntakes : List Intake :=
  [.timing { timeSynced := true, lastPpsEpochUs := 1777326476000000 },
    .observations matchedBatch [.pop], .handling (.handled false), .handling .pop,
    .handling (.handled true)]

theorem fixes_tell_matched :
    let t := run (FixTopics.step sentencePlot) { receiver := { model := (0,{}) } } matchedIntakes
    ∃ fix, t.fixes false = [fix] ∧ Tells sentencePlot [matchedBatch] t.receiver false 1100 fix := by
  intro t
  have hall := fixes_tell sentencePlot_documented (r := { model := (0,{}) }) rfl matchedIntakes
    (by decide)
  obtain ⟨kept,hkept,htells⟩ := hall.1 false
  obtain ⟨fix,hfix⟩ : ∃ fix, t.fixes false = [fix] := ⟨_,rfl⟩
  rw [show run (FixTopics.step sentencePlot) { receiver := { model := (0,{}) } } matchedIntakes = t
    from rfl,hfix] at htells
  obtain ⟨h,rest,htell,hrest,rfl⟩ := List.forall₂_cons_right_iff.mp htells
  obtain rfl := List.mem_singleton.mp (hkept.subset List.mem_cons_self)
  exact ⟨fix,hfix,htell⟩

end PrismRosAdapter.Navigation
