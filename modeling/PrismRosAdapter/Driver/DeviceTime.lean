import PrismRosAdapter.Driver.Handlers
import PrismRosAdapter.Driver.Run
import PrismRosAdapter.Program.Runs

/-! # LiDAR times in the device time domain

A LiDAR sample is placed by the newest board or camera time. While that reference
is fresh, a sample that cannot be placed is dropped; once it has gone stale, the
gate opens and samples pass with the SDK's own time.
-/
namespace PrismRosAdapter.Driver
open Program Runs Health Timing DeviceTimeResolver

inductive SensorSample where
  | boardImu (sample : ImuSample)
  | cameraMeta (metadata : VideoMeta)
  | lidarPoints (batch : SdkLidarPointBatch)
  | lidarImu (sample : SdkLidarImuSample)

def SensorSample.program (w : World) : SensorSample → Driving Unit
  | .boardImu sample => dispatchBoardImu w sample
  | .cameraMeta metadata => handleVideoMeta w metadata
  | .lidarPoints batch => dispatchLidarPoints w batch
  | .lidarImu sample => dispatchLidarImu w sample

def takeSample (w : World) (s : DriverState) (sample : SensorSample) : DriverState :=
  (sample.program w s).2

/-- The two times a LiDAR sample comes with. -/
structure LidarTimes where
  synced : Bool
  sdkNs : UInt64
  rawNs : UInt64

def SensorSample.lidarTimes : SensorSample → Option LidarTimes
  | .lidarPoints batch =>
    some ⟨batch.timestampSynced,batch.timestampUtcUs * 1000,batch.timestampRaw⟩
  | .lidarImu sample => some ⟨sample.timestampSynced,sample.timestampUtcUs * 1000,sample.timestampRawNs⟩
  | _ => none

/-- A LiDAR sample reads the clock three times: for its health, to be placed, and for
the freshness of the reference. -/
def placedNs (w : World) (s : DriverState) : UInt64 := w.clock (s.link.ticks + 1)
def checkedNs (w : World) (s : DriverState) : UInt64 := w.clock (s.link.ticks + 2)

/-- The resolver has accepted the time: one of the two candidates, within two seconds
of the reference carried forward. -/
def Accepted (r : DeviceTimeResolver) (times : LidarTimes) (arrivalSteadyNs ts : UInt64) : Prop :=
  ∃ resolution, r.resolveLidar times.sdkNs times.rawNs arrivalSteadyNs = some resolution ∧
    resolution.timestampNs = ts ∧ (ts = times.sdkNs ∨ ts = times.rawNs) ∧
    ∃ expected, r.expectedNs arrivalSteadyNs = some expected ∧
      candidateDelta ts expected ≤ kMaximumCandidateDeltaNs

/-- The sample has gone to the accumulator or to the dispatcher with the time `ts`. -/
def PassedOn (w : World) (sample : SensorSample) (ts : UInt64) (r r' : Receive) : Prop :=
  match sample with
  | .lidarPoints batch => ∃ source, Lidar.convertLidarBatch w batch ts = .ok source ∧
      r'.accumulator = (Lidar.append source r.accumulator).2
  | .lidarImu _ => ∃ output, output.timestampNs = ts ∧
      r'.lidarImuDispatch = r.lidarImuDispatch ++ [output]
  | _ => False

/-- The sample was counted, and nothing else happened to it. -/
def Dropped (r r' : Receive) : Prop :=
  r' = { r with droppedUnsynchronized := r.droppedUnsynchronized + 1 }

/-- The reference is more than five seconds old. -/
def Stale (w : World) (s : DriverState) : Prop :=
  s.receive.resolver.arrivalSteadyNs.toNat + 5000000000 < (checkedNs w s).toNat

/-- What is passed on has been placed, and what cannot be placed is dropped. -/
def InDomain (w : World) (s : DriverState) (sample : SensorSample) : Prop :=
  ∀ times ∈ sample.lidarTimes,
    ((takeSample w s sample).receive = s.receive ∨
      Dropped s.receive (takeSample w s sample).receive ∨
      ∃ ts, Accepted s.receive.resolver times (placedNs w s) ts ∧
        PassedOn w sample ts s.receive (takeSample w s sample).receive) ∧
    (s.receive.resolver.resolveLidar times.sdkNs times.rawNs (placedNs w s) = none →
      Dropped s.receive (takeSample w s sample).receive)

/-- The same while the reference is fresh; past it a sample may pass with the time of
the SDK. -/
def InDomainWhileFresh (w : World) (s : DriverState) (sample : SensorSample) : Prop :=
  ∀ times ∈ sample.lidarTimes,
    ((takeSample w s sample).receive = s.receive ∨
      Dropped s.receive (takeSample w s sample).receive ∨
      (∃ ts, Accepted s.receive.resolver times (placedNs w s) ts ∧
        PassedOn w sample ts s.receive (takeSample w s sample).receive) ∨
      Stale w s ∧ PassedOn w sample times.sdkNs s.receive (takeSample w s sample).receive) ∧
    (s.receive.resolver.resolveLidar times.sdkNs times.rawNs (placedNs w s) = none →
      ¬ Stale w s → Dropped s.receive (takeSample w s sample).receive)

/-! ## The reference is never ahead of the clock -/

/-- The clock moves on; a new reference arrives when it is read. -/
structure Clocked (w : World) (s t : DriverState) : Prop where
  ticks : s.link.ticks ≤ t.link.ticks
  config : t.control.config = s.control.config
  resolver : t.receive.resolver = s.receive.resolver ∨
    ∃ tick ≤ t.link.ticks, t.receive.resolver.arrivalSteadyNs = w.clock tick

section
variable {w : World} {s t u : DriverState}

theorem Clocked.trans (h : Clocked w s t) (h' : Clocked w t u) : Clocked w s u where
  ticks := h.ticks.trans h'.ticks
  config := h'.config.trans h.config
  resolver := by
    rcases h'.resolver with hsame | hnew
    · rw [hsame]
      rcases h.resolver with hsame' | ⟨tick,hle,hnew⟩
      · exact Or.inl hsame'
      · exact Or.inr ⟨tick,hle.trans h'.ticks,hnew⟩
    · exact Or.inr hnew

theorem clocked_still (ht : t.link.ticks = s.link.ticks) (hc : t.control = s.control)
    (hr : t.receive.resolver = s.receive.resolver) : Clocked w s t :=
  ⟨ht.ge,by rw [hc],Or.inl hr⟩

instance : Std.Refl (Clocked w) := ⟨fun _ => clocked_still rfl rfl rfl⟩
instance : IsTrans DriverState (Clocked w) := ⟨fun _ _ _ => Clocked.trans⟩

theorem returns_steadyNowNs {now : UInt64} : (steadyNowNs w).Returns s now t ↔
    now = w.clock s.link.ticks ∧
      t = { s with link := { s.link with ticks := s.link.ticks + 1 } } := by
  simp only [steadyNowNs, nextTick, modifyLink, returns_bind, returns_get, returns_modify,
    returns_pure]
  constructor
  · rintro ⟨_,_,⟨_,_,⟨rfl,rfl⟩,_,_,rfl,rfl,rfl⟩,rfl,rfl⟩
    exact ⟨rfl,rfl⟩
  · rintro ⟨rfl,rfl⟩
    exact ⟨_,_,⟨_,_,⟨rfl,rfl⟩,⟨⟩,_,rfl,rfl,rfl⟩,rfl,rfl⟩

theorem clocked_nextTick : Within (Clocked w) nextTick :=
  fun _ => ⟨Nat.le_succ _,rfl,Or.inl rfl⟩

/-- An observation arrives at the tick it has read. -/
theorem clocked_observation {f : UInt64 → DeviceTimeResolver → DeviceTimeResolver}
    (hf : ∀ now r, f now r = r ∨ (f now r).arrivalSteadyNs = now) :
    Within (Clocked w) (do
      let now ← steadyNowNs w
      modifyReceive fun r => { r with resolver := f now r.resolver }) := by
  refine within_of_leaves fun s t h => ?_
  obtain ⟨now,u,hnow,h⟩ := total_steadyNowNs.leaves_bind.mp h
  obtain ⟨rfl,rfl⟩ := returns_steadyNowNs.mp hnow
  obtain rfl := h
  refine ⟨Nat.le_succ _,rfl,?_⟩
  rcases hf (w.clock s.link.ticks) s.receive.resolver with hsame | hnew
  · exact Or.inl hsame
  · exact Or.inr ⟨s.link.ticks,Nat.le_succ _,hnew⟩

theorem arrival_observeCamera (r : DeviceTimeResolver) (timestampNs now : UInt64) :
    r.observeCamera timestampNs now = r ∨
      (r.observeCamera timestampNs now).arrivalSteadyNs = now := by
  unfold observeCamera
  split
  · exact Or.inl rfl
  · exact arrival_observe r timestampNs now .camera

theorem handles_clocked (w : World) : Handles w (Clocked w) where
  health := fun _ => within_modify fun _ => clocked_still rfl rfl rfl
  receive := fun hg => within_modify fun s => clocked_still rfl rfl (hg s.receive)
  tick := clocked_nextTick
  call := fun _ => clocked_still rfl rfl rfl
  accumulate := fun _ _ => clocked_still rfl rfl rfl
  boardTime := fun sample => within_ite (clocked_observation (f := fun now r =>
    r.observeBoard (sample.timestampUs * 1000) now) fun now r =>
      arrival_observe r (sample.timestampUs * 1000) now .boardImu) (within_pure ())
  cameraTime := fun metadata => within_ite (clocked_observation (f := fun now r =>
    r.observeCamera metadata.triggerTimeNs now) fun now r =>
      arrival_observeCamera r metadata.triggerTimeNs now) (within_pure ())
  sampled := fun _ _ _ => clocked_still rfl rfl rfl

theorem clocked_ask {α : Type} {event : Except Failure α → Event} {reply : ℕ → Except Failure α} :
    Within (Clocked w) (ask event reply) :=
  within_andThen (within_bind (handles_clocked w).call fun _ => within_answer _) fun _ _ =>
    clocked_still rfl rfl rfl

theorem clocked_handleVideoMeta (metadata : VideoMeta) :
    Within (Clocked w) (handleVideoMeta w metadata) := by
  unfold handleVideoMeta
  refine within_bind ((handles_clocked w).serves.observeMeta metadata) (fun _ => ?_)
  refine within_bind ((handles_clocked w).cameraTime metadata) (fun _ => ?_)
  refine within_bind clocked_ask (fun frame => ?_)
  cases frame with
  | none => exact within_pure ()
  | some set =>
    refine within_bind (within_ite (within_pure ()) clocked_ask) (fun _ => ?_)
    refine within_bind (within_modify fun _ => clocked_still rfl rfl rfl) (fun _ => ?_)
    exact (handles_clocked w).serves.publishCameraFrame set

theorem clocked_takeSample (s : DriverState) (sample : SensorSample) :
    Clocked w s (takeSample w s sample) := by
  cases sample with
  | boardImu sample => exact (handles_clocked w).serves.dispatchBoardImu sample s
  | cameraMeta metadata => exact clocked_handleVideoMeta metadata s
  | lidarPoints batch => exact (handles_clocked w).serves.dispatchLidarPoints batch s
  | lidarImu sample => exact (handles_clocked w).serves.dispatchLidarImu sample s

/-! ## The gate -/

/-- What both LiDAR dispatchers do with a sample once its health has been observed. -/
def gate (w : World) (stream : Stream) (times : LidarTimes)
    (pass : Option DeviceTimeResolution → Driving Unit) : Driving Unit := do
  let s ← get
  if s.control.config.requireSynchronizedTimestamps && !times.synced then
    dropUnsynchronized stream
  else
    let (resolved,referenceRequired) ← resolveLidarTime w times.sdkNs times.rawNs
    if resolved.isNone && referenceRequired &&
        s.control.config.requireSynchronizedTimestamps then
      dropUnsynchronized stream
    else pass resolved

theorem dispatchLidarPoints_eq (batch : SdkLidarPointBatch) :
    dispatchLidarPoints w batch = (do
      observe w .lidarPoints (if batch.timestampSynced then batch.timestampUtcUs * 1000 else 0)
        batch.batchId 32 true
      whenever batch.points.isEmpty (addIssue .lidarPoints .incomplete)
      gate w .lidarPoints ⟨batch.timestampSynced,batch.timestampUtcUs * 1000,batch.timestampRaw⟩
        (passLidarBatch w batch)) := rfl

theorem dispatchLidarImu_eq (sample : SdkLidarImuSample) :
    dispatchLidarImu w sample = (do
      observe w .lidarImu (if sample.timestampSynced then sample.timestampUtcUs * 1000 else 0)
        sample.sampleId 32 false
      gate w .lidarImu ⟨sample.timestampSynced,sample.timestampUtcUs * 1000,sample.timestampRawNs⟩
        (passLidarImu sample)) := rfl

theorem dropUnsynchronized_leaves {stream : Stream} (h : (dropUnsynchronized stream).Leaves s t) :
    Dropped s.receive t.receive := by
  obtain rfl := h
  rfl

theorem returns_resolveLidarTime {sdkNs rawNs : UInt64}
    {x : Option DeviceTimeResolution × Bool}
    (h : (resolveLidarTime w sdkNs rawNs).Returns s x t) :
    x = (s.receive.resolver.resolveLidar sdkNs rawNs (w.clock s.link.ticks),
        s.receive.resolver.hasFreshReference (w.clock (s.link.ticks + 1))) ∧
      t.receive = s.receive := by
  replace h := returns_get_bind.mp h
  obtain ⟨arrival,u,hu,h⟩ := returns_bind.mp h
  obtain ⟨rfl,rfl⟩ := returns_steadyNowNs.mp hu
  obtain ⟨now,v,hv,h⟩ := returns_bind.mp h
  obtain ⟨rfl,rfl⟩ := returns_steadyNowNs.mp hv
  obtain ⟨rfl,rfl⟩ := returns_pure.mp h
  exact ⟨rfl,rfl⟩

theorem total_resolveLidarTime {sdkNs rawNs : UInt64} : (resolveLidarTime w sdkNs rawNs).Total :=
  total_bind total_get fun _ => total_bind total_steadyNowNs fun _ =>
    total_bind total_steadyNowNs fun _ => total_pure _

/-- What a handler of LiDAR samples does before the gate. -/
structure Observed (s t : DriverState) : Prop where
  receive : t.receive = s.receive
  control : t.control = s.control
  ticks : t.link.ticks = s.link.ticks + 1

theorem observe_returns {stream : Stream} {stampNs : UInt64} {sequence : UInt32} {bits : ℕ}
    {equalStampValid : Bool}
    (h : (observe w stream stampNs sequence bits equalStampValid).Returns s () t) :
    Observed s t := by
  obtain ⟨_,v,hv,h⟩ := returns_bind.mp (returns_get_bind.mp h)
  obtain ⟨now,u,hu,hv⟩ := returns_bind.mp hv
  obtain ⟨rfl,rfl⟩ := returns_steadyNowNs.mp hu
  obtain rfl := returns_modify.mp hv
  obtain rfl := returns_modify.mp h
  exact ⟨rfl,rfl,rfl⟩

theorem Observed.then_issue {c : Bool} {stream : Stream} {issue : Issue} (h : Observed s t)
    (h' : (whenever c (addIssue stream issue)).Returns t () u) : Observed s u := by
  unfold whenever at h'
  split at h'
  · obtain rfl := returns_modify.mp h'
    exact ⟨h.receive,h.control,h.ticks⟩
  · obtain ⟨_,rfl⟩ := returns_pure.mp h'
    exact h

/-- A sample is dropped, or it goes on with what the resolver says about it. -/
theorem Observed.gate_leaves {stream : Stream} {times : LidarTimes}
    {pass : Option DeviceTimeResolution → Driving Unit} (hs : Observed s t)
    (hreq : s.control.config.requireSynchronizedTimestamps = true)
    (h : (gate w stream times pass).Leaves t u) :
    let resolved := s.receive.resolver.resolveLidar times.sdkNs times.rawNs (placedNs w s)
    Dropped s.receive u.receive ∨
      (resolved = none → s.receive.resolver.hasFreshReference (checkedNs w s) = false) ∧
        ∃ v, v.receive = s.receive ∧ (pass resolved).Leaves v u := by
  intro resolved
  rw [← hs.receive]
  replace h := leaves_get_bind.mp h
  rw [hs.control,hreq] at h
  split at h
  · exact Or.inl (dropUnsynchronized_leaves h)
  obtain ⟨x,v,hv,hrest⟩ := total_resolveLidarTime.leaves_bind.mp h
  obtain ⟨rfl,hreceive⟩ := returns_resolveLidarTime hv
  have hresolved : t.receive.resolver.resolveLidar times.sdkNs times.rawNs
      (w.clock t.link.ticks) = resolved := by
    rw [hs.receive,hs.ticks]
    rfl
  have hchecked : w.clock (t.link.ticks + 1) = checkedNs w s := by rw [hs.ticks,checkedNs]
  rw [hresolved,hchecked] at hrest
  dsimp only at hrest
  split at hrest
  · have hdropped := dropUnsynchronized_leaves hrest
    rw [hreceive] at hdropped
    exact Or.inl hdropped
  · rename_i hgate
    refine Or.inr ⟨fun hnone => ?_,v,hreceive,hrest⟩
    rw [hnone] at hgate
    simpa using hgate

/-! ## What is passed on -/

theorem passLidarImu_leaves {sample : SdkLidarImuSample} {resolved : Option DeviceTimeResolution}
    (h : (passLidarImu sample resolved).Leaves s t) :
    PassedOn w (.lidarImu sample) (selectedNs (sample.timestampUtcUs * 1000) resolved)
      s.receive t.receive := by
  obtain rfl := h
  refine ⟨lidarImuOutput sample resolved,rfl,?_⟩
  cases resolved with
  | none => rfl
  | some resolution => cases hc : resolution.candidate <;> rfl

theorem passLidarBatch_leaves {batch : SdkLidarPointBatch}
    {resolved : Option DeviceTimeResolution} (h : (passLidarBatch w batch resolved).Leaves s t) :
    t.receive = s.receive ∨ PassedOn w (.lidarPoints batch)
      (selectedNs (batch.timestampUtcUs * 1000) resolved) s.receive t.receive := by
  rcases leaves_bind.mp h with ⟨e,hthrow⟩ | ⟨source,a,hconvert,hrest⟩
  · obtain ⟨_,rfl⟩ := throws_answer.mp hthrow
    exact Or.inl rfl
  obtain ⟨hsource,ha⟩ := returns_answer.mp hconvert
  refine Or.inr ⟨source,hsource,?_⟩
  obtain ⟨_,b,hcount,hrest'⟩ := (total_modify _).leaves_bind.mp hrest
  obtain rfl := returns_modify.mp hcount
  have hsame : (countSelected s.receive resolved).accumulator = s.receive.accumulator := by
    unfold countSelected
    split <;> rfl
  rw [← hsame]
  subst ha
  rcases leaves_bind.mp hrest' with ⟨e,hthrow⟩ | ⟨frames,c,happend,hpush⟩
  · obtain rfl := hthrow.state
    rfl
  · obtain rfl := happend.state
    obtain rfl := hpush
    rfl

/-! ## One sample -/

variable {sample : SensorSample}

/-- How a LiDAR sample leaves the dispatcher: untouched, dropped, or passed on with the
time selected for it. -/
theorem takeSample_cases {times : LidarTimes}
    (hreq : s.control.config.requireSynchronizedTimestamps = true)
    (htimes : times ∈ sample.lidarTimes) :
    let resolved := s.receive.resolver.resolveLidar times.sdkNs times.rawNs (placedNs w s)
    Dropped s.receive (takeSample w s sample).receive ∨
      (resolved = none → s.receive.resolver.hasFreshReference (checkedNs w s) = false) ∧
        ((takeSample w s sample).receive = s.receive ∨
          PassedOn w sample (selectedNs times.sdkNs resolved) s.receive
            (takeSample w s sample).receive) := by
  intro resolved
  cases sample with
  | boardImu | cameraMeta => cases htimes
  | lidarPoints batch =>
    obtain rfl := Option.mem_some.mp htimes
    have h : (dispatchLidarPoints w batch).Leaves s (takeSample w s (.lidarPoints batch)) := rfl
    rw [dispatchLidarPoints_eq] at h
    obtain ⟨_,u,hobserve,hrest⟩ := (total_observe _ _ _ _ _).leaves_bind.mp h
    obtain ⟨_,v,hissue,hgate⟩ := (total_whenever (total_addIssue _ _)).leaves_bind.mp hrest
    rcases ((observe_returns hobserve).then_issue hissue).gate_leaves hreq hgate with
      hdropped | ⟨hstale,x,hx,hpass⟩
    · exact Or.inl hdropped
    · have hpassed := passLidarBatch_leaves hpass
      rw [hx] at hpassed
      exact Or.inr ⟨hstale,hpassed⟩
  | lidarImu sample =>
    obtain rfl := Option.mem_some.mp htimes
    have h : (dispatchLidarImu w sample).Leaves s (takeSample w s (.lidarImu sample)) := rfl
    rw [dispatchLidarImu_eq] at h
    obtain ⟨_,v,hobserve,hgate⟩ := (total_observe _ _ _ _ _).leaves_bind.mp h
    rcases (observe_returns hobserve).gate_leaves hreq hgate with hdropped | ⟨hstale,x,hx,hpass⟩
    · exact Or.inl hdropped
    · have hpassed := passLidarImu_leaves (w := w) hpass
      rw [hx] at hpassed
      exact Or.inr ⟨hstale,Or.inr hpassed⟩

/-- A reference that has arrived and is not fresh is stale. -/
theorem stale_of_not_fresh (hreference : s.receive.resolver.hasReference = true)
    (harrived : s.receive.resolver.arrivalSteadyNs ≤ checkedNs w s)
    (h : s.receive.resolver.hasFreshReference (checkedNs w s) = false) : Stale w s := by
  unfold hasFreshReference at h
  rw [hreference,Bool.true_and,decide_eq_false_iff_not,not_and] at h
  have hage := UInt64.not_le.mp (h harrived)
  rw [UInt64.lt_iff_toNat_lt,UInt64.toNat_sub_of_le _ _ harrived] at hage
  have hle := UInt64.le_iff_toNat_le.mp harrived
  have hmax : kMaximumReferenceAgeNs.toNat = 5000000000 := rfl
  unfold Stale
  omega

theorem takeSample_inDomainWhileFresh
    (hreq : s.control.config.requireSynchronizedTimestamps = true)
    (hreference : s.receive.resolver.hasReference = true)
    (harrived : s.receive.resolver.arrivalSteadyNs ≤ checkedNs w s) :
    InDomainWhileFresh w s sample := by
  intro times htimes
  rcases takeSample_cases (w := w) hreq htimes with hdropped | ⟨hstale,hpass⟩
  · exact ⟨Or.inr (Or.inl hdropped),fun _ _ => hdropped⟩
  have hopen := fun hnone => stale_of_not_fresh hreference harrived (hstale hnone)
  refine ⟨?_,fun hnone hfresh => absurd (hopen hnone) hfresh⟩
  rcases hpass with hsame | hpassed
  · exact Or.inl hsame
  cases hr : s.receive.resolver.resolveLidar times.sdkNs times.rawNs (placedNs w s) with
  | none =>
    rw [hr] at hpassed
    exact Or.inr (Or.inr (Or.inr ⟨hopen hr,hpassed⟩))
  | some resolution =>
    rw [hr] at hpassed
    obtain ⟨hcandidate,hnear⟩ := resolveLidar_accepts hr
    exact Or.inr (Or.inr (Or.inl ⟨_,⟨resolution,hr,rfl,hcandidate,hnear⟩,hpassed⟩))

/-! ## A session -/

/-- The gate is closed to what is not synchronized, and the reference has arrived. -/
structure Placing (w : World) (s : DriverState) : Prop where
  required : s.control.config.requireSynchronizedTimestamps = true
  arrived : s.receive.resolver.arrivalSteadyNs ≤ w.clock s.link.ticks

theorem clock_mono (hclock : ∀ i, w.clock i ≤ w.clock (i + 1)) {i j : ℕ} (h : i ≤ j) :
    w.clock i ≤ w.clock j := by
  induction h with
  | refl => exact UInt64.le_refl _
  | step _ ih => exact UInt64.le_trans ih (hclock _)

theorem Clocked.placing (hclock : ∀ i, w.clock i ≤ w.clock (i + 1)) (h : Clocked w s t)
    (hs : Placing w s) : Placing w t := by
  refine ⟨h.config ▸ hs.required,?_⟩
  rcases h.resolver with hsame | ⟨tick,hle,hnew⟩
  · rw [hsame]
    exact UInt64.le_trans hs.arrived (clock_mono hclock h.ticks)
  · rw [hnew]
    exact clock_mono hclock hle

/-- With synchronized timestamps required, every LiDAR sample after the first reference
of a session is passed on with an accepted time or dropped, unless the reference has
gone stale. -/
theorem lidar_times_placed (hclock : ∀ i, w.clock i ≤ w.clock (i + 1))
    (hreq : s.control.config.requireSynchronizedTimestamps = true)
    (hreset : s.receive.resolver = {}) (samples : List SensorSample) :
    EachStep (takeSample w) (fun t sample => t.receive.resolver.hasReference = true →
      InDomainWhileFresh w t sample) s samples := by
  have hs : Placing w s := by
    refine ⟨hreq,?_⟩
    rw [hreset]
    exact UInt64.zero_le
  have hall : Always (takeSample w) (Placing w) s samples :=
    always_of_step (H := fun _ _ => True) (takeSample w)
      (fun t sample _ => (clocked_takeSample t sample).placing hclock) hs fun _ _ _ => trivial
  intro first sample hfirst hreference
  have hplacing := hall.eachStep _ _ _ hfirst
  exact takeSample_inDomainWhileFresh hplacing.required hreference
    (UInt64.le_trans hplacing.arrived (clock_mono hclock (Nat.le_add_right _ 2)))

end

/-- A clock that stands at one second for two readings. -/
def leaping (later : UInt64) : World :=
  { clock := fun i => if i < 2 then 1000000000 else later }

theorem leaping_mono {later : UInt64} (h : 1000000000 ≤ later) (i : ℕ) :
    (leaping later).clock i ≤ (leaping later).clock (i + 1) := by
  unfold leaping
  dsimp only
  split
  · split
    · exact UInt64.le_refl _
    · exact h
  · rw [if_neg (by omega)]
    exact UInt64.le_refl _

def boardAtOneSecond : SensorSample :=
  .boardImu ⟨0,0,1000000,true,false,false,fun _ => 0,fun _ => 0,0⟩

def lidarAtTwoSeconds : SensorSample :=
  .lidarImu ⟨0,2000000,500000000,true,fun _ => 0,fun _ => 0⟩

theorem lidar_times_placed_leaping :
    EachStep (takeSample (leaping 2000000000))
      (fun t sample => t.receive.resolver.hasReference = true →
        InDomainWhileFresh (leaping 2000000000) t sample) (fresh {})
      [boardAtOneSecond, lidarAtTwoSeconds] :=
  lidar_times_placed (leaping_mono (by decide)) rfl rfl _

/-- Six seconds after the board sample the LiDAR sample is rejected by the resolver,
and passed on with the time of the SDK. -/
theorem stale_reference_passes_rejected_time :
    ∃ (w : World) (s : DriverState) (samples : List SensorSample),
      (∀ i, w.clock i ≤ w.clock (i + 1)) ∧
      s.control.config.requireSynchronizedTimestamps = true ∧ s.receive.resolver = {} ∧
      ¬ EachStep (takeSample w) (fun t sample => t.receive.resolver.hasReference = true →
        InDomain w t sample) s samples := by
  refine ⟨leaping 7000000000,fresh {},[boardAtOneSecond, lidarAtTwoSeconds],
    leaping_mono (by decide),rfl,rfl,?_⟩
  intro h
  have hdomain := h [boardAtOneSecond] lidarAtTwoSeconds (List.prefix_refl _) (by decide +kernel)
  have hdropped := (hdomain _ rfl).2 (by decide +kernel)
  exact absurd (congrArg Receive.droppedUnsynchronized hdropped) (by decide +kernel)

end PrismRosAdapter.Driver
