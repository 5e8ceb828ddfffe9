import PrismRosAdapter.Driver.DeviceTime
import PrismRosAdapter.Driver.Traversal
import PrismRosAdapter.Health.Polls

/-! # The counter of unsynchronized samples

Each of the four handlers of timed samples raises the counter by one exactly when it
drops its sample. Nothing else a frame or a command does touches it.
-/
namespace PrismRosAdapter.Driver
open Program Health SensorDataHealth Operation Timing DeviceTimeResolver

/-! ## The samples -/

/-- A sample that may be dropped as unsynchronized. -/
inductive TimedSample where
  | boardImu (sample : ImuSample)
  | lidarPoints (batch : SdkLidarPointBatch)
  | lidarImu (sample : SdkLidarImuSample)
  | cameraFrame (frame : CapturedSet)

def TimedSample.program (w : World) : TimedSample → Driving Unit
  | .boardImu sample => dispatchBoardImu w sample
  | .lidarPoints batch => dispatchLidarPoints w batch
  | .lidarImu sample => dispatchLidarImu w sample
  | .cameraFrame frame => publishCameraFrame w frame

/-- The LiDAR sample is not synchronized, or cannot be placed by a fresh reference. -/
def unplaced (w : World) (s : DriverState) (times : LidarTimes) : Bool :=
  !times.synced ||
    ((s.receive.resolver.resolveLidar times.sdkNs times.rawNs (placedNs w s)).isNone &&
      s.receive.resolver.hasFreshReference (checkedNs w s))

def TimedSample.unsynchronized (w : World) (s : DriverState) : TimedSample → Bool
  | .boardImu sample => decide (sample.sensorId < 2) && !sample.timestampSynced
  | .lidarPoints batch => unplaced w s
      ⟨batch.timestampSynced,batch.timestampUtcUs * 1000,batch.timestampRaw⟩
  | .lidarImu sample => unplaced w s
      ⟨sample.timestampSynced,sample.timestampUtcUs * 1000,sample.timestampRawNs⟩
  | .cameraFrame frame => s.control.config.enableCamera &&
      !(frame.metadata.valid && frame.metadata.triggerTimeNs != 0)

/-- Whether the driver drops the sample in the state `s`. -/
def TimedSample.dropped (w : World) (s : DriverState) (sample : TimedSample) : Bool :=
  s.control.config.requireSynchronizedTimestamps && sample.unsynchronized w s

/-! ## What changes the counter -/

/-- The counter and the statuses are as they were. -/
structure Level (s t : DriverState) : Prop where
  counter : t.receive.droppedUnsynchronized = s.receive.droppedUnsynchronized
  statuses : t.link.statuses = s.link.statuses

instance : Std.Refl Level := ⟨fun _ => ⟨rfl,rfl⟩⟩
instance : IsTrans DriverState Level := ⟨fun _ _ _ h h' =>
  ⟨h'.counter.trans h.counter,h'.statuses.trans h.statuses⟩⟩

/-- The counter has gone up by one if the sample was dropped. -/
structure Counted (drops : Bool) (s t : DriverState) : Prop where
  counter : t.receive.droppedUnsynchronized =
    s.receive.droppedUnsynchronized + if drops then 1 else 0
  statuses : t.link.statuses = s.link.statuses

section
variable {w : World} {s t u : DriverState}

theorem Level.counted (h : Level s t) : Counted false s t where
  counter := h.counter.trans (UInt64.add_zero _).symm
  statuses := h.statuses

theorem Level.before {drops : Bool} (h : Level s t) (h' : Counted drops t u) :
    Counted drops s u where
  counter := by rw [h'.counter,h.counter]
  statuses := h'.statuses.trans h.statuses

theorem level_steadyNowNs : Within Level (steadyNowNs w) := fun _ => ⟨rfl,rfl⟩

theorem level_addIssue (stream : Stream) (issue : Issue) : Within Level (addIssue stream issue) :=
  fun _ => ⟨rfl,rfl⟩

theorem level_observe (stream : Stream) (stampNs : UInt64) (sequence : UInt32) (bits : ℕ)
    (equalStampValid : Bool) : Within Level (observe w stream stampNs sequence bits equalStampValid) :=
  fun _ => ⟨rfl,rfl⟩

theorem level_modifyReceive {g : Receive → Receive}
    (hg : ∀ r, (g r).droppedUnsynchronized = r.droppedUnsynchronized) :
    Within Level (modifyReceive g) := fun s => ⟨hg s.receive,rfl⟩

theorem countSelected_dropped (r : Receive) (resolved : Option DeviceTimeResolution) :
    (countSelected r resolved).droppedUnsynchronized = r.droppedUnsynchronized := by
  unfold countSelected
  split <;> rfl

theorem level_observeBoardTime (sample : ImuSample) : Within Level (observeBoardTime w sample) :=
  within_ite (within_bind level_steadyNowNs fun _ => level_modifyReceive fun _ => rfl)
    (within_pure ())

theorem level_passLidarBatch (batch : SdkLidarPointBatch)
    (resolved : Option DeviceTimeResolution) : Within Level (passLidarBatch w batch resolved) := by
  refine within_bind (within_answer _) (fun source => ?_)
  refine within_bind (level_modifyReceive fun r => countSelected_dropped r resolved) (fun _ => ?_)
  exact within_bind (fun _ => ⟨rfl,rfl⟩) fun _ => level_modifyReceive fun _ => rfl

theorem level_passLidarImu (sample : SdkLidarImuSample)
    (resolved : Option DeviceTimeResolution) : Within Level (passLidarImu sample resolved) :=
  level_modifyReceive fun r => countSelected_dropped r resolved

theorem level_observeImage (frame : CapturedSet) (timestampValid : Bool) (i : Fin 4) :
    Within Level (observeImage w frame timestampValid i) := by
  refine within_ite (within_pure ()) (within_bind (level_observe _ _ _ _ _) fun _ => ?_)
  exact within_bind within_get fun _ => within_whenever (level_addIssue _ _)

theorem counted_drop {stream : Stream} (h : (dropUnsynchronized stream).Leaves s t) :
    Counted true s t := by
  obtain rfl := h
  exact ⟨rfl,rfl⟩

/-- The gate asks for the synchronization first, and then for the place. -/
theorem gate_second {required synced unresolved fresh : Bool}
    (h : ¬ (required && !synced) = true) :
    (required && (!synced || (unresolved && fresh))) = (unresolved && fresh && required) := by
  cases required <;> cases synced <;> simp_all

/-- The gate drops what is unplaced and passes the rest. -/
theorem gate_counted {stream : Stream} {times : LidarTimes}
    {pass : Option DeviceTimeResolution → Driving Unit} (hpass : ∀ r, Within Level (pass r))
    (hs : Observed s t) (h : (gate w stream times pass).Leaves t u) :
    Counted (s.control.config.requireSynchronizedTimestamps && unplaced w s times) t u := by
  replace h := leaves_get_bind.mp h
  rw [hs.control] at h
  split at h
  · rename_i hfirst
    have hdrops : (s.control.config.requireSynchronizedTimestamps && unplaced w s times) = true := by
      rw [Bool.and_eq_true] at hfirst ⊢
      exact ⟨hfirst.1,by rw [unplaced,hfirst.2,Bool.true_or]⟩
    rw [hdrops]
    exact counted_drop h
  rename_i hfirst
  rw [unplaced,gate_second hfirst,placedNs,checkedNs]
  obtain ⟨x,v,hv,hrest⟩ := total_resolveLidarTime.leaves_bind.mp h
  have hlevel : Level t v := hv.state ▸ ⟨rfl,rfl⟩
  obtain ⟨rfl,_⟩ := returns_resolveLidarTime hv
  rw [hs.receive,hs.ticks] at hrest
  dsimp only at hrest
  split at hrest
  · rename_i hclosed
    rw [hclosed]
    exact hlevel.before (counted_drop hrest)
  · rename_i hopen
    rw [Bool.not_eq_true] at hopen
    rw [hopen]
    exact hlevel.before ((hpass _).leaves hrest).counted

section Observation
variable {stream : Stream} {stampNs : UInt64} {sequence : UInt32} {bits : ℕ} {equalStampValid : Bool}
  {rest : Driving Unit}

/-- The observation counts nothing. -/
theorem leaves_observe_then
    (h : (do observe w stream stampNs sequence bits equalStampValid; rest).Leaves s u) :
    ∃ t, Level s t ∧ Observed s t ∧ rest.Leaves t u := by
  obtain ⟨_,t,ht,h⟩ := (total_observe _ _ _ _ _).leaves_bind.mp h
  exact ⟨t,(level_observe _ _ _ _ _).returns ht,observe_returns ht,h⟩

/-- Nor does an issue that is added with it. -/
theorem leaves_observe_issue_then {c : Bool} {issue : Issue}
    (h : (do observe w stream stampNs sequence bits equalStampValid
             whenever c (addIssue stream issue)
             rest).Leaves s u) :
    ∃ t, Level s t ∧ Observed s t ∧ rest.Leaves t u := by
  obtain ⟨a,hlevel,hobserved,h⟩ := leaves_observe_then h
  obtain ⟨_,b,hb,h⟩ := (total_whenever (total_addIssue _ _)).leaves_bind.mp h
  have hissue : Level a b := (within_whenever (level_addIssue _ _)).returns hb
  exact ⟨b,IsTrans.trans _ _ _ hlevel hissue,hobserved.then_issue hb,h⟩

end Observation

theorem dispatchBoardImu_counted (sample : ImuSample)
    (h : (dispatchBoardImu w sample).Leaves s t) :
    Counted ((TimedSample.boardImu sample).dropped w s) s t := by
  unfold dispatchBoardImu at h
  split at h
  · rename_i hid
    have hdrops : (TimedSample.boardImu sample).dropped w s = false := by
      have hnot : ¬ sample.sensorId < 2 := UInt8.not_lt.mpr hid
      simp [TimedSample.dropped,TimedSample.unsynchronized,hnot]
    rw [hdrops]
    exact ((level_addIssue _ _).leaves h).counted
  rename_i hid
  have hdrops : (TimedSample.boardImu sample).dropped w s =
      (s.control.config.requireSynchronizedTimestamps && !sample.timestampSynced) := by
    have hlt : sample.sensorId < 2 := UInt8.not_le.mp hid
    simp [TimedSample.dropped,TimedSample.unsynchronized,hlt]
  rw [hdrops]
  obtain ⟨a,hlevel,hobserved,h⟩ := leaves_observe_issue_then h
  replace h := leaves_get_bind.mp h
  rw [hobserved.control] at h
  split at h
  · rename_i hdrop
    rw [hdrop]
    exact hlevel.before (counted_drop h)
  · rename_i hdrop
    rw [Bool.not_eq_true] at hdrop
    rw [hdrop]
    have hrest : Within Level (do
        observeBoardTime w sample
        modifyReceive fun r => { r with
          boardImuSamples := fun i =>
            if i.val = sample.sensorId.toNat then r.boardImuSamples i + 1 else r.boardImuSamples i
          boardImuDispatch := r.boardImuDispatch ++ [boardSample sample] }) :=
      within_bind (level_observeBoardTime sample) fun _ => level_modifyReceive fun _ => rfl
    exact hlevel.before (hrest.leaves h).counted

theorem dispatchLidarPoints_counted (batch : SdkLidarPointBatch)
    (h : (dispatchLidarPoints w batch).Leaves s t) :
    Counted ((TimedSample.lidarPoints batch).dropped w s) s t := by
  rw [dispatchLidarPoints_eq] at h
  obtain ⟨a,hlevel,hobserved,h⟩ := leaves_observe_issue_then h
  exact hlevel.before (gate_counted (level_passLidarBatch batch) hobserved h)

theorem dispatchLidarImu_counted (sample : SdkLidarImuSample)
    (h : (dispatchLidarImu w sample).Leaves s t) :
    Counted ((TimedSample.lidarImu sample).dropped w s) s t := by
  rw [dispatchLidarImu_eq] at h
  obtain ⟨a,hlevel,hobserved,h⟩ := leaves_observe_then h
  exact hlevel.before (gate_counted (level_passLidarImu sample) hobserved h)

theorem publishCameraFrame_counted (frame : CapturedSet)
    (h : (publishCameraFrame w frame).Leaves s t) :
    Counted ((TimedSample.cameraFrame frame).dropped w s) s t := by
  replace h := leaves_get_bind.mp h
  rw [TimedSample.dropped,TimedSample.unsynchronized]
  split at h
  · rename_i hoff
    rw [Bool.not_eq_true] at hoff
    rw [hoff,Bool.false_and,Bool.and_false,leaves_pure.mp h]
    exact Level.counted ⟨rfl,rfl⟩
  rename_i hon
  rw [not_not] at hon
  rw [hon,Bool.true_and]
  have hobserve : Within Level (forEach (observeImage w frame
      (frame.metadata.valid && frame.metadata.triggerTimeNs != 0)) (List.finRange 4)) :=
    within_forEach (level_observeImage frame _) _
  obtain ⟨_,a,ha,h⟩ := (total_forEach (total_observeImage frame _) _).leaves_bind.mp h
  have hlevel : Level s a := hobserve.returns ha
  split at h
  · rename_i hdrop
    rw [hdrop]
    obtain rfl := h
    exact hlevel.before ⟨rfl,rfl⟩
  · rename_i hdrop
    rw [Bool.not_eq_true] at hdrop
    rw [hdrop]
    obtain rfl := h
    exact hlevel.before (Level.counted ⟨rfl,rfl⟩)

/-- A sample raises the counter exactly if it is dropped. -/
theorem sample_counted (sample : TimedSample) (s : DriverState) :
    Counted (sample.dropped w s) s (sample.program w s).2 := by
  cases sample with
  | boardImu sample => exact dispatchBoardImu_counted sample rfl
  | lidarPoints batch => exact dispatchLidarPoints_counted batch rfl
  | lidarImu sample => exact dispatchLidarImu_counted sample rfl
  | cameraFrame frame => exact publishCameraFrame_counted frame rfl

/-! ## What counts something else -/

/-- The counter, the statuses and the unsynchronized samples of every lane are as they were. -/
structure Unmoved (s t : DriverState) : Prop extends Level s t where
  lanes : ∀ lane, (t.health.states lane).total .unsynchronized =
    (s.health.states lane).total .unsynchronized

instance : Std.Refl Unmoved := ⟨fun _ => ⟨⟨rfl,rfl⟩,fun _ => rfl⟩⟩
instance : IsTrans DriverState Unmoved := ⟨fun _ _ _ h h' =>
  ⟨IsTrans.trans _ _ _ h.toLevel h'.toLevel,fun lane => (h'.lanes lane).trans (h.lanes lane)⟩⟩

/-- An operation of the health that counts no unsynchronized sample. -/
theorem unmoved_operation (op : Operation) (hpoll : ∀ lane, op.poll lane .unsynchronized = none)
    (hcount : ∀ lane, op.mayCount lane .unsynchronized = false) :
    Within Unmoved (modifyHealth fun h => h.apply op) :=
  fun _ => ⟨⟨rfl,rfl⟩,fun lane => apply_total (hpoll lane) (hcount lane)⟩

theorem unmoved_modifyReceive {g : Receive → Receive}
    (hg : ∀ r, (g r).droppedUnsynchronized = r.droppedUnsynchronized) :
    Within Unmoved (modifyReceive g) := fun s => ⟨⟨hg s.receive,rfl⟩,fun _ => rfl⟩

theorem unmoved_modifyControl (g : Control → Control) : Within Unmoved (modifyControl g) :=
  fun _ => ⟨⟨rfl,rfl⟩,fun _ => rfl⟩

theorem unmoved_nextTick : Within Unmoved nextTick := fun _ => ⟨⟨rfl,rfl⟩,fun _ => rfl⟩
theorem unmoved_nextCall : Within Unmoved nextCall := fun _ => ⟨⟨rfl,rfl⟩,fun _ => rfl⟩
theorem unmoved_note (event : Event) : Within Unmoved (note event) :=
  fun _ => ⟨⟨rfl,rfl⟩,fun _ => rfl⟩

theorem unmoved_ask {α : Type} {event : Except Failure α → Event}
    {reply : ℕ → Except Failure α} : Within Unmoved (ask event reply) :=
  fun _ => ⟨⟨rfl,rfl⟩,fun _ => rfl⟩

theorem unmoved_steadyNowNs : Within Unmoved (steadyNowNs w) :=
  within_bind unmoved_nextTick fun _ => within_pure _

theorem unmoved_resetHealth (stream : Stream) (rate : ℚ) (silenceNs : UInt64) :
    Within Unmoved (resetHealth w stream rate silenceNs) :=
  within_bind unmoved_steadyNowNs fun now =>
    unmoved_operation (.reset stream now rate silenceNs) (fun _ => rfl) fun _ => rfl

theorem unmoved_disableCaptureHealth : Within Unmoved disableCaptureHealth := by
  have hfold : ∀ (lanes : List Stream) (h : SensorDataHealth) lane,
      ((lanes.foldl SensorDataHealth.disable h).states lane).total .unsynchronized =
        (h.states lane).total .unsynchronized := by
    intro lanes
    induction lanes with
    | nil => exact fun _ _ => rfl
    | cons first rest ih =>
      exact fun h lane => (ih (h.disable first) lane).trans (congrFun sameCounts_disable.2 _)
  exact fun s => ⟨⟨rfl,rfl⟩,hfold captureStreams s.health⟩

theorem switches_unmoved (w : World) : Switches w Unmoved where
  control := unmoved_modifyControl
  reset := unmoved_resetHealth
  resetCounter := unmoved_operation (.resetCounter .roverRtcm .lostBytes) (fun _ => rfl) fun _ => rfl
  disable := unmoved_disableCaptureHealth
  accumulate := fun _ _ => ⟨⟨rfl,rfl⟩,fun _ => rfl⟩
  call := unmoved_nextCall
  ask := fun _ => unmoved_ask
  recorded := fun _ hx => within_andThen hx fun _ _ => ⟨⟨rfl,rfl⟩,fun _ => rfl⟩

theorem unmoved_incomplete (stream : Stream) : Within Unmoved (addIssue stream .incomplete) :=
  unmoved_operation (.add stream .incomplete 1) (fun _ => rfl) fun _ => by simp [mayCount]

theorem unmoved_healthObserve (stream : Stream) (stampNs : UInt64) (sequence : UInt32) (bits : ℕ)
    (equalStampValid : Bool) :
    Within Unmoved (healthObserve w stream stampNs sequence bits equalStampValid) :=
  within_bind unmoved_steadyNowNs fun now => unmoved_operation
    (.observe stream now stampNs (some sequence.toUInt64) bits equalStampValid) (fun _ => rfl)
    fun _ => by simp [mayCount,Issue.observed]

theorem unmoved_observe (stream : Stream) (stampNs : UInt64) (sequence : UInt32) (bits : ℕ)
    (equalStampValid : Bool) :
    Within Unmoved (observe w stream stampNs sequence bits equalStampValid) :=
  within_sampling (unmoved_healthObserve _ _ _ _ _) fun _ => unmoved_note _

theorem unmoved_checkCameraDiagnostics (result : CameraChunkResult) :
    Within Unmoved (checkCameraDiagnostics result) := by
  refine within_bind within_get (fun _ => within_ite (within_forEach (fun _ => ?_) _)
    (within_pure ()))
  refine within_bind within_get (fun _ => within_bind (within_forEach (fun _ => ?_) _) fun _ => ?_)
  · exact within_whenever (unmoved_incomplete _)
  · exact within_whenever (unmoved_incomplete _)

theorem unmoved_observeMeta (metadata : VideoMeta) : Within Unmoved (observeMeta w metadata) :=
  within_bind within_get fun _ => within_ite
    (within_ite (unmoved_observe _ _ _ _ _) (unmoved_incomplete _)) (within_pure ())

theorem unmoved_observeCameraTime (metadata : VideoMeta) :
    Within Unmoved (observeCameraTime w metadata) :=
  within_ite (within_bind unmoved_steadyNowNs fun _ => unmoved_modifyReceive fun _ => rfl)
    (within_pure ())

theorem unmoved_receiveRoverChunk (chunk : RoverRtcmChunk) :
    Within Unmoved (receiveRoverChunk w chunk) := by
  refine within_bind unmoved_nextTick (fun tick => within_bind ?_ fun _ => ?_)
  · refine within_sampling (within_bind (unmoved_healthObserve _ _ _ _ _) fun _ =>
      within_bind ?_ fun _ => ?_) fun _ => unmoved_note _
    · exact unmoved_operation (.counter .roverRtcm .lostBytes _ _)
        (fun _ => by simp [poll]) fun _ => rfl
    · exact unmoved_operation (.condition .roverRtcm .sourceGap _) (fun _ => rfl)
        fun _ => by simp [mayCount]
  · exact unmoved_modifyReceive fun _ => rfl

theorem unmoved_verifyIdentity (info : DeviceInfo) : Within Unmoved (verifyIdentity w info) := by
  unfold verifyIdentity
  refine within_bind within_get (fun s => within_ite (within_pure ()) ?_)
  refine within_bind (within_ite (within_pure _) (within_bind unmoved_nextCall fun _ =>
    within_pure _)) (fun equal => within_bind (unmoved_note _) fun _ => ?_)
  exact within_ite (fun _ => ⟨⟨rfl,rfl⟩,fun _ => rfl⟩) (within_throw _)

end

end PrismRosAdapter.Driver
