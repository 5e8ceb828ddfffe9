import PrismRosAdapter.Cloud.PointCloud
import PrismRosAdapter.Driver.Receive
import PrismRosAdapter.Lidar.ConvertedBatches
import PrismRosAdapter.Lidar.FrameGroups

/-! # From the device's points to a subscriber's

A batch with its base time is converted and aggregated by the driver, and the frames that
are complete go out as clouds. What a subscriber reads, cloud by cloud, are the device's own
points at their own times, one period of 100 ms in each cloud.
-/
namespace PrismRosAdapter.Driver
open Program StableOrder Lidar Cloud Timing

/-- A batch of the device with the time that was resolved for it. -/
structure Delivery where
  batch : SdkLidarPointBatch
  resolved : Option DeviceTimeResolution

namespace Delivery

def base (d : Delivery) : UInt64 := selectedNs (d.batch.timestampUtcUs * 1000) d.resolved

def pointTimes (w : World) (d : Delivery) : PointTimes :=
  fun i => w.lidarPointTimestampNs d.batch i d.base

/-- The points of the device, each with the time that the SDK gives for it. -/
def timedPoints (w : World) (d : Delivery) : List (UInt64 × SdkLidarPoint) :=
  d.batch.points.zipIdx.filterMap fun p =>
    (d.pointTimes w p.2).toOption.map fun time => (time,p.1)

/-- The points in the order of their times, equal times in the device's order. -/
def devicePoints (w : World) (d : Delivery) : List SourcePoint :=
  ((d.timedPoints w).mergeSort fun a b => decide (a.1 ≤ b.1)).map fun p =>
    ⟨p.1.toNat,convertPoint w p.2 0⟩

end Delivery

/-- What a subscriber makes of a cloud: each point at the stamp plus its offset. -/
def readSourcePoints (message : PointCloud2 Ros2.Time) : Option (List SourcePoint) :=
  message.readPoints.map fun points => points.map fun p =>
    ⟨message.stamp.toNs.toNat + p.offsetTimeNs.toNat,p.payload⟩

section
variable {w : World} {d : Delivery}

theorem carries_iff {source : SdkLidarPoint} {p : LidarPoint} (h : Carries w source p) :
    p.payload = convertPoint w source 0 := by
  cases p
  obtain ⟨hx,hy,hz,hreflectivity,htag,hring,hline,hvalid,hreturn,hconfidence⟩ := h
  simp only [LidarPoint.payload, convertPoint] at *
  simp_all

/-- A cloud says what its frame says. -/
theorem readSourcePoints_publishLidar (lidarFrame : String) {f : LidarPointBatch}
    (hsize : 28 * f.points.length < 2 ^ 32) (htime : f.timestampNs.toNat < 2 ^ 31 * 1000000000) :
    readSourcePoints (Ros2.publishLidar lidarFrame f) = some f.sourcePoints := by
  have hread : (Ros2.publishLidar lidarFrame f).readPoints = some f.points := readPoints_eq hsize
  have hstamp : (Ros2.publishLidar lidarFrame f).stamp.toNs = f.timestampNs.toNat :=
    toNs_rosTime htime
  rw [readSourcePoints,hread,hstamp]
  rfl

/-- Where every point has its time, they are the times of the batch. -/
theorem timedPoints_eq {times : List UInt64} (htimes : List.Forall₂
    (fun i u => d.pointTimes w i = .ok u) (List.range d.batch.points.length) times) :
    d.timedPoints w = times.zip d.batch.points := by
  have hzip : ∀ (points : List SdkLidarPoint) (start : ℕ) (times : List UInt64),
      List.Forall₂ (fun i u => d.pointTimes w i = .ok u) (List.range' start points.length) times →
      ((points.zipIdx start).filterMap fun p =>
        (d.pointTimes w p.2).toOption.map fun time => (time,p.1)) = times.zip points := by
    intro points
    induction points with
    | nil => exact fun _ times _ => by simp
    | cons point rest ih =>
      intro start times h
      rw [List.length_cons,List.range'_succ] at h
      obtain ⟨u,times,hu,hrest,rfl⟩ := List.forall₂_cons_left_iff.mp h
      rw [List.zipIdx_cons,List.filterMap_cons,hu,ih (start + 1) times hrest]
      rfl
  rw [List.range_eq_range'] at htimes
  exact hzip d.batch.points 0 times htimes

/-- A convertible batch states the device's points at the device's times. -/
theorem convert_delivery (hconvertible : Convertible d.batch (d.pointTimes w)) :
    ∃ out, convertLidarBatch w d.batch d.base = .ok out ∧ out.explicitPointTimes = true ∧
      out.sourcePoints = d.devicePoints w := by
  rcases mapM_cases (f := d.pointTimes w) (List.range d.batch.points.length) with
    ⟨times,hok,htimes⟩ | ⟨_,_,i,hi,hfail⟩
  · obtain ⟨order,htimed,hmap⟩ := timed_of_times htimes
    have hconvert := convertLidarBatch_eq hok hmap
    rcases mapM_cases (f := convertTimedPoint w (startNs d.base order)) (order.map Prod.fst) with
      ⟨points,hbuilt,hpoints⟩ | ⟨_,_,item,hitem,hfail⟩
    · rw [hbuilt] at hconvert
      refine ⟨_,hconvert,rfl,?_⟩
      have hsource : points.map (fun p => (⟨(startNs d.base order).toNat + p.offsetTimeNs.toNat,
          p.payload⟩ : SourcePoint)) =
          order.map fun a => ⟨a.1.1.toNat,convertPoint w a.1.2 0⟩ := by
        rw [← List.forall₂_eq_eq_eq,List.forall₂_map_left_iff,List.forall₂_map_right_iff]
        refine (htimed.points hpoints).flip.imp fun p a hp => ?_
        rw [hp.2.1,carries_iff hp.1]
      rw [LidarPointBatch.sourcePoints,hsource,Delivery.devicePoints,timedPoints_eq htimes,← hmap,
        List.map_map]
      rfl
    · exact absurd hfail (htimed.not_error hconvertible hitem)
  · obtain ⟨u,hu⟩ := hconvertible.defined i (List.mem_range.mp hi)
    rw [hu] at hfail
    cases hfail

theorem countSelected_kept (r : Receive) (resolved : Option DeviceTimeResolution) :
    (countSelected r resolved).accumulator = r.accumulator ∧
      (countSelected r resolved).lidarDispatch = r.lidarDispatch ∧
      (countSelected r resolved).lidarBatches = r.lidarBatches ∧
      (countSelected r resolved).lidarPoints = r.lidarPoints := by
  unfold countSelected
  split <;> exact ⟨rfl,rfl,rfl,rfl⟩

/-- A batch that is converted and aggregated leaves its frames with the dispatcher. -/
theorem passLidarBatch_returns {s : DriverState} {out : LidarPointBatch}
    {frames : List LidarPointBatch} {a : LidarFrameAccumulator}
    (hout : convertLidarBatch w d.batch d.base = .ok out)
    (happend : (append out).Returns s.receive.accumulator frames a) :
    ∃ t, (passLidarBatch w d.batch d.resolved).Returns s () t ∧ t.receive.accumulator = a ∧
      t.receive.lidarDispatch = s.receive.lidarDispatch ++ frames ∧
      t.receive.lidarBatches = s.receive.lidarBatches + 1 ∧
      t.receive.lidarPoints = s.receive.lidarPoints + UInt64.ofNat out.points.length := by
  obtain ⟨haccumulator,hdispatch,-,-⟩ := countSelected_kept s.receive d.resolved
  unfold Delivery.base at hout
  unfold Returns at happend
  have hpassed : passLidarBatch w d.batch d.resolved s = (.ok (),{ s with receive := {
      countSelected s.receive d.resolved with
        lidarBatches := s.receive.lidarBatches + 1
        lidarPoints := s.receive.lidarPoints + UInt64.ofNat out.points.length
        accumulator := a
        lidarDispatch := (countSelected s.receive d.resolved).lidarDispatch ++ frames } }) := by
    simp only [passLidarBatch, hout, answer, modifyReceive, accumulate, bind, modify, modifyGet,
      MonadStateOf.modifyGet, haccumulator, happend]
  exact ⟨_,hpassed,rfl,congrArg (· ++ frames) hdispatch,rfl,rfl⟩

/-- One batch: the device's points come after those that are aggregated already. -/
theorem delivery_tracks {s : DriverState} {emitted : List LidarPointBatch}
    {stream : List SourcePoint} (h : Tracks s.receive.accumulator emitted stream)
    (hconvertible : Convertible d.batch (d.pointTimes w))
    (hf : Forward (stream ++ d.devicePoints w)) :
    ∃ frames t, (passLidarBatch w d.batch d.resolved).Returns s () t ∧
      t.receive.lidarDispatch = s.receive.lidarDispatch ++ frames ∧
      Tracks t.receive.accumulator (emitted ++ frames) (stream ++ d.devicePoints w) ∧
      t.receive.lidarBatches = s.receive.lidarBatches + 1 ∧
      t.receive.lidarPoints = s.receive.lidarPoints + UInt64.ofNat (d.devicePoints w).length := by
  obtain ⟨out,hout,hexplicit,hpoints⟩ := convert_delivery hconvertible
  have hsuffix : suffixPoints out out.points = d.devicePoints w := hpoints
  rw [← hsuffix] at hf
  obtain ⟨frames,a,happend,htracks⟩ := collect_appendPoint_tracks hexplicit out.points 0 h hf
  obtain ⟨t,ht,haccumulator,hdispatch,hbatches,hcount⟩ := passLidarBatch_returns hout happend
  rw [hsuffix] at htracks
  refine ⟨frames,t,ht,hdispatch,haccumulator ▸ htracks,hbatches,?_⟩
  rw [hcount,← hpoints,LidarPointBatch.sourcePoints,List.length_map]

theorem deliveries_track (deliveries : List Delivery) {s : DriverState}
    {emitted : List LidarPointBatch} {stream : List SourcePoint}
    (h : Tracks s.receive.accumulator emitted stream)
    (hconvertible : ∀ d ∈ deliveries, Convertible d.batch (d.pointTimes w))
    (hf : Forward (stream ++ deliveries.flatMap (·.devicePoints w))) :
    ∃ frames t, (forEach (fun d => passLidarBatch w d.batch d.resolved) deliveries).Returns s () t ∧
      t.receive.lidarDispatch = s.receive.lidarDispatch ++ frames ∧
      Tracks t.receive.accumulator (emitted ++ frames)
        (stream ++ deliveries.flatMap (·.devicePoints w)) ∧
      t.receive.lidarBatches = s.receive.lidarBatches + UInt64.ofNat deliveries.length ∧
      t.receive.lidarPoints = s.receive.lidarPoints +
        UInt64.ofNat (deliveries.flatMap (·.devicePoints w)).length := by
  induction deliveries generalizing s emitted stream with
  | nil =>
    refine ⟨[],s,forEach_nil_returns.mpr rfl,(List.append_nil _).symm,?_,?_,?_⟩
    · simpa using h
    · exact (add_zero _).symm
    · exact (add_zero _).symm
  | cons d rest ih =>
    rw [List.flatMap_cons,← List.append_assoc] at hf ⊢
    obtain ⟨hd,hrest⟩ := List.forall_mem_cons.mp hconvertible
    obtain ⟨first,u,hu,hfirst,htracks,hbatches,hcount⟩ := delivery_tracks h hd hf.take
    obtain ⟨later,t,ht,hlater,hlast,hbatches',hcount'⟩ := ih htracks hrest hf
    refine ⟨first ++ later,t,forEach_cons_returns.mpr ⟨u,hu,ht⟩,?_,?_,?_,?_⟩
    · rw [hlater,hfirst,List.append_assoc]
    · rwa [List.append_assoc emitted] at hlast
    · rw [hbatches',hbatches,List.length_cons,Nat.add_comm,UInt64.ofNat_add,add_assoc]
      rfl
    · rw [hcount',hcount,List.length_append,UInt64.ofNat_add,add_assoc]

/-- What the driver passes on after a reset of its aggregation is what a subscriber reads whom
all frames reach: the clouds hold, one period of 100 ms each and in order, exactly the device's
points with their own times and measurements; the points of the last period wait for the next
batch, and no point is lost or comes twice. A message has room for times below 2^31 s and for
2^32 bytes. -/
theorem lidar_read_back (w : World) (lidarFrame : String) (deliveries : List Delivery)
    (s : DriverState) (hfresh : s.receive.accumulator = {})
    (hconvertible : ∀ d ∈ deliveries, Convertible d.batch (d.pointTimes w))
    (hforward : Forward (deliveries.flatMap (·.devicePoints w)))
    (htime : ∀ x ∈ deliveries.flatMap (·.devicePoints w), x.time < 2 ^ 31 * 1000000000)
    (hsize : ∀ group ∈ (frameGroups (deliveries.flatMap (·.devicePoints w))).dropLast,
      28 * group.length < 2 ^ 32) :
    let stream := deliveries.flatMap (·.devicePoints w)
    ∃ frames t, (forEach (fun d => passLidarBatch w d.batch d.resolved) deliveries).Returns s () t ∧
      t.receive.lidarDispatch = s.receive.lidarDispatch ++ frames ∧
      List.Forall₂ (fun f group =>
          readSourcePoints (Ros2.publishLidar lidarFrame f) = some group)
        frames (frameGroups stream).dropLast ∧
      frames.flatMap LidarPointBatch.sourcePoints ++
        t.receive.accumulator.frame.sourcePoints = stream ∧
      t.receive.lidarBatches = s.receive.lidarBatches + UInt64.ofNat deliveries.length ∧
      t.receive.lidarPoints = s.receive.lidarPoints + UInt64.ofNat stream.length := by
  intro stream
  have hstart : Tracks s.receive.accumulator [] [] := .inl ⟨rfl,hfresh,rfl⟩
  obtain ⟨frames,t,ht,hdispatch,htracks,hbatches,hcount⟩ :=
    deliveries_track deliveries hstart hconvertible (by simpa using hforward)
  rw [List.nil_append,List.nil_append] at htracks
  refine ⟨frames,t,ht,hdispatch,?_,htracks.concatenation,hbatches,hcount⟩
  have hgroups := (List.forall₂_and_left _ frames).mpr ⟨fun group hg => hg,htracks.pending.1.flip⟩
  refine hgroups.flip.imp fun f group hf => ?_
  obtain ⟨hg,hpoints,x,hx,hstamp⟩ := hf
  have hlength : f.points.length = group.length := by
    rw [← hpoints,LidarPointBatch.sourcePoints,List.length_map]
  have hmem : x ∈ stream := by
    rw [← frameGroups_flatten stream]
    exact List.mem_flatten.mpr ⟨group,List.dropLast_subset _ hg,List.mem_of_mem_head? hx⟩
  rw [readSourcePoints_publishLidar lidarFrame (hlength ▸ hsize group hg)
    (hstamp ▸ htime x hmem),hpoints]

end

/-- Two batches of a point each, in periods of their own. -/
def twoBatches : List Delivery :=
  let point : SdkLidarPoint := ⟨1,2,3,4,5,6,7,true,8,9⟩
  [⟨⟨1,1000,0,true,[point]⟩,none⟩,⟨⟨2,200000,0,true,[{ point with ring := 1 }]⟩,none⟩]

theorem lidar_read_back_two :
    let w : World := { lidarPointTimestampNs := fun _ _ base => .ok base }
    let stream := twoBatches.flatMap (·.devicePoints w)
    ∃ frames t, (forEach (fun d => passLidarBatch w d.batch d.resolved) twoBatches).Returns
        { control := { config := {} } } () t ∧ t.receive.lidarPoints = 2 ∧
      List.Forall₂ (fun f group => readSourcePoints (Ros2.publishLidar "lidar" f) = some group)
        frames (frameGroups stream).dropLast := by
  intro w stream
  have hconvertible : ∀ d ∈ twoBatches, Convertible d.batch (d.pointTimes w) := fun d _ =>
    ⟨fun i _ => ⟨_,rfl⟩,fun i _ j _ u v hu hv => by
      rw [← Except.ok.inj hu,← Except.ok.inj hv]
      omega⟩
  have hstream : twoBatches.flatMap (·.devicePoints w) =
      [⟨1000000,⟨0x3a83126f,0x3b03126f,0x3b449ba6,4,5,0,6,7,1,8,9⟩⟩,
        ⟨200000000,⟨0x3a83126f,0x3b03126f,0x3b449ba6,4,5,0,1,7,1,8,9⟩⟩] := by
    have hsingle : ∀ (d : Delivery) p, d.timedPoints w = [p] →
        d.devicePoints w = [⟨p.1.toNat,convertPoint w p.2 0⟩] := by
      intro d p hp
      rw [Delivery.devicePoints,hp,List.mergeSort_singleton,List.map_singleton]
    rw [twoBatches,List.flatMap_cons,List.flatMap_cons,List.flatMap_nil,hsingle _ _ rfl,
      hsingle _ _ rfl]
    decide
  obtain ⟨frames,t,ht,_,hread,_,_,hcount⟩ := lidar_read_back w "lidar" twoBatches
    { control := { config := {} } } rfl hconvertible ⟨hstream ▸ by decide,hstream ▸ by decide⟩
    (hstream ▸ by decide) (hstream ▸ by decide)
  exact ⟨frames,t,ht,hcount.trans (hstream ▸ by decide),hread⟩

end PrismRosAdapter.Driver
