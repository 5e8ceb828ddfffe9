import PrismRosAdapter.Lidar.Conversion
import PrismRosAdapter.Program.StableOrder

/-! # What a converted batch states

The points of a batch come out in the order of their times and places, each with all
that was measured and, from the start of the batch and its offset, its exact time.
-/
namespace PrismRosAdapter.Lidar
open Driver StableOrder

/-- The time of each source point, where there is one. -/
abbrev PointTimes := ℕ → Except Failure UInt64

/-- Every point has a time, and no two are too far apart for an offset. -/
structure Convertible (batch : SdkLidarPointBatch) (t : PointTimes) : Prop where
  defined : ∀ i < batch.points.length, ∃ u, t i = .ok u
  span : ∀ i < batch.points.length, ∀ j < batch.points.length, ∀ u v,
    t i = .ok u → t j = .ok v → u.toNat - v.toNat ≤ 0xffffffff

/-- The point carries all that the source point measured. -/
structure Carries (w : World) (source : SdkLidarPoint) (p : LidarPoint) : Prop where
  xM : p.xM = w.metres source.xMm
  yM : p.yM = w.metres source.yMm
  zM : p.zM = w.metres source.zMm
  reflectivity : p.reflectivity = source.reflectivity
  tag : p.tag = source.tag
  ring : p.ring = source.ring
  line : p.line = source.line
  lineValid : p.lineValid = if source.lineValid then 1 else 0
  returnId : p.returnId = source.returnId
  confidence : p.confidence = source.confidence

/-- The source points in this order became the batch `out`. -/
structure ConvertedFrom (w : World) (batch : SdkLidarPointBatch) (t : PointTimes) (base : UInt64)
    (order : List ℕ) (out : LidarPointBatch) : Prop where
  perm : order.Perm (List.range batch.points.length)
  sorted : order.Pairwise fun i j => ∃ u v, t i = .ok u ∧ t j = .ok v ∧ (u < v ∨ u = v ∧ i < j)
  points : List.Forall₂ (fun i p => ∃ source u, batch.points[i]? = some source ∧ t i = .ok u ∧
    Carries w source p ∧ out.timestampNs.toNat + p.offsetTimeNs.toNat = u.toNat) order out.points
  base : batch.points = [] → out.timestampNs = base
  earliest : ∀ i < batch.points.length, ∀ u, t i = .ok u → out.timestampNs ≤ u
  first : ∀ p ∈ out.points.head?, p.offsetTimeNs = 0
  nondecreasing : out.points.Pairwise fun p q => p.offsetTimeNs ≤ q.offsetTimeNs

/-- Timed source points with their places, in the order they come out. -/
structure Sourced (batch : SdkLidarPointBatch) (t : PointTimes)
    (order : List ((UInt64 × SdkLidarPoint) × ℕ)) : Prop where
  perm : (order.map Prod.snd).Perm (List.range batch.points.length)
  sorted : order.Pairwise fun a b => a.1.1 < b.1.1 ∨ a.1.1 = b.1.1 ∧ a.2 < b.2
  source : ∀ a ∈ order, batch.points[a.2]? = some a.1.2 ∧ t a.2 = .ok a.1.1

section
variable {w : World} {batch : SdkLidarPointBatch} {t : PointTimes} {times : List UInt64}
  {base first : UInt64} {order : List ((UInt64 × SdkLidarPoint) × ℕ)}

theorem time_of_getElem?
    (htimes : List.Forall₂ (fun i u => t i = .ok u) (List.range batch.points.length) times)
    {i : ℕ} {u : UInt64} (hu : times[i]? = some u) : t i = .ok u := by
  obtain ⟨hi,hget⟩ := List.getElem?_eq_some_iff.mp hu
  have hrange : i < (List.range batch.points.length).length := by
    rw [htimes.length_eq]
    exact hi
  have hpair := htimes.get hrange hi
  simpa [hget] using hpair

/-- The sorted times and points, each with the place it came from. -/
theorem timed_of_times
    (htimes : List.Forall₂ (fun i u => t i = .ok u) (List.range batch.points.length) times) :
    ∃ order, Sourced batch t order ∧
      order.map Prod.fst = (times.zip batch.points).mergeSort fun a b => decide (a.1 ≤ b.1) := by
  have hlength : times.length = batch.points.length := by
    rw [← htimes.length_eq,List.length_range]
  obtain ⟨order,hperm,hmap,hsorted⟩ :=
    stable (fun a : UInt64 × SdkLidarPoint => a.1.toNat) (times.zip batch.points)
  refine ⟨order,⟨?_,?_,?_⟩,hmap⟩
  · have hplaces := hperm.map Prod.snd
    rwa [List.zipIdx_map_snd,List.length_zip,hlength,min_self,← List.range_eq_range'] at hplaces
  · refine hsorted.imp fun h => ?_
    exact h.imp UInt64.lt_iff_toNat_lt.mpr (And.imp_left UInt64.toNat_inj.mp)
  · rintro ⟨⟨u,source⟩,i⟩ hmem
    have hget := List.mem_zipIdx_iff_getElem?.mp (hperm.mem_iff.mp hmem)
    rw [List.getElem?_zip_eq_some] at hget
    exact ⟨hget.2,time_of_getElem? htimes hget.1⟩

theorem Sourced.exists_of_lt (h : Sourced batch t order) {i : ℕ} (hi : i < batch.points.length) :
    ∃ a ∈ order, a.2 = i := by
  have hmem := h.perm.mem_iff.mpr (List.mem_range.mpr hi)
  exact List.mem_map.mp hmem

theorem Sourced.lt_length (h : Sourced batch t order) {a : (UInt64 × SdkLidarPoint) × ℕ}
    (ha : a ∈ order) : a.2 < batch.points.length :=
  (List.getElem?_eq_some_iff.mp (h.source a ha).1).1

/-- The start of the batch: its earliest point, or the base when there is none. -/
def startNs (base : UInt64) (order : List ((UInt64 × SdkLidarPoint) × ℕ)) : UInt64 :=
  ((order.map Prod.fst).head?.map Prod.fst).getD base

theorem Sourced.start_le (h : Sourced batch t order) {a : (UInt64 × SdkLidarPoint) × ℕ}
    (ha : a ∈ order) : startNs base order ≤ a.1.1 := by
  cases order with
  | nil => cases ha
  | cons first rest =>
    rcases List.mem_cons.mp ha with rfl | ha
    · exact UInt64.le_refl _
    · rcases (List.pairwise_cons.mp h.sorted).1 a ha with hlt | ⟨heq,-⟩
      · exact UInt64.le_of_lt hlt
      · exact UInt64.le_of_eq heq

theorem start_mem {a : (UInt64 × SdkLidarPoint) × ℕ} (ha : a ∈ order) :
    ∃ first ∈ order, startNs base order = first.1.1 := by
  cases order with
  | nil => cases ha
  | cons first rest => exact ⟨first,List.mem_cons_self,rfl⟩

theorem convertTimedPoint_ok {item : UInt64 × SdkLidarPoint} {p : LidarPoint}
    (hle : first ≤ item.1) (h : convertTimedPoint w first item = .ok p) :
    Carries w item.2 p ∧ first.toNat + p.offsetTimeNs.toNat = item.1.toNat ∧
      item.1.toNat - first.toNat ≤ 0xffffffff := by
  unfold convertTimedPoint at h
  split at h
  · cases h
  · rename_i hspan
    obtain rfl := Except.ok.inj h
    have hsub := UInt64.toNat_sub_of_le item.1 first hle
    have hle' := UInt64.le_iff_toNat_le.mp hle
    have hmax : (0xffffffff : UInt64).toNat = 0xffffffff := rfl
    rw [UInt64.lt_iff_toNat_lt,hsub,hmax] at hspan
    have hoffset : (item.1 - first).toUInt32.toNat = item.1.toNat - first.toNat := by
      rw [UInt64.toNat_toUInt32,hsub]
      omega
    refine ⟨⟨rfl,rfl,rfl,rfl,rfl,rfl,rfl,rfl,rfl,rfl⟩,?_,not_lt.mp hspan⟩
    rw [convertPoint,hoffset]
    omega

theorem convertTimedPoint_error {item : UInt64 × SdkLidarPoint} {e : Failure}
    (hle : first ≤ item.1) (h : convertTimedPoint w first item = .error e) :
    0xffffffff < item.1.toNat - first.toNat := by
  unfold convertTimedPoint at h
  split at h
  · rename_i hspan
    rwa [UInt64.lt_iff_toNat_lt,UInt64.toNat_sub_of_le item.1 first hle] at hspan
  · cases h

/-- Point by point what came out is what went in. -/
theorem Sourced.points (h : Sourced batch t order) {points : List LidarPoint}
    (hpoints : List.Forall₂ (fun item p => convertTimedPoint w (startNs base order) item = .ok p)
      (order.map Prod.fst) points) :
    List.Forall₂ (fun a p => Carries w a.1.2 p ∧
      (startNs base order).toNat + p.offsetTimeNs.toNat = a.1.1.toNat ∧
      a.1.1.toNat - (startNs base order).toNat ≤ 0xffffffff) order points := by
  rw [List.forall₂_map_left_iff] at hpoints
  have hmem := (List.forall₂_and_left order points).mpr ⟨fun a ha => ha,hpoints⟩
  refine hmem.imp ?_
  rintro a p ⟨ha,hp⟩
  exact convertTimedPoint_ok (h.start_le ha) hp

theorem Sourced.converted (h : Sourced batch t order) {points : List LidarPoint}
    (hpoints : List.Forall₂ (fun item p => convertTimedPoint w (startNs base order) item = .ok p)
      (order.map Prod.fst) points) :
    ConvertedFrom w batch t base (order.map Prod.snd) {
      batchId := batch.batchId
      timestampNs := startNs base order
      timestampRaw := batch.timestampRaw
      explicitPointTimes := true
      points := points } := by
  have hall := h.points hpoints
  refine ⟨h.perm,?_,?_,?_,?_,?_,?_⟩
  · rw [List.pairwise_map]
    refine h.sorted.imp_of_mem fun {a b} ha hb hbefore => ?_
    exact ⟨a.1.1,b.1.1,(h.source a ha).2,(h.source b hb).2,hbefore⟩
  · rw [List.forall₂_map_left_iff]
    refine ((List.forall₂_and_left order points).mpr ⟨h.source,hall⟩).imp ?_
    rintro a p ⟨⟨hsource,htime⟩,hcarries,heq,-⟩
    exact ⟨a.1.2,a.1.1,hsource,htime,hcarries,heq⟩
  · intro hempty
    have hnil : order = [] := by
      have hperm := h.perm
      rw [hempty,List.length_nil,List.range_zero,List.perm_nil] at hperm
      exact List.map_eq_nil_iff.mp hperm
    rw [hnil]
    rfl
  · intro i hi u hu
    obtain ⟨a,ha,rfl⟩ := h.exists_of_lt hi
    have htime := (h.source a ha).2
    rw [hu] at htime
    obtain rfl := Except.ok.inj htime
    exact h.start_le ha
  · intro p hp
    cases order with
    | nil =>
      obtain rfl := List.forall₂_nil_left_iff.mp hall
      cases hp
    | cons a rest =>
      obtain ⟨q,points',⟨-,heq,-⟩,-,rfl⟩ := List.forall₂_cons_left_iff.mp hall
      obtain rfl := Option.some.inj hp
      have hstart : startNs base (a :: rest) = a.1.1 := rfl
      rw [hstart] at heq
      exact UInt32.toNat_inj.mp (by rw [UInt32.toNat_zero]; omega)
  · refine pairwise_of_forall₂ hall h.sorted ?_
    rintro a p b q ⟨-,hp,-⟩ ⟨-,hq,-⟩ hbefore
    have hle : a.1.1.toNat ≤ b.1.1.toNat := by
      rcases hbefore with hlt | ⟨heq,-⟩
      · exact (UInt64.lt_iff_toNat_lt.mp hlt).le
      · rw [heq]
    rw [UInt32.le_iff_toNat_le]
    omega

/-- Where all points came out, none were too far apart. -/
theorem Sourced.convertible (h : Sourced batch t order) {points : List LidarPoint}
    (hpoints : List.Forall₂ (fun item p => convertTimedPoint w (startNs base order) item = .ok p)
      (order.map Prod.fst) points) : Convertible batch t := by
  have hspan : ∀ a ∈ order, a.1.1.toNat - (startNs base order).toNat ≤ 0xffffffff :=
    forall_of_forall₂ (h.points hpoints) fun _ _ hp => hp.2.2
  constructor
  · intro i hi
    obtain ⟨a,ha,rfl⟩ := h.exists_of_lt hi
    exact ⟨a.1.1,(h.source a ha).2⟩
  · intro i hi j hj u v hu hv
    obtain ⟨a,ha,rfl⟩ := h.exists_of_lt hi
    obtain ⟨b,hb,rfl⟩ := h.exists_of_lt hj
    have hu' := Except.ok.inj (hu.symm.trans (h.source a ha).2)
    have hv' := Except.ok.inj (hv.symm.trans (h.source b hb).2)
    have hle : (startNs base order).toNat ≤ b.1.1.toNat :=
      UInt64.le_iff_toNat_le.mp (h.start_le hb)
    have hnear := hspan a ha
    rw [hu',hv']
    omega

/-- And where none are too far apart, each comes out. -/
theorem Sourced.not_error (h : Sourced batch t order) (hconvertible : Convertible batch t)
    {item : UInt64 × SdkLidarPoint} (hitem : item ∈ order.map Prod.fst) {e : Failure} :
    convertTimedPoint w (startNs base order) item ≠ .error e := by
  obtain ⟨a,ha,rfl⟩ := List.mem_map.mp hitem
  obtain ⟨first,hfirst,hstart⟩ : ∃ first ∈ order, startNs base order = first.1.1 := start_mem ha
  intro hfail
  have hfar := convertTimedPoint_error (h.start_le ha) hfail
  have hnear := hconvertible.span a.2 (h.lt_length ha) first.2 (h.lt_length hfirst)
    a.1.1 first.1.1 (h.source a ha).2 (h.source first hfirst).2
  rw [hstart] at hfar
  omega

/-- Once every point has its time, the batch is converted point by point. -/
theorem convertLidarBatch_eq
    (htimes : (List.range batch.points.length).mapM
      (fun i => w.lidarPointTimestampNs batch i base) = .ok times)
    (horder : order.map Prod.fst =
      (times.zip batch.points).mergeSort fun a b => decide (a.1 ≤ b.1)) :
    convertLidarBatch w batch base =
      ((order.map Prod.fst).mapM (convertTimedPoint w (startNs base order))) >>= fun points =>
        .ok {
          batchId := batch.batchId
          timestampNs := startNs base order
          timestampRaw := batch.timestampRaw
          explicitPointTimes := true
          points := points } := by
  unfold convertLidarBatch
  rw [htimes,startNs,horder]
  rfl

/-- A batch is converted when each point has a time and no two are too far apart, to
its points in the order of time and place; otherwise nothing comes out. -/
theorem convertLidarBatch_converted (w : World) (batch : SdkLidarPointBatch) (base : UInt64) :
    let t : PointTimes := fun i => w.lidarPointTimestampNs batch i base
    (Convertible batch t → ∃ out order, convertLidarBatch w batch base = .ok out ∧
      ConvertedFrom w batch t base order out) ∧
    (¬ Convertible batch t → ∃ e, convertLidarBatch w batch base = .error e) := by
  intro t
  rcases mapM_cases (f := t) (List.range batch.points.length) with
    ⟨times,hok,htimes⟩ | ⟨e,herror,i,hi,hfail⟩
  · obtain ⟨order,htimed,hmap⟩ := timed_of_times htimes
    have hconvert := convertLidarBatch_eq hok hmap
    rcases mapM_cases (f := convertTimedPoint w (startNs base order)) (order.map Prod.fst) with
      ⟨points,hbuilt,hpoints⟩ | ⟨e,herror,item,hitem,hfail⟩
    · have hconvertible := htimed.convertible hpoints
      refine ⟨fun _ => ⟨_,_,?_,htimed.converted hpoints⟩,fun hnot => absurd hconvertible hnot⟩
      rw [hconvert,hbuilt]
      rfl
    · refine ⟨fun hconvertible => absurd hfail (htimed.not_error hconvertible hitem),fun _ => ?_⟩
      refine ⟨e,?_⟩
      rw [hconvert,herror]
      rfl
  · refine ⟨fun hconvertible => ?_,fun _ => ⟨e,?_⟩⟩
    · obtain ⟨u,hu⟩ := hconvertible.defined i (List.mem_range.mp hi)
      rw [hu] at hfail
      cases hfail
    · unfold convertLidarBatch
      rw [herror]
      rfl

end

/-- The first point after the base, the others at one time before it. -/
def twoTimes (_ : SdkLidarPointBatch) (i : ℕ) (base : UInt64) : Except Failure UInt64 :=
  .ok (if i = 0 then base + 5 else base - 2)

theorem convertLidarBatch_converted_three :
    let point : SdkLidarPoint := ⟨0,0,0,0,0,0,0,true,0,0⟩
    let w : World := { lidarPointTimestampNs := twoTimes }
    let batch : SdkLidarPointBatch := ⟨1,0,0,true,
      [{ point with ring := 1 },{ point with ring := 2 },{ point with ring := 3 }]⟩
    ∃ out order, convertLidarBatch w batch 100 = .ok out ∧
      ConvertedFrom w batch (fun i => w.lidarPointTimestampNs batch i 100) 100 order out := by
  intro point w batch
  have hconvertible : Convertible batch fun i => w.lidarPointTimestampNs batch i 100 := by
    refine ⟨fun i _ => ⟨_,rfl⟩,fun i _ j _ u v hu hv => ?_⟩
    have hu' := Except.ok.inj hu
    have hv' := Except.ok.inj hv
    have hmost : u.toNat ≤ 105 := by
      rw [← hu']
      split <;> decide
    omega
  exact (convertLidarBatch_converted w batch 100).1 hconvertible

end PrismRosAdapter.Lidar
