import PrismRosAdapter.Lidar.LidarPoint
import PrismRosAdapter.Program.Bytes

/-! # LiDAR frames as point clouds

Each node lays the points of a frame out in blocks of bytes and says where in a block
the fields are. What a subscriber reads back through these descriptors is the frame.
-/
namespace PrismRosAdapter.Cloud
open Lidar Bytes

/-- The `sensor_msgs/PointField` datatypes that are used. -/
def UINT8 : UInt8 := 2
def UINT16 : UInt8 := 4
def UINT32 : UInt8 := 6
def FLOAT32 : UInt8 := 7

structure PointField where
  name : String
  offset : UInt32
  datatype : UInt8
  count : UInt32
  deriving DecidableEq, Repr

/-- A `sensor_msgs/PointCloud2`; the two systems differ in what a stamp is. -/
structure PointCloud2 (Stamp : Type) where
  stamp : Stamp
  frameId : String
  height : UInt32
  width : UInt32
  fields : List PointField
  isBigendian : Bool
  pointStep : UInt32
  rowStep : UInt32
  data : List UInt8
  isDense : Bool

/-- What a node writes into the block of a point, in this order, and its table of fields. -/
structure CloudLayout where
  names : List String
  offsets : List UInt32
  datatypes : List UInt8
  writes : List (ℕ × (LidarPoint → List UInt8))

namespace CloudLayout
variable (layout : CloudLayout)

def fields : List PointField :=
  (layout.names.zip (layout.offsets.zip layout.datatypes)).map fun (name,offset,datatype) =>
    { name, offset, datatype, count := 1 }

def writePoint (output : ℕ) (point : LidarPoint) (data : List UInt8) : List UInt8 :=
  layout.writes.foldl (fun data write => store data (output + write.1) (write.2 point)) data

def writePoints (pointStep : UInt32) : ℕ → List LidarPoint → List UInt8 → List UInt8
  | _, [], data => data
  | i, point :: rest, data =>
    writePoints pointStep (i + 1) rest (layout.writePoint (i * pointStep.toNat) point data)

/-- The body of both nodes' `publishLidar`. -/
def pointCloud {Stamp : Type} (stamp : Stamp) (frameId : String) (points : List LidarPoint) :
    PointCloud2 Stamp :=
  let width := UInt32.ofNat points.length
  let pointStep : UInt32 := 28
  let rowStep := pointStep * width
  { stamp
    frameId
    height := 1
    width
    isBigendian := false
    isDense := true
    pointStep
    rowStep
    fields := layout.fields
    data := layout.writePoints pointStep 0 points (List.replicate rowStep.toNat 0) }

end CloudLayout

/-! ## The ROS 2 node -/

namespace Ros2

structure Time where
  sec : Int32
  nanosec : UInt32

def rosTime (timestampNs : UInt64) : Time where
  sec := (timestampNs / 1000000000).toUInt32.toInt32
  nanosec := (timestampNs % 1000000000).toUInt32

def layout : CloudLayout where
  names := ["x","y","z","intensity","tag","offset_time","line","line_valid","ring","return_id",
    "confidence"]
  offsets := [0,4,8,12,13,16,14,15,20,22,23]
  datatypes := [FLOAT32,FLOAT32,FLOAT32,UINT8,UINT8,UINT32,UINT8,UINT8,UINT16,UINT8,UINT8]
  writes := [
    (0,fun point => littleEndian 4 point.xM.toNat),
    (4,fun point => littleEndian 4 point.yM.toNat),
    (8,fun point => littleEndian 4 point.zM.toNat),
    (12,fun point => [point.reflectivity]),
    (13,fun point => [point.tag]),
    (14,fun point => [point.line]),
    (15,fun point => [point.lineValid]),
    (20,fun point => littleEndian 2 point.ring.toNat),
    (22,fun point => [point.returnId]),
    (23,fun point => [point.confidence]),
    (16,fun point => littleEndian 4 point.offsetTimeNs.toNat)]

def publishLidar (lidarFrame : String) (batch : LidarPointBatch) : PointCloud2 Time :=
  layout.pointCloud (rosTime batch.timestampNs) lidarFrame batch.points

end Ros2

/-! ## The ROS 1 node -/

namespace Ros1

def layout : CloudLayout where
  names := ["x","y","z","intensity","tag","offset_time","line","line_valid","ring","return_id",
    "confidence"]
  offsets := [0,4,8,12,13,16,14,15,20,22,23]
  datatypes := [FLOAT32,FLOAT32,FLOAT32,UINT8,UINT8,UINT32,UINT8,UINT8,UINT16,UINT8,UINT8]
  writes := [
    (0,fun point => littleEndian 4 point.xM.toNat),
    (4,fun point => littleEndian 4 point.yM.toNat),
    (8,fun point => littleEndian 4 point.zM.toNat),
    (12,fun point => [point.reflectivity]),
    (13,fun point => [point.tag]),
    (14,fun point => [point.line]),
    (15,fun point => [point.lineValid]),
    (20,fun point => littleEndian 2 point.ring.toNat),
    (22,fun point => [point.returnId]),
    (23,fun point => [point.confidence]),
    (16,fun point => littleEndian 4 point.offsetTimeNs.toNat)]

/-- The stamp is what `ros::Time::fromNSec` makes of the time. -/
def publishLidar {Stamp : Type} (fromNSec : UInt64 → Stamp) (lidarFrame : String)
    (batch : LidarPointBatch) : PointCloud2 Stamp :=
  layout.pointCloud (fromNSec batch.timestampNs) lidarFrame batch.points

end Ros1

/-! ## A subscriber -/

def Ros2.Time.toNs (t : Ros2.Time) : ℤ := t.sec.toInt * 1000000000 + t.nanosec.toNat

def datatypeSize (datatype : UInt8) : Option ℕ :=
  if datatype = UINT8 then some 1
  else if datatype = UINT16 then some 2
  else if datatype = UINT32 ∨ datatype = FLOAT32 then some 4
  else none

namespace PointCloud2
variable {Stamp : Type} (message : PointCloud2 Stamp)

/-- Reads the field of this name of the point that starts at `output`. -/
def readField (output : ℕ) (name : String) : Option ℕ := do
  let field ← message.fields.find? (·.name == name)
  let size ← datatypeSize field.datatype
  let bytes := load message.data (output + field.offset.toNat) size
  if bytes.length = size then
    some (ofLittleEndian (if message.isBigendian then bytes.reverse else bytes))
  else none

def readPoint (output : ℕ) : Option LidarPoint := do
  let x ← message.readField output "x"
  let y ← message.readField output "y"
  let z ← message.readField output "z"
  let intensity ← message.readField output "intensity"
  let tag ← message.readField output "tag"
  let offsetTime ← message.readField output "offset_time"
  let line ← message.readField output "line"
  let lineValid ← message.readField output "line_valid"
  let ring ← message.readField output "ring"
  let returnId ← message.readField output "return_id"
  let confidence ← message.readField output "confidence"
  some {
    xM := UInt32.ofNat x
    yM := UInt32.ofNat y
    zM := UInt32.ofNat z
    reflectivity := UInt8.ofNat intensity
    tag := UInt8.ofNat tag
    offsetTimeNs := UInt32.ofNat offsetTime
    ring := UInt16.ofNat ring
    line := UInt8.ofNat line
    lineValid := UInt8.ofNat lineValid
    returnId := UInt8.ofNat returnId
    confidence := UInt8.ofNat confidence }

/-- Where the points of the cloud start, row by row. -/
def starts : List ℕ :=
  (List.range message.height.toNat).flatMap fun row =>
    (List.range message.width.toNat).map fun column =>
      row * message.rowStep.toNat + column * message.pointStep.toNat

def readPoints : Option (List LidarPoint) := message.starts.mapM message.readPoint

end PointCloud2

/-- The bytes of a block that belong to the field. -/
def PointField.Covers (field : PointField) (k : ℕ) : Prop :=
  ∃ size ∈ datatypeSize field.datatype, field.offset.toNat ≤ k ∧ k < field.offset.toNat + size

instance (field : PointField) (k : ℕ) : Decidable (field.Covers k) :=
  inferInstanceAs (Decidable (∃ size ∈ datatypeSize field.datatype, _))

/-! ## The blocks of a cloud -/

/-- Nothing is written beyond the block of the point. -/
def CloudLayout.Fits (layout : CloudLayout) (step : ℕ) : Prop :=
  ∀ write ∈ layout.writes, ∀ point, write.1 + (write.2 point).length ≤ step

def CloudLayout.block (layout : CloudLayout) (step : ℕ) (point : LidarPoint) : List UInt8 :=
  layout.writePoint 0 point (List.replicate step 0)

section
variable {layout : CloudLayout} {step : ℕ} {pointStep : UInt32} {point : LidarPoint}
  {points : List LidarPoint} {before block after : List UInt8}

/-- A point is written into its own block. -/
theorem writePoint_block (h : layout.Fits step) (hblock : block.length = step) :
    layout.writePoint before.length point (before ++ block ++ after) =
      before ++ layout.writePoint 0 point block ++ after := by
  unfold CloudLayout.writePoint
  unfold CloudLayout.Fits at h
  generalize layout.writes = writes at h ⊢
  induction writes generalizing block with
  | nil => rfl
  | cons write rest ih =>
    obtain ⟨hwrite,hrest⟩ := List.forall_mem_cons.mp h
    have hfits : write.1 + (write.2 point).length ≤ block.length := by
      rw [hblock]
      exact hwrite point
    rw [List.foldl_cons,List.foldl_cons,store_block hfits,Nat.zero_add]
    exact ih (by rw [length_store,hblock]) hrest

theorem length_block : (layout.block step point).length = step := by
  unfold CloudLayout.block CloudLayout.writePoint
  have hlength : ∀ (writes : List (ℕ × (LidarPoint → List UInt8))) (data : List UInt8),
      (writes.foldl (fun data write => store data (0 + write.1) (write.2 point)) data).length =
        data.length := by
    intro writes
    induction writes with
    | nil => exact fun _ => rfl
    | cons write rest ih => exact fun data => (ih _).trans length_store
  rw [hlength,List.length_replicate]

theorem length_blocks : ∀ b ∈ points.map (layout.block step), b.length = step := by
  intro b hb
  obtain ⟨point,-,rfl⟩ := List.mem_map.mp hb
  exact length_block

/-- Block by block the zeros become the points. -/
theorem writePoints_eq (h : layout.Fits pointStep.toNat) {i : ℕ}
    (hbefore : before.length = i * pointStep.toNat) :
    layout.writePoints pointStep i points
        (before ++ List.replicate (points.length * pointStep.toNat) 0) =
      before ++ (points.map (layout.block pointStep.toNat)).flatten := by
  induction points generalizing i before with
  | nil => simp [CloudLayout.writePoints]
  | cons point rest ih =>
    have hzeros : List.replicate ((point :: rest).length * pointStep.toNat) (0 : UInt8) =
        List.replicate pointStep.toNat 0 ++ List.replicate (rest.length * pointStep.toNat) 0 := by
      rw [List.length_cons,Nat.succ_mul,Nat.add_comm,List.replicate_add]
    have hnext : (before ++ layout.block pointStep.toNat point).length =
        (i + 1) * pointStep.toNat := by
      rw [List.length_append,length_block,hbefore,Nat.succ_mul]
    rw [CloudLayout.writePoints,hzeros,← List.append_assoc,← hbefore,
      writePoint_block h List.length_replicate]
    refine (ih hnext).trans ?_
    rw [List.map_cons,List.flatten_cons,List.append_assoc]

end

section
variable {Stamp : Type} {message : PointCloud2 Stamp} {blocks : List (List UInt8)} {step : ℕ}

/-- What a field of a point reads is in the block of the point. -/
theorem readField_block (hdata : message.data = blocks.flatten)
    (hlength : ∀ b ∈ blocks, b.length = step) (hendian : message.isBigendian = false)
    {i : ℕ} {block : List UInt8} (hi : blocks[i]? = some block) {name : String}
    {field : PointField} (hfield : message.fields.find? (·.name == name) = some field) {size : ℕ}
    (hsize : datatypeSize field.datatype = some size) (hfit : field.offset.toNat + size ≤ step) :
    message.readField (i * step) name =
      some (ofLittleEndian (load block field.offset.toNat size)) := by
  have hblock := hlength block (List.mem_of_getElem? hi)
  have hload : (load block field.offset.toNat size).length = size := by
    rw [load,List.length_take,List.length_drop]
    omega
  unfold PointCloud2.readField
  simp only [hfield,hsize,Option.bind_eq_bind,Option.bind_some]
  rw [hdata,load_flatten hlength hi hfit,hendian,if_pos hload,if_neg Bool.false_ne_true]

/-- Each point is read where it starts. -/
theorem mapM_starts {α : Type} {f : ℕ → Option α} (l : List α) (k : ℕ)
    (h : ∀ i a, l[i]? = some a → f (k + i) = some a) :
    (List.range' k l.length).mapM f = some l := by
  induction l generalizing k with
  | nil => rfl
  | cons a rest ih =>
    have hfirst := h 0 a rfl
    have hrest := ih (k + 1) fun i b hb => by
      rw [Nat.add_assoc,Nat.add_comm 1 i]
      exact h (i + 1) b hb
    rw [List.length_cons,List.range'_succ,List.mapM_cons,← Nat.add_zero k,hfirst,Nat.add_zero,
      hrest]
    rfl

end
/-! ## The messages of the nodes -/

section
variable {point : LidarPoint} {points : List LidarPoint}

theorem layout_fits : Ros2.layout.Fits 28 := by
  simp [CloudLayout.Fits,Ros2.layout]

theorem word_bytes (n : ℕ) : ∃ a b c d, littleEndian 4 n = [a,b,c,d] := ⟨_,_,_,_,rfl⟩

theorem half_bytes (n : ℕ) : ∃ a b, littleEndian 2 n = [a,b] := ⟨_,_,rfl⟩

/-- All bytes of a block, the last four of no field. -/
theorem block_eq : Ros2.layout.block 28 point =
    littleEndian 4 point.xM.toNat ++ littleEndian 4 point.yM.toNat ++
    littleEndian 4 point.zM.toNat ++ [point.reflectivity,point.tag,point.line,point.lineValid] ++
    littleEndian 4 point.offsetTimeNs.toNat ++ littleEndian 2 point.ring.toNat ++
    [point.returnId,point.confidence,0,0,0,0] := by
  obtain ⟨x₀,x₁,x₂,x₃,hx⟩ := word_bytes point.xM.toNat
  obtain ⟨y₀,y₁,y₂,y₃,hy⟩ := word_bytes point.yM.toNat
  obtain ⟨z₀,z₁,z₂,z₃,hz⟩ := word_bytes point.zM.toNat
  obtain ⟨o₀,o₁,o₂,o₃,ho⟩ := word_bytes point.offsetTimeNs.toNat
  obtain ⟨r₀,r₁,hr⟩ := half_bytes point.ring.toNat
  simp only [CloudLayout.block,CloudLayout.writePoint,Ros2.layout,List.foldl_cons,List.foldl_nil,
    hx,hy,hz,ho,hr]
  simp [store,List.replicate]

/-- Where the values of a point are in its block. -/
theorem load_block_eq :
    let block := Ros2.layout.block 28 point
    load block 0 4 = littleEndian 4 point.xM.toNat ∧
    load block 4 4 = littleEndian 4 point.yM.toNat ∧
    load block 8 4 = littleEndian 4 point.zM.toNat ∧
    load block 12 1 = [point.reflectivity] ∧ load block 13 1 = [point.tag] ∧
    load block 14 1 = [point.line] ∧ load block 15 1 = [point.lineValid] ∧
    load block 16 4 = littleEndian 4 point.offsetTimeNs.toNat ∧
    load block 20 2 = littleEndian 2 point.ring.toNat ∧
    load block 22 1 = [point.returnId] ∧ load block 23 1 = [point.confidence] ∧
    load block 24 4 = [0,0,0,0] := by
  obtain ⟨x₀,x₁,x₂,x₃,hx⟩ := word_bytes point.xM.toNat
  obtain ⟨y₀,y₁,y₂,y₃,hy⟩ := word_bytes point.yM.toNat
  obtain ⟨z₀,z₁,z₂,z₃,hz⟩ := word_bytes point.zM.toNat
  obtain ⟨o₀,o₁,o₂,o₃,ho⟩ := word_bytes point.offsetTimeNs.toNat
  obtain ⟨r₀,r₁,hr⟩ := half_bytes point.ring.toNat
  simp [block_eq,load,hx,hy,hz,ho,hr]

theorem word_value (x : UInt32) : ofLittleEndian (littleEndian 4 x.toNat) = x.toNat :=
  ofLittleEndian_littleEndian x.toNat_lt

theorem half_value (x : UInt16) : ofLittleEndian (littleEndian 2 x.toNat) = x.toNat :=
  ofLittleEndian_littleEndian x.toNat_lt

theorem byte_value (x : UInt8) : ofLittleEndian [x] = x.toNat := by
  rw [ofLittleEndian,ofLittleEndian,Nat.mul_zero,Nat.add_zero]

section
variable {Stamp : Type} {stamp : Stamp} {frameId : String}

/-- The cloud of a frame that fits the counters. -/
theorem pointCloud_eq (h : 28 * points.length < 2 ^ 32) :
    let message := Ros2.layout.pointCloud stamp frameId points
    message.width.toNat = points.length ∧ message.rowStep.toNat = 28 * points.length ∧
    message.data = (points.map (Ros2.layout.block 28)).flatten := by
  intro message
  have hwidth : (UInt32.ofNat points.length).toNat = points.length := by
    rw [UInt32.toNat_ofNat']
    omega
  have hrow : message.rowStep.toNat = 28 * points.length := by
    have hmul : message.rowStep.toNat = 28 * (UInt32.ofNat points.length).toNat % 2 ^ 32 :=
      UInt32.toNat_mul _ _
    rw [hmul,hwidth,Nat.mod_eq_of_lt h]
  refine ⟨hwidth,hrow,?_⟩
  have hdata : Ros2.layout.writePoints 28 0 points
      ([] ++ List.replicate (points.length * 28) 0) = [] ++ _ := writePoints_eq layout_fits rfl
  rw [List.nil_append,List.nil_append] at hdata
  refine Eq.trans ?_ hdata
  rw [Nat.mul_comm,← hrow]
  rfl

theorem readPoint_eq (h : 28 * points.length < 2 ^ 32) {i : ℕ} (hi : points[i]? = some point) :
    (Ros2.layout.pointCloud stamp frameId points).readPoint (i * 28) = some point := by
  have hblock : (points.map (Ros2.layout.block 28))[i]? = some (Ros2.layout.block 28 point) := by
    rw [List.getElem?_map,hi,Option.map_some]
  have hread : ∀ (name : String) (field : PointField) (size : ℕ) (bytes : List UInt8),
      Ros2.layout.fields.find? (·.name == name) = some field →
      datatypeSize field.datatype = some size → field.offset.toNat + size ≤ 28 →
      load (Ros2.layout.block 28 point) field.offset.toNat size = bytes →
      (Ros2.layout.pointCloud stamp frameId points).readField (i * 28) name =
        some (ofLittleEndian bytes) := by
    rintro name field size bytes hfield hsize hfit rfl
    exact readField_block (pointCloud_eq h).2.2 length_blocks rfl hblock hfield hsize hfit
  obtain ⟨hx,hy,hz,hintensity,htag,hline,hlineValid,hoffset,hring,hreturn,hconfidence,-⟩ :=
    @load_block_eq point
  unfold PointCloud2.readPoint
  rw [hread "x" ⟨"x",0,FLOAT32,1⟩ 4 _ rfl rfl (by decide) hx,
    hread "y" ⟨"y",4,FLOAT32,1⟩ 4 _ rfl rfl (by decide) hy,
    hread "z" ⟨"z",8,FLOAT32,1⟩ 4 _ rfl rfl (by decide) hz,
    hread "intensity" ⟨"intensity",12,UINT8,1⟩ 1 _ rfl rfl (by decide) hintensity,
    hread "tag" ⟨"tag",13,UINT8,1⟩ 1 _ rfl rfl (by decide) htag,
    hread "offset_time" ⟨"offset_time",16,UINT32,1⟩ 4 _ rfl rfl (by decide) hoffset,
    hread "line" ⟨"line",14,UINT8,1⟩ 1 _ rfl rfl (by decide) hline,
    hread "line_valid" ⟨"line_valid",15,UINT8,1⟩ 1 _ rfl rfl (by decide) hlineValid,
    hread "ring" ⟨"ring",20,UINT16,1⟩ 2 _ rfl rfl (by decide) hring,
    hread "return_id" ⟨"return_id",22,UINT8,1⟩ 1 _ rfl rfl (by decide) hreturn,
    hread "confidence" ⟨"confidence",23,UINT8,1⟩ 1 _ rfl rfl (by decide) hconfidence]
  simp only [Option.bind_eq_bind,Option.bind_some,word_value,half_value,byte_value,
    UInt32.ofNat_toNat,UInt16.ofNat_toNat,UInt8.ofNat_toNat]

/-- The whole cloud is read point by point. -/
theorem readPoints_eq (h : 28 * points.length < 2 ^ 32) :
    (Ros2.layout.pointCloud stamp frameId points).readPoints = some points := by
  have hwidth := (@pointCloud_eq points Stamp stamp frameId h).1
  have hstarts : (Ros2.layout.pointCloud stamp frameId points).starts =
      (List.range' 0 points.length).map (· * 28) := by
    unfold PointCloud2.starts
    rw [hwidth,← List.range_eq_range']
    have hone : List.range (Ros2.layout.pointCloud stamp frameId points).height.toNat = [0] := rfl
    rw [hone,List.flatMap_singleton]
    refine List.map_congr_left fun column _ => ?_
    rw [Nat.zero_mul,Nat.zero_add]
    rfl
  unfold PointCloud2.readPoints
  rw [hstarts,List.mapM_map]
  refine mapM_starts points 0 fun i point hi => ?_
  rw [Nat.zero_add]
  exact readPoint_eq h hi

/-- Outside the fields there are zeros. -/
theorem uncovered_zero (h : 28 * points.length < 2 ^ 32) {k : ℕ} {b : UInt8}
    (hk : (Ros2.layout.pointCloud stamp frameId points).data[k]? = some b)
    (hcovers : ∀ field ∈ Ros2.layout.fields, ¬ field.Covers (k % 28)) : b = 0 := by
  rw [(pointCloud_eq h).2.2] at hk
  obtain ⟨block,hmem,hget⟩ := getElem?_flatten length_blocks hk
  obtain ⟨point,-,rfl⟩ := List.mem_map.mp hmem
  have hgaps : ∀ j < 28, (∀ field ∈ Ros2.layout.fields, ¬ field.Covers j) →
      j = 24 ∨ j = 25 ∨ j = 26 ∨ j = 27 := by decide +kernel
  have hlast := hgaps (k % 28) (Nat.mod_lt k (by decide)) hcovers
  have hzeros := (@load_block_eq point).2.2.2.2.2.2.2.2.2.2.2
  have hzero : (load (Ros2.layout.block 28 point) 24 4)[k % 28 - 24]? = some b := by
    rw [load,List.getElem?_take,if_pos (by omega),List.getElem?_drop]
    exact (congrArg _ (by omega)).trans hget
  rw [hzeros] at hzero
  rcases hlast with hj | hj | hj | hj <;> rw [hj] at hzero <;> exact (Option.some.inj hzero).symm

end

theorem toNs_rosTime {timestampNs : UInt64} (h : timestampNs.toNat < 2 ^ 31 * 1000000000) :
    (Ros2.rosTime timestampNs).toNs = timestampNs.toNat := by
  have hbillion : (1000000000 : UInt64).toNat = 1000000000 := rfl
  have hsec : (timestampNs / 1000000000).toUInt32.toNat = timestampNs.toNat / 1000000000 := by
    rw [UInt64.toNat_toUInt32,UInt64.toNat_div,hbillion]
    omega
  have hnanosec : (timestampNs % 1000000000).toUInt32.toNat = timestampNs.toNat % 1000000000 := by
    rw [UInt64.toNat_toUInt32,UInt64.toNat_mod,hbillion]
    omega
  have hint : (timestampNs / 1000000000).toUInt32.toInt32.toInt =
      (timestampNs.toNat / 1000000000 : ℕ) := by
    rw [← hsec]
    exact BitVec.toInt_eq_toNat_of_lt (by
      have hlt : (timestampNs / 1000000000).toUInt32.toNat < 2 ^ 31 := by omega
      exact Nat.mul_lt_mul_of_pos_left hlt (by decide))
  rw [Ros2.Time.toNs,Ros2.rosTime,hint,hnanosec]
  omega

end

/-- What a subscriber reads from a cloud through its own descriptors is the frame, from
either node. -/
theorem cloud_read_back (lidarFrame : String) (batch : LidarPointBatch)
    (h : 28 * batch.points.length < 2 ^ 32)
    (htime : batch.timestampNs.toNat < 2 ^ 31 * 1000000000) :
    let message := Ros2.publishLidar lidarFrame batch
    message.readPoints = some batch.points ∧ message.stamp.toNs = batch.timestampNs.toNat ∧
    message.pointStep = 28 ∧ message.fields.length = 11 ∧
    (∀ field ∈ message.fields, ∀ k, field.Covers k → k < 28) ∧
    (message.fields.Pairwise fun f g => ∀ k, ¬ (f.Covers k ∧ g.Covers k)) ∧
    message.rowStep.toNat = 28 * batch.points.length ∧
    message.data.length = 28 * batch.points.length ∧
    (∀ (k : ℕ) b, message.data[k]? = some b →
      (∀ field ∈ message.fields, ¬ field.Covers (k % 28)) → b = 0) ∧
    ∀ (Stamp : Type) (fromNSec : UInt64 → Stamp),
      let other := Ros1.publishLidar fromNSec lidarFrame batch
      other.readPoints = some batch.points ∧ other.fields = message.fields ∧
      other.pointStep = message.pointStep ∧ other.rowStep = message.rowStep ∧
      other.width = message.width ∧ other.height = message.height ∧
      other.isBigendian = message.isBigendian ∧ other.data = message.data := by
  intro message
  obtain ⟨-,hrow,hdata⟩ := @pointCloud_eq batch.points Ros2.Time
    (Ros2.rosTime batch.timestampNs) lidarFrame h
  have hwithin : ∀ field ∈ Ros2.layout.fields, ∀ k, field.Covers k → k < 28 := by
    have hsizes : ∀ field ∈ Ros2.layout.fields, ∀ size ∈ datatypeSize field.datatype,
        field.offset.toNat + size ≤ 28 := by decide +kernel
    rintro field hfield k ⟨size,hsize,-,hlt⟩
    exact lt_of_lt_of_le hlt (hsizes field hfield size hsize)
  have hdisjoint : Ros2.layout.fields.Pairwise fun f g => ∀ k, ¬ (f.Covers k ∧ g.Covers k) := by
    have hbelow : Ros2.layout.fields.Pairwise fun f g =>
        ∀ k < 28, ¬ (f.Covers k ∧ g.Covers k) := by decide +kernel
    refine hbelow.imp_of_mem fun hf _ hapart k hboth => ?_
    exact hapart k (hwithin _ hf k hboth.1) hboth
  have hlength : message.data.length = 28 * batch.points.length := by
    have hflatten := length_flatten_of_forall (@length_blocks Ros2.layout 28 batch.points)
    rw [List.length_map,Nat.mul_comm] at hflatten
    exact (congrArg List.length hdata).trans hflatten
  refine ⟨readPoints_eq h,toNs_rosTime htime,rfl,rfl,hwithin,hdisjoint,hrow,hlength,
    fun k b hk hcovers => uncovered_zero h hk hcovers,fun Stamp fromNSec => ?_⟩
  exact ⟨readPoints_eq h,rfl,rfl,rfl,rfl,rfl,rfl,rfl⟩

theorem cloud_read_back_pair :
    let batch : LidarPointBatch := {
      timestampNs := 1777326476000000005
      points := [{ xM := 0x3f800000, ring := 0x0102, confidence := 9 },
        { tag := 255, lineValid := 1, returnId := 2, offsetTimeNs := 0x01020304 }] }
    let message := Ros2.publishLidar "lidar" batch
    message.readPoints = some batch.points ∧ message.stamp.toNs = 1777326476000000005 ∧
      (Ros1.publishLidar id "lidar" batch).data = message.data := by
  intro batch message
  have h := cloud_read_back "lidar" batch (by decide) (by decide)
  obtain ⟨hread,hstamp,-,-,-,-,-,-,-,hother⟩ := h
  exact ⟨hread,hstamp,(hother UInt64 id).2.2.2.2.2.2.2⟩

end PrismRosAdapter.Cloud
