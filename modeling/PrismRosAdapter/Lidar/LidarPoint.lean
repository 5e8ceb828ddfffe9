import Mathlib.Data.UInt

/-! # LiDAR point batches of the adapter

The fixed-width fields of the published records are kept at their widths, so a
timestamp is below `2^64` and an offset below `2^32` by type. Coordinates are bit
patterns: nothing downstream of the conversion computes with them.
-/
namespace PrismRosAdapter.Lidar

structure LidarPoint where
  xM : UInt32 := 0
  yM : UInt32 := 0
  zM : UInt32 := 0
  reflectivity : UInt8 := 0
  tag : UInt8 := 0
  offsetTimeNs : UInt32 := 0
  ring : UInt16 := 0
  line : UInt8 := 0
  lineValid : UInt8 := 0
  returnId : UInt8 := 0
  confidence : UInt8 := 0
  deriving DecidableEq, Repr

structure LidarPointBatch where
  batchId : UInt32 := 0
  timestampNs : UInt64 := 0
  timestampRaw : UInt64 := 0
  timeInterval100ns : UInt32 := 0
  explicitPointTimes : Bool := false
  points : List LidarPoint := []
  deriving DecidableEq, Repr

/-- Everything of a point but its offset, which aggregation rewrites. -/
def LidarPoint.payload (p : LidarPoint) : LidarPoint := { p with offsetTimeNs := 0 }

@[simp] theorem payload_setOffset (p : LidarPoint) (o : UInt32) :
    ({ p with offsetTimeNs := o } : LidarPoint).payload = p.payload := rfl

/-- A measured point: its absolute time and what was measured then. -/
structure SourcePoint where
  time : ℕ
  payload : LidarPoint
  deriving DecidableEq, Repr

/-- The points a batch states, each at its base time plus its own offset, as
integers: no width is involved. -/
def LidarPointBatch.sourcePoints (b : LidarPointBatch) : List SourcePoint :=
  b.points.map fun p => ⟨b.timestampNs.toNat + p.offsetTimeNs.toNat,p.payload⟩

end PrismRosAdapter.Lidar
