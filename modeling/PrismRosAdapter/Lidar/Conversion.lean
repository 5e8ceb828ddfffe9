import PrismRosAdapter.Driver.Sdk

/-! # SDK batches to batches with explicit point times

Points are ordered by their own time, equal times keeping the SDK's order, and
the batch starts at its earliest point.
-/
namespace PrismRosAdapter.Lidar
open Driver

/-- An SDK point at an offset from the start of its batch. -/
def convertPoint (w : World) (p : SdkLidarPoint) (offset : UInt64) : LidarPoint where
  xM := w.metres p.xMm
  yM := w.metres p.yMm
  zM := w.metres p.zMm
  reflectivity := p.reflectivity
  tag := p.tag
  offsetTimeNs := offset.toUInt32
  ring := p.ring
  line := p.line
  lineValid := if p.lineValid then 1 else 0
  returnId := p.returnId
  confidence := p.confidence

def convertTimedPoint (w : World) (first : UInt64) (item : UInt64 × SdkLidarPoint) :
    Except Failure LidarPoint :=
  if 0xffffffff < item.1 - first then
    throw (.adapter "LiDAR batch time span exceeds UINT32")
  else return convertPoint w item.2 (item.1 - first)

def convertLidarBatch (w : World) (batch : SdkLidarPointBatch) (selectedBaseNs : UInt64) :
    Except Failure LidarPointBatch := do
  let times ← (List.range batch.points.length).mapM
    fun i => w.lidarPointTimestampNs batch i selectedBaseNs
  let order := (times.zip batch.points).mergeSort fun a b => decide (a.1 ≤ b.1)
  let first := (order.head?.map Prod.fst).getD selectedBaseNs
  let points ← order.mapM (convertTimedPoint w first)
  return {
    batchId := batch.batchId
    timestampNs := first
    timestampRaw := batch.timestampRaw
    explicitPointTimes := true
    points := points }

end PrismRosAdapter.Lidar
