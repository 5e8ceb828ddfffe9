import PrismRosAdapter.Failure
import PrismRosAdapter.Lidar.LidarPoint
import PrismRosAdapter.Program.Loops
import Mathlib.Tactic.Common

/-! # Aggregation of transport batches into 100 ms frames

The window advances in whole periods from the first point it was opened at, while
a frame is stamped with its own first point, so after a window advance the stamp
lies somewhere inside the window and not at its start.
-/
namespace PrismRosAdapter.Lidar

def kMaxUInt64 : UInt64 := 0xffffffffffffffff
def kFramePeriodNs : UInt64 := 100000000

structure LidarFrameAccumulator where
  active : Bool := false
  windowStartNs : UInt64 := 0
  windowEndNs : UInt64 := 0
  frame : LidarPointBatch := {}
  deriving DecidableEq, Repr

abbrev Accumulating := Program LidarFrameAccumulator Failure

def pointOffsetNs (pointIndex pointCount : ℕ) (timeInterval100ns : UInt32) : UInt64 :=
  if pointCount ≤ 1 ∨ timeInterval100ns = 0 then 0
  else
    let spanNs := timeInterval100ns.toUInt64 * 100
    let intervals := UInt64.ofNat (pointCount - 1)
    (UInt64.ofNat pointIndex * spanNs + intervals / 2) / intervals

def reset : Accumulating Unit := modify fun _ => {}

def pendingPointCount (a : LidarFrameAccumulator) : ℕ := a.frame.points.length

def beginFrame (windowStartNs firstPointTimestampNs : UInt64) (source : LidarPointBatch) :
    Accumulating Unit := do
  modify fun a => { a with active := true, windowStartNs := windowStartNs }
  if windowStartNs > kMaxUInt64 - kFramePeriodNs then
    throw (.adapter "LiDAR frame timestamp overflow")
  modify fun a => { a with
    windowEndNs := windowStartNs + kFramePeriodNs
    frame := {
      batchId := source.batchId
      timestampNs := firstPointTimestampNs
      timestampRaw := source.timestampRaw } }

/-- The frame with its first-to-last span filled in. -/
def spanned (frame : LidarPointBatch) : LidarPointBatch :=
  match frame.points.getLast? with
  | some last =>
    { frame with timeInterval100ns := ((last.offsetTimeNs.toUInt64 + 99) / 100).toUInt32 }
  | none => frame

/-- Moving the frame out leaves its scalar fields behind and its points empty. -/
def finishFrame : Accumulating LidarPointBatch := do
  let a ← get
  let finished := spanned a.frame
  modify fun a => { a with frame := { finished with points := [] } }
  return finished

def pointTimestampNs (batch : LidarPointBatch) (index : ℕ) (point : LidarPoint) :
    Accumulating UInt64 := do
  let sourceOffsetNs :=
    if batch.explicitPointTimes then point.offsetTimeNs.toUInt64
    else pointOffsetNs index batch.points.length batch.timeInterval100ns
  if batch.timestampNs > kMaxUInt64 - sourceOffsetNs then
    throw (.adapter "LiDAR point timestamp overflow")
  return batch.timestampNs + sourceOffsetNs

def completePending : Accumulating (List LidarPointBatch) := do
  let a ← get
  if a.frame.points.isEmpty then return []
  else
    let finished ← finishFrame
    return [finished]

def advanceWindow (batch : LidarPointBatch) (pointTimestampNs : UInt64) :
    Accumulating (List LidarPointBatch) := do
  let completed ← completePending
  let a ← get
  let elapsedPeriods := (pointTimestampNs - a.windowStartNs) / kFramePeriodNs
  let windowStartNs := a.windowStartNs + elapsedPeriods * kFramePeriodNs
  modify fun a => { a with
    windowStartNs := windowStartNs, windowEndNs := windowStartNs + kFramePeriodNs }
  beginFrame windowStartNs pointTimestampNs batch
  return completed

def continueWindow (batch : LidarPointBatch) (pointTimestampNs : UInt64) :
    Accumulating (List LidarPointBatch) := do
  let a ← get
  if ¬ a.active then beginFrame pointTimestampNs pointTimestampNs batch
  let a ← get
  if a.windowEndNs ≤ pointTimestampNs then advanceWindow batch pointTimestampNs
  else return []

/-- Everything `append` does for one point before it stores the point. -/
def enterWindow (batch : LidarPointBatch) (pointTimestampNs : UInt64) :
    Accumulating (List LidarPointBatch) := do
  -- A clock-domain reset must not combine points from two time epochs.
  let a ← get
  if a.active ∧ pointTimestampNs < a.windowStartNs then reset
  continueWindow batch pointTimestampNs

/-- The offset is the 64-bit difference to the frame's stamp cut to 32 bits. -/
def storePoint (pointTimestampNs : UInt64) (point : LidarPoint) : Accumulating Unit :=
  modify fun a => { a with frame := { a.frame with
    points := a.frame.points ++
      [{ point with offsetTimeNs := (pointTimestampNs - a.frame.timestampNs).toUInt32 }] } }

def appendPoint (batch : LidarPointBatch) (index : ℕ) (point : LidarPoint) :
    Accumulating (List LidarPointBatch) := do
  let timestampNs ← pointTimestampNs batch index point
  let completed ← enterWindow batch timestampNs
  storePoint timestampNs point
  return completed

def append (batch : LidarPointBatch) : Accumulating (List LidarPointBatch) :=
  Program.collect (appendPoint batch) 0 batch.points

/-- The calls a LiDAR session makes on its accumulator. -/
inductive Call where
  | append (batch : LidarPointBatch)
  | reset
  deriving Repr

def Call.program : Call → Accumulating (List LidarPointBatch)
  | .append batch => Lidar.append batch
  | .reset => do
    Lidar.reset
    return []

def Call.sourcePoints : Call → List SourcePoint
  | .append batch => batch.sourcePoints
  | .reset => []

structure Session where
  accumulator : LidarFrameAccumulator := {}
  emitted : List LidarPointBatch := []
  deriving DecidableEq, Repr

/-- A call that throws emits nothing: its completed frames are lost with it. -/
def Session.step (s : Session) (c : Call) : Session :=
  match c.program s.accumulator with
  | (.ok completed, a) => ⟨a,s.emitted ++ completed⟩
  | (.error _, a) => ⟨a,s.emitted⟩

def Session.Completes (s : Session) (c : Call) : Prop := (c.program s.accumulator).1.isOk = true

instance (s : Session) (c : Call) : Decidable (s.Completes c) :=
  inferInstanceAs (Decidable (_ = true))

end PrismRosAdapter.Lidar
