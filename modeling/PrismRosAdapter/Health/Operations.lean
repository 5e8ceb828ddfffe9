import PrismRosAdapter.Health.SensorDataHealth
import PrismRosAdapter.Program.Runs

/-! # Every operation on the health counters, and their reports

A report prints what is pending for a stream and clears it. Every other operation
adds the same amounts to what is pending and to the totals.
-/
namespace PrismRosAdapter.Health
open Runs

def Stream.all : List Stream :=
  [.camera0, .camera1, .camera2, .camera3, .cameraMetadata, .boardImu0, .boardImu1,
    .lidarPoints, .lidarImu, .gnssTiming, .gnssReception, .gnssObservations,
    .gnssRaw, .corsRtcm, .receiver, .rtkStatus, .roverRtcm, .transport,
    .boardImuDispatch, .rawDispatch, .gnssFix, .rtkFix]

def Issue.all : List Issue :=
  [.sequenceMissing, .sequenceDuplicate, .sequenceReset, .timestampGap,
    .estimatedMissing, .timestampDuplicate, .timestampBackward, .sourceGap,
    .incomplete, .cacheGap, .lostBytes, .unsynchronized, .queueDrop, .callbackError,
    .queryError, .sessionChanged, .uartError, .fifoOverflow, .rejected, .crcError,
    .upstreamDrop, .rawStale, .nmeaStale, .statusStale]

theorem Stream.mem_all (stream : Stream) : stream ∈ Stream.all := by cases stream <;> decide
theorem Issue.mem_all (issue : Issue) : issue ∈ Issue.all := by cases issue <;> decide
theorem Stream.all_nodup : Stream.all.Nodup := by decide
theorem Issue.all_nodup : Issue.all.Nodup := by decide

def Stream.name : Stream → String
  | .camera0 => "camera0"
  | .camera1 => "camera1"
  | .camera2 => "camera2"
  | .camera3 => "camera3"
  | .cameraMetadata => "camera/metadata"
  | .boardImu0 => "imu0"
  | .boardImu1 => "imu1"
  | .lidarPoints => "lidar/points"
  | .lidarImu => "lidar/imu"
  | .gnssTiming => "gnss/timing"
  | .gnssReception => "gnss/reception"
  | .gnssObservations => "gnss/observations"
  | .gnssRaw => "gnss/raw"
  | .corsRtcm => "rtk/cors_rtcm"
  | .receiver => "gnss+rtk/receiver"
  | .rtkStatus => "rtk/status"
  | .roverRtcm => "gnss/rover_rtcm"
  | .transport => "transport"
  | .boardImuDispatch => "imu0+imu1/dispatch"
  | .rawDispatch => "gnss+cors/raw_dispatch"
  | .gnssFix => "gnss/receiver+fix"
  | .rtkFix => "rtk/receiver+fix"

def Issue.name : Issue → String
  | .sequenceMissing => "sequence_missing"
  | .sequenceDuplicate => "sequence_duplicate"
  | .sequenceReset => "sequence_reset_or_reorder"
  | .timestampGap => "timestamp_gap"
  | .estimatedMissing => "estimated_missing"
  | .timestampDuplicate => "timestamp_duplicate"
  | .timestampBackward => "timestamp_backward"
  | .sourceGap => "source_gap_flag"
  | .incomplete => "incomplete_frame"
  | .cacheGap => "cache_gap"
  | .lostBytes => "lost_bytes"
  | .unsynchronized => "unsynchronized_drop"
  | .queueDrop => "dispatch_drop"
  | .callbackError => "publish_callback_error"
  | .queryError => "query_error"
  | .sessionChanged => "session_changed"
  | .uartError => "uart_error"
  | .fifoOverflow => "fifo_overflow"
  | .rejected => "rejected"
  | .crcError => "crc_error"
  | .upstreamDrop => "upstream_drop"
  | .rawStale => "raw_input_stale"
  | .nmeaStale => "nmea_input_stale"
  | .statusStale => "status_stale"

def kReportInterval : UInt64 := 5 * kSecond

/-- A printed line: the increments with their totals, and what else it mentions. -/
structure Report where
  stream : Stream
  counts : List (Issue × UInt64 × UInt64)
  noDataMs : Option UInt64
  lastSequence : Option UInt64
  lastError : String
  deriving DecidableEq, Repr

def countText (count : Issue × UInt64 × UInt64) : String :=
  " " ++ count.1.name ++ "+=" ++ toString count.2.1 ++ " total=" ++ toString count.2.2

def Report.text (r : Report) : String :=
  "sensor-data stream=" ++ r.stream.name ++ String.join (r.counts.map countText) ++
    (match r.noDataMs with | some ms => " no_data_ms=" ++ toString ms | none => "") ++
    (match r.lastSequence with | some n => " last_sequence=" ++ toString n | none => "") ++
    (if r.lastError = "" then "" else " last_error=" ++ r.lastError) ++
    "; driver-side evidence only (not DDS/rosbag delivery)"

namespace StreamHealth

def stale (s : StreamHealth) (now : UInt64) : Bool :=
  decide (s.silenceNs ≠ 0 ∧ s.lastArrival ≤ now ∧ s.silenceNs ≤ now - s.lastArrival)

def hasPending (s : StreamHealth) : Bool := Issue.all.any fun issue => s.pending issue != 0

def throttled (s : StreamHealth) (now : UInt64) (force : Bool) : Bool :=
  !force && s.reported && decide (now - s.lastReport < kReportInterval)

/-- Whether a call of `reports` prints the stream. -/
def prints (s : StreamHealth) (now : UInt64) (force : Bool) : Bool :=
  (s.hasPending || (s.stale now && !s.staleReported)) && !s.throttled now force

def report (s : StreamHealth) (stream : Stream) (now : UInt64) : Report where
  stream := stream
  counts := (Issue.all.filter fun issue => s.pending issue != 0).map fun issue =>
    (issue,s.pending issue,s.total issue)
  noDataMs := if s.stale now then some ((now - s.lastArrival) / 1000000) else none
  lastSequence := s.sequence
  lastError := s.detail

def reportedAt (s : StreamHealth) (now : UInt64) : StreamHealth :=
  { s with
    pending := fun _ => 0
    lastReport := now
    reported := true
    detail := ""
    staleReported := s.stale now }

end StreamHealth

namespace SensorDataHealth

/-- A new session of the source starts new baselines. -/
def session (h : SensorDataHealth) (stream : Stream) (sessionId : UInt64) : SensorDataHealth :=
  let changed :=
    if (h.states stream).session.any (· != sessionId) then
      (h.add stream .sessionChanged 1).update stream fun s => { s with
        sequence := none
        stamp := none
        conditions := fun _ => false }
    else h
  changed.update stream fun s => { s with session := some sessionId }

def printable (c : Char) : Char := if c.toNat < 32 then ' ' else c

def queryError (h : SensorDataHealth) (stream : Stream) (detail : String) : SensorDataHealth :=
  (h.add stream .queryError 1).update stream fun s =>
    { s with detail := String.ofList ((detail.toList.take 256).map printable) }

def reports (h : SensorDataHealth) (now : UInt64) (force : Bool) :
    List Report × SensorDataHealth :=
  ((Stream.all.filter fun stream => (h.states stream).prints now force).map fun stream =>
      (h.states stream).report stream now,
    ⟨fun stream => if (h.states stream).prints now force then (h.states stream).reportedAt now
      else h.states stream⟩)

inductive Operation where
  | reset (stream : Stream) (now : UInt64) (rateHz : ℚ) (silenceNs : UInt64)
  | disable (stream : Stream)
  | touch (stream : Stream) (now : UInt64)
  | session (stream : Stream) (sessionId : UInt64)
  | add (stream : Stream) (issue : Issue) (count : UInt64)
  | condition (stream : Stream) (issue : Issue) (active : Bool)
  | resetCounter (stream : Stream) (issue : Issue)
  | queryError (stream : Stream) (detail : String)
  | counter (stream : Stream) (issue : Issue) (value : UInt64) (initialIsNew : Bool)
  | observe (stream : Stream) (now stampNs : UInt64) (sequence : Option UInt64) (bits : ℕ)
      (equalStampValid : Bool)
  | reports (now : UInt64) (force : Bool)
  deriving DecidableEq, Repr

def apply (h : SensorDataHealth) : Operation → SensorDataHealth
  | .reset stream now rateHz silenceNs => h.reset stream now rateHz silenceNs
  | .disable stream => h.disable stream
  | .touch stream now => h.touch stream now
  | .session stream sessionId => h.session stream sessionId
  | .add stream issue count => h.add stream issue count
  | .condition stream issue active => h.condition stream issue active
  | .resetCounter stream issue => h.resetCounter stream issue
  | .queryError stream detail => h.queryError stream detail
  | .counter stream issue value initialIsNew => h.counter stream issue value initialIsNew
  | .observe stream now stampNs sequence bits equalStampValid =>
    h.observe stream now stampNs sequence bits equalStampValid
  | .reports now force => (h.reports now force).2

/-- What an operation prints. -/
def printed (h : SensorDataHealth) : Operation → List Report
  | .reports now force => (h.reports now force).1
  | _ => []

/-- The stream an operation is about; a report is about all of them. -/
def Operation.stream : Operation → Option Stream
  | .reset stream _ _ _ | .disable stream | .touch stream _ | .session stream _
  | .add stream _ _ | .condition stream _ _ | .resetCounter stream _ | .queryError stream _
  | .counter stream _ _ _ | .observe stream _ _ _ _ _ => some stream
  | .reports _ _ => none

/-! ## The other streams -/

section
variable {h : SensorDataHealth} {stream other : Stream}

theorem other_add (hne : other ≠ stream) (issue : Issue) (count : UInt64) :
    (h.add stream issue count).states other = h.states other := by
  rw [add,update_other _ hne]

theorem other_touch (hne : other ≠ stream) (now : UInt64) :
    (h.touch stream now).states other = h.states other := by
  rw [touch,update_other _ hne]

theorem other_observeSequence (hne : other ≠ stream) (bits : ℕ) (value : UInt64) :
    (h.observeSequence stream bits value).states other = h.states other := by
  unfold observeSequence
  rw [update_other _ hne]
  split
  · dsimp only
    split_ifs
    · exact other_add hne _ _
    · exact other_add hne _ _
    · exact other_add hne _ _
    · rfl
  · rfl

theorem other_observeStamp (hne : other ≠ stream) (stampNs previous : UInt64)
    (equalStampValid : Bool) :
    (h.observeStamp stream stampNs previous equalStampValid).states other = h.states other := by
  unfold observeStamp
  dsimp only
  split_ifs
  · exact other_add hne _ _
  · rfl
  · exact other_add hne _ _
  · rw [other_add hne,other_add hne]
  · rfl

theorem other_observe (hne : other ≠ stream) (now stampNs : UInt64) (sequence : Option UInt64)
    (bits : ℕ) (equalStampValid : Bool) :
    (h.observe stream now stampNs sequence bits equalStampValid).states other =
      h.states other := by
  have hs : ((sequence.map ((h.touch stream now).observeSequence stream bits)).getD
      (h.touch stream now)).states other = h.states other := by
    cases sequence with
    | none => exact other_touch hne now
    | some value => exact (other_observeSequence hne bits value).trans (other_touch hne now)
  unfold observe
  rw [update_other _ hne]
  split
  · split
    · rw [other_observeStamp hne,hs]
    · exact hs
  · exact hs

theorem other_counter (hne : other ≠ stream) (issue : Issue) (value : UInt64)
    (initialIsNew : Bool) :
    (h.counter stream issue value initialIsNew).states other = h.states other := by
  unfold counter setCounter
  rw [update_other _ hne]
  split <;> split <;> first | exact other_add hne _ _ | rfl

theorem other_condition (hne : other ≠ stream) (issue : Issue) (active : Bool) :
    (h.condition stream issue active).states other = h.states other := by
  rw [condition,setCondition,update_other _ hne]
  split
  · exact other_add hne _ _
  · rfl

/-- An operation on one stream leaves the records of all others as they are. -/
theorem apply_other {op : Operation} (hop : op.stream = some stream) (hne : other ≠ stream) :
    (h.apply op).states other = h.states other := by
  cases op with
  | reset =>
    obtain rfl := Option.some.inj hop
    rw [apply,SensorDataHealth.reset,update_other _ hne]
  | disable =>
    obtain rfl := Option.some.inj hop
    rw [apply,SensorDataHealth.disable,update_other _ hne]
  | touch =>
    obtain rfl := Option.some.inj hop
    exact other_touch hne _
  | session =>
    obtain rfl := Option.some.inj hop
    rw [apply,SensorDataHealth.session,update_other _ hne]
    split
    · rw [update_other _ hne,other_add hne]
    · rfl
  | add =>
    obtain rfl := Option.some.inj hop
    exact other_add hne _ _
  | condition =>
    obtain rfl := Option.some.inj hop
    exact other_condition hne _ _
  | resetCounter =>
    obtain rfl := Option.some.inj hop
    rw [apply,SensorDataHealth.resetCounter,setCounter,update_other _ hne]
  | queryError =>
    obtain rfl := Option.some.inj hop
    rw [apply,SensorDataHealth.queryError,update_other _ hne,other_add hne]
  | counter =>
    obtain rfl := Option.some.inj hop
    exact other_counter hne _ _ _
  | observe =>
    obtain rfl := Option.some.inj hop
    exact other_observe hne _ _ _ _ _
  | reports => cases hop

theorem total_add (issue counted : Issue) (count : UInt64) :
    ((h.add stream counted count).states stream).total issue =
      (h.states stream).total issue + if issue = counted then count else 0 := by
  rw [add,update_same]
  by_cases hi : issue = counted
  · subst hi
    simp only [Function.update_self,if_true]
  · simp only [Function.update_of_ne hi,if_neg hi,add_zero]

end

/-! ## What an operation leaves as it is -/

theorem update_update (h : SensorDataHealth) (stream : Stream) (f g : StreamHealth → StreamHealth) :
    (h.update stream f).update stream g = h.update stream (g ∘ f) := by
  rw [update,update_same]
  exact congrArg SensorDataHealth.mk (Function.update_idem ..)

theorem add_setCounter (h : SensorDataHealth) (stream : Stream) (counted issue : Issue)
    (count : UInt64) (value : Option UInt64) :
    (h.add stream counted count).setCounter stream issue value =
      (h.setCounter stream issue value).add stream counted count := by
  rw [add,setCounter,setCounter,add,update_update,update_update]
  rfl

/-- A reading of a record that does not depend on what was counted, on the baselines
of the samples or on an error's text. -/
structure Blind {α : Type*} (π : StreamHealth → α) : Prop where
  counts : ∀ s pending total, π { s with pending := pending, total := total } = π s
  baselines : ∀ s sequence stamp session conditions, π { s with
    sequence := sequence
    stamp := stamp
    session := session
    conditions := conditions } = π s
  detail : ∀ s detail, π { s with detail := detail } = π s

theorem update_blind {α : Type*} (π : StreamHealth → α) {f : StreamHealth → StreamHealth}
    (hf : ∀ s, π (f s) = π s) (h : SensorDataHealth) (stream other : Stream) :
    π ((h.update stream f).states other) = π (h.states other) := by
  by_cases ho : other = stream
  · subst other
    rw [update_same,hf]
  · rw [update_other h ho]

namespace Blind
variable {α : Type*} {π : StreamHealth → α} (hπ : Blind π) {h : SensorDataHealth}
  {stream other : Stream}
include hπ

theorem add (issue : Issue) (count : UInt64) :
    π ((h.add stream issue count).states other) = π (h.states other) :=
  update_blind π (by intro s; exact hπ.counts s _ _) h stream other

theorem setCondition (issue : Issue) (active : Bool) :
    π ((h.setCondition stream issue active).states other) = π (h.states other) :=
  update_blind π (by intro s; exact hπ.baselines s _ _ _ _) h stream other

theorem condition (issue : Issue) (active : Bool) :
    π ((h.condition stream issue active).states other) = π (h.states other) := by
  unfold SensorDataHealth.condition
  dsimp only
  rw [hπ.setCondition]
  split
  · exact hπ.add issue 1
  · rfl

theorem apply_session (sessionId : UInt64) :
    π ((h.session stream sessionId).states other) = π (h.states other) := by
  unfold SensorDataHealth.session
  dsimp only
  rw [update_blind π (by intro s; exact hπ.baselines s _ _ _ _)]
  split
  · rw [update_blind π (by intro s; exact hπ.baselines s _ _ _ _),hπ.add]
  · rfl

theorem queryError (detail : String) :
    π ((h.queryError stream detail).states other) = π (h.states other) := by
  unfold SensorDataHealth.queryError
  rw [update_blind π (by intro s; exact hπ.detail s _),hπ.add]

theorem counter (issue : Issue) (value : UInt64) (initialIsNew : Bool) :
    π ((h.counter stream issue value initialIsNew).states other) =
      π ((h.setCounter stream issue (some value)).states other) := by
  have hadd (count : UInt64) : π (((h.add stream issue count).setCounter stream issue
      (some value)).states other) = π ((h.setCounter stream issue (some value)).states other) := by
    rw [add_setCounter]
    exact hπ.add issue count
  unfold SensorDataHealth.counter
  dsimp only
  split
  · split
    · exact hadd _
    · rfl
  · split
    · exact hadd _
    · rfl

theorem observeSequence (bits : ℕ) (value : UInt64) :
    π ((h.observeSequence stream bits value).states other) = π (h.states other) := by
  unfold SensorDataHealth.observeSequence
  dsimp only
  rw [update_blind π (by intro s; exact hπ.baselines s _ _ _ _)]
  split
  · split_ifs
    · exact hπ.add _ _
    · exact hπ.add _ _
    · exact hπ.add _ _
    · rfl
  · rfl

theorem observeStamp (stampNs previous : UInt64) (equalStampValid : Bool) :
    π ((h.observeStamp stream stampNs previous equalStampValid).states other) =
      π (h.states other) := by
  unfold SensorDataHealth.observeStamp
  dsimp only
  split_ifs
  · exact hπ.add _ _
  · rfl
  · exact hπ.add _ _
  · rw [hπ.add,hπ.add]
  · rfl

/-- To such a reading a sample is an arrival and nothing else. -/
theorem observe (now stampNs : UInt64) (sequence : Option UInt64) (bits : ℕ)
    (equalStampValid : Bool) :
    π ((h.observe stream now stampNs sequence bits equalStampValid).states other) =
      π ((h.touch stream now).states other) := by
  have hs : π (((sequence.map ((h.touch stream now).observeSequence stream bits)).getD
      (h.touch stream now)).states other) = π ((h.touch stream now).states other) := by
    cases sequence with
    | none => rfl
    | some value => exact hπ.observeSequence bits value
  unfold SensorDataHealth.observe
  dsimp only
  rw [update_blind π (by intro s; exact hπ.baselines s _ _ _ _)]
  split
  · split
    · rw [hπ.observeStamp,hs]
    · exact hs
  · exact hs

end Blind
end SensorDataHealth
end PrismRosAdapter.Health
