import PrismRosAdapter.Health.Polls
import PrismRosAdapter.Navigation.ReceiverModel
import PrismRosAdapter.Program.Neighbours

/-! # The checks of the loop's polls

A check is a short sequence of operations on the counters. Some of its issues are counted
outright, the others only by what the counters held before.
-/
namespace PrismRosAdapter.Health
open Runs SensorDataHealth Navigation

namespace SensorDataHealth.Operation
variable (stream : Stream) (issue : Issue)

/-- The amount that is counted whatever the counters hold. -/
def amount : Operation → UInt64
  | .add counted kind count => if counted = stream ∧ issue = kind then count else 0
  | .queryError queried _ => if queried = stream ∧ issue = .queryError then 1 else 0
  | _ => 0

/-- Nothing but that amount is counted. -/
def plain (op : Operation) : Bool :=
  (op.poll stream issue).isNone &&
    match op with
    | .add .. | .queryError .. => true
    | op => !op.mayCount stream issue

/-- Neither the total nor the baseline is touched. -/
def spares (op : Operation) : Bool :=
  (op.poll stream issue).isNone && !op.mayCount stream issue &&
    decide (op ≠ .resetCounter stream issue)

end SensorDataHealth.Operation

section
variable {h : SensorDataHealth} {stream : Stream} {issue : Issue} {op : Operation}

theorem total_other_add {counted : Stream} (hne : counted ≠ stream) (kind : Issue)
    (count : UInt64) : ((h.add counted kind count).states stream).total issue =
      (h.states stream).total issue := by
  rw [other_add (fun he => hne he.symm)]

theorem apply_plain (hop : op.plain stream issue = true) :
    ((h.apply op).states stream).total issue =
      (h.states stream).total issue + op.amount stream issue := by
  obtain ⟨hpoll,hcount⟩ := Bool.and_eq_true_iff.mp hop
  cases op with
  | add counted kind count =>
    rw [SensorDataHealth.apply,Operation.amount]
    by_cases hc : counted = stream
    · subst hc
      simp only [total_add, true_and]
    · rw [total_other_add hc,if_neg (fun he => hc he.1),add_zero]
  | queryError queried detail =>
    rw [SensorDataHealth.apply,SensorDataHealth.queryError,Operation.amount]
    by_cases hq : queried = stream
    · subst hq
      simp only [update_same, total_add, true_and]
    · rw [update_other _ fun he => hq he.symm,total_other_add hq,if_neg (fun he => hq he.1),add_zero]
  | _ =>
    rw [apply_total (Option.isNone_iff_eq_none.mp hpoll) (by simpa using hcount)]
    exact (add_zero _).symm

theorem run_plain (ops : List Operation) (hops : ∀ op ∈ ops, op.plain stream issue = true) :
    ((run SensorDataHealth.apply h ops).states stream).total issue =
      (h.states stream).total issue + (ops.map (·.amount stream issue)).sum := by
  induction ops generalizing h with
  | nil => exact (add_zero _).symm
  | cons op ops ih =>
    obtain ⟨hop,hrest⟩ := List.forall_mem_cons.mp hops
    rw [run_cons,ih hrest,apply_plain hop,List.map_cons,List.sum_cons,add_assoc]

/-- The total and the baseline of an issue are as they were. -/
structure SameIssue (stream : Stream) (issue : Issue) (h g : SensorDataHealth) : Prop where
  total : (g.states stream).total issue = (h.states stream).total issue
  counter : (g.states stream).counters issue = (h.states stream).counters issue

theorem SameIssue.refl (h : SensorDataHealth) : SameIssue stream issue h h := ⟨rfl,rfl⟩

theorem SameIssue.trans {g k : SensorDataHealth} (hg : SameIssue stream issue h g)
    (hk : SameIssue stream issue g k) : SameIssue stream issue h k :=
  ⟨hk.total.trans hg.total,hk.counter.trans hg.counter⟩

theorem apply_spared (hop : op.spares stream issue = true) :
    SameIssue stream issue h (h.apply op) := by
  simp only [Operation.spares, Bool.and_eq_true, decide_eq_true_eq, Bool.not_eq_true'] at hop
  obtain ⟨⟨hpoll,hcount⟩,hreset⟩ := hop
  rw [Option.isNone_iff_eq_none] at hpoll
  exact ⟨apply_total hpoll hcount,apply_counters hpoll hreset⟩

theorem run_spared (ops : List Operation) (hops : ∀ op ∈ ops, op.spares stream issue = true) :
    SameIssue stream issue h (run SensorDataHealth.apply h ops) := by
  induction ops generalizing h with
  | nil => exact .refl h
  | cons op ops ih =>
    obtain ⟨hop,hrest⟩ := List.forall_mem_cons.mp hops
    exact (apply_spared hop).trans (ih hrest)

/-- Operations on other streams leave a record as it is. -/
theorem run_other (ops : List Operation)
    (hops : ∀ op ∈ ops, ∃ other, op.stream = some other ∧ other ≠ stream) :
    (run SensorDataHealth.apply h ops).states stream = h.states stream := by
  induction ops generalizing h with
  | nil => rfl
  | cons op ops ih =>
    obtain ⟨⟨other,hother,hne⟩,hrest⟩ := List.forall_mem_cons.mp hops
    rw [run_cons,ih hrest,apply_other hother hne.symm]

end

/-! ## Reception and RTK -/

structure GnssReceptionStatusState where
  rawDataSeen : Bool := false
  rawDataFresh : Bool := false
  nmeaSentenceSeen : Bool := false
  nmeaSentenceFresh : Bool := false
  nmeaRejectedCount : UInt64 := 0
  uartFrameErrorCount : UInt64 := 0
  fifoOverflowCount : UInt64 := 0
  deriving DecidableEq, Repr

def checkReception (now : UInt64) (reception : GnssReceptionStatusState) : List Operation :=
  [.touch .gnssReception now,
    .counter .gnssReception .uartError reception.uartFrameErrorCount false,
    .counter .gnssReception .fifoOverflow reception.fifoOverflowCount false,
    .counter .gnssReception .rejected reception.nmeaRejectedCount false,
    .condition .gnssReception .rawStale (reception.rawDataSeen && !reception.rawDataFresh),
    .condition .gnssReception .nmeaStale
      (reception.nmeaSentenceSeen && !reception.nmeaSentenceFresh)]

structure TimeSyncRtkStatusState where
  linked : Bool := false
  deviceStatusFresh : Bool := false
  uptimeMs : UInt32 := 0
  rtcmErrors : UInt32 := 0
  upstreamDrops : UInt32 := 0
  lostBytes : UInt64 := 0
  deriving DecidableEq, Repr

/-- The module's own counters, as the driver polls them. -/
def rtkCounters : List (Issue × (TimeSyncRtkStatusState → UInt64)) :=
  [(.lostBytes,(·.lostBytes)), (.crcError,(·.rtcmErrors.toUInt64)),
    (.upstreamDrop,(·.upstreamDrops.toUInt64))]

/-- The module has been restarted since the status before. -/
def restarted (last : Option UInt32) (rtk : TimeSyncRtkStatusState) : Bool :=
  last.any fun uptime => rtk.uptimeMs < uptime

def rebase : List Operation :=
  .add .rtkStatus .sessionChanged 1 :: rtkCounters.map fun c => .resetCounter .rtkStatus c.1

/-- The operations of a check, given the uptime of the last status that was heard. -/
def checkRtk (last : Option UInt32) (now : UInt64) (rtk : TimeSyncRtkStatusState) :
    List Operation :=
  [.touch .rtkStatus now,
    .condition .rtkStatus .statusStale (rtk.linked && !rtk.deviceStatusFresh)] ++
    if !rtk.linked || !rtk.deviceStatusFresh then []
    else (if restarted last rtk then rebase else []) ++
      rtkCounters.map fun c => .counter .rtkStatus c.1 (c.2 rtk) false

/-- `last_rtk_uptime` after the check. -/
def rtkUptime (last : Option UInt32) (rtk : TimeSyncRtkStatusState) : Option UInt32 :=
  if !rtk.linked || !rtk.deviceStatusFresh then last else some rtk.uptimeMs

/-! ## Observations and positions -/

def checkObservations (clock : ℕ → UInt64) (batch : GnssObservations) : List Operation :=
  [.touch .gnssObservations (clock 0), .session .gnssObservations batch.session] ++
    (if batch.gap then [.add .gnssObservations .cacheGap 1] else []) ++
    batch.records.mapIdx fun i record =>
      .observe .gnssObservations (clock (i + 1)) 0 (some record.sequence) 64 false

def fixStream (rtk : Bool) : Stream := if rtk then .rtkFix else .gnssFix

def stalePosition (position : ReceiverPositionState) : Bool :=
  position.sequence ≠ 0 && 2000 < position.ageMs

/-- A fix that no poll has brought before. -/
def newFix (last : UInt64 × UInt64) (position : ReceiverPositionState) : Bool :=
  position.sequence ≠ 0 && (position.session,position.sequence) ≠ last

/-- A position's number is one of the sentences it came in, so that it is no sequence. -/
def checkPosition (rtk : Bool) (now : UInt64) (last : UInt64 × UInt64)
    (position : ReceiverPositionState) : List Operation :=
  [.session (fixStream rtk) position.session,
    .condition (fixStream rtk) .statusStale (stalePosition position)] ++
    if newFix last position then
      [.observe (fixStream rtk) now
        (if position.timestampValid then position.epochUs * 1000 else 0) none 64 true]
    else []

/-- `last_receiver_sequence` after the check. -/
def receiverSequence (last : UInt64 × UInt64) (position : ReceiverPositionState) :
    UInt64 × UInt64 :=
  if newFix last position then (position.session,position.sequence) else last

section
variable {op : Operation} {now : UInt64}

theorem stream_checkReception {reception : GnssReceptionStatusState}
    (hop : op ∈ checkReception now reception) : op.stream = some .gnssReception := by
  have hall : ∀ op ∈ checkReception now reception, op.stream = some .gnssReception := by
    simp [checkReception, Operation.stream]
  exact hall op hop

theorem stream_checkObservations {clock : ℕ → UInt64} {batch : GnssObservations}
    (hop : op ∈ checkObservations clock batch) : op.stream = some .gnssObservations := by
  unfold checkObservations at hop
  rcases List.mem_append.mp hop with hop | hop
  · cases hgap : batch.gap <;>
      simp only [hgap, List.mem_append, List.mem_cons, List.not_mem_nil, or_false, if_true,
        Bool.false_eq_true, if_false] at hop
    · rcases hop with rfl | rfl <;> rfl
    · rcases hop with (rfl | rfl) | rfl <;> rfl
  · obtain ⟨i,_,rfl⟩ := List.mem_mapIdx.mp hop
    rfl

theorem stream_checkPosition {rtk : Bool} {last : UInt64 × UInt64}
    {position : ReceiverPositionState} (hop : op ∈ checkPosition rtk now last position) :
    op.stream = some (fixStream rtk) := by
  have hall : ∀ op ∈ checkPosition rtk now last position, op.stream = some (fixStream rtk) := by
    unfold checkPosition
    split <;> simp [Operation.stream]
  exact hall op hop

theorem stream_checkRtk {last : Option UInt32} {rtk : TimeSyncRtkStatusState}
    (hop : op ∈ checkRtk last now rtk) : op.stream = some .rtkStatus := by
  have hall : ∀ op ∈ checkRtk last now rtk, op.stream = some .rtkStatus := by
    unfold checkRtk rebase rtkCounters
    split_ifs <;> simp [Operation.stream]
  exact hall op hop

end

/-! ## The dispatchers -/

/-- The stream that each dispatcher is reported under. -/
def dispatchStreams : List Stream :=
  [.cameraMetadata, .boardImuDispatch, .lidarPoints, .lidarImu, .gnssTiming, .receiver,
    .gnssObservations, .rawDispatch, .gnssReception, .rtkStatus, .roverRtcm]

/-- What a report does once it has read the dispatchers. Its lines go to the log. -/
def printReport (now : UInt64) (final : Bool) : List Operation :=
  (if final then Stream.all.map .disable else []) ++ [.reports now final]

theorem mem_printReport {now : UInt64} {final : Bool} {op : Operation}
    (hop : op ∈ printReport now final) : (∃ stream, op = .disable stream) ∨ op = .reports now final := by
  rcases List.mem_append.mp hop with hop | hop
  · split at hop
    · obtain ⟨stream,_,rfl⟩ := List.mem_map.mp hop
      exact .inl ⟨stream,rfl⟩
    · cases hop
  · exact .inr (List.mem_singleton.mp hop)

end PrismRosAdapter.Health
