import PrismRosAdapter.Dispatch.QueueRuns
import PrismRosAdapter.Dispatch.RawHealth
import PrismRosAdapter.Driver.HealthOperations
import PrismRosAdapter.Driver.MainLoop

/-! # What a run reports of its losses

The loop checks what its polls bring and, once a second, what its dispatchers have lost. A
report reads their counters one after the other while the workers go on: it counts what a
dispatcher has lost by the time its counter is read, each loss once.
-/
namespace PrismRosAdapter.Driver
open Runs Neighbours Health SensorDataHealth Dispatch Navigation

/-- The issues that dispatchers alone are reported for. -/
def lossIssues : List Issue := [.queueDrop, .callbackError]

def lossCount {T : Type} (q : DispatchQueue T) : Issue → ℕ
  | .queueDrop => q.dropped
  | .callbackError => q.callbackErrors
  | _ => 0

/-- One of the two counters of a reported dispatcher. -/
structure LossCounter where
  stream : Stream
  issue : Issue
  reported : stream ∈ dispatchStreams
  loss : issue ∈ lossIssues

/-- A driver with its dispatchers, each for values of its own, and the lines it has printed. -/
structure LossWatch (Value : Stream → Type) where
  driver : DriverState
  lastRtkUptime : Option UInt32 := none
  lastReceiverSequence : Bool → UInt64 × UInt64 := fun _ => (0,0)
  lines : List Report := []
  queues : ∀ stream, Dispatching (Value stream)

inductive Occasion (Value : Stream → Type) where
  | turn (next : Turn)
  | queue (stream : Stream) (i : QueueStep (Value stream))
  | raw (clock : ℕ → UInt64) (batch : GnssRawBatch)
  | timing (now : UInt64)
  /-- The two positions are the GNSS one and then the RTK one. -/
  | receiver (clock : ℕ → UInt64) (batch : GnssObservations)
      (positions : Bool → ReceiverPositionState)
  | reception (now : UInt64) (reception : GnssReceptionStatusState)
  | rtk (now : UInt64) (rtk : TimeSyncRtkStatusState)
  | queryFailed (stream : Stream) (detail : String)
  /-- RK-local alone has frames dropped before they are received. -/
  | droppedRawFrames (frames : UInt64)
  /-- A report reads one counter of one dispatcher. -/
  | poll (counter : LossCounter)
  /-- What a report ends with. -/
  | print (now : UInt64) (final : Bool)

section
variable {Value : Stream → Type}

/-- Both counters of a dispatcher, in the order in which a report reads them. -/
def checkDispatch (stream : Stream) (h : stream ∈ dispatchStreams) : List (Occasion Value) :=
  [.poll ⟨stream,.queueDrop,h,by decide⟩, .poll ⟨stream,.callbackError,h,by decide⟩]

def reportHealth (now : UInt64) (final : Bool) : List (Occasion Value) :=
  (dispatchStreams.attach.flatMap fun stream => checkDispatch stream.1 stream.2) ++
    [.print now final]

/-- Queues move on other threads too, everything else on the driver's own. -/
def Occasion.own : Occasion Value → Bool
  | .queue _ _ => false
  | _ => true

/-- A report, with what the dispatchers do meanwhile. -/
def Reporting (now : UInt64) (final : Bool) (report : List (Occasion Value)) : Prop :=
  report.filter (·.own) = reportHealth now final

end

namespace LossWatch
variable {Value : Stream → Type}

def printer (s : LossWatch Value) : Printer := ⟨s.driver.health,s.lines⟩

/-- Operations on the counters, with what they print. -/
def check (s : LossWatch Value) (ops : List Operation) : LossWatch Value :=
  { s with
    driver := { s.driver with health := (run Printer.step s.printer ops).health }
    lines := (run Printer.step s.printer ops).lines }

/-- What a dispatcher has lost by now. -/
def lost (s : LossWatch Value) (stream : Stream) (issue : Issue) : ℕ :=
  lossCount (s.queues stream).queue issue

def pollOperation (s : LossWatch Value) (c : LossCounter) : Operation :=
  .counter c.stream c.issue (UInt64.ofNat (s.lost c.stream c.issue)) true

def checkPositions (s : LossWatch Value) (clock : ℕ → UInt64)
    (positions : Bool → ReceiverPositionState) : LossWatch Value :=
  [false, true].foldl (fun s rtk =>
    { s.check (checkPosition rtk (clock rtk.toNat) (s.lastReceiverSequence rtk) (positions rtk)) with
      lastReceiverSequence := Function.update s.lastReceiverSequence rtk
        (receiverSequence (s.lastReceiverSequence rtk) (positions rtk)) }) s

def step (w : World) (s : LossWatch Value) : Occasion Value → LossWatch Value
  | .turn next => { s with driver := Driver.turn w s.driver next }
  | .queue stream i =>
    { s with queues := Function.update s.queues stream ((s.queues stream).step i) }
  | .raw clock batch => s.check (rawBatchOperations clock 0 batch)
  | .timing now => s.check [.touch .gnssTiming now]
  | .receiver clock batch positions => (s.check (checkObservations clock batch)).checkPositions
      (fun i => clock (batch.records.length + 1 + i)) positions
  | .reception now reception => s.check (checkReception now reception)
  | .rtk now rtk =>
    { s.check (checkRtk s.lastRtkUptime now rtk) with
      lastRtkUptime := rtkUptime s.lastRtkUptime rtk }
  | .queryFailed stream detail => s.check [.queryError stream detail]
  | .droppedRawFrames frames => s.check [.counter .transport .queueDrop frames true]
  | .poll c => s.check [s.pollOperation c]
  | .print now final => s.check (printReport now final)

/-- The loop begins after the first pass of starts, with the polled streams under watch. -/
def start (w : World) (config : DriverConfig) (queues : ∀ stream, Dispatching (Value stream))
    (navigation : Bool) (now : UInt64) : LossWatch Value :=
  check { driver := (startRun w (fresh config)).2, queues } <| if navigation then
    [.gnssTiming, .gnssReception, .gnssObservations, .rtkStatus].map fun stream =>
      .reset stream now 0 (5 * kSecond)
  else []

/-! ## Steps of the counters -/

section
variable {w : World} {s : LossWatch Value} {stream : Stream} {issue : Issue}

@[simp] theorem check_lastRtkUptime (ops : List Operation) :
    (s.check ops).lastRtkUptime = s.lastRtkUptime := rfl
@[simp] theorem check_printer (ops : List Operation) :
    (s.check ops).printer = run Printer.step s.printer ops := rfl

theorem printer_health (p : Printer) (ops : List Operation) :
    (run Printer.step p ops).health = run SensorDataHealth.apply p.health ops := by
  induction ops generalizing p with
  | nil => rfl
  | cons op ops ih => exact ih (p.step op)

@[simp] theorem check_health (ops : List Operation) :
    (s.check ops).driver.health = run SensorDataHealth.apply s.driver.health ops :=
  printer_health s.printer ops

/-- The operations of every occasion that is no turn of the driver's own. -/
def operations (s : LossWatch Value) : Occasion Value → List Operation
  | .turn _ | .queue _ _ => []
  | .raw clock batch => rawBatchOperations clock 0 batch
  | .timing now => [.touch .gnssTiming now]
  | .receiver clock batch positions => checkObservations clock batch ++
      (checkPosition false (clock (batch.records.length + 1)) (s.lastReceiverSequence false)
          (positions false) ++
        checkPosition true (clock (batch.records.length + 2)) (s.lastReceiverSequence true)
          (positions true))
  | .reception now reception => checkReception now reception
  | .rtk now rtk => checkRtk s.lastRtkUptime now rtk
  | .queryFailed stream detail => [.queryError stream detail]
  | .droppedRawFrames frames => [.counter .transport .queueDrop frames true]
  | .poll c => [s.pollOperation c]
  | .print now final => printReport now final

theorem step_printer {o : Occasion Value} (ho : ∀ next, o ≠ .turn next) :
    (step w s o).printer = run Printer.step s.printer (s.operations o) := by
  cases o with
  | turn next => exact absurd rfl (ho next)
  | receiver clock batch positions =>
    simp only [step, operations, run_append, checkPositions, List.foldl_cons, List.foldl_nil]
    rw [Function.update_of_ne (by decide)]
    rfl
  | queue stream i => rfl
  | rtk now status => exact check_printer _
  | _ => simp only [step, operations, check_printer]

theorem step_health {o : Occasion Value} (ho : ∀ next, o ≠ .turn next) :
    (step w s o).driver.health = run SensorDataHealth.apply s.driver.health (s.operations o) := by
  have h := printer_health s.printer (s.operations o)
  rw [← step_printer ho] at h
  exact h

theorem printer_silent {ops : List Operation} (hops : ∀ op ∈ ops, op.stream ≠ none) (p : Printer) :
    run Printer.step p ops = ⟨run SensorDataHealth.apply p.health ops,p.lines⟩ := by
  induction ops generalizing p with
  | nil => rfl
  | cons op ops ih =>
    obtain ⟨hop,hrest⟩ := List.forall_mem_cons.mp hops
    have hstep : p.step op = ⟨p.health.apply op,p.lines⟩ := by
      cases op with
      | reports => exact absurd rfl hop
      | _ => simp only [Printer.step, printed, List.append_nil]
    rw [run_cons,run_cons,ih hrest,hstep]

theorem sensed_stream {op : Operation} (h : sensed op = true) :
    ∃ lane, op.stream = some lane ∧ sampled lane = true := by
  cases op with
  | reset lane _ _ _ => exact ⟨lane,rfl,h⟩
  | disable lane => exact ⟨lane,rfl,h⟩
  | observe lane _ _ _ _ _ => exact ⟨lane,rfl,h⟩
  | add lane _ _ => exact ⟨lane,rfl,(Bool.and_eq_true_iff.mp h).1⟩
  | condition lane _ _ =>
    exact ⟨lane,rfl,by simp only [sensed, Bool.and_eq_true, decide_eq_true_eq] at h; simp [h.1, sampled]⟩
  | counter lane _ _ _ =>
    exact ⟨lane,rfl,by simp only [sensed, Bool.and_eq_true, decide_eq_true_eq] at h; simp [h.1, sampled]⟩
  | resetCounter lane _ =>
    exact ⟨lane,rfl,by simp only [sensed, Bool.and_eq_true, decide_eq_true_eq] at h; simp [h.1, sampled]⟩
  | touch => cases h
  | session => cases h
  | queryError => cases h
  | reports => cases h

/-- A turn of the driver's own prints nothing. -/
theorem turn_sensed (next : Turn) : ∃ ops : List Operation, (∀ op ∈ ops, sensed op = true) ∧
    (step w s (.turn next)).printer = run Printer.step s.printer ops := by
  obtain ⟨ops,hops,hhealth⟩ : Sensing s.driver (Driver.turn w s.driver next) := by
    cases next with
    | act action => exact sensing_act s.driver action
    | publish state error => exact ⟨[],List.forall_mem_nil _,rfl⟩
  refine ⟨ops,hops,?_⟩
  rw [printer_silent fun op hop => by
    obtain ⟨lane,hlane,_⟩ := sensed_stream (hops op hop)
    rw [hlane]
    exact Option.some_ne_none lane]
  exact congrArg (Printer.mk · s.lines) hhealth

theorem step_balanced (h : s.printer.Balanced) (o : Occasion Value) :
    (step w s o).printer.Balanced := by
  have hops : ∀ ops, (run Printer.step s.printer ops).Balanced := fun ops =>
    (always_of_step Printer.step (H := fun _ _ => True) (fun p op _ hp => hp.step op) h
      fun _ _ _ => trivial).last
  by_cases ho : ∃ next, o = .turn next
  · obtain ⟨next,rfl⟩ := ho
    obtain ⟨ops,_,heq⟩ := turn_sensed (w := w) (s := s) next
    exact heq ▸ hops ops
  · rw [step_printer fun next hn => ho ⟨next,hn⟩]
    exact hops _

/-! ## The losses of the dispatchers -/

/-- The operation is about another issue. -/
def lossless : Operation → Bool
  | .add _ kind _ | .condition _ kind _ | .counter _ kind _ _ | .resetCounter _ kind =>
    kind ∉ lossIssues
  | _ => true

theorem lossless_spares (hi : issue ∈ lossIssues) {op : Operation} (h : lossless op = true) :
    op.spares stream issue = true := by
  simp only [lossIssues, List.mem_cons, List.not_mem_nil, or_false] at hi
  cases op with
  | add lane kind count =>
    rcases hi with rfl | rfl <;> cases kind <;>
      simp_all [lossless, lossIssues, Operation.spares, Operation.poll, Operation.mayCount]
  | condition lane kind active =>
    rcases hi with rfl | rfl <;> cases kind <;>
      simp_all [lossless, lossIssues, Operation.spares, Operation.poll, Operation.mayCount]
  | counter lane kind value initialIsNew =>
    rcases hi with rfl | rfl <;> cases kind <;>
      simp_all [lossless, lossIssues, Operation.spares, Operation.poll, Operation.mayCount]
  | resetCounter lane kind =>
    rcases hi with rfl | rfl <;> cases kind <;>
      simp_all [lossless, lossIssues, Operation.spares, Operation.poll, Operation.mayCount]
  | _ =>
    rcases hi with rfl | rfl <;>
      simp [Operation.spares, Operation.poll, Operation.mayCount, Issue.observed]

theorem sensed_lossless {op : Operation} (h : sensed op = true) : lossless op = true := by
  cases op with
  | add lane kind count => cases kind <;> simp_all [sensed, sampleIssue, lossless, lossIssues]
  | condition lane kind active => cases kind <;> simp_all [sensed, lossless, lossIssues]
  | counter lane kind value initialIsNew => cases kind <;> simp_all [sensed, lossless, lossIssues]
  | resetCounter lane kind => cases kind <;> simp_all [sensed, lossless, lossIssues]
  | _ => rfl

theorem lossless_flagOperation (lane : Stream) (flags bit : UInt32) {kind : Issue}
    (hk : kind ∉ lossIssues) : ∀ op ∈ flagOperation lane flags bit kind, lossless op = true := by
  unfold flagOperation
  split <;> simp [lossless, hk]

theorem lossless_rawBatchOperations (clock : ℕ → UInt64) (tick : ℕ) (b : GnssRawBatch) :
    ∀ op ∈ rawBatchOperations clock tick b, lossless op = true := by
  have hrecords : ∀ (records : List GnssRawRecord) tick,
      ∀ op ∈ rawRecordsOperations clock tick records, lossless op = true := by
    intro records
    induction records with
    | nil => exact fun _ => List.forall_mem_nil _
    | cons r rest ih =>
      refine fun tick => List.forall_mem_append.mpr ⟨?_,ih _⟩
      unfold rawRecordOperations
      simp only [List.forall_mem_append]
      refine ⟨⟨⟨⟨?_,?_⟩,?_⟩,?_⟩,?_⟩
      · simp [lossless]
      · exact lossless_flagOperation _ _ _ (by decide)
      · exact lossless_flagOperation _ _ _ (by decide)
      · exact lossless_flagOperation _ _ _ (by decide)
      · simp [lossless, lossIssues]
  unfold rawBatchOperations
  simp only [List.forall_mem_append]
  refine ⟨⟨by simp [lossless],?_⟩,hrecords b.records tick⟩
  split <;> simp [lossless, lossIssues]

theorem lossless_checkPosition (rtk : Bool) (now : UInt64) (last : UInt64 × UInt64)
    (position : ReceiverPositionState) :
    ∀ op ∈ checkPosition rtk now last position, lossless op = true := by
  unfold checkPosition
  split <;> simp [lossless, lossIssues]

theorem lossless_checkObservations (clock : ℕ → UInt64) (batch : GnssObservations) :
    ∀ op ∈ checkObservations clock batch, lossless op = true := by
  unfold checkObservations
  simp only [List.forall_mem_append]
  refine ⟨⟨by simp [lossless],?_⟩,?_⟩
  · split <;> simp [lossless, lossIssues]
  · intro op hop
    obtain ⟨i,_,rfl⟩ := List.mem_mapIdx.mp hop
    rfl

theorem lossless_checkRtk (last : Option UInt32) (now : UInt64) (rtk : TimeSyncRtkStatusState) :
    ∀ op ∈ checkRtk last now rtk, lossless op = true := by
  unfold checkRtk rebase rtkCounters
  split_ifs <;> simp [lossless, lossIssues]

theorem lossless_checkReception (now : UInt64) (reception : GnssReceptionStatusState) :
    ∀ op ∈ checkReception now reception, lossless op = true := by
  simp [checkReception, lossless, lossIssues]

/-- Only a report's polls, and the frames dropped in the RK-local build, touch the counters
of losses. -/
theorem operations_lossless {o : Occasion Value} (hpoll : ∀ c, o ≠ .poll c)
    (hframes : ∀ frames, o ≠ .droppedRawFrames frames) :
    ∀ op ∈ s.operations o, lossless op = true := by
  cases o with
  | turn next => exact List.forall_mem_nil _
  | queue lane i => exact List.forall_mem_nil _
  | raw clock batch => exact lossless_rawBatchOperations clock 0 batch
  | timing now =>
    simp only [operations]
    intro op hop
    rw [List.mem_singleton.mp hop]
    rfl
  | receiver clock batch positions =>
    exact List.forall_mem_append.mpr ⟨lossless_checkObservations clock batch,
      List.forall_mem_append.mpr ⟨lossless_checkPosition _ _ _ _,lossless_checkPosition _ _ _ _⟩⟩
  | reception now reception => exact lossless_checkReception now reception
  | rtk now rtk => exact lossless_checkRtk _ now rtk
  | queryFailed lane detail =>
    simp only [operations]
    intro op hop
    rw [List.mem_singleton.mp hop]
    rfl
  | droppedRawFrames frames => exact absurd rfl (hframes frames)
  | poll c => exact absurd rfl (hpoll c)
  | print now final =>
    intro op hop
    rcases mem_printReport hop with ⟨lane,rfl⟩ | rfl <;> rfl

theorem step_spared {o : Occasion Value} (hi : issue ∈ lossIssues) (hs : stream ≠ .transport)
    (hpoll : ∀ c, o = .poll c → c.stream ≠ stream ∨ c.issue ≠ issue) :
    SameIssue stream issue s.driver.health (step w s o).driver.health := by
  by_cases hturn : ∃ next, o = .turn next
  · obtain ⟨next,rfl⟩ := hturn
    obtain ⟨ops,hops,heq⟩ := turn_sensed (w := w) (s := s) next
    have hhealth : (step w s (.turn next)).driver.health =
        run SensorDataHealth.apply s.driver.health ops := by
      have h := printer_health s.printer ops
      rw [← heq] at h
      exact h
    rw [hhealth]
    exact run_spared ops fun op hop => lossless_spares hi (sensed_lossless (hops op hop))
  · rw [step_health fun next hn => hturn ⟨next,hn⟩]
    by_cases hframes : ∃ frames, o = .droppedRawFrames frames
    · obtain ⟨frames,rfl⟩ := hframes
      have hother : (run SensorDataHealth.apply s.driver.health
          (s.operations (.droppedRawFrames frames))).states stream = s.driver.health.states stream :=
        run_other _ (by simpa [operations, Operation.stream] using fun he => hs he.symm)
      exact ⟨by rw [hother],by rw [hother]⟩
    · refine run_spared _ ?_
      by_cases hp : ∃ c, o = .poll c
      · obtain ⟨c,rfl⟩ := hp
        rw [operations,List.forall_mem_singleton]
        simp only [pollOperation, Operation.spares, Operation.poll, Operation.mayCount]
        rw [if_neg (not_and_or.mpr (hpoll c rfl))]
        rfl
      · exact fun op hop => lossless_spares hi (operations_lossless (fun c hc => hp ⟨c,hc⟩)
          (fun frames hf => hframes ⟨frames,hf⟩) op hop)

theorem lossCount_push {T : Type} (q : DispatchQueue T) (value : T) (issue : Issue) :
    lossCount q issue ≤ lossCount (q.push value) issue := by
  have hdrop : lossCount q issue ≤ lossCount q.dropOldest issue := by
    unfold DispatchQueue.dropOldest
    split
    · cases issue <;> simp [lossCount]
    · exact Nat.le_refl _
  have henqueue : ∀ r : DispatchQueue T, lossCount (r.enqueue value) issue = lossCount r issue :=
    fun r => by cases issue <;> rfl
  unfold DispatchQueue.push
  split
  · exact hdrop.trans (henqueue _).ge
  · exact Nat.le_refl _

theorem lossCount_step {T : Type} (d : Dispatching T) (i : QueueStep T) (issue : Issue) :
    lossCount d.queue issue ≤ lossCount (d.step i).queue issue := by
  have hsame : ∀ q : DispatchQueue T, q.dropped = d.queue.dropped →
      q.callbackErrors = d.queue.callbackErrors → lossCount d.queue issue ≤ lossCount q issue := by
    intro q hd he
    cases issue <;> simp [lossCount, hd, he]
  cases i with
  | push value =>
    change _ ≤ lossCount (d.push value).queue issue
    unfold Dispatching.push
    split
    · exact lossCount_push d.queue value issue
    · exact Nat.le_refl _
  | pop =>
    change _ ≤ lossCount d.pop.queue issue
    rcases dispatching_pop_cases d with ⟨value,rest,_,_,_,hd⟩ | hd
    · rw [hd]
      exact hsame _ rfl rfl
    · rw [hd]
  | handled threw =>
    change _ ≤ lossCount (d.handle threw).queue issue
    unfold Dispatching.handle
    split
    · cases issue <;> simp [lossCount, DispatchQueue.handled]
    · exact Nat.le_refl _
  | leave =>
    change _ ≤ lossCount d.leaveLoop.queue issue
    unfold Dispatching.leaveLoop
    split <;> exact Nat.le_refl _
  | stop =>
    change _ ≤ lossCount d.stop.queue issue
    unfold Dispatching.stop
    split
    · exact hsame _ rfl rfl
    · exact Nat.le_refl _
  | clear =>
    change _ ≤ lossCount d.clear.queue issue
    unfold Dispatching.clear
    split
    · exact hsame _ rfl rfl
    · exact Nat.le_refl _
  | join =>
    change _ ≤ lossCount d.join.queue issue
    unfold Dispatching.join
    split <;> exact Nat.le_refl _

theorem lossCount_idle {T : Type} {d : Dispatching T} (h : d.queue.Idle) (i : QueueStep T)
    (issue : Issue) :
    (d.step i).queue.Idle ∧ lossCount (d.step i).queue issue = lossCount d.queue issue := by
  have hcleared : lossCount d.queue.clear issue = lossCount d.queue issue := by
    cases issue <;> rfl
  obtain ⟨hrunning,hheld⟩ := h
  cases i with
  | clear =>
    change d.clear.queue.Idle ∧ lossCount d.clear.queue issue = _
    unfold Dispatching.clear
    split
    · exact ⟨⟨hrunning,hheld⟩,hcleared⟩
    · exact ⟨⟨hrunning,hheld⟩,rfl⟩
  | leave =>
    change d.leaveLoop.queue.Idle ∧ lossCount d.leaveLoop.queue issue = _
    unfold Dispatching.leaveLoop
    split <;> exact ⟨⟨hrunning,hheld⟩,rfl⟩
  | join =>
    change d.join.queue.Idle ∧ lossCount d.join.queue issue = _
    unfold Dispatching.join
    split <;> exact ⟨⟨hrunning,hheld⟩,rfl⟩
  | _ =>
    simp only [Dispatching.step, Dispatching.push, Dispatching.pop, Dispatching.handle,
      Dispatching.stop, hrunning, hheld]
    simp [DispatchQueue.Idle, hrunning, hheld]

/-- So much of a dispatcher's losses has been told, and no more can be counted again. -/
def Told (s : LossWatch Value) (stream : Stream) (issue : Issue) (told : ℕ) : Prop :=
  (s.driver.health.states stream).total issue = UInt64.ofNat told ∧
    ((s.driver.health.states stream).counters issue = some (UInt64.ofNat told) ∨
      (s.driver.health.states stream).counters issue = none ∧ told = 0)

def Booked (s : LossWatch Value) (stream : Stream) (issue : Issue) : Prop :=
  ∃ told ≤ s.lost stream issue, Told s stream issue told

theorem told_same {t : LossWatch Value} {told : ℕ} (h : Told s stream issue told)
    (hsame : SameIssue stream issue s.driver.health t.driver.health) :
    Told t stream issue told := ⟨hsame.total.trans h.1,hsame.counter ▸ h.2⟩

/-- A poll tells what has been lost since the poll before. -/
theorem told_poll {c : LossCounter} (h : Booked s c.stream c.issue)
    (hbound : s.lost c.stream c.issue < 2 ^ 64) :
    Told (step w s (.poll c)) c.stream c.issue (s.lost c.stream c.issue) := by
  obtain ⟨told,hle,htotal,hprevious⟩ := h
  have hhealth : (step w s (.poll c)).driver.health =
      s.driver.health.counter c.stream c.issue (UInt64.ofNat (s.lost c.stream c.issue)) true :=
    check_health _
  have hnat : ∀ n ≤ s.lost c.stream c.issue, (UInt64.ofNat n).toNat = n := fun n hn =>
    UInt64.toNat_ofNat_of_lt' (hn.trans_lt hbound)
  refine ⟨?_,.inl (by rw [hhealth,counters_counter])⟩
  rw [hhealth,total_counter,htotal]
  rcases hprevious with hprevious | ⟨hprevious,rfl⟩
  · rw [hprevious]
    simp only [gained, hnat told hle, hnat _ le_rfl, add_zero]
    rw [← UInt64.ofNat_add,Nat.add_sub_cancel' hle]
  · rw [hprevious]
    simp only [gained, hnat _ le_rfl, if_true, add_zero]
    exact zero_add _

/-- A dispatcher takes back none of its losses. -/
theorem step_lost (o : Occasion Value) : s.lost stream issue ≤ (step w s o).lost stream issue := by
  cases o with
  | queue lane i =>
    change lossCount _ _ ≤ lossCount (Function.update s.queues lane _ stream).queue issue
    by_cases hl : stream = lane
    · subst hl
      rw [Function.update_self]
      exact lossCount_step _ i issue
    · rw [Function.update_of_ne hl]
  | _ => exact Nat.le_refl _

theorem run_lost (occasions : List (Occasion Value)) :
    s.lost stream issue ≤ (run (step w) s occasions).lost stream issue := by
  induction occasions generalizing s with
  | nil => exact Nat.le_refl _
  | cons o occasions ih => exact (step_lost o).trans ih

theorem step_booked {o : Occasion Value} (hi : issue ∈ lossIssues) (hs : stream ≠ .transport)
    (hbound : s.lost stream issue < 2 ^ 64) (h : Booked s stream issue) :
    Booked (step w s o) stream issue := by
  by_cases hpoll : ∃ c, o = .poll c ∧ c.stream = stream ∧ c.issue = issue
  · obtain ⟨c,rfl,rfl,rfl⟩ := hpoll
    exact ⟨_,step_lost _,told_poll h hbound⟩
  · obtain ⟨told,hle,htold⟩ := h
    refine ⟨told,hle.trans (step_lost o),told_same htold (step_spared hi hs fun c hc => ?_)⟩
    exact not_and_or.mp fun he => hpoll ⟨c,hc,he⟩

theorem run_booked (hi : issue ∈ lossIssues) (hs : stream ≠ .transport)
    (occasions : List (Occasion Value))
    (hbound : (run (step w) s occasions).lost stream issue < 2 ^ 64)
    (h : Booked s stream issue) : Booked (run (step w) s occasions) stream issue := by
  induction occasions generalizing s with
  | nil => exact h
  | cons o occasions ih =>
    have hfirst : s.lost stream issue ≤ (run (step w) (step w s o) occasions).lost stream issue :=
      (step_lost o).trans (run_lost occasions)
    exact ih hbound (step_booked hi hs (hfirst.trans_lt hbound) h)

/-- Nothing tells of a counter but its own polls. -/
theorem run_told {told : ℕ} {c : LossCounter} (hs : c.stream ≠ .transport)
    (occasions : List (Occasion Value)) (hpoll : .poll c ∉ occasions)
    (h : Told s c.stream c.issue told) :
    Told (run (step w) s occasions) c.stream c.issue told := by
  induction occasions generalizing s with
  | nil => exact h
  | cons o occasions ih =>
    obtain ⟨ho,hrest⟩ := not_or.mp fun he => hpoll (List.mem_cons.mpr he)
    refine ih hrest (told_same h (step_spared c.loss hs fun other hother => not_and_or.mp ?_))
    rintro ⟨hstream,hissue⟩
    obtain ⟨_,_,_,_⟩ := c
    obtain ⟨_,_,_,_⟩ := other
    obtain rfl := hstream
    obtain rfl := hissue
    exact ho hother.symm

theorem run_printer_balanced (h : s.printer.Balanced) (occasions : List (Occasion Value)) :
    (run (step w) s occasions).printer.Balanced := by
  induction occasions generalizing s with
  | nil => exact h
  | cons o occasions ih => exact ih (step_balanced h o)

/-- A final report leaves nothing pending. -/
theorem pending_final (now : UInt64) :
    ((step w s (.print now true)).driver.health.states stream).pending issue = 0 := by
  rw [step_health (o := .print now true) (fun next h => by cases h),operations,printReport,
    run_append]
  exact pending_forced now issue

theorem run_queues (occasions : List (Occasion Value)) (h : ∀ o ∈ occasions, o.own = false) :
    (run (step w) s occasions).printer = s.printer := by
  induction occasions generalizing s with
  | nil => rfl
  | cons o occasions ih =>
    obtain ⟨ho,hrest⟩ := List.forall_mem_cons.mp h
    rw [run_cons,ih hrest]
    cases o with
    | queue stream i => rfl
    | _ => cases ho

theorem step_idle (h : (s.queues stream).queue.Idle) (o : Occasion Value) :
    ((step w s o).queues stream).queue.Idle ∧
      (step w s o).lost stream issue = s.lost stream issue := by
  cases o with
  | queue lane i =>
    unfold lost
    change (Function.update s.queues lane _ stream).queue.Idle ∧
      lossCount (Function.update s.queues lane _ stream).queue issue = _
    by_cases hl : stream = lane
    · subst hl
      rw [Function.update_self]
      exact lossCount_idle h i issue
    · rw [Function.update_of_ne hl]
      exact ⟨h,rfl⟩
  | _ => exact ⟨h,rfl⟩

theorem run_idle (h : (s.queues stream).queue.Idle) (occasions : List (Occasion Value)) :
    (run (step w) s occasions).lost stream issue = s.lost stream issue := by
  induction occasions generalizing s with
  | nil => rfl
  | cons o occasions ih =>
    have hstep : _ ∧ (step w s o).lost stream issue = _ := step_idle h o
    exact (ih hstep.1).trans hstep.2

/-! ## The course of a report -/

theorem poll_mem_reportHealth (c : LossCounter) (now : UInt64) (final : Bool) :
    (.poll c : Occasion Value) ∈ reportHealth now final := by
  refine List.mem_append_left _ (List.mem_flatMap.mpr ⟨⟨c.stream,c.reported⟩,List.mem_attach _ _,?_⟩)
  obtain ⟨stream,issue,_,hi⟩ := c
  simp only [lossIssues, List.mem_cons, List.not_mem_nil, or_false] at hi
  rcases hi with rfl | rfl <;> simp [checkDispatch]

theorem reporting_reads {now : UInt64} {final : Bool} {report : List (Occasion Value)}
    (h : Reporting now final report) (c : LossCounter) :
    ∃ early late, report = early ++ .poll c :: late ∧ .poll c ∉ late := by
  have hmem : .poll c ∈ report.reverse := by
    refine List.mem_reverse.mpr (List.mem_filter.mp (?_ : _ ∈ report.filter (·.own))).1
    rw [h]
    exact poll_mem_reportHealth c now final
  obtain ⟨late,early,hreverse,hlate⟩ := List.eq_append_cons_of_mem hmem
  refine ⟨early.reverse,late.reverse,?_,fun hl => hlate (List.mem_reverse.mp hl)⟩
  simpa using congrArg List.reverse hreverse

theorem reporting_prints {now : UInt64} {final : Bool} {report : List (Occasion Value)}
    (h : Reporting now final report) : ∃ early late, report = early ++ .print now final :: late ∧
      ∀ o ∈ late, o.own = false := by
  obtain ⟨first,last,rfl,_,hlast⟩ := List.filter_eq_append_iff.mp h
  obtain ⟨early,late,rfl,_,_,hlate⟩ := List.filter_eq_cons_iff.mp hlast
  refine ⟨first ++ early,late,(List.append_assoc ..).symm,fun o ho => ?_⟩
  exact Bool.eq_false_iff.mpr (List.filter_eq_nil_iff.mp hlate o ho)

end

/-! ## Whole runs -/

section
variable {w : World} {config : DriverConfig} {queues : ∀ stream, Dispatching (Value stream)}
  {navigation : Bool} {now : UInt64} {stream : Stream} {issue : Issue}

variable (w config queues navigation now) in
/-- The counters of a run that has just begun. -/
theorem start_health : ∃ ops : List Operation,
    (∀ op ∈ ops, sensed op = true ∨ ∃ lane now, op = .reset lane now 0 (5 * kSecond)) ∧
    (start w config queues navigation now).printer = ⟨run SensorDataHealth.apply {} ops,[]⟩ := by
  obtain ⟨ops,hops,hhealth⟩ := sensing_startRun w config
  refine ⟨ops ++ if navigation then [.gnssTiming, .gnssReception, .gnssObservations,
    .rtkStatus].map fun stream => .reset stream now 0 (5 * kSecond) else [],?_,?_⟩
  · refine List.forall_mem_append.mpr ⟨fun op hop => .inl (hops op hop),?_⟩
    split <;> simp
  · rw [run_append,← hhealth,start,check_printer,printer_silent]
    · rfl
    · split <;> simp [Operation.stream]

theorem start_told (hi : issue ∈ lossIssues) :
    Told (start w config queues navigation now) stream issue 0 := by
  obtain ⟨ops,hops,hprinter⟩ := start_health w config queues navigation now
  have hsame : SameIssue stream issue {} (run SensorDataHealth.apply {} ops) := run_spared ops
    fun op hop => by
    refine lossless_spares hi ?_
    rcases hops op hop with h | ⟨lane,now,rfl⟩
    · exact sensed_lossless h
    · rfl
  have hhealth : (start w config queues navigation now).driver.health =
      run SensorDataHealth.apply {} ops := congrArg Printer.health hprinter
  rw [Told,hhealth,hsame.total,hsame.counter]
  exact ⟨rfl,.inr ⟨rfl,rfl⟩⟩

theorem start_balanced : (start w config queues navigation now).printer.Balanced := by
  obtain ⟨ops,hops,hprinter⟩ := start_health w config queues navigation now
  have hsilent : ∀ op ∈ ops, op.stream ≠ none := fun op hop => by
    rcases hops op hop with h | ⟨lane,now,rfl⟩
    · obtain ⟨lane,hlane,_⟩ := sensed_stream h
      exact hlane ▸ Option.some_ne_none lane
    · exact Option.some_ne_none lane
  have hrun : (start w config queues navigation now).printer = run Printer.step {} ops :=
    hprinter.trans (printer_silent hsilent {}).symm
  exact hrun ▸ run_balanced ops

/-- However frames, commands, polls and the dispatchers' workers interleave: a report has every
loss of every dispatcher counted once, up to the moment at which it reads that counter, and
thus all of them when the dispatchers have been stopped; and after the last report of a run the
lines printed in it tell of just what it has counted. -/
theorem losses_reported (w : World) (config : DriverConfig)
    (queues : ∀ stream, Dispatching (Value stream)) (navigation : Bool) (begun now : UInt64)
    (final : Bool) (before report : List (Occasion Value)) (hreport : Reporting now final report) :
    let s := run (step w) (start w config queues navigation begun) before
    let t := run (step w) s report
    ∀ c : LossCounter, t.lost c.stream c.issue < 2 ^ 64 →
      let total := (t.driver.health.states c.stream).total c.issue
      (∃ early late, report = early ++ .poll c :: late ∧
        total = UInt64.ofNat ((run (step w) s early).lost c.stream c.issue)) ∧
      ((s.queues c.stream).queue.Idle → total = UInt64.ofNat (t.lost c.stream c.issue)) ∧
      (final = true → printedSum t.lines c.stream c.issue = total) := by
  intro s t c hbound total
  have hs : c.stream ≠ .transport := fun he => absurd (he ▸ c.reported) (by decide)
  obtain ⟨early,late,hsplit,hlate⟩ := reporting_reads hreport c
  have hrun : t = run (step w) (step w (run (step w) s early) (.poll c)) late := by
    rw [← run_cons,← run_append,← hsplit]
  have hread : (run (step w) s early).lost c.stream c.issue ≤ t.lost c.stream c.issue :=
    hrun ▸ (step_lost _).trans (run_lost late)
  have hbooked : Booked (run (step w) s early) c.stream c.issue := by
    rw [show run (step w) s early = run (step w) (start w config queues navigation begun)
      (before ++ early) from (run_append ..).symm]
    refine run_booked c.loss hs _ ?_ ⟨0,Nat.zero_le _,start_told c.loss⟩
    rw [run_append]
    exact hread.trans_lt hbound
  have htotal : total = UInt64.ofNat ((run (step w) s early).lost c.stream c.issue) := by
    have htold : Told (step w (run (step w) s early) (.poll c)) c.stream c.issue _ :=
      told_poll hbooked (hread.trans_lt hbound)
    exact (hrun ▸ run_told (w := w) hs late hlate htold).1
  refine ⟨⟨early,late,hsplit,htotal⟩,fun hidle => ?_,fun hfinal => ?_⟩
  · rw [htotal,run_idle hidle]
    exact congrArg UInt64.ofNat (run_idle (w := w) hidle report).symm
  · have hpending : (t.driver.health.states c.stream).pending c.issue = 0 := by
      obtain ⟨first,last,hprint,hlast⟩ := reporting_prints hreport
      have hafter : t = run (step w) (step w (run (step w) s first) (.print now final)) last := by
        rw [← run_cons,← run_append,← hprint]
      have hprinter : t.printer = (step w (run (step w) s first) (.print now final)).printer :=
        hafter ▸ run_queues last hlast
      rw [show t.driver.health = t.printer.health from rfl,hprinter,hfinal]
      exact pending_final (w := w) now
    have hbalanced : t.printer.Balanced :=
      run_printer_balanced (run_printer_balanced start_balanced before) report
    have hline : total = printedSum t.lines c.stream c.issue + _ := hbalanced c.stream c.issue
    rw [hline,show (t.printer.health.states c.stream).pending c.issue = 0 from hpending,add_zero]

def rawDrops : LossCounter := ⟨.rawDispatch,.queueDrop,by decide,by decide⟩

/-- Of four raw chunks one is lost before the report, one before it reads the counter and one
after. -/
def crowdedReport : List (Occasion fun _ => Unit) :=
  .queue .rawDispatch (.push ()) :: reportHealth 2 true ++ [.queue .rawDispatch (.push ())]

theorem losses_reported_early :
    let t := run (step {}) (run (step {}) (start {} {} (fun _ => dispatching Unit 1) false 0)
      [.queue .rawDispatch (.push ()), .queue .rawDispatch (.push ())]) crowdedReport
    printedSum t.lines .rawDispatch .queueDrop = 2 ∧ t.lost .rawDispatch .queueDrop = 3 :=
  ⟨((losses_reported {} {} (fun _ => dispatching Unit 1) false 0 2 true _ crowdedReport rfl
    rawDrops (by decide +kernel)).2.2 rfl).trans (by decide +kernel),by decide +kernel⟩

end
end LossWatch
end PrismRosAdapter.Driver
