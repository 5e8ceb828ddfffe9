import PrismRosAdapter.Dispatch.RawPolls
import PrismRosAdapter.Health.Checks

/-! # What the health counters hold of the raw polls

The counters are fed from the answers to the queries, the chunks are filled from them on
their own. Both tell the same losses.
-/
namespace PrismRosAdapter.Dispatch
open Runs Health SensorDataHealth

/-- The stream that a channel's losses are counted for. -/
def rawStream (channel : UInt8) : Health.Stream :=
  if channel = 2 then .corsRtcm else if channel = 1 then .gnssRaw else .rawDispatch

def flagged (flags bit : UInt32) : UInt64 := if flags &&& bit ≠ 0 then 1 else 0

def flagOperation (stream : Health.Stream) (flags bit : UInt32) (issue : Issue) :
    List Operation := if flags &&& bit ≠ 0 then [.add stream issue 1] else []

def rawRecordOperations (observed touched : UInt64) (r : GnssRawRecord) : List Operation :=
  [.observe .rawDispatch observed 0 (some r.sequence) 64 false,
    .touch (rawStream r.channel) touched] ++
  flagOperation (rawStream r.channel) r.flags 1 .sourceGap ++
  flagOperation (rawStream r.channel) r.flags 2 .sessionChanged ++
  flagOperation (rawStream r.channel) r.flags 4 .uartError ++
  [.add (rawStream r.channel) .lostBytes r.lostBytes]

/-- Two readings of the clock a record. -/
def rawRecordsOperations (clock : ℕ → UInt64) : ℕ → List GnssRawRecord → List Operation
  | _, [] => []
  | tick, r :: rest => rawRecordOperations (clock tick) (clock (tick + 1)) r ++
      rawRecordsOperations clock (tick + 2) rest

def rawBatchOperations (clock : ℕ → UInt64) (tick : ℕ) (b : GnssRawBatch) : List Operation :=
  [.session .rawDispatch b.session, .session .gnssRaw b.session, .session .corsRtcm b.session] ++
    (if b.gap then [.add .rawDispatch .cacheGap 1] else []) ++
    rawRecordsOperations clock tick b.records

section
variable {source : RawSource} {s : RawPolls} {stream : Health.Stream} {issue : Issue}

theorem stream_rawBatchOperations {clock : ℕ → UInt64} {tick : ℕ} {b : GnssRawBatch}
    {op : Operation} (hop : op ∈ rawBatchOperations clock tick b) :
    ∃ channel, op.stream = some (rawStream channel) := by
  have hflag : ∀ {channel flags bit kind}, op ∈ flagOperation (rawStream channel) flags bit kind →
      ∃ channel, op.stream = some (rawStream channel) := by
    intro channel flags bit kind hop
    unfold flagOperation at hop
    split at hop
    · rw [List.mem_singleton.mp hop]
      exact ⟨channel,rfl⟩
    · cases hop
  have hrecords : ∀ (records : List GnssRawRecord) tick,
      op ∈ rawRecordsOperations clock tick records →
      ∃ channel, op.stream = some (rawStream channel) := by
    intro records
    induction records with
    | nil => exact fun _ hop => absurd hop List.not_mem_nil
    | cons r rest ih =>
      intro tick hop
      rcases List.mem_append.mp hop with hop | hop
      · simp only [rawRecordOperations, List.mem_append, List.mem_cons, List.not_mem_nil,
          or_false] at hop
        rcases hop with ((((rfl | rfl) | hop) | hop) | hop) | rfl
        · exact ⟨0,rfl⟩
        · exact ⟨r.channel,rfl⟩
        · exact hflag hop
        · exact hflag hop
        · exact hflag hop
        · exact ⟨r.channel,rfl⟩
      · exact ih _ hop
  rcases List.mem_append.mp hop with hop | hop
  · cases hgap : b.gap <;>
      simp only [hgap, List.mem_append, List.mem_cons, List.not_mem_nil, or_false, if_true,
        Bool.false_eq_true, if_false] at hop
    · rcases hop with rfl | rfl | rfl
      · exact ⟨0,rfl⟩
      · exact ⟨1,rfl⟩
      · exact ⟨2,rfl⟩
    · rcases hop with (rfl | rfl | rfl) | rfl
      · exact ⟨0,rfl⟩
      · exact ⟨1,rfl⟩
      · exact ⟨2,rfl⟩
      · exact ⟨0,rfl⟩
  · exact hrecords _ _ hop

theorem run_flagOperation (h : SensorDataHealth) (lane : Health.Stream) (flags bit : UInt32)
    (kind : Issue) : run SensorDataHealth.apply h (flagOperation lane flags bit kind) =
      if flags &&& bit ≠ 0 then h.add lane kind 1 else h := by
  unfold flagOperation
  split <;> rfl

theorem checkRawRecord_eq (s : RawPolls) (r : GnssRawRecord) : s.checkRawRecord source r =
    { s with
      health := run SensorDataHealth.apply s.health
        (rawRecordOperations (source.clock s.ticks) (source.clock (s.ticks + 1)) r)
      ticks := s.ticks + 2 } := by
  unfold rawRecordOperations
  simp only [run_append, run_flagOperation, run_cons, run_nil]
  rfl

theorem foldl_checkRawRecord_eq (records : List GnssRawRecord) (s : RawPolls) :
    records.foldl (RawPolls.checkRawRecord source) s =
      { s with
        health := run SensorDataHealth.apply s.health
          (rawRecordsOperations source.clock s.ticks records)
        ticks := s.ticks + 2 * records.length } := by
  induction records generalizing s with
  | nil => rfl
  | cons r rest ih =>
    have hticks : s.ticks + 2 + 2 * rest.length = s.ticks + 2 * (r :: rest).length := by
      rw [List.length_cons]
      omega
    rw [List.foldl_cons,ih,checkRawRecord_eq,rawRecordsOperations,run_append]
    simp only [hticks]

/-- A page is a sequence of operations on the counters. -/
theorem checkRawBatch_eq (s : RawPolls) (b : GnssRawBatch) : s.checkRawBatch source b =
    { s with
      health := run SensorDataHealth.apply s.health (rawBatchOperations source.clock s.ticks b)
      ticks := s.ticks + 2 * b.records.length } := by
  have hgap : ∀ h : SensorDataHealth, run SensorDataHealth.apply h
      (if b.gap then [.add .rawDispatch .cacheGap 1] else []) =
        if b.gap then h.add .rawDispatch .cacheGap 1 else h := fun h => by
    split <;> rfl
  rw [rawBatchOperations,run_append,run_append,hgap]
  exact foldl_checkRawRecord_eq b.records _

/-! ## The losses of an answer and of a chunk -/

/-- The issues that only losses of this kind are counted for. -/
def rawIssues : List Issue := [.lostBytes, .sourceGap, .uartError, .cacheGap, .queryError]

/-- What a chunk tells its reader. -/
def GnssRawState.announces (c : GnssRawState) (stream : Health.Stream) (issue : Issue) : UInt64 :=
  if stream = rawStream c.channel then
    match issue with
    | .lostBytes => c.lostBytes
    | .sourceGap => flagged c.flags 1
    | .uartError => flagged c.flags 4
    | .cacheGap => if c.cacheGap then 1 else 0
    | .queryError => if c.queryFailed then 1 else 0
    | _ => 0
  else 0

def GnssRawRecord.counts (r : GnssRawRecord) (stream : Health.Stream) (issue : Issue) : UInt64 :=
  if stream = rawStream r.channel then
    match issue with
    | .lostBytes => r.lostBytes
    | .sourceGap => flagged r.flags 1
    | .uartError => flagged r.flags 4
    | _ => 0
  else 0

def RawQuery.counts (q : RawQuery) (stream : Health.Stream) (issue : Issue) : UInt64 :=
  match q.answer with
  | .ok b => (if b.gap ∧ stream = .rawDispatch ∧ issue = .cacheGap then 1 else 0) +
      (b.records.map (·.counts stream issue)).sum
  | .error _ => if stream = .rawDispatch ∧ issue = .queryError then 1 else 0

theorem amount_flagOperation (lane : Health.Stream) (flags bit : UInt32) (kind : Issue) :
    ((flagOperation lane flags bit kind).map (·.amount stream issue)).sum =
      if lane = stream ∧ issue = kind then flagged flags bit else 0 := by
  unfold flagOperation flagged
  split_ifs <;> simp_all [Operation.amount]

theorem amount_rawRecordOperations (hi : issue ∈ rawIssues) (observed touched : UInt64)
    (r : GnssRawRecord) :
    ((rawRecordOperations observed touched r).map (·.amount stream issue)).sum =
      r.counts stream issue := by
  unfold rawRecordOperations GnssRawRecord.counts
  simp only [List.map_append, List.sum_append, amount_flagOperation]
  by_cases hs : stream = rawStream r.channel
  · subst hs
    simp only [rawIssues, List.mem_cons, List.not_mem_nil, or_false] at hi
    rcases hi with rfl | rfl | rfl | rfl | rfl <;> simp [Operation.amount]
  · have hne : ¬ rawStream r.channel = stream := fun he => hs he.symm
    simp [Operation.amount, hs, hne]

theorem amount_rawRecordsOperations (hi : issue ∈ rawIssues) (clock : ℕ → UInt64) (tick : ℕ)
    (records : List GnssRawRecord) :
    ((rawRecordsOperations clock tick records).map (·.amount stream issue)).sum =
      (records.map (·.counts stream issue)).sum := by
  induction records generalizing tick with
  | nil => rfl
  | cons r rest ih =>
    rw [rawRecordsOperations,List.map_append,List.sum_append,ih,amount_rawRecordOperations hi,
      List.map_cons,List.sum_cons]

theorem amount_rawBatchOperations (hi : issue ∈ rawIssues) (clock : ℕ → UInt64) (tick : ℕ)
    (b : GnssRawBatch) (cursor session : UInt64) :
    ((rawBatchOperations clock tick b).map (·.amount stream issue)).sum =
      RawQuery.counts ⟨cursor,session,.ok b⟩ stream issue := by
  unfold rawBatchOperations RawQuery.counts
  rw [List.map_append,List.map_append,List.sum_append,List.sum_append,
    amount_rawRecordsOperations hi]
  congr 1
  cases hb : b.gap
  · simp [Operation.amount]
  · simp [Operation.amount, eq_comm]

theorem plain_flagOperation (lane : Health.Stream) (flags bit : UInt32) (kind : Issue) :
    ∀ op ∈ flagOperation lane flags bit kind, op.plain stream issue = true := by
  unfold flagOperation
  split <;> simp [Operation.plain, Operation.poll]

theorem plain_rawRecordOperations (hi : issue ∈ rawIssues) (observed touched : UInt64)
    (r : GnssRawRecord) :
    ∀ op ∈ rawRecordOperations observed touched r, op.plain stream issue = true := by
  have hobserved : issue.observed = false := by
    simp only [rawIssues, List.mem_cons, List.not_mem_nil, or_false] at hi
    rcases hi with rfl | rfl | rfl | rfl | rfl <;> rfl
  unfold rawRecordOperations
  simp only [List.forall_mem_append]
  refine ⟨⟨⟨⟨?_,?_⟩,?_⟩,?_⟩,?_⟩
  · simp [Operation.plain, Operation.poll, Operation.mayCount, hobserved]
  · exact plain_flagOperation _ _ _ _
  · exact plain_flagOperation _ _ _ _
  · exact plain_flagOperation _ _ _ _
  · simp [Operation.plain, Operation.poll]

theorem plain_rawBatchOperations (hi : issue ∈ rawIssues) (clock : ℕ → UInt64) (tick : ℕ)
    (b : GnssRawBatch) :
    ∀ op ∈ rawBatchOperations clock tick b, op.plain stream issue = true := by
  have hrecords : ∀ (records : List GnssRawRecord) tick,
      ∀ op ∈ rawRecordsOperations clock tick records, op.plain stream issue = true := by
    intro records
    induction records with
    | nil => exact fun _ => List.forall_mem_nil _
    | cons r rest ih =>
      exact fun tick => List.forall_mem_append.mpr ⟨plain_rawRecordOperations hi _ _ r,ih _⟩
  have hsession : issue ≠ .sessionChanged := by
    rintro rfl
    simp [rawIssues] at hi
  unfold rawBatchOperations
  simp only [List.forall_mem_append]
  refine ⟨⟨?_,?_⟩,hrecords b.records tick⟩
  · simp [Operation.plain, Operation.poll, Operation.mayCount, hsession]
  · split <;> simp [Operation.plain, Operation.poll]

/-- What an answer delivers tells the losses of the answer. -/
theorem announces_delivers (hi : issue ∈ rawIssues) {q : RawQuery} {chunks : List GnssRawState}
    (h : Delivers q chunks) :
    (chunks.map (·.announces stream issue)).sum = q.counts stream issue := by
  have hrecords : ∀ {b : GnssRawBatch} {records : List GnssRawRecord} {chunks},
      List.Forall₂ (IsRecord b) records chunks →
        (chunks.map (·.announces stream issue)).sum = (records.map (·.counts stream issue)).sum := by
    intro b records chunks hall
    induction hall with
    | nil => rfl
    | cons hr _ ih =>
      rw [List.map_cons,List.sum_cons,List.map_cons,List.sum_cons,ih]
      congr 1
      unfold GnssRawState.announces GnssRawRecord.counts
      rw [hr.channel,hr.flags,hr.lostBytes,hr.cacheGap,hr.queryFailed]
      split
      · simp only [rawIssues, List.mem_cons, List.not_mem_nil, or_false] at hi
        rcases hi with rfl | rfl | rfl | rfl | rfl <;> rfl
      · rfl
  have hempty : ∀ {c : GnssRawState}, Empty c → c.announces stream issue =
      if stream = .rawDispatch then
        match issue with
        | .cacheGap => if c.cacheGap then 1 else 0
        | .queryError => if c.queryFailed then 1 else 0
        | _ => 0
      else 0 := by
    intro c hc
    unfold GnssRawState.announces
    rw [hc.channel,hc.flags,hc.lostBytes]
    simp only [rawIssues, List.mem_cons, List.not_mem_nil, or_false] at hi
    rcases hi with rfl | rfl | rfl | rfl | rfl <;> rfl
  cases h with
  | gap hgap hmarker hall =>
    rw [List.map_cons,List.sum_cons,hrecords hall,hempty hmarker.empty,hmarker.cacheGap,
      hmarker.queryFailed,RawQuery.counts]
    dsimp only
    congr 1
    simp only [rawIssues, List.mem_cons, List.not_mem_nil, or_false] at hi
    rcases hi with rfl | rfl | rfl | rfl | rfl <;> simp [hgap]
  | page hgap hall =>
    rw [hrecords hall,RawQuery.counts]
    simp [hgap]
  | failed hmarker =>
    rw [List.map_cons,List.map_nil,List.sum_singleton,hempty hmarker.empty,hmarker.cacheGap,
      hmarker.queryFailed,RawQuery.counts]
    simp only [rawIssues, List.mem_cons, List.not_mem_nil, or_false] at hi
    rcases hi with rfl | rfl | rfl | rfl | rfl <;> simp

/-! ## Polls -/

/-- The totals are those of the answers. -/
def Tallies (queries : List RawQuery) (h : SensorDataHealth) : Prop :=
  ∀ stream, ∀ issue ∈ rawIssues,
    (h.states stream).total issue = (queries.map (·.counts stream issue)).sum

theorem Tallies.snoc {queries : List RawQuery} {h g : SensorDataHealth} (ht : Tallies queries h)
    {q : RawQuery} (hg : ∀ stream, ∀ issue ∈ rawIssues,
      (g.states stream).total issue = (h.states stream).total issue + q.counts stream issue) :
    Tallies (queries ++ [q]) g := by
  intro stream issue hi
  rw [hg stream issue hi,ht stream issue hi,List.map_append,List.sum_append,List.map_singleton,
    List.sum_singleton]

theorem readPage_health (source : RawSource) (s : RawPolls) (out : GnssRawState)
    (b : GnssRawBatch) : (RawPolls.readPage source (s,out) b).1.health =
      (s.checkRawBatch source b).health ∧
      (RawPolls.readPage source (s,out) b).1.queries = s.queries := by
  have hrecords : ∀ (records : List GnssRawRecord) (p : RawPolls × GnssRawState),
      (records.foldl RawPolls.pushRecord p).1.health = p.1.health ∧
        (records.foldl RawPolls.pushRecord p).1.queries = p.1.queries := by
    intro records
    induction records with
    | nil => exact fun _ => ⟨rfl,rfl⟩
    | cons r rest ih => exact fun p => ih (RawPolls.pushRecord p r)
  have hgap : ∀ (p : RawPolls × GnssRawState) (gap : Bool),
      (RawPolls.pushGap p gap).1.health = p.1.health ∧
        (RawPolls.pushGap p gap).1.queries = p.1.queries := by
    intro p gap
    cases gap <;> exact ⟨rfl,rfl⟩
  unfold RawPolls.readPage
  dsimp only
  rw [(hrecords _ _).1,(hrecords _ _).2,(hgap _ _).1,(hgap _ _).2,checkRawBatch_eq]
  exact ⟨rfl,rfl⟩

variable (source) in
theorem readPage_tallies (out : GnssRawState) {cursor session : UInt64} {b : GnssRawBatch}
    {queries : List RawQuery} (hq : s.queries = queries ++ [⟨cursor,session,.ok b⟩])
    (ht : Tallies queries s.health) :
    Tallies (RawPolls.readPage source (s,out) b).1.queries
      (RawPolls.readPage source (s,out) b).1.health := by
  obtain ⟨hhealth,hqueries⟩ := readPage_health source s out b
  rw [hqueries,hq,hhealth,checkRawBatch_eq]
  refine ht.snoc fun stream issue hi => ?_
  rw [run_plain _ (plain_rawBatchOperations hi _ _ b),amount_rawBatchOperations hi]

variable (source) in
/-- The pages of a poll are counted, but for a query that failed at the end. -/
theorem readPages_tallies (pages : ℕ) {s : RawPolls} (out : GnssRawState)
    (ht : Tallies s.queries s.health) :
    match RawPolls.readPages source pages (s,out) with
    | ((s',_),none) => Tallies s'.queries s'.health
    | ((s',_),some what) => ∃ queries q, s'.queries = queries ++ [q] ∧ q.answer = .error what ∧
        Tallies queries s'.health := by
  induction pages generalizing s out with
  | zero => exact ht
  | succ pages ih =>
    rw [RawPolls.readPages]
    generalize hanswer : source.gnssRaw s.queries.length s.rawCursor s.rawSession = answer
    cases answer with
    | error what => exact ⟨s.queries,_,rfl,rfl,ht⟩
    | ok b =>
      have hpage := readPage_tallies source out
        (s := { s with queries := s.queries ++ [⟨s.rawCursor,s.rawSession,.ok b⟩] }) rfl ht
      dsimp only
      cases b.more with
      | true => exact ih _ hpage
      | false => exact hpage

/-- When the next poll is due is of no account. -/
theorem Tallies.rescheduled (ht : Tallies s.queries s.health) (nextRaw : UInt64) (ticks : ℕ) :
    Tallies { s with nextRaw := nextRaw, ticks := ticks }.queries
      { s with nextRaw := nextRaw, ticks := ticks }.health := ht

theorem Tallies.failed {queries : List RawQuery} {q : RawQuery} {what : String}
    (ht : Tallies queries s.health) (hq : s.queries = queries ++ [q])
    (ha : q.answer = .error what) (marker : GnssRawState) :
    Tallies { s.push marker with health := s.health.queryError .rawDispatch what }.queries
      { s.push marker with health := s.health.queryError .rawDispatch what }.health := by
  change Tallies s.queries (s.health.queryError .rawDispatch what)
  rw [hq]
  refine ht.snoc fun stream issue _ => ?_
  have hplain : ((s.health.apply (.queryError .rawDispatch what)).states stream).total issue =
      (s.health.states stream).total issue +
        if .rawDispatch = stream ∧ issue = .queryError then 1 else 0 := apply_plain rfl
  rw [show ((s.health.queryError .rawDispatch what).states stream).total issue = _ from hplain,
    RawQuery.counts,ha]
  simp only [eq_comm (a := stream)]

theorem poll_tallies (ht : Tallies s.queries s.health) (hostReceivedNs : UInt64) :
    Tallies (s.poll source hostReceivedNs).queries (s.poll source hostReceivedNs).health := by
  have hread := readPages_tallies source 4 { hostReceivedNs } ht
  unfold RawPolls.poll
  generalize RawPolls.readPages source 4 (s,{ hostReceivedNs }) = result at hread ⊢
  obtain ⟨⟨s',out'⟩,_ | what⟩ := result
  · exact Tallies.rescheduled hread _ _
  · obtain ⟨queries,q,hqueries,hanswer,hq⟩ := hread
    exact Tallies.rescheduled (hq.failed hqueries hanswer _) _ _

theorem turns_tally (enableGnssRaw : Bool) (turns : List (UInt64 × UInt64))
    (ht : Tallies s.queries s.health) :
    Tallies (turns.foldl (RawPolls.turn source enableGnssRaw) s).queries
      (turns.foldl (RawPolls.turn source enableGnssRaw) s).health := by
  induction turns generalizing s with
  | nil => exact ht
  | cons t rest ih =>
    refine ih ?_
    unfold RawPolls.turn
    split
    · exact poll_tallies ht t.2
    · exact ht

end

/-- However the polls go, the health counters hold of every channel just the lost bytes, the
flagged gaps and UART errors, the cache gaps and the failed queries that the pushed chunks
tell of. -/
theorem raw_losses_told (source : RawSource) (start : DispatchQueue GnssRawState)
    (enableGnssRaw : Bool) (turns : List (UInt64 × UInt64)) (stream : Health.Stream)
    (issue : Issue) (hi : issue ∈ rawIssues) :
    let s := turns.foldl (RawPolls.turn source enableGnssRaw) { dispatch := start }
    (s.health.states stream).total issue = (s.pushed.map (·.announces stream issue)).sum := by
  intro s
  have hpolled : Polled start s := polled_run enableGnssRaw turns .initial
  obtain ⟨groups,hgroups,hpushed⟩ := hpolled.delivered
  have htallies : Tallies s.queries s.health := turns_tally enableGnssRaw turns fun _ _ _ => rfl
  rw [htallies stream issue hi,hpushed]
  clear_value s
  clear htallies hpolled hpushed
  generalize s.queries = queries at hgroups
  induction hgroups with
  | nil => rfl
  | cons hq _ ih =>
    rw [List.map_cons,List.sum_cons,List.flatten_cons,List.map_append,List.sum_append,ih,
      announces_delivers hi hq]

/-- The record of each page that came has lost 64 bytes. -/
theorem raw_losses_told_broken :
    (([(0,0),(6000000000,1)].foldl (RawPolls.turn brokenSource true)
      { dispatch := { capacity := 8 } }).health.states .corsRtcm).total .lostBytes = 128 := by
  rw [raw_losses_told brokenSource { capacity := 8 } true _ .corsRtcm .lostBytes (by decide)]
  decide +kernel

end PrismRosAdapter.Dispatch
