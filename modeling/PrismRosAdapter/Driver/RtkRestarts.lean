import PrismRosAdapter.Driver.LossReports

/-! # The RTK module's losses across its restarts

The module counts its losses from its own start. A status with a smaller uptime than the one
before begins new counters: what they say by then is no loss, and what the old ones have
lost stays counted.
-/
namespace PrismRosAdapter.Driver
open Runs Neighbours Health SensorDataHealth Dispatch Navigation

/-- A status that the module itself has given, and lately. -/
def live (rtk : TimeSyncRtkStatusState) : Bool := rtk.linked && rtk.deviceStatusFresh

def staleStatus (rtk : TimeSyncRtkStatusState) : Bool := rtk.linked && !rtk.deviceStatusFresh

/-- What a counter has risen by from one status to the next of the same start. -/
def gain (value : TimeSyncRtkStatusState → UInt64)
    (p : TimeSyncRtkStatusState × TimeSyncRtkStatusState) : ℕ :=
  if p.2.uptimeMs < p.1.uptimeMs then 0 else (value p.2).toNat - (value p.1).toNat

def restart (p : TimeSyncRtkStatusState × TimeSyncRtkStatusState) : Bool :=
  p.2.uptimeMs < p.1.uptimeMs

section
variable {Value : Stream → Type}

def Occasion.rtkStatus : Occasion Value → Option TimeSyncRtkStatusState
  | .rtk _ status => some status
  | _ => none

def Occasion.rtkFailed : Occasion Value → Bool
  | .queryFailed stream _ => stream = .rtkStatus
  | _ => false

end

/-- What a record tells of the statuses polled so far and of the polls that have failed. -/
structure RtkBook (statuses : List TimeSyncRtkStatusState) (failed : ℕ) (last : Option UInt32)
    (r : StreamHealth) : Prop where
  uptime : last = (statuses.filter live).getLast?.map (·.uptimeMs)
  counters : ∀ c ∈ rtkCounters, r.counters c.1 = (statuses.filter live).getLast?.map c.2
  totals : ∀ c ∈ rtkCounters, r.total c.1 =
    UInt64.ofNat ((pairs (statuses.filter live)).map (gain c.2)).sum
  restarts : r.total .sessionChanged =
    UInt64.ofNat ((pairs (statuses.filter live)).countP restart)
  condition : r.conditions .statusStale = (statuses.map staleStatus).getLast?.getD false
  onsets : r.total .statusStale = UInt64.ofNat (onsets (statuses.map staleStatus))
  failures : r.total .queryError = UInt64.ofNat failed

/-- The issues of the module's statuses. -/
def rtkIssues : List Issue :=
  [.lostBytes, .crcError, .upstreamDrop, .sessionChanged, .statusStale, .queryError]

/-- Nothing of it has changed. -/
structure SameRtk (h g : SensorDataHealth) : Prop where
  issues : ∀ issue ∈ rtkIssues, SameIssue .rtkStatus issue h g
  condition : (g.states .rtkStatus).conditions .statusStale =
    (h.states .rtkStatus).conditions .statusStale

/-- An operation that leaves every condition as it is. -/
def steady : Operation → Bool
  | .touch .. | .disable .. | .add .. | .counter .. | .resetCounter .. | .queryError ..
  | .reports .. => true
  | _ => false

/-- An operation that no status and no failed poll of the module makes. -/
def elsewhere (op : Operation) : Bool :=
  decide (op.stream ≠ some .rtkStatus) && decide (op.stream ≠ none) ||
    steady op && rtkIssues.all fun issue => op.spares .rtkStatus issue

section
variable {h g : SensorDataHealth} {stream : Stream} {op : Operation}

theorem SameRtk.refl (h : SensorDataHealth) : SameRtk h h := ⟨fun _ _ => .refl h,rfl⟩

theorem SameRtk.trans {k : SensorDataHealth} (hg : SameRtk h g) (hk : SameRtk g k) :
    SameRtk h k :=
  ⟨fun issue hi => (hg.issues issue hi).trans (hk.issues issue hi),
    hk.condition.trans hg.condition⟩

theorem SameRtk.book {statuses : List TimeSyncRtkStatusState} {failed : ℕ}
    {last : Option UInt32} (hsame : SameRtk h g)
    (hbook : RtkBook statuses failed last (h.states .rtkStatus)) :
    RtkBook statuses failed last (g.states .rtkStatus) where
  uptime := hbook.uptime
  counters c hc := by
    have hi : c.1 ∈ rtkIssues := by
      revert c
      decide +revert
    rw [(hsame.issues c.1 hi).counter,hbook.counters c hc]
  totals c hc := by
    have hi : c.1 ∈ rtkIssues := by
      revert c
      decide +revert
    rw [(hsame.issues c.1 hi).total,hbook.totals c hc]
  restarts := (hsame.issues _ (by decide)).total.trans hbook.restarts
  condition := hsame.condition.trans hbook.condition
  onsets := (hsame.issues _ (by decide)).total.trans hbook.onsets
  failures := (hsame.issues _ (by decide)).total.trans hbook.failures

theorem conditions_add (counted : Stream) (kind : Issue) (count : UInt64) :
    ((h.add counted kind count).states stream).conditions = (h.states stream).conditions :=
  update_blind (·.conditions) (by intros; rfl) h _ stream

theorem conditions_setCounter (counted : Stream) (kind : Issue) (value : Option UInt64) :
    ((h.setCounter counted kind value).states stream).conditions =
      (h.states stream).conditions :=
  update_blind (·.conditions) (by intros; rfl) h _ stream

theorem apply_conditions (hop : steady op = true) :
    ((h.apply op).states stream).conditions = (h.states stream).conditions := by
  cases op with
  | touch =>
    unfold SensorDataHealth.apply SensorDataHealth.touch
    exact update_blind (·.conditions) (by intros; rfl) h _ stream
  | disable =>
    unfold SensorDataHealth.apply SensorDataHealth.disable
    exact update_blind (·.conditions) (by intros; rfl) h _ stream
  | add => exact conditions_add _ _ _
  | resetCounter => exact conditions_setCounter _ _ _
  | queryError =>
    unfold SensorDataHealth.apply SensorDataHealth.queryError
    exact (update_blind (·.conditions) (by intros; rfl) _ _ stream).trans (conditions_add _ _ _)
  | counter =>
    unfold SensorDataHealth.apply SensorDataHealth.counter
    rw [conditions_setCounter]
    split <;> split <;> first | exact conditions_add _ _ _ | rfl
  | reports now force =>
    change (((h.reports now force).2).states stream).conditions = _
    by_cases hp : (h.states stream).prints now force
    · rw [reported_of_prints hp]
      rfl
    · rw [reported_of_not_prints hp]
  | reset => cases hop
  | session => cases hop
  | condition => cases hop
  | observe => cases hop

theorem run_conditions (ops : List Operation) (hops : ∀ op ∈ ops, steady op = true) :
    ((run SensorDataHealth.apply h ops).states stream).conditions =
      (h.states stream).conditions := by
  induction ops generalizing h with
  | nil => rfl
  | cons op ops ih =>
    obtain ⟨hop,hrest⟩ := List.forall_mem_cons.mp hops
    rw [run_cons,ih hrest,apply_conditions hop]

theorem sameRtk_apply (hop : elsewhere op = true) : SameRtk h (h.apply op) := by
  simp only [elsewhere, Bool.or_eq_true, Bool.and_eq_true, decide_eq_true_eq] at hop
  rcases hop with ⟨hne,hsome⟩ | ⟨hsteady,hspares⟩
  · obtain ⟨lane,hlane⟩ := Option.ne_none_iff_exists'.mp hsome
    have hsame : (h.apply op).states .rtkStatus = h.states .rtkStatus :=
      apply_other hlane (by rintro rfl; exact hne hlane)
    exact ⟨fun issue _ => ⟨by rw [hsame],by rw [hsame]⟩,by rw [hsame]⟩
  · exact ⟨fun issue hi => apply_spared (List.all_eq_true.mp hspares issue hi),
      congrFun (apply_conditions hsteady) _⟩

theorem sameRtk_run (ops : List Operation) (hops : ∀ op ∈ ops, elsewhere op = true) :
    SameRtk h (run SensorDataHealth.apply h ops) := by
  induction ops generalizing h with
  | nil => exact .refl h
  | cons op ops ih =>
    obtain ⟨hop,hrest⟩ := List.forall_mem_cons.mp hops
    exact (sameRtk_apply hop).trans (ih hrest)

theorem elsewhere_of_stream {lane : Stream} (hop : op.stream = some lane)
    (hne : lane ≠ .rtkStatus) : elsewhere op = true := by
  simp [elsewhere, hop, hne]

theorem elsewhere_sensed (hop : sensed op = true) : elsewhere op = true := by
  obtain ⟨lane,hlane,hsampled⟩ := LossWatch.sensed_stream hop
  refine elsewhere_of_stream hlane ?_
  rintro rfl
  exact absurd hsampled (by decide)

theorem elsewhere_counter (lane : Stream) {issue : Issue} (hi : issue ∈ lossIssues)
    (value : UInt64) : elsewhere (.counter lane issue value true) = true := by
  simp only [lossIssues, List.mem_cons, List.not_mem_nil, or_false] at hi
  rcases hi with rfl | rfl <;>
    simp [elsewhere, steady, rtkIssues, Operation.spares, Operation.poll, Operation.mayCount]

theorem elsewhere_rawBatchOperations (clock : ℕ → UInt64) (tick : ℕ) (b : GnssRawBatch) :
    ∀ op ∈ rawBatchOperations clock tick b, elsewhere op = true := by
  intro op hop
  obtain ⟨channel,hlane⟩ := stream_rawBatchOperations hop
  refine elsewhere_of_stream hlane ?_
  unfold rawStream
  split_ifs <;> decide

theorem elsewhere_printReport (now : UInt64) (final : Bool) :
    ∀ op ∈ printReport now final, elsewhere op = true := by
  intro op hop
  rcases mem_printReport hop with ⟨lane,rfl⟩ | rfl <;>
    simp [elsewhere, steady, rtkIssues, Operation.spares, Operation.poll, Operation.mayCount]

theorem operations_elsewhere {Value : Stream → Type} {s : LossWatch Value} {o : Occasion Value}
    (hr : o.rtkStatus = none) (hf : o.rtkFailed = false) :
    ∀ op ∈ s.operations o, elsewhere op = true := by
  cases o with
  | turn next => exact List.forall_mem_nil _
  | queue lane i => exact List.forall_mem_nil _
  | raw clock batch => exact elsewhere_rawBatchOperations clock 0 batch
  | timing now =>
    simp only [LossWatch.operations]
    simp [elsewhere, Operation.stream]
  | receiver clock batch positions =>
    simp only [LossWatch.operations, List.forall_mem_append]
    exact ⟨fun op hop => elsewhere_of_stream (stream_checkObservations hop) (by decide),
      fun op hop => elsewhere_of_stream (stream_checkPosition hop) (by decide),
      fun op hop => elsewhere_of_stream (stream_checkPosition hop) (by decide)⟩
  | reception now reception =>
    exact fun op hop => elsewhere_of_stream (stream_checkReception hop) (by decide)
  | rtk now status => cases hr
  | queryFailed lane detail =>
    have hlane : lane ≠ .rtkStatus := by simpa [Occasion.rtkFailed] using hf
    simp only [LossWatch.operations]
    simp [elsewhere, Operation.stream, hlane]
  | droppedRawFrames frames =>
    simp only [LossWatch.operations]
    simp [elsewhere, Operation.stream]
  | poll c =>
    simp only [LossWatch.operations, List.forall_mem_singleton]
    exact elsewhere_counter c.stream c.loss _
  | print now final => exact elsewhere_printReport now final

end

/-! ## One status -/

section
variable {h : SensorDataHealth} {last : Option UInt32} {now : UInt64}
  {rtk : TimeSyncRtkStatusState}

/-- What every check begins with. -/
def noteStale (now : UInt64) (rtk : TimeSyncRtkStatusState) : List Operation :=
  [.touch .rtkStatus now, .condition .rtkStatus .statusStale (staleStatus rtk)]

theorem noteStale_same {issue : Issue} (hne : issue ≠ .statusStale) :
    SameIssue .rtkStatus issue h (run SensorDataHealth.apply h (noteStale now rtk)) :=
  run_spared _ (by simp [noteStale, Operation.spares, Operation.poll, Operation.mayCount, hne])

theorem noteStale_condition : ((run SensorDataHealth.apply h (noteStale now rtk)).states
    .rtkStatus).conditions .statusStale = staleStatus rtk := by
  change (((h.touch .rtkStatus now).condition .rtkStatus .statusStale
    (staleStatus rtk)).states .rtkStatus).conditions .statusStale = _
  unfold SensorDataHealth.condition setCondition
  rw [update_same]
  simp only [Function.update_self]

theorem noteStale_total : ((run SensorDataHealth.apply h (noteStale now rtk)).states
    .rtkStatus).total .statusStale = (h.states .rtkStatus).total .statusStale + UInt64.ofNat
      (!(h.states .rtkStatus).conditions .statusStale && staleStatus rtk).toNat := by
  have htouch : ((h.apply (.touch .rtkStatus now)).states .rtkStatus).conditions =
      (h.states .rtkStatus).conditions := apply_conditions rfl
  have hsame : ((h.touch .rtkStatus now).states .rtkStatus).total .statusStale =
      (h.states .rtkStatus).total .statusStale := congrFun (sameCounts_touch now).2 _
  change (((h.touch .rtkStatus now).condition .rtkStatus .statusStale
    (staleStatus rtk)).states .rtkStatus).total .statusStale = _
  unfold SensorDataHealth.condition setCondition
  rw [update_same,show ((h.touch .rtkStatus now).states .rtkStatus).conditions = _ from htouch]
  dsimp only
  cases (h.states .rtkStatus).conditions .statusStale <;> cases staleStatus rtk
  · simpa using hsame
  · rw [if_pos ⟨rfl,Bool.false_ne_true⟩,total_add,hsame]
    rfl
  · simpa using hsame
  · simpa using hsame

/-- What the check of a live status goes on with. -/
def pollCounters (last : Option UInt32) (rtk : TimeSyncRtkStatusState) : List Operation :=
  (if restarted last rtk then rebase else []) ++
    rtkCounters.map fun c => .counter .rtkStatus c.1 (c.2 rtk) false

theorem checkRtk_eq : checkRtk last now rtk =
    noteStale now rtk ++ if live rtk then pollCounters last rtk else [] := by
  unfold checkRtk noteStale pollCounters live staleStatus
  cases rtk.linked <;> cases rtk.deviceStatusFresh <;> rfl

theorem pollCounters_steady : ∀ op ∈ pollCounters last rtk, steady op = true := by
  unfold pollCounters rebase rtkCounters
  split <;> simp [steady]

theorem pollCounters_spares {issue : Issue} (hi : issue ∈ [.statusStale, .queryError]) :
    ∀ op ∈ pollCounters last rtk, op.spares .rtkStatus issue = true := by
  simp only [List.mem_cons, List.not_mem_nil, or_false] at hi
  unfold pollCounters rebase rtkCounters
  rcases hi with rfl | rfl <;> split <;>
    simp [Operation.spares, Operation.poll, Operation.mayCount]

theorem pollCounters_restarts : ((run SensorDataHealth.apply h (pollCounters last rtk)).states
    .rtkStatus).total .sessionChanged = (h.states .rtkStatus).total .sessionChanged +
      UInt64.ofNat (restarted last rtk).toNat := by
  rw [run_plain]
  · congr 1
    unfold pollCounters rebase rtkCounters
    cases restarted last rtk <;> simp [Operation.amount]
  · unfold pollCounters rebase rtkCounters
    split <;> simp [Operation.plain, Operation.poll, Operation.mayCount]

/-- One poll of a counter among operations that leave it alone. -/
theorem run_polled {issue : Issue} (first : List Operation) {rest : List Operation}
    {value : UInt64} {initialIsNew : Bool} (hfirst : ∀ op ∈ first, op.spares stream issue = true)
    (hrest : ∀ op ∈ rest, op.spares stream issue = true) :
    let g := run SensorDataHealth.apply h
      (first ++ .counter stream issue value initialIsNew :: rest)
    (g.states stream).total issue = (h.states stream).total issue + UInt64.ofNat
      (gained ((h.states stream).counters issue) [(value,initialIsNew)]) ∧
    (g.states stream).counters issue = some value := by
  have h1 := run_spared (h := h) first hfirst
  have h2 := run_spared
    (h := (run SensorDataHealth.apply h first).counter stream issue value initialIsNew) rest hrest
  have hrun : run SensorDataHealth.apply h
      (first ++ .counter stream issue value initialIsNew :: rest) =
      run SensorDataHealth.apply ((run SensorDataHealth.apply h first).counter stream issue value
        initialIsNew) rest := by
    rw [run_append,run_cons]
    rfl
  rw [hrun]
  refine ⟨?_,?_⟩
  · rw [h2.total,total_counter,h1.total,h1.counter]
  · rw [h2.counter,counters_counter]

/-- The old counters are forgotten, not the losses they have told of. -/
theorem rebase_counter {c : Issue × (TimeSyncRtkStatusState → UInt64)} (hc : c ∈ rtkCounters) :
    ((run SensorDataHealth.apply h rebase).states .rtkStatus).total c.1 =
        (h.states .rtkStatus).total c.1 ∧
      ((run SensorDataHealth.apply h rebase).states .rtkStatus).counters c.1 = none := by
  have hforget : ∀ {g : SensorDataHealth} {rest : List Operation},
      (∀ op ∈ rest, op.spares .rtkStatus c.1 = true) →
      ((run SensorDataHealth.apply g (.resetCounter .rtkStatus c.1 :: rest)).states
        .rtkStatus).counters c.1 = none := by
    intro g rest hrest
    rw [run_cons,(run_spared rest hrest).counter]
    change ((g.setCounter .rtkStatus c.1 none).states .rtkStatus).counters c.1 = none
    unfold setCounter
    rw [update_same]
    exact Function.update_self ..
  constructor
  · have hplain : ∀ op ∈ rebase, op.plain .rtkStatus c.1 = true := by
      revert c
      simp [rebase, rtkCounters, Operation.plain, Operation.poll, Operation.mayCount]
    rw [run_plain rebase hplain]
    simp only [rtkCounters, List.mem_cons, List.not_mem_nil, or_false] at hc
    rcases hc with rfl | rfl | rfl <;> simp [rebase, rtkCounters, Operation.amount]
  · have hspares : ∀ {kind}, kind ≠ c.1 →
        Operation.spares .rtkStatus c.1 (.resetCounter .rtkStatus kind) = true := fun hne => by
      simp [Operation.spares, Operation.poll, Operation.mayCount, hne]
    unfold rebase
    simp only [rtkCounters, List.mem_cons, List.not_mem_nil, or_false] at hc
    rcases hc with rfl | rfl | rfl
    · exact hforget (g := h.apply _) (by simp [hspares])
    · exact hforget (g := (h.apply _).apply _) (by simp [hspares])
    · exact hforget (g := ((h.apply _).apply _).apply _) (by simp)

theorem polled_counter {c : Issue × (TimeSyncRtkStatusState → UInt64)} (hc : c ∈ rtkCounters) :
    let g := run SensorDataHealth.apply h
      (rtkCounters.map fun c => Operation.counter .rtkStatus c.1 (c.2 rtk) false)
    (g.states .rtkStatus).total c.1 = (h.states .rtkStatus).total c.1 + UInt64.ofNat
        (gained ((h.states .rtkStatus).counters c.1) [(c.2 rtk,false)]) ∧
      (g.states .rtkStatus).counters c.1 = some (c.2 rtk) := by
  have hspares : ∀ {issue kind value}, kind ≠ issue →
      Operation.spares .rtkStatus issue (.counter .rtkStatus kind value false) = true :=
    fun hne => by simp [Operation.spares, Operation.poll, Operation.mayCount, hne]
  simp only [rtkCounters, List.mem_cons, List.not_mem_nil, or_false] at hc
  rcases hc with rfl | rfl | rfl
  · exact run_polled [] (List.forall_mem_nil _) (by simp [hspares])
  · exact run_polled [.counter .rtkStatus .lostBytes rtk.lostBytes false]
      (by simp [hspares]) (by simp [hspares])
  · exact run_polled [.counter .rtkStatus .lostBytes rtk.lostBytes false,
      .counter .rtkStatus .crcError rtk.rtcmErrors.toUInt64 false] (by simp [hspares])
      (List.forall_mem_nil _)

theorem pollCounters_counter {c : Issue × (TimeSyncRtkStatusState → UInt64)}
    (hc : c ∈ rtkCounters) :
    let g := run SensorDataHealth.apply h (pollCounters last rtk)
    (g.states .rtkStatus).total c.1 = (h.states .rtkStatus).total c.1 + UInt64.ofNat (gained
      (if restarted last rtk then none else (h.states .rtkStatus).counters c.1)
        [(c.2 rtk,false)]) ∧
    (g.states .rtkStatus).counters c.1 = some (c.2 rtk) := by
  unfold pollCounters
  rw [run_append]
  cases restarted last rtk with
  | false => exact polled_counter hc
  | true =>
    obtain ⟨htotal,hcounter⟩ := rebase_counter (h := h) hc
    rw [← htotal,if_pos rfl,← hcounter]
    exact polled_counter hc

theorem rtkUptime_eq : rtkUptime last rtk = if live rtk then some rtk.uptimeMs else last := by
  unfold rtkUptime live
  cases rtk.linked <;> cases rtk.deviceStatusFresh <;> rfl

theorem filter_live_snoc (statuses : List TimeSyncRtkStatusState) :
    (statuses ++ [rtk]).filter live = statuses.filter live ++ if live rtk then [rtk] else [] := by
  rw [List.filter_append]
  cases hl : live rtk <;> simp [hl]

variable (h last now rtk) in
/-- What every status changes. -/
theorem checkRtk_stale :
    let k := run SensorDataHealth.apply h (checkRtk last now rtk)
    (k.states .rtkStatus).conditions .statusStale = staleStatus rtk ∧
      (k.states .rtkStatus).total .statusStale = (h.states .rtkStatus).total .statusStale +
        UInt64.ofNat (!(h.states .rtkStatus).conditions .statusStale && staleStatus rtk).toNat ∧
      (k.states .rtkStatus).total .queryError = (h.states .rtkStatus).total .queryError := by
  have hquery : SameIssue .rtkStatus .queryError h
      (run SensorDataHealth.apply h (noteStale now rtk)) := noteStale_same (by decide)
  rw [checkRtk_eq,run_append,← noteStale_total,← hquery.total,← noteStale_condition]
  split
  · exact ⟨congrFun (run_conditions _ pollCounters_steady) _,
      (run_spared _ (pollCounters_spares (by simp))).total,
      (run_spared _ (pollCounters_spares (by simp))).total⟩
  · exact ⟨rfl,rfl,rfl⟩

/-- A status adds what it says on the one before it, and its own staleness. -/
theorem RtkBook.check {statuses : List TimeSyncRtkStatusState} {failed : ℕ}
    (hbook : RtkBook statuses failed last (h.states .rtkStatus)) :
    RtkBook (statuses ++ [rtk]) failed (rtkUptime last rtk)
      ((run SensorDataHealth.apply h (checkRtk last now rtk)).states .rtkStatus) := by
  obtain ⟨hcondition,hstale,hfailures⟩ := checkRtk_stale h last now rtk
  have hnote : ∀ c ∈ rtkCounters, SameIssue .rtkStatus c.1 h
      (run SensorDataHealth.apply h (noteStale now rtk)) := fun c hc =>
    noteStale_same (by revert c; decide +revert)
  have hsession : SameIssue .rtkStatus .sessionChanged h
      (run SensorDataHealth.apply h (noteStale now rtk)) := noteStale_same (by decide)
  refine ⟨?_,?_,?_,?_,?_,?_,hfailures.trans hbook.failures⟩
  · rw [rtkUptime_eq,filter_live_snoc]
    split <;> simp [hbook.uptime]
  · intro c hc
    rw [checkRtk_eq,run_append,filter_live_snoc]
    split
    · rw [(pollCounters_counter hc).2]
      simp
    · rw [List.append_nil,← hbook.counters c hc]
      exact (hnote c hc).counter
  · intro c hc
    rw [checkRtk_eq,run_append,filter_live_snoc]
    split
    · rw [(pollCounters_counter hc).1,(hnote c hc).total,(hnote c hc).counter,hbook.totals c hc,
        hbook.counters c hc,hbook.uptime,sum_pairs_snoc,UInt64.ofNat_add]
      congr 2
      cases (statuses.filter live).getLast? with
      | none => simp [gained, restarted]
      | some before =>
        simp only [Option.map_some, restarted, Option.any_some, gain, Option.getD_some,
          decide_eq_true_eq]
        split <;> simp [gained]
    · rw [List.append_nil,← hbook.totals c hc]
      exact (hnote c hc).total
  · rw [checkRtk_eq,run_append,filter_live_snoc]
    split
    · rw [pollCounters_restarts,hsession.total,hbook.restarts,hbook.uptime,countP_pairs_snoc,
        UInt64.ofNat_add]
      congr 2
      cases (statuses.filter live).getLast? <;> rfl
    · rw [List.append_nil,← hbook.restarts]
      exact hsession.total
  · rw [hcondition]
    simp
  · rw [hstale,hbook.onsets,hbook.condition,List.map_append,List.map_singleton,onsets_snoc,
      UInt64.ofNat_add]

theorem RtkBook.queryFailed {statuses : List TimeSyncRtkStatusState} {failed : ℕ}
    {detail : String} (hbook : RtkBook statuses failed last (h.states .rtkStatus)) :
    RtkBook statuses (failed + 1) last ((h.queryError .rtkStatus detail).states .rtkStatus) := by
  have hsame : ∀ issue ≠ Issue.queryError,
      SameIssue .rtkStatus issue h (h.apply (.queryError .rtkStatus detail)) := fun issue hi =>
    apply_spared (by simp [Operation.spares, Operation.poll, Operation.mayCount, hi])
  have hcounters : ∀ c ∈ rtkCounters, c.1 ≠ Issue.queryError := by decide
  have hplain : ((h.apply (.queryError .rtkStatus detail)).states .rtkStatus).total .queryError =
      (h.states .rtkStatus).total .queryError + 1 := apply_plain rfl
  have hconditions : ((h.apply (.queryError .rtkStatus detail)).states .rtkStatus).conditions =
      (h.states .rtkStatus).conditions := apply_conditions rfl
  refine ⟨hbook.uptime,?_,?_,?_,?_,?_,?_⟩
  · intro c hc
    exact (hsame c.1 (hcounters c hc)).counter.trans (hbook.counters c hc)
  · intro c hc
    exact (hsame c.1 (hcounters c hc)).total.trans (hbook.totals c hc)
  · exact (hsame .sessionChanged (by decide)).total.trans hbook.restarts
  · exact (congrFun hconditions _).trans hbook.condition
  · exact (hsame .statusStale (by decide)).total.trans hbook.onsets
  · rw [UInt64.ofNat_add,← hbook.failures]
    exact hplain

/-- New baselines are no losses either. -/
theorem RtkBook.reset {lane : Stream} {silenceNs : UInt64}
    (hbook : RtkBook [] 0 none (h.states .rtkStatus)) :
    RtkBook [] 0 none ((h.apply (.reset lane now 0 silenceNs)).states .rtkStatus) := by
  by_cases hl : lane = .rtkStatus
  · subst hl
    have hsame : ∀ issue, SameIssue .rtkStatus issue h
        (h.apply (.reset .rtkStatus now 0 silenceNs)) := fun issue =>
      apply_spared (by simp [Operation.spares, Operation.poll, Operation.mayCount])
    refine ⟨rfl,fun c hc => (hsame _).counter.trans (hbook.counters c hc),fun c hc =>
      (hsame _).total.trans (hbook.totals c hc),(hsame _).total.trans hbook.restarts,?_,
      (hsame _).total.trans hbook.onsets,(hsame _).total.trans hbook.failures⟩
    change ((h.reset .rtkStatus now 0 silenceNs).states .rtkStatus).conditions .statusStale = _
    rw [SensorDataHealth.reset,update_same]
    rfl
  · exact (sameRtk_apply (elsewhere_of_stream rfl hl)).book hbook

theorem rtkBook_start {ops : List Operation} (hbook : RtkBook [] 0 none (h.states .rtkStatus))
    (hops : ∀ op ∈ ops, sensed op = true ∨ ∃ lane now, op = .reset lane now 0 (5 * kSecond)) :
    RtkBook [] 0 none ((run SensorDataHealth.apply h ops).states .rtkStatus) := by
  induction ops generalizing h with
  | nil => exact hbook
  | cons op ops ih =>
    obtain ⟨hop,hrest⟩ := List.forall_mem_cons.mp hops
    refine ih ?_ hrest
    rcases hop with hop | ⟨lane,now,rfl⟩
    · exact (sameRtk_apply (elsewhere_sensed hop)).book hbook
    · exact hbook.reset

end

/-! ## Whole runs -/

namespace LossWatch
section
variable {Value : Stream → Type} {w : World} {s : LossWatch Value} {o : Occasion Value}

theorem step_lastRtkUptime (ho : o.rtkStatus = none) :
    (step w s o).lastRtkUptime = s.lastRtkUptime := by
  cases o with
  | rtk now status => cases ho
  | receiver clock batch positions =>
    simp only [step, checkPositions, List.foldl_cons, List.foldl_nil, check_lastRtkUptime]
  | _ => rfl

theorem step_sameRtk (hr : o.rtkStatus = none) (hf : o.rtkFailed = false) :
    SameRtk s.driver.health (step w s o).driver.health := by
  by_cases hturn : ∃ next, o = .turn next
  · obtain ⟨next,rfl⟩ := hturn
    obtain ⟨ops,hops,heq⟩ := turn_sensed (w := w) (s := s) next
    have hhealth := printer_health s.printer ops
    rw [← heq] at hhealth
    change (step w s (.turn next)).driver.health = _ at hhealth
    rw [hhealth]
    exact sameRtk_run ops fun op hop => elsewhere_sensed (hops op hop)
  · rw [step_health fun next hn => hturn ⟨next,hn⟩]
    exact sameRtk_run _ (operations_elsewhere hr hf)

theorem step_rtkBook {statuses : List TimeSyncRtkStatusState} {failed : ℕ}
    (hbook : RtkBook statuses failed s.lastRtkUptime (s.driver.health.states .rtkStatus)) :
    RtkBook (statuses ++ o.rtkStatus.toList) (failed + o.rtkFailed.toNat)
      (step w s o).lastRtkUptime ((step w s o).driver.health.states .rtkStatus) := by
  by_cases hrtk : o.rtkStatus = none ∧ o.rtkFailed = false
  · obtain ⟨hr,hf⟩ := hrtk
    rw [hr,hf,step_lastRtkUptime hr]
    simpa using (step_sameRtk hr hf).book hbook
  · cases o with
    | rtk now status =>
      have hhealth : (step w s (.rtk now status)).driver.health = _ := step_health nofun
      rw [hhealth]
      exact hbook.check
    | queryFailed lane detail =>
      have hlane : lane = .rtkStatus := by simpa [Occasion.rtkStatus, Occasion.rtkFailed] using hrtk
      subst hlane
      have hhealth : (step w s (.queryFailed .rtkStatus detail)).driver.health = _ :=
        step_health nofun
      rw [hhealth]
      change RtkBook (statuses ++ []) (failed + 1) _ _
      rw [List.append_nil]
      exact hbook.queryFailed
    | _ => exact absurd ⟨rfl,rfl⟩ hrtk

theorem run_rtkBook {statuses : List TimeSyncRtkStatusState} {failed : ℕ}
    (hbook : RtkBook statuses failed s.lastRtkUptime (s.driver.health.states .rtkStatus))
    (occasions : List (Occasion Value)) :
    let t := run (step w) s occasions
    RtkBook (statuses ++ occasions.filterMap (·.rtkStatus))
      (failed + occasions.countP (·.rtkFailed)) t.lastRtkUptime
      (t.driver.health.states .rtkStatus) := by
  induction occasions generalizing s statuses failed with
  | nil => simpa using hbook
  | cons o occasions ih =>
    have hstatuses : (o :: occasions).filterMap (·.rtkStatus) =
        o.rtkStatus.toList ++ occasions.filterMap (·.rtkStatus) := by
      cases ho : o.rtkStatus <;> simp [ho]
    have hfailed : (o :: occasions).countP (·.rtkFailed) =
        o.rtkFailed.toNat + occasions.countP (·.rtkFailed) := by
      rw [List.countP_cons,Nat.add_comm]
      cases o.rtkFailed <;> rfl
    rw [run_cons,hstatuses,hfailed,← List.append_assoc,← Nat.add_assoc]
    exact ih (step_rtkBook hbook)

/-- However polls, reports, frames and commands interleave: the losses counted for the RTK
module are what its counters have risen by between live statuses of one start, a smaller
uptime is one session change and no loss, and a failed poll or a stale status counts as
itself only. -/
theorem rtk_losses_counted (w : World) (config : DriverConfig)
    (queues : ∀ stream, Dispatching (Value stream)) (navigation : Bool) (begun : UInt64)
    (occasions : List (Occasion Value)) :
    let statuses := occasions.filterMap (·.rtkStatus)
    let record := (run (step w) (start w config queues navigation begun)
      occasions).driver.health.states .rtkStatus
    (∀ c ∈ rtkCounters, record.total c.1 =
        UInt64.ofNat ((pairs (statuses.filter live)).map (gain c.2)).sum) ∧
      record.total .sessionChanged =
        UInt64.ofNat ((pairs (statuses.filter live)).countP restart) ∧
      record.total .statusStale = UInt64.ofNat (onsets (statuses.map staleStatus)) ∧
      record.total .queryError = UInt64.ofNat (occasions.countP (·.rtkFailed)) := by
  intro statuses record
  obtain ⟨ops,hops,hprinter⟩ := start_health w config queues navigation begun
  have hbegun : RtkBook [] 0 (start w config queues navigation begun).lastRtkUptime
      ((start w config queues navigation begun).driver.health.states .rtkStatus) := by
    rw [show (start w config queues navigation begun).driver.health =
      run SensorDataHealth.apply {} ops from congrArg Printer.health hprinter]
    refine rtkBook_start ⟨rfl,fun _ _ => rfl,fun _ _ => rfl,rfl,rfl,rfl,rfl⟩ hops
  have hbook := run_rtkBook (w := w) hbegun occasions
  simp only [List.nil_append, Nat.zero_add] at hbook
  exact ⟨hbook.totals,hbook.restarts,hbook.onsets,hbook.failures⟩

end
end LossWatch
end PrismRosAdapter.Driver
