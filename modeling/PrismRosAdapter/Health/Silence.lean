import Mathlib.Data.List.Infix
import PrismRosAdapter.Health.Reports

/-! # When a stream is reported

Between two lines that were not forced about a stream lie five seconds. Silence is
a reason for a line once after each arrival, and only while it is monitored; the latch
that remembers it is overwritten by every line and still agrees with the history.
-/
namespace PrismRosAdapter.Health
open Runs SensorDataHealth

namespace SensorDataHealth.Operation

def time : Operation → Option UInt64
  | .reset _ now _ _ | .touch _ now | .observe _ now _ _ _ _ | .reports now _ => some now
  | _ => none

/-- The time at which a sample of the stream arrives or monitoring it starts anew. -/
def arrival (stream : Stream) : Operation → Option UInt64
  | .reset arrived now _ _ | .touch arrived now | .observe arrived now _ _ _ _ =>
    if arrived = stream then some now else none
  | _ => none

end SensorDataHealth.Operation

/-- Operations whose times do not go back. -/
def Timely (ops : List Operation) : Prop := (ops.filterMap (·.time)).Pairwise (· ≤ ·)

instance (ops : List Operation) : Decidable (Timely ops) :=
  inferInstanceAs (Decidable (List.Pairwise _ _))

/-- The last arrival of the stream among the operations. -/
def lastArrival (stream : Stream) (ops : List Operation) : UInt64 :=
  (ops.filterMap (·.arrival stream)).getLastD 0

/-- One of the operations printed a line about the stream at `time`. -/
def PrintedAt (stream : Stream) (ops : List Operation) (time : UInt64) : Prop :=
  ∃ before force after r, ops = before ++ .reports time force :: after ∧
    r ∈ (run apply {} before).printed (.reports time force) ∧ r.stream = stream

/-- A line with the time since the last arrival was printed since that arrival. -/
def SilencePrinted (stream : Stream) (ops : List Operation) : Prop :=
  ∃ before time force after r, ops = before ++ .reports time force :: after ∧
    r ∈ (run apply {} before).printed (.reports time force) ∧ r.stream = stream ∧
    r.noDataMs ≠ none ∧ ∀ op ∈ after, op.arrival stream = none

/-- Silence is monitored, and it has lasted long enough. -/
def Silent (stream : Stream) (ops : List Operation) (now : UInt64) : Prop :=
  let silenceNs := (run apply {} ops).silence stream
  0 < silenceNs ∧ (lastArrival stream ops).toNat + silenceNs.toNat ≤ now.toNat

/-! ## One operation more -/

section
variable {stream : Stream} {ops : List Operation} {op : Operation}

theorem printedAt_snoc {time : UInt64} : PrintedAt stream (ops ++ [op]) time ↔
    PrintedAt stream ops time ∨ ∃ force r, op = .reports time force ∧
      r ∈ (run apply {} ops).printed op ∧ r.stream = stream := by
  constructor
  · rintro ⟨before,force,after,r,he,hr,hs⟩
    rcases snoc_split.mp he with ⟨rfl,rfl,rfl⟩ | ⟨rest,rfl,rfl⟩
    · exact .inr ⟨force,r,rfl,hr,hs⟩
    · exact .inl ⟨before,force,rest,r,rfl,hr,hs⟩
  · rintro (⟨before,force,after,r,rfl,hr,hs⟩ | ⟨force,r,rfl,hr,hs⟩)
    · exact ⟨before,force,after ++ [op],r,by simp,hr,hs⟩
    · exact ⟨ops,force,[],r,rfl,hr,hs⟩

theorem silencePrinted_snoc : SilencePrinted stream (ops ++ [op]) ↔
    (SilencePrinted stream ops ∧ op.arrival stream = none) ∨
      ∃ time force r, op = .reports time force ∧ r ∈ (run apply {} ops).printed op ∧
        r.stream = stream ∧ r.noDataMs ≠ none := by
  constructor
  · rintro ⟨before,time,force,after,r,he,hr,hs,hn,ha⟩
    rcases snoc_split.mp he with ⟨rfl,rfl,rfl⟩ | ⟨rest,rfl,rfl⟩
    · exact .inr ⟨time,force,r,rfl,hr,hs,hn⟩
    · rw [List.forall_mem_append] at ha
      exact .inl ⟨⟨before,time,force,rest,r,rfl,hr,hs,hn,ha.1⟩,ha.2 op List.mem_cons_self⟩
  · rintro (⟨⟨before,time,force,after,r,rfl,hr,hs,hn,ha⟩,hop⟩ | ⟨time,force,r,rfl,hr,hs,hn⟩)
    · refine ⟨before,time,force,after ++ [op],r,by simp,hr,hs,hn,?_⟩
      rw [List.forall_mem_append]
      exact ⟨ha,by simpa using hop⟩
    · exact ⟨ops,time,force,[],r,rfl,hr,hs,hn,by simp⟩

theorem lastArrival_snoc : lastArrival stream (ops ++ [op]) =
    (op.arrival stream).getD (lastArrival stream ops) := by
  unfold lastArrival
  rw [List.filterMap_append]
  cases ha : op.arrival stream with
  | none => rw [List.filterMap_cons_none ha]; simp
  | some now => rw [List.filterMap_cons_some ha]; simp

/-- The times of all operations but the last lie before the last one's. -/
theorem timely_snoc : Timely (ops ++ [op]) ↔ Timely ops ∧
    ∀ now, op.time = some now → ∀ time ∈ ops.filterMap (·.time), time ≤ now := by
  unfold Timely
  rw [List.filterMap_append,List.pairwise_append]
  cases ht : op.time with
  | none => simp [List.filterMap_cons_none ht]
  | some now => simp [List.filterMap_cons_some ht]

end

/-! ## What a report looks at -/

/-- What decides about a line, apart from what is pending. -/
structure Watch where
  silenceNs : UInt64
  lastArrival : UInt64
  lastReport : UInt64
  reported : Bool
  staleReported : Bool
  deriving DecidableEq, Repr

def StreamHealth.watch (s : StreamHealth) : Watch :=
  ⟨s.silenceNs,s.lastArrival,s.lastReport,s.reported,s.staleReported⟩

section
variable {h : SensorDataHealth} {stream : Stream} {op : Operation}

theorem blind_watch : Blind StreamHealth.watch where
  counts := by intros; rfl
  baselines := by intros; rfl
  detail := by intros; rfl

theorem watch_setCounter (polled : Stream) (issue : Issue) (value : Option UInt64) :
    ((h.setCounter polled issue value).states stream).watch = (h.states stream).watch := by
  unfold setCounter
  exact update_blind StreamHealth.watch (by intros; rfl) h polled stream

theorem watch_touch (now : UInt64) : ((h.touch stream now).states stream).watch =
    { (h.states stream).watch with lastArrival := now, staleReported := false } := by
  rw [touch,update_same]
  rfl

theorem apply_watch (harr : op.arrival stream = none) (hop : op.stream ≠ none)
    (hdis : op ≠ .disable stream) :
    ((h.apply op).states stream).watch = (h.states stream).watch := by
  cases op with
  | reset arrived =>
    have hne : stream ≠ arrived := by rintro rfl; simp [Operation.arrival] at harr
    rw [apply_other rfl hne]
  | disable disabled =>
    have hne : stream ≠ disabled := by rintro rfl; exact hdis rfl
    rw [apply_other rfl hne]
  | touch arrived =>
    have hne : stream ≠ arrived := by rintro rfl; simp [Operation.arrival] at harr
    rw [apply_other rfl hne]
  | session _ sessionId => exact blind_watch.apply_session sessionId
  | add _ kind count => exact blind_watch.add kind count
  | condition _ kind active => exact blind_watch.condition kind active
  | resetCounter polled issue => exact watch_setCounter polled issue none
  | queryError _ detail => exact blind_watch.queryError detail
  | counter polled issue value initialIsNew =>
    rw [apply,blind_watch.counter,watch_setCounter]
  | observe arrived =>
    have hne : stream ≠ arrived := by rintro rfl; simp [Operation.arrival] at harr
    rw [apply_other rfl hne]
  | reports => exact absurd rfl hop

theorem watch_disable : ((h.disable stream).states stream).watch =
    { (h.states stream).watch with silenceNs := 0 } := by
  rw [disable,update_same]
  rfl

/-- An arrival, or a restart of the monitoring, ends a silence and reports nothing. -/
theorem apply_arrival {now : UInt64} (harr : op.arrival stream = some now) :
    let s := (h.states stream).watch
    let t := ((h.apply op).states stream).watch
    t.lastArrival = now ∧ t.staleReported = false ∧ t.reported = s.reported ∧
      t.lastReport = s.lastReport := by
  cases op with
  | reset arrived time =>
    obtain ⟨rfl,ht⟩ := Option.ite_none_right_eq_some.mp harr
    obtain rfl := Option.some.inj ht
    rw [apply,SensorDataHealth.reset,update_same]
    exact ⟨rfl,rfl,rfl,rfl⟩
  | touch arrived time =>
    obtain ⟨rfl,ht⟩ := Option.ite_none_right_eq_some.mp harr
    obtain rfl := Option.some.inj ht
    rw [apply,watch_touch]
    exact ⟨rfl,rfl,rfl,rfl⟩
  | observe arrived time =>
    obtain ⟨rfl,ht⟩ := Option.ite_none_right_eq_some.mp harr
    obtain rfl := Option.some.inj ht
    rw [apply,blind_watch.observe,watch_touch]
    exact ⟨rfl,rfl,rfl,rfl⟩
  | _ => cases harr

end

/-! ## The latch and the history -/

section
variable {stream : Stream} {ops : List Operation} {op : Operation}

/-- The operations that are not reports print nothing. -/
theorem printedAt_snoc_silent (hop : op.stream ≠ none) {time : UInt64} :
    PrintedAt stream (ops ++ [op]) time ↔ PrintedAt stream ops time := by
  rw [printedAt_snoc]
  constructor
  · rintro (h | ⟨force,r,rfl,_⟩)
    · exact h
    · exact absurd rfl hop
  · exact .inl

theorem silencePrinted_snoc_silent (hop : op.stream ≠ none) :
    SilencePrinted stream (ops ++ [op]) ↔
      SilencePrinted stream ops ∧ op.arrival stream = none := by
  rw [silencePrinted_snoc]
  constructor
  · rintro (h | ⟨time,force,r,rfl,_⟩)
    · exact h
    · exact absurd rfl hop
  · exact .inl

theorem PrintedAt.time_mem {time : UInt64} (h : PrintedAt stream ops time) :
    time ∈ ops.filterMap (·.time) := by
  obtain ⟨before,force,after,r,rfl,_⟩ := h
  exact List.mem_filterMap.mpr ⟨.reports time force,by simp,rfl⟩

/-- What the watched fields say about the operations so far. -/
structure Tracks (w : Watch) (stream : Stream) (ops : List Operation) : Prop where
  arrival : w.lastArrival = lastArrival stream ops
  reported : (∃ time, PrintedAt stream ops time) → w.reported
  lastReport : w.reported → PrintedAt stream ops w.lastReport
  latest : ∀ time, PrintedAt stream ops time → time ≤ w.lastReport
  still : w.silenceNs ≠ 0 → w.staleReported → ∀ now,
    (∀ time ∈ ops.filterMap (·.time), time ≤ now) →
      w.lastArrival ≤ now ∧ w.silenceNs ≤ now - w.lastArrival
  latch : w.silenceNs ≠ 0 → (w.staleReported ↔ SilencePrinted stream ops)

theorem tracks_nil : Tracks (({} : SensorDataHealth).states stream).watch stream [] where
  arrival := rfl
  reported := by
    rintro ⟨time,before,force,after,r,he,_⟩
    exact absurd he (by simp)
  lastReport := nofun
  latest := by
    rintro time ⟨before,force,after,r,he,_⟩
    exact absurd he (by simp)
  still hs := absurd rfl hs
  latch hs := absurd rfl hs

/-- The fields are kept, or monitoring stops: the history says the same as before. -/
theorem Tracks.keep {w t : Watch} (h : Tracks w stream ops) (hop : op.stream ≠ none)
    (harr : op.arrival stream = none) (ht : t = w ∨ t = { w with silenceNs := 0 }) :
    Tracks t stream (ops ++ [op]) := by
  have hsame : t.lastArrival = w.lastArrival ∧ t.reported = w.reported ∧
      t.lastReport = w.lastReport ∧ t.staleReported = w.staleReported ∧
      (t.silenceNs ≠ 0 → t.silenceNs = w.silenceNs) := by
    rcases ht with rfl | rfl
    · exact ⟨rfl,rfl,rfl,rfl,fun _ => rfl⟩
    · exact ⟨rfl,rfl,rfl,rfl,fun hs => absurd rfl hs⟩
  obtain ⟨ha,hr,hl,hst,hs⟩ := hsame
  constructor
  · rw [lastArrival_snoc,harr,ha,h.arrival]
    rfl
  · rintro ⟨time,hp⟩
    rw [hr]
    exact h.reported ⟨time,(printedAt_snoc_silent hop).mp hp⟩
  · intro hrep
    rw [hr] at hrep
    rw [printedAt_snoc_silent hop,hl]
    exact h.lastReport hrep
  · intro time hp
    rw [hl]
    exact h.latest time ((printedAt_snoc_silent hop).mp hp)
  · intro hne hstale now hnow
    have hsilence := hs hne
    rw [hsilence] at hne
    rw [hst] at hstale
    rw [ha,hsilence]
    refine h.still hne hstale now fun time htime => hnow time ?_
    rw [List.filterMap_append]
    exact List.mem_append_left _ htime
  · intro hne
    have hsilence := hs hne
    rw [hsilence] at hne
    rw [hst,h.latch hne,silencePrinted_snoc_silent hop]
    exact ⟨fun hp => ⟨hp,harr⟩,And.left⟩

/-- An arrival drops the latch, and no line about silence has followed it yet. -/
theorem Tracks.arrive {w t : Watch} (h : Tracks w stream ops) {now : UInt64}
    (hop : op.stream ≠ none) (harr : op.arrival stream = some now)
    (ht : t.lastArrival = now ∧ t.staleReported = false ∧ t.reported = w.reported ∧
      t.lastReport = w.lastReport) : Tracks t stream (ops ++ [op]) := by
  obtain ⟨ha,hst,hr,hl⟩ := ht
  constructor
  · rw [lastArrival_snoc,harr,ha]
    rfl
  · rintro ⟨time,hp⟩
    rw [hr]
    exact h.reported ⟨time,(printedAt_snoc_silent hop).mp hp⟩
  · intro hrep
    rw [hr] at hrep
    rw [printedAt_snoc_silent hop,hl]
    exact h.lastReport hrep
  · intro time hp
    rw [hl]
    exact h.latest time ((printedAt_snoc_silent hop).mp hp)
  · intro _ hstale
    rw [hst] at hstale
    cases hstale
  · intro _
    rw [hst,silencePrinted_snoc_silent hop,harr]
    exact ⟨nofun,fun hp => nomatch hp.2⟩

/-- The stream's own line, if the report prints one. -/
theorem printed_report_iff {h : SensorDataHealth} {now : UInt64} {force : Bool} {r : Report} :
    r ∈ h.printed (.reports now force) ∧ r.stream = stream ↔
      (h.states stream).prints now force ∧ r = (h.states stream).report stream now := by
  rw [printed,mem_reports]
  constructor
  · rintro ⟨⟨hp,hr⟩,rfl⟩
    exact ⟨hp,hr⟩
  · rintro ⟨hp,rfl⟩
    exact ⟨⟨hp,rfl⟩,rfl⟩

theorem printedAt_snoc_report {now time : UInt64} {force : Bool} :
    PrintedAt stream (ops ++ [.reports now force]) time ↔ PrintedAt stream ops time ∨
      time = now ∧ ((run apply {} ops).states stream).prints now force := by
  rw [printedAt_snoc]
  refine or_congr Iff.rfl ⟨?_,?_⟩
  · rintro ⟨f,r,he,hr⟩
    obtain ⟨rfl,rfl⟩ := SensorDataHealth.Operation.reports.inj he
    exact ⟨rfl,(printed_report_iff.mp hr).1⟩
  · rintro ⟨rfl,hp⟩
    exact ⟨force,_,rfl,printed_report_iff.mpr ⟨hp,rfl⟩⟩

theorem noDataMs_ne_none {s : StreamHealth} {now : UInt64} :
    (s.report stream now).noDataMs ≠ none ↔ s.stale now := by
  unfold StreamHealth.report
  dsimp only
  by_cases hs : s.stale now
  · rw [if_pos hs]
    exact ⟨fun _ => hs,fun _ => nofun⟩
  · rw [if_neg hs]
    exact ⟨fun h => absurd rfl h,fun h => absurd h hs⟩

theorem silencePrinted_snoc_report {now : UInt64} {force : Bool} :
    SilencePrinted stream (ops ++ [.reports now force]) ↔ SilencePrinted stream ops ∨
      ((run apply {} ops).states stream).prints now force ∧
        ((run apply {} ops).states stream).stale now := by
  rw [silencePrinted_snoc]
  refine or_congr ⟨And.left,fun h => ⟨h,rfl⟩⟩ ⟨?_,?_⟩
  · rintro ⟨time,f,r,he,hr,hs,hn⟩
    obtain ⟨rfl,rfl⟩ := SensorDataHealth.Operation.reports.inj he
    obtain ⟨hp,rfl⟩ := printed_report_iff.mp ⟨hr,hs⟩
    exact ⟨hp,noDataMs_ne_none.mp hn⟩
  · rintro ⟨hp,hs⟩
    obtain ⟨hr,hst⟩ := printed_report_iff.mpr ⟨hp,rfl⟩
    exact ⟨now,force,_,rfl,hr,hst,noDataMs_ne_none.mpr hs⟩

theorem stale_iff {s : StreamHealth} {now : UInt64} : s.stale now ↔
    s.watch.silenceNs ≠ 0 ∧ s.watch.lastArrival ≤ now ∧
      s.watch.silenceNs ≤ now - s.watch.lastArrival := by
  rw [StreamHealth.stale,decide_eq_true_eq]
  rfl

theorem sub_le_sub_of_le {a b c : UInt64} (hab : a ≤ b) (hbc : b ≤ c) : b - a ≤ c - a := by
  rw [UInt64.le_iff_toNat_le,UInt64.toNat_sub_of_le _ _ hab,
    UInt64.toNat_sub_of_le _ _ (UInt64.le_trans hab hbc)]
  rw [UInt64.le_iff_toNat_le] at hbc
  omega

/-- A line sets the latch to whether the silence still lasts, and a silence already
reported does. -/
theorem Tracks.report_printed {now : UInt64} {force : Bool}
    (h : Tracks ((run apply {} ops).states stream).watch stream ops)
    (ht : ∀ time ∈ ops.filterMap (·.time), time ≤ now)
    (hp : ((run apply {} ops).states stream).prints now force) :
    Tracks ((run apply {} (ops ++ [.reports now force])).states stream).watch stream
      (ops ++ [.reports now force]) := by
  rw [run_snoc,apply,reported_of_prints hp]
  constructor
  · rw [lastArrival_snoc]
    exact h.arrival
  · exact fun _ => rfl
  · intro _
    exact printedAt_snoc_report.mpr (.inr ⟨rfl,hp⟩)
  · intro time hprinted
    rcases printedAt_snoc_report.mp hprinted with hbefore | ⟨rfl,_⟩
    · exact ht time hbefore.time_mem
    · exact UInt64.le_refl _
  · intro _ hstale later hlater
    obtain ⟨_,hle,hlong⟩ := stale_iff.mp hstale
    have hnow : now ≤ later := hlater now (by simp [SensorDataHealth.Operation.time])
    exact ⟨UInt64.le_trans hle hnow,UInt64.le_trans hlong (sub_le_sub_of_le hle hnow)⟩
  · intro hne
    rw [silencePrinted_snoc_report]
    constructor
    · exact fun hstale => .inr ⟨hp,hstale⟩
    · rintro (hbefore | ⟨_,hstale⟩)
      · exact stale_iff.mpr ⟨hne,h.still hne ((h.latch hne).mpr hbefore) now ht⟩
      · exact hstale

/-- Where no line is printed the report changes nothing about the stream. -/
theorem Tracks.report_unprinted {now : UInt64} {force : Bool}
    (h : Tracks ((run apply {} ops).states stream).watch stream ops)
    (hp : ¬ ((run apply {} ops).states stream).prints now force) :
    Tracks ((run apply {} (ops ++ [.reports now force])).states stream).watch stream
      (ops ++ [.reports now force]) := by
  have hprinted {time : UInt64} : PrintedAt stream (ops ++ [.reports now force]) time ↔
      PrintedAt stream ops time := by
    rw [printedAt_snoc_report]
    exact or_iff_left fun hnow => hp hnow.2
  rw [run_snoc,apply,reported_of_not_prints hp]
  constructor
  · rw [lastArrival_snoc]
    exact h.arrival
  · rintro ⟨time,hbefore⟩
    exact h.reported ⟨time,hprinted.mp hbefore⟩
  · intro hrep
    exact hprinted.mpr (h.lastReport hrep)
  · intro time hbefore
    exact h.latest time (hprinted.mp hbefore)
  · intro hne hstale later hlater
    refine h.still hne hstale later fun time htime => hlater time ?_
    rw [List.filterMap_append]
    exact List.mem_append_left _ htime
  · intro hne
    rw [h.latch hne,silencePrinted_snoc_report]
    exact ⟨.inl,fun hs => hs.elim id fun hnow => absurd hnow.1 hp⟩

theorem Tracks.report {now : UInt64} {force : Bool}
    (h : Tracks ((run apply {} ops).states stream).watch stream ops)
    (ht : ∀ time ∈ ops.filterMap (·.time), time ≤ now) :
    Tracks ((run apply {} (ops ++ [.reports now force])).states stream).watch stream
      (ops ++ [.reports now force]) := by
  by_cases hp : ((run apply {} ops).states stream).prints now force
  · exact h.report_printed ht hp
  · exact h.report_unprinted hp

theorem Tracks.step (h : Tracks ((run apply {} ops).states stream).watch stream ops)
    (ht : Timely (ops ++ [op])) :
    Tracks ((run apply {} (ops ++ [op])).states stream).watch stream (ops ++ [op]) := by
  by_cases hop : op.stream = none
  · cases op with
    | reports now force => exact h.report ((timely_snoc.mp ht).2 now rfl)
    | _ => cases hop
  · cases harr : op.arrival stream with
    | some now =>
      rw [run_snoc]
      exact h.arrive hop harr (apply_arrival harr)
    | none =>
      rw [run_snoc]
      refine h.keep hop harr ?_
      by_cases hdis : op = .disable stream
      · subst hdis
        exact .inr watch_disable
      · exact .inl (apply_watch harr hop hdis)

theorem tracks_run (stream : Stream) {ops : List Operation} (ht : Timely ops) :
    Tracks ((run apply {} ops).states stream).watch stream ops := by
  induction ops using List.reverseRecOn with
  | nil => exact tracks_nil
  | append_singleton ops op ih => exact (ih (timely_snoc.mp ht).1).step ht

/-! ## The reports of a run -/

theorem le_sub_iff {a b c : UInt64} (hab : a ≤ b) :
    c ≤ b - a ↔ a.toNat + c.toNat ≤ b.toNat := by
  rw [UInt64.le_iff_toNat_le,UInt64.toNat_sub_of_le _ _ hab]
  rw [UInt64.le_iff_toNat_le] at hab
  omega

theorem silent_iff {now : UInt64}
    (h : Tracks ((run apply {} ops).states stream).watch stream ops) :
    Silent stream ops now ↔ ((run apply {} ops).states stream).stale now := by
  have hsilence : (run apply {} ops).silence stream =
      ((run apply {} ops).states stream).watch.silenceNs := rfl
  rw [stale_iff,h.arrival,Silent,hsilence,UInt64.pos_iff_ne_zero]
  refine and_congr_right fun _ => ⟨fun hle => ?_,fun hle => (le_sub_iff hle.1).mp hle.2⟩
  have harr : lastArrival stream ops ≤ now := by
    rw [UInt64.le_iff_toNat_le]
    omega
  exact ⟨harr,(le_sub_iff harr).mpr hle⟩

/-- A line is held back exactly within five seconds of the line before it. -/
theorem not_throttled_iff {now : UInt64} {force : Bool}
    (h : Tracks ((run apply {} ops).states stream).watch stream ops)
    (ht : ∀ time ∈ ops.filterMap (·.time), time ≤ now) :
    ((run apply {} ops).states stream).throttled now force = false ↔ force ∨
      ∀ time, PrintedAt stream ops time → time.toNat + kReportInterval.toNat ≤ now.toNat := by
  let w := ((run apply {} ops).states stream).watch
  have hthrottled : ((run apply {} ops).states stream).throttled now force =
      (!force && w.reported && decide (now - w.lastReport < kReportInterval)) := rfl
  rw [hthrottled]
  cases force with
  | true => exact ⟨fun _ => .inl rfl,fun _ => rfl⟩
  | false =>
    cases hrep : w.reported with
    | false =>
      refine ⟨fun _ => .inr fun time hp => ?_,fun _ => rfl⟩
      have hreported := h.reported ⟨time,hp⟩
      rw [hrep] at hreported
      cases hreported
    | true =>
      have hlast : PrintedAt stream ops w.lastReport := h.lastReport hrep
      have hle : w.lastReport ≤ now := ht _ hlast.time_mem
      have hfar : decide (now - w.lastReport < kReportInterval) = false ↔
          w.lastReport.toNat + kReportInterval.toNat ≤ now.toNat := by
        rw [decide_eq_false_iff_not,UInt64.not_lt,le_sub_iff hle]
      rw [Bool.not_false,Bool.true_and,Bool.true_and,hfar]
      constructor
      · intro hlong
        refine .inr fun time hp => ?_
        have hlatest : time.toNat ≤ w.lastReport.toNat :=
          UInt64.le_iff_toNat_le.mp (h.latest time hp)
        omega
      · rintro (hforce | hall)
        · cases hforce
        · exact hall _ hlast

theorem counts_eq_nil_iff {s : StreamHealth} {now : UInt64} :
    (s.report stream now).counts = [] ↔ ¬ s.hasPending := by
  unfold StreamHealth.report StreamHealth.hasPending
  dsimp only
  rw [List.map_eq_nil_iff,List.filter_eq_nil_iff,List.any_eq_true]
  push Not
  exact forall₂_congr fun _ _ => by simp

/-- Only a reset of the stream starts to monitor its silence. -/
theorem silence_apply {h : SensorDataHealth} (hs : h.silence stream = 0)
    (hop : ∀ now rateHz silenceNs, op ≠ .reset stream now rateHz silenceNs) :
    (h.apply op).silence stream = 0 := by
  cases op with
  | reset other now rateHz silenceNs =>
    have hne : stream ≠ other := by
      rintro rfl
      exact hop _ _ _ rfl
    exact (silence_reset_other h hne now rateHz silenceNs).trans hs
  | disable other =>
    by_cases ho : stream = other
    · subst ho
      exact congrArg Watch.silenceNs watch_disable
    · rw [← hs]
      exact congrArg StreamHealth.silenceNs (apply_other rfl ho)
  | touch => exact (silence_touch ..).trans hs
  | session _ sessionId =>
    exact (congrArg Watch.silenceNs (blind_watch.apply_session sessionId)).trans hs
  | add => exact (silence_add ..).trans hs
  | condition => exact (silence_condition ..).trans hs
  | resetCounter => exact (silence_resetCounter ..).trans hs
  | queryError _ detail => exact (congrArg Watch.silenceNs (blind_watch.queryError detail)).trans hs
  | counter => exact (silence_counter ..).trans hs
  | observe => exact (silence_observe ..).trans hs
  | reports now force =>
    by_cases hp : (h.states stream).prints now force
    · exact (congrArg StreamHealth.silenceNs (reported_of_prints hp)).trans hs
    · exact (congrArg StreamHealth.silenceNs (reported_of_not_prints hp)).trans hs

theorem silence_run {h : SensorDataHealth} (hs : h.silence stream = 0) {after : List Operation}
    (hafter : ∀ op ∈ after, ∀ now rateHz silenceNs, op ≠ .reset stream now rateHz silenceNs) :
    (run apply h after).silence stream = 0 := by
  induction after generalizing h with
  | nil => exact hs
  | cons op after ih =>
    obtain ⟨hop,hrest⟩ := List.forall_mem_cons.mp hafter
    exact ih (silence_apply hs hop) hrest

/-- The last operation that starts or stops monitoring the stream has stopped it. -/
def Unmonitored (stream : Stream) (ops : List Operation) : Prop :=
  ∃ before after, ops = before ++ .disable stream :: after ∧
    ∀ op ∈ after, ∀ now rateHz silenceNs, op ≠ .reset stream now rateHz silenceNs

theorem not_silent_of_unmonitored (hu : Unmonitored stream ops) (now : UInt64) :
    ¬ Silent stream ops now := by
  obtain ⟨before,after,rfl,hafter⟩ := hu
  have hzero : (run apply {} (before ++ .disable stream :: after)).silence stream = 0 := by
    rw [run_append,run_cons]
    refine silence_run ?_ hafter
    exact congrArg Watch.silenceNs watch_disable
  rintro ⟨hpos,_⟩
  rw [hzero] at hpos
  exact absurd hpos (by decide)

/-- A line is due when something is pending or a silence has not been reported. -/
theorem prints_iff {now : UInt64} {force : Bool}
    (h : Tracks ((run apply {} ops).states stream).watch stream ops) :
    ((run apply {} ops).states stream).prints now force ↔
      ((∃ issue, ((run apply {} ops).states stream).pending issue ≠ 0) ∨
        Silent stream ops now ∧ ¬ SilencePrinted stream ops) ∧
      ((run apply {} ops).states stream).throttled now force = false := by
  have hdue : (((run apply {} ops).states stream).stale now &&
      !((run apply {} ops).states stream).staleReported) ↔
      Silent stream ops now ∧ ¬ SilencePrinted stream ops := by
    rw [Bool.and_eq_true,Bool.not_eq_true',silent_iff h]
    refine and_congr_right fun hstale => ?_
    rw [← h.latch (stale_iff.mp hstale).1,Bool.not_eq_true]
    rfl
  rw [StreamHealth.prints,Bool.and_eq_true,Bool.or_eq_true,hdue,hasPending_iff,Bool.not_eq_true']

theorem stream_line_iff {h : SensorDataHealth} {now : UInt64} {force : Bool} {r : Report} :
    r ∈ (h.printed (.reports now force)).filter (·.stream = stream) ↔
      (h.states stream).prints now force ∧ r = (h.states stream).report stream now := by
  rw [List.mem_filter,decide_eq_true_eq]
  exact printed_report_iff

theorem stream_lines_ne_nil {h : SensorDataHealth} {now : UInt64} {force : Bool} :
    (h.printed (.reports now force)).filter (·.stream = stream) ≠ [] ↔
      (h.states stream).prints now force := by
  constructor
  · intro hne
    obtain ⟨r,hr⟩ := List.exists_mem_of_ne_nil _ hne
    exact (stream_line_iff.mp hr).1
  · exact fun hp => List.ne_nil_of_mem (stream_line_iff.mpr ⟨hp,rfl⟩)

/-- The reports at the end of timely operations. A line that is not forced comes at
least five seconds after any line before it; a call that is not held back prints a
line exactly when something is pending or a silence lasts that no line since the last
arrival told; so a line about nothing but silence is the first since that arrival,
and none is printed while silence is not monitored. -/
theorem silence_reported (stream : Stream) (ops : List Operation) (now : UInt64) (force : Bool)
    (ht : Timely (ops ++ [.reports now force])) :
    let h := run apply {} ops
    let lines := (h.printed (.reports now force)).filter (·.stream = stream)
    let spaced := ∀ time, PrintedAt stream ops time →
      time.toNat + kReportInterval.toNat ≤ now.toNat
    (lines ≠ [] → force = false → spaced) ∧
    (force ∨ spaced → (lines ≠ [] ↔ (∃ issue, (h.states stream).pending issue ≠ 0) ∨
      Silent stream ops now ∧ ¬ SilencePrinted stream ops)) ∧
    (∀ r ∈ lines, r.counts = [] → Silent stream ops now ∧ ¬ SilencePrinted stream ops) ∧
    (Unmonitored stream ops → ∀ r ∈ lines, r.noDataMs = none ∧ r.counts ≠ []) := by
  intro h lines spaced
  have hnow := (timely_snoc.mp ht).2 now rfl
  have htracks := tracks_run stream (timely_snoc.mp ht).1
  have hlines : lines ≠ [] ↔ (h.states stream).prints now force := stream_lines_ne_nil
  have halone : ∀ r ∈ lines, r.counts = [] →
      Silent stream ops now ∧ ¬ SilencePrinted stream ops := by
    intro r hr hcounts
    obtain ⟨hp,rfl⟩ := stream_line_iff.mp hr
    have hnone := mt hasPending_iff.mpr (counts_eq_nil_iff.mp hcounts)
    exact ((prints_iff htracks).mp hp).1.resolve_left hnone
  refine ⟨?_,?_,halone,?_⟩
  · intro hne hforce
    have hthrottled := ((prints_iff htracks).mp (hlines.mp hne)).2
    have hfree := (not_throttled_iff htracks hnow).mp hthrottled
    rw [hforce] at hfree
    exact hfree.resolve_left Bool.false_ne_true
  · intro hfree
    rw [hlines,prints_iff htracks]
    exact and_iff_left ((not_throttled_iff htracks hnow).mpr hfree)
  · intro hu r hr
    have hsilent := not_silent_of_unmonitored hu now
    refine ⟨?_,fun hcounts => hsilent (halone r hr hcounts).1⟩
    obtain ⟨_,rfl⟩ := stream_line_iff.mp hr
    by_contra hne
    exact hsilent ((silent_iff htracks).mpr (noDataMs_ne_none.mp hne))

/-- A silence of the board IMU that was reported, and a sample that ended it. -/
def endedSilence : List Operation :=
  [.reset .boardImu0 0 0 1000000000,.reports 2000000000 false,.touch .boardImu0 3000000000]

theorem silence_reported_again : Silent .boardImu0 endedSilence 8000000000 ∧
    ¬ SilencePrinted .boardImu0 endedSilence := by
  obtain ⟨_,_,halone,_⟩ := silence_reported .boardImu0 endedSilence 8000000000 false (by decide)
  exact halone ⟨.boardImu0,[],some 5000,none,""⟩ (by decide +kernel) rfl

end
end PrismRosAdapter.Health
