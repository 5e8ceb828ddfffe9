import Mathlib.Algebra.BigOperators.Group.List.Basic
import Mathlib.Data.List.Nodup
import PrismRosAdapter.Health.Operations
import PrismRosAdapter.Program.Runs

/-! # What has been counted is printed or still pending

Of every stream and issue the increments printed so far and the pending one add up
to the total. Only a printed report takes anything out of what is pending.
-/
namespace PrismRosAdapter.Health
open Runs

namespace StreamHealth

/-- Each issue's increase is added to its total and to what is pending. -/
def Grows (increase : Issue → UInt64) (s t : StreamHealth) : Prop := ∀ issue,
  t.pending issue = s.pending issue + increase issue ∧
  t.total issue = s.total issue + increase issue

/-- Nothing is counted and nothing is taken out. -/
def SameCounts (s t : StreamHealth) : Prop :=
  t.pending = s.pending ∧ t.total = s.total

variable {s t u : StreamHealth} {a b : Issue → UInt64}

theorem SameCounts.grows (h : s.SameCounts t) : s.Grows 0 t :=
  fun issue => ⟨by rw [h.1,Pi.zero_apply,add_zero],by rw [h.2,Pi.zero_apply,add_zero]⟩

theorem Grows.refl (s : StreamHealth) : s.Grows 0 s := SameCounts.grows ⟨rfl,rfl⟩

theorem Grows.trans (h : s.Grows a t) (h' : t.Grows b u) : s.Grows (a + b) u := by
  intro issue
  rw [(h' issue).1,(h' issue).2,(h issue).1,(h issue).2,Pi.add_apply,add_assoc,add_assoc]
  exact ⟨rfl,rfl⟩

/-! ### What an operation counts -/

def once (issue : Issue) (count : UInt64) : Issue → UInt64 := Function.update 0 issue count

def counterIncrease (s : StreamHealth) (issue : Issue) (value : UInt64) (initialIsNew : Bool) :
    Issue → UInt64 :=
  match s.counters issue with
  | some previous => if previous ≤ value then once issue (value - previous) else 0
  | none => if initialIsNew then once issue value else 0

def sequenceIncrease (s : StreamHealth) (bits : ℕ) (value : UInt64) : Issue → UInt64 :=
  match s.sequence with
  | some previous =>
    let delta := SensorDataHealth.sequenceDelta bits previous value
    if delta = 0 then once .sequenceDuplicate 1
    else if SensorDataHealth.sequenceHalf bits ≤ delta then once .sequenceReset 1
    else if 1 < delta then once .sequenceMissing (delta - 1)
    else 0
  | none => 0

def stampIncrease (period : ℚ) (stampNs previous : UInt64) (equalStampValid : Bool) :
    Issue → UInt64 :=
  if stampNs < previous then once .timestampBackward 1
  else if stampNs = previous then
    if equalStampValid then 0 else once .timestampDuplicate 1
  else if 0 < period ∧ 3 / 2 * period < ((stampNs - previous).toNat : ℚ) then
    once .timestampGap 1 +
      once .estimatedMissing (SensorDataHealth.estimatedMissing period (stampNs - previous))
  else 0

def observeIncrease (s : StreamHealth) (stampNs : UInt64) (sequence : Option UInt64) (bits : ℕ)
    (equalStampValid : Bool) : Issue → UInt64 :=
  (sequence.map (s.sequenceIncrease bits)).getD 0 +
    match s.stamp with
    | some previous =>
      if stampNs ≠ 0 ∧ ¬ (sequence.map (SensorDataHealth.resetsSequence s bits)).getD false then
        stampIncrease s.period stampNs previous equalStampValid
      else 0
    | none => 0

end StreamHealth

/-- What an operation counts of its stream, read off the stream's record before it. -/
def SensorDataHealth.Operation.increase (s : StreamHealth) :
    SensorDataHealth.Operation → Issue → UInt64
  | .session _ sessionId =>
    if s.session.any (· != sessionId) then StreamHealth.once .sessionChanged 1 else 0
  | .add _ issue count => StreamHealth.once issue count
  | .condition _ issue active =>
    if active ∧ ¬ s.conditions issue then StreamHealth.once issue 1 else 0
  | .queryError _ _ => StreamHealth.once .queryError 1
  | .counter _ issue value initialIsNew => s.counterIncrease issue value initialIsNew
  | .observe _ _ stampNs sequence bits equalStampValid =>
    s.observeIncrease stampNs sequence bits equalStampValid
  | .reset .. | .disable .. | .touch .. | .resetCounter .. | .reports .. => 0

/-! ## Every operation but a printed report -/

namespace SensorDataHealth
open StreamHealth (once)
variable {h : SensorDataHealth} {stream other : Stream} {increase : Issue → UInt64}

theorem sameCounts_update {f : StreamHealth → StreamHealth} (hf : ∀ s : StreamHealth, s.SameCounts (f s)) :
    (h.states other).SameCounts ((h.update stream f).states other) := by
  by_cases ho : other = stream
  · subst other
    rw [update_same]
    exact hf _
  · rw [update_other h ho]
    exact ⟨rfl,rfl⟩

theorem grows_update {f : StreamHealth → StreamHealth} {g : SensorDataHealth}
    (hg : (h.states stream).Grows increase (g.states stream))
    (hf : ∀ s : StreamHealth, s.SameCounts (f s)) :
    (h.states stream).Grows increase ((g.update stream f).states stream) := by
  intro issue
  rw [update_same,(hf _).1,(hf _).2]
  exact hg issue

theorem grows_add (issue : Issue) (count : UInt64) :
    (h.states stream).Grows (once issue count) ((h.add stream issue count).states stream) := by
  intro i
  rw [add,update_same]
  by_cases hi : i = issue
  · subst i
    simp only [once,Function.update_self,and_self]
  · simp only [once,Function.update_of_ne hi,Pi.zero_apply,add_zero,and_self]

theorem sameCounts_reset (now : UInt64) (rateHz : ℚ) (silenceNs : UInt64) :
    (h.states other).SameCounts ((h.reset stream now rateHz silenceNs).states other) := by
  unfold reset
  exact sameCounts_update fun _ => ⟨rfl,rfl⟩

theorem sameCounts_disable : (h.states other).SameCounts ((h.disable stream).states other) := by
  unfold disable
  exact sameCounts_update fun _ => ⟨rfl,rfl⟩

theorem sameCounts_touch (now : UInt64) :
    (h.states other).SameCounts ((h.touch stream now).states other) := by
  unfold touch
  exact sameCounts_update fun _ => ⟨rfl,rfl⟩

theorem sameCounts_resetCounter (issue : Issue) :
    (h.states other).SameCounts ((h.resetCounter stream issue).states other) := by
  unfold resetCounter setCounter
  exact sameCounts_update fun _ => ⟨rfl,rfl⟩

theorem grows_queryError (detail : String) : (h.states stream).Grows (once .queryError 1)
    ((h.queryError stream detail).states stream) := by
  unfold queryError
  exact grows_update (grows_add _ _) fun _ => ⟨rfl,rfl⟩

theorem grows_session (sessionId : UInt64) :
    (h.states stream).Grows
      (if (h.states stream).session.any (· != sessionId) then once .sessionChanged 1 else 0)
      ((h.session stream sessionId).states stream) := by
  unfold session
  refine grows_update ?_ fun _ => ⟨rfl,rfl⟩
  split
  · exact grows_update (grows_add _ _) fun _ => ⟨rfl,rfl⟩
  · exact .refl _

theorem grows_condition (issue : Issue) (active : Bool) :
    (h.states stream).Grows
      (if active ∧ ¬ (h.states stream).conditions issue then once issue 1 else 0)
      ((h.condition stream issue active).states stream) := by
  unfold condition
  refine grows_update ?_ fun _ => ⟨rfl,rfl⟩
  split
  · exact grows_add _ _
  · exact .refl _

theorem grows_counter (issue : Issue) (value : UInt64) (initialIsNew : Bool) :
    (h.states stream).Grows ((h.states stream).counterIncrease issue value initialIsNew)
      ((h.counter stream issue value initialIsNew).states stream) := by
  unfold counter StreamHealth.counterIncrease
  refine grows_update ?_ fun _ => ⟨rfl,rfl⟩
  cases (h.states stream).counters issue with
  | some previous =>
    dsimp only
    split
    · exact grows_add _ _
    · exact .refl _
  | none =>
    dsimp only
    split
    · exact grows_add _ _
    · exact .refl _

theorem grows_observeSequence (stream : Stream) (bits : ℕ) (value : UInt64) :
    (h.states stream).Grows ((h.states stream).sequenceIncrease bits value)
      ((h.observeSequence stream bits value).states stream) := by
  unfold observeSequence StreamHealth.sequenceIncrease
  refine grows_update ?_ fun _ => ⟨rfl,rfl⟩
  cases (h.states stream).sequence with
  | some previous =>
    dsimp only
    split_ifs
    · exact grows_add _ _
    · exact grows_add _ _
    · exact grows_add _ _
    · exact .refl _
  | none => exact .refl _

theorem grows_observeStamp (stream : Stream) (stampNs previous : UInt64) (equalStampValid : Bool) :
    (h.states stream).Grows
      (StreamHealth.stampIncrease (h.states stream).period stampNs previous equalStampValid)
      ((h.observeStamp stream stampNs previous equalStampValid).states stream) := by
  unfold observeStamp StreamHealth.stampIncrease
  dsimp only
  split_ifs
  · exact grows_add _ _
  · exact .refl _
  · exact grows_add _ _
  · exact (grows_add _ _).trans (grows_add _ _)
  · exact .refl _

/-- Observing a sequence number leaves the baseline of the stamps as it is. -/
theorem observeSequence_stamp (stream : Stream) (bits : ℕ) (value : UInt64) :
    ((h.observeSequence stream bits value).states stream).stamp = (h.states stream).stamp ∧
    ((h.observeSequence stream bits value).states stream).period = (h.states stream).period := by
  have hadd (issue : Issue) (count : UInt64) :
      ((h.add stream issue count).states stream).stamp = (h.states stream).stamp ∧
      ((h.add stream issue count).states stream).period = (h.states stream).period := by
    rw [add,update_same]
    exact ⟨rfl,rfl⟩
  unfold observeSequence
  rw [update_same]
  dsimp only
  split
  · split_ifs
    · exact hadd _ _
    · exact hadd _ _
    · exact hadd _ _
    · exact ⟨rfl,rfl⟩
  · exact ⟨rfl,rfl⟩

theorem grows_observe (now stampNs : UInt64) (sequence : Option UInt64) (bits : ℕ)
    (equalStampValid : Bool) :
    (h.states stream).Grows
      ((h.states stream).observeIncrease stampNs sequence bits equalStampValid)
      ((h.observe stream now stampNs sequence bits equalStampValid).states stream) := by
  -- the sample's arrival changes nothing that the increases are read off
  have htouch : (h.touch stream now).states stream =
      { h.states stream with lastArrival := now, staleReported := false } := update_same ..
  have hs : (h.states stream).Grows ((sequence.map ((h.states stream).sequenceIncrease bits)).getD 0)
      (((sequence.map ((h.touch stream now).observeSequence stream bits)).getD
        (h.touch stream now)).states stream) ∧
      (((sequence.map ((h.touch stream now).observeSequence stream bits)).getD
        (h.touch stream now)).states stream).stamp = (h.states stream).stamp ∧
      (((sequence.map ((h.touch stream now).observeSequence stream bits)).getD
        (h.touch stream now)).states stream).period = (h.states stream).period := by
    cases sequence with
    | none =>
      refine ⟨(sameCounts_touch now).grows,?_⟩
      rw [Option.map_none,Option.getD_none,htouch]
      exact ⟨rfl,rfl⟩
    | some value =>
      have hgrows := (sameCounts_touch now).grows.trans
        (grows_observeSequence (h := h.touch stream now) stream bits value)
      have hstamp := observeSequence_stamp (h := h.touch stream now) stream bits value
      rw [htouch] at hgrows hstamp
      rw [zero_add] at hgrows
      exact ⟨hgrows,hstamp⟩
  obtain ⟨hgrows,hstamp,hperiod⟩ := hs
  have hreset : SensorDataHealth.resetsSequence ((h.touch stream now).states stream) bits =
      SensorDataHealth.resetsSequence (h.states stream) bits := by
    rw [htouch]
    rfl
  unfold observe StreamHealth.observeIncrease
  refine grows_update ?_ fun _ => ⟨rfl,rfl⟩
  rw [hstamp,hreset]
  cases (h.states stream).stamp with
  | some previous =>
    dsimp only
    split
    · have hstep := grows_observeStamp (h := (sequence.map
        ((h.touch stream now).observeSequence stream bits)).getD (h.touch stream now))
          stream stampNs previous equalStampValid
      rw [hperiod] at hstep
      exact hgrows.trans hstep
    · rw [add_zero]
      exact hgrows
  | none =>
    rw [add_zero]
    exact hgrows

/-! ## A report -/

theorem mem_reports {now : UInt64} {force : Bool} {r : Report} :
    r ∈ (h.reports now force).1 ↔
      (h.states r.stream).prints now force ∧ r = (h.states r.stream).report r.stream now := by
  unfold reports
  rw [List.mem_map]
  constructor
  · rintro ⟨stream,hs,rfl⟩
    exact ⟨(List.mem_filter.mp hs).2,rfl⟩
  · rintro ⟨hp,hr⟩
    exact ⟨r.stream,List.mem_filter.mpr ⟨r.stream.mem_all,hp⟩,hr.symm⟩

theorem report_mem {now : UInt64} {force : Bool} (hp : (h.states stream).prints now force) :
    (h.states stream).report stream now ∈ (h.reports now force).1 := by
  rw [mem_reports]
  exact ⟨hp,rfl⟩

theorem reported_of_prints {now : UInt64} {force : Bool}
    (hp : (h.states stream).prints now force) :
    (h.reports now force).2.states stream = (h.states stream).reportedAt now := if_pos hp

theorem reported_of_not_prints {now : UInt64} {force : Bool}
    (hp : ¬ (h.states stream).prints now force) :
    (h.reports now force).2.states stream = h.states stream := if_neg hp

theorem total_reports (now : UInt64) (force : Bool) :
    ((h.reports now force).2.states stream).total = (h.states stream).total := by
  by_cases hp : (h.states stream).prints now force
  · rw [reported_of_prints hp]
    rfl
  · rw [reported_of_not_prints hp]

theorem hasPending_iff {s : StreamHealth} : s.hasPending ↔ ∃ issue, s.pending issue ≠ 0 := by
  unfold StreamHealth.hasPending
  rw [List.any_eq_true]
  constructor
  · rintro ⟨issue,_,h⟩
    exact ⟨issue,bne_iff_ne.mp h⟩
  · rintro ⟨issue,h⟩
    exact ⟨issue,issue.mem_all,bne_iff_ne.mpr h⟩

/-- A forced report leaves nothing pending on any stream. -/
theorem pending_forced (now : UInt64) (issue : Issue) :
    ((h.reports now true).2.states stream).pending issue = 0 := by
  by_cases hp : (h.states stream).prints now true
  · rw [reported_of_prints hp]
    rfl
  · rw [reported_of_not_prints hp]
    by_contra hne
    refine hp ?_
    rw [StreamHealth.prints,hasPending_iff.mpr ⟨issue,hne⟩]
    rfl

end SensorDataHealth

/-! ## All that was printed -/

/-- What a line says was added of an issue. -/
def Report.increment (r : Report) (issue : Issue) : UInt64 :=
  ((r.counts.filter (·.1 = issue)).map (·.2.1)).sum

/-- What lines say, taken together, was added of an issue of a stream. -/
def printedSum (lines : List Report) (stream : Stream) (issue : Issue) : UInt64 :=
  ((lines.filter (·.stream = stream)).map (·.increment issue)).sum

/-- The health counters with the lines printed so far. -/
structure Printer where
  health : SensorDataHealth := {}
  lines : List Report := []

def Printer.step (p : Printer) (op : SensorDataHealth.Operation) : Printer where
  health := p.health.apply op
  lines := p.lines ++ p.health.printed op

section
variable {α : Type*} [DecidableEq α] {l : List α} {a : α}

/-- In a list without repetitions a filter keeps an entry once or not at all. -/
theorem filter_filter_eq (hn : l.Nodup) (ha : a ∈ l) (p : α → Bool) :
    (l.filter p).filter (· = a) = if p a then [a] else [] := by
  have hone : l.filter (· = a) = [a] := by
    rw [List.filter_eq,List.count_eq_one_of_mem hn ha]
    rfl
  rw [List.filter_filter]
  simp only [Bool.and_comm]
  rw [← List.filter_filter,hone]
  split
  · exact List.filter_cons_of_pos ‹_›
  · exact List.filter_cons_of_neg ‹_›

end

theorem increment_report (s : StreamHealth) (stream : Stream) (now : UInt64) (issue : Issue) :
    (s.report stream now).increment issue = s.pending issue := by
  unfold Report.increment StreamHealth.report
  rw [List.filter_map]
  simp only [Function.comp_def]
  rw [filter_filter_eq Issue.all_nodup issue.mem_all]
  split
  · simp
  · simp_all

theorem printedSum_append (first rest : List Report) (stream : Stream) (issue : Issue) :
    printedSum (first ++ rest) stream issue =
      printedSum first stream issue + printedSum rest stream issue := by
  unfold printedSum
  rw [List.filter_append,List.map_append,List.sum_append]

theorem printedSum_reports (h : SensorDataHealth) (now : UInt64) (force : Bool)
    (stream : Stream) (issue : Issue) :
    printedSum (h.reports now force).1 stream issue =
      if (h.states stream).prints now force then (h.states stream).pending issue else 0 := by
  unfold printedSum SensorDataHealth.reports
  rw [List.filter_map]
  simp only [Function.comp_def]
  change ((((Stream.all.filter fun stream => (h.states stream).prints now force).filter
    (· = stream)).map _).map _).sum = _
  rw [filter_filter_eq Stream.all_nodup stream.mem_all]
  split
  · simp [increment_report]
  · simp

/-! ## The accounts of a whole run -/

open SensorDataHealth

/-- The operations that may count something. -/
def SensorDataHealth.Operation.counts : SensorDataHealth.Operation → Bool
  | .session .. | .add .. | .condition .. | .queryError .. | .counter .. | .observe .. => true
  | .reset .. | .disable .. | .touch .. | .resetCounter .. | .reports .. => false

section
variable {h : SensorDataHealth} {stream : Stream} {op : Operation}

theorem not_prints_of_printed {now : UInt64} {force : Bool}
    (hop : ∀ r ∈ h.printed (.reports now force), r.stream ≠ stream) :
    ¬ (h.states stream).prints now force := fun hp => hop _ (report_mem hp) rfl

theorem apply_sameCounts (hcounts : op.counts = false)
    (hop : ∀ r ∈ h.printed op, r.stream ≠ stream) :
    (h.states stream).SameCounts ((h.apply op).states stream) := by
  cases op with
  | reset => exact sameCounts_reset _ _ _
  | disable => exact sameCounts_disable
  | touch => exact sameCounts_touch _
  | resetCounter => exact sameCounts_resetCounter _
  | reports now force =>
    rw [apply,reported_of_not_prints (not_prints_of_printed hop)]
    exact ⟨rfl,rfl⟩
  | session => cases hcounts
  | add => cases hcounts
  | condition => cases hcounts
  | queryError => cases hcounts
  | counter => cases hcounts
  | observe => cases hcounts

theorem apply_increase (hstream : op.stream = some stream) :
    (h.states stream).Grows (op.increase (h.states stream)) ((h.apply op).states stream) := by
  cases op with
  | reset =>
    obtain rfl := Option.some.inj hstream
    exact (sameCounts_reset _ _ _).grows
  | disable =>
    obtain rfl := Option.some.inj hstream
    exact sameCounts_disable.grows
  | touch =>
    obtain rfl := Option.some.inj hstream
    exact (sameCounts_touch _).grows
  | resetCounter =>
    obtain rfl := Option.some.inj hstream
    exact (sameCounts_resetCounter _).grows
  | session =>
    obtain rfl := Option.some.inj hstream
    exact grows_session _
  | add =>
    obtain rfl := Option.some.inj hstream
    exact grows_add _ _
  | condition =>
    obtain rfl := Option.some.inj hstream
    exact grows_condition _ _
  | queryError =>
    obtain rfl := Option.some.inj hstream
    exact grows_queryError _
  | counter =>
    obtain rfl := Option.some.inj hstream
    exact grows_counter _ _ _
  | observe =>
    obtain rfl := Option.some.inj hstream
    exact grows_observe _ _ _ _ _
  | reports => cases hstream

/-- Only a printed report takes anything out of what is pending. -/
theorem apply_grows (hop : ∀ r ∈ h.printed op, r.stream ≠ stream) :
    (h.states stream).Grows
      (if op.stream = some stream then op.increase (h.states stream) else 0)
      ((h.apply op).states stream) := by
  split
  · exact apply_increase ‹_›
  · rename_i hother
    cases hstream : op.stream with
    | some own =>
      rw [apply_other hstream fun he => hother (by rw [hstream,he])]
      exact .refl _
    | none =>
      cases op with
      | reports => exact (apply_sameCounts rfl hop).grows
      | _ => cases hstream

end

/-- Printed increments and pending ones make up the totals. -/
def Printer.Balanced (p : Printer) : Prop :=
  ∀ stream issue, (p.health.states stream).total issue =
    printedSum p.lines stream issue + (p.health.states stream).pending issue

theorem Printer.Balanced.step {p : Printer} (h : p.Balanced) (op : Operation) :
    (p.step op).Balanced := by
  intro stream issue
  rw [Printer.step,printedSum_append]
  by_cases hop : ∀ r ∈ p.health.printed op, r.stream ≠ stream
  · have hg := apply_grows hop
    have hnone : printedSum (p.health.printed op) stream issue = 0 := by
      rw [printedSum,List.filter_eq_nil_iff.mpr fun r hr => by simpa using hop r hr]
      rfl
    rw [(hg issue).1,(hg issue).2,h stream issue,hnone,add_zero,add_assoc]
  · push Not at hop
    obtain ⟨r,hr,rfl⟩ := hop
    cases op with
    | reports now force =>
      obtain ⟨hp,_⟩ := mem_reports.mp hr
      rw [printed,printedSum_reports,if_pos hp,apply,total_reports,reported_of_prints hp,
        h r.stream issue]
      exact (add_zero _).symm
    | _ => cases hr

theorem run_balanced (ops : List Operation) : (run Printer.step {} ops).Balanced := by
  have h0 : Printer.Balanced {} := fun _ _ => rfl
  exact (always_of_step Printer.step (H := fun _ _ => True)
    (fun p op _ hp => hp.step op) h0 fun _ _ _ => trivial).last

/-- After any operations the totals are what was printed and what is pending; and of
the next operation: the line it prints about a stream gives that stream's pending
increments and totals and leaves nothing pending, without such a line what it counts itself is
added and nothing is taken out, the other streams are left alone, and a forced report leaves
nothing pending. -/
theorem increments_accounted (ops : List Operation) (op : Operation) :
    let h := (run Printer.step {} ops).health
    (run Printer.step {} ops).Balanced ∧
    (∀ r ∈ h.printed op, ∀ count ∈ r.counts,
      count.2 = ((h.states r.stream).pending count.1,(h.states r.stream).total count.1) ∧
      ((h.apply op).states r.stream).total = (h.states r.stream).total) ∧
    (∀ r ∈ h.printed op, ∀ issue, ((h.apply op).states r.stream).pending issue = 0) ∧
    (∀ stream, (∀ r ∈ h.printed op, r.stream ≠ stream) →
      (h.states stream).Grows
        (if op.stream = some stream then op.increase (h.states stream) else 0)
        ((h.apply op).states stream) ∧
      (op.counts = false → (h.states stream).SameCounts ((h.apply op).states stream))) ∧
    (∀ stream other, op.stream = some stream → other ≠ stream →
      (h.apply op).states other = h.states other) ∧
    ∀ now stream issue, ((h.reports now true).2.states stream).pending issue = 0 := by
  intro h
  refine ⟨run_balanced ops,?_,?_,?_,?_,?_⟩
  · intro r hr count hc
    cases op with
    | reports now force =>
      obtain ⟨_,hr⟩ := mem_reports.mp hr
      rw [hr] at hc
      obtain ⟨issue,_,rfl⟩ := List.mem_map.mp hc
      exact ⟨rfl,total_reports now force⟩
    | _ => cases hr
  · intro r hr issue
    cases op with
    | reports now force =>
      obtain ⟨hp,_⟩ := mem_reports.mp hr
      rw [apply,reported_of_prints hp]
      rfl
    | _ => cases hr
  · exact fun stream hop => ⟨apply_grows hop,fun hcounts => apply_sameCounts hcounts hop⟩
  · exact fun stream other hop hne => apply_other hop hne
  · exact fun now stream issue => pending_forced now issue

/-- Bytes lost before a restart: 3 are printed, 2 stay pending, and the restart keeps them. -/
theorem increments_accounted_restart :
    let p := run Printer.step {} [.add .roverRtcm .lostBytes 3,.reports 1 true,
      .add .roverRtcm .lostBytes 2]
    let restarted := p.health.apply (.reset .roverRtcm 9 0 0)
    (p.health.states .roverRtcm).total .lostBytes = printedSum p.lines .roverRtcm .lostBytes + 2 ∧
      printedSum p.lines .roverRtcm .lostBytes = 3 ∧
      (restarted.states .roverRtcm).pending .lostBytes = 2 := by
  intro p restarted
  obtain ⟨hbalanced,_,_,hgrows,_⟩ := increments_accounted [.add .roverRtcm .lostBytes 3,
    .reports 1 true,.add .roverRtcm .lostBytes 2] (.reset .roverRtcm 9 0 0)
  have hpending : (p.health.states .roverRtcm).pending .lostBytes = 2 := by decide
  have htotal := hbalanced .roverRtcm .lostBytes
  have hkept := ((hgrows .roverRtcm (List.forall_mem_nil _)).1 .lostBytes).1
  change (p.health.states .roverRtcm).total .lostBytes = _ +
    (p.health.states .roverRtcm).pending .lostBytes at htotal
  change (restarted.states .roverRtcm).pending .lostBytes =
    (p.health.states .roverRtcm).pending .lostBytes + 0 at hkept
  rw [hpending] at htotal hkept
  exact ⟨htotal,by decide,hkept⟩

end PrismRosAdapter.Health
