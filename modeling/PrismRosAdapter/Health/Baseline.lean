import PrismRosAdapter.Health.Operations

/-! # What a sample is compared with

A stream keeps the last sequence number, the last stamp, the flags and the cumulative
counters it has seen. A reset drops them all but the counters. The first sample after
that is compared with nothing.
-/
namespace PrismRosAdapter.Health
open SensorDataHealth

/-- What a stream keeps of the samples it has observed. -/
structure Baseline where
  sequence : Option UInt64
  stamp : Option UInt64
  conditions : Issue → Bool
  lostBytes : Option UInt64

namespace StreamHealth

def baseline (s : StreamHealth) : Baseline where
  sequence := s.sequence
  stamp := s.stamp
  conditions := s.conditions
  lostBytes := s.counters .lostBytes

/-- No sample is kept; a counter may be. -/
def Unsampled (s : StreamHealth) : Prop :=
  s.sequence = none ∧ s.stamp = none ∧ s.conditions = fun _ => false

theorem Unsampled.of_baseline {s t : StreamHealth} (h : t.baseline = s.baseline)
    (hs : s.Unsampled) : t.Unsampled :=
  ⟨(congrArg Baseline.sequence h).trans hs.1,(congrArg Baseline.stamp h).trans hs.2.1,
    (congrArg Baseline.conditions h).trans hs.2.2⟩

end StreamHealth

section
variable {h : SensorDataHealth} {stream other : Stream}

theorem baseline_add (issue : Issue) (count : UInt64) :
    ((h.add stream issue count).states other).baseline = (h.states other).baseline :=
  update_blind _ (by intro s; rfl) h stream other

theorem baseline_disable :
    ((h.disable stream).states other).baseline = (h.states other).baseline :=
  update_blind _ (by intro s; rfl) h stream other

theorem unsampled_reset (now : UInt64) (rateHz : ℚ) (silenceNs : UInt64) :
    ((h.reset stream now rateHz silenceNs).states stream).Unsampled := by
  rw [reset,update_same]
  exact ⟨rfl,rfl,rfl⟩

/-- A reset leaves no baseline where there was none. -/
theorem unsampled_reset_of (hu : (h.states other).Unsampled) (now : UInt64) (rateHz : ℚ)
    (silenceNs : UInt64) : ((h.reset stream now rateHz silenceNs).states other).Unsampled := by
  by_cases ho : other = stream
  · subst ho
    exact unsampled_reset now rateHz silenceNs
  · rw [reset,update_other h ho]
    exact hu

theorem counters_reset (now : UInt64) (rateHz : ℚ) (silenceNs : UInt64) :
    ((h.reset stream now rateHz silenceNs).states other).counters = (h.states other).counters :=
  update_blind (·.counters) (by intro s; rfl) h stream other

theorem unsampled_resetCounter_of (hu : (h.states other).Unsampled) (issue : Issue) :
    ((h.resetCounter stream issue).states other).Unsampled := by
  rw [resetCounter,setCounter]
  by_cases ho : other = stream
  · subst ho
    rw [update_same]
    exact hu
  · rw [update_other h ho]
    exact hu

theorem counters_resetCounter_of {issue : Issue} (hc : (h.states other).counters issue = none)
    (counted : Issue) : ((h.resetCounter stream counted).states other).counters issue = none := by
  rw [resetCounter,setCounter]
  by_cases ho : other = stream
  · subst ho
    rw [update_same]
    by_cases hi : issue = counted
    · subst hi
      exact Function.update_self ..
    · exact (Function.update_of_ne hi ..).trans hc
  · rw [update_other h ho]
    exact hc

/-- The first sample after a reset sets the baseline and counts nothing. -/
theorem observe_unsampled (hu : (h.states stream).Unsampled) (now stampNs value : UInt64)
    (bits : ℕ) (equalStampValid : Bool) :
    (h.observe stream now stampNs (some value) bits equalStampValid).states stream =
      { h.states stream with
        lastArrival := now
        staleReported := false
        sequence := some value
        stamp := if stampNs ≠ 0 then some stampNs else none } := by
  have htouch : (h.touch stream now).states stream =
      { h.states stream with lastArrival := now, staleReported := false } := by
    rw [touch,update_same]
  have hsequence : ((h.touch stream now).states stream).sequence = none := by
    rw [htouch]
    exact hu.1
  have hsequenced : ((h.touch stream now).observeSequence stream bits value).states stream =
      { h.states stream with
        lastArrival := now
        staleReported := false
        sequence := some value } := by
    rw [observeSequence,hsequence,update_same,htouch]
  have hstamp : (((h.touch stream now).observeSequence stream bits value).states stream).stamp =
      none := by
    rw [hsequenced]
    exact hu.2.1
  rw [observe,update_same,Option.map_some,Option.getD_some,hstamp]
  dsimp only
  rw [hsequenced]

/-- With no counter kept, a counter that starts at zero counts in full. -/
theorem counter_unkept {issue : Issue} (hc : (h.states stream).counters issue = none)
    (value : UInt64) :
    (h.counter stream issue value true).states stream =
      { (h.add stream issue value).states stream with
        counters := Function.update (h.states stream).counters issue (some value) } := by
  rw [counter,hc]
  dsimp only
  rw [if_pos rfl,setCounter,update_same,add,update_same]

theorem total_condition {issue : Issue} (hc : (h.states stream).conditions issue = false)
    (active : Bool) (counted : Issue) :
    ((h.condition stream issue active).states stream).total counted =
      (h.states stream).total counted + if counted = issue ∧ active then 1 else 0 := by
  rw [condition,setCondition,update_same,hc]
  cases active with
  | true =>
    dsimp only
    rw [if_pos ⟨rfl,by decide⟩,total_add]
    simp
  | false => simp

end
end PrismRosAdapter.Health
