import Mathlib.Data.List.Infix
import PrismRosAdapter.Health.Reports

/-! # Polls of a cumulative counter

The first value given is the baseline, and each later one adds what it gained on the
one before. The baseline outlives restarts of its stream, so that every loss is
counted once however often and whenever the counter is polled.
-/
namespace PrismRosAdapter.Health
open Runs SensorDataHealth

/-- The issues that a sample may count. -/
def Issue.observed : Issue → Bool
  | .sequenceMissing | .sequenceDuplicate | .sequenceReset | .timestampBackward
  | .timestampDuplicate | .timestampGap | .estimatedMissing => true
  | _ => false

namespace SensorDataHealth.Operation
variable (stream : Stream) (issue : Issue)

/-- The value a poll of the counter gives, and whether a first one is new. -/
def poll : Operation → Option (UInt64 × Bool)
  | .counter polled counted value initialIsNew =>
    if polled = stream ∧ counted = issue then some (value,initialIsNew) else none
  | _ => none

/-- The operations other than `counter` that may count the issue. -/
def mayCount : Operation → Bool
  | .session changed _ => changed = stream ∧ issue = .sessionChanged
  | .add counted kind _ | .condition counted kind _ => counted = stream ∧ issue = kind
  | .queryError queried _ => queried = stream ∧ issue = .queryError
  | .observe observed _ _ _ _ _ => observed = stream ∧ issue.observed
  | _ => false

end SensorDataHealth.Operation

/-- What the polls of one counter add to the total of its issue. -/
def countedByPolls (stream : Stream) (issue : Issue) : SensorDataHealth → List Operation → UInt64
  | _, [] => 0
  | h, op :: ops =>
    (if (op.poll stream issue).isSome then
      ((h.apply op).states stream).total issue - (h.states stream).total issue else 0) +
      countedByPolls stream issue (h.apply op) ops

/-- The sum of the positive increments of a list. -/
def rises (values : List ℕ) : ℕ :=
  (values.zipWith (fun previous value => value - previous) values.tail).sum

/-- What polls gain on a baseline. -/
def gained : Option UInt64 → List (UInt64 × Bool) → ℕ
  | _, [] => 0
  | some previous, (value,_) :: polls => (value.toNat - previous.toNat) + gained (some value) polls
  | none, (value,initialIsNew) :: polls =>
    (if initialIsNew then value.toNat else 0) + gained (some value) polls

theorem gained_some (previous : UInt64) (polls : List (UInt64 × Bool)) :
    gained (some previous) polls = rises (previous.toNat :: polls.map (·.1.toNat)) := by
  induction polls generalizing previous with
  | nil => rfl
  | cons poll polls ih =>
    rw [gained,ih]
    rfl

theorem gained_none (polls : List (UInt64 × Bool)) :
    gained none polls = (if polls.head?.any (·.2) then (polls.map (·.1.toNat)).headD 0 else 0) +
      rises (polls.map (·.1.toNat)) := by
  cases polls with
  | nil => rfl
  | cons poll polls =>
    rw [gained,gained_some]
    rfl

/-- What a nondecreasing counter rises by is its last value less its first. -/
theorem rises_of_sorted {value : ℕ} {values : List ℕ}
    (hs : (value :: values).Pairwise (· ≤ ·)) :
    rises (value :: values) + value = values.getLastD value := by
  induction values generalizing value with
  | nil => exact zero_add value
  | cons next values ih =>
    obtain ⟨hle,hrest⟩ := List.pairwise_cons.mp hs
    have hnext := hle next List.mem_cons_self
    have hrises : rises (value :: next :: values) = (next - value) + rises (next :: values) := rfl
    rw [List.getLastD_cons,← ih hrest,hrises]
    omega

/-! ## One operation -/

section
variable {h : SensorDataHealth} {stream : Stream} {issue : Issue}

theorem blind_counters : Blind (·.counters) where
  counts := by intros; rfl
  baselines := by intros; rfl
  detail := by intros; rfl

theorem total_add_of_ne {counted : Issue} (hne : issue ≠ counted) (count : UInt64) :
    ((h.add stream counted count).states stream).total issue = (h.states stream).total issue := by
  rw [total_add,if_neg hne,add_zero]

theorem total_observe (hi : issue.observed = false) (now stampNs : UInt64)
    (sequence : Option UInt64) (bits : ℕ) (equalStampValid : Bool) :
    ((h.observe stream now stampNs sequence bits equalStampValid).states stream).total issue =
      (h.states stream).total issue := by
  have hadd (g : SensorDataHealth) {counted : Issue} (hc : counted.observed) (count : UInt64) :
      ((g.add stream counted count).states stream).total issue = (g.states stream).total issue :=
    total_add_of_ne (by rintro rfl; rw [hi] at hc; cases hc) count
  have htouch : ((h.touch stream now).states stream).total = (h.states stream).total :=
    (sameCounts_touch now).2
  have hs : (((sequence.map ((h.touch stream now).observeSequence stream bits)).getD
      (h.touch stream now)).states stream).total issue = (h.states stream).total issue := by
    cases sequence with
    | none => rw [Option.map_none,Option.getD_none,htouch]
    | some value =>
      rw [Option.map_some,Option.getD_some,observeSequence,update_same]
      dsimp only
      split
      · split_ifs
        · rw [hadd _ rfl,htouch]
        · rw [hadd _ rfl,htouch]
        · rw [hadd _ rfl,htouch]
        · rw [htouch]
      · rw [htouch]
  unfold observe
  rw [update_same]
  dsimp only
  split
  · split
    · unfold observeStamp
      dsimp only
      split_ifs
      · rw [hadd _ rfl,hs]
      · exact hs
      · rw [hadd _ rfl,hs]
      · rw [hadd _ rfl,hadd _ rfl,hs]
      · exact hs
    · exact hs
  · exact hs

theorem counters_counter (value : UInt64) (initialIsNew : Bool) :
    ((h.counter stream issue value initialIsNew).states stream).counters issue = some value := by
  rw [blind_counters.counter,setCounter,update_same]
  exact Function.update_self ..

/-- A poll counts what the value gained on the baseline. -/
theorem total_counter (value : UInt64) (initialIsNew : Bool) :
    ((h.counter stream issue value initialIsNew).states stream).total issue =
      (h.states stream).total issue + UInt64.ofNat
        (gained ((h.states stream).counters issue) [(value,initialIsNew)]) := by
  unfold counter setCounter
  rw [update_same]
  dsimp only
  cases (h.states stream).counters issue with
  | some previous =>
    dsimp only [gained]
    by_cases hle : previous ≤ value
    · rw [if_pos hle,total_add,if_pos rfl,add_zero,
        ← UInt64.toNat_sub_of_le _ _ hle,UInt64.ofNat_toNat]
    · rw [if_neg hle,add_zero,Nat.sub_eq_zero_of_le]
      · exact (add_zero _).symm
      · rw [UInt64.le_iff_toNat_le] at hle
        omega
  | none =>
    dsimp only [gained]
    cases initialIsNew with
    | true => rw [if_pos rfl,if_pos rfl,total_add,if_pos rfl,add_zero,UInt64.ofNat_toNat]
    | false => rw [if_neg nofun,if_neg nofun]; exact (add_zero _).symm

variable {op : Operation}

theorem counters_setCounter {polled : Stream} {counted : Issue}
    (hne : ¬ (polled = stream ∧ counted = issue)) (value : Option UInt64) :
    ((h.setCounter polled counted value).states stream).counters issue =
      (h.states stream).counters issue := by
  unfold setCounter
  by_cases hs : stream = polled
  · subst hs
    rw [update_same]
    exact Function.update_of_ne (fun hi => hne ⟨rfl,hi.symm⟩) ..
  · rw [update_other _ hs]

/-- The baseline of a counter is moved by its polls and by `resetCounter` only. -/
theorem apply_counters (hpoll : op.poll stream issue = none)
    (hreset : op ≠ .resetCounter stream issue) :
    ((h.apply op).states stream).counters issue = (h.states stream).counters issue := by
  cases op with
  | reset =>
    unfold apply SensorDataHealth.reset
    exact congrFun (update_blind (·.counters) (by intros; rfl) h _ stream) issue
  | disable =>
    unfold apply SensorDataHealth.disable
    exact congrFun (update_blind (·.counters) (by intros; rfl) h _ stream) issue
  | touch =>
    unfold apply SensorDataHealth.touch
    exact congrFun (update_blind (·.counters) (by intros; rfl) h _ stream) issue
  | session _ sessionId => exact congrFun (blind_counters.apply_session sessionId) issue
  | add _ kind count => exact congrFun (blind_counters.add kind count) issue
  | condition _ kind active => exact congrFun (blind_counters.condition kind active) issue
  | resetCounter polled counted =>
    refine counters_setCounter ?_ none
    rintro ⟨rfl,rfl⟩
    exact hreset rfl
  | queryError _ detail => exact congrFun (blind_counters.queryError detail) issue
  | counter polled counted value initialIsNew =>
    have hne : ¬ (polled = stream ∧ counted = issue) := fun he => by
      rw [Operation.poll,if_pos he] at hpoll
      cases hpoll
    rw [apply,blind_counters.counter,counters_setCounter hne]
  | observe observed now =>
    rw [apply,blind_counters.observe]
    unfold SensorDataHealth.touch
    exact congrFun (update_blind (·.counters) (by intros; rfl) h _ stream) issue
  | reports now force =>
    by_cases hp : (h.states stream).prints now force
    · rw [apply,reported_of_prints hp]
      rfl
    · rw [apply,reported_of_not_prints hp]

theorem apply_total_same (hop : op.stream = some stream) (hpoll : op.poll stream issue = none)
    (hcount : op.mayCount stream issue = false) :
    ((h.apply op).states stream).total issue = (h.states stream).total issue := by
  cases op with
  | reset => exact congrFun (sameCounts_reset _ _ _).2 issue
  | disable => exact congrFun sameCounts_disable.2 issue
  | touch => exact congrFun (sameCounts_touch _).2 issue
  | resetCounter => exact congrFun (sameCounts_resetCounter _).2 issue
  | session changed sessionId =>
    obtain rfl := Option.some.inj hop
    have hne : issue ≠ .sessionChanged := by simpa [Operation.mayCount] using hcount
    rw [apply,SensorDataHealth.session,update_same]
    split
    · rw [update_same,total_add_of_ne hne]
    · rfl
  | add counted kind count =>
    obtain rfl := Option.some.inj hop
    exact total_add_of_ne (by simpa [Operation.mayCount] using hcount) count
  | condition counted kind active =>
    obtain rfl := Option.some.inj hop
    have hne : issue ≠ kind := by simpa [Operation.mayCount] using hcount
    rw [apply,SensorDataHealth.condition,setCondition,update_same]
    split
    · rw [total_add_of_ne hne]
    · rfl
  | queryError queried detail =>
    obtain rfl := Option.some.inj hop
    have hne : issue ≠ .queryError := by simpa [Operation.mayCount] using hcount
    rw [apply,SensorDataHealth.queryError,update_same,total_add_of_ne hne]
  | counter polled counted value initialIsNew =>
    obtain rfl := Option.some.inj hop
    have hne : issue ≠ counted := by
      rintro rfl
      simp [Operation.poll] at hpoll
    rw [apply,SensorDataHealth.counter,setCounter,update_same]
    dsimp only
    split
    · split
      · rw [total_add_of_ne hne]
      · rfl
    · split
      · rw [total_add_of_ne hne]
      · rfl
  | observe observed =>
    obtain rfl := Option.some.inj hop
    exact total_observe (by simpa [Operation.mayCount] using hcount) _ _ _ _ _
  | reports => cases hop

theorem apply_total (hpoll : op.poll stream issue = none)
    (hcount : op.mayCount stream issue = false) :
    ((h.apply op).states stream).total issue = (h.states stream).total issue := by
  by_cases hop : op.stream = some stream
  · exact apply_total_same hop hpoll hcount
  · cases hs : op.stream with
    | some other =>
      rw [apply_other hs]
      rintro rfl
      exact hop hs
    | none =>
      cases op with
      | reports now force => exact congrFun (total_reports now force) issue
      | _ => cases hs

end

/-! ## A whole run -/

theorem eq_counter_of_poll {stream : Stream} {issue : Issue} {op : Operation}
    {poll : UInt64 × Bool} (h : op.poll stream issue = some poll) :
    op = .counter stream issue poll.1 poll.2 := by
  cases op with
  | counter polled counted value initialIsNew =>
    rw [Operation.poll] at h
    split at h
    · rename_i he
      obtain ⟨rfl,rfl⟩ := he
      obtain rfl := Option.some.inj h
      rfl
    · cases h
  | _ => cases h

section
variable {stream : Stream} {issue : Issue}

theorem gained_cons (baseline : Option UInt64) (poll : UInt64 × Bool)
    (polls : List (UInt64 × Bool)) :
    gained baseline (poll :: polls) = gained baseline [poll] + gained (some poll.1) polls := by
  cases baseline <;> rfl

theorem countedByPolls_eq (ops : List Operation) {h : SensorDataHealth}
    (hreset : ∀ op ∈ ops, op ≠ .resetCounter stream issue) :
    countedByPolls stream issue h ops = UInt64.ofNat
      (gained ((h.states stream).counters issue) (ops.filterMap (·.poll stream issue))) := by
  induction ops generalizing h with
  | nil => cases (h.states stream).counters issue <;> rfl
  | cons op ops ih =>
    obtain ⟨hop,hrest⟩ := List.forall_mem_cons.mp hreset
    rw [countedByPolls,ih hrest]
    cases hp : op.poll stream issue with
    | none =>
      rw [apply_counters hp hop,List.filterMap_cons_none hp,if_neg nofun,zero_add]
    | some poll =>
      obtain rfl := eq_counter_of_poll hp
      rw [if_pos Option.isSome_some,List.filterMap_cons_some hp,gained_cons,UInt64.ofNat_add,apply,
        counters_counter,total_counter,add_sub_cancel_left]

theorem total_run (ops : List Operation) {h : SensorDataHealth}
    (hcount : ∀ op ∈ ops, op.mayCount stream issue = false) :
    ((run apply h ops).states stream).total issue =
      (h.states stream).total issue + countedByPolls stream issue h ops := by
  induction ops generalizing h with
  | nil => exact (add_zero _).symm
  | cons op ops ih =>
    obtain ⟨hop,hrest⟩ := List.forall_mem_cons.mp hcount
    rw [run_cons,ih hrest,countedByPolls,← add_assoc]
    cases hp : op.poll stream issue with
    | none => rw [apply_total hp hop,if_neg nofun,add_zero]
    | some poll => rw [if_pos Option.isSome_some,add_sub_cancel]

/-- Whatever else happens between the polls of a counter without a baseline, except
that its baseline is dropped, they count the positive increments of its values, and
the first value if it was given as new. -/
theorem polls_counted (ops : List Operation) {h : SensorDataHealth}
    (hnew : (h.states stream).counters issue = none)
    (hreset : ∀ op ∈ ops, op ≠ .resetCounter stream issue) :
    let polls := ops.filterMap (·.poll stream issue)
    let values := polls.map (·.1.toNat)
    let initialIsNew := polls.head?.any (·.2)
    let counted := (if initialIsNew then values.headD 0 else 0) + rises values
    countedByPolls stream issue h ops = UInt64.ofNat counted ∧
    ((∀ op ∈ ops, op.mayCount stream issue = false) →
      ((run apply h ops).states stream).total issue =
        (h.states stream).total issue + UInt64.ofNat counted) ∧
    (values.Pairwise (· ≤ ·) → counted =
      if initialIsNew then values.getLastD 0 else values.getLastD 0 - values.headD 0) := by
  intro polls values initialIsNew counted
  have heq : countedByPolls stream issue h ops = UInt64.ofNat counted := by
    rw [countedByPolls_eq ops hreset,hnew,gained_none]
  refine ⟨heq,?_,?_⟩
  · intro hcount
    rw [total_run ops hcount,heq]
  · intro hs
    change (if initialIsNew then values.headD 0 else 0) + rises values = _
    cases hv : values with
    | nil => split <;> rfl
    | cons value rest =>
      rw [hv] at hs
      have hrises := rises_of_sorted hs
      rw [List.headD_cons,List.getLastD_cons]
      split <;> omega

/-- Drops polled around a restart of their stream, a report and a counter set back. -/
def polledDrops : List Operation :=
  [.counter .rawDispatch .queueDrop 4 true,.reset .rawDispatch 1 0 0,
    .counter .rawDispatch .queueDrop 9 true,.reports 2 true,
    .counter .rawDispatch .queueDrop 3 true,.counter .rawDispatch .queueDrop 10 true]

theorem polls_counted_set_back :
    ((run apply {} polledDrops).states .rawDispatch).total .queueDrop = 16 := by
  obtain ⟨_,htotal,_⟩ := polls_counted (h := {}) polledDrops
    (rfl : (({} : SensorDataHealth).states .rawDispatch).counters .queueDrop = none) (by decide)
  exact htotal (by decide)

end
end PrismRosAdapter.Health
