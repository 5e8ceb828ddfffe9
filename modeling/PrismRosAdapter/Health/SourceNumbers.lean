import Mathlib.Algebra.BigOperators.Group.List.Basic
import Mathlib.Data.Int.ModEq
import PrismRosAdapter.Health.Operations
import PrismRosAdapter.Program.Runs

/-! # Counting the steps of a source's numbers

A source numbers its samples and sends the numbers modulo `2 ^ 16`, `2 ^ 32` or
`2 ^ 64`. While every step stays within half of that range, what is counted is what
the true numbers say, wherever they roll over.
-/
namespace PrismRosAdapter.Health
open Runs SensorDataHealth

/-- A value that stands for a number of the source at a width. -/
def Carries (bits : ℕ) (value : UInt64) (number : ℤ) : Prop :=
  (value.toNat : ℤ) ≡ number [ZMOD 2 ^ bits]

/-- What a step counts. -/
def stepCount : Issue → ℤ → ℕ
  | .sequenceMissing, d => (d - 1).toNat
  | .sequenceDuplicate, d => if d = 0 then 1 else 0
  | .sequenceReset, d => if d < 0 then 1 else 0
  | _, _ => 0

def steps : ℤ → List ℤ → List ℤ
  | _, [] => []
  | n, m :: numbers => (m - n) :: steps m numbers

structure Sighting where
  now : UInt64
  stampNs : UInt64
  value : UInt64
  equalStampValid : Bool
  number : ℤ
  deriving DecidableEq, Repr

def sight (stream : Stream) (bits : ℕ) (h : SensorDataHealth) (o : Sighting) : SensorDataHealth :=
  h.observe stream o.now o.stampNs (some o.value) bits o.equalStampValid

/-- The widths a source may use. -/
def Width (bits : ℕ) : Prop := bits = 16 ∨ bits = 32 ∨ bits = 64

/-- A step that the width can tell from its wraps. -/
def Resolved (bits : ℕ) (d : ℤ) : Prop := -2 ^ (bits - 1) ≤ d ∧ d ≤ 2 ^ (bits - 1) - 1

section
variable {bits : ℕ} {previous value : UInt64} {n m : ℤ}

theorem toNat_sequenceDelta (hw : Width bits) :
    ((sequenceDelta bits previous value).toNat : ℤ) =
      ((value.toNat : ℤ) - previous.toNat) % 2 ^ bits := by
  have hp := previous.toNat_lt
  have hv := value.toNat_lt
  rcases hw with rfl | rfl | rfl
  · simp [sequenceDelta,UInt64.toNat_sub]
    omega
  · simp [sequenceDelta,UInt64.toNat_sub]
    omega
  · simp [sequenceDelta,UInt64.toNat_sub]
    omega

/-- The difference of two values is the true step, wrapped once when it is negative. -/
theorem sequenceDelta_step (hw : Width bits) (hp : Carries bits previous n)
    (hv : Carries bits value m) (hr : Resolved bits (m - n)) :
    ((sequenceDelta bits previous value).toNat : ℤ) =
      if m - n < 0 then m - n + 2 ^ bits else m - n := by
  have hd : (sequenceDelta bits previous value).toNat = (m - n) % 2 ^ bits := by
    rw [toNat_sequenceDelta hw]
    exact hv.sub hp
  obtain ⟨hlo,hhi⟩ := hr
  rw [hd]
  rcases hw with rfl | rfl | rfl
  · norm_num at *
    split <;> omega
  · norm_num at *
    split <;> omega
  · norm_num at *
    split <;> omega

theorem toNat_sequenceHalf (hw : Width bits) :
    ((sequenceHalf bits).toNat : ℤ) = 2 ^ (bits - 1) := by
  rcases hw with rfl | rfl | rfl <;> decide

theorem sequenceDelta_eq_zero_iff (hw : Width bits) (hp : Carries bits previous n)
    (hv : Carries bits value m) (hr : Resolved bits (m - n)) :
    sequenceDelta bits previous value = 0 ↔ m - n = 0 := by
  have hd := sequenceDelta_step hw hp hv hr
  have hpos : (0 : ℤ) < 2 ^ (bits - 1) := by positivity
  have hpow : (2 : ℤ) ^ bits = 2 * 2 ^ (bits - 1) := by
    rcases hw with rfl | rfl | rfl <;> norm_num
  obtain ⟨hlo,hhi⟩ := hr
  rw [← UInt64.toNat_inj,UInt64.toNat_zero]
  split at hd <;> omega

theorem half_le_sequenceDelta_iff (hw : Width bits) (hp : Carries bits previous n)
    (hv : Carries bits value m) (hr : Resolved bits (m - n)) :
    sequenceHalf bits ≤ sequenceDelta bits previous value ↔ m - n < 0 := by
  have hd := sequenceDelta_step hw hp hv hr
  have hh := toNat_sequenceHalf hw
  have hpow : (2 : ℤ) ^ bits = 2 * 2 ^ (bits - 1) := by
    rcases hw with rfl | rfl | rfl <;> norm_num
  obtain ⟨hlo,hhi⟩ := hr
  rw [UInt64.le_iff_toNat_le]
  split at hd <;> omega

theorem missing_eq {delta : UInt64} {d : ℤ} (hd : (delta.toNat : ℤ) = d) (hone : 1 < d) :
    delta - 1 = UInt64.ofNat (stepCount .sequenceMissing d) := by
  have hlt := delta.toNat_lt
  have hle : (1 : UInt64) ≤ delta := by
    rw [UInt64.le_iff_toNat_le,UInt64.toNat_one]
    omega
  rw [← UInt64.toNat_inj,UInt64.toNat_sub_of_le _ _ hle,UInt64.toNat_one,stepCount,
    UInt64.toNat_ofNat',Nat.mod_eq_of_lt (by omega)]
  omega

end

/-! ## One observation -/

section
variable {h : SensorDataHealth} {stream : Stream}

theorem touch_same (now : UInt64) : (h.touch stream now).states stream =
    { h.states stream with lastArrival := now, staleReported := false } := by
  rw [touch,update_same]

theorem sequence_add (counted : Issue) (count : UInt64) :
    ((h.add stream counted count).states stream).sequence = (h.states stream).sequence := by
  rw [add,update_same]

/-- The issues that a step of the numbers may count. -/
def Issue.ofSequence : Issue → Bool
  | .sequenceMissing | .sequenceDuplicate | .sequenceReset => true
  | _ => false

theorem Issue.ofSequence_cases {issue : Issue} (hi : issue.ofSequence) :
    issue = .sequenceMissing ∨ issue = .sequenceDuplicate ∨ issue = .sequenceReset := by
  cases issue <;> simp_all [Issue.ofSequence]

theorem total_observeStamp {issue : Issue} (hi : issue.ofSequence) (stampNs previous : UInt64)
    (equalStampValid : Bool) :
    ((h.observeStamp stream stampNs previous equalStampValid).states stream).total issue =
      (h.states stream).total issue := by
  unfold observeStamp
  dsimp only
  rcases Issue.ofSequence_cases hi with rfl | rfl | rfl <;> split_ifs <;> simp [total_add]

theorem sequence_observeStamp (stampNs previous : UInt64) (equalStampValid : Bool) :
    ((h.observeStamp stream stampNs previous equalStampValid).states stream).sequence =
      (h.states stream).sequence := by
  unfold observeStamp
  dsimp only
  split_ifs <;> simp only [sequence_add]

variable {bits : ℕ} {previous value : UInt64} {n m : ℤ}

theorem total_observeSequence (hw : Width bits) (hs : (h.states stream).sequence = some previous)
    (hp : Carries bits previous n) (hv : Carries bits value m) (hr : Resolved bits (m - n))
    {issue : Issue} (hi : issue.ofSequence) :
    ((h.observeSequence stream bits value).states stream).total issue =
      (h.states stream).total issue + UInt64.ofNat (stepCount issue (m - n)) := by
  unfold observeSequence
  rw [update_same,hs]
  dsimp only
  by_cases hz : m - n = 0
  · rw [if_pos ((sequenceDelta_eq_zero_iff hw hp hv hr).mpr hz),total_add,hz]
    rcases Issue.ofSequence_cases hi with rfl | rfl | rfl <;> rfl
  · rw [if_neg (mt (sequenceDelta_eq_zero_iff hw hp hv hr).mp hz)]
    by_cases hneg : m - n < 0
    · rw [if_pos ((half_le_sequenceDelta_iff hw hp hv hr).mpr hneg),total_add]
      have hmissing : (m - n - 1).toNat = 0 := by omega
      rcases Issue.ofSequence_cases hi with rfl | rfl | rfl <;>
        simp [stepCount,hz,hneg,hmissing]
    · rw [if_neg (mt (half_le_sequenceDelta_iff hw hp hv hr).mp hneg)]
      have hd := sequenceDelta_step hw hp hv hr
      rw [if_neg hneg] at hd
      by_cases hone : 1 < m - n
      · rw [if_pos (UInt64.lt_iff_toNat_lt.mpr (by rw [UInt64.toNat_one]; omega)),total_add,
          missing_eq hd hone]
        rcases Issue.ofSequence_cases hi with rfl | rfl | rfl <;> simp [stepCount,hz,hneg]
      · have hnone : (m - n - 1).toNat = 0 := by omega
        rw [if_neg fun hlt => by rw [UInt64.lt_iff_toNat_lt,UInt64.toNat_one] at hlt; omega]
        rcases Issue.ofSequence_cases hi with rfl | rfl | rfl <;> simp [stepCount,hz,hneg,hnone]

/-- An observation counts the true step, and its value is the next one's baseline. -/
theorem observe_counts (hw : Width bits) (hs : (h.states stream).sequence = some previous)
    (hp : Carries bits previous n) (o : Sighting) (hv : Carries bits o.value o.number)
    (hr : Resolved bits (o.number - n)) :
    ((sight stream bits h o).states stream).sequence = some o.value ∧
    ∀ issue : Issue, issue.ofSequence →
      ((sight stream bits h o).states stream).total issue =
        (h.states stream).total issue + UInt64.ofNat (stepCount issue (o.number - n)) := by
  let touched := h.touch stream o.now
  have ht : (touched.states stream).sequence = some previous := by
    rw [touch_same]
    exact hs
  unfold sight observe
  rw [update_same]
  dsimp only [Option.map_some,Option.getD_some]
  have hseq : ((touched.observeSequence stream bits o.value).states stream).sequence =
      some o.value := by
    unfold observeSequence
    rw [update_same]
  have htotal : ∀ issue : Issue, issue.ofSequence →
      ((touched.observeSequence stream bits o.value).states stream).total issue =
        (h.states stream).total issue + UInt64.ofNat (stepCount issue (o.number - n)) := by
    intro issue hi
    rw [total_observeSequence hw ht hp hv hr hi,touch_same]
  split
  · split
    · refine ⟨?_,fun issue hi => ?_⟩
      · rw [sequence_observeStamp,hseq]
      · rw [total_observeStamp hi,htotal issue hi]
    · exact ⟨hseq,htotal⟩
  · exact ⟨hseq,htotal⟩

end

/-! ## A whole run -/

theorem run_counts {stream : Stream} {bits : ℕ} (hw : Width bits) (sightings : List Sighting)
    {h : SensorDataHealth} {first : UInt64} {number : ℤ}
    (hs : (h.states stream).sequence = some first) (hn : Carries bits first number)
    (hv : ∀ o ∈ sightings, Carries bits o.value o.number)
    (hr : ∀ d ∈ steps number (sightings.map (·.number)), Resolved bits d)
    {issue : Issue} (hi : issue.ofSequence) :
    ((run (sight stream bits) h sightings).states stream).total issue =
      (h.states stream).total issue + UInt64.ofNat
        ((steps number (sightings.map (·.number))).map (stepCount issue)).sum := by
  induction sightings generalizing h first number with
  | nil => exact (add_zero _).symm
  | cons o sightings ih =>
    obtain ⟨hd,hrest⟩ := List.forall_mem_cons.mp hr
    obtain ⟨ho,hvs⟩ := List.forall_mem_cons.mp hv
    obtain ⟨hseq,htotal⟩ := observe_counts hw hs hn o ho hd
    rw [run_cons,ih hseq ho hvs hrest,htotal issue hi,List.map_cons,steps,List.map_cons,
      List.sum_cons,UInt64.ofNat_add,add_assoc]

section
variable (ds : List ℤ)

theorem sum_missing : (ds.map (stepCount .sequenceMissing)).sum =
    ((ds.filter (1 < ·)).map fun d => (d - 1).toNat).sum := by
  induction ds with
  | nil => rfl
  | cons d ds ih =>
    rw [List.map_cons,List.sum_cons,ih]
    by_cases hd : 1 < d
    · rw [List.filter_cons_of_pos (by simpa using hd),List.map_cons,List.sum_cons]
      rfl
    · have hnone : stepCount .sequenceMissing d = 0 := Int.toNat_eq_zero.mpr (by omega)
      rw [List.filter_cons_of_neg (by simpa using hd),hnone,zero_add]

theorem sum_duplicate : (ds.map (stepCount .sequenceDuplicate)).sum = ds.count 0 := by
  induction ds with
  | nil => rfl
  | cons d ds ih =>
    rw [List.map_cons,List.sum_cons,ih,List.count_cons,add_comm]
    simp [stepCount]

theorem sum_reset : (ds.map (stepCount .sequenceReset)).sum = ds.countP (· < 0) := by
  induction ds with
  | nil => rfl
  | cons d ds ih =>
    rw [List.map_cons,List.sum_cons,ih,List.countP_cons,add_comm]
    simp [stepCount]

end

/-- Going forward, the missing samples are those between the ends that were not seen. -/
theorem missing_forward (number : ℤ) (numbers : List ℤ)
    (hf : ∀ d ∈ steps number numbers, 0 < d) :
    (((steps number numbers).map (stepCount .sequenceMissing)).sum : ℤ) =
      (numbers.getLastD number - number) - numbers.length := by
  induction numbers generalizing number with
  | nil => simp [steps]
  | cons m numbers ih =>
    obtain ⟨hd,hrest⟩ := List.forall_mem_cons.mp hf
    have hm := ih m hrest
    rw [List.getLastD_cons,steps,List.map_cons,List.sum_cons,List.length_cons]
    have hone : (stepCount .sequenceMissing (m - number) : ℤ) = m - number - 1 :=
      Int.toNat_of_nonneg (by omega)
    rw [Nat.cast_add,Nat.cast_succ,hone]
    omega

/-- From a baseline on, any run of observations counts exactly the steps of the true
numbers: what is missing, the repetitions and the steps back. -/
theorem steps_counted {stream : Stream} {bits : ℕ} (hw : Width bits) (sightings : List Sighting)
    {h : SensorDataHealth} {first : UInt64} {number : ℤ}
    (hs : (h.states stream).sequence = some first) (hn : Carries bits first number)
    (hv : ∀ o ∈ sightings, Carries bits o.value o.number)
    (hr : ∀ d ∈ steps number (sightings.map (·.number)), Resolved bits d) :
    let ds := steps number (sightings.map (·.number))
    let before := (h.states stream).total
    let after := ((run (sight stream bits) h sightings).states stream).total
    let missing := ((ds.filter (1 < ·)).map fun d => (d - 1).toNat).sum
    after .sequenceMissing = before .sequenceMissing + UInt64.ofNat missing ∧
    after .sequenceDuplicate = before .sequenceDuplicate + UInt64.ofNat (ds.count 0) ∧
    after .sequenceReset = before .sequenceReset + UInt64.ofNat (ds.countP (· < 0)) ∧
    ((∀ d ∈ ds, 0 < d) → (missing : ℤ) =
      ((sightings.map (·.number)).getLastD number - number) - sightings.length) := by
  intro ds before after missing
  have hrun := @run_counts stream bits hw sightings h first number hs hn hv hr
  have hsum := sum_missing ds
  refine ⟨?_,?_,?_,?_⟩
  · have hm := @hrun .sequenceMissing rfl
    rw [hsum] at hm
    exact hm
  · have hd := @hrun .sequenceDuplicate rfl
    rw [sum_duplicate] at hd
    exact hd
  · have hb := @hrun .sequenceReset rfl
    rw [sum_reset] at hb
    exact hb
  · intro hf
    have hm := missing_forward number _ hf
    rw [List.length_map] at hm
    rw [← hm,hsum]

/-- Three samples of a board IMU after number 65535: two on, the same again, and seven
numbers back. -/
def rollover : List Sighting :=
  [⟨0,0,1,false,65537⟩,⟨0,0,1,false,65537⟩,⟨0,0,65530,false,65530⟩]

theorem steps_counted_rollover :
    let start := SensorDataHealth.observe {} .boardImu0 0 0 (some 65535) 16 false
    let after := ((run (sight .boardImu0 16) start rollover).states .boardImu0).total
    after .sequenceMissing = 1 ∧ after .sequenceDuplicate = 1 ∧ after .sequenceReset = 1 := by
  intro start after
  have hcarry : ∀ o ∈ rollover, Carries 16 o.value o.number := by
    simp [rollover,Carries,Int.ModEq]
  have hsteps : ∀ d ∈ steps 65535 (rollover.map (·.number)), Resolved 16 d := by
    simp [rollover,steps,Resolved]
  have hstart : (start.states .boardImu0).sequence = some 65535 := rfl
  obtain ⟨hm,hd,hr,_⟩ := steps_counted (Or.inl rfl) rollover hstart
    (show Carries 16 65535 65535 from rfl) hcarry hsteps
  exact ⟨hm,hd,hr⟩

end PrismRosAdapter.Health
