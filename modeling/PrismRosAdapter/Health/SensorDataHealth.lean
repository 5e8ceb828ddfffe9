import Mathlib.Data.Rat.Floor
import Mathlib.Data.UInt
import Mathlib.Logic.Function.Basic
import Mathlib.Tactic.Common

/-! # Health counters of the sensor streams

One record a stream. Silence is monitored while `silenceNs` is positive; the
counts of an issue survive every restart of its stream.
-/
namespace PrismRosAdapter.Health

inductive Stream where
  | camera0 | camera1 | camera2 | camera3 | cameraMetadata | boardImu0 | boardImu1
  | lidarPoints | lidarImu | gnssTiming | gnssReception | gnssObservations
  | gnssRaw | corsRtcm | receiver | rtkStatus | roverRtcm | transport
  | boardImuDispatch | rawDispatch | gnssFix | rtkFix
  deriving DecidableEq, Repr

inductive Issue where
  | sequenceMissing | sequenceDuplicate | sequenceReset | timestampGap
  | estimatedMissing | timestampDuplicate | timestampBackward | sourceGap
  | incomplete | cacheGap | lostBytes | unsynchronized | queueDrop | callbackError
  | queryError | sessionChanged | uartError | fifoOverflow | rejected | crcError
  | upstreamDrop | rawStale | nmeaStale | statusStale
  deriving DecidableEq, Repr

def kSecond : UInt64 := 1000000000

structure StreamHealth where
  sequence : Option UInt64 := none
  stamp : Option UInt64 := none
  session : Option UInt64 := none
  counters : Issue → Option UInt64 := fun _ => none
  conditions : Issue → Bool := fun _ => false
  pending : Issue → UInt64 := fun _ => 0
  total : Issue → UInt64 := fun _ => 0
  period : ℚ := 0
  silenceNs : UInt64 := 0
  lastArrival : UInt64 := 0
  lastReport : UInt64 := 0
  reported : Bool := false
  staleReported : Bool := false
  detail : String := ""

structure SensorDataHealth where
  states : Stream → StreamHealth := fun _ => {}

namespace SensorDataHealth

/-- Every operation rewrites the record of one stream. -/
def update (h : SensorDataHealth) (stream : Stream) (f : StreamHealth → StreamHealth) :
    SensorDataHealth :=
  ⟨Function.update h.states stream (f (h.states stream))⟩

@[simp] theorem update_same (h : SensorDataHealth) (stream : Stream)
    (f : StreamHealth → StreamHealth) : (h.update stream f).states stream = f (h.states stream) :=
  Function.update_self ..
theorem update_other (h : SensorDataHealth) {stream other : Stream} (hne : other ≠ stream)
    (f : StreamHealth → StreamHealth) : (h.update stream f).states other = h.states other :=
  Function.update_of_ne hne ..

/-- The nanoseconds between two samples at a rate that is taken seriously. -/
def periodOf (rateHz : ℚ) : ℚ :=
  if 1 / 1000 ≤ rateHz ∧ rateHz ≤ 1000000 then 1000000000 / rateHz else 0

def silenceOf (period : ℚ) (silenceNs : UInt64) : UInt64 :=
  if 0 < period ∧ silenceNs ≠ 0 then
    max silenceNs (UInt64.ofNat ⌊3 * period⌋.toNat)
  else silenceNs

def reset (h : SensorDataHealth) (stream : Stream) (now : UInt64) (rateHz : ℚ)
    (silenceNs : UInt64) : SensorDataHealth :=
  h.update stream fun s => { s with
    sequence := none
    stamp := none
    session := none
    conditions := fun _ => false
    lastArrival := now
    staleReported := false
    period := periodOf rateHz
    silenceNs := silenceOf (periodOf rateHz) silenceNs }

def disable (h : SensorDataHealth) (stream : Stream) : SensorDataHealth :=
  h.update stream fun s => { s with silenceNs := 0 }

def touch (h : SensorDataHealth) (stream : Stream) (now : UInt64) : SensorDataHealth :=
  h.update stream fun s => { s with lastArrival := now, staleReported := false }

def add (h : SensorDataHealth) (stream : Stream) (issue : Issue) (count : UInt64) :
    SensorDataHealth :=
  h.update stream fun s => { s with
    pending := Function.update s.pending issue (s.pending issue + count)
    total := Function.update s.total issue (s.total issue + count) }

def setCondition (h : SensorDataHealth) (stream : Stream) (issue : Issue) (active : Bool) :
    SensorDataHealth :=
  h.update stream fun s => { s with conditions := Function.update s.conditions issue active }

def condition (h : SensorDataHealth) (stream : Stream) (issue : Issue) (active : Bool) :
    SensorDataHealth :=
  let counted :=
    if active ∧ ¬ (h.states stream).conditions issue then h.add stream issue 1 else h
  counted.setCondition stream issue active

def setCounter (h : SensorDataHealth) (stream : Stream) (issue : Issue)
    (value : Option UInt64) : SensorDataHealth :=
  h.update stream fun s => { s with counters := Function.update s.counters issue value }

def resetCounter (h : SensorDataHealth) (stream : Stream) (issue : Issue) : SensorDataHealth :=
  h.setCounter stream issue none

/-- A cumulative counter that goes back is a new baseline, never a loss. -/
def counter (h : SensorDataHealth) (stream : Stream) (issue : Issue) (value : UInt64)
    (initialIsNew : Bool) : SensorDataHealth :=
  let counted :=
    match (h.states stream).counters issue with
    | some previous => if previous ≤ value then h.add stream issue (value - previous) else h
    | none => if initialIsNew then h.add stream issue value else h
  counted.setCounter stream issue (some value)

/-- The step to `value` at a sequence width, and half of the width's range. -/
def sequenceDelta (bits : ℕ) (previous value : UInt64) : UInt64 :=
  if bits = 16 then (value - previous).toUInt16.toUInt64
  else if bits = 32 then (value - previous).toUInt32.toUInt64
  else value - previous

def sequenceHalf (bits : ℕ) : UInt64 :=
  if bits = 16 then 0x8000 else if bits = 32 then 0x80000000 else 0x8000000000000000

def resetsSequence (s : StreamHealth) (bits : ℕ) (value : UInt64) : Bool :=
  match s.sequence with
  | some previous =>
    let delta := sequenceDelta bits previous value
    decide (delta ≠ 0 ∧ sequenceHalf bits ≤ delta)
  | none => false

def observeSequence (h : SensorDataHealth) (stream : Stream) (bits : ℕ) (value : UInt64) :
    SensorDataHealth :=
  let counted :=
    match (h.states stream).sequence with
    | some previous =>
      let delta := sequenceDelta bits previous value
      if delta = 0 then h.add stream .sequenceDuplicate 1
      else if sequenceHalf bits ≤ delta then h.add stream .sequenceReset 1
      else if 1 < delta then h.add stream .sequenceMissing (delta - 1)
      else h
    | none => h
  counted.update stream fun s => { s with sequence := some value }

/-- The number of samples a gap stands for, rounded half away from zero. -/
def estimatedMissing (period : ℚ) (gapNs : UInt64) : UInt64 :=
  UInt64.ofNat (min (⌊(gapNs.toNat : ℚ) / period + 1 / 2⌋ - 1) 1000000000).toNat

def observeStamp (h : SensorDataHealth) (stream : Stream) (stampNs previous : UInt64)
    (equalStampValid : Bool) : SensorDataHealth :=
  let period := (h.states stream).period
  if stampNs < previous then h.add stream .timestampBackward 1
  else if stampNs = previous then
    if equalStampValid then h else h.add stream .timestampDuplicate 1
  else if 0 < period ∧ 3 / 2 * period < ((stampNs - previous).toNat : ℚ) then
    (h.add stream .timestampGap 1).add stream .estimatedMissing
      (estimatedMissing period (stampNs - previous))
  else h

/-- An unknown stamp, a reset or a backwards clock starts a new time baseline. -/
def observe (h : SensorDataHealth) (stream : Stream) (now stampNs : UInt64)
    (sequence : Option UInt64) (bits : ℕ) (equalStampValid : Bool) : SensorDataHealth :=
  let touched := h.touch stream now
  let reset := (sequence.map (resetsSequence (touched.states stream) bits)).getD false
  let sequenced := (sequence.map (touched.observeSequence stream bits)).getD touched
  let timed :=
    match (sequenced.states stream).stamp with
    | some previous =>
      if stampNs ≠ 0 ∧ ¬ reset then
        sequenced.observeStamp stream stampNs previous equalStampValid
      else sequenced
    | none => sequenced
  timed.update stream fun s => { s with stamp := if stampNs ≠ 0 then some stampNs else none }

def silence (h : SensorDataHealth) (stream : Stream) : UInt64 := (h.states stream).silenceNs

theorem silence_update (h : SensorDataHealth) (stream : Stream) (f : StreamHealth → StreamHealth)
    (hf : ∀ s, (f s).silenceNs = s.silenceNs) (other : Stream) :
    (h.update stream f).silence other = h.silence other := by
  unfold silence
  by_cases ho : other = stream
  · subst other
    rw [update_same,hf]
  · rw [update_other h ho]

@[simp] theorem silence_touch (h : SensorDataHealth) (stream : Stream) (now : UInt64)
    (other : Stream) : (h.touch stream now).silence other = h.silence other :=
  h.silence_update stream _ (by intro _; rfl) other
@[simp] theorem silence_add (h : SensorDataHealth) (stream : Stream) (issue : Issue)
    (count : UInt64) (other : Stream) : (h.add stream issue count).silence other =
      h.silence other := h.silence_update stream _ (by intro _; rfl) other
@[simp] theorem silence_setCounter (h : SensorDataHealth) (stream : Stream) (issue : Issue)
    (value : Option UInt64) (other : Stream) :
    (h.setCounter stream issue value).silence other = h.silence other :=
  h.silence_update stream _ (by intro _; rfl) other
@[simp] theorem silence_setCondition (h : SensorDataHealth) (stream : Stream) (issue : Issue)
    (active : Bool) (other : Stream) :
    (h.setCondition stream issue active).silence other = h.silence other :=
  h.silence_update stream _ (by intro _; rfl) other
@[simp] theorem silence_resetCounter (h : SensorDataHealth) (stream : Stream) (issue : Issue)
    (other : Stream) : (h.resetCounter stream issue).silence other = h.silence other :=
  h.silence_setCounter stream issue none other

@[simp] theorem silence_condition (h : SensorDataHealth) (stream : Stream) (issue : Issue)
    (active : Bool) (other : Stream) :
    (h.condition stream issue active).silence other = h.silence other := by
  unfold condition
  rw [silence_setCondition]
  split
  · rw [silence_add]
  · rfl

@[simp] theorem silence_counter (h : SensorDataHealth) (stream : Stream) (issue : Issue)
    (value : UInt64) (initialIsNew : Bool) (other : Stream) :
    (h.counter stream issue value initialIsNew).silence other = h.silence other := by
  unfold counter
  rw [silence_setCounter]
  split <;> split <;> simp

@[simp] theorem silence_observeSequence (h : SensorDataHealth) (stream : Stream) (bits : ℕ)
    (value : UInt64) (other : Stream) :
    (h.observeSequence stream bits value).silence other = h.silence other := by
  unfold observeSequence
  rw [silence_update _ _ _ (by intro _; rfl)]
  split
  · dsimp only
    split_ifs <;> simp
  · rfl

@[simp] theorem silence_observeStamp (h : SensorDataHealth) (stream : Stream)
    (stampNs previous : UInt64) (equalStampValid : Bool) (other : Stream) :
    (h.observeStamp stream stampNs previous equalStampValid).silence other = h.silence other := by
  unfold observeStamp
  dsimp only
  split_ifs <;> simp

/-- Observing a sample arms nothing and disarms nothing. -/
@[simp] theorem silence_observe (h : SensorDataHealth) (stream : Stream) (now stampNs : UInt64)
    (sequence : Option UInt64) (bits : ℕ) (equalStampValid : Bool) (other : Stream) :
    (h.observe stream now stampNs sequence bits equalStampValid).silence other =
      h.silence other := by
  have hs : ((sequence.map ((h.touch stream now).observeSequence stream bits)).getD
      (h.touch stream now)).silence other = h.silence other := by
    cases sequence <;> simp
  unfold observe
  rw [silence_update _ _ _ (by intro _; rfl)]
  split
  · split
    · rw [silence_observeStamp,hs]
    · exact hs
  · exact hs

theorem silenceOf_pos {period : ℚ} {silenceNs : UInt64} (h : 0 < silenceNs) :
    0 < silenceOf period silenceNs := by
  unfold silenceOf
  split
  · rw [UInt64.lt_iff_toNat_lt] at h ⊢
    have hle : silenceNs ≤ max silenceNs (UInt64.ofNat ⌊3 * period⌋.toNat) := by
      unfold max instMaxUInt64 maxOfLe
      dsimp only
      split
      · assumption
      · exact UInt64.le_refl _
    exact h.trans_le (UInt64.le_iff_toNat_le.mp hle)
  · exact h

theorem silence_reset_same (h : SensorDataHealth) (stream : Stream) (now : UInt64) (rateHz : ℚ)
    (silenceNs : UInt64) : (h.reset stream now rateHz silenceNs).silence stream =
      silenceOf (periodOf rateHz) silenceNs := by
  unfold silence reset
  rw [update_same]

theorem silence_reset_other (h : SensorDataHealth) {stream other : Stream} (hne : other ≠ stream)
    (now : UInt64) (rateHz : ℚ) (silenceNs : UInt64) :
    (h.reset stream now rateHz silenceNs).silence other = h.silence other := by
  unfold silence reset
  rw [update_other h hne]

end SensorDataHealth
end PrismRosAdapter.Health
