import Mathlib.Data.UInt
import Mathlib.Tactic.Common

/-! # The common device clock

The newest board or camera observation is the reference. A LiDAR time is taken
over in the representation that lies closest to the reference, carried forward
by the steady clock.
-/
namespace PrismRosAdapter.Timing

inductive DeviceTimeCandidate where
  | sdkNormalized
  | lidarRaw
  deriving DecidableEq, Repr

structure DeviceTimeResolution where
  timestampNs : UInt64 := 0
  candidate : DeviceTimeCandidate := .sdkNormalized
  deriving DecidableEq, Repr

inductive ReferenceSource where
  | none
  | camera
  | boardImu
  deriving DecidableEq, Repr

structure DeviceTimeResolver where
  timestampNs : UInt64 := 0
  arrivalSteadyNs : UInt64 := 0
  source : ReferenceSource := .none
  deriving DecidableEq, Repr

namespace DeviceTimeResolver

def maxUInt64 : UInt64 := 0xffffffffffffffff
def kBoardReferenceHoldNs : UInt64 := 2000000000
def kMaximumReferenceAgeNs : UInt64 := 5000000000
def kMaximumCandidateDeltaNs : UInt64 := 2000000000

def candidateDelta (candidate expected : UInt64) : UInt64 :=
  if candidate = 0 then maxUInt64
  else if expected ≤ candidate then candidate - expected
  else expected - candidate

def observe (r : DeviceTimeResolver) (timestampNs arrivalSteadyNs : UInt64)
    (source : ReferenceSource) : DeviceTimeResolver :=
  if timestampNs = 0 ∨ arrivalSteadyNs = 0 then r else ⟨timestampNs,arrivalSteadyNs,source⟩

def observeBoard (r : DeviceTimeResolver) (timestampNs arrivalSteadyNs : UInt64) :
    DeviceTimeResolver :=
  r.observe timestampNs arrivalSteadyNs .boardImu

/-- A camera time does not replace a board reference of the last two seconds. -/
def observeCamera (r : DeviceTimeResolver) (timestampNs arrivalSteadyNs : UInt64) :
    DeviceTimeResolver :=
  if r.source = .boardImu ∧ r.arrivalSteadyNs ≤ arrivalSteadyNs ∧
      arrivalSteadyNs - r.arrivalSteadyNs ≤ kBoardReferenceHoldNs then r
  else r.observe timestampNs arrivalSteadyNs .camera

def hasReference (r : DeviceTimeResolver) : Bool := decide (r.source ≠ .none)

def hasFreshReference (r : DeviceTimeResolver) (now : UInt64) : Bool :=
  r.hasReference && decide (r.arrivalSteadyNs ≤ now ∧
    now - r.arrivalSteadyNs ≤ kMaximumReferenceAgeNs)

/-- The reference carried forward to `arrivalSteadyNs`, when it is fresh there. -/
def expectedNs (r : DeviceTimeResolver) (arrivalSteadyNs : UInt64) : Option UInt64 :=
  if r.hasReference = false ∨ arrivalSteadyNs < r.arrivalSteadyNs then none
  else
    let elapsedNs := arrivalSteadyNs - r.arrivalSteadyNs
    if kMaximumReferenceAgeNs < elapsedNs ∨ maxUInt64 - elapsedNs < r.timestampNs then none
    else some (r.timestampNs + elapsedNs)

def resolveLidar (r : DeviceTimeResolver) (sdkNormalizedNs rawNs arrivalSteadyNs : UInt64) :
    Option DeviceTimeResolution :=
  match r.expectedNs arrivalSteadyNs with
  | none => none
  | some expected =>
    let sdkDelta := candidateDelta sdkNormalizedNs expected
    let rawDelta := candidateDelta rawNs expected
    let useRaw := decide (rawDelta < sdkDelta)
    let bestDelta := if useRaw then rawDelta else sdkDelta
    if kMaximumCandidateDeltaNs < bestDelta then none
    else if useRaw then some ⟨rawNs,.lidarRaw⟩ else some ⟨sdkNormalizedNs,.sdkNormalized⟩

/-- An accepted time is one of the two candidates, within two seconds of the
reference carried forward. -/
theorem resolveLidar_accepts {r : DeviceTimeResolver} {sdk raw now : UInt64}
    {resolution : DeviceTimeResolution} (h : r.resolveLidar sdk raw now = some resolution) :
    (resolution.timestampNs = sdk ∨ resolution.timestampNs = raw) ∧
      ∃ expected, r.expectedNs now = some expected ∧
        candidateDelta resolution.timestampNs expected ≤ kMaximumCandidateDeltaNs := by
  unfold resolveLidar at h
  cases he : r.expectedNs now with
  | none =>
    rw [he] at h
    cases h
  | some expected =>
    rw [he] at h
    dsimp only at h
    by_cases hraw : candidateDelta raw expected < candidateDelta sdk expected
    · by_cases hd : kMaximumCandidateDeltaNs < candidateDelta raw expected
      · simp [hraw,hd] at h
      · simp only [hraw, hd, decide_true, if_true, if_false, Option.some.injEq] at h
        subst h
        exact ⟨.inr rfl,expected,rfl,UInt64.not_lt.mp hd⟩
    · by_cases hd : kMaximumCandidateDeltaNs < candidateDelta sdk expected
      · simp [hraw,hd] at h
      · simp only [hraw, hd, decide_false, if_false, Option.some.injEq, Bool.false_eq_true] at h
        subst h
        exact ⟨.inl rfl,expected,rfl,UInt64.not_lt.mp hd⟩

/-- An observation arrives when it is made, or changes nothing. -/
theorem arrival_observe (r : DeviceTimeResolver) (timestampNs arrivalSteadyNs : UInt64)
    (source : ReferenceSource) :
    r.observe timestampNs arrivalSteadyNs source = r ∨
      (r.observe timestampNs arrivalSteadyNs source).arrivalSteadyNs = arrivalSteadyNs := by
  unfold observe
  split
  · exact Or.inl rfl
  · exact Or.inr rfl

end DeviceTimeResolver
end PrismRosAdapter.Timing
