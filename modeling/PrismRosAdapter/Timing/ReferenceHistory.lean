import Mathlib.Data.Nat.Dist
import Mathlib.Data.Real.Basic
import Mathlib.Tactic.Linarith
import PrismRosAdapter.Timing.DeviceTimeResolver

/-! # The reference in terms of what has been observed

The resolver holds one observation. Which one is told by the observations since the
last reset alone, and with it every resolution.
-/
namespace PrismRosAdapter.Timing
open DeviceTimeResolver

inductive ResolverCall where
  | observeBoard (timestampNs arrivalSteadyNs : UInt64)
  | observeCamera (timestampNs arrivalSteadyNs : UInt64)
  | reset
  deriving DecidableEq, Repr

def ResolverCall.isCamera : ResolverCall → Bool
  | .observeCamera _ _ => true
  | _ => false

def DeviceTimeResolver.call (r : DeviceTimeResolver) : ResolverCall → DeviceTimeResolver
  | .observeBoard timestampNs arrivalSteadyNs => r.observeBoard timestampNs arrivalSteadyNs
  | .observeCamera timestampNs arrivalSteadyNs => r.observeCamera timestampNs arrivalSteadyNs
  | .reset => {}

/-- An observation that is not ignored. -/
structure Observation where
  board : Bool
  timestampNs : UInt64
  arrivalSteadyNs : UInt64
  deriving DecidableEq, Repr

def taken (board : Bool) (timestampNs arrivalSteadyNs : UInt64) : List Observation :=
  if timestampNs = 0 ∨ arrivalSteadyNs = 0 then [] else [⟨board,timestampNs,arrivalSteadyNs⟩]

/-- What a call adds to the observations since the last reset. -/
def record (past : List Observation) : ResolverCall → List Observation
  | .observeBoard timestampNs arrivalSteadyNs => past ++ taken true timestampNs arrivalSteadyNs
  | .observeCamera timestampNs arrivalSteadyNs => past ++ taken false timestampNs arrivalSteadyNs
  | .reset => []

def sinceReset (calls : List ResolverCall) : List Observation := calls.foldl record []

def newest (board : Bool) (past : List Observation) : Option Observation :=
  past.reverse.find? (·.board == board)

/-- The camera observations after the newest board observation. -/
def cameraSince (past : List Observation) : List Observation :=
  past.reverse.takeWhile (!·.board)

/-- The newest board observation, unless a camera observation came more than two seconds
after it: then, or without one, the newest camera observation. -/
def reference (past : List Observation) : Option Observation :=
  match newest true past with
  | none => newest false past
  | some b =>
    if (cameraSince past).any fun c =>
        decide (b.arrivalSteadyNs.toNat + 2000000000 < c.arrivalSteadyNs.toNat) then
      newest false past
    else some b

/-- The resolver that holds this observation. -/
def holding : Option Observation → DeviceTimeResolver
  | none => {}
  | some o => ⟨o.timestampNs,o.arrivalSteadyNs,if o.board then .boardImu else .camera⟩

def Ordered (past : List Observation) : Prop :=
  past.Pairwise fun o o' => o.arrivalSteadyNs ≤ o'.arrivalSteadyNs

instance (past : List Observation) : Decidable (Ordered past) :=
  inferInstanceAs (Decidable (past.Pairwise _))

section
variable {past : List Observation} {o b : Observation} {board : Bool}

@[simp] theorem newest_snoc : newest board (past ++ [o]) =
    if o.board = board then some o else newest board past := by
  unfold newest
  rw [List.reverse_append,List.reverse_singleton,List.singleton_append,List.find?_cons]
  by_cases h : o.board = board
  · simp [h]
  · simp [beq_false_of_ne h,h]

@[simp] theorem cameraSince_snoc : cameraSince (past ++ [o]) =
    if o.board then [] else o :: cameraSince past := by
  unfold cameraSince
  rw [List.reverse_append,List.reverse_singleton,List.singleton_append,List.takeWhile_cons]
  cases o.board <;> rfl

theorem newest_mem (h : newest board past = some o) : o ∈ past ∧ o.board = board :=
  ⟨List.mem_reverse.mp (List.mem_of_find?_eq_some h),by simpa using List.find?_some h⟩

/-- A new board observation is the reference. -/
theorem reference_board (h : o.board = true) : reference (past ++ [o]) = some o := by
  simp [reference,h]

theorem newest_camera_board (h : newest false past = some o) : ¬ (o.board = true) := by
  rw [(newest_mem h).2]
  exact Bool.false_ne_true

/-- A new camera observation is the reference, unless a board reference is held that
is at most two seconds old. -/
theorem reference_camera (h : o.board = false) : reference (past ++ [o]) =
    match reference past with
    | none => some o
    | some r => if r.board = true ∧
        o.arrivalSteadyNs.toNat ≤ r.arrivalSteadyNs.toNat + 2000000000 then some r
      else some o := by
  have hcamera : newest false (past ++ [o]) = some o := by simp [h]
  have hprevious : (match newest false past with
      | none => some o
      | some r => if r.board = true ∧
          o.arrivalSteadyNs.toNat ≤ r.arrivalSteadyNs.toNat + 2000000000 then some r
        else some o) = some o := by
    cases hn : newest false past with
    | none => rfl
    | some r => exact if_neg fun hr => newest_camera_board hn hr.1
  unfold reference
  rw [newest_snoc,h,if_neg Bool.false_ne_true,hcamera,cameraSince_snoc,h,
    if_neg Bool.false_ne_true]
  cases hb : newest true past with
  | none => exact hprevious.symm
  | some b =>
    dsimp only
    rw [List.any_cons]
    by_cases hstale : ((cameraSince past).any fun c =>
        decide (b.arrivalSteadyNs.toNat + 2000000000 < c.arrivalSteadyNs.toNat)) = true
    · rw [if_pos hstale,hprevious,if_pos (by rw [hstale,Bool.or_true])]
    · rw [if_neg hstale,Bool.eq_false_of_not_eq_true hstale,Bool.or_false]
      by_cases hlate : b.arrivalSteadyNs.toNat + 2000000000 < o.arrivalSteadyNs.toNat
      · simp [hlate]
      · simp [hlate,(newest_mem hb).2]

theorem reference_mem (h : reference past = some o) : o ∈ past := by
  unfold reference at h
  cases hb : newest true past with
  | none =>
    rw [hb] at h
    exact (newest_mem h).1
  | some b =>
    rw [hb] at h
    dsimp only at h
    split at h
    · exact (newest_mem h).1
    · exact Option.some.inj h ▸ (newest_mem hb).1

/-- A camera observation finds the board's reference held for two seconds. -/
theorem held_iff {earlier later : UInt64} (h : earlier ≤ later) :
    later - earlier ≤ kBoardReferenceHoldNs ↔ later.toNat ≤ earlier.toNat + 2000000000 := by
  have hle := UInt64.le_iff_toNat_le.mp h
  have hlimit : kBoardReferenceHoldNs.toNat = 2000000000 := rfl
  rw [UInt64.le_iff_toNat_le,UInt64.toNat_sub_of_le _ _ h]
  omega

/-- Observations one by one keep the resolver at the reference. -/
theorem holding_observe {past : List Observation} {timestampNs arrivalSteadyNs : UInt64}
    (hordered : Ordered (past ++ taken board timestampNs arrivalSteadyNs)) :
    (holding (reference past)).call (if board then .observeBoard timestampNs arrivalSteadyNs
      else .observeCamera timestampNs arrivalSteadyNs) =
      holding (reference (past ++ taken board timestampNs arrivalSteadyNs)) := by
  unfold taken at hordered ⊢
  by_cases hzero : timestampNs = 0 ∨ arrivalSteadyNs = 0
  · rw [if_pos hzero,List.append_nil]
    cases board with
    | true => exact if_pos hzero
    | false =>
      rw [if_neg Bool.false_ne_true,DeviceTimeResolver.call,observeCamera]
      split
      · rfl
      · exact if_pos hzero
  · rw [if_neg hzero] at hordered ⊢
    have hobserve : ∀ (r : DeviceTimeResolver) source,
        r.observe timestampNs arrivalSteadyNs source = ⟨timestampNs,arrivalSteadyNs,source⟩ :=
      fun r source => if_neg hzero
    cases board with
    | true =>
      rw [if_pos rfl,reference_board rfl]
      exact hobserve _ _
    | false =>
      rw [if_neg Bool.false_ne_true,DeviceTimeResolver.call,observeCamera,hobserve,
        reference_camera rfl]
      cases hr : reference past with
      | none => rfl
      | some r =>
        have hle : r.arrivalSteadyNs ≤ arrivalSteadyNs := by
          have hpair := List.pairwise_append.mp hordered
          exact hpair.2.2 r (reference_mem hr) _ List.mem_cons_self
        have hhold := held_iff hle
        dsimp only
        cases hboard : r.board with
        | false => simp [holding,hboard]
        | true =>
          by_cases hlate : arrivalSteadyNs.toNat ≤ r.arrivalSteadyNs.toNat + 2000000000
          · simp [holding,hboard,hle,hhold,hlate]
          · simp [holding,hboard,hhold,hlate]

theorem sinceReset_snoc {calls : List ResolverCall} {c : ResolverCall} :
    sinceReset (calls ++ [c]) = record (sinceReset calls) c := by
  simp [sinceReset]

/-- The observations before a call are ordered when those after it are, except that a
reset forgets them. -/
theorem Ordered.of_record {c : ResolverCall} (h : Ordered (record past c)) :
    c = .reset ∨ Ordered past := by
  cases c with
  | reset => exact .inl rfl
  | observeBoard => exact .inr (List.pairwise_append.mp h).1
  | observeCamera => exact .inr (List.pairwise_append.mp h).1

/-- After any calls the resolver holds the reference of the observations. -/
theorem run_eq_holding {calls : List ResolverCall} (h : Ordered (sinceReset calls)) :
    calls.foldl call {} = holding (reference (sinceReset calls)) := by
  induction calls using List.reverseRecOn with
  | nil => rfl
  | append_singleton calls c ih =>
    rw [sinceReset_snoc] at h ⊢
    rw [List.foldl_append,List.foldl_cons,List.foldl_nil]
    rcases h.of_record with rfl | hpast
    · rfl
    · rw [ih hpast]
      cases c with
      | observeBoard timestampNs arrivalSteadyNs => exact (holding_observe h :)
      | observeCamera timestampNs arrivalSteadyNs => exact (holding_observe h :)
      | reset => rfl

end

/-! ## Resolutions -/

/-- The time expected at `now` from an observation at most five seconds old. -/
structure Extrapolated (o : Observation) (now : UInt64) (expected : ℕ) : Prop where
  past : o.arrivalSteadyNs.toNat ≤ now.toNat
  fresh : now.toNat ≤ o.arrivalSteadyNs.toNat + 5000000000
  expected_eq : expected = o.timestampNs.toNat + (now.toNat - o.arrivalSteadyNs.toNat)
  bounded : expected < 2 ^ 64

/-- A candidate that is there, at most two seconds away. -/
def Near (candidate : UInt64) (expected : ℕ) : Prop :=
  candidate ≠ 0 ∧ Nat.dist candidate.toNat expected ≤ 2000000000

/-- The closest near candidate, the SDK's on a tie. -/
def Closest (sdkNormalizedNs rawNs : UInt64) (expected : ℕ) : DeviceTimeResolution → Prop
  | ⟨timestampNs,.sdkNormalized⟩ => timestampNs = sdkNormalizedNs ∧ Near sdkNormalizedNs expected ∧
    (rawNs ≠ 0 → Nat.dist sdkNormalizedNs.toNat expected ≤ Nat.dist rawNs.toNat expected)
  | ⟨timestampNs,.lidarRaw⟩ => timestampNs = rawNs ∧ Near rawNs expected ∧
    (sdkNormalizedNs ≠ 0 →
      Nat.dist rawNs.toNat expected < Nat.dist sdkNormalizedNs.toNat expected)

section
variable {o : Observation} {sdk raw now expected : UInt64} {resolution : DeviceTimeResolution}

theorem candidateDelta_toNat {candidate : UInt64} (h : candidate ≠ 0) :
    (candidateDelta candidate expected).toNat = Nat.dist candidate.toNat expected.toNat := by
  unfold candidateDelta
  rw [if_neg h,Nat.dist]
  split_ifs with hle
  · rw [UInt64.toNat_sub_of_le _ _ hle]
    have hle' := UInt64.le_iff_toNat_le.mp hle
    omega
  · have hle' := UInt64.le_of_lt (UInt64.not_le.mp hle)
    rw [UInt64.toNat_sub_of_le _ _ hle']
    have hnat := UInt64.le_iff_toNat_le.mp hle'
    omega

/-- The resolver extrapolates what it holds, without overflow. -/
theorem expectedNs_iff : (holding (some o)).expectedNs now = some expected ↔
    Extrapolated o now expected.toNat := by
  obtain ⟨board,ts,arrival⟩ := o
  have hreference : (holding (some ⟨board,ts,arrival⟩)).hasReference = true := by
    cases board <;> rfl
  unfold expectedNs
  rw [hreference]
  simp only [holding,Bool.true_eq_false,false_or]
  by_cases hpast : now < arrival
  · rw [if_pos hpast]
    have hlt := UInt64.lt_iff_toNat_lt.mp hpast
    exact ⟨fun h => absurd h.symm (Option.some_ne_none _),fun h => absurd h.past (not_le.mpr hlt)⟩
  · rw [if_neg hpast]
    have hle := UInt64.not_lt.mp hpast
    have helapsed := UInt64.toNat_sub_of_le now arrival hle
    have hle' := UInt64.le_iff_toNat_le.mp hle
    have hroom : (maxUInt64 - (now - arrival)).toNat = 2 ^ 64 - 1 - (now - arrival).toNat := by
      refine UInt64.toNat_sub_of_le _ _ (UInt64.le_iff_toNat_le.mpr ?_)
      exact Nat.le_of_lt_succ (now - arrival).toNat_lt
    have hage : kMaximumReferenceAgeNs.toNat = 5000000000 := rfl
    have hsum := UInt64.toNat_add ts (now - arrival)
    have hlt := now.toNat_lt
    simp only [UInt64.lt_iff_toNat_lt,hroom,hage]
    split_ifs with hout
    · refine ⟨fun h => h.elim,fun ⟨_,hfresh,heq,hbounded⟩ => ?_⟩
      dsimp only at hfresh heq
      omega
    · rw [Option.some.injEq,← UInt64.toNat_inj,hsum]
      constructor
      · intro heq
        have hsmall : ts.toNat + (now - arrival).toNat < 2 ^ 64 := by omega
        rw [Nat.mod_eq_of_lt hsmall,helapsed] at heq
        exact ⟨hle',by dsimp only; omega,heq.symm,by omega⟩
      · intro ⟨_,_,heq,_⟩
        dsimp only at heq
        omega

theorem near_iff {candidate : UInt64} : Near candidate expected.toNat ↔
    (candidateDelta candidate expected).toNat ≤ 2000000000 := by
  unfold Near
  by_cases h : candidate = 0
  · have hmax : (candidateDelta candidate expected).toNat = 2 ^ 64 - 1 := by
      rw [candidateDelta,if_pos h]
      rfl
    rw [hmax]
    simp [h]
  · rw [candidateDelta_toNat h]
    exact and_iff_right h

/-- Against a near candidate an absent one is far away. -/
theorem delta_le_iff {near other : UInt64} (h : Near near expected.toNat) :
    ((other ≠ 0 → Nat.dist near.toNat expected.toNat ≤ Nat.dist other.toNat expected.toNat) ↔
      (candidateDelta near expected).toNat ≤ (candidateDelta other expected).toNat) ∧
    ((other ≠ 0 → Nat.dist near.toNat expected.toNat < Nat.dist other.toNat expected.toNat) ↔
      (candidateDelta near expected).toNat < (candidateDelta other expected).toNat) := by
  rw [candidateDelta_toNat h.1]
  by_cases hother : other = 0
  · have hmax : (candidateDelta other expected).toNat = 2 ^ 64 - 1 := by
      rw [candidateDelta,if_pos hother]
      rfl
    have hle := h.2
    rw [hmax]
    exact ⟨⟨fun _ => by omega,fun _ hne => absurd hother hne⟩,
      ⟨fun _ => by omega,fun _ hne => absurd hother hne⟩⟩
  · rw [candidateDelta_toNat hother]
    exact ⟨⟨fun himp => himp hother,fun hle _ => hle⟩,⟨fun himp => himp hother,fun hlt _ => hlt⟩⟩

theorem expectedNs_none : (holding none).expectedNs now = none := rfl

/-- A candidate is taken when it is near, and the closest. -/
theorem resolveLidar_iff {r : DeviceTimeResolver} : r.resolveLidar sdk raw now = some resolution ↔
    ∃ expected, r.expectedNs now = some expected ∧ Closest sdk raw expected.toNat resolution := by
  unfold resolveLidar
  cases he : r.expectedNs now with
  | none => simp
  | some expected =>
    have hlimit : kMaximumCandidateDeltaNs.toNat = 2000000000 := rfl
    obtain ⟨timestampNs,candidate⟩ := resolution
    simp only [Option.some.injEq,exists_eq_left',UInt64.lt_iff_toNat_lt,hlimit]
    have hsdk : Closest sdk raw expected.toNat ⟨timestampNs,.sdkNormalized⟩ ↔
        timestampNs = sdk ∧ (candidateDelta sdk expected).toNat ≤ 2000000000 ∧
        (candidateDelta sdk expected).toNat ≤ (candidateDelta raw expected).toNat := by
      rw [Closest,near_iff]
      exact and_congr_right fun _ => and_congr_right fun hnear =>
        (delta_le_iff (near_iff.mpr hnear)).1
    have hraw : Closest sdk raw expected.toNat ⟨timestampNs,.lidarRaw⟩ ↔
        timestampNs = raw ∧ (candidateDelta raw expected).toNat ≤ 2000000000 ∧
        (candidateDelta raw expected).toNat < (candidateDelta sdk expected).toNat := by
      rw [Closest,near_iff]
      exact and_congr_right fun _ => and_congr_right fun hnear =>
        (delta_le_iff (near_iff.mpr hnear)).2
    by_cases huse : (candidateDelta raw expected).toNat < (candidateDelta sdk expected).toNat
    · have hnot : ¬ (candidateDelta sdk expected).toNat ≤ (candidateDelta raw expected).toNat :=
        not_le.mpr huse
      by_cases hfar : 2000000000 < (candidateDelta raw expected).toNat
      · cases candidate <;> simp [hsdk,hraw,huse,hnot,hfar]
      · cases candidate <;> simp [hsdk,hraw,huse,hnot,hfar,not_lt.mp hfar,eq_comm]
    · have hle := not_lt.mp huse
      by_cases hfar : 2000000000 < (candidateDelta sdk expected).toNat
      · cases candidate <;> simp [hsdk,hraw,huse,hle,hfar]
      · cases candidate <;> simp [hsdk,hraw,huse,hle,hfar,not_lt.mp hfar,eq_comm]

/-- What a resolver that holds `o` resolves. -/
theorem resolveLidar_holding {o : Option Observation} :
    (holding o).resolveLidar sdk raw now = some resolution ↔
    ∃ held expected, o = some held ∧ Extrapolated held now expected ∧
      Closest sdk raw expected resolution := by
  rw [resolveLidar_iff]
  cases o with
  | none => simp [expectedNs_none]
  | some held =>
    constructor
    · rintro ⟨expected,he,hclosest⟩
      exact ⟨held,expected.toNat,rfl,expectedNs_iff.mp he,hclosest⟩
    · rintro ⟨held,expected,heq,he,hclosest⟩
      obtain rfl := Option.some.inj heq
      have htoNat : (UInt64.ofNat expected).toNat = expected :=
        UInt64.toNat_ofNat_of_lt' he.bounded
      refine ⟨UInt64.ofNat expected,expectedNs_iff.mpr ?_,?_⟩
      · rw [htoNat]
        exact he
      · rw [htoNat]
        exact hclosest

/-- What it resolves once the expected time is known. -/
theorem resolveLidar_extrapolated {r : DeviceTimeResolver} {expected : ℕ}
    (hr : r = holding (some o)) (he : Extrapolated o now expected) :
    r.resolveLidar sdk raw now = some resolution ↔ Closest sdk raw expected resolution := by
  rw [hr,resolveLidar_holding]
  constructor
  · rintro ⟨held,other,hheld,hother,hclosest⟩
    obtain rfl := Option.some.inj hheld
    rwa [he.expected_eq,← hother.expected_eq]
  · intro hclosest
    exact ⟨o,expected,rfl,he,hclosest⟩

/-- There is a closest candidate exactly when one is near. -/
theorem closest_exists {expected : ℕ} : (∃ resolution, Closest sdk raw expected resolution) ↔
    Near sdk expected ∨ Near raw expected := by
  constructor
  · rintro ⟨⟨timestampNs,candidate⟩,h⟩
    cases candidate with
    | sdkNormalized => exact .inl h.2.1
    | lidarRaw => exact .inr h.2.1
  · intro h
    by_cases hcloser : raw ≠ 0 ∧
        (sdk ≠ 0 → Nat.dist raw.toNat expected < Nat.dist sdk.toNat expected)
    · refine ⟨⟨raw,.lidarRaw⟩,rfl,⟨hcloser.1,?_⟩,hcloser.2⟩
      rcases h with hsdk | hraw
      · exact (hcloser.2 hsdk.1).le.trans hsdk.2
      · exact hraw.2
    · have hsdk : Near sdk expected ∧
          (raw ≠ 0 → Nat.dist sdk.toNat expected ≤ Nat.dist raw.toNat expected) := by
        push Not at hcloser
        rcases h with hsdk | hraw
        · exact ⟨hsdk,fun hne => (hcloser hne).2⟩
        · obtain ⟨hne,hle⟩ := hcloser hraw.1
          exact ⟨⟨hne,hle.trans hraw.2⟩,fun _ => hle⟩
      exact ⟨⟨sdk,.sdkNormalized⟩,rfl,hsdk⟩

end

/-! ## Without the camera -/

/-- From the first board observation on each observation comes at most two seconds
after the newest one of the board. -/
def BoardKept (past : List Observation) : Prop :=
  ∀ before o after b, past = before ++ o :: after → newest true before = some b →
    o.arrivalSteadyNs.toNat ≤ b.arrivalSteadyNs.toNat + 2000000000

section
variable {past : List Observation} {o b : Observation}

theorem BoardKept.init (h : BoardKept (past ++ [o])) : BoardKept past :=
  fun before o' after b hpast => h before o' (after ++ [o]) b (by simp [hpast])

theorem reference_of_kept (h : BoardKept past) (hb : newest true past = some b) :
    reference past = some b := by
  induction past using List.reverseRecOn with
  | nil => cases hb
  | append_singleton past o ih =>
    cases hboard : o.board with
    | true =>
      rw [newest_snoc,if_pos hboard] at hb
      rw [reference_board hboard,hb]
    | false =>
      rw [newest_snoc,hboard,if_neg Bool.false_ne_true] at hb
      rw [reference_camera hboard,ih h.init hb]
      exact if_pos ⟨(newest_mem hb).2,h past o [] b rfl hb⟩

/-- Of the board observations alone the newest is the reference. -/
theorem reference_boards : reference (past.filter (·.board)) = newest true past := by
  induction past using List.reverseRecOn with
  | nil => rfl
  | append_singleton past o ih =>
    rw [List.filter_append,newest_snoc]
    cases hboard : o.board with
    | true =>
      rw [List.filter_singleton,hboard,if_pos rfl]
      exact reference_board hboard
    | false =>
      rw [List.filter_singleton,hboard,if_neg Bool.false_ne_true]
      exact (congrArg reference (List.append_nil _)).trans ih

theorem sinceReset_boards {calls : List ResolverCall} :
    sinceReset (calls.filter (!·.isCamera)) = (sinceReset calls).filter (·.board) := by
  induction calls using List.reverseRecOn with
  | nil => rfl
  | append_singleton calls c ih =>
    rw [List.filter_append,sinceReset_snoc]
    cases c with
    | reset => exact sinceReset_snoc
    | observeBoard timestampNs arrivalSteadyNs =>
      refine sinceReset_snoc.trans ?_
      rw [ih,record,record,List.filter_append]
      unfold taken
      split_ifs <;> rfl
    | observeCamera timestampNs arrivalSteadyNs =>
      rw [record,List.filter_append,← ih]
      unfold taken
      split_ifs <;> simp [ResolverCall.isCamera]

/-- The resolver is a function of the observations since the last reset, and one of the
board observations alone while these keep coming. -/
theorem resolver_history (calls : List ResolverCall) (h : Ordered (sinceReset calls)) :
    let past := sinceReset calls
    let r := calls.foldl call {}
    r = holding (reference past) ∧
    (∀ sdk raw now resolution, r.resolveLidar sdk raw now = some resolution ↔
      ∃ o expected, reference past = some o ∧ Extrapolated o now expected ∧
        Closest sdk raw expected resolution) ∧
    (∀ sdk raw now, (∃ resolution, r.resolveLidar sdk raw now = some resolution) ↔
      ∃ o expected, reference past = some o ∧ Extrapolated o now expected ∧
        (Near sdk expected ∨ Near raw expected)) ∧
    ((∃ b, newest true past = some b) → BoardKept past → ∀ sdk raw now,
      ((calls.filter (!·.isCamera)).foldl call {}).resolveLidar sdk raw now =
        r.resolveLidar sdk raw now) := by
  intro past r
  have hr : r = holding (reference past) := run_eq_holding h
  refine ⟨hr,?_,?_,?_⟩
  · intro sdk raw now resolution
    rw [hr]
    exact resolveLidar_holding
  · intro sdk raw now
    rw [hr]
    simp only [resolveLidar_holding,← closest_exists]
    constructor
    · rintro ⟨resolution,o,expected,ho,he,hclosest⟩
      exact ⟨o,expected,ho,he,resolution,hclosest⟩
    · rintro ⟨o,expected,ho,he,resolution,hclosest⟩
      exact ⟨resolution,o,expected,ho,he,hclosest⟩
  · rintro ⟨b,hb⟩ hkept sdk raw now
    have hboards : Ordered (sinceReset (calls.filter (!·.isCamera))) := by
      rw [sinceReset_boards]
      exact h.filter _
    rw [run_eq_holding hboards,sinceReset_boards,reference_boards,hr,
      reference_of_kept hkept hb,hb]

end

/-- Handed over to the camera after a gap of the board, and back; a camera time within
two seconds of the board leaves no trace. -/
theorem resolver_history_handover :
    let calls : List ResolverCall := [.observeBoard 100 10,.observeCamera 200 20,
      .observeCamera 3000000100 3000000010,.observeBoard 3000000300 3000000020]
    calls.foldl call {} = holding (reference (sinceReset calls)) ∧
      reference (sinceReset (calls.take 3)) = some ⟨false,3000000100,3000000010⟩ ∧
      reference (sinceReset calls) = some ⟨true,3000000300,3000000020⟩ ∧
      ∀ sdk raw now, (([calls[0]].foldl call {}).resolveLidar sdk raw now =
        ((calls.take 2).foldl call {}).resolveLidar sdk raw now) := by
  intro calls
  refine ⟨(resolver_history calls (by decide +kernel)).1,by decide +kernel,by decide +kernel,?_⟩
  refine (resolver_history (calls.take 2) (by decide +kernel)).2.2.2 ⟨_,rfl⟩ ?_
  intro before o after b hpast hb
  have htwo : sinceReset (calls.take 2) = [⟨true,100,10⟩,⟨false,200,20⟩] := by decide
  rw [htwo] at hpast
  rcases before with _ | ⟨first,_ | ⟨second,rest⟩⟩
  · cases hb
  · obtain ⟨rfl,hrest⟩ := List.cons.inj hpast
    obtain ⟨rfl,-⟩ := List.cons.inj hrest
    obtain rfl := Option.some.inj hb
    decide
  · have hlength := congrArg List.length hpast
    simp at hlength

/-! ## The true device time -/

/-- At `now` the true device time `θ` is this close to the reference carried forward. -/
structure Tracking (θ : ℕ → ℝ) (e₁ e₂ : ℝ) (r : DeviceTimeResolver) (now : UInt64) : Prop where
  held : r.hasReference = true
  reference : |(r.timestampNs.toNat : ℝ) - θ r.arrivalSteadyNs.toNat| ≤ e₁
  past : r.arrivalSteadyNs.toNat ≤ now.toNat
  fresh : now.toNat ≤ r.arrivalSteadyNs.toNat + 5000000000
  bounded : r.timestampNs.toNat + (now.toNat - r.arrivalSteadyNs.toNat) < 2 ^ 64
  rate : |θ now.toNat - θ r.arrivalSteadyNs.toNat -
    ((now.toNat : ℝ) - r.arrivalSteadyNs.toNat)| ≤ e₂

/-- A candidate that shows the true device time up to `e`. -/
def Shows (candidate : UInt64) (time e : ℝ) : Prop :=
  candidate ≠ 0 ∧ |(candidate.toNat : ℝ) - time| ≤ e

/-- A candidate that is not there, or farther than `e` from the true device time. -/
def Foreign (candidate : UInt64) (time e : ℝ) : Prop :=
  candidate = 0 ∨ e < |(candidate.toNat : ℝ) - time|

section
variable {θ : ℕ → ℝ} {e₁ e₂ e₃ : ℝ} {r : DeviceTimeResolver} {now candidate : UInt64}

theorem dist_cast (a b : ℕ) : (Nat.dist a b : ℝ) = |(a : ℝ) - b| := by
  rcases le_total a b with h | h
  · rw [Nat.dist_eq_sub_of_le h,Nat.cast_sub h,abs_sub_comm,abs_of_nonneg]
    exact sub_nonneg.mpr (Nat.cast_le.mpr h)
  · rw [Nat.dist_eq_sub_of_le_right h,Nat.cast_sub h,abs_of_nonneg]
    exact sub_nonneg.mpr (Nat.cast_le.mpr h)

/-- What is expected is the true device time up to both errors. -/
theorem Tracking.expected (h : Tracking θ e₁ e₂ r now) : ∃ o expected, r = holding (some o) ∧
    Extrapolated o now expected ∧ |(expected : ℝ) - θ now.toNat| ≤ e₁ + e₂ := by
  obtain ⟨hheld,href,hpast,hfresh,hbounded,hrate⟩ := h
  obtain ⟨ts,arrival,source⟩ := r
  have hholding : ∃ board, (⟨ts,arrival,source⟩ : DeviceTimeResolver) =
      holding (some ⟨board,ts,arrival⟩) := by
    cases source with
    | none => exact absurd hheld Bool.false_ne_true
    | camera => exact ⟨false,rfl⟩
    | boardImu => exact ⟨true,rfl⟩
  obtain ⟨board,hr⟩ := hholding
  refine ⟨_,_,hr,⟨hpast,hfresh,rfl,hbounded⟩,?_⟩
  rw [Nat.cast_add,Nat.cast_sub hpast]
  rw [abs_le] at href hrate ⊢
  dsimp only at href hrate ⊢
  constructor <;> linarith

/-- A candidate that shows the time is near, up to all three errors. -/
theorem Shows.near {expected : ℕ} (h : Shows candidate (θ now.toNat) e₃)
    (hexpected : |(expected : ℝ) - θ now.toNat| ≤ e₁ + e₂) :
    (Nat.dist candidate.toNat expected : ℝ) ≤ e₁ + e₂ + e₃ := by
  have hshows := h.2
  rw [dist_cast]
  rw [abs_le] at hshows hexpected ⊢
  constructor <;> linarith

theorem Foreign.far {expected : ℕ} {e : ℝ} (h : Foreign candidate (θ now.toNat) e)
    (hexpected : |(expected : ℝ) - θ now.toNat| ≤ e₁ + e₂) (hne : candidate ≠ 0) :
    e - (e₁ + e₂) < (Nat.dist candidate.toNat expected : ℝ) := by
  have hforeign := h.resolve_left hne
  rw [dist_cast]
  have htriangle := abs_sub_le (candidate.toNat : ℝ) expected (θ now.toNat)
  linarith

/-- So it is a near candidate while the errors stay below two seconds. -/
theorem Shows.is_near {expected : ℕ} (h : Shows candidate (θ now.toNat) e₃)
    (hexpected : |(expected : ℝ) - θ now.toNat| ≤ e₁ + e₂) (hE : e₁ + e₂ + e₃ ≤ 2000000000) :
    Near candidate expected := by
  have hdist : (Nat.dist candidate.toNat expected : ℝ) ≤ (2000000000 : ℕ) := by
    rw [Nat.cast_ofNat]
    exact (h.near hexpected).trans hE
  exact ⟨h.1,Nat.cast_le.mp hdist⟩

/-- What is off by twice the error is farther from what is expected. -/
theorem Shows.closer {expected : ℕ} {shown foreign : UInt64} (h : Shows shown (θ now.toNat) e₃)
    (hforeign : Foreign foreign (θ now.toNat) (2 * (e₁ + e₂ + e₃)))
    (hexpected : |(expected : ℝ) - θ now.toNat| ≤ e₁ + e₂) (hne : foreign ≠ 0) :
    Nat.dist shown.toNat expected < Nat.dist foreign.toNat expected := by
  have hle := h.near hexpected
  have hlt := hforeign.far hexpected hne
  have herror : 0 ≤ e₃ := (abs_nonneg _).trans h.2
  exact Nat.cast_lt.mp (lt_of_le_of_lt hle (by linarith) : (_ : ℝ) < _)

theorem Foreign.not_near {expected : ℕ}
    (h : Foreign candidate (θ now.toNat) (2000000000 + e₁ + e₂))
    (hexpected : |(expected : ℝ) - θ now.toNat| ≤ e₁ + e₂) : ¬ Near candidate expected := by
  intro hnear
  have hlt := h.far hexpected hnear.1
  have hle : (Nat.dist candidate.toNat expected : ℝ) ≤ (2000000000 : ℕ) :=
    Nat.cast_le.mpr hnear.2
  rw [Nat.cast_ofNat] at hle
  linarith

/-- Below two seconds of error altogether the candidate that shows the device time is
resolved, and never one that is off by more than twice that. -/
theorem resolveLidar_domain (calls : List ResolverCall)
    (h : Tracking θ e₁ e₂ (calls.foldl call {}) now) (sdk raw : UInt64) :
    let r := calls.foldl call {}
    let time := θ now.toNat
    let E := e₁ + e₂ + e₃
    (E ≤ 2000000000 → Shows sdk time e₃ → Foreign raw time (2 * E) →
      r.resolveLidar sdk raw now = some ⟨sdk,.sdkNormalized⟩) ∧
    (E ≤ 2000000000 → Shows raw time e₃ → Foreign sdk time (2 * E) →
      r.resolveLidar sdk raw now = some ⟨raw,.lidarRaw⟩) ∧
    (Foreign sdk time (2000000000 + e₁ + e₂) → Foreign raw time (2000000000 + e₁ + e₂) →
      r.resolveLidar sdk raw now = none) := by
  intro r time E
  obtain ⟨o,expected,hr,hextrapolated,hexpected⟩ := h.expected
  have hresolved : ∀ resolution, r.resolveLidar sdk raw now = some resolution ↔
      Closest sdk raw expected resolution :=
    fun _ => resolveLidar_extrapolated hr hextrapolated
  refine ⟨?_,?_,?_⟩
  · intro hE hshows hforeign
    refine (hresolved _).mpr ⟨rfl,hshows.is_near hexpected hE,fun hne => ?_⟩
    exact (hshows.closer hforeign hexpected hne).le
  · intro hE hshows hforeign
    exact (hresolved _).mpr ⟨rfl,hshows.is_near hexpected hE,hshows.closer hforeign hexpected⟩
  · intro hsdk hraw
    refine Option.eq_none_iff_forall_ne_some.mpr fun resolution hsome => ?_
    rcases closest_exists.mp ⟨resolution,(hresolved _).mp hsome⟩ with hnear | hnear
    · exact hsdk.not_near hexpected hnear
    · exact hraw.not_near hexpected hnear

end
/-- A raw time on the device clock, where the SDK's is thirty-seven seconds off. -/
theorem resolveLidar_domain_raw :
    (DeviceTimeResolver.observeBoard {} 100000000005 1000).resolveLidar
      63000000105 100000000105 1100 = some ⟨100000000105,.lidarRaw⟩ := by
  have htracking : Tracking (fun n => (n : ℝ) + 99999999000) 5 0
      ([ResolverCall.observeBoard 100000000005 1000].foldl call {}) 1100 := by
    refine ⟨by decide,?_,by decide,by decide,by decide,?_⟩
    · simp [DeviceTimeResolver.call,observeBoard,observe]
      norm_num
    · simp [DeviceTimeResolver.call,observeBoard,observe]
  have hshows : Shows 100000000105 ((1100 : ℕ) + 99999999000 : ℝ) 5 := by
    refine ⟨by decide,?_⟩
    simp only [UInt64.reduceToNat]
    norm_num [abs_le]
  have hforeign : Foreign 63000000105 ((1100 : ℕ) + 99999999000 : ℝ) (2 * (5 + 0 + 5)) := by
    right
    simp only [UInt64.reduceToNat]
    norm_num [lt_abs]
  exact (resolveLidar_domain _ htracking 63000000105 100000000105).2.1 (by norm_num) hshows
    hforeign

end PrismRosAdapter.Timing
