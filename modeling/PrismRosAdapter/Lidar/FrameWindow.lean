import PrismRosAdapter.Lidar.FrameAccumulator

/-! # The window of a pending frame

Every point does one of three things to the accumulator: it stays in the open
window, it opens a window at its own time, or it completes the pending frame and
advances the window by whole periods.
-/
namespace PrismRosAdapter.Lidar
open Program

def opened (windowStartNs firstPointTimestampNs : UInt64) (source : LidarPointBatch) :
    LidarFrameAccumulator where
  active := true
  windowStartNs := windowStartNs
  windowEndNs := windowStartNs + kFramePeriodNs
  frame := {
    batchId := source.batchId
    timestampNs := firstPointTimestampNs
    timestampRaw := source.timestampRaw }

theorem beginFrame_returns {w t : UInt64} {source : LidarPointBatch}
    {a b : LidarFrameAccumulator} {r : Unit} :
    (beginFrame w t source).Returns a r b ↔
      w ≤ kMaxUInt64 - kFramePeriodNs ∧ b = opened w t source := by
  simp only [beginFrame, returns_bind, returns_modify, exists_eq_left]
  by_cases h : kMaxUInt64 - kFramePeriodNs < w
  · simp [h, returns_bind, UInt64.not_le.mpr h]
  · simp [h, UInt64.not_lt.mp h, opened]

/-- The start of the window that contains `t`, counted in periods from the
start of the current one. -/
def advancedStart (windowStartNs t : UInt64) : UInt64 :=
  windowStartNs + (t - windowStartNs) / kFramePeriodNs * kFramePeriodNs

theorem advancedStart_toNat {w t : UInt64} (h : w ≤ t) :
    (advancedStart w t).toNat =
      w.toNat + (t.toNat - w.toNat) / 100000000 * 100000000 := by
  have hw := UInt64.le_iff_toNat_le.mp h
  have ht := t.toNat_lt
  have hq : (t.toNat - w.toNat) / 100000000 * 100000000 ≤ t.toNat - w.toNat :=
    Nat.div_mul_le_self _ _
  have hk : kFramePeriodNs.toNat = 100000000 := rfl
  simp only [advancedStart, UInt64.toNat_add, UInt64.toNat_mul, UInt64.toNat_div,
    UInt64.toNat_sub_of_le _ _ h, hk]
  omega

/-- The frames the advance completes: the pending one, unless it has no point. -/
def completedBy (a : LidarFrameAccumulator) : List LidarPointBatch :=
  if a.frame.points.isEmpty then [] else [spanned a.frame]

theorem windowEnd_toNat {w : UInt64} (h : w ≤ kMaxUInt64 - kFramePeriodNs) :
    (w + kFramePeriodNs).toNat = w.toNat + 100000000 := by
  have hw := UInt64.le_iff_toNat_le.mp h
  have hm : (kMaxUInt64 - kFramePeriodNs).toNat = 18446744073609551615 := rfl
  have hk : kFramePeriodNs.toNat = 100000000 := rfl
  rw [UInt64.toNat_add,hk]
  omega

theorem completePending_returns {a b : LidarFrameAccumulator} {out : List LidarPointBatch} :
    completePending.Returns a out b ↔
      out = completedBy a ∧
        b = { a with frame := { spanned a.frame with points := [] } } := by
  by_cases h : a.frame.points = []
  · have hs : ({ spanned a.frame with points := [] } : LidarPointBatch) = a.frame := by
      rw [spanned,h]
      dsimp only [List.getLast?_nil]
      rw [← h]
    simp [completePending, completedBy, returns_bind, h, hs]
  · simp [completePending, completedBy, finishFrame, returns_bind, h, and_comm]

theorem advanceWindow_returns {a b : LidarFrameAccumulator} {batch : LidarPointBatch}
    {t : UInt64} {out : List LidarPointBatch} :
    (advanceWindow batch t).Returns a out b ↔
      advancedStart a.windowStartNs t ≤ kMaxUInt64 - kFramePeriodNs ∧ out = completedBy a ∧
        b = opened (advancedStart a.windowStartNs t) t batch := by
  simp [advanceWindow, returns_bind, completePending_returns, beginFrame_returns, advancedStart]
  tauto

theorem continueWindow_inactive {a b : LidarFrameAccumulator} {batch : LidarPointBatch}
    {t : UInt64} {out : List LidarPointBatch} (h : a.active = false) :
    (continueWindow batch t).Returns a out b ↔
      t ≤ kMaxUInt64 - kFramePeriodNs ∧ out = [] ∧ b = opened t t batch := by
  have hopen (ht : t ≤ kMaxUInt64 - kFramePeriodNs) : ¬ (opened t t batch).windowEndNs ≤ t := by
    have hn := windowEnd_toNat ht
    rw [UInt64.le_iff_toNat_le]
    dsimp only [opened]
    omega
  have hrun : (continueWindow batch t).Returns a out b ↔ t ≤ kMaxUInt64 - kFramePeriodNs ∧
      (if (opened t t batch).windowEndNs ≤ t then advanceWindow batch t else pure []).Returns
        (opened t t batch) out b := by
    simp [continueWindow, returns_bind, h, beginFrame_returns]
  rw [hrun]
  apply and_congr_right
  intro ht
  rw [if_neg (hopen ht),returns_pure]

theorem enterWindow_restart {a b : LidarFrameAccumulator} {batch : LidarPointBatch} {t : UInt64}
    {out : List LidarPointBatch} (h : a.active = false ∨ t < a.windowStartNs) :
    (enterWindow batch t).Returns a out b ↔
      t ≤ kMaxUInt64 - kFramePeriodNs ∧ out = [] ∧ b = opened t t batch := by
  by_cases hr : a.active = true ∧ t < a.windowStartNs
  · simp [enterWindow, returns_bind, hr, reset, continueWindow_inactive]
  · have hn : a.active = false := by
      rcases h with h | h
      · exact h
      · exact Bool.eq_false_iff.mpr (fun ha => hr ⟨ha,h⟩)
    simp [enterWindow, returns_bind, hn, continueWindow_inactive]

theorem enterWindow_stay {a b : LidarFrameAccumulator} {batch : LidarPointBatch} {t : UInt64}
    {out : List LidarPointBatch}
    (ha : a.active = true) (hs : a.windowStartNs ≤ t) (he : t < a.windowEndNs) :
    (enterWindow batch t).Returns a out b ↔ out = [] ∧ b = a := by
  simp [enterWindow, continueWindow, returns_bind, ha, UInt64.not_lt.mpr hs, UInt64.not_le.mpr he]

theorem enterWindow_advance {a b : LidarFrameAccumulator} {batch : LidarPointBatch} {t : UInt64}
    {out : List LidarPointBatch}
    (ha : a.active = true) (hs : a.windowStartNs ≤ t) (he : a.windowEndNs ≤ t) :
    (enterWindow batch t).Returns a out b ↔
      advancedStart a.windowStartNs t ≤ kMaxUInt64 - kFramePeriodNs ∧ out = completedBy a ∧
        b = opened (advancedStart a.windowStartNs t) t batch := by
  simp [enterWindow, continueWindow, returns_bind, ha, UInt64.not_lt.mpr hs, he,
    advanceWindow_returns]

theorem pointTimestampNs_returns {a b : LidarFrameAccumulator} {batch : LidarPointBatch}
    (he : batch.explicitPointTimes = true) {index : ℕ} {point : LidarPoint} {t : UInt64} :
    (pointTimestampNs batch index point).Returns a t b ↔
      batch.timestampNs ≤ kMaxUInt64 - point.offsetTimeNs.toUInt64 ∧
        t = batch.timestampNs + point.offsetTimeNs.toUInt64 ∧ b = a := by
  by_cases h : kMaxUInt64 - point.offsetTimeNs.toUInt64 < batch.timestampNs
  · simp [pointTimestampNs, returns_bind, he, h, UInt64.not_le.mpr h]
  · simp [pointTimestampNs, he, h, UInt64.not_lt.mp h]

/-- The check of the source keeps a point's time from wrapping. -/
theorem le_maxOffset_iff {base : UInt64} {offset : UInt32} :
    base ≤ kMaxUInt64 - offset.toUInt64 ↔ base.toNat + offset.toNat ≤ 18446744073709551615 := by
  have hlt := offset.toNat_lt
  have hm : kMaxUInt64.toNat = 18446744073709551615 := rfl
  have ho : offset.toUInt64 ≤ kMaxUInt64 := by
    rw [UInt64.le_iff_toNat_le,UInt32.toNat_toUInt64,hm]
    omega
  rw [UInt64.le_iff_toNat_le,UInt64.toNat_sub_of_le _ _ ho,hm,UInt32.toNat_toUInt64]
  omega

theorem pointTime_toNat {base : UInt64} {offset : UInt32}
    (h : base ≤ kMaxUInt64 - offset.toUInt64) :
    (base + offset.toUInt64).toNat = base.toNat + offset.toNat := by
  have hle := le_maxOffset_iff.mp h
  rw [UInt64.toNat_add,UInt32.toNat_toUInt64]
  omega

/-- The accumulator after the point measured at `t` is stored. -/
def stored (t : UInt64) (point : LidarPoint) (a : LidarFrameAccumulator) :
    LidarFrameAccumulator :=
  { a with frame := { a.frame with
    points := a.frame.points ++
      [{ point with offsetTimeNs := (t - a.frame.timestampNs).toUInt32 }] } }

/-- A pending frame: its window is one period long and its stamp lies inside. -/
structure Open (a : LidarFrameAccumulator) : Prop where
  active : a.active = true
  windowEnd : a.windowEndNs.toNat = a.windowStartNs.toNat + 100000000
  start_le_stamp : a.windowStartNs.toNat ≤ a.frame.timestampNs.toNat
  stamp_lt_end : a.frame.timestampNs.toNat < a.windowEndNs.toNat
  pending : a.frame.points ≠ []

/-- The states between two calls: nothing pending, or an open window. -/
def Ready (a : LidarFrameAccumulator) : Prop := a = {} ∨ Open a

theorem open_stored {a : LidarFrameAccumulator} (h : Open a) (t : UInt64) (p : LidarPoint) :
    Open (stored t p a) :=
  ⟨h.active,h.windowEnd,h.start_le_stamp,h.stamp_lt_end,by simp [stored]⟩

theorem open_stored_opened {w t : UInt64} (hw : w ≤ kMaxUInt64 - kFramePeriodNs)
    (hs : w.toNat ≤ t.toNat) (ht : t.toNat < w.toNat + 100000000)
    (batch : LidarPointBatch) (p : LidarPoint) : Open (stored t p (opened w t batch)) := by
  have he := windowEnd_toNat hw
  refine ⟨rfl,he,hs,?_,by simp [stored]⟩
  dsimp only [stored,opened]
  omega

theorem opened_advanced_bounds {w t : UInt64} (h : w ≤ t) :
    (advancedStart w t).toNat ≤ t.toNat ∧ t.toNat < (advancedStart w t).toNat + 100000000 := by
  have hw := UInt64.le_iff_toNat_le.mp h
  have hm := Nat.div_add_mod (t.toNat - w.toNat) 100000000
  have hr := Nat.mod_lt (t.toNat - w.toNat) (show 0 < 100000000 by decide)
  rw [advancedStart_toNat h]
  omega

/-- What one point measured at `t` does to `a`, with what it emits. -/
inductive Moves (batch : LidarPointBatch) (t : UInt64) (p : LidarPoint)
    (a : LidarFrameAccumulator) : List LidarPointBatch → LidarFrameAccumulator → Prop where
  | stay : Open a → a.windowStartNs ≤ t → t < a.windowEndNs →
      Moves batch t p a [] (stored t p a)
  | restart : a = {} ∨ t < a.windowStartNs → t ≤ kMaxUInt64 - kFramePeriodNs →
      Moves batch t p a [] (stored t p (opened t t batch))
  | advance : Open a → a.windowStartNs ≤ t → a.windowEndNs ≤ t →
      advancedStart a.windowStartNs t ≤ kMaxUInt64 - kFramePeriodNs →
      Moves batch t p a [spanned a.frame]
        (stored t p (opened (advancedStart a.windowStartNs t) t batch))

theorem Moves.open {batch : LidarPointBatch} {t : UInt64} {p : LidarPoint}
    {a b : LidarFrameAccumulator} {out : List LidarPointBatch} (h : Moves batch t p a out b) :
    Open b := by
  cases h with
  | stay ha _ _ => exact open_stored ha t p
  | restart _ ht => exact open_stored_opened ht le_rfl (by omega) batch p
  | advance _ hs _ hw =>
    obtain ⟨hl,hu⟩ := opened_advanced_bounds hs
    exact open_stored_opened hw hl hu batch p

theorem storePoint_returns {t : UInt64} {p : LidarPoint} {a b : LidarFrameAccumulator} {r : Unit} :
    (storePoint t p).Returns a r b ↔ b = stored t p a := by
  simp [storePoint, stored]

theorem completedBy_open {a : LidarFrameAccumulator} (h : Open a) :
    completedBy a = [spanned a.frame] := by
  simp [completedBy, h.pending]

theorem restart_inactive {a : LidarFrameAccumulator} {t : UInt64}
    (h : a = {} ∨ t < a.windowStartNs) : a.active = false ∨ t < a.windowStartNs := by
  rcases h with rfl | h
  · exact Or.inl rfl
  · exact Or.inr h

theorem enterWindow_moves {batch : LidarPointBatch} {t : UInt64} {p : LidarPoint}
    {a b : LidarFrameAccumulator} {out : List LidarPointBatch} (ha : Ready a)
    (h : (enterWindow batch t).Returns a out b) : Moves batch t p a out (stored t p b) := by
  have hrestart (hr : a = {} ∨ t < a.windowStartNs) :
      Moves batch t p a out (stored t p b) := by
    have hi := restart_inactive hr
    obtain ⟨ht,rfl,rfl⟩ := (enterWindow_restart hi).mp h
    exact .restart hr ht
  rcases ha with h0 | ho
  · exact hrestart (.inl h0)
  · by_cases hs : t < a.windowStartNs
    · exact hrestart (.inr hs)
    · have hs' := UInt64.not_lt.mp hs
      by_cases he : t < a.windowEndNs
      · obtain ⟨rfl,rfl⟩ := (enterWindow_stay ho.active hs' he).mp h
        exact .stay ho hs' he
      · have he' := UInt64.not_lt.mp he
        obtain ⟨hw,rfl,rfl⟩ := (enterWindow_advance ho.active hs' he').mp h
        rw [completedBy_open ho]
        exact .advance ho hs' he' hw

theorem Moves.enterWindow {batch : LidarPointBatch} {t : UInt64} {p : LidarPoint}
    {a c : LidarFrameAccumulator} {out : List LidarPointBatch} (h : Moves batch t p a out c) :
    ∃ b, (enterWindow batch t).Returns a out b ∧ c = stored t p b := by
  cases h with
  | stay ho hs he => exact ⟨a,(enterWindow_stay ho.active hs he).mpr ⟨rfl,rfl⟩,rfl⟩
  | restart hr ht =>
    exact ⟨opened t t batch,(enterWindow_restart (restart_inactive hr)).mpr ⟨ht,rfl,rfl⟩,rfl⟩
  | advance ho hs he hw =>
    refine ⟨opened _ t batch,?_,rfl⟩
    exact (enterWindow_advance ho.active hs he).mpr ⟨hw,(completedBy_open ho).symm,rfl⟩

/-- On a batch with explicit times, a point that is appended moves the window. -/
theorem appendPoint_returns {batch : LidarPointBatch} (he : batch.explicitPointTimes = true)
    {index : ℕ} {p : LidarPoint} {a c : LidarFrameAccumulator} (ha : Ready a)
    {out : List LidarPointBatch} :
    (appendPoint batch index p).Returns a out c ↔
      batch.timestampNs ≤ kMaxUInt64 - p.offsetTimeNs.toUInt64 ∧
        Moves batch (batch.timestampNs + p.offsetTimeNs.toUInt64) p a out c := by
  simp only [appendPoint, returns_bind, pointTimestampNs_returns he, storePoint_returns,
    returns_pure]
  constructor
  · rintro ⟨_,_,⟨hb,rfl,rfl⟩,_,b,hw,_,_,rfl,rfl,rfl⟩
    exact ⟨hb,enterWindow_moves ha hw⟩
  · rintro ⟨hb,hm⟩
    obtain ⟨b,hw,rfl⟩ := hm.enterWindow
    exact ⟨_,a,⟨hb,rfl,rfl⟩,out,b,hw,(),_,rfl,rfl,rfl⟩

/-- Storing a point of the open window states its time exactly. -/
theorem stored_sourcePoints {a : LidarFrameAccumulator} {t : UInt64} {p : LidarPoint}
    (hs : a.frame.timestampNs.toNat ≤ t.toNat)
    (ht : t.toNat < a.frame.timestampNs.toNat + 4294967296) :
    (stored t p a).frame.sourcePoints = a.frame.sourcePoints ++ [⟨t.toNat,p.payload⟩] := by
  have ho : (t - a.frame.timestampNs).toUInt32.toNat = t.toNat - a.frame.timestampNs.toNat := by
    rw [UInt64.toNat_toUInt32,UInt64.toNat_sub_of_le _ _ (UInt64.le_iff_toNat_le.mpr hs)]
    omega
  simp only [stored, LidarPointBatch.sourcePoints, List.map_append, List.map_cons, List.map_nil,
    ho, payload_setOffset]
  rw [Nat.add_sub_cancel' hs]

@[simp] theorem spanned_points (f : LidarPointBatch) : (spanned f).points = f.points := by
  unfold spanned
  split <;> rfl
@[simp] theorem spanned_sourcePoints (f : LidarPointBatch) :
    (spanned f).sourcePoints = f.sourcePoints := by
  unfold spanned
  split <;> rfl
@[simp] theorem spanned_timestampNs (f : LidarPointBatch) :
    (spanned f).timestampNs = f.timestampNs := by
  unfold spanned
  split <;> rfl
/-- A frame opened at `t` states its first point at offset zero. -/
@[simp] theorem stored_opened_sourcePoints (w t : UInt64) (source : LidarPointBatch)
    (p : LidarPoint) :
    (stored t p (opened w t source)).frame.sourcePoints = [⟨t.toNat,p.payload⟩] :=
  stored_sourcePoints le_rfl (Nat.lt_add_of_pos_right (by decide))

end PrismRosAdapter.Lidar
