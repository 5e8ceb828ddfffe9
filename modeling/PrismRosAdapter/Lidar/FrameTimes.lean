import PrismRosAdapter.Lidar.FrameWindow
import PrismRosAdapter.Program.Runs

/-! # Point times of emitted frames

A frame's stamp may lie after the start of its window. A batch that starts
between the two is neither a clock reset nor later than the frame, so its offset
is a negative difference cut to 32 bits. Apart from such batches every frame
states the source time of each of its points.
-/
namespace PrismRosAdapter.Lidar
open Program Runs

def WellTimed (f : LidarPointBatch) : Prop := ∀ p ∈ f.points, p.offsetTimeNs < kFramePeriodNs.toUInt32

/-- The instants that fall in the window but before the pending frame's stamp. -/
def InGap (a : LidarFrameAccumulator) (time : ℕ) : Prop :=
  a.active = true ∧ a.windowStartNs.toNat ≤ time ∧ time < a.frame.timestampNs.toNat

/-- The call appends a batch whose first point falls into the gap. -/
def StartsInGap (a : LidarFrameAccumulator) (c : Call) : Prop :=
  ∃ x ∈ c.sourcePoints.head?, InGap a x.time

/-- A batch as the conversion builds it: explicit times, offsets nondecreasing. -/
def Converted : Call → Prop
  | .append batch => batch.explicitPointTimes = true ∧
      batch.points.Pairwise (fun p q => p.offsetTimeNs ≤ q.offsetTimeNs)
  | .reset => True

instance : DecidablePred Converted
  | .append batch => inferInstanceAs (Decidable (batch.explicitPointTimes = true ∧ _))
  | .reset => .isTrue trivial

theorem wellTimed_stored {a : LidarFrameAccumulator} (h : WellTimed a.frame) {t : UInt64}
    {p : LidarPoint} (hs : a.frame.timestampNs.toNat ≤ t.toNat)
    (ht : t.toNat < a.frame.timestampNs.toNat + 100000000) : WellTimed (stored t p a).frame := by
  intro q hq
  rcases List.mem_append.mp hq with hq | hq
  · exact h q hq
  · rw [List.mem_singleton.mp hq,UInt32.lt_iff_toNat_lt,UInt64.toNat_toUInt32,
      UInt64.toNat_sub_of_le _ _ (UInt64.le_iff_toNat_le.mpr hs)]
    change _ < 100000000
    omega

theorem wellTimed_stored_opened (w t : UInt64) (source : LidarPointBatch) (p : LidarPoint) :
    WellTimed (stored t p (opened w t source)).frame :=
  wellTimed_stored (by simp [WellTimed,opened]) le_rfl (Nat.lt_add_of_pos_right (by decide))

/-- What holds between calls as long as no call started in the gap. -/
structure Timed (a : LidarFrameAccumulator) : Prop where
  ready : Ready a
  wellTimed : WellTimed a.frame

/-- The frames are well-timed, and in order they state points of `source`. -/
structure States (frames : List LidarPointBatch) (source : List SourcePoint) : Prop where
  nonempty : ∀ f ∈ frames, f.points ≠ []
  wellTimed : ∀ f ∈ frames, WellTimed f
  sublist : (frames.flatMap LidarPointBatch.sourcePoints).Sublist source

theorem Moves.timed {batch : LidarPointBatch} {t : UInt64} {p : LidarPoint}
    {a b : LidarFrameAccumulator} {out : List LidarPointBatch} (h : Moves batch t p a out b)
    (ha : Timed a) (hg : ¬ InGap a t.toNat) :
    Timed b ∧ b.frame.timestampNs.toNat ≤ t.toNat ∧ (∀ f ∈ out, f.points ≠ [] ∧ WellTimed f) ∧
      (out.flatMap LidarPointBatch.sourcePoints ++ b.frame.sourcePoints).Sublist
        (a.frame.sourcePoints ++ [⟨t.toNat,p.payload⟩]) := by
  have hb := h.open
  cases h with
  | stay ho hs he =>
    have hst : a.frame.timestampNs.toNat ≤ t.toNat := by
      by_contra hlt
      exact hg ⟨ho.active,UInt64.le_iff_toNat_le.mp hs,Nat.lt_of_not_le hlt⟩
    have het := UInt64.lt_iff_toNat_lt.mp he
    have hend := ho.windowEnd
    have hstart := ho.start_le_stamp
    refine ⟨⟨.inr hb,wellTimed_stored ha.wellTimed hst (by omega)⟩,hst,by simp,?_⟩
    rw [stored_sourcePoints hst (by omega)]
    exact List.Sublist.refl _
  | restart hr ht =>
    refine ⟨⟨.inr hb,wellTimed_stored_opened t t batch p⟩,le_rfl,by simp,?_⟩
    rw [stored_opened_sourcePoints]
    exact List.sublist_append_right _ _
  | advance ho hs he hw =>
    refine ⟨⟨.inr hb,wellTimed_stored_opened _ t batch p⟩,le_rfl,?_,by simp⟩
    intro f hf
    obtain rfl := List.mem_singleton.mp hf
    exact ⟨by simpa using ho.pending,by simpa [WellTimed] using ha.wellTimed⟩

/-- A pending frame with a point whose offset reaches past the period. -/
structure Spoiled (a : LidarFrameAccumulator) : Prop where
  isOpen : Open a
  not_wellTimed : ¬ WellTimed a.frame

/-- A point in the gap is stored with an offset past the period. -/
theorem Moves.spoils {batch : LidarPointBatch} {t : UInt64} {p : LidarPoint}
    {a b : LidarFrameAccumulator} {out : List LidarPointBatch} (h : Moves batch t p a out b)
    (hg : InGap a t.toNat) :
    t.toNat < a.windowEndNs.toNat ∧ out = [] ∧ Spoiled b ∧
      b.windowStartNs = a.windowStartNs ∧ b.windowEndNs = a.windowEndNs := by
  obtain ⟨hactive,hstart,hstamp⟩ := hg
  have hb := h.open
  cases h with
  | stay ho hs he =>
    refine ⟨UInt64.lt_iff_toNat_lt.mp he,rfl,⟨hb,?_⟩,rfl,rfl⟩
    intro hw
    have hp := hw { p with offsetTimeNs := (t - a.frame.timestampNs).toUInt32 } (by simp [stored])
    have hend := ho.windowEnd
    have hle := ho.start_le_stamp
    have hlt := ho.stamp_lt_end
    have hmax := a.frame.timestampNs.toNat_lt
    have hk : kFramePeriodNs.toUInt32.toNat = 100000000 := rfl
    rw [UInt32.lt_iff_toNat_lt,UInt64.toNat_toUInt32,UInt64.toNat_sub,hk] at hp
    omega
  | restart hr ht =>
    rcases hr with rfl | hr
    · cases hactive
    · have hlt := UInt64.lt_iff_toNat_lt.mp hr
      omega
  | advance ho hs he hw =>
    have hle := UInt64.le_iff_toNat_le.mp he
    have hlt := ho.stamp_lt_end
    omega

/-- A later point of the window leaves a spoiled frame pending; a point past the
window emits it. -/
theorem Moves.spoiled {batch : LidarPointBatch} {t : UInt64} {p : LidarPoint}
    {a b : LidarFrameAccumulator} {out : List LidarPointBatch} (h : Moves batch t p a out b)
    (ha : Spoiled a) (hs : a.windowStartNs.toNat ≤ t.toNat) :
    (a.windowEndNs.toNat ≤ t.toNat ∧ ∃ f ∈ out, ¬ WellTimed f) ∨
      t.toNat < a.windowEndNs.toNat ∧ out = [] ∧ Spoiled b ∧
        b.windowStartNs = a.windowStartNs ∧ b.windowEndNs = a.windowEndNs := by
  have hb := h.open
  cases h with
  | stay ho _ he =>
    refine Or.inr ⟨UInt64.lt_iff_toNat_lt.mp he,rfl,⟨hb,?_⟩,rfl,rfl⟩
    exact fun hw => ha.not_wellTimed (fun q hq => hw q (List.mem_append_left _ hq))
  | restart hr ht =>
    rcases hr with rfl | hr
    · exact absurd rfl ha.isOpen.pending
    · have hlt := UInt64.lt_iff_toNat_lt.mp hr
      omega
  | advance ho _ he _ =>
    refine Or.inl ⟨UInt64.le_iff_toNat_le.mp he,spanned a.frame,List.mem_singleton_self _,?_⟩
    simpa [WellTimed] using ha.not_wellTimed

theorem collect_appendPoint_cons {batch : LidarPointBatch} (he : batch.explicitPointTimes = true)
    {index : ℕ} {p : LidarPoint} {rest : List LidarPoint} {a c : LidarFrameAccumulator}
    (ha : Ready a) {out : List LidarPointBatch}
    (h : (collect (appendPoint batch) index (p :: rest)).Returns a out c) :
    ∃ t first b later, t.toNat = batch.timestampNs.toNat + p.offsetTimeNs.toNat ∧
      Moves batch t p a first b ∧ (collect (appendPoint batch) (index + 1) rest).Returns b later c ∧
      out = first ++ later := by
  obtain ⟨first,b,later,hp,hr,rfl⟩ := collect_cons_returns.mp h
  obtain ⟨hb,hm⟩ := (appendPoint_returns he ha).mp hp
  exact ⟨_,first,b,later,pointTime_toNat hb,hm,hr,rfl⟩

/-- The source points a suffix of the batch's points states. -/
def suffixPoints (batch : LidarPointBatch) (points : List LidarPoint) : List SourcePoint :=
  points.map fun p => ⟨batch.timestampNs.toNat + p.offsetTimeNs.toNat,p.payload⟩

theorem append_timed {batch : LidarPointBatch} (he : batch.explicitPointTimes = true)
    (points : List LidarPoint) (hp : points.Pairwise (fun p q => p.offsetTimeNs ≤ q.offsetTimeNs))
    (index : ℕ) {a c : LidarFrameAccumulator} {out : List LidarPointBatch} (ha : Timed a)
    (hg : ∀ x ∈ (suffixPoints batch points).head?, ¬ InGap a x.time)
    (h : (collect (appendPoint batch) index points).Returns a out c) :
    Timed c ∧ (∀ f ∈ out, f.points ≠ [] ∧ WellTimed f) ∧
      (out.flatMap LidarPointBatch.sourcePoints ++ c.frame.sourcePoints).Sublist
        (a.frame.sourcePoints ++ suffixPoints batch points) := by
  induction points generalizing index a out with
  | nil =>
    obtain ⟨rfl,rfl⟩ := collect_nil_returns.mp h
    exact ⟨ha,by simp,by simp [suffixPoints]⟩
  | cons p rest ih =>
    obtain ⟨t,first,b,later,ht,hm,hr,rfl⟩ := collect_appendPoint_cons he ha.ready h
    have hgap : ¬ InGap a t.toNat := by
      rw [ht]
      exact hg ⟨_,p.payload⟩ (by simp [suffixPoints])
    obtain ⟨hb,hle,hfirst,hsub⟩ := hm.timed ha hgap
    have hnext : ∀ x ∈ (suffixPoints batch rest).head?, ¬ InGap b x.time := by
      intro x hx hin
      cases rest with
      | nil => simp [suffixPoints] at hx
      | cons q rest =>
        have hpq := List.rel_of_pairwise_cons hp (List.mem_cons_self ..)
        have hoff := UInt32.le_iff_toNat_le.mp hpq
        simp only [suffixPoints, List.map_cons, List.head?_cons, Option.mem_some_iff] at hx
        subst hx
        have hlt := hin.2.2
        dsimp only at hlt
        omega
    obtain ⟨hc,hlater,hsub'⟩ := ih hp.of_cons (index + 1) hb hnext hr
    refine ⟨hc,?_,?_⟩
    · intro f hf
      rcases List.mem_append.mp hf with hf | hf
      · exact hfirst f hf
      · exact hlater f hf
    · rw [List.flatMap_append,List.append_assoc]
      apply (List.Sublist.append_left hsub' _).trans
      rw [← List.append_assoc]
      have hstep := hsub.append_right (suffixPoints batch rest)
      rw [List.append_assoc] at hstep
      simpa [suffixPoints,ht] using hstep

/-- A call that does not end the window of a spoiled frame leaves it pending; one
that reaches past the window emits it. -/
theorem append_spoiled {batch : LidarPointBatch} (he : batch.explicitPointTimes = true)
    (points : List LidarPoint) (index : ℕ) {a c : LidarFrameAccumulator}
    {out : List LidarPointBatch} (ha : Spoiled a)
    (hs : ∀ x ∈ suffixPoints batch points, a.windowStartNs.toNat ≤ x.time)
    (h : (collect (appendPoint batch) index points).Returns a out c) :
    ((∃ x ∈ suffixPoints batch points, a.windowEndNs.toNat ≤ x.time) ∧ ∃ f ∈ out, ¬ WellTimed f) ∨
      (∀ x ∈ suffixPoints batch points, x.time < a.windowEndNs.toNat) ∧ out = [] ∧ Spoiled c ∧
        c.windowStartNs = a.windowStartNs ∧ c.windowEndNs = a.windowEndNs := by
  induction points generalizing index a out with
  | nil =>
    obtain ⟨rfl,rfl⟩ := collect_nil_returns.mp h
    exact Or.inr ⟨by simp [suffixPoints],rfl,ha,rfl,rfl⟩
  | cons p rest ih =>
    obtain ⟨t,first,b,later,ht,hm,hr,rfl⟩ := collect_appendPoint_cons he (.inr ha.isOpen) h
    have hst : a.windowStartNs.toNat ≤ t.toNat := ht ▸ hs _ (List.mem_cons_self ..)
    rcases hm.spoiled ha hst with ⟨hle,f,hf,hspoiled⟩ | ⟨hlt,rfl,hb,hws,hwe⟩
    · refine Or.inl ⟨⟨_,List.mem_cons_self ..,?_⟩,f,List.mem_append_left _ hf,hspoiled⟩
      exact le_of_le_of_eq hle ht
    · have hnext : ∀ x ∈ suffixPoints batch rest, b.windowStartNs.toNat ≤ x.time := by
        intro x hx
        rw [hws]
        exact hs x (List.mem_cons_of_mem _ hx)
      rcases ih (index + 1) hb hnext hr with ⟨⟨x,hx,hle⟩,hf⟩ | ⟨hlt',rfl,hc,hws',hwe'⟩
      · exact Or.inl ⟨⟨x,List.mem_cons_of_mem _ hx,hwe ▸ hle⟩,hf⟩
      · refine Or.inr ⟨?_,rfl,hc,hws'.trans hws,hwe'.trans hwe⟩
        intro x hx
        rcases List.mem_cons.mp hx with rfl | hx
        · exact lt_of_eq_of_lt ht.symm hlt
        · exact hwe ▸ hlt' x hx

end PrismRosAdapter.Lidar
