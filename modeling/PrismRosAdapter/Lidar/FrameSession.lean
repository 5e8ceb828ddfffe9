import PrismRosAdapter.Lidar.FrameTimes

/-! # Frame times over a whole LiDAR session

A batch that starts in the gap before the pending frame's stamp spoils that
frame. The session emits a frame with a wrong point time exactly when such a
frame is completed before a reset, or a step back past its window, discards it.
-/
namespace PrismRosAdapter.Lidar
open Program Runs

/-- The call ends a window that starts at `start` without emitting its frame. -/
def Discards (start : ℕ) (c : Call) : Prop :=
  c = .reset ∨ ∃ x ∈ c.sourcePoints.head?, x.time < start

def Overruns (windowEnd : ℕ) (c : Call) : Prop := ∃ x ∈ c.sourcePoints, windowEnd ≤ x.time

/-- The calls complete the frame pending in the window. -/
def CompletesWindow (start windowEnd : ℕ) : List Call → Prop
  | [] => False
  | c :: rest =>
    ¬ Discards start c ∧ (Overruns windowEnd c ∨ CompletesWindow start windowEnd rest)

/-- No frame that a batch in its gap has spoiled is completed later. -/
def GapsDiscarded (s : Session) (calls : List Call) : Prop :=
  ∀ first c rest, first ++ c :: rest = calls →
    StartsInGap (run Session.step s first).accumulator c →
      ¬ CompletesWindow (run Session.step s first).accumulator.windowStartNs.toNat
        (run Session.step s first).accumulator.windowEndNs.toNat (c :: rest)

theorem gapsDiscarded_nil {s : Session} : GapsDiscarded s [] := by
  intro first c rest h
  simp at h

theorem gapsDiscarded_cons {s : Session} {c : Call} {rest : List Call} :
    GapsDiscarded s (c :: rest) ↔
      (StartsInGap s.accumulator c → ¬ CompletesWindow s.accumulator.windowStartNs.toNat
        s.accumulator.windowEndNs.toNat (c :: rest)) ∧ GapsDiscarded (s.step c) rest := by
  constructor
  · intro h
    refine ⟨h [] c rest rfl,?_⟩
    intro first d later hd
    exact h (c :: first) d later (by rw [List.cons_append,hd])
  · rintro ⟨h0,h⟩ first d later hd
    cases first with
    | nil =>
      obtain ⟨rfl,rfl⟩ := List.cons.inj hd
      exact h0
    | cons e first =>
      rw [List.cons_append] at hd
      obtain ⟨rfl,htail⟩ := List.cons.inj hd
      exact h first d later htail

theorem Session.step_completes {s : Session} {c : Call} (h : s.Completes c) :
    ∃ out b, (c.program).Returns s.accumulator out b ∧ s.step c = ⟨b,s.emitted ++ out⟩ := by
  unfold Session.Completes at h
  unfold Session.step Returns
  cases hr : c.program s.accumulator with
  | mk r b =>
    rw [hr] at h
    cases r with
    | ok out => exact ⟨out,b,rfl,rfl⟩
    | error e => cases h

/-- A reset leaves the accumulator of a fresh session. -/
theorem Session.step_reset (s : Session) : s.step .reset = ⟨{},s.emitted⟩ := by
  have h : Call.reset.program s.accumulator = (.ok [],{}) := rfl
  unfold Session.step
  rw [h]
  simp only [List.append_nil]

/-- A session that is new, or has just been reset. -/
def Session.Begun (s : Session) : Prop := s = ⟨{},[]⟩ ∨ ∃ before : Session, s = before.step .reset

theorem Session.Begun.accumulator {s : Session} (h : s.Begun) : s.accumulator = {} := by
  rcases h with rfl | ⟨before,rfl⟩
  · rfl
  · rw [step_reset]

/-- The session states every point it has emitted, and its pending frame
continues the statement. -/
structure Tidy (s : Session) (source : List SourcePoint) : Prop where
  states : States s.emitted source
  timed : Timed s.accumulator
  sublist : (s.emitted.flatMap LidarPointBatch.sourcePoints ++
    s.accumulator.frame.sourcePoints).Sublist source

theorem timed_empty : Timed {} := ⟨.inl rfl,by simp [WellTimed]⟩

theorem States.weaken {frames : List LidarPointBatch} {source more : List SourcePoint}
    (h : States frames source) : States frames (source ++ more) :=
  ⟨h.nonempty,h.wellTimed,h.sublist.trans (List.sublist_append_left _ _)⟩

theorem States.extend {frames out : List LidarPointBatch} {source : List SourcePoint}
    {b : LidarFrameAccumulator} (h : States frames source)
    (hout : ∀ f ∈ out, f.points ≠ [] ∧ WellTimed f) (hb : Timed b)
    (hsub : (frames.flatMap LidarPointBatch.sourcePoints ++
      (out.flatMap LidarPointBatch.sourcePoints ++ b.frame.sourcePoints)).Sublist source) :
    Tidy ⟨b,frames ++ out⟩ source := by
  refine ⟨⟨?_,?_,?_⟩,hb,?_⟩
  · intro f hf
    rcases List.mem_append.mp hf with hf | hf
    · exact h.nonempty f hf
    · exact (hout f hf).1
  · intro f hf
    rcases List.mem_append.mp hf with hf | hf
    · exact h.wellTimed f hf
    · exact (hout f hf).2
  · rw [List.flatMap_append]
    refine List.Sublist.trans ?_ hsub
    exact (List.sublist_append_left _ _).append_left _
  · rw [List.flatMap_append,List.append_assoc]
    exact hsub

/-- A call that does not start in the gap keeps the session's statement exact. -/
theorem Tidy.step {s : Session} {source : List SourcePoint} (h : Tidy s source) {c : Call}
    (hc : Converted c) (hs : s.Completes c) (hg : ¬ StartsInGap s.accumulator c) :
    Tidy (s.step c) (source ++ c.sourcePoints) := by
  cases c with
  | append batch =>
    obtain ⟨out,b,hr,he⟩ := Session.step_completes hs
    rw [he]
    obtain ⟨hexp,hp⟩ := hc
    have hgap : ∀ x ∈ (suffixPoints batch batch.points).head?, ¬ InGap s.accumulator x.time :=
      fun x hx hin => hg ⟨x,hx,hin⟩
    obtain ⟨hb,hout,hsub⟩ := append_timed hexp batch.points hp 0 h.timed hgap hr
    apply h.states.weaken.extend hout hb
    have hleft := hsub.append_left (s.emitted.flatMap LidarPointBatch.sourcePoints)
    rw [← List.append_assoc _ s.accumulator.frame.sourcePoints] at hleft
    exact hleft.trans (h.sublist.append_right _)
  | reset =>
    rw [Session.step_reset]
    refine ⟨h.states.weaken,timed_empty,?_⟩
    simpa [Call.sourcePoints,LidarPointBatch.sourcePoints] using h.states.sublist

theorem mem_head?_sourcePoints {batch : LidarPointBatch} {x : SourcePoint}
    (h : x ∈ batch.sourcePoints.head?) : ∃ p rest, batch.points = p :: rest ∧
      x = ⟨batch.timestampNs.toNat + p.offsetTimeNs.toNat,p.payload⟩ := by
  unfold LidarPointBatch.sourcePoints at h
  cases hpts : batch.points with
  | nil => simp [hpts] at h
  | cons p rest =>
    refine ⟨p,rest,rfl,?_⟩
    simpa [hpts,eq_comm] using h

/-- From where the pending frame is discarded the call runs as on a fresh accumulator. -/
theorem Discards.program_returns {a b : LidarFrameAccumulator} {c : Call}
    {out : List LidarPointBatch} (hd : Discards a.windowStartNs.toNat c) (hc : Converted c)
    (ha : Ready a) (h : c.program.Returns a out b) : c.program.Returns {} out b := by
  rcases hd with rfl | ⟨x,hx,hlt⟩
  · simpa [Call.program,reset,returns_bind] using h
  · cases c with
    | reset => cases hx
    | append batch =>
      change (collect (appendPoint batch) 0 batch.points).Returns a out b at h
      change (collect (appendPoint batch) 0 batch.points).Returns {} out b
      obtain ⟨p,rest,hpts,rfl⟩ := mem_head?_sourcePoints hx
      rw [hpts] at h ⊢
      obtain ⟨first,d,later,hp,hr,rfl⟩ := collect_cons_returns.mp h
      refine collect_cons_returns.mpr ⟨first,d,later,?_,hr,rfl⟩
      obtain ⟨hb,hm⟩ := (appendPoint_returns hc.1 ha).mp hp
      refine (appendPoint_returns hc.1 (.inl rfl)).mpr ⟨hb,?_⟩
      have ht := pointTime_toNat hb
      cases hm with
      | stay _ hs _ =>
        have hle := UInt64.le_iff_toNat_le.mp hs
        dsimp only at hlt
        omega
      | restart _ hmax => exact .restart (.inl rfl) hmax
      | advance _ hs _ _ =>
        have hle := UInt64.le_iff_toNat_le.mp hs
        dsimp only at hlt
        omega

/-- A call that discards the pending frame starts the statement afresh. -/
theorem States.discard {s : Session} {source : List SourcePoint} (h : States s.emitted source)
    {c : Call} (hc : Converted c) (hs : s.Completes c) (ha : Ready s.accumulator)
    (hd : Discards s.accumulator.windowStartNs.toNat c) :
    Tidy (s.step c) (source ++ c.sourcePoints) := by
  have hempty : Tidy ⟨{},s.emitted⟩ source := by
    refine ⟨h,timed_empty,?_⟩
    simpa [LidarPointBatch.sourcePoints] using h.sublist
  obtain ⟨out,b,hr,he⟩ := Session.step_completes hs
  have hfresh : c.program {} = (.ok out,b) := hd.program_returns hc ha hr
  have hstep : s.step c = Session.step ⟨{},s.emitted⟩ c := by
    rw [he,Session.step]
    simp only [hfresh]
  rw [hstep]
  refine hempty.step hc ?_ ?_
  · simp [Session.Completes,hfresh,Except.isOk,Except.toBool]
  · rintro ⟨x,_,hin⟩
    cases hin.1

/-- What a call does to a frame it spoils, or that was spoiled before. -/
def Settles (a : LidarFrameAccumulator) (c : Call) (out : List LidarPointBatch)
    (b : LidarFrameAccumulator) : Prop :=
  (Overruns a.windowEndNs.toNat c ∧ ∃ f ∈ out, ¬ WellTimed f) ∨
    ¬ Overruns a.windowEndNs.toNat c ∧ out = [] ∧ Spoiled b ∧
      b.windowStartNs = a.windowStartNs ∧ b.windowEndNs = a.windowEndNs

theorem sourcePoints_ge_head {batch : LidarPointBatch} (hc : Converted (.append batch)) {w : ℕ}
    (h : ∀ x ∈ batch.sourcePoints.head?, w ≤ x.time) : ∀ x ∈ batch.sourcePoints, w ≤ x.time := by
  obtain ⟨_,hp⟩ := hc
  unfold LidarPointBatch.sourcePoints at h ⊢
  intro x hx
  obtain ⟨q,hq,rfl⟩ := List.mem_map.mp hx
  cases hpts : batch.points with
  | nil => simp [hpts] at hq
  | cons p rest =>
    have hw := h ⟨batch.timestampNs.toNat + p.offsetTimeNs.toNat,p.payload⟩ (by simp [hpts])
    dsimp only at hw ⊢
    rw [hpts] at hq hp
    rcases List.mem_cons.mp hq with rfl | hq
    · exact hw
    · have hoff := UInt32.le_iff_toNat_le.mp (List.rel_of_pairwise_cons hp hq)
      omega

theorem Spoiled.settles {a b : LidarFrameAccumulator} {c : Call} {out : List LidarPointBatch}
    (ha : Spoiled a) (hc : Converted c) (hd : ¬ Discards a.windowStartNs.toNat c)
    (h : c.program.Returns a out b) : Settles a c out b := by
  cases c with
  | reset => exact absurd (.inl rfl) hd
  | append batch =>
    have hhead : ∀ x ∈ batch.sourcePoints.head?, a.windowStartNs.toNat ≤ x.time := by
      intro x hx
      by_contra hlt
      exact hd (.inr ⟨x,hx,Nat.lt_of_not_le hlt⟩)
    rcases append_spoiled hc.1 batch.points 0 ha (sourcePoints_ge_head hc hhead) h with
      hbad | ⟨hlt,hrest⟩
    · exact Or.inl hbad
    · refine Or.inr ⟨?_,hrest⟩
      rintro ⟨x,hx,hle⟩
      have hxlt := hlt x hx
      omega

theorem StartsInGap.settles {a b : LidarFrameAccumulator} {c : Call}
    {out : List LidarPointBatch} (hg : StartsInGap a c) (hc : Converted c) (ha : Ready a)
    (h : c.program.Returns a out b) : Settles a c out b := by
  obtain ⟨x,hx,hin⟩ := hg
  cases c with
  | reset => cases hx
  | append batch =>
    obtain ⟨p,rest,hpts,rfl⟩ := mem_head?_sourcePoints hx
    have hsource : batch.sourcePoints = suffixPoints batch (p :: rest) := by
      rw [← hpts]
      rfl
    have hge : ∀ y ∈ batch.sourcePoints, a.windowStartNs.toNat ≤ y.time := by
      apply sourcePoints_ge_head hc
      intro y hy
      obtain rfl := Option.mem_unique hx hy
      exact hin.2.1
    rw [hsource] at hge
    change (collect (appendPoint batch) 0 batch.points).Returns a out b at h
    rw [hpts] at h
    obtain ⟨t,first,d,later,ht,hm,hr,rfl⟩ := collect_appendPoint_cons hc.1 ha h
    obtain ⟨hlt,rfl,hd,hws,hwe⟩ := hm.spoils (ht ▸ hin)
    have hnext : ∀ y ∈ suffixPoints batch rest, d.windowStartNs.toNat ≤ y.time := by
      intro y hy
      rw [hws]
      exact hge y (List.mem_cons_of_mem _ hy)
    unfold Settles Overruns Call.sourcePoints
    dsimp only
    rw [hsource,← hws,← hwe]
    rcases append_spoiled hc.1 rest 1 hd hnext hr with ⟨⟨y,hy,hle⟩,hbad⟩ | ⟨hbefore,rfl,hrest⟩
    · exact Or.inl ⟨⟨y,List.mem_cons_of_mem _ hy,hle⟩,hbad⟩
    · refine Or.inr ⟨?_,rfl,hrest⟩
      rintro ⟨y,hy,hle⟩
      rcases List.mem_cons.mp hy with rfl | hy
      · dsimp only at hle
        rw [hwe] at hle
        omega
      · have hylt := hbefore y hy
        omega

theorem StartsInGap.not_discards {a : LidarFrameAccumulator} {c : Call} (h : StartsInGap a c) :
    ¬ Discards a.windowStartNs.toNat c := by
  obtain ⟨x,hx,hin⟩ := h
  rintro (rfl | ⟨y,hy,hlt⟩)
  · cases hx
  · obtain rfl := Option.mem_unique hx hy
    have hle := hin.2.1
    omega

theorem emitted_extends (s : Session) (calls : List Call) :
    s.emitted <+: (run Session.step s calls).emitted := by
  induction calls generalizing s with
  | nil => exact List.prefix_refl _
  | cons c rest ih =>
    refine List.IsPrefix.trans ?_ (ih (s.step c))
    unfold Session.step
    split
    · exact List.prefix_append _ _
    · exact List.prefix_refl _

/-- The calls of a session that runs to its end on converted batches. -/
def Feeds (s : Session) (c : Call) : Prop := Converted c ∧ s.Completes c

instance (s : Session) (c : Call) : Decidable (Feeds s c) :=
  inferInstanceAs (Decidable (_ ∧ _))

/-- The frames a run has emitted once it is over. -/
def EmitsExactly (s : Session) (source : List SourcePoint) (calls : List Call) : Prop :=
  States (run Session.step s calls).emitted (source ++ calls.flatMap Call.sourcePoints)

theorem emitsExactly_cons {s : Session} {source : List SourcePoint} {c : Call}
    {rest : List Call} : EmitsExactly s source (c :: rest) ↔
      EmitsExactly (s.step c) (source ++ c.sourcePoints) rest := by
  unfold EmitsExactly
  rw [List.flatMap_cons,List.append_assoc,run_cons]

/-- A spoiled frame that a call settles decides the run together with the later calls. -/
theorem Settles.emitsExactly_iff {s : Session} {source : List SourcePoint} {c : Call}
    {rest : List Call} {out : List LidarPointBatch} {b : LidarFrameAccumulator}
    (h : Settles s.accumulator c out b) (he : s.step c = ⟨b,s.emitted ++ out⟩)
    (hd : ¬ Discards s.accumulator.windowStartNs.toNat c)
    (hrest : out = [] → Spoiled b → (EmitsExactly (s.step c) (source ++ c.sourcePoints) rest ↔
      ¬ CompletesWindow b.windowStartNs.toNat b.windowEndNs.toNat rest ∧
        GapsDiscarded (s.step c) rest)) :
    EmitsExactly s source (c :: rest) ↔
      ¬ CompletesWindow s.accumulator.windowStartNs.toNat s.accumulator.windowEndNs.toNat
        (c :: rest) ∧ GapsDiscarded (s.step c) rest := by
  rw [emitsExactly_cons]
  unfold CompletesWindow
  rcases h with ⟨ho,f,hf,hbad⟩ | ⟨ho,hout,hb,hws,hwe⟩
  · constructor
    · intro hstates
      refine absurd (hstates.wellTimed f ?_) hbad
      apply (emitted_extends (s.step c) rest).subset
      rw [he]
      exact List.mem_append_right _ hf
    · rintro ⟨hcw,_⟩
      exact absurd ⟨hd,.inl ho⟩ hcw
  · rw [hrest hout hb,hws,hwe]
    simp only [hd, ho, not_false_iff, true_and, false_or]

/-- A run from a tidy session emits exact frames only if every spoiled frame is
discarded; from a session with a spoiled frame pending, that frame must be too. -/
theorem emitsExactly_iff (calls : List Call) : ∀ (s : Session) (source : List SourcePoint),
    EachStep Session.step Feeds s calls →
      (Tidy s source → (EmitsExactly s source calls ↔ GapsDiscarded s calls)) ∧
      (Spoiled s.accumulator → States s.emitted source → (EmitsExactly s source calls ↔
        ¬ CompletesWindow s.accumulator.windowStartNs.toNat s.accumulator.windowEndNs.toNat calls
          ∧ GapsDiscarded s calls)) := by
  induction calls with
  | nil =>
    intro s source _
    have hempty : EmitsExactly s source [] ↔ States s.emitted source := by simp [EmitsExactly]
    refine ⟨fun h => ?_,fun _ h => ?_⟩
    · exact ⟨fun _ => gapsDiscarded_nil,fun _ => hempty.mpr h.states⟩
    · exact ⟨fun _ => ⟨not_false,gapsDiscarded_nil⟩,fun _ => hempty.mpr h⟩
  | cons c rest ih =>
    intro s source hf
    obtain ⟨⟨hc,hs⟩,hrest⟩ := (eachStep_cons Session.step).mp hf
    obtain ⟨ihTidy,ihSpoiled⟩ := ih (s.step c) (source ++ c.sourcePoints) hrest
    obtain ⟨out,b,hr,he⟩ := Session.step_completes hs
    have hlater (hstates : States s.emitted source) (hout : out = []) (hb : Spoiled b) :=
      ihSpoiled (by rw [he]; exact hb) (by rw [he,hout,List.append_nil]; exact hstates.weaken)
    rw [gapsDiscarded_cons]
    refine ⟨fun h => ?_,fun ha hstates => ?_⟩
    · by_cases hg : StartsInGap s.accumulator c
      · rw [((hg.settles hc h.timed.ready hr).emitsExactly_iff he hg.not_discards
          (by simpa [he] using hlater h.states))]
        simp only [hg, true_imp_iff]
      · rw [emitsExactly_cons,ihTidy (h.step hc hs hg)]
        simp only [hg, false_imp_iff, true_and]
    · by_cases hd : Discards s.accumulator.windowStartNs.toNat c
      · rw [emitsExactly_cons,ihTidy (hstates.discard hc hs (.inr ha.isOpen) hd)]
        simp only [CompletesWindow, hd, not_true, false_and, not_false_iff, imp_true_iff, true_and]
      · rw [(ha.settles hc hd hr).emitsExactly_iff he hd (by simpa [he] using hlater hstates)]
        tauto

/-- A session emits only non-empty frames that state their points' source times
within one period exactly when no frame spoiled by a batch in its gap is completed. -/
theorem frames_exact_iff (calls : List Call) (h : EachStep Session.step Feeds {} calls) :
    States (run Session.step {} calls).emitted (calls.flatMap Call.sourcePoints) ↔
      GapsDiscarded {} calls := by
  have htidy : Tidy {} [] :=
    ⟨⟨by simp,by simp,List.Sublist.refl _⟩,timed_empty,List.Sublist.refl _⟩
  have hiff := (emitsExactly_iff calls {} [] h).1 htidy
  unfold EmitsExactly at hiff
  rwa [List.nil_append] at hiff

/-- Two one-point batches, the second past the first one's window. -/
def forwardCalls : List Call := [
  .append { timestampNs := 0, explicitPointTimes := true, points := [{}] },
  .append { timestampNs := 150000000, explicitPointTimes := true, points := [{}] }]

theorem frames_exact_iff_forward :
    States (run Session.step {} forwardCalls).emitted (forwardCalls.flatMap Call.sourcePoints) ↔
      GapsDiscarded {} forwardCalls :=
  frames_exact_iff forwardCalls (by decide)

/-- The same two batches, then one that steps back into the gap of the second
frame, then one that completes that frame. -/
def gapCalls : List Call := forwardCalls ++ [
  .append { timestampNs := 120000000, explicitPointTimes := true, points := [{}] },
  .append { timestampNs := 300000000, explicitPointTimes := true, points := [{}] }]

/-- The point measured 30 ms before its frame's stamp is stated at +4264967296 ns. -/
theorem gap_point_wraps : EachStep Session.step Feeds {} gapCalls ∧
    ¬ States (run Session.step {} gapCalls).emitted (gapCalls.flatMap Call.sourcePoints) := by
  refine ⟨by decide,?_⟩
  intro h
  have hbad : ¬ ∀ f ∈ (run Session.step {} gapCalls).emitted, ∀ p ∈ f.points,
    p.offsetTimeNs < kFramePeriodNs.toUInt32 := by decide
  exact hbad h.wellTimed

end PrismRosAdapter.Lidar
