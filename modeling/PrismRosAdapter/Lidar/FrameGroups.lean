import PrismRosAdapter.Lidar.FrameSession
import PrismRosAdapter.Program.Groups

/-! # Frames of a forward-moving stream

On a stream whose times never go back, the frames are the groups of consecutive
points with one period index, counted from the first point. The proof ties the
window, the stamp and the pending points to the whole stream seen so far.
-/
namespace PrismRosAdapter.Lidar
open Program Runs Groups

/-- The last instant a window may start at without overflowing its end. -/
def lastWindowStart : ℕ := 18446744073609551615

theorem le_lastWindowStart {w : UInt64} :
    w ≤ kMaxUInt64 - kFramePeriodNs ↔ w.toNat ≤ lastWindowStart := UInt64.le_iff_toNat_le

def periodIndex (origin time : ℕ) : ℕ := (time - origin) / 100000000

/-- The points of a stream by the period they fall in, from the first point on. -/
def frameGroups (stream : List SourcePoint) : List (List SourcePoint) :=
  match stream.head? with
  | none => []
  | some first => groupsBy (fun x => periodIndex first.time x.time) stream

/-- The frame states the points of the group and is stamped with the first. -/
def StatesGroup (f : LidarPointBatch) (group : List SourcePoint) : Prop :=
  f.sourcePoints = group ∧ ∃ x ∈ group.head?, f.timestampNs.toNat = x.time

/-- The pending group of a non-empty stream, next to the groups already emitted. -/
structure Follows (a : LidarFrameAccumulator) (emitted : List LidarPointBatch)
    (stream : List SourcePoint) (first last : SourcePoint) : Prop where
  head_eq : stream.head? = some first
  last_eq : stream.getLast? = some last
  first_le_last : first.time ≤ last.time
  isOpen : Open a
  windowStart : a.windowStartNs.toNat =
    first.time + periodIndex first.time last.time * 100000000
  stamp_le_last : a.frame.timestampNs.toNat ≤ last.time
  groups : ∃ complete group, frameGroups stream = complete ++ [group] ∧
    List.Forall₂ StatesGroup emitted complete ∧ StatesGroup a.frame group ∧
      group.getLast? = some last

def Tracks (a : LidarFrameAccumulator) (emitted : List LidarPointBatch)
    (stream : List SourcePoint) : Prop :=
  (stream = [] ∧ a = {} ∧ emitted = []) ∨ ∃ first last, Follows a emitted stream first last

theorem Tracks.ready {a : LidarFrameAccumulator} {emitted : List LidarPointBatch}
    {stream : List SourcePoint} (h : Tracks a emitted stream) : Ready a := by
  rcases h with ⟨_,ha,_⟩ | ⟨_,_,h⟩
  · exact Or.inl ha
  · exact Or.inr h.isOpen

theorem frameGroups_append {stream : List SourcePoint} {first : SourcePoint}
    (h : stream.head? = some first) (x : SourcePoint) : frameGroups (stream ++ [x]) =
      groupsBy (fun y => periodIndex first.time y.time) (stream ++ [x]) := by
  simp [frameGroups,List.head?_append,h]

theorem frameGroups_of_head {stream : List SourcePoint} {first : SourcePoint}
    (h : stream.head? = some first) : frameGroups stream =
      groupsBy (fun y => periodIndex first.time y.time) stream := by
  simp [frameGroups,h]

theorem statesGroup_stored_opened (w t : UInt64) (source : LidarPointBatch) (p : LidarPoint) :
    StatesGroup (stored t p (opened w t source)).frame [⟨t.toNat,p.payload⟩] :=
  ⟨stored_opened_sourcePoints w t source p,_,rfl,rfl⟩

theorem statesGroup_spanned {f : LidarPointBatch} {group : List SourcePoint}
    (h : StatesGroup f group) : StatesGroup (spanned f) group := by
  simpa [StatesGroup] using h

theorem periodIndex_same {origin last time k : ℕ} (hk : k = periodIndex origin last)
    (hl : last ≤ time) (ht : time < origin + k * 100000000 + 100000000) :
    periodIndex origin time = k := by
  unfold periodIndex at hk ⊢
  omega

theorem periodStart_le {origin time : ℕ} (h : origin ≤ time) :
    origin + periodIndex origin time * 100000000 ≤ time := by
  unfold periodIndex
  omega

theorem advancedStart_periodIndex {w t : UInt64} {origin k : ℕ}
    (hw : w.toNat = origin + k * 100000000) (h : w ≤ t) :
    (advancedStart w t).toNat = origin + periodIndex origin t.toNat * 100000000 := by
  rw [advancedStart_toNat h]
  have hle := UInt64.le_iff_toNat_le.mp h
  unfold periodIndex
  omega

/-- The first point of a stream opens the window at its own time. -/
theorem Tracks.first {t : UInt64} (batch : LidarPointBatch) (p : LidarPoint)
    (hb : t.toNat ≤ lastWindowStart) :
    ∃ out b, Moves batch t p {} out b ∧ Tracks b out [⟨t.toNat,p.payload⟩] := by
  have ht : t ≤ kMaxUInt64 - kFramePeriodNs := le_lastWindowStart.mpr hb
  have hm : Moves batch t p {} [] (stored t p (opened t t batch)) := .restart (.inl rfl) ht
  refine ⟨_,_,hm,.inr ⟨⟨t.toNat,p.payload⟩,⟨t.toNat,p.payload⟩,?_⟩⟩
  have hw : (stored t p (opened t t batch)).windowStartNs.toNat =
      t.toNat + periodIndex t.toNat t.toNat * 100000000 := by
    simp [stored,opened,periodIndex]
  refine ⟨rfl,rfl,le_rfl,hm.open,hw,le_rfl,?_⟩
  exact ⟨[],_,rfl,.nil,statesGroup_stored_opened t t batch p,rfl⟩

theorem Follows.stay {a : LidarFrameAccumulator} {emitted : List LidarPointBatch}
    {stream : List SourcePoint} {first last : SourcePoint}
    (h : Follows a emitted stream first last) {t : UInt64} (p : LidarPoint)
    (hl : last.time ≤ t.toNat) (he : t.toNat < a.windowEndNs.toNat) :
    Follows (stored t p a) emitted (stream ++ [⟨t.toNat,p.payload⟩]) first
      ⟨t.toNat,p.payload⟩ := by
  have hopen := h.isOpen
  have hstamp := h.stamp_le_last
  have hstart := hopen.start_le_stamp
  have hend := hopen.windowEnd
  have hw := h.windowStart
  have hk : periodIndex first.time t.toNat = periodIndex first.time last.time :=
    periodIndex_same rfl hl (by omega)
  obtain ⟨complete,group,hg,hem,⟨hpts,x,hx,hxt⟩,hlast⟩ := h.groups
  refine ⟨?_,?_,?_,open_stored hopen t p,?_,?_,complete,group ++ [⟨t.toNat,p.payload⟩],?_,hem,
    ⟨?_,x,?_,hxt⟩,?_⟩
  · rw [List.head?_append,h.head_eq]
    rfl
  · simp
  · exact h.first_le_last.trans hl
  · rw [hk]
    exact hw
  · exact hstamp.trans hl
  · rw [frameGroups_append h.head_eq]
    rw [frameGroups_of_head h.head_eq] at hg
    apply groupsBy_join _ hg
    intro y hy
    obtain rfl := Option.mem_some_iff.mp (hlast ▸ hy)
    exact hk.symm
  · rw [stored_sourcePoints (hstamp.trans hl) (by omega),hpts]
  · rw [List.head?_append,Option.mem_def.mp hx]
    rfl
  · simp

theorem Follows.advance {a : LidarFrameAccumulator} {emitted : List LidarPointBatch}
    {stream : List SourcePoint} {first last : SourcePoint}
    (h : Follows a emitted stream first last) {t : UInt64} (batch : LidarPointBatch)
    (p : LidarPoint) (hl : last.time ≤ t.toNat) (he : a.windowEndNs.toNat ≤ t.toNat)
    (hopen : Open (stored t p (opened (advancedStart a.windowStartNs t) t batch)))
    (hs : a.windowStartNs ≤ t) :
    Follows (stored t p (opened (advancedStart a.windowStartNs t) t batch))
      (emitted ++ [spanned a.frame]) (stream ++ [⟨t.toNat,p.payload⟩]) first
      ⟨t.toNat,p.payload⟩ := by
  have hw := h.windowStart
  have hend := h.isOpen.windowEnd
  obtain ⟨complete,group,hg,hem,hgroup,hlast⟩ := h.groups
  refine ⟨?_,?_,?_,hopen,?_,le_rfl,complete ++ [group],_,?_,?_,
    statesGroup_stored_opened _ t batch p,rfl⟩
  · rw [List.head?_append,h.head_eq]
    rfl
  · simp
  · exact h.first_le_last.trans hl
  · exact advancedStart_periodIndex hw hs
  · rw [frameGroups_append h.head_eq,← hg,frameGroups_of_head h.head_eq]
    apply groupsBy_new
    intro y hy
    rw [h.last_eq] at hy
    obtain rfl := Option.mem_some_iff.mp hy
    have hfl := h.first_le_last
    unfold periodIndex at hw ⊢
    dsimp only
    omega
  · exact List.rel_append hem (.cons (statesGroup_spanned hgroup) .nil)

/-- One more point of a forward-moving stream is always accepted and tracked. -/
theorem Tracks.next {a : LidarFrameAccumulator} {emitted : List LidarPointBatch}
    {stream : List SourcePoint} (h : Tracks a emitted stream) {t : UInt64}
    (batch : LidarPointBatch) (p : LidarPoint)
    (hl : ∀ y ∈ stream.getLast?, y.time ≤ t.toNat)
    (hb : ∀ x ∈ (stream ++ [(⟨t.toNat,p.payload⟩ : SourcePoint)]).head?,
      x.time + periodIndex x.time t.toNat * 100000000 ≤ lastWindowStart) :
    ∃ out b, Moves batch t p a out b ∧
      Tracks b (emitted ++ out) (stream ++ [⟨t.toNat,p.payload⟩]) := by
  rcases h with ⟨rfl,rfl,rfl⟩ | ⟨first,last,h⟩
  · have ht := hb _ rfl
    exact Tracks.first batch p (by dsimp only at ht; omega)
  · have hlt := hl last (by rw [h.last_eq]; rfl)
    have hbound := hb first (by rw [List.head?_append,h.head_eq]; rfl)
    have hw := h.windowStart
    have hend := h.isOpen.windowEnd
    have hfl := h.first_le_last
    have hs : a.windowStartNs ≤ t := by
      rw [UInt64.le_iff_toNat_le,hw]
      exact (periodStart_le hfl).trans hlt
    by_cases he : t.toNat < a.windowEndNs.toNat
    · refine ⟨[],_,.stay h.isOpen hs (UInt64.lt_iff_toNat_lt.mpr he),?_⟩
      rw [List.append_nil]
      exact Or.inr ⟨first,_,h.stay p hlt he⟩
    · have he' : a.windowEndNs.toNat ≤ t.toNat := Nat.le_of_not_lt he
      have hmax : advancedStart a.windowStartNs t ≤ kMaxUInt64 - kFramePeriodNs := by
        rw [le_lastWindowStart,advancedStart_periodIndex hw hs]
        exact hbound
      have hm : Moves batch t p a [spanned a.frame] _ :=
        .advance h.isOpen hs (UInt64.le_iff_toNat_le.mpr he') hmax
      exact ⟨_,_,hm,.inr ⟨first,_,h.advance batch p hlt he' hm.open hs⟩⟩

/-- Times never go back, and every period from the first point on can be opened. -/
structure Forward (stream : List SourcePoint) : Prop where
  nondecreasing : stream.Pairwise (fun x y => x.time ≤ y.time)
  bounded : ∀ first ∈ stream.head?, ∀ x ∈ stream,
    first.time + periodIndex first.time x.time * 100000000 ≤ lastWindowStart

theorem Forward.take {stream more : List SourcePoint} (h : Forward (stream ++ more)) :
    Forward stream := by
  refine ⟨(List.pairwise_append.mp h.nondecreasing).1,?_⟩
  intro first hf x hx
  refine h.bounded first ?_ x (List.mem_append_left _ hx)
  rw [List.head?_append,Option.mem_def.mp hf]
  rfl

theorem Forward.time_lt {stream : List SourcePoint} (h : Forward stream) {x : SourcePoint}
    (hx : x ∈ stream) : x.time ≤ 18446744073709551615 := by
  cases stream with
  | nil => cases hx
  | cons first rest =>
    have hb := h.bounded first rfl x hx
    unfold periodIndex lastWindowStart at hb
    omega

theorem collect_appendPoint_tracks {batch : LidarPointBatch}
    (he : batch.explicitPointTimes = true) (points : List LidarPoint) (index : ℕ)
    {a : LidarFrameAccumulator} {emitted : List LidarPointBatch} {stream : List SourcePoint}
    (h : Tracks a emitted stream) (hf : Forward (stream ++ suffixPoints batch points)) :
    ∃ out b, (collect (appendPoint batch) index points).Returns a out b ∧
      Tracks b (emitted ++ out) (stream ++ suffixPoints batch points) := by
  induction points generalizing index a emitted stream with
  | nil =>
    refine ⟨[],a,collect_nil_returns.mpr ⟨rfl,rfl⟩,?_⟩
    simpa [suffixPoints] using h
  | cons p rest ih =>
    obtain ⟨x,hx⟩ : ∃ x, x = SourcePoint.mk (batch.timestampNs.toNat + p.offsetTimeNs.toNat)
      p.payload := ⟨_,rfl⟩
    have hsplit : stream ++ suffixPoints batch (p :: rest) =
        (stream ++ [x]) ++ suffixPoints batch rest := by
      rw [hx]
      simp [suffixPoints]
    rw [hsplit] at hf ⊢
    have hnow := hf.take
    have hmem : x ∈ stream ++ [x] := by simp
    have hmax := le_maxOffset_iff.mpr (by simpa [hx] using hnow.time_lt hmem)
    have ht := pointTime_toNat hmax
    have hxt : x = ⟨(batch.timestampNs + p.offsetTimeNs.toUInt64).toNat,p.payload⟩ := by
      rw [hx,ht]
    have hlast : ∀ y ∈ stream.getLast?,
        y.time ≤ (batch.timestampNs + p.offsetTimeNs.toUInt64).toNat := by
      intro y hy
      have hyx := (List.pairwise_append.mp hnow.nondecreasing).2.2 y
        (List.mem_of_mem_getLast? hy) x (List.mem_singleton_self _)
      rwa [hxt] at hyx
    have hbound : ∀ y ∈ (stream ++ [x]).head?, y.time + periodIndex y.time
        (batch.timestampNs + p.offsetTimeNs.toUInt64).toNat * 100000000 ≤ lastWindowStart := by
      intro y hy
      have hyx := hnow.bounded y hy x hmem
      rwa [hxt] at hyx
    rw [hxt] at hbound
    obtain ⟨first,b,hm,hb⟩ := h.next batch p hlast hbound
    rw [← hxt] at hb
    obtain ⟨later,c,hr,hc⟩ := ih (index + 1) hb hf
    refine ⟨first ++ later,c,collect_cons_returns.mpr ⟨first,b,later,?_,hr,rfl⟩,?_⟩
    · exact (appendPoint_returns he h.ready).mpr ⟨hmax,hm⟩
    · rwa [List.append_assoc] at hc

theorem step_append {a b : LidarFrameAccumulator} {batch : LidarPointBatch}
    {out : List LidarPointBatch} (kept : List LidarPointBatch)
    (h : (append batch).Returns a out b) :
    Session.step ⟨a,kept⟩ (.append batch) = ⟨b,kept ++ out⟩ ∧
      Session.Completes ⟨a,kept⟩ (.append batch) := by
  unfold Returns at h
  unfold Session.step Session.Completes Call.program
  dsimp only
  rw [h]
  exact ⟨rfl,rfl⟩

/-- A forward-moving stream is aggregated to its end however it is cut. -/
theorem run_tracks (batches : List LidarPointBatch)
    (he : ∀ batch ∈ batches, batch.explicitPointTimes = true) {a : LidarFrameAccumulator}
    {frames : List LidarPointBatch} (kept : List LidarPointBatch) {stream : List SourcePoint}
    (h : Tracks a frames stream)
    (hf : Forward (stream ++ batches.flatMap LidarPointBatch.sourcePoints)) :
    ∃ out b, EachStep Session.step Session.Completes ⟨a,kept⟩ (batches.map .append) ∧
      run Session.step ⟨a,kept⟩ (batches.map .append) = ⟨b,kept ++ out⟩ ∧
      Tracks b (frames ++ out) (stream ++ batches.flatMap LidarPointBatch.sourcePoints) := by
  induction batches generalizing a frames kept stream with
  | nil =>
    refine ⟨[],a,eachStep_nil _,?_,?_⟩
    · rw [List.append_nil]
      rfl
    · simpa using h
  | cons batch rest ih =>
    rw [List.flatMap_cons,← List.append_assoc] at hf ⊢
    obtain ⟨first,b,hr,hb⟩ := collect_appendPoint_tracks (he batch (List.mem_cons_self ..))
      batch.points 0 h hf.take
    obtain ⟨hstep,hdone⟩ := step_append kept hr
    obtain ⟨later,c,heach,hrun,hc⟩ := ih (fun x hx => he x (List.mem_cons_of_mem _ hx))
      (kept ++ first) hb hf
    refine ⟨first ++ later,c,?_,?_,?_⟩
    · rw [List.map_cons,eachStep_cons,hstep]
      exact ⟨hdone,heach⟩
    · rw [List.map_cons,run_cons,hstep,hrun,List.append_assoc]
    · rwa [List.append_assoc] at hc

/-- The frame left pending by an accumulator, when it has a point. -/
def pendingFrames (a : LidarFrameAccumulator) : List LidarPointBatch :=
  if a.frame.points = [] then [] else [a.frame]

theorem Tracks.pending {a : LidarFrameAccumulator} {frames : List LidarPointBatch}
    {stream : List SourcePoint} (h : Tracks a frames stream) :
    List.Forall₂ StatesGroup frames (frameGroups stream).dropLast ∧
      List.Forall₂ StatesGroup (pendingFrames a) (frameGroups stream).getLast?.toList := by
  rcases h with ⟨rfl,rfl,rfl⟩ | ⟨first,last,h⟩
  · exact ⟨.nil,.nil⟩
  · obtain ⟨complete,group,hg,hem,hgroup,_⟩ := h.groups
    rw [hg]
    refine ⟨by simpa using hem,?_⟩
    simpa [pendingFrames,h.isOpen.pending] using hgroup

theorem frameGroups_flatten (stream : List SourcePoint) :
    (frameGroups stream).flatten = stream := by
  unfold frameGroups
  cases stream with
  | nil => rfl
  | cons x rest => exact groupsBy_flatten _ _

theorem states_groups_flatten {frames : List LidarPointBatch} {groups : List (List SourcePoint)}
    (h : List.Forall₂ StatesGroup frames groups) :
    frames.flatMap LidarPointBatch.sourcePoints = groups.flatten := by
  induction h with
  | nil => rfl
  | cons hf _ ih => rw [List.flatMap_cons,List.flatten_cons,ih,hf.1]

theorem pendingFrames_sourcePoints (a : LidarFrameAccumulator) :
    (pendingFrames a).flatMap LidarPointBatch.sourcePoints = a.frame.sourcePoints := by
  unfold pendingFrames
  by_cases h : a.frame.points = []
  · simp [h,LidarPointBatch.sourcePoints]
  · simp [h]

theorem dropLast_append_last (l : List (List SourcePoint)) :
    l.dropLast ++ l.getLast?.toList = l := by
  cases h : l.getLast? with
  | none => simp [List.getLast?_eq_none_iff.mp h]
  | some g => exact List.dropLast_append_getLast? g h

theorem Tracks.concatenation {a : LidarFrameAccumulator} {frames : List LidarPointBatch}
    {stream : List SourcePoint} (h : Tracks a frames stream) :
    frames.flatMap LidarPointBatch.sourcePoints ++ a.frame.sourcePoints = stream := by
  obtain ⟨hframes,hpending⟩ := h.pending
  have hall : List.Forall₂ StatesGroup (frames ++ pendingFrames a) (frameGroups stream) := by
    rw [← dropLast_append_last (frameGroups stream)]
    exact List.rel_append hframes hpending
  rw [← pendingFrames_sourcePoints,← List.flatMap_append,states_groups_flatten hall,
    frameGroups_flatten]

/-- What a frame says of its points: its stamp, and each point with its offset. -/
def LidarPointBatch.content (f : LidarPointBatch) : UInt64 × List LidarPoint :=
  (f.timestampNs,f.points)

theorem StatesGroup.content_eq {f g : LidarPointBatch} {group : List SourcePoint}
    (hf : StatesGroup f group) (hg : StatesGroup g group) : f.content = g.content := by
  obtain ⟨hfp,x,hx,hft⟩ := hf
  obtain ⟨hgp,y,hy,hgt⟩ := hg
  obtain rfl := Option.mem_unique hx hy
  have hstamp : f.timestampNs = g.timestampNs := UInt64.toNat_inj.mp (hft.trans hgt.symm)
  have hpoints : f.points = g.points := by
    have hmap := hfp.trans hgp.symm
    unfold LidarPointBatch.sourcePoints at hmap
    rw [hstamp] at hmap
    refine List.map_injective_iff.mpr ?_ hmap
    intro p q hpq
    obtain ⟨hoff,hpay⟩ := SourcePoint.mk.inj hpq
    have ho : p.offsetTimeNs = q.offsetTimeNs := UInt32.toNat_inj.mp (Nat.add_left_cancel hoff)
    calc p = { p.payload with offsetTimeNs := p.offsetTimeNs } := rfl
      _ = { q.payload with offsetTimeNs := q.offsetTimeNs } := by rw [hpay,ho]
      _ = q := rfl
  unfold LidarPointBatch.content
  rw [hstamp,hpoints]

theorem states_groups_content {fs gs : List LidarPointBatch} {groups : List (List SourcePoint)}
    (hf : List.Forall₂ StatesGroup fs groups) (hg : List.Forall₂ StatesGroup gs groups) :
    fs.map LidarPointBatch.content = gs.map LidarPointBatch.content := by
  induction hf generalizing gs with
  | nil =>
    cases hg
    rfl
  | cons h _ ih =>
    cases hg with
    | cons h' hg => rw [List.map_cons,List.map_cons,h.content_eq h',ih hg]

/-- From a fresh or reset accumulator, the batches of a forward-moving stream
complete all its groups but the last, which stays pending; another cut of the
same stream into batches gives the same frames. -/
theorem frames_are_groups {s : Session} (hs : s.Begun) (batches : List LidarPointBatch)
    (he : ∀ batch ∈ batches, batch.explicitPointTimes = true)
    (hf : Forward (batches.flatMap LidarPointBatch.sourcePoints)) :
    ∃ frames a, EachStep Session.step Session.Completes s (batches.map .append) ∧
      run Session.step s (batches.map .append) = ⟨a,s.emitted ++ frames⟩ ∧
      frames.flatMap LidarPointBatch.sourcePoints ++ a.frame.sourcePoints =
        batches.flatMap LidarPointBatch.sourcePoints ∧
      List.Forall₂ StatesGroup frames
        (frameGroups (batches.flatMap LidarPointBatch.sourcePoints)).dropLast ∧
      List.Forall₂ StatesGroup (pendingFrames a)
        (frameGroups (batches.flatMap LidarPointBatch.sourcePoints)).getLast?.toList ∧
      ∀ other : List LidarPointBatch, (∀ batch ∈ other, batch.explicitPointTimes = true) →
        other.flatMap LidarPointBatch.sourcePoints =
          batches.flatMap LidarPointBatch.sourcePoints →
        ∃ frames' a', run Session.step s (other.map .append) = ⟨a',s.emitted ++ frames'⟩ ∧
          frames'.map LidarPointBatch.content = frames.map LidarPointBatch.content ∧
          (pendingFrames a').map LidarPointBatch.content =
            (pendingFrames a).map LidarPointBatch.content := by
  have hfresh : Tracks s.accumulator [] [] := .inl ⟨rfl,hs.accumulator,rfl⟩
  obtain ⟨frames,a,heach,hrun,ht⟩ := run_tracks batches he s.emitted hfresh hf
  obtain ⟨hframes,hpending⟩ := ht.pending
  refine ⟨frames,a,heach,hrun,ht.concatenation,hframes,hpending,?_⟩
  intro other heo hsame
  obtain ⟨frames',a',_,hrun',ht'⟩ := run_tracks other heo s.emitted hfresh (hsame ▸ hf)
  rw [List.nil_append,List.nil_append,hsame] at ht'
  obtain ⟨hframes',hpending'⟩ := ht'.pending
  exact ⟨frames',a',hrun',states_groups_content hframes' hframes,
    states_groups_content hpending' hpending⟩

/-- A gap of two empty periods, and a point exactly on a window edge. -/
def gappedBatches : List LidarPointBatch := [
  { timestampNs := 5, explicitPointTimes := true,
    points := [{ offsetTimeNs := 0 }, { offsetTimeNs := 7 }] },
  { explicitPointTimes := true },
  { timestampNs := 300000005, explicitPointTimes := true, points := [{ offsetTimeNs := 0 }] },
  { timestampNs := 399999999, explicitPointTimes := true, points := [{ offsetTimeNs := 6 }] }]

theorem frames_are_groups_gapped :
    ∃ frames a, EachStep Session.step Session.Completes ⟨{},[]⟩ (gappedBatches.map .append) ∧
      run Session.step ⟨{},[]⟩ (gappedBatches.map .append) = ⟨a,frames⟩ ∧
      List.Forall₂ StatesGroup frames
        (frameGroups (gappedBatches.flatMap LidarPointBatch.sourcePoints)).dropLast := by
  obtain ⟨frames,a,heach,hrun,_,hframes,_⟩ :=
    frames_are_groups (s := ⟨{},[]⟩) (.inl rfl) gappedBatches (by decide) ⟨by decide,by decide⟩
  exact ⟨frames,a,heach,hrun,hframes⟩

end PrismRosAdapter.Lidar
