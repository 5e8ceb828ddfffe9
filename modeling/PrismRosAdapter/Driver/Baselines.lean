import PrismRosAdapter.Driver.MainLoop
import PrismRosAdapter.Health.Baseline

/-! # Baselines across restarts

A sample is compared with the sample that was observed before it, and a pass of starts
drops what has been kept of a feed before it starts the feed again. `setRoverRtcm` starts
the rover without that. The journal of a run says which sample came first after which start,
and what was kept of its stream at that time.
-/
namespace PrismRosAdapter.Driver
open Program Runs Health SensorDataHealth

/-- The lanes whose samples are compared with the ones before them. -/
def Feed.compared : Feed → List Stream
  | .rover => [.roverRtcm]
  | f => f.streams

/-- The feed that has been started, by the word of the stream object or of the Agent. -/
def Event.starts : Event → Option Feed
  | .startVideo _ (.ok status) => if status.enabled then some .camera else none
  | .imuStart _ _ (.ok _) => some .boardImu
  | .startImu _ _ (.ok _) => some .boardImu
  | .lidarStart _ (.ok _) => some .lidar
  | .startLidar _ (.ok status) => if status.enabled then some .lidar else none
  | .startRoverRtcm (.ok enabled) => if enabled then some .rover else none
  | _ => none

/-- What a first sample itself says is lost: a chunk carries a counter and a flag. -/
def SourceSample.losses : SourceSample → Issue → UInt64
  | .chunk c, .lostBytes => c.droppedBytes
  | .chunk c, .sourceGap => if c.flags &&& 1 != 0 then 1 else 0
  | _, _ => 0

/-- Nothing is kept of the samples of the lane. -/
structure Clear (lane : Stream) (s : StreamHealth) : Prop where
  unsampled : s.Unsampled
  lostBytes : lane = .roverRtcm → s.counters .lostBytes = none

instance (lane : Stream) (s : StreamHealth) : Decidable (Clear lane s) :=
  decidable_of_iff ((s.sequence = none ∧ s.stamp = none ∧
      ∀ issue ∈ Issue.all, s.conditions issue = false) ∧
    (lane = .roverRtcm → s.counters .lostBytes = none))
    ⟨fun h => ⟨⟨h.1.1,h.1.2.1,funext fun issue => h.1.2.2 issue issue.mem_all⟩,h.2⟩,
      fun h => ⟨⟨h.unsampled.1,h.unsampled.2.1,fun issue _ => congrFun h.unsampled.2.2 issue⟩,
        h.lostBytes⟩⟩

namespace Entry

/-- The feed has been started while its flag was down. -/
def Restarts (e : Entry) (f : Feed) : Prop := e.event.starts = some f ∧ e.running.flag f = false

/-- A sample of the lane has been observed. -/
def samples (e : Entry) (lane : Stream) : Bool :=
  match e.event with
  | .sampled sample _ => decide (sample.stream = lane)
  | _ => false

def asksRover (e : Entry) : Bool :=
  match e.event with
  | .startRoverRtcm _ => true
  | _ => false

/-- The sample has been compared with nothing: it has added what it says itself and no more. -/
def Uncompared (e : Entry) : Prop := ∀ sample found, e.event = .sampled sample found →
  Clear sample.stream found ∧ ∀ issue, (e.health.states sample.stream).total issue =
    found.total issue + sample.losses issue

end Entry

/-- The feed was started at `k`, and no sample of the lane has been observed since. -/
structure Awaits (f : Feed) (lane : Stream) (journal : List Entry) (k : Entry)
    (rest : List Entry) : Prop where
  suffix : k :: rest <:+ journal
  restarts : k.Restarts f
  silent : ∀ e ∈ rest, e.samples lane = false

/-- After every restart the first sample of each lane is compared with nothing. -/
def Rebased (journal : List Entry) : Prop := ∀ before e after, journal = before ++ e :: after →
  ∀ f, ∀ lane ∈ f.compared, e.samples lane = true →
    ∀ k rest, Awaits f lane before k rest → e.Uncompared

/-- One of the starts of the rover, from `k` on, has been asked for with nothing kept. -/
def Cleared (k : Entry) (rest : List Entry) : Prop :=
  ∃ i ∈ k :: rest, i.asksRover = true ∧ Clear .roverRtcm (i.health.states .roverRtcm)

/-- No chunk is kept from before a restart of the rover to the first chunk after it. -/
def RoverCleared (journal : List Entry) : Prop :=
  ∀ before e after, journal = before ++ e :: after → e.samples .roverRtcm = true →
    ∀ k rest, Awaits .rover .roverRtcm before k rest → Cleared k rest

/-! ## What a journal says of the records -/

/-- Whether a sample is compared is decided by what was kept when its feed was started. -/
def Judged (before : List Entry) (e : Entry) : Prop :=
  ∀ f, ∀ lane ∈ f.compared, e.samples lane = true → ∀ k rest, Awaits f lane before k rest →
    (e.Uncompared ↔ (f = .rover → Cleared k rest))

structure Watched (journal : List Entry) (h : SensorDataHealth) : Prop where
  judged : ∀ before e after, journal = before ++ e :: after → Judged before e
  current : ∀ f, ∀ lane ∈ f.compared, ∀ k rest, Awaits f lane journal k rest →
    (Clear lane (h.states lane) ↔ (f = .rover → Cleared k rest))

section Journal
variable {journal m : List Entry} {h h' : SensorDataHealth} {e k : Entry} {rest : List Entry}
  {f : Feed} {lane : Stream}

theorem watched_nil (h : SensorDataHealth) : Watched [] h where
  judged before e after he := by simp at he
  current f lane _ k rest hk := absurd (List.suffix_nil.mp hk.suffix) (List.cons_ne_nil _ _)

theorem Watched.rebased_iff (hw : Watched journal h) : Rebased journal ↔ RoverCleared journal := by
  constructor
  · intro hr before e after he hs k rest hk
    have hlane : Stream.roverRtcm ∈ Feed.rover.compared := List.mem_singleton_self _
    exact (hw.judged before e after he .rover _ hlane hs k rest hk).mp
      (hr before e after he .rover _ hlane hs k rest hk) rfl
  · intro hr before e after he f lane hl hs k rest hk
    refine (hw.judged before e after he f lane hl hs k rest hk).mpr fun hf => ?_
    subst hf
    obtain rfl := List.mem_singleton.mp hl
    exact hr before e after he hs k rest hk

theorem Awaits.append_cases (hk : Awaits f lane (journal ++ m) k rest) :
    (∃ first, Awaits f lane journal k first ∧ rest = first ++ m) ∨ k :: rest <:+ m := by
  obtain ⟨before,hb⟩ := hk.suffix
  rcases List.append_eq_append_iff.mp hb with ⟨tail,ht,hrest⟩ | ⟨tail,_,ht⟩
  · cases tail with
    | nil => exact .inr ⟨[],hrest⟩
    | cons x first =>
      obtain ⟨rfl,rfl⟩ := List.cons.inj hrest
      refine .inl ⟨first,⟨⟨before,ht.symm⟩,hk.restarts,fun e he => ?_⟩,rfl⟩
      exact hk.silent e (List.mem_append_left _ he)
  · exact .inr ⟨tail,ht.symm⟩

theorem starts_of_asksRover (h : k.asksRover = true) (hf : k.event.starts = some f) :
    f = .rover := by
  unfold Entry.asksRover at h
  unfold Event.starts at hf
  split at h
  · rename_i heq
    rw [heq] at hf
    split at hf <;> simp_all
  · cases h

theorem asksRover_of_starts (h : k.event.starts = some .rover) : k.asksRover = true := by
  unfold Event.starts at h
  unfold Entry.asksRover
  split at h <;> simp_all

theorem cleared_append (hm : ∀ e ∈ m, e.asksRover = false) :
    Cleared k (rest ++ m) ↔ Cleared k rest := by
  constructor
  · rintro ⟨i,hi,ha,hc⟩
    rw [← List.cons_append] at hi
    rcases List.mem_append.mp hi with hi | hi
    · exact ⟨i,hi,ha,hc⟩
    · rw [hm i hi] at ha
      cases ha
  · rintro ⟨i,hi,ha,hc⟩
    exact ⟨i,List.mem_append_left m hi,ha,hc⟩

/-- Entries that are no samples leave the judgements as they are. -/
theorem judged_append (hj : ∀ before e after, journal = before ++ e :: after → Judged before e)
    (hm : ∀ e ∈ m, e.event.samples = false) :
    ∀ before e after, journal ++ m = before ++ e :: after → Judged before e := by
  induction m generalizing journal with
  | nil => rwa [List.append_nil]
  | cons x rest ih =>
    rw [List.append_cons]
    refine ih (each_snoc.mpr ⟨hj,fun f lane _ hs => ?_⟩) fun e he => hm e (List.mem_cons_of_mem x he)
    have hx := hm x List.mem_cons_self
    unfold Entry.samples at hs
    unfold Event.samples at hx
    split at hs <;> simp_all

/-- Entries without a sample: whatever is started by one of them is clear afterwards. -/
structure Arms (m : List Entry) (h h' : SensorDataHealth) : Prop where
  unsampled : ∀ e ∈ m, e.event.samples = false
  unasked : ∀ e ∈ m, e.asksRover = false
  kept : ∀ lane, Clear lane (h.states lane) → Clear lane (h'.states lane)
  rover : Clear .roverRtcm (h'.states .roverRtcm) → Clear .roverRtcm (h.states .roverRtcm)
  started : ∀ e ∈ m, ∀ f, e.event.starts = some f → ∀ lane ∈ f.compared,
    Clear lane (h'.states lane)

theorem Watched.arms (hw : Watched journal h) (ha : Arms m h h') : Watched (journal ++ m) h' where
  judged := judged_append hw.judged ha.unsampled
  current f lane hl k rest hk := by
    rcases hk.append_cases with ⟨first,hfirst,rfl⟩ | hm
    · have hcurrent := hw.current f lane hl k first hfirst
      by_cases hf : f = .rover
      · subst hf
        obtain rfl := List.mem_singleton.mp hl
        rw [cleared_append ha.unasked,← hcurrent]
        exact ⟨ha.rover,ha.kept _⟩
      · exact iff_of_true (ha.kept lane (hcurrent.mpr fun h => absurd h hf)) fun h => absurd h hf
    · replace hm := hm.mem List.mem_cons_self
      refine iff_of_true (ha.started k hm f hk.restarts.1 lane hl) fun hf => ?_
      subst hf
      have hasks := asksRover_of_starts hk.restarts.1
      rw [ha.unasked k hm] at hasks
      cases hasks

/-- A start of the rover is asked for. -/
theorem Watched.asks (hw : Watched journal h) (ha : e.asksRover = true)
    (hkept : ∀ lane, Clear lane (h.states lane) → Clear lane (e.health.states lane)) :
    Watched (journal ++ [e]) e.health where
  judged := by
    refine judged_append hw.judged fun x hx => ?_
    obtain rfl := List.mem_singleton.mp hx
    unfold Entry.asksRover at ha
    split at ha <;> simp_all [Event.samples]
  current f lane hl k rest hk := by
    rcases hk.append_cases with ⟨first,hfirst,rfl⟩ | hm
    · have hcurrent := hw.current f lane hl k first hfirst
      by_cases hf : f = .rover
      · subst hf
        obtain rfl := List.mem_singleton.mp hl
        constructor
        · exact fun hc _ => ⟨e,by simp,ha,hc⟩
        · intro hr
          obtain ⟨i,hi,hasks,hc⟩ := hr rfl
          rw [← List.cons_append] at hi
          rcases List.mem_append.mp hi with hi | hi
          · exact hkept _ (hcurrent.mpr fun _ => ⟨i,hi,hasks,hc⟩)
          · exact List.mem_singleton.mp hi ▸ hc
      · exact iff_of_true (hkept lane (hcurrent.mpr fun h => absurd h hf)) fun h => absurd h hf
    · obtain rfl := List.mem_singleton.mp (hm.mem List.mem_cons_self)
      obtain rfl : f = .rover := starts_of_asksRover ha hk.restarts.1
      obtain rfl : lane = .roverRtcm := List.mem_singleton.mp hl
      have hnil : rest = [] := List.eq_nil_of_length_eq_zero (by simpa using hm.length_le)
      rw [hnil]
      exact ⟨fun hc _ => ⟨k,List.mem_cons_self,ha,hc⟩,fun hr => by
        obtain ⟨i,hi,_,hc⟩ := hr rfl
        exact List.mem_singleton.mp hi ▸ hc⟩

/-- A sample is observed: what was kept of its lane decides whether it is compared. -/
theorem Watched.samples (hw : Watched journal h) {sample : SourceSample}
    (he : e.event = .sampled sample (h.states sample.stream))
    (hjudge : e.Uncompared ↔ Clear sample.stream (h.states sample.stream))
    (hother : ∀ lane, lane ≠ sample.stream → e.health.states lane = h.states lane) :
    Watched (journal ++ [e]) e.health where
  judged := by
    refine each_snoc.mpr ⟨hw.judged,fun f lane hl hs k rest hk => ?_⟩
    unfold Entry.samples at hs
    rw [he] at hs
    obtain rfl : sample.stream = lane := of_decide_eq_true hs
    exact hjudge.trans (hw.current f _ hl k rest hk)
  current f lane hl k rest hk := by
    rcases hk.append_cases with ⟨first,hfirst,rfl⟩ | hm
    · have hsilent := hk.silent e (List.mem_append_right _ List.mem_cons_self)
      unfold Entry.samples at hsilent
      rw [he] at hsilent
      have hne : lane ≠ sample.stream := fun hc => of_decide_eq_false hsilent hc.symm
      have hasks : e.asksRover = false := by
        unfold Entry.asksRover
        rw [he]
      rw [hother lane hne,cleared_append fun x hx => List.mem_singleton.mp hx ▸ hasks]
      exact hw.current f lane hl k first hfirst
    · obtain rfl := List.mem_singleton.mp (hm.mem List.mem_cons_self)
      have hstarts := hk.restarts.1
      rw [he] at hstarts
      cases hstarts

end Journal

/-! ## What the driver's actions do to journal and records -/

/-- The records go with the journal that has been written since `d`. -/
def Watching (d s : DriverState) : Prop := Later d s ∧ Watched (since d s) s.health

def Watchful (s t : DriverState) : Prop := ∀ d, Watching d s → Watching d t

instance : Std.Refl Watchful := ⟨fun _ _ => id⟩
instance : IsTrans DriverState Watchful := ⟨fun _ _ _ h h' d => h' d ∘ h d⟩

/-- No sample is observed, and no baseline appears. -/
structure Sheds (s t : DriverState) : Prop where
  later : Later s t
  unsampled : ∀ e ∈ since s t, e.event.samples = false
  kept : ∀ lane, Clear lane (s.health.states lane) → Clear lane (t.health.states lane)

/-- The rover's record keeps what it has of samples. -/
def RoverKept (s t : DriverState) : Prop :=
  (t.health.states .roverRtcm).baseline = (s.health.states .roverRtcm).baseline

/-- Neither a sample is observed nor a start called, and every baseline stays. -/
structure Unwatched (s t : DriverState) : Prop where
  later : Later s t
  events : ∀ e ∈ since s t, e.event.samples = false ∧ e.event.isStart = false
  baselines : ∀ lane, (t.health.states lane).baseline = (s.health.states lane).baseline

theorem mem_since_trans {s t u : DriverState} (h : Later s t) (h' : Later t u) {e : Entry}
    (he : e ∈ since s u) : e ∈ since s t ∨ e ∈ since t u :=
  List.mem_append.mp (since_trans h h' ▸ he)

instance : Std.Refl Sheds := ⟨fun s => ⟨List.prefix_refl _,by simp [since_self],fun _ => id⟩⟩
instance : IsTrans DriverState Sheds := ⟨fun _ _ _ h h' => ⟨h.later.trans h'.later,
  fun e he => (mem_since_trans h.later h'.later he).elim (h.unsampled e) (h'.unsampled e),
  fun lane => h'.kept lane ∘ h.kept lane⟩⟩

instance : Std.Refl RoverKept := ⟨fun _ => rfl⟩
instance : IsTrans DriverState RoverKept := ⟨fun _ _ _ h h' => Eq.trans h' h⟩

instance : Std.Refl Unwatched := ⟨fun s => ⟨List.prefix_refl _,by simp [since_self],fun _ => rfl⟩⟩
instance : IsTrans DriverState Unwatched := ⟨fun _ _ _ h h' => ⟨h.later.trans h'.later,
  fun e he => (mem_since_trans h.later h'.later he).elim (h.events e) (h'.events e),
  fun lane => (h'.baselines lane).trans (h.baselines lane)⟩⟩

section
variable {w : World} {s t u : DriverState} {f : Feed}

theorem Clear.of_baseline {lane : Stream} {a b : StreamHealth} (h : b.baseline = a.baseline)
    (ha : Clear lane a) : Clear lane b :=
  ⟨.of_baseline h ha.unsampled,fun hl => (congrArg Baseline.lostBytes h).trans (ha.lostBytes hl)⟩

theorem watchful_of (hl : Later s t) (h : ∀ journal, Watched journal s.health →
    Watched (journal ++ since s t) t.health) : Watchful s t := by
  rintro d ⟨hd,hw⟩
  refine ⟨hd.trans hl,?_⟩
  rw [since_trans hd hl]
  exact h _ hw

theorem Event.isStart_of_starts {e : Event} (h : e.starts = some f) : e.isStart = true := by
  unfold starts at h
  split at h <;> first | rfl | cases h

theorem Event.feed_of_starts {e : Event} (h : e.starts = some f) : e.feed = some f := by
  unfold starts at h
  split at h <;> simp_all [feed]

theorem Entry.isStart_of_asksRover {e : Entry} (h : e.asksRover = true) : e.event.isStart = true := by
  unfold asksRover at h
  split at h <;> simp_all [Event.isStart]

theorem Entry.feed_of_asksRover {e : Entry} (h : e.asksRover = true) :
    e.event.feed = some .rover := by
  unfold asksRover at h
  split at h <;> simp_all [Event.feed]

theorem Unwatched.watchful (h : Unwatched s t) : Watchful s t := by
  refine watchful_of h.later fun journal hw => hw.arms ⟨?_,?_,?_,?_,?_⟩
  · exact fun e he => (h.events e he).1
  · intro e he
    by_contra ha
    have hstart := Entry.isStart_of_asksRover (Bool.not_eq_false _ ▸ ha)
    exact Bool.noConfusion ((h.events e he).2.symm.trans hstart)
  · exact fun lane => .of_baseline (h.baselines lane)
  · exact .of_baseline (h.baselines _).symm
  · intro e he f hf
    exact Bool.noConfusion ((h.events e he).2.symm.trans (Event.isStart_of_starts hf))

theorem watchful_unwatched {α : Type} {x : Driving α} (h : Within Unwatched x) : Within Watchful x :=
  h.mono fun _ _ => Unwatched.watchful

/-! ## Actions that observe and start nothing -/

theorem unwatched_silent {g : DriverState → DriverState} (hh : ∀ s, (g s).health = s.health)
    (hj : ∀ s, (g s).link.journal = s.link.journal) : Within Unwatched (modify g : Driving Unit) := by
  refine within_modify fun s => ⟨?_,?_,fun lane => by rw [hh s]⟩
  · rw [Later,hj s]
  · simp [since,hj s]

theorem unwatched_modifyControl (g : Control → Control) : Within Unwatched (modifyControl g) :=
  unwatched_silent (fun _ => rfl) fun _ => rfl
theorem unwatched_modifyReceive (g : Receive → Receive) : Within Unwatched (modifyReceive g) :=
  unwatched_silent (fun _ => rfl) fun _ => rfl
theorem unwatched_publishStatus (state error : String) : Within Unwatched (publishStatus state error) :=
  unwatched_silent (fun _ => rfl) fun _ => rfl
theorem unwatched_nextTick : Within Unwatched nextTick :=
  within_bind within_get fun _ => within_bind (unwatched_silent (fun _ => rfl) fun _ => rfl) fun _ =>
    within_pure _
theorem unwatched_nextCall : Within Unwatched nextCall :=
  within_bind within_get fun _ => within_bind (unwatched_silent (fun _ => rfl) fun _ => rfl) fun _ =>
    within_pure _
theorem unwatched_steadyNowNs : Within Unwatched (steadyNowNs w) :=
  within_bind unwatched_nextTick fun _ => within_pure _

theorem unwatched_note {event : Event} (hs : event.samples = false) (hstart : event.isStart = false)
    (s : DriverState) : Unwatched s (s.note event) where
  later := later_note s event
  events := by
    rw [since_note]
    exact fun e he => List.mem_singleton.mp he ▸ ⟨hs,hstart⟩
  baselines _ := rfl

theorem unwatched_recorded {α : Type} {event : Except Failure α → Event} {x : Driving α}
    (hs : ∀ a, (event a).samples = false) (hstart : ∀ a, (event a).isStart = false)
    (hx : Within Unwatched x) : Within Unwatched (recorded event x) :=
  within_andThen hx fun a => unwatched_note (hs a) (hstart a)

theorem unwatched_ask {α : Type} {event : Except Failure α → Event} {reply : ℕ → Except Failure α}
    (hs : ∀ a, (event a).samples = false) (hstart : ∀ a, (event a).isStart = false) :
    Within Unwatched (ask event reply) :=
  unwatched_recorded hs hstart (within_bind unwatched_nextCall fun _ => within_answer _)

theorem unwatched_asked {α : Type} {event : Except Failure α → Event} {reply : ℕ → Except Failure α}
    (h : ∀ a, (event a).aside = true) : Within Unwatched (ask event reply) :=
  unwatched_ask (fun a => Event.samples_of_aside (h a)) fun a =>
    Event.isStart_of_feed (Event.feed_of_aside (h a))

theorem unwatched_addIssue (stream : Stream) (issue : Issue) : Within Unwatched (addIssue stream issue) :=
  within_modify fun s => ⟨List.prefix_refl _,by simp [since],fun lane => baseline_add issue 1⟩

theorem unwatched_accumulate {α : Type} (x : Lidar.Accumulating α) : Within Unwatched (accumulate x) :=
  fun s => ⟨List.prefix_refl _,by simp [since,accumulate],fun _ => rfl⟩

theorem unwatched_disableCaptureHealth : Within Unwatched disableCaptureHealth := by
  have hfold : ∀ (lanes : List Stream) (h : SensorDataHealth) lane,
      ((lanes.foldl SensorDataHealth.disable h).states lane).baseline = (h.states lane).baseline := by
    intro lanes
    induction lanes with
    | nil => exact fun _ _ => rfl
    | cons first rest ih => exact fun h lane => (ih (h.disable first) lane).trans baseline_disable
  exact within_modify fun s =>
    ⟨List.prefix_refl _,by simp [since],fun lane => hfold captureStreams s.health lane⟩

/-! ## Stops -/

theorem unwatched_hostCall (reply : ℕ → Except Failure Unit) : Within Unwatched (hostCall reply) :=
  within_bind unwatched_nextCall fun _ => within_answer _

theorem unwatched_rkStop {active : Bool} {deactivate : Driving Unit}
    {event : Except Failure Unit → Event} {reply : ℕ → Except Failure Unit}
    (hs : ∀ a, (event a).samples = false) (hstart : ∀ a, (event a).isStart = false)
    (hd : Within Unwatched deactivate) : Within Unwatched (rkStop w active deactivate event reply) := by
  refine within_ite (within_bind hd fun _ => ?_) (within_pure ())
  exact within_bind unwatched_nextCall fun call => within_ite (unwatched_ask hs hstart) (within_pure ())

theorem unwatched_imuStreamStop : Within Unwatched (imuStreamStop w) :=
  unwatched_recorded (fun _ => rfl) (fun _ => rfl) (within_ite (within_bind within_get fun _ =>
    unwatched_rkStop (fun _ => rfl) (fun _ => rfl) (unwatched_modifyControl _)) (unwatched_hostCall _))

theorem unwatched_lidarStreamStop : Within Unwatched (lidarStreamStop w) :=
  unwatched_recorded (fun _ => rfl) (fun _ => rfl) (within_ite (within_bind within_get fun _ =>
    unwatched_rkStop (fun _ => rfl) (fun _ => rfl) (unwatched_modifyControl _)) (unwatched_hostCall _))

theorem unwatched_stopConfiguredStreams : Within Unwatched (stopConfiguredStreams w) := by
  refine within_bind unwatched_disableCaptureHealth (fun _ => within_bind ?_ fun _ => within_bind ?_ fun _ => ?_)
  · refine within_bind within_get (fun s => within_ite ?_ (within_pure ()))
    exact within_bind (unwatched_ask (fun _ => rfl) fun _ => rfl) fun _ => unwatched_modifyControl _
  · refine within_bind within_get (fun s => within_ite ?_ (within_pure ()))
    exact within_bind unwatched_lidarStreamStop fun _ => within_bind (unwatched_modifyControl _) fun _ =>
      unwatched_accumulate _
  · refine within_bind within_get (fun s => within_ite ?_ (within_ite ?_ (within_pure ())))
    · exact within_bind unwatched_imuStreamStop fun _ => unwatched_modifyControl _
    · exact within_bind (unwatched_ask (fun _ => rfl) fun _ => rfl) fun _ => unwatched_modifyControl _

theorem unwatched_cleanup : Within Unwatched (cleanup w) := by
  refine within_bind within_get (fun s => within_bind (within_quietly (within_whenever ?_)) fun _ => ?_)
  · exact within_bind (unwatched_ask (fun _ => rfl) fun _ => rfl) fun _ => within_pure ()
  refine within_bind (unwatched_modifyControl _) (fun _ => ?_)
  refine within_bind (within_quietly (within_whenever unwatched_lidarStreamStop)) (fun _ => ?_)
  refine within_bind (within_quietly (within_whenever unwatched_imuStreamStop)) (fun _ => ?_)
  exact within_bind (within_quietly (within_whenever (unwatched_ask (fun _ => rfl) fun _ => rfl)))
    fun _ => within_quietly (unwatched_asked fun _ => rfl)

/-! ## Starts -/

theorem Unwatched.sheds (h : Unwatched s t) : Sheds s t :=
  ⟨h.later,fun e he => (h.events e he).1,fun lane => .of_baseline (h.baselines lane)⟩

theorem Unwatched.roverKept (h : Unwatched s t) : RoverKept s t := h.baselines .roverRtcm

theorem sheds_unwatched {α : Type} {x : Driving α} (h : Within Unwatched x) : Within Sheds x :=
  h.mono fun _ _ => Unwatched.sheds

theorem roverKept_unwatched {α : Type} {x : Driving α} (h : Within Unwatched x) : Within RoverKept x :=
  h.mono fun _ _ => Unwatched.roverKept

theorem sheds_health {g : SensorDataHealth → SensorDataHealth} (h : ∀ health lane,
    Clear lane (health.states lane) → Clear lane ((g health).states lane)) :
    Within Sheds (modifyHealth g) :=
  within_modify fun s => ⟨List.prefix_refl _,by simp [since],h s.health⟩

theorem sheds_resetHealth (stream : Stream) (rate : ℚ) (silenceNs : UInt64) :
    Within Sheds (resetHealth w stream rate silenceNs) :=
  within_bind (sheds_unwatched unwatched_steadyNowNs) fun now => sheds_health fun _ _ hc =>
    ⟨unsampled_reset_of hc.unsampled now rate silenceNs,fun hl =>
      (congrFun (counters_reset ..) _).trans (hc.lostBytes hl)⟩

theorem sheds_resetCounter (stream : Stream) (issue : Issue) :
    Within Sheds (modifyHealth fun h => h.resetCounter stream issue) :=
  sheds_health fun _ _ hc => ⟨unsampled_resetCounter_of hc.unsampled issue,fun hl =>
    counters_resetCounter_of (hc.lostBytes hl) issue⟩

theorem sheds_recorded {α : Type} {event : Except Failure α → Event} {x : Driving α}
    (he : ∀ a, (event a).feed ≠ none) (hx : Within Sheds x) : Within Sheds (recorded event x) :=
  within_andThen hx fun a s => ⟨later_note s (event a),by
    rw [since_note]
    exact fun e hm => List.mem_singleton.mp hm ▸ Event.samples_of_feed (he a),fun _ => id⟩

theorem switches_sheds (w : World) : Switches w Sheds where
  control _ := sheds_unwatched (unwatched_modifyControl _)
  reset := sheds_resetHealth
  resetCounter := sheds_resetCounter _ _
  disable := sheds_unwatched unwatched_disableCaptureHealth
  accumulate x := sheds_unwatched (unwatched_accumulate x)
  call := sheds_unwatched unwatched_nextCall
  ask he := sheds_recorded he (sheds_unwatched (within_bind unwatched_nextCall fun _ => within_answer _))
  recorded := sheds_recorded

theorem toggles_roverKept : Toggles RoverKept where
  control _ _ := rfl
  call _ := rfl
  ask _ _ := rfl
  recorded _ hx := within_andThen hx fun _ _ => rfl

theorem roverKept_resetHealth {stream : Stream} (hs : stream ≠ .roverRtcm) (rate : ℚ)
    (silenceNs : UInt64) : Within RoverKept (resetHealth w stream rate silenceNs) :=
  within_bind (roverKept_unwatched unwatched_steadyNowNs) fun now => within_modify fun s => by
    have hsame : (s.health.reset stream now rate silenceNs).states .roverRtcm =
        s.health.states .roverRtcm := by
      rw [SensorDataHealth.reset,update_other s.health hs.symm]
    exact congrArg StreamHealth.baseline hsame

theorem roverKept_startCamera : Within RoverKept (startCamera w) := by
  refine within_bind within_get (fun s => within_ite ?_ (within_pure ()))
  refine within_bind (toggles_roverKept.ask fun _ => Option.some_ne_none _) (fun video => ?_)
  refine within_bind (roverKept_unwatched (unwatched_modifyControl _)) (fun _ => within_ite (within_throw _) ?_)
  refine within_bind within_get (fun t => within_bind (within_forEach (fun i => ?_) _) fun _ => ?_)
  · exact roverKept_resetHealth (by revert i; decide) _ _
  · exact roverKept_resetHealth (by decide) _ _

theorem roverKept_startBoardImu : Within RoverKept (startBoardImu w) := by
  refine within_bind within_get (fun s => within_ite (within_ite (within_throw _) ?_) (within_pure ()))
  refine within_bind (within_bind within_get fun t => ?_) (fun _ => ?_)
  · exact within_bind (roverKept_resetHealth (by decide) _ _) fun _ =>
      roverKept_resetHealth (by decide) _ _
  · exact within_bind (toggles_roverKept.imuStreamStart _ _) fun _ =>
      roverKept_unwatched (unwatched_modifyControl _)

theorem roverKept_startLidar : Within RoverKept (startLidar w) := by
  refine within_bind within_get (fun s => within_ite (within_ite (within_throw _) ?_) (within_pure ()))
  refine within_bind (roverKept_unwatched (unwatched_accumulate _)) (fun _ =>
    within_bind (within_bind within_get fun t => ?_) fun _ => ?_)
  · exact within_bind (roverKept_resetHealth (by decide) _ _) fun _ =>
      roverKept_resetHealth (by decide) _ _
  · exact within_bind (toggles_roverKept.lidarStreamStart _) fun _ =>
      roverKept_unwatched (unwatched_modifyControl _)

/-! ### What a start has dropped -/

theorem clear_of_unsampled {lane : Stream} (hl : lane ≠ .roverRtcm) {a : StreamHealth}
    (h : a.Unsampled) : Clear lane a := ⟨h,fun he => absurd he hl⟩

theorem resetHealth_clear {stream : Stream} {rate : ℚ} {silenceNs : UInt64}
    (hl : stream ≠ .roverRtcm) (h : (resetHealth w stream rate silenceNs).Returns s () t) :
    Clear stream (t.health.states stream) := by
  obtain rfl := h.state
  exact clear_of_unsampled hl (unsampled_reset (w.clock s.link.ticks) rate silenceNs)

theorem resets_clear {α : Type} {lane : α → Stream} (hl : ∀ i, lane i ≠ .roverRtcm) (rate : ℚ)
    (silenceNs : α → UInt64) {items : List α}
    (h : (forEach (fun i => resetHealth w (lane i) rate (silenceNs i)) items).Returns s () t) :
    ∀ i ∈ items, Clear (lane i) (t.health.states (lane i)) := by
  induction items generalizing s with
  | nil => simp
  | cons item rest ih =>
    obtain ⟨u,hu,hr⟩ := forEach_cons_returns.mp h
    intro i hi
    rcases List.mem_cons.mp hi with rfl | hi
    · have hrest := within_forEach (fun i => sheds_resetHealth (w := w) (lane i) rate (silenceNs i))
        rest
      exact (hrest.returns hr).kept _ (resetHealth_clear (hl i) hu)
    · exact ih hr i hi

theorem camera_streams : Feed.camera.streams =
    (List.finRange 4).map cameraStream ++ [.cameraMetadata] := by decide

theorem armCamera_clear {fps : ℚ} (h : (armCamera w fps).Returns s () t) :
    ∀ lane ∈ Feed.camera.compared, Clear lane (t.health.states lane) := by
  obtain ⟨_,u,hu,h⟩ := returns_bind.mp (returns_get_bind.mp h)
  intro lane hl
  rw [show Feed.camera.compared = _ from camera_streams] at hl
  rcases List.mem_append.mp hl with hl | hl
  · obtain ⟨i,hi,rfl⟩ := List.mem_map.mp hl
    exact ((sheds_resetHealth _ _ _).returns h).kept _
      (resets_clear (by decide) fps _ hu i hi)
  · obtain rfl := List.mem_singleton.mp hl
    exact resetHealth_clear (by decide) h

/-- Two lanes that are reset one after the other. -/
theorem pair_clear {first second : Stream} {rate rate' : ℚ} {silenceNs silenceNs' : UInt64}
    (hf : first ≠ .roverRtcm) (hs : second ≠ .roverRtcm)
    (hu : (resetHealth w first rate silenceNs).Returns s () u)
    (h : (resetHealth w second rate' silenceNs').Returns u () t) :
    ∀ lane ∈ [first, second], Clear lane (t.health.states lane) := by
  intro lane hl
  rcases List.mem_cons.mp hl with rfl | hl
  · exact ((sheds_resetHealth _ _ _).returns h).kept _ (resetHealth_clear hf hu)
  · obtain rfl := List.mem_singleton.mp hl
    exact resetHealth_clear hs h

/-- No start has been acknowledged, or nothing is left of the feed's lanes. -/
def Forgotten (f : Feed) (s t : DriverState) : Prop :=
  (∀ e ∈ since s t, e.event.starts ≠ some f) ∨
    ∀ lane ∈ f.compared, Clear lane (t.health.states lane)

theorem forgotten_self : Forgotten f s s := .inl (by simp [since_self])

theorem startCamera_forgotten (h : (startCamera w).Leaves s t) : Forgotten .camera s t := by
  replace h := leaves_get_bind.mp h
  split at h
  · rcases leaves_bind.mp h with ⟨e,h⟩ | ⟨video,a,ha,h⟩
    · obtain ⟨_,rfl⟩ := throws_ask.mp h
      exact .inl (by simp [since_asked,Event.starts])
    obtain ⟨_,rfl⟩ := returns_ask.mp ha
    obtain ⟨_,b,hb,h⟩ := (total_modify _).leaves_bind.mp h
    obtain rfl := returns_modify.mp hb
    cases hv : video.enabled with
    | false =>
      rw [if_pos (by simp [hv])] at h
      rw [leaves_throw_bind.mp h]
      refine .inl fun e (he : e ∈ since s (s.asked _)) => ?_
      rw [since_asked] at he
      rw [List.mem_singleton.mp he]
      simp [Event.starts,hv]
    | true =>
      rw [if_neg (by simp [hv])] at h
      rcases leaves_iff.mp h with ⟨e,h⟩ | ⟨_,h⟩
      · exact absurd h (total_armCamera _ _ _)
      · exact .inr (armCamera_clear h)
  · rw [leaves_pure.mp h]
    exact forgotten_self

theorem startBoardImu_forgotten (h : (startBoardImu w).Leaves s t) : Forgotten .boardImu s t := by
  replace h := leaves_get_bind.mp h
  split at h
  · split at h
    · rw [leaves_throw_bind.mp h]
      exact forgotten_self
    · obtain ⟨_,a,harm,h⟩ := total_armImu.leaves_bind.mp h
      obtain ⟨_,u,hu,harm⟩ := returns_bind.mp (returns_get_bind.mp harm)
      have hclear := pair_clear (by decide) (by decide) hu harm
      have hrest : Within Sheds (do
          imuStreamStart w s.control.imuSensorCount s.control.config.imuRateHz
          setRunning fun r => { r with imu := true }) :=
        within_bind ((switches_sheds w).imuStreamStart _ _) fun _ => sheds_unwatched (unwatched_modifyControl _)
      exact .inr fun lane hl => (hrest.leaves h).kept lane (hclear lane hl)
  · rw [leaves_pure.mp h]
    exact forgotten_self

theorem startLidar_forgotten (h : (startLidar w).Leaves s t) : Forgotten .lidar s t := by
  replace h := leaves_get_bind.mp h
  split at h
  · split at h
    · rw [leaves_throw_bind.mp h]
      exact forgotten_self
    · have htotal : (accumulate Lidar.reset).Total := fun _ _ _ h => by cases h
      obtain ⟨_,a,_,h⟩ := htotal.leaves_bind.mp h
      obtain ⟨_,b,harm,h⟩ := total_armLidar.leaves_bind.mp h
      obtain ⟨_,u,hu,harm⟩ := returns_bind.mp (returns_get_bind.mp harm)
      have hclear := pair_clear (by decide) (by decide) hu harm
      have hrest : Within Sheds (do
          lidarStreamStart w (toSdkModel s.control.config.lidarModel)
          setRunning fun r => { r with lidar := true }) :=
        within_bind ((switches_sheds w).lidarStreamStart _) fun _ => sheds_unwatched (unwatched_modifyControl _)
      exact .inr fun lane hl => (hrest.leaves h).kept lane (hclear lane hl)
  · rw [leaves_pure.mp h]
    exact forgotten_self

/-- A stage starts its own feed alone. -/
theorem watchful_stage {x : Driving Unit} {g : Feed} (hg : g ≠ .rover)
    (hreturns : ∀ {s t}, x.Returns s () t → Stage w g s t true)
    (hthrows : ∀ {s t e}, x.Throws s e t → t = s ∨ Stage w g s t false)
    (hsheds : Within Sheds x) (hrover : Within RoverKept x)
    (hforgotten : ∀ {s t}, x.Leaves s t → Forgotten g s t) : Within Watchful x := by
  refine within_of_leaves fun s t h => ?_
  have hown : ∀ e ∈ since s t, ∀ f, e.event.feed = some f → f = g := by
    rcases leaves_iff.mp h with ⟨e,h⟩ | ⟨_,h⟩
    · rcases hthrows h with rfl | hstage
      · simp [since_self]
      · exact fun e he => (hstage.confined.events e he).2
    · exact fun e he => ((hreturns h).confined.events e he).2
  have hs := hsheds.leaves h
  refine watchful_of hs.later fun journal hw => hw.arms ⟨hs.unsampled,?_,hs.kept,?_,?_⟩
  · intro e he
    by_contra ha
    exact hg (hown e he .rover (Entry.feed_of_asksRover (Bool.not_eq_false _ ▸ ha))).symm
  · exact .of_baseline (hrover.leaves h).symm
  · intro e he f hf
    obtain rfl := hown e he f (Event.feed_of_starts hf)
    exact (hforgotten h).resolve_left fun hnone => hnone e he hf

/-- Without the object that is to be started nothing is touched. -/
theorem throws_missing {wanted missing : Bool} {needed e : Failure} {start : Driving Unit}
    (hmissing : missing = true) (h : (if wanted then do
      if missing then throw needed
      start
    else return () : Driving Unit).Throws s e t) : t = s := by
  rw [hmissing] at h
  split at h
  · exact (throws_throw_bind.mp h).2
  · exact absurd h (by simp)

theorem watchful_startCamera : Within Watchful (startCamera w) :=
  watchful_stage (g := .camera) (by decide) startCamera_returns
    (fun h => .inr (startCamera_throws h)) (switches_sheds w).startCamera roverKept_startCamera
    startCamera_forgotten

theorem watchful_startBoardImu : Within Watchful (startBoardImu w) := by
  refine watchful_stage (g := .boardImu) (by decide) startBoardImu_returns (fun {s t e} h => ?_)
    (switches_sheds w).startBoardImu roverKept_startBoardImu startBoardImu_forgotten
  by_cases hi : s.control.imuStream.isNone = true
  · exact .inl (throws_missing hi (throws_get_bind.mp h))
  · rw [Bool.not_eq_true,Option.isNone_eq_false_iff] at hi
    exact .inr (startBoardImu_throws (fun _ => hi) h)

theorem watchful_startLidar : Within Watchful (startLidar w) := by
  refine watchful_stage (g := .lidar) (by decide) startLidar_returns (fun {s t e} h => ?_)
    (switches_sheds w).startLidar roverKept_startLidar startLidar_forgotten
  by_cases hi : s.control.lidarStream.isNone = true
  · exact .inl (throws_missing hi (throws_get_bind.mp h))
  · rw [Bool.not_eq_true,Option.isNone_eq_false_iff] at hi
    exact .inr (startLidar_throws (fun _ => hi) h)

/-- The call is noted with the records as they are, and nothing happens to them afterwards. -/
theorem watchful_asksRover {answer : Except Failure Bool} (hkept : ∀ lane,
      Clear lane (s.health.states lane) → Clear lane (u.health.states lane))
    (hl : Later s u) (hsince : since s u = []) (hh : t.health = u.health)
    (hj : t.link.journal = (u.asked (.startRoverRtcm answer)).link.journal) : Watchful s t := by
  have hlu : Later u t := by
    rw [Later,hj]
    exact ⟨_,rfl⟩
  refine watchful_of (hl.trans hlu) fun journal hw => ?_
  have hentry : since u t =
      [⟨.startRoverRtcm answer,u.control.running,u.link.session,u.link.verified,u.health⟩] := by
    rw [since,hj]
    exact since_asked u _
  rw [since_trans hl hlu,hsince,List.nil_append,hentry,hh]
  exact hw.asks rfl hkept

theorem watchful_startRover : Within Watchful (startRover w) := by
  refine within_of_leaves fun s t h => ?_
  replace h := leaves_get_bind.mp h
  split at h
  · obtain ⟨_,a,hreset,h⟩ := total_resetHealth.leaves_bind.mp h
    obtain ⟨_,b,hcount,h⟩ := (total_modify _).leaves_bind.mp h
    have hkept : Sheds s b := IsTrans.trans _ _ _ ((sheds_resetHealth _ _ _).returns hreset)
      ((sheds_resetCounter _ _).returns hcount)
    have hsince : since s b = [] := by
      obtain rfl := returns_modify.mp hcount
      obtain rfl := hreset.state
      have hj : (resetHealth w .roverRtcm 0 0 s).2.link.journal = s.link.journal := rfl
      exact List.drop_eq_nil_of_le (congrArg List.length hj).le
    rcases leaves_bind.mp h with ⟨e,h⟩ | ⟨enabled,c,hask,h⟩
    · obtain ⟨_,rfl⟩ := throws_ask.mp h
      exact watchful_asksRover hkept.kept hkept.later hsince rfl rfl
    · obtain ⟨_,rfl⟩ := returns_ask.mp hask
      obtain ⟨_,d,hd,h⟩ := (total_modify _).leaves_bind.mp h
      obtain rfl := returns_modify.mp hd
      split at h
      · rw [leaves_throw.mp h]
        exact watchful_asksRover hkept.kept hkept.later hsince rfl rfl
      · rw [leaves_pure.mp h]
        exact watchful_asksRover hkept.kept hkept.later hsince rfl rfl
  · rw [leaves_pure.mp h]
    exact Std.Refl.refl s

theorem watchful_askRover (enable : Bool) : Within Watchful (askRover w enable) := by
  cases enable with
  | true => exact fun s => watchful_asksRover (fun _ => id) (List.prefix_refl _) (since_self s) rfl rfl
  | false => exact watchful_unwatched (unwatched_ask (fun _ => rfl) fun _ => rfl)

/-! ## Samples -/

theorem health_healthObserve (stream : Stream) (stampNs : UInt64) (sequence : UInt32) (bits : ℕ)
    (equalStampValid : Bool) (s : DriverState) :
    (healthObserve w stream stampNs sequence bits equalStampValid s).2.health =
      s.health.observe stream (w.clock s.link.ticks) stampNs (some sequence.toUInt64) bits
        equalStampValid := rfl

/-- A sample whose own record alone has changed, and which has been compared unless nothing
was kept. -/
theorem watchful_sampling {sample : SourceSample} {x : Driving Unit} (hx : x.Total)
    (hj : ∀ s, (x s).2.link.journal = s.link.journal)
    (hother : ∀ s lane, lane ≠ sample.stream → (x s).2.health.states lane = s.health.states lane)
    (hfirst : ∀ s : DriverState, Clear sample.stream (s.health.states sample.stream) → ∀ issue,
      ((x s).2.health.states sample.stream).total issue =
        (s.health.states sample.stream).total issue + sample.losses issue) :
    Within Watchful (sampling sample x) := by
  refine within_of_leaves fun s t h => ?_
  obtain ⟨_,u,hu,h⟩ := hx.leaves_bind.mp (leaves_get_bind.mp h)
  obtain rfl := hu.state
  obtain rfl := h
  change Watchful s ((x s).2.note (.sampled sample (s.health.states sample.stream)))
  have hl : Later s (x s).2 := by rw [Later,hj]
  have hsince : since s (x s).2 = [] := by rw [since,hj,List.drop_length]
  refine watchful_of (hl.trans (later_note _ _)) fun journal hw => ?_
  rw [since_trans hl (later_note _ _),hsince,List.nil_append,since_note]
  refine hw.samples (e := ⟨_,_,_,_,(x s).2.health⟩) rfl ⟨fun hc => ?_,fun hc => ?_⟩ (hother s)
  · exact (hc sample _ rfl).1
  · rintro other found he
    obtain ⟨rfl,rfl⟩ := Event.sampled.inj he
    exact ⟨hc,hfirst s hc⟩

theorem total_healthObserve (stream : Stream) (stampNs : UInt64) (sequence : UInt32) (bits : ℕ)
    (equalStampValid : Bool) :
    (healthObserve w stream stampNs sequence bits equalStampValid).Total :=
  total_bind total_steadyNowNs fun _ => total_modify _

theorem watchful_observe (stream : Stream) (stampNs : UInt64) (sequence : UInt32) (bits : ℕ)
    (equalStampValid : Bool) :
    Within Watchful (observe w stream stampNs sequence bits equalStampValid) := by
  refine watchful_sampling (total_healthObserve _ _ _ _ _) (fun _ => rfl) (fun s lane hl => ?_)
    fun s hc issue => ?_
  · rw [health_healthObserve]
    exact other_observe hl _ _ _ _ _
  · rw [health_healthObserve]
    have htotal := congrArg (StreamHealth.total · issue) (observe_unsampled hc.unsampled
      (w.clock s.link.ticks) stampNs sequence.toUInt64 bits equalStampValid)
    exact htotal.trans (UInt64.add_zero _).symm

/-- A chunk that is compared with nothing reports all that its counter and flag say. -/
theorem total_first_chunk {h : SensorDataHealth} (hc : Clear .roverRtcm (h.states .roverRtcm))
    (now : UInt64) (chunk : RoverRtcmChunk) (issue : Issue) :
    ((((h.observe .roverRtcm now 0 (some chunk.sequence.toUInt64) 32 false).counter .roverRtcm
      .lostBytes chunk.droppedBytes true).condition .roverRtcm .sourceGap
        (chunk.flags &&& 1 != 0)).states .roverRtcm).total issue =
      (h.states .roverRtcm).total issue + (SourceSample.chunk chunk).losses issue := by
  have hobserved := observe_unsampled hc.unsampled now 0 chunk.sequence.toUInt64 32 false
  generalize h.observe .roverRtcm now 0 (some chunk.sequence.toUInt64) 32 false = a at hobserved
  have hcounters : (a.states .roverRtcm).counters .lostBytes = none := by
    rw [hobserved]
    exact hc.lostBytes rfl
  have hcounted := counter_unkept hcounters chunk.droppedBytes
  have hconditions : ((a.counter .roverRtcm .lostBytes chunk.droppedBytes true).states
      .roverRtcm).conditions .sourceGap = false := by
    rw [hcounted,add,update_same,hobserved]
    exact congrFun hc.unsampled.2.2 _
  have htotal : (a.states .roverRtcm).total = (h.states .roverRtcm).total := by
    rw [hobserved]
  rw [total_condition hconditions,hcounted]
  dsimp only
  rw [total_add,htotal]
  cases issue <;> simp [SourceSample.losses]

theorem watchful_checkRoverRtcm (chunk : RoverRtcmChunk) :
    Within Watchful (checkRoverRtcm w chunk) := by
  have hhealth : ∀ (g g' : SensorDataHealth → SensorDataHealth) s, ((do
      healthObserve w .roverRtcm 0 chunk.sequence 32 false
      modifyHealth g
      modifyHealth g' : Driving Unit) s).2.health = g' (g (s.health.observe .roverRtcm
        (w.clock s.link.ticks) 0 (some chunk.sequence.toUInt64) 32 false)) := fun _ _ _ => rfl
  refine watchful_sampling ?_ (fun _ => rfl) (fun s lane hl => ?_) (fun s hc issue => ?_)
  · exact total_bind (total_healthObserve _ _ _ _ _) fun _ => total_bind (total_modify _) fun _ =>
      total_modify _
  · replace hl : lane ≠ .roverRtcm := hl
    rw [hhealth,other_condition hl,other_counter hl,other_observe hl]
  · rw [hhealth]
    exact total_first_chunk hc (w.clock s.link.ticks) chunk issue

/-! ## Whole runs -/

theorem receives_watchful (w : World) : Receives w Watchful where
  addIssue stream issue := watchful_unwatched (unwatched_addIssue stream issue)
  observe := watchful_observe
  checkRoverRtcm := watchful_checkRoverRtcm
  receive _ := watchful_unwatched (unwatched_modifyReceive _)
  tick := watchful_unwatched unwatched_nextTick
  call := watchful_unwatched unwatched_nextCall
  accumulate x := watchful_unwatched (unwatched_accumulate x)
  boardTime _ := watchful_unwatched (within_ite (within_bind unwatched_steadyNowNs fun _ =>
    unwatched_modifyReceive _) (within_pure ()))
  cameraTime _ := watchful_unwatched (within_ite (within_bind unwatched_steadyNowNs fun _ =>
    unwatched_modifyReceive _) (within_pure ()))
  ask h := watchful_unwatched (unwatched_asked h)
  note h := watchful_unwatched (unwatched_note (Event.samples_of_aside h)
    (Event.isStart_of_feed (Event.feed_of_aside h)))

theorem keeps_watchful (w : World) : Keeps w Watchful where
  control _ := watchful_unwatched (unwatched_modifyControl _)
  fatal _ := watchful_unwatched (unwatched_modifyControl _)
  status _ _ := watchful_unwatched (unwatched_publishStatus _ _)
  resolver := watchful_unwatched (unwatched_modifyReceive _)
  plain _ _ := watchful_unwatched (unwatched_asked fun _ => rfl)
  query _ := watchful_unwatched (unwatched_asked fun _ => rfl)
  rover := watchful_askRover
  opened _ := within_bind (watchful_unwatched (unwatched_asked fun _ => rfl)) fun _ =>
    watchful_unwatched (unwatched_silent (fun _ => rfl) fun _ => rfl)
  start := within_bind (watchful_unwatched (unwatched_modifyControl _)) fun _ =>
    within_bind watchful_startCamera fun _ => within_bind watchful_startBoardImu fun _ =>
      within_bind (receives_watchful w).establishDeviceTimeReference fun _ =>
        within_bind watchful_startRover fun _ => watchful_startLidar
  stop := watchful_unwatched unwatched_stopConfiguredStreams

theorem watchful_verifyIdentity (info : DeviceInfo) : Within Watchful (verifyIdentity w info) := by
  unfold verifyIdentity
  refine within_bind within_get (fun s => within_ite (within_pure ()) ?_)
  refine within_bind (within_ite (within_pure _) (within_bind (receives_watchful w).call fun _ =>
    within_pure _)) (fun equal => within_bind ((receives_watchful w).note rfl) fun _ => ?_)
  exact within_ite (watchful_unwatched (unwatched_silent (fun _ => rfl) fun _ => rfl)) (within_throw _)

/-- In every run, from whatever state, with whatever commands and frames, the first sample of
each lane after each restart is compared with nothing exactly when no chunk is kept from
before a restart of the rover to the first chunk after it. -/
theorem restarts_rebased_iff (w : World) (d : DriverState) (passes : List Pass) :
    Rebased (since d (runDriver w passes d).2) ↔ RoverCleared (since d (runDriver w passes d).2) := by
  have hreads := (receives_watchful w).reads
  have hrun := (keeps_watchful w).upholds.runOn (watchful_unwatched unwatched_cleanup) watchful_verifyIdentity
    hreads.receiveFrame hreads.expireCameraSets passes d
  have hbegin : Watching d (resetRun d).2 := by
    have hnone : since d (resetRun d).2 = [] := since_self d
    exact ⟨List.prefix_refl _,hnone ▸ watched_nil _⟩
  exact (hrun d hbegin).2.rebased_iff

end

/-- Starts of the rover that are all asked for with nothing kept keep no chunk. -/
theorem roverCleared_of_asked {journal : List Entry} (h : ∀ e ∈ journal, e.asksRover = true →
    Clear .roverRtcm (e.health.states .roverRtcm)) : RoverCleared journal := by
  intro before e after he _ k rest hk
  have hasks := asksRover_of_starts hk.restarts.1
  have hmem : k ∈ journal :=
    he ▸ List.mem_append_left _ (hk.suffix.mem List.mem_cons_self)
  exact ⟨k,List.mem_cons_self,hasks,h k hmem hasks⟩

/-- The rover delivers a chunk in the first pass and one after it has been restarted. -/
def roverStartsAgain : World where
  readFrame := fun call => .ok (.roverRtcm (.ok (
    if call < 9 then ⟨100,1,5,[]⟩ else ⟨3,0,2,[]⟩)))

def roverJournal (between : List Pass) : List Entry :=
  let d := fresh { enableRoverRtcm := true }
  since d (runDriver roverStartsAgain ({ frames := 1 } :: between ++ [{ frames := 1 }]) d).2

/-- A pass of starts rebases the rover as it does the other streams. -/
theorem idle_restart_rebased :
    Rebased (roverJournal [{ commands := [.idle .getWifiHotspot] }]) :=
  (restarts_rebased_iff roverStartsAgain _ _).mpr (roverCleared_of_asked (by decide +kernel))

/-- The services stop and start the rover between the two chunks. -/
def roverToggled : List Entry :=
  roverJournal [{ commands := [.setRoverRtcm false, .setRoverRtcm true] }]

/-- The first chunk after the restart is compared with the last one before it: a reset is
counted, and of the bytes lost since then none. -/
theorem rover_restart_compared : ¬ Rebased roverToggled ∧
    roverToggled.getLast?.map (fun e => ((e.health.states .roverRtcm).total .sequenceReset,
      (e.health.states .roverRtcm).total .lostBytes)) = some (1, 5) := by
  refine ⟨fun h => ?_,by decide +kernel⟩
  have hl : 13 < roverToggled.length := by decide +kernel
  have hrestarts : roverToggled[10].event.starts = some .rover ∧
      roverToggled[10].running.flag .rover = false := by decide +kernel +revert
  have hsilent : ∀ e ∈ [roverToggled[11], roverToggled[12]], e.samples .roverRtcm = false := by
    decide +kernel +revert
  have hsamples : roverToggled[13].samples .roverRtcm = true := by decide +kernel +revert
  have hkept : (match roverToggled[13].event with
    | .sampled _ found => found.sequence
    | _ => none) = some 100 := by decide +kernel +revert
  have hstart : roverToggled.take 10 ++ [roverToggled[10], roverToggled[11], roverToggled[12]] =
      roverToggled.take 13 := by
    rw [List.take_succ_eq_append_getElem (show 12 < roverToggled.length by omega),
      List.take_succ_eq_append_getElem (show 11 < roverToggled.length by omega),
      List.take_succ_eq_append_getElem (show 10 < roverToggled.length by omega)]
    simp only [List.append_assoc,List.cons_append,List.nil_append]
  have hsplit : roverToggled =
      roverToggled.take 13 ++ roverToggled[13] :: roverToggled.drop 14 := by
    rw [← List.drop_eq_getElem_cons hl,List.take_append_drop]
  have huncompared := h _ _ _ hsplit .rover .roverRtcm (List.mem_singleton_self _) hsamples _ _
    ⟨⟨_,hstart⟩,hrestarts,hsilent⟩
  split at hkept
  · rename_i heq
    rw [(huncompared _ _ heq).1.unsampled.1] at hkept
    cases hkept
  · cases hkept

end PrismRosAdapter.Driver
