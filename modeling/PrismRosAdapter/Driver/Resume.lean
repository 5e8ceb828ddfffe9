import PrismRosAdapter.Driver.Pause

/-! # What a pass of starts does

A pass touches a feed only if it is requested and not flagged as running. Such a
feed ends up flagged, with its lanes monitored, exactly when the device has
acknowledged its start.
-/
namespace PrismRosAdapter.Driver
open Program Health

/-- The Agent started a session that differs from what was asked for, and the
stream object keeps it. -/
def Event.differs : Event → Option Feed
  | .startImu sensors rate (.ok status) =>
    if status.sensors ≠ sensors ∨ (rate ≠ 0 ∧ status.nominalRateHz ≠ rate) then some .boardImu
    else none
  | .startLidar model (.ok status) =>
    if status.enabled ∧ status.model ≠ model then some .lidar else none
  | _ => none

theorem Event.feed_of_differs {e : Event} {f : Feed} (h : e.differs = some f) :
    e.feed = some f := by
  unfold differs at h
  split at h <;> simp_all [feed]

def acknowledged (f : Feed) (e : Entry) : Bool := decide (e.event.acknowledged = some f)
def differs (f : Feed) (e : Entry) : Bool := decide (e.event.differs = some f)
def startCalled (e : Entry) : Bool := e.event.isStart

abbrev NoStop (e : Event) : Prop := e.isStop = false

theorem Feed.streams_disjoint {f g : Feed} (h : g ≠ f) : ∀ lane ∈ g.streams, lane ∉ f.streams := by
  revert h
  cases f <;> cases g <;> first
    | exact fun h => absurd rfl h
    | (intro _; decide)

theorem cameraStream_ne_metadata : ∀ i, cameraStream i ∉ [Stream.cameraMetadata] := by decide

/-- Only the lanes in `lanes` may have changed. -/
structure Rearmed (lanes : List Stream) (s t : DriverState) : Prop where
  control : t.control = s.control
  linked : Linked s t
  silence : ∀ lane, lane ∉ lanes → t.silence lane = s.silence lane

section Rearmed
variable {w : World} {s t u : DriverState} {lanes more : List Stream}

theorem Rearmed.trans (h : Rearmed lanes s t) (h' : Rearmed more t u) :
    Rearmed (lanes ++ more) s u where
  control := h'.control.trans h.control
  linked := h.linked.trans h'.linked
  silence := by
    intro lane hl
    rw [List.mem_append, not_or] at hl
    rw [h'.silence lane hl.2,h.silence lane hl.1]

theorem Rearmed.confined (h : Rearmed lanes s t) {f : Feed}
    (hl : ∀ g, g ≠ f → ∀ lane ∈ g.streams, lane ∉ lanes) {K : Event → Prop} :
    Confined (· = f) K s t :=
  confined_health h.linked h.control fun g hg lane hlane => h.silence lane (hl g hg lane hlane)

/-- The accumulator is no lane of the sensors' health. -/
theorem rearmed_accumulate {α : Type} {x : Lidar.Accumulating α} {a : α}
    (h : (accumulate x).Returns s a t) : Rearmed [] s t := by
  obtain rfl := h.state
  exact ⟨rfl,⟨rfl,rfl,rfl⟩,fun _ _ => rfl⟩

theorem resetHealth_returns {stream : Stream} {rate : ℚ} {silenceNs : UInt64}
    (h : (resetHealth w stream rate silenceNs).Returns s () t) :
    Rearmed [stream] s t ∧ (0 < silenceNs → 0 < t.silence stream) := by
  obtain ⟨now,u,hu,h⟩ := returns_bind.mp h
  obtain rfl := returns_modify.mp h
  have hq : u.control = s.control ∧ u.health = s.health ∧ Linked s u := by
    obtain ⟨n,v,hv,hu⟩ := returns_bind.mp hu
    obtain ⟨_,rfl⟩ := returns_pure.mp hu
    obtain rfl := hv.state
    exact ⟨rfl,rfl,⟨rfl,rfl,rfl⟩⟩
  refine ⟨⟨hq.1,⟨hq.2.2.journal,hq.2.2.session,hq.2.2.verified⟩,?_⟩,?_⟩
  · intro lane hl
    rw [List.mem_singleton] at hl
    exact (u.health.silence_reset_other hl now rate silenceNs).trans (by rw [hq.2.1]; rfl)
  · intro hpos
    exact lt_of_lt_of_eq (SensorDataHealth.silenceOf_pos hpos)
      (u.health.silence_reset_same stream now rate silenceNs).symm

theorem total_resetHealth {stream : Stream} {rate : ℚ} {silenceNs : UInt64} :
    (resetHealth w stream rate silenceNs).Total :=
  total_bind total_steadyNowNs fun _ => total_modify _

/-- Resets of pairwise different lanes do not undo each other. -/
theorem resets_returns {α : Type} (lane : α → Stream) (rate : ℚ) (silenceNs : α → UInt64)
    {items : List α} (hn : (items.map lane).Nodup)
    (h : (forEach (fun i => resetHealth w (lane i) rate (silenceNs i)) items).Returns s () t) :
    Rearmed (items.map lane) s t ∧ ∀ i ∈ items, 0 < silenceNs i → 0 < t.silence (lane i) := by
  induction items generalizing s with
  | nil =>
    obtain rfl := forEach_nil_returns.mp h
    exact ⟨⟨rfl,.refl _,fun _ _ => rfl⟩,fun i hi => by cases hi⟩
  | cons item rest ih =>
    obtain ⟨u,hu,hr⟩ := forEach_cons_returns.mp h
    rw [List.map_cons,List.nodup_cons] at hn
    obtain ⟨hfirst,hpos⟩ := resetHealth_returns hu
    obtain ⟨hrest,hlater⟩ := ih hn.2 hr
    refine ⟨hfirst.trans hrest,?_⟩
    intro i hi hsil
    rcases List.mem_cons.mp hi with rfl | hi
    · rw [hrest.silence (lane i) hn.1]
      exact hpos hsil
    · exact hlater i hi hsil

theorem laneSilence_pos : 0 < laneSilence true := by decide

theorem armCamera_returns {fps : ℚ} (h : (armCamera w fps).Returns s () t) :
    Rearmed Feed.camera.streams s t ∧ t.armed .camera = true := by
  replace h := returns_get_bind.mp h
  obtain ⟨_,u,hu,h⟩ := returns_bind.mp h
  obtain ⟨hcams,hpos⟩ := resets_returns cameraStream fps _ (by decide) hu
  obtain ⟨hmeta,hmpos⟩ := resetHealth_returns h
  refine ⟨hcams.trans hmeta,List.all_eq_true.mpr fun lane hl => decide_eq_true ?_⟩
  rw [hmeta.control,hcams.control] at hl
  rcases List.mem_append.mp hl with hl | hl
  · obtain ⟨i,hi,rfl⟩ := List.mem_map.mp hl
    have hbit : bitOf s.control.cameraMask i.val = true := (List.mem_filter.mp hi).2
    rw [hmeta.silence _ (cameraStream_ne_metadata i)]
    apply hpos i (List.mem_finRange i)
    rw [hbit]
    exact laneSilence_pos
  · obtain rfl := List.mem_singleton.mp hl
    exact hmpos laneSilence_pos

theorem total_armCamera {fps : ℚ} : (armCamera w fps).Total :=
  total_bind total_get fun _ =>
    total_bind (total_forEach (fun _ => total_resetHealth) _) fun _ => total_resetHealth

theorem armImu_returns (h : (armImu w).Returns s () t) :
    Rearmed Feed.boardImu.streams s t ∧ t.armed .boardImu = true := by
  replace h := returns_get_bind.mp h
  obtain ⟨_,u,hu,h⟩ := returns_bind.mp h
  obtain ⟨h0,hpos0⟩ := resetHealth_returns hu
  obtain ⟨h1,hpos1⟩ := resetHealth_returns h
  refine ⟨h0.trans h1,List.all_eq_true.mpr fun lane hl => decide_eq_true ?_⟩
  rw [h1.control,h0.control] at hl
  rcases List.mem_append.mp hl with hl | hl
  · split at hl
    · rename_i hbit
      obtain rfl := List.mem_singleton.mp hl
      rw [h1.silence _ (by decide)]
      apply hpos0
      rw [show bitOf s.control.imuMask 0 = true from hbit]
      exact laneSilence_pos
    · cases hl
  · split at hl
    · rename_i hbit
      obtain rfl := List.mem_singleton.mp hl
      apply hpos1
      rw [show bitOf s.control.imuMask 1 = true from hbit]
      exact laneSilence_pos
    · cases hl

theorem total_armImu : (armImu w).Total :=
  total_bind total_get fun _ => total_bind total_resetHealth fun _ => total_resetHealth

theorem armLidar_returns (h : (armLidar w).Returns s () t) :
    Rearmed Feed.lidar.streams s t ∧ t.armed .lidar = true := by
  replace h := returns_get_bind.mp h
  obtain ⟨_,u,hu,h⟩ := returns_bind.mp h
  obtain ⟨h0,hpos0⟩ := resetHealth_returns hu
  obtain ⟨h1,hpos1⟩ := resetHealth_returns h
  refine ⟨h0.trans h1,List.all_eq_true.mpr fun lane hl => decide_eq_true ?_⟩
  have hpoints : 0 < t.silence .lidarPoints := by
    rw [h1.silence _ (by decide)]
    exact hpos0 laneSilence_pos
  rw [h1.control,h0.control,Terms.lanes] at hl
  split at hl
  · obtain rfl := List.mem_singleton.mp hl
    exact hpoints
  · rename_i hm
    rcases List.mem_cons.mp hl with rfl | hl
    · exact hpoints
    · obtain rfl := List.mem_singleton.mp hl
      apply hpos1
      rw [show decide (s.control.config.lidarModel ≠ .xt32) = true from decide_eq_true hm]
      exact laneSilence_pos

theorem total_armLidar : (armLidar w).Total :=
  total_bind total_get fun _ => total_bind total_resetHealth fun _ => total_resetHealth

end Rearmed

/-! ## One start -/

/-- A start call to the feed `f`, before the driver has changed its flag. -/
structure StartCall (w : World) (f : Feed) (s t : DriverState) (ok : Bool) : Prop where
  confined : Confined (· = f) NoStop s t
  running : t.control.running = s.control.running
  silence : ∀ lane, t.silence lane = s.silence lane
  acked : saw (acknowledged f) s t = ok
  called : saw startCalled s t = true
  taken : w.rkLocal = true → ok = true → f = .boardImu ∨ f = .lidar → t.active f = true
  accepted : ok = true → saw (differs f) s t = false
  refused : w.rkLocal = true → ok = false → f = .boardImu ∨ f = .lidar →
    (t.active f = true ↔ s.active f = true ∨ saw (differs f) s t = true)

theorem saw_differs_object {f : Feed} {s t : DriverState}
    (hf : ¬ (f = .boardImu ∨ f = .lidar)) :
    saw (differs f) s t = false := by
  refine saw_eq_false.mpr fun e _ => decide_eq_false fun hd => hf ?_
  unfold Event.differs at hd
  split at hd
  · split at hd
    · exact Or.inl (Option.some.inj hd).symm
    · cases hd
  · split at hd
    · exact Or.inr (Option.some.inj hd).symm
    · cases hd
  · cases hd

theorem startCall_asked {w : World} {f : Feed} {event : Event} {ok : Bool} {s : DriverState}
    (hf : event.feed = some f) (hs : event.isStart = true)
    (ha : decide (event.acknowledged = some f) = ok) (hn : f = .camera ∨ f = .rover) :
    StartCall w f s (s.asked event) ok where
  confined := by
    refine confined_asked ?_ (fun g hg => Option.some.inj (hg.symm.trans hf)) s
    by_contra hstop
    rw [Event.isStart_of_isStop (by simpa using hstop)] at hs
    cases hs
  running := rfl
  silence := fun _ => rfl
  acked := by simp [saw,since_asked,acknowledged,ha]
  called := by simp [saw,since_asked,startCalled,hs]
  taken := fun _ _ h => by rcases hn with rfl | rfl <;> simp at h
  accepted := fun _ => saw_differs_object (by rcases hn with rfl | rfl <;> simp)
  refused := fun _ _ h => by rcases hn with rfl | rfl <;> simp at h

/-- The call of a stream object inside its start, before the driver notes how it
ended. -/
structure ObjectStart (w : World) (f : Feed) (s t : DriverState) (ok : Bool) : Prop where
  confined : Confined (· = f) NoStop s t
  running : t.control.running = s.control.running
  silence : ∀ lane, t.silence lane = s.silence lane
  inner : ∀ e ∈ since s t, e.event.acknowledged = none
  taken : w.rkLocal = true → ok = true → t.active f = true
  accepted : ok = true → saw (differs f) s t = false
  refused : w.rkLocal = true → ok = false →
    (t.active f = true ↔ s.active f = true ∨ saw (differs f) s t = true)

/-- The event of the start of the stream object of the feed `f`. -/
structure WrapperStart (f : Feed) (event : Except Failure Unit → Event) : Prop where
  feed : ∀ a, (event a).feed = some f
  isStart : ∀ a, (event a).isStart = true
  isStop : ∀ a, (event a).isStop = false
  acknowledged : ∀ a, decide ((event a).acknowledged = some f) = a.toBool
  differs : ∀ a, (event a).differs = none

theorem ObjectStart.noted {w : World} {f : Feed} {event : Except Failure Unit → Event}
    {a : Except Failure Unit} {s t : DriverState} (h : ObjectStart w f s t a.toBool)
    (he : WrapperStart f event) : StartCall w f s (t.note (event a)) a.toBool := by
  have hl : Later t (t.note (event a)) := later_note t _
  have hacked : saw (acknowledged f) s t = false := by
    refine saw_eq_false.mpr fun e he => ?_
    simp [acknowledged,h.inner e he]
  refine ⟨?_,h.running,h.silence,?_,?_,?_,?_,?_⟩
  · exact h.confined.trans (confined_note (he.isStop a)
      (fun g hg => Option.some.inj (hg.symm.trans (he.feed a))) t)
  · rw [saw_trans h.confined.later hl,hacked]
    simpa [saw,since_note,acknowledged] using he.acknowledged a
  · rw [saw_trans h.confined.later hl]
    simp [saw,since_note,startCalled,he.isStart]
  · intro hw hok _
    rw [active_note]
    exact h.taken hw hok
  · intro hok
    rw [saw_trans h.confined.later hl,h.accepted hok]
    simp [saw,since_note,differs,he.differs]
  · intro hw hok _
    rw [active_note,saw_trans h.confined.later hl,h.refused hw hok]
    simp [saw,since_note,differs,he.differs]

section RkStart
variable {α : Type} {w : World} {active : Bool} {event : Except Failure α → Event}
  {reply : ℕ → Except Failure α} {keep : α → Driving Unit} {refuses : α → Bool}
  {text : String} {s t : DriverState}

theorem rkStart_returns (h : (rkStart active event reply keep refuses text).Returns s () t) :
    (active = true ∧ t = s) ∨ active = false ∧ ∃ status, refuses status = false ∧
      (keep status).Returns (s.asked (event (.ok status))) () t := by
  unfold rkStart at h
  split at h
  · rename_i ha
    exact Or.inl ⟨ha,(returns_pure.mp h).2⟩
  · rename_i ha
    obtain ⟨status,u,hu,h⟩ := returns_bind.mp h
    obtain ⟨_,rfl⟩ := returns_ask.mp hu
    obtain ⟨_,v,hv,h⟩ := returns_bind.mp h
    split at h
    · exact absurd h (by simp)
    · rename_i hr
      obtain ⟨_,rfl⟩ := returns_pure.mp h
      exact Or.inr ⟨by simpa using ha,status,by simpa using hr,hv⟩

theorem rkStart_throws (hk : ∀ status e u v, ¬ (keep status).Throws u e v) {e : Failure}
    (h : (rkStart active event reply keep refuses text).Throws s e t) :
    active = false ∧ ((∃ e', t = s.asked (event (.error e'))) ∨
      ∃ status, refuses status = true ∧
        (keep status).Returns (s.asked (event (.ok status))) () t) := by
  unfold rkStart at h
  split at h
  · exact absurd h (by simp)
  · rename_i ha
    refine ⟨by simpa using ha,?_⟩
    rcases throws_bind.mp h with h | ⟨status,u,hu,h⟩
    · exact Or.inl ⟨e,(throws_ask.mp h).2⟩
    obtain ⟨_,rfl⟩ := returns_ask.mp hu
    rcases throws_bind.mp h with h | ⟨_,v,hv,h⟩
    · exact absurd h (hk status e _ _)
    split at h
    · rename_i hr
      obtain ⟨_,rfl⟩ := throws_throw.mp h
      exact Or.inr ⟨status,hr,hv⟩
    · exact absurd h (by simp)

end RkStart

section ObjectStart
variable {w : World} {f : Feed} {s t : DriverState}

theorem objectStart_host (hw : w.rkLocal = false) (f : Feed) (s : DriverState) (ok : Bool) :
    ObjectStart w f s { s with link := { s.link with calls := s.link.calls + 1 } } ok where
  confined := confined_health ⟨rfl,rfl,rfl⟩ rfl fun _ _ _ _ => rfl
  running := rfl
  silence := fun _ => rfl
  inner := by simp [since]
  taken := fun h => by simp [hw] at h
  accepted := fun _ => by simp [saw,since]
  refused := fun h => by simp [hw] at h

theorem objectStart_same (h : s.active f = true) : ObjectStart w f s s true where
  confined := .refl s
  running := rfl
  silence := fun _ => rfl
  inner := by simp [since_self]
  taken := fun _ _ => h
  accepted := fun _ => saw_self _ s
  refused := fun _ h => by cases h

/-- A request that got no answer leaves the object as it was. -/
theorem objectStart_failed {event : Event} (hf : event.feed = some f) (hs : event.isStop = false)
    (ha : event.acknowledged = none) (hd : event.differs = none) :
    ObjectStart w f s (s.asked event) false where
  confined := confined_asked hs (fun g hg => Option.some.inj (hg.symm.trans hf)) s
  running := rfl
  silence := fun _ => rfl
  inner := by simp [since_asked,ha]
  taken := fun _ h => by cases h
  accepted := nofun
  refused := by simp [active_asked,saw,since_asked,differs,hd]

/-- An answer decides whether the object is active afterwards. -/
theorem objectStart_kept {event : Event} {u : DriverState} {ok : Bool} (hs : s.active f = false)
    (hf : event.feed = some f) (hstop : event.isStop = false) (ha : event.acknowledged = none)
    (hc : Confined (· = f) NoStop (s.asked event) u) (hr : u.control.running = s.control.running)
    (hsil : ∀ lane, u.silence lane = s.silence lane) (hj : u.link.journal = (s.asked event).link.journal)
    (htaken : ok = true → u.active f = true) (haccepted : ok = true → event.differs ≠ some f)
    (hrefused : ok = false → (u.active f = true ↔ event.differs = some f)) :
    ObjectStart w f s u ok := by
  have hsince : since s u = since s (s.asked event) := by
    unfold since
    rw [hj]
  refine ⟨?_,hr,hsil,?_,fun _ => htaken,?_,?_⟩
  · exact (confined_asked hstop (fun g hg => Option.some.inj (hg.symm.trans hf)) s).trans hc
  · rw [hsince]
    simp [since_asked,ha]
  · intro hok
    rw [saw,hsince,since_asked]
    simpa [differs] using haccepted hok
  · intro _ hok
    rw [hrefused hok,hs]
    simp [saw,hsince,since_asked,differs]

theorem wrapperStart_imu (sensors rate : UInt32) :
    WrapperStart .boardImu (.imuStart sensors rate) :=
  ⟨fun _ => rfl,fun _ => rfl,fun _ => rfl,fun a => by cases a <;> rfl,fun _ => rfl⟩
theorem wrapperStart_lidar (model : SdkLidarModel) :
    WrapperStart .lidar (.lidarStart model) :=
  ⟨fun _ => rfl,fun _ => rfl,fun _ => rfl,fun a => by cases a <;> rfl,fun _ => rfl⟩

theorem recordedStart_returns {event : Except Failure Unit → Event} {start : Driving Unit}
    {reply : ℕ → Except Failure Unit} (he : WrapperStart f event)
    (hstart : ∀ u, start.Returns s () u → ObjectStart w f s u true)
    (h : (recorded event (if w.rkLocal then start else hostCall reply)).Returns s () t) :
    StartCall w f s t true := by
  obtain ⟨u,hu,rfl⟩ := returns_andThen.mp h
  have hobject : ObjectStart w f s u true := by
    split at hu
    · exact hstart u hu
    · rename_i hw
      rw [returns_hostCall hu]
      exact objectStart_host (by simpa using hw) f s true
  exact ObjectStart.noted (a := .ok ()) hobject he

theorem recordedStart_throws {event : Except Failure Unit → Event} {start : Driving Unit}
    {reply : ℕ → Except Failure Unit} (he : WrapperStart f event)
    (hstart : ∀ e u, start.Throws s e u → ObjectStart w f s u false) {e : Failure}
    (h : (recorded event (if w.rkLocal then start else hostCall reply)).Throws s e t) :
    StartCall w f s t false := by
  obtain ⟨u,hu,rfl⟩ := throws_andThen.mp h
  have hobject : ObjectStart w f s u false := by
    split at hu
    · exact hstart e u hu
    · rename_i hw
      rw [throws_hostCall hu]
      exact objectStart_host (by simpa using hw) f s false
  exact ObjectStart.noted (a := .error e) hobject he

/-- Setting the object's own flag, when there is an object. -/
theorem setImuActive_returns {active : Bool} {u : DriverState}
    (h : (setImuActive active).Returns s () u) (hi : s.control.imuStream.isSome = true) :
    Confined (· = .boardImu) NoStop s u ∧ u.active .boardImu = active ∧
      u.control.running = s.control.running ∧ (∀ lane, u.silence lane = s.silence lane) ∧
      u.link.journal = s.link.journal := by
  obtain rfl := returns_modify.mp h
  refine ⟨?_,?_,rfl,fun _ => rfl,rfl⟩
  · exact confined_setObject .boardImu rfl rfl (fun h => absurd rfl h) (fun _ => rfl) (by simp) id
  · obtain ⟨object,ho⟩ := Option.isSome_iff_exists.mp hi
    simp [DriverState.active,isActive,ho]

theorem setLidarActive_returns {active : Bool} {u : DriverState}
    (h : (setLidarActive active).Returns s () u) (hl : s.control.lidarStream.isSome = true) :
    Confined (· = .lidar) NoStop s u ∧ u.active .lidar = active ∧
      u.control.running = s.control.running ∧ (∀ lane, u.silence lane = s.silence lane) ∧
      u.link.journal = s.link.journal := by
  obtain rfl := returns_modify.mp h
  refine ⟨?_,?_,rfl,fun _ => rfl,rfl⟩
  · exact confined_setObject .lidar rfl rfl (fun _ => rfl) (fun h => absurd rfl h) id (by simp)
  · obtain ⟨object,ho⟩ := Option.isSome_iff_exists.mp hl
    simp [DriverState.active,isActive,ho]

theorem imuStreamStart_returns {sensors rate : UInt32}
    (hi : s.control.imuStream.isSome = true)
    (h : (imuStreamStart w sensors rate).Returns s () t) : StartCall w .boardImu s t true := by
  apply recordedStart_returns (wrapperStart_imu sensors rate) _ h
  intro u hu
  rcases rkStart_returns (returns_get_bind.mp hu) with ⟨hact,rfl⟩ | ⟨hact,status,hkept,hk⟩
  · exact objectStart_same hact
  · obtain ⟨hc,ha,hr,hs,hj⟩ := setImuActive_returns hk hi
    refine objectStart_kept hact rfl rfl rfl hc hr hs hj (fun _ => ha) (fun _ => ?_) nofun
    rw [Event.differs,if_neg (of_decide_eq_false hkept)]
    exact nofun

theorem imuStreamStart_throws {sensors rate : UInt32} {e : Failure}
    (hi : s.control.imuStream.isSome = true)
    (h : (imuStreamStart w sensors rate).Throws s e t) : StartCall w .boardImu s t false := by
  apply recordedStart_throws (wrapperStart_imu sensors rate) _ h
  intro e u hu
  obtain ⟨hact,hu⟩ := rkStart_throws (fun _ _ _ _ h => throws_modify.mp h) (throws_get_bind.mp hu)
  rcases hu with ⟨e',rfl⟩ | ⟨status,hrefused,hk⟩
  · exact objectStart_failed rfl rfl rfl rfl
  · obtain ⟨hc,ha,hr,hs,hj⟩ := setImuActive_returns hk hi
    refine objectStart_kept hact rfl rfl rfl hc hr hs hj nofun nofun fun _ => ?_
    rw [ha,Event.differs,if_pos (of_decide_eq_true hrefused)]
    exact iff_of_true rfl rfl

theorem lidarStreamStart_returns {model : SdkLidarModel}
    (hl : s.control.lidarStream.isSome = true)
    (h : (lidarStreamStart w model).Returns s () t) : StartCall w .lidar s t true := by
  apply recordedStart_returns (wrapperStart_lidar model) _ h
  intro u hu
  rcases rkStart_returns (returns_get_bind.mp hu) with ⟨hact,rfl⟩ | ⟨hact,status,hkept,hk⟩
  · exact objectStart_same hact
  · obtain ⟨hc,ha,hr,hs,hj⟩ := setLidarActive_returns hk hl
    have henabled : status.enabled = true := by
      by_contra hne
      exact of_decide_eq_false hkept (Or.inl hne)
    have hmodel : ¬ (status.enabled = true ∧ status.model ≠ model) :=
      fun h => of_decide_eq_false hkept (Or.inr h.2)
    refine objectStart_kept hact rfl rfl rfl hc hr hs hj (fun _ => ha.trans henabled)
      (fun _ => ?_) nofun
    rw [Event.differs,if_neg hmodel]
    exact nofun

theorem lidarStreamStart_throws {model : SdkLidarModel} {e : Failure}
    (hl : s.control.lidarStream.isSome = true)
    (h : (lidarStreamStart w model).Throws s e t) : StartCall w .lidar s t false := by
  apply recordedStart_throws (wrapperStart_lidar model) _ h
  intro e u hu
  obtain ⟨hact,hu⟩ := rkStart_throws (fun _ _ _ _ h => throws_modify.mp h) (throws_get_bind.mp hu)
  rcases hu with ⟨e',rfl⟩ | ⟨status,hrefused,hk⟩
  · exact objectStart_failed rfl rfl rfl rfl
  · obtain ⟨hc,ha,hr,hs,hj⟩ := setLidarActive_returns hk hl
    refine objectStart_kept hact rfl rfl rfl hc hr hs hj nofun nofun fun _ => ?_
    rw [ha,Event.differs]
    have hcase : ¬ status.enabled ∨ status.model ≠ model := of_decide_eq_true hrefused
    constructor
    · intro henabled
      rw [if_pos ⟨henabled,hcase.resolve_left (not_not.mpr henabled)⟩]
    · intro hd
      by_contra hne
      rw [if_neg (fun hc => hne hc.1)] at hd
      cases hd

end ObjectStart

/-! ## A pass of starts -/

/-- What a pass of starts has done to the feed `f`. -/
structure Resumed (w : World) (f : Feed) (s t : DriverState) : Prop where
  held : s.flag f = true ∨ s.control.config.requested.flag f = false →
    Spared f s t ∧ ∀ e ∈ since s t, e.event.feed ≠ some f
  armed : s.flag f = false → t.flag f = true → t.armed f = true
  acked : saw (acknowledged f) s t = true ↔ s.flag f = false ∧ t.flag f = true
  active : w.rkLocal = true → s.flag f = false → t.flag f = true → t.active f = true
  accepted : t.flag f = true → saw (differs f) s t = false
  refused : w.rkLocal = true → s.flag f = false → t.flag f = false →
    (t.active f = true ↔ s.active f = true ∨ saw (differs f) s t = true)

section Resumed
variable {w : World} {f : Feed} {s t u : DriverState} {A : Feed → Prop} {K : Event → Prop}

theorem saw_acknowledged_false (h : ∀ e ∈ since s t, e.event.feed ≠ some f) :
    saw (acknowledged f) s t = false :=
  saw_eq_false.mpr fun e he => decide_eq_false fun ha => h e he (Event.feed_of_acknowledged ha)

theorem saw_differs_false (h : ∀ e ∈ since s t, e.event.feed ≠ some f) :
    saw (differs f) s t = false :=
  saw_eq_false.mpr fun e he => decide_eq_false fun hd => h e he (Event.feed_of_differs hd)

theorem Confined.other (h : Confined A K s t) (hf : ¬ A f) :
    ∀ e ∈ since s t, e.event.feed ≠ some f := fun e he hfe => hf ((h.events e he).2 f hfe)

theorem Confined.flag (h : Confined A K s t) (hf : ¬ A f) : t.flag f = s.flag f :=
  (h.spared f hf).flag

theorem Confined.requested (h : Confined A K s t) :
    t.control.config.requested = s.control.config.requested := congrArg Terms.requested h.terms

theorem resumed_spared (h : Confined A K s t) (hf : ¬ A f) : Resumed w f s t := by
  have hflag : t.flag f = s.flag f := (h.spared f hf).flag
  refine ⟨fun _ => ⟨h.spared f hf,h.other hf⟩,?_,?_,?_,fun _ => saw_differs_false (h.other hf),
    ?_⟩
  · intro hs ht
    exact absurd ((hs.symm.trans hflag.symm).trans ht) Bool.noConfusion
  · rw [saw_acknowledged_false (h.other hf),hflag]
    simp
  · intro _ hs ht
    exact absurd ((hs.symm.trans hflag.symm).trans ht) Bool.noConfusion
  · intro _ _ _
    rw [(h.spared f hf).active,saw_differs_false (h.other hf)]
    simp

theorem Resumed.before (h : Confined A K s t) (hf : ¬ A f) (h' : Resumed w f t u)
    (hl : Later t u) : Resumed w f s u := by
  have hflag : t.flag f = s.flag f := (h.spared f hf).flag
  refine ⟨?_,?_,?_,?_,?_,?_⟩
  · intro hs
    rw [← h.requested,← hflag] at hs
    obtain ⟨hspared,hother⟩ := h'.held hs
    refine ⟨(h.spared f hf).trans hspared,?_⟩
    rw [since_trans h.later hl]
    intro e he
    rcases List.mem_append.mp he with he | he
    · exact h.other hf e he
    · exact hother e he
  · exact fun hs hu => h'.armed (hflag.trans hs) hu
  · rw [saw_trans h.later hl,saw_acknowledged_false (h.other hf),Bool.false_or,h'.acked,hflag]
  · exact fun hw hs hu => h'.active hw (hflag.trans hs) hu
  · intro hu
    rw [saw_trans h.later hl,saw_differs_false (h.other hf),h'.accepted hu]
    rfl
  · intro hw hs hu
    rw [saw_trans h.later hl,saw_differs_false (h.other hf),Bool.false_or,
      h'.refused hw (hflag.trans hs) hu,(h.spared f hf).active]

theorem Resumed.after (h : Resumed w f s t) (hl : Later s t) (h' : Confined A K t u)
    (hf : ¬ A f) : Resumed w f s u := by
  have hflag : u.flag f = t.flag f := (h'.spared f hf).flag
  refine ⟨?_,?_,?_,?_,?_,?_⟩
  · intro hs
    obtain ⟨hspared,hother⟩ := h.held hs
    refine ⟨hspared.trans (h'.spared f hf),?_⟩
    rw [since_trans hl h'.later]
    intro e he
    rcases List.mem_append.mp he with he | he
    · exact hother e he
    · exact h'.other hf e he
  · intro hs hu
    rw [h'.armed hf]
    exact h.armed hs (hflag.symm.trans hu)
  · rw [saw_trans hl h'.later,saw_acknowledged_false (h'.other hf),Bool.or_false,h.acked,hflag]
  · intro hw hs hu
    rw [(h'.spared f hf).active]
    exact h.active hw hs (hflag.symm.trans hu)
  · intro hu
    rw [saw_trans hl h'.later,saw_differs_false (h'.other hf),h.accepted (hflag.symm.trans hu)]
    rfl
  · intro hw hs hu
    rw [saw_trans hl h'.later,saw_differs_false (h'.other hf),Bool.or_false,
      (h'.spared f hf).active]
    exact h.refused hw hs (hflag.symm.trans hu)

/-- What the stage of the feed `f` in a pass of starts has done. -/
structure Stage (w : World) (f : Feed) (s t : DriverState) (ok : Bool) : Prop where
  confined : Confined (· = f) NoStop s t
  resumed : Resumed w f s t
  started : ok = true → s.control.config.requested.flag f = true → t.flag f = true
  failed : ok = false → t.flag f = false ∧ s.control.config.requested.flag f = true ∧
    saw startCalled s t = true

theorem stage_skipped (h : s.flag f = true ∨ s.control.config.requested.flag f = false) :
    Stage w f s s true where
  confined := .refl s
  resumed := by
    refine ⟨fun _ => ⟨.refl f s,by simp [since_self]⟩,?_,?_,?_,fun _ => saw_self _ s,?_⟩
    · exact fun hs ht => absurd (hs.symm.trans ht) Bool.noConfusion
    · simp [saw_self]
    · exact fun _ hs ht => absurd (hs.symm.trans ht) Bool.noConfusion
    · simp [saw_self]
  started := fun _ hr => h.resolve_right fun hn => absurd (hr.symm.trans hn) Bool.noConfusion
  failed := fun h => by cases h

theorem stage_guarded (h : ¬ (s.control.config.requested.flag f && !s.flag f) = true) :
    Stage w f s s true := by
  apply stage_skipped
  cases hf : s.flag f with
  | true => exact Or.inl rfl
  | false =>
    refine Or.inr (Bool.eq_false_iff.mpr fun hr => h ?_)
    rw [hf,Bool.and_eq_true]
    exact ⟨hr,rfl⟩

theorem saw_startCalled (h : saw (acknowledged f) s t = true) : saw startCalled s t = true := by
  obtain ⟨e,he,ha⟩ := saw_eq_true.mp h
  exact saw_eq_true.mpr ⟨e,he,Event.isStart_of_acknowledged (of_decide_eq_true ha)⟩

theorem stage_started (hr : s.control.config.requested.flag f = true) (hs : s.flag f = false)
    (hc : Confined (· = f) NoStop s u) (hu : u.flag f = true) (harm : u.armed f = true)
    (hack : saw (acknowledged f) s u = true)
    (hactive : w.rkLocal = true → f = .boardImu ∨ f = .lidar → u.active f = true)
    (hdiffers : saw (differs f) s u = false) : Stage w f s u true where
  confined := hc
  resumed := by
    refine ⟨?_,fun _ _ => harm,iff_of_true hack ⟨hs,hu⟩,?_,fun _ => hdiffers,?_⟩
    · rintro (h | h)
      · exact absurd (hs.symm.trans h) Bool.noConfusion
      · exact absurd (hr.symm.trans h) Bool.noConfusion
    · intro hw _ _
      by_cases hf : f = .boardImu ∨ f = .lidar
      · exact hactive hw hf
      · exact (active_eq_flag u hf).trans hu
    · exact fun _ _ h => absurd (hu.symm.trans h) Bool.noConfusion
  started := fun _ _ => hu
  failed := fun h => by cases h

theorem stage_refused (hr : s.control.config.requested.flag f = true) (hs : s.flag f = false)
    (hc : Confined (· = f) NoStop s u) (hu : u.flag f = false)
    (hack : saw (acknowledged f) s u = false) (hcalled : saw startCalled s u = true)
    (hrefused : w.rkLocal = true → f = .boardImu ∨ f = .lidar →
      (u.active f = true ↔ s.active f = true ∨ saw (differs f) s u = true)) :
    Stage w f s u false where
  confined := hc
  resumed := by
    refine ⟨?_,?_,?_,?_,fun h => absurd (hu.symm.trans h) Bool.noConfusion,?_⟩
    · rintro (h | h)
      · exact absurd (hs.symm.trans h) Bool.noConfusion
      · exact absurd (hr.symm.trans h) Bool.noConfusion
    · exact fun _ h => absurd (hu.symm.trans h) Bool.noConfusion
    · rw [hack,hu]
      simp
    · exact fun _ _ h => absurd (hu.symm.trans h) Bool.noConfusion
    · intro hw _ _
      by_cases hf : f = .boardImu ∨ f = .lidar
      · exact hrefused hw hf
      · rw [active_eq_flag u hf,active_eq_flag s hf,hu,hs,saw_differs_object hf]
        simp
  started := fun h => by cases h
  failed := fun _ => ⟨hu,hr,hcalled⟩

theorem StartCall.flag {ok : Bool} (h : StartCall w f s t ok) (g : Feed) :
    t.flag g = s.flag g := congrArg (Running.flag · g) h.running

theorem Rearmed.saw_eq {lanes : List Stream} (h : Rearmed lanes s t) (hl : Later t u)
    (p : Entry → Bool) : saw p s u = saw p t u := by
  rw [saw_trans h.linked.later hl,h.linked.saw_eq,Bool.false_or]

theorem startCamera_returns (h : (startCamera w).Returns s () t) : Stage w .camera s t true := by
  replace h := returns_get_bind.mp h
  split at h
  · rename_i hc
    rw [Bool.and_eq_true,Bool.not_eq_true'] at hc
    obtain ⟨video,u,hu,h⟩ := returns_bind.mp h
    obtain ⟨_,rfl⟩ := returns_ask.mp hu
    obtain ⟨_,v,hv,h⟩ := returns_bind.mp h
    obtain rfl := returns_modify.mp hv
    split at h
    · simp [returns_bind] at h
    · rename_i hen
      have henabled : video.enabled = true := not_not.mp hen
      obtain ⟨harm,harmed⟩ := armCamera_returns h
      have hcall : StartCall w .camera s (s.asked (.startVideo s.control.config.cameraFps
          (.ok video))) true :=
        startCall_asked rfl rfl (by simp [Event.acknowledged,henabled]) (Or.inl rfl)
      have hset := hcall.confined.trans (confined_flag (r := { s.control.running with
        video := video.enabled }) fun g hg => by cases g <;> first | rfl | exact absurd rfl hg)
      have hconf := harm.confined (f := .camera) (fun g hg => Feed.streams_disjoint hg)
        (K := NoStop)
      refine stage_started hc.1 hc.2 (hset.trans hconf) ?_ harmed ?_ (fun _ hf => by simp at hf)
        (saw_differs_object (by simp))
      · rw [DriverState.flag,harm.control]
        exact henabled
      · exact saw_mono hset.later hcall.acked hconf.later
  · rename_i hc
    obtain ⟨_,rfl⟩ := returns_pure.mp h
    exact stage_guarded hc

theorem startCamera_throws {e : Failure} (h : (startCamera w).Throws s e t) :
    Stage w .camera s t false := by
  replace h := throws_get_bind.mp h
  split at h
  · rename_i hc
    rw [Bool.and_eq_true,Bool.not_eq_true'] at hc
    rcases throws_bind.mp h with h | ⟨video,u,hu,h⟩
    · obtain ⟨_,rfl⟩ := throws_ask.mp h
      have hcall : StartCall w .camera s (s.asked (.startVideo s.control.config.cameraFps
          (.error e))) false := startCall_asked rfl rfl rfl (Or.inl rfl)
      exact stage_refused hc.1 hc.2 hcall.confined hc.2 hcall.acked hcall.called
        (fun _ hf => by simp at hf)
    obtain ⟨_,rfl⟩ := returns_ask.mp hu
    obtain ⟨_,v,hv,h⟩ := (total_modify _).throws_bind.mp h
    obtain rfl := returns_modify.mp hv
    split at h
    · rename_i hen
      have hdisabled : video.enabled = false := by simpa using hen
      have hcall : StartCall w .camera s (s.asked (.startVideo s.control.config.cameraFps
          (.ok video))) false :=
        startCall_asked rfl rfl (by simp [Event.acknowledged,hdisabled]) (Or.inl rfl)
      have hset := hcall.confined.trans (confined_flag (r := { s.control.running with
        video := video.enabled }) fun g hg => by cases g <;> first | rfl | exact absurd rfl hg)
      obtain ⟨_,rfl⟩ := throws_throw_bind.mp h
      exact stage_refused hc.1 hc.2 hset hdisabled hcall.acked hcall.called
        (fun _ hf => by simp at hf)
    · exact absurd h (total_armCamera _ _ _)
  · exact absurd h (by simp)

section Called
variable {lanes : List Stream} {a b : DriverState} {r : Running}

/-- The flag of a feed is set after its start returned. -/
theorem StartCall.stage_started (hcall : StartCall w f a b true) (harm : Rearmed lanes s a)
    (hl : ∀ g, g ≠ f → ∀ lane ∈ g.streams, lane ∉ lanes) (harmed : a.armed f = true)
    (hr : s.control.config.requested.flag f = true) (hs : s.flag f = false)
    (hf : r.flag f = true) (hother : ∀ g, g ≠ f → r.flag g = s.flag g) :
    Stage w f s { b with control := { b.control with running := r } } true := by
  have hpre : Confined (· = f) NoStop s a := harm.confined hl
  have hflag : ∀ g, b.flag g = s.flag g := fun g =>
    (hcall.flag g).trans (congrArg (fun c : Control => c.running.flag g) harm.control)
  have hset : Confined (· = f) NoStop b { b with control := { b.control with running := r } } :=
    confined_flag fun g hg => (hother g hg).trans (hflag g).symm
  have hb := hpre.trans hcall.confined
  refine Driver.stage_started hr hs (hb.trans hset) hf ?_ ?_ ?_ ?_
  · rw [← harmed]
    unfold DriverState.armed
    have hterms : b.control.terms = a.control.terms := hcall.confined.terms
    rw [← hterms,Bool.eq_iff_iff,List.all_eq_true,List.all_eq_true]
    apply forall₂_congr
    intro lane _
    rw [← hcall.silence lane]
    rfl
  · exact saw_mono hb.later ((harm.saw_eq hcall.confined.later _).trans hcall.acked) hset.later
  · intro hw hobject
    rw [← hcall.taken hw rfl hobject]
    rcases hobject with rfl | rfl <;> rfl
  · exact (harm.saw_eq hcall.confined.later _).trans (hcall.accepted rfl)

/-- The flag of a feed stays down after its start threw or was rejected. -/
theorem StartCall.stage_refused (hcall : StartCall w f a b false) (harm : Rearmed lanes s a)
    (hl : ∀ g, g ≠ f → ∀ lane ∈ g.streams, lane ∉ lanes)
    (hr : s.control.config.requested.flag f = true) (hs : s.flag f = false) :
    Stage w f s b false := by
  have hpre : Confined (· = f) NoStop s a := harm.confined hl
  refine Driver.stage_refused hr hs (hpre.trans hcall.confined) ?_ ?_ ?_ ?_
  · rw [hcall.flag,← hs]
    exact congrArg (fun c : Control => c.running.flag f) harm.control
  · exact (harm.saw_eq hcall.confined.later _).trans hcall.acked
  · exact (harm.saw_eq hcall.confined.later _).trans hcall.called
  · intro hw hobject
    rw [harm.saw_eq hcall.confined.later,hcall.refused hw rfl hobject]
    have hactive : a.active f = s.active f := by
      rcases hobject with rfl | rfl <;> simp only [DriverState.active, harm.control]
    rw [hactive]

end Called

theorem rearmed_rover {a b : DriverState}
    (ha : (resetHealth w .roverRtcm 0 0).Returns s () a)
    (hb : (modifyHealth fun h => h.resetCounter .roverRtcm .lostBytes).Returns a () b) :
    Rearmed [.roverRtcm] s b := by
  obtain ⟨harm,_⟩ := resetHealth_returns ha
  obtain rfl := returns_modify.mp hb
  refine ⟨harm.control,⟨harm.linked.journal,harm.linked.session,harm.linked.verified⟩,
    fun lane hl => ?_⟩
  rw [← harm.silence lane hl]
  exact a.health.silence_resetCounter ..

theorem rover_disjoint {g : Feed} (_ : g ≠ .rover) :
    ∀ lane ∈ g.streams, lane ∉ [Stream.roverRtcm] := by
  cases g <;> decide

theorem startRover_returns (h : (startRover w).Returns s () t) : Stage w .rover s t true := by
  replace h := returns_get_bind.mp h
  split at h
  · rename_i hc
    rw [Bool.and_eq_true,Bool.not_eq_true'] at hc
    obtain ⟨_,a,ha,h⟩ := returns_bind.mp h
    obtain ⟨_,b,hb,h⟩ := returns_bind.mp h
    obtain ⟨enabled,u,hu,h⟩ := returns_bind.mp h
    obtain ⟨_,rfl⟩ := returns_ask.mp hu
    obtain ⟨_,v,hv,h⟩ := returns_bind.mp h
    obtain rfl := returns_modify.mp hv
    split at h
    · exact absurd h (by simp)
    · rename_i hen
      have henabled : enabled = true := not_not.mp hen
      obtain ⟨_,rfl⟩ := returns_pure.mp h
      have harm := rearmed_rover ha hb
      have hcall : StartCall w .rover b (b.asked (.startRoverRtcm (.ok enabled))) true :=
        startCall_asked rfl rfl (by simp [Event.acknowledged,henabled]) (Or.inr rfl)
      apply hcall.stage_started (r := { b.control.running with rover := enabled }) harm
        (fun g => rover_disjoint) rfl hc.1 hc.2 henabled
      intro g hg
      rw [harm.control]
      cases g <;> first | rfl | exact absurd rfl hg
  · rename_i hc
    obtain ⟨_,rfl⟩ := returns_pure.mp h
    exact stage_guarded hc

theorem startRover_throws {e : Failure} (h : (startRover w).Throws s e t) :
    Stage w .rover s t false := by
  replace h := throws_get_bind.mp h
  split at h
  · rename_i hc
    rw [Bool.and_eq_true,Bool.not_eq_true'] at hc
    obtain ⟨_,a,ha,h⟩ := total_resetHealth.throws_bind.mp h
    obtain ⟨_,b,hb,h⟩ := (total_modify _).throws_bind.mp h
    have harm := rearmed_rover ha hb
    rcases throws_bind.mp h with h | ⟨enabled,u,hu,h⟩
    · obtain ⟨_,rfl⟩ := throws_ask.mp h
      have hcall : StartCall w .rover b (b.asked (.startRoverRtcm (.error e))) false :=
        startCall_asked rfl rfl rfl (Or.inr rfl)
      exact hcall.stage_refused harm (fun g => rover_disjoint) hc.1 hc.2
    obtain ⟨_,rfl⟩ := returns_ask.mp hu
    obtain ⟨_,v,hv,h⟩ := (total_modify _).throws_bind.mp h
    obtain rfl := returns_modify.mp hv
    split at h
    · rename_i hen
      have hdisabled : enabled = false := by simpa using hen
      obtain ⟨_,rfl⟩ := throws_throw.mp h
      have hcall : StartCall w .rover b (b.asked (.startRoverRtcm (.ok enabled))) false :=
        startCall_asked rfl rfl (by simp [Event.acknowledged,hdisabled]) (Or.inr rfl)
      have hrover : b.control.running.rover = false := by
        rw [harm.control]
        exact hc.2
      have hsame : { b.control.running with rover := enabled } = b.control.running := by
        rw [hdisabled,← hrover]
      simp only [asked_control, hsame]
      exact hcall.stage_refused harm (fun g => rover_disjoint) hc.1 hc.2
    · exact absurd h (by simp)
  · exact absurd h (by simp)

/-- Every requested feed that needs a stream object has one. -/
structure Ensured (s : DriverState) : Prop where
  imu : s.control.config.requested.imu = true → s.control.imuStream.isSome = true
  lidar : s.control.config.requested.lidar = true → s.control.lidarStream.isSome = true

theorem Ensured.confined (h : Ensured s) (hc : Confined A K s t) : Ensured t where
  imu := fun hr => hc.imuStream (h.imu (hc.requested ▸ hr))
  lidar := fun hr => hc.lidarStream (h.lidar (hc.requested ▸ hr))

theorem startBoardImu_returns (h : (startBoardImu w).Returns s () t) :
    Stage w .boardImu s t true := by
  replace h := returns_get_bind.mp h
  split at h
  · rename_i hc
    rw [Bool.and_eq_true,Bool.not_eq_true'] at hc
    split at h
    · simp [returns_bind] at h
    · rename_i hn
      rw [Bool.not_eq_true,Option.isNone_eq_false_iff] at hn
      obtain ⟨_,a,ha,h⟩ := returns_bind.mp h
      obtain ⟨_,b,hb,h⟩ := returns_bind.mp h
      obtain rfl := returns_modify.mp h
      obtain ⟨harm,harmed⟩ := armImu_returns ha
      have hi : a.control.imuStream.isSome = true := by
        rw [harm.control]
        exact hn
      have hcall := imuStreamStart_returns hi hb
      apply hcall.stage_started (r := { b.control.running with imu := true }) harm
        (fun g hg => Feed.streams_disjoint hg) harmed hc.1 hc.2 rfl
      intro g hg
      rw [hcall.running,harm.control]
      cases g <;> first | rfl | exact absurd rfl hg
  · rename_i hc
    obtain ⟨_,rfl⟩ := returns_pure.mp h
    exact stage_guarded hc

theorem startBoardImu_throws (hi : s.control.config.requested.imu = true →
    s.control.imuStream.isSome = true) {e : Failure}
    (h : (startBoardImu w).Throws s e t) : Stage w .boardImu s t false := by
  replace h := throws_get_bind.mp h
  split at h
  · rename_i hc
    rw [Bool.and_eq_true,Bool.not_eq_true'] at hc
    split at h
    · rename_i hn
      rw [← Option.not_isSome,hi hc.1] at hn
      cases hn
    · obtain ⟨_,a,ha,h⟩ := total_armImu.throws_bind.mp h
      obtain ⟨harm,_⟩ := armImu_returns ha
      have ha : a.control.imuStream.isSome = true := by
        rw [harm.control]
        exact hi hc.1
      rcases throws_bind.mp h with h | ⟨_,b,_,h⟩
      · exact (imuStreamStart_throws ha h).stage_refused harm
          (fun g hg => Feed.streams_disjoint hg) hc.1 hc.2
      · exact absurd h throws_modify.mp
  · exact absurd h (by simp)

theorem startLidar_returns (h : (startLidar w).Returns s () t) :
    Stage w .lidar s t true := by
  replace h := returns_get_bind.mp h
  split at h
  · rename_i hc
    rw [Bool.and_eq_true,Bool.not_eq_true'] at hc
    split at h
    · simp [returns_bind] at h
    · rename_i hn
      rw [Bool.not_eq_true,Option.isNone_eq_false_iff] at hn
      obtain ⟨_,a,ha,h⟩ := returns_bind.mp h
      obtain ⟨_,b,hb,h⟩ := returns_bind.mp h
      obtain ⟨_,c,hstart,h⟩ := returns_bind.mp h
      obtain rfl := returns_modify.mp h
      obtain ⟨harm,harmed⟩ := armLidar_returns hb
      have hrearm : Rearmed Feed.lidar.streams s b := (rearmed_accumulate ha).trans harm
      have hl : b.control.lidarStream.isSome = true := by
        rw [hrearm.control]
        exact hn
      have hcall := lidarStreamStart_returns hl hstart
      apply hcall.stage_started (r := { c.control.running with lidar := true }) hrearm
        (fun g hg => Feed.streams_disjoint hg) harmed hc.1 hc.2 rfl
      intro g hg
      rw [hcall.running,hrearm.control]
      cases g <;> first | rfl | exact absurd rfl hg
  · rename_i hc
    obtain ⟨_,rfl⟩ := returns_pure.mp h
    exact stage_guarded hc

theorem startLidar_throws (hi : s.control.config.requested.lidar = true →
    s.control.lidarStream.isSome = true) {e : Failure}
    (h : (startLidar w).Throws s e t) : Stage w .lidar s t false := by
  replace h := throws_get_bind.mp h
  split at h
  · rename_i hc
    rw [Bool.and_eq_true,Bool.not_eq_true'] at hc
    split at h
    · rename_i hn
      rw [← Option.not_isSome,hi hc.1] at hn
      cases hn
    · rcases throws_bind.mp h with h | ⟨_,a,ha,h⟩
      · cases h
      obtain ⟨_,b,hb,h⟩ := total_armLidar.throws_bind.mp h
      obtain ⟨harm,_⟩ := armLidar_returns hb
      have hrearm : Rearmed Feed.lidar.streams s b := (rearmed_accumulate ha).trans harm
      have hl : b.control.lidarStream.isSome = true := by
        rw [hrearm.control]
        exact hi hc.1
      rcases throws_bind.mp h with h | ⟨_,c,_,h⟩
      · exact (lidarStreamStart_throws hl h).stage_refused hrearm
          (fun g hg => Feed.streams_disjoint hg) hc.1 hc.2
      · exact absurd h throws_modify.mp
  · exact absurd h (by simp)

/-- A pass of starts that has gone through the feeds in `D`. -/
structure Resuming (w : World) (D : Feed → Prop) (s t : DriverState) : Prop where
  confined : Confined D NoStop s t
  ensured : Ensured t
  resumed : ∀ f, Resumed w f s t
  started : ∀ f, D f → s.control.config.requested.flag f = true → t.flag f = true

/-- What a whole pass of starts has done; `ok` when it has started everything. -/
structure Resume (w : World) (s t : DriverState) (ok : Bool) : Prop where
  confined : Confined (fun _ => True) NoStop s t
  resumed : ∀ f, Resumed w f s t
  attached : Attached s → Attached t
  started : ok = true → ∀ f, s.control.config.requested.flag f = true → t.flag f = true
  called : ok = false → (∀ f, s.flag f = false) → saw startCalled s t = true
  lidar : ok = false → t.flag .lidar = s.flag .lidar

variable {D : Feed → Prop}

theorem ensureStreamObjects_returns (h : ensureStreamObjects.Returns s () t) :
    Resuming w (fun _ => False) s t := by
  obtain rfl := returns_modify.mp h
  have hc : Confined (fun _ => False) NoStop s { s with control := { s.control with
      imuStream := if s.control.config.enableBoardImu && s.control.imuStream.isNone then some {}
        else s.control.imuStream
      lidarStream := if s.control.config.enableLidar && s.control.lidarStream.isNone then some {}
        else s.control.lidarStream } } := by
    refine confined_silent ⟨rfl,rfl,rfl⟩ rfl ?_ ?_ fun f _ => ⟨rfl,?_,fun _ _ => rfl⟩
    · cases s.control.imuStream <;> simp
    · cases s.control.lidarStream <;> simp
    · cases f with
      | camera => rfl
      | boardImu =>
        cases h : s.control.imuStream <;> cases s.control.config.enableBoardImu <;>
          simp [DriverState.active,isActive,h]
      | lidar =>
        cases h : s.control.lidarStream <;> cases s.control.config.enableLidar <;>
          simp [DriverState.active,isActive,h]
      | rover => rfl
  refine ⟨hc,⟨?_,?_⟩,fun f => resumed_spared hc id,fun _ h => h.elim⟩
  · intro hr
    have hen : s.control.config.enableBoardImu = true := hr
    cases h : s.control.imuStream <;> simp [hen,h]
  · intro hr
    have hen : s.control.config.enableLidar = true := hr
    cases h : s.control.lidarStream <;> simp [hen,h]

theorem Resuming.stage (h : Resuming w D s t) (hst : Stage w f t u true) (hf : ¬ D f) :
    Resuming w (fun g => g = f ∨ D g) s u := by
  have hD : Confined (fun g => g = f ∨ D g) NoStop s t :=
    h.confined.mono (fun _ hg => Or.inr hg) fun _ hk _ => hk
  have hfD : Confined (fun g => g = f ∨ D g) NoStop t u :=
    hst.confined.mono (fun _ hg => Or.inl hg) fun _ hk _ => hk
  refine ⟨hD.trans hfD,h.ensured.confined hst.confined,?_,?_⟩
  · intro g
    by_cases hg : g = f
    · subst hg
      exact hst.resumed.before h.confined hf hst.confined.later
    · exact (h.resumed g).after h.confined.later hst.confined hg
  · intro g hg hr
    by_cases hgf : g = f
    · subst hgf
      exact hst.started rfl (h.confined.requested ▸ hr)
    · rw [hst.confined.flag hgf]
      exact h.started g (hg.resolve_left hgf) hr

theorem Resuming.quiet (h : Resuming w D s t) (hq : Quiet t u) : Resuming w D s u := by
  have hc : Confined D NoStop t u := hq.confined fun _ => Event.isStop_of_feed
  refine ⟨h.confined.trans hc,h.ensured.confined hc,?_,?_⟩
  · exact fun f => (h.resumed f).after h.confined.later hq id
  · intro f hf hr
    rw [hq.flag]
    exact h.started f hf hr

theorem attached_of_resumed (hs : Attached s) (he : Ensured t) (hc : Confined A K s t)
    (hr : ∀ f, Resumed w f s t) : Attached t := by
  have hup : ∀ f, t.flag f = true →
      s.flag f = true ∨ s.control.config.requested.flag f = true := by
    intro f ht
    by_contra hcon
    rw [not_or,Bool.not_eq_true,Bool.not_eq_true] at hcon
    have hflag := ((hr f).held (Or.inr hcon.2)).1.flag
    exact Bool.noConfusion (hcon.1.symm.trans (hflag.symm.trans ht))
  refine ⟨fun hi => ?_,fun hl => ?_⟩
  · rcases hup .boardImu hi with h | h
    · exact hc.imuStream (hs.imu h)
    · exact he.imu (hc.requested ▸ h)
  · rcases hup .lidar hl with h | h
    · exact hc.lidarStream (hs.lidar h)
    · exact he.lidar (hc.requested ▸ h)

theorem Resuming.failed (h : Resuming w D s t) (hst : Stage w f t u false) (hf : ¬ D f)
    (hlidar : ¬ D .lidar) : Resume w s u false := by
  have hc : Confined (fun _ => True) NoStop s u :=
    (h.confined.mono (fun _ _ => trivial) fun _ hk _ => hk).trans
      (hst.confined.mono (fun _ _ => trivial) fun _ hk _ => hk)
  have hresumed : ∀ g, Resumed w g s u := by
    intro g
    by_cases hg : g = f
    · subst hg
      exact hst.resumed.before h.confined hf hst.confined.later
    · exact (h.resumed g).after h.confined.later hst.confined hg
  refine ⟨hc,hresumed,fun hs => ?_,nofun,fun _ _ => ?_,fun _ => ?_⟩
  · exact attached_of_resumed hs (h.ensured.confined hst.confined) hc hresumed
  · rw [saw_trans h.confined.later hst.confined.later,(hst.failed rfl).2.2,Bool.or_true]
  · by_cases hl : f = .lidar
    · subst hl
      rw [(hst.failed rfl).1,← h.confined.flag hlidar]
      by_contra hne
      have hup : t.flag .lidar = true := by simpa using Ne.symm hne
      have hheld := (hst.resumed.held (Or.inl hup)).1.flag
      exact hne ((hst.failed rfl).1.symm.trans hheld)
    · rw [hst.confined.flag (Ne.symm hl),h.confined.flag hlidar]

theorem establishDeviceTimeReference_throws {e : Failure}
    (h : (establishDeviceTimeReference w).Throws s e t) :
    s.control.config.requested.video = true ∨ s.control.config.requested.imu = true := by
  replace h := throws_get_bind.mp h
  split at h
  · exact absurd h (by simp)
  · rename_i hc
    by_contra hcon
    rw [not_or] at hcon
    exact hc (Or.inr hcon)

theorem startConfiguredStreams_returns (h : (startConfiguredStreams w).Returns s () t) :
    Resume w s t true := by
  obtain ⟨_,a,hens,h⟩ := returns_bind.mp h
  obtain ⟨_,b,hcam,h⟩ := returns_bind.mp h
  obtain ⟨_,c,himu,h⟩ := returns_bind.mp h
  obtain ⟨_,d,href,h⟩ := returns_bind.mp h
  obtain ⟨_,e,hrov,hlid⟩ := returns_bind.mp h
  have h0 : Resuming w (fun _ => False) s a := ensureStreamObjects_returns hens
  have h1 := h0.stage (startCamera_returns hcam) id
  have h2 := h1.stage (startBoardImu_returns himu) (by simp)
  have h3 := h2.quiet ((quiet_establishDeviceTimeReference w).returns href)
  have h4 := h3.stage (startRover_returns hrov) (by simp)
  have h5 := h4.stage (startLidar_returns hlid) (by simp)
  have hc : Confined (fun _ => True) NoStop s t :=
    h5.confined.mono (fun _ _ => trivial) fun _ hk _ => hk
  refine ⟨hc,h5.resumed,?_,?_,nofun,nofun⟩
  · exact fun hs => attached_of_resumed hs h5.ensured hc h5.resumed
  · intro _ f hr
    apply h5.started f _ hr
    cases f <;> simp

theorem startConfiguredStreams_throws {err : Failure}
    (h : (startConfiguredStreams w).Throws s err t) : Resume w s t false := by
  obtain ⟨_,a,hens,h⟩ := (total_modify _).throws_bind.mp h
  have h0 : Resuming w (fun _ => False) s a := ensureStreamObjects_returns hens
  rcases throws_bind.mp h with h | ⟨_,b,hcam,h⟩
  · exact h0.failed (startCamera_throws h) id id
  have h1 := h0.stage (startCamera_returns hcam) id
  rcases throws_bind.mp h with h | ⟨_,c,himu,h⟩
  · exact h1.failed (startBoardImu_throws h1.ensured.imu h) (by simp) (by simp)
  have h2 := h1.stage (startBoardImu_returns himu) (by simp)
  rcases throws_bind.mp h with h | ⟨_,d,href,h⟩
  · have h3 := h2.quiet ((quiet_establishDeviceTimeReference w).throws h)
    have hc : Confined (fun _ => True) NoStop s t :=
      h3.confined.mono (fun _ _ => trivial) fun _ hk _ => hk
    refine ⟨hc,h3.resumed,?_,nofun,?_,?_⟩
    · exact fun hs => attached_of_resumed hs h3.ensured hc h3.resumed
    · intro _ hs
      have hacked : ∀ f, f = .boardImu ∨ f = .camera ∨ False →
          s.control.config.requested.flag f = true → saw startCalled s t = true :=
        fun f hf hr => saw_startCalled (((h3.resumed f).acked).mpr ⟨hs f,h3.started f hf hr⟩)
      rcases establishDeviceTimeReference_throws h with hr | hr
      · exact hacked .camera (by simp) (h2.confined.requested ▸ hr)
      · exact hacked .boardImu (by simp) (h2.confined.requested ▸ hr)
    · exact fun _ => h3.confined.flag (by simp)
  have h3 := h2.quiet ((quiet_establishDeviceTimeReference w).returns href)
  rcases throws_bind.mp h with h | ⟨_,e,hrov,h⟩
  · exact h3.failed (startRover_throws h) (by simp) (by simp)
  have h4 := h3.stage (startRover_returns hrov) (by simp)
  exact h4.failed (startLidar_throws h4.ensured.lidar h) (by simp) (by simp)

/-- What a pass of starts does is not affected by what is quiet after it. -/
theorem Resume.then_quiet {ok : Bool} (h : Resume w s t ok) (h' : Quiet t u) :
    Resume w s u ok := by
  have hc : Confined (fun _ => True) NoStop t u := h'.confined fun _ => Event.isStop_of_feed
  refine ⟨h.confined.trans hc,?_,?_,?_,?_,?_⟩
  · exact fun f => (h.resumed f).after h.confined.later h' id
  · exact fun hs => h'.attached (h.attached hs)
  · intro hok f hr
    rw [h'.flag]
    exact h.started hok f hr
  · exact fun hok hs => saw_mono h.confined.later (h.called hok hs) h'.later
  · exact fun hok => (h'.flag .lidar).trans (h.lidar hok)

theorem within_startConfiguredStreams (w : World) :
    Within (Confined (fun _ => True) NoStop) (startConfiguredStreams w) := by
  intro s
  rcases returns_or_throws (startConfiguredStreams w) s with ⟨_,h⟩ | ⟨_,h⟩
  · exact (startConfiguredStreams_returns h).confined
  · exact (startConfiguredStreams_throws h).confined

end Resumed
end PrismRosAdapter.Driver
