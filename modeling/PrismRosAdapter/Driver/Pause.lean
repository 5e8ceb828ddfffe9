import PrismRosAdapter.Driver.Quiet

/-! # What a pause does

`Stopping` says what a pass of stops has done by the time it returns or throws:
flags only go down, they go down exactly when a stop returned, and the stop that
threw is the last thing that happened.
-/
namespace PrismRosAdapter.Driver
open Program Health

/-! ## One SDK call -/

/-- The state after an SDK call that only leaves its event. -/
def DriverState.asked (s : DriverState) (event : Event) : DriverState :=
  { s with link := { s.link with calls := s.link.calls + 1 } }.note event

section Ask
variable {α : Type} {event : Except Failure α → Event} {reply : ℕ → Except Failure α}
  {s t : DriverState}

theorem returns_nextCall {n : ℕ} : nextCall.Returns s n t ↔
    n = s.link.calls ∧ t = { s with link := { s.link with calls := s.link.calls + 1 } } := by
  simp only [nextCall, modifyLink, returns_bind, returns_get, returns_modify, returns_pure]
  constructor
  · rintro ⟨_,_,⟨rfl,rfl⟩,_,_,rfl,rfl,rfl⟩
    exact ⟨rfl,rfl⟩
  · rintro ⟨rfl,rfl⟩
    exact ⟨_,_,⟨rfl,rfl⟩,⟨⟩,_,rfl,rfl,rfl⟩

theorem throws_nextCall {e : Failure} : ¬ nextCall.Throws s e t := by
  simp [nextCall, modifyLink, throws_bind]

theorem returns_ask {a : α} : (ask event reply).Returns s a t ↔
    reply s.link.calls = .ok a ∧ t = s.asked (event (.ok a)) := by
  simp only [ask, recorded, returns_andThen, returns_bind, returns_nextCall, returns_answer]
  constructor
  · rintro ⟨_,⟨_,_,⟨rfl,rfl⟩,h,rfl⟩,rfl⟩
    exact ⟨h,rfl⟩
  · rintro ⟨h,rfl⟩
    exact ⟨_,⟨_,_,⟨rfl,rfl⟩,h,rfl⟩,rfl⟩

theorem throws_ask {e : Failure} : (ask event reply).Throws s e t ↔
    reply s.link.calls = .error e ∧ t = s.asked (event (.error e)) := by
  simp only [ask, recorded, throws_andThen, throws_bind, returns_nextCall, throws_nextCall,
    throws_answer, false_or]
  constructor
  · rintro ⟨_,⟨_,_,⟨rfl,rfl⟩,h,rfl⟩,rfl⟩
    exact ⟨h,rfl⟩
  · rintro ⟨h,rfl⟩
    exact ⟨_,⟨_,_,⟨rfl,rfl⟩,h,rfl⟩,rfl⟩

end Ask

@[simp] theorem asked_control (s : DriverState) (event : Event) :
    (s.asked event).control = s.control := rfl
theorem since_asked (s : DriverState) (event : Event) : since s (s.asked event) =
    [⟨event,s.control.running,s.link.session,s.link.verified,s.health⟩] := since_note _ event

theorem confined_asked {A : Feed → Prop} {K : Event → Prop} {event : Event} (hK : K event)
    (hA : ∀ f, event.feed = some f → A f) (s : DriverState) : Confined A K s (s.asked event) :=
  have hs : Confined A K s { s with link := { s.link with calls := s.link.calls + 1 } } :=
    confined_health ⟨rfl,rfl,rfl⟩ rfl fun _ _ _ _ => rfl
  hs.trans (confined_note hK hA _)

/-! ## One stop -/

/-- The stop of a stream object that the Agent itself failed. -/
def Event.objectThrew : Event → Option Feed
  | .stopImu (.error _) => some .boardImu
  | .stopLidar (.error _) => some .lidar
  | _ => none

theorem Event.isStop_of_objectThrew {e : Event} {f : Feed} (h : e.objectThrew = some f) :
    e.isStop = true := by
  unfold objectThrew at h
  split at h <;> first | rfl | cases h

def stopReturned (e : Entry) : Bool := e.event.stopReturned
/-- A stop threw while the flags were as `p` says. -/
def stopThrew (p : Running → Bool) (e : Entry) : Bool := e.event.stopThrew && p e.running
def objectThrew (f : Feed) (e : Entry) : Bool := decide (e.event.objectThrew = some f)

abbrev NoStart (e : Event) : Prop := e.isStart = false

/-- A stop call to the feed `f`, before the driver has changed its flag. -/
structure StopCall (w : World) (f : Feed) (s t : DriverState) (ok : Bool) : Prop where
  confined : Confined (· = f) NoStart s t
  running : t.control.running = s.control.running
  silence : ∀ lane, t.silence lane = s.silence lane
  returned : saw stopReturned s t = ok
  threw : ∀ p, saw (stopThrew p) s t = (!ok && p s.control.running)
  object : ∀ g, saw (objectThrew g) s t = true → g = f ∧ ok = false ∧ t.active f = false
  blamed : w.rkLocal = true → ok = false → f = .boardImu ∨ f = .lidar →
    saw (objectThrew f) s t = true
  inactive : w.rkLocal = true → f = .boardImu ∨ f = .lidar → t.active f = false

theorem stopCall_asked {w : World} {f : Feed} {event : Event} {ok : Bool} {s : DriverState}
    (hf : event.feed = some f) (hs : event.isStart = false) (hr : event.stopReturned = ok)
    (ht : event.stopThrew = !ok) (ho : event.objectThrew = none) (hn : f = .camera ∨ f = .rover) :
    StopCall w f s (s.asked event) ok where
  confined := confined_asked hs (fun g hg => Option.some.inj (hg.symm.trans hf)) s
  running := rfl
  silence := fun _ => rfl
  returned := by simp [saw,since_asked,stopReturned,hr]
  threw := fun p => by simp [saw,since_asked,stopThrew,ht]
  object := fun g hg => by simp [saw,since_asked,objectThrew,ho] at hg
  blamed := fun _ _ h => by
    rcases hn with rfl | rfl <;> simp at h
  inactive := fun _ h => by
    rcases hn with rfl | rfl <;> simp at h

/-- The call of a stream object inside its stop, before the driver notes how it
ended. -/
structure ObjectStop (w : World) (f : Feed) (s t : DriverState) (ok : Bool) : Prop where
  confined : Confined (· = f) NoStart s t
  running : t.control.running = s.control.running
  silence : ∀ lane, t.silence lane = s.silence lane
  inner : ∀ e ∈ since s t, e.event.stopReturned = false ∧ e.event.stopThrew = false
  object : ∀ g, saw (objectThrew g) s t = true → g = f ∧ ok = false ∧ t.active f = false
  blamed : w.rkLocal = true → ok = false → saw (objectThrew f) s t = true
  inactive : w.rkLocal = true → t.active f = false

theorem active_note (s : DriverState) (event : Event) (f : Feed) :
    (s.note event).active f = s.active f := by cases f <;> rfl
theorem active_asked (s : DriverState) (event : Event) (f : Feed) :
    (s.asked event).active f = s.active f := by cases f <;> rfl

/-- The event of the stop of the stream object of the feed `f`. -/
structure WrapperStop (f : Feed) (event : Except Failure Unit → Event) : Prop where
  feed : ∀ a, (event a).feed = some f
  isStart : ∀ a, (event a).isStart = false
  returned : ∀ a, (event a).stopReturned = a.toBool
  threw : ∀ a, (event a).stopThrew = !a.toBool
  object : ∀ a, (event a).objectThrew = none

theorem ObjectStop.noted {w : World} {f : Feed} {event : Except Failure Unit → Event}
    {a : Except Failure Unit} {s t : DriverState} (h : ObjectStop w f s t a.toBool)
    (he : WrapperStop f event) : StopCall w f s (t.note (event a)) a.toBool := by
  have hl : Later t (t.note (event a)) := later_note t _
  have hreturned : saw stopReturned s t = false := saw_eq_false.mpr fun e he => (h.inner e he).1
  have hobject : ∀ g, saw (objectThrew g) s (t.note (event a)) = saw (objectThrew g) s t := by
    intro g
    rw [saw_trans h.confined.later hl]
    simp [saw,since_note,objectThrew,he.object]
  refine ⟨?_,h.running,h.silence,?_,?_,?_,?_,?_⟩
  · exact h.confined.trans (confined_note (he.isStart a)
      (fun g hg => Option.some.inj (hg.symm.trans (he.feed a))) t)
  · rw [saw_trans h.confined.later hl,hreturned]
    simp [saw,since_note,stopReturned,he.returned]
  · intro p
    have hthrew : saw (stopThrew p) s t = false :=
      saw_eq_false.mpr fun e he => by simp [stopThrew,(h.inner e he).2]
    rw [saw_trans h.confined.later hl,hthrew]
    simp [saw,since_note,stopThrew,he.threw,h.running]
  · intro g hg
    rw [active_note]
    exact h.object g ((hobject g).symm.trans hg)
  · exact fun hw hok _ => (hobject f).trans (h.blamed hw hok)
  · intro hw _
    rw [active_note]
    exact h.inactive hw

section RkStop
variable {w : World} {f : Feed} {active : Bool} {deactivate : Driving Unit}
  {event : Except Failure Unit → Event} {reply : ℕ → Except Failure Unit} {s t : DriverState}

/-- A silent change of the object of the feed `f`, after which it is inactive. -/
structure Deactivates (f : Feed) (s t : DriverState) : Prop where
  confined : Confined (· = f) NoStart s t
  running : t.control.running = s.control.running
  silence : ∀ lane, t.silence lane = s.silence lane
  silent : since s t = []
  inactive : t.active f = false

theorem Deactivates.called {s t : DriverState} (h : Deactivates f s t) :
    Deactivates f s { t with link := { t.link with calls := t.link.calls + 1 } } where
  confined := h.confined.trans (confined_health ⟨rfl,rfl,rfl⟩ rfl fun _ _ _ _ => rfl)
  running := h.running
  silence := h.silence
  silent := h.silent
  inactive := by
    rw [← h.inactive]
    cases f <;> rfl

theorem Deactivates.objectStop (h : Deactivates f s t) : ObjectStop w f s t true where
  confined := h.confined
  running := h.running
  silence := h.silence
  inner := by simp [h.silent]
  object := fun g hg => by simp [saw,h.silent] at hg
  blamed := fun _ h => by simp at h
  inactive := fun _ => h.inactive

/-- The event of the Agent's own stop of the feed `f`. -/
structure RawStop (f : Feed) (event : Except Failure Unit → Event) : Prop where
  feed : ∀ a, (event a).feed = some f
  isStart : ∀ a, (event a).isStart = false
  returned : ∀ a, (event a).stopReturned = false
  threw : ∀ a, (event a).stopThrew = false
  object : ∀ a g, (event a).objectThrew = some g ↔ g = f ∧ a.toBool = false

theorem Deactivates.asked (h : Deactivates f s t) (he : RawStop f event)
    (answer : Except Failure Unit) :
    ObjectStop w f s (t.asked (event answer)) answer.toBool := by
  have hc : Confined (· = f) NoStart t (t.asked (event answer)) :=
    confined_asked (he.isStart answer)
      (fun g hg => Option.some.inj (hg.symm.trans (he.feed answer))) t
  have hsince : since s (t.asked (event answer)) = since t (t.asked (event answer)) := by
    rw [since_trans h.confined.later hc.later,h.silent,List.nil_append]
  have hobject : ∀ g, saw (objectThrew g) s (t.asked (event answer)) = true ↔
      g = f ∧ answer.toBool = false := by
    intro g
    rw [saw,hsince,since_asked]
    simpa [objectThrew] using he.object answer g
  refine ⟨h.confined.trans hc,h.running,h.silence,?_,?_,?_,?_⟩
  · rw [hsince,since_asked]
    simp [he.returned,he.threw]
  · intro g hg
    obtain ⟨hgf,hok⟩ := (hobject g).mp hg
    exact ⟨hgf,hok,by rw [active_asked]; exact h.inactive⟩
  · exact fun _ hok => (hobject f).mpr ⟨rfl,hok⟩
  · intro _
    rw [active_asked]
    exact h.inactive

theorem rkStop_returns (he : RawStop f event)
    (hd : ∀ u, deactivate.Returns s () u → Deactivates f s u)
    (ha : active = false → s.active f = false)
    (h : (rkStop w active deactivate event reply).Returns s () t) : ObjectStop w f s t true := by
  unfold rkStop at h
  split at h
  · obtain ⟨_,u,hu,h⟩ := returns_bind.mp h
    obtain ⟨n,v,hv,h⟩ := returns_bind.mp h
    obtain ⟨rfl,rfl⟩ := returns_nextCall.mp hv
    have hdu := (hd u hu).called
    split at h
    · obtain ⟨_,rfl⟩ := returns_ask.mp h
      exact hdu.asked he (.ok ())
    · obtain ⟨_,rfl⟩ := returns_pure.mp h
      exact hdu.objectStop
  · rename_i hact
    obtain ⟨_,rfl⟩ := returns_pure.mp h
    have hsilent : Deactivates f t t := ⟨.refl t,rfl,fun _ => rfl,since_self t,ha (by simpa using hact)⟩
    exact hsilent.objectStop

theorem rkStop_throws (he : RawStop f event)
    (hd : ∀ u, deactivate.Returns s () u → Deactivates f s u)
    (hn : ∀ e u, ¬ deactivate.Throws s e u) {e : Failure}
    (h : (rkStop w active deactivate event reply).Throws s e t) : ObjectStop w f s t false := by
  unfold rkStop at h
  split at h
  · rcases throws_bind.mp h with h | ⟨_,u,hu,h⟩
    · exact absurd h (hn e t)
    · rcases throws_bind.mp h with h | ⟨n,v,hv,h⟩
      · exact absurd h throws_nextCall
      · obtain ⟨rfl,rfl⟩ := returns_nextCall.mp hv
        split at h
        · obtain ⟨_,rfl⟩ := throws_ask.mp h
          exact (hd u hu).called.asked he (.error e)
        · exact absurd h (by simp)
  · exact absurd h (by simp)

end RkStop

theorem objectStop_host {w : World} (hw : w.rkLocal = false) (f : Feed) (s : DriverState)
    (ok : Bool) :
    ObjectStop w f s { s with link := { s.link with calls := s.link.calls + 1 } } ok where
  confined := confined_health ⟨rfl,rfl,rfl⟩ rfl fun _ _ _ _ => rfl
  running := rfl
  silence := fun _ => rfl
  inner := by simp [since]
  object := fun g hg => by simp [saw,since] at hg
  blamed := fun h => by simp [hw] at h
  inactive := fun h => by simp [hw] at h

theorem returns_hostCall {reply : ℕ → Except Failure Unit} {s t : DriverState}
    (h : (hostCall reply).Returns s () t) :
    t = { s with link := { s.link with calls := s.link.calls + 1 } } := by
  obtain ⟨n,u,hu,h⟩ := returns_bind.mp h
  obtain ⟨rfl,rfl⟩ := returns_nextCall.mp hu
  exact (returns_answer.mp h).2

theorem throws_hostCall {reply : ℕ → Except Failure Unit} {s t : DriverState} {e : Failure}
    (h : (hostCall reply).Throws s e t) :
    t = { s with link := { s.link with calls := s.link.calls + 1 } } := by
  rcases throws_bind.mp h with h | ⟨n,u,hu,h⟩
  · exact absurd h throws_nextCall
  · obtain ⟨rfl,rfl⟩ := returns_nextCall.mp hu
    exact (throws_answer.mp h).2

theorem rawStop_imu : RawStop .boardImu .stopImu where
  feed := fun _ => rfl
  isStart := fun _ => rfl
  returned := fun _ => rfl
  threw := fun _ => rfl
  object := fun a g => by cases a <;> simp [Event.objectThrew,Except.toBool,eq_comm]

theorem rawStop_lidar : RawStop .lidar .stopLidar where
  feed := fun _ => rfl
  isStart := fun _ => rfl
  returned := fun _ => rfl
  threw := fun _ => rfl
  object := fun a g => by cases a <;> simp [Event.objectThrew,Except.toBool,eq_comm]

theorem confined_setObject {K : Event → Prop} (f : Feed) {s : DriverState} {c : Control}
    (hr : c.running = s.control.running)
    (ht : c.terms = s.control.terms)
    (hi : f ≠ .boardImu → c.imuStream = s.control.imuStream)
    (hl : f ≠ .lidar → c.lidarStream = s.control.lidarStream)
    (hsi : s.control.imuStream.isSome = true → c.imuStream.isSome = true)
    (hsl : s.control.lidarStream.isSome = true → c.lidarStream.isSome = true) :
    Confined (· = f) K s { s with control := c } := by
  refine confined_silent ⟨rfl,rfl,rfl⟩ ht hsi hsl ?_
  intro g hgf
  refine ⟨congrArg (Running.flag · g) hr,?_,fun _ _ => rfl⟩
  cases g with
  | camera => exact congrArg Running.video hr
  | boardImu => exact congrArg isActive (hi (Ne.symm hgf))
  | lidar => exact congrArg isActive (hl (Ne.symm hgf))
  | rover => exact congrArg Running.rover hr

/-- Changing the flag of one feed. -/
theorem confined_flag {K : Event → Prop} {f : Feed} {s : DriverState} {r : Running}
    (hr : ∀ g, g ≠ f → r.flag g = s.flag g) :
    Confined (· = f) K s { s with control := { s.control with running := r } } := by
  refine confined_silent ⟨rfl,rfl,rfl⟩ rfl id id fun g hg => ⟨hr g hg,?_,fun _ _ => rfl⟩
  cases g with
  | camera => exact hr .camera hg
  | boardImu => rfl
  | lidar => rfl
  | rover => exact hr .rover hg

theorem setImuActive_false_returns {s t : DriverState} (h : (setImuActive false).Returns s () t) :
    Deactivates .boardImu s t := by
  obtain rfl := returns_modify.mp h
  refine ⟨?_,rfl,fun _ => rfl,by simp [since],?_⟩
  · exact confined_setObject .boardImu rfl rfl (fun h => absurd rfl h) (fun _ => rfl)
      (by simp) id
  · cases h : s.control.imuStream <;> simp [DriverState.active,isActive,h]

theorem setLidarActive_false_returns {s t : DriverState}
    (h : (setLidarActive false).Returns s () t) : Deactivates .lidar s t := by
  obtain rfl := returns_modify.mp h
  refine ⟨?_,rfl,fun _ => rfl,by simp [since],?_⟩
  · exact confined_setObject .lidar rfl rfl (fun _ => rfl) (fun h => absurd rfl h) id
      (by simp)
  · cases h : s.control.lidarStream <;> simp [DriverState.active,isActive,h]

section StreamStop
variable {w : World} {f : Feed} {event : Except Failure Unit → Event} {stop : Driving Unit}
  {reply : ℕ → Except Failure Unit} {s t : DriverState}

theorem recordedStop_returns (he : WrapperStop f event)
    (hstop : ∀ u, stop.Returns s () u → ObjectStop w f s u true)
    (h : (recorded event (if w.rkLocal then stop else hostCall reply)).Returns s () t) :
    StopCall w f s t true := by
  obtain ⟨u,hu,rfl⟩ := returns_andThen.mp h
  have hobject : ObjectStop w f s u true := by
    split at hu
    · exact hstop u hu
    · rename_i hw
      rw [returns_hostCall hu]
      exact objectStop_host (by simpa using hw) f s true
  exact ObjectStop.noted (a := .ok ()) hobject he

theorem recordedStop_throws (he : WrapperStop f event)
    (hstop : ∀ e u, stop.Throws s e u → ObjectStop w f s u false) {e : Failure}
    (h : (recorded event (if w.rkLocal then stop else hostCall reply)).Throws s e t) :
    StopCall w f s t false := by
  obtain ⟨u,hu,rfl⟩ := throws_andThen.mp h
  have hobject : ObjectStop w f s u false := by
    split at hu
    · exact hstop e u hu
    · rename_i hw
      rw [throws_hostCall hu]
      exact objectStop_host (by simpa using hw) f s false
  exact ObjectStop.noted (a := .error e) hobject he

theorem wrapperStop_imu : WrapperStop .boardImu .imuStop :=
  ⟨fun _ => rfl,fun _ => rfl,fun a => by cases a <;> rfl,fun a => by cases a <;> rfl,fun _ => rfl⟩
theorem wrapperStop_lidar : WrapperStop .lidar .lidarStop :=
  ⟨fun _ => rfl,fun _ => rfl,fun a => by cases a <;> rfl,fun a => by cases a <;> rfl,fun _ => rfl⟩

theorem imuStreamStop_returns (h : (imuStreamStop w).Returns s () t) :
    StopCall w .boardImu s t true := by
  apply recordedStop_returns wrapperStop_imu _ h
  intro u hu
  exact rkStop_returns rawStop_imu (fun _ => setImuActive_false_returns) id (returns_get_bind.mp hu)

theorem imuStreamStop_throws {e : Failure} (h : (imuStreamStop w).Throws s e t) :
    StopCall w .boardImu s t false := by
  apply recordedStop_throws wrapperStop_imu _ h
  intro e u hu
  exact rkStop_throws rawStop_imu (fun _ => setImuActive_false_returns)
    (fun _ _ h => throws_modify.mp h) (throws_get_bind.mp hu)

theorem lidarStreamStop_returns (h : (lidarStreamStop w).Returns s () t) :
    StopCall w .lidar s t true := by
  apply recordedStop_returns wrapperStop_lidar _ h
  intro u hu
  exact rkStop_returns rawStop_lidar (fun _ => setLidarActive_false_returns) id (returns_get_bind.mp hu)

theorem lidarStreamStop_throws {e : Failure} (h : (lidarStreamStop w).Throws s e t) :
    StopCall w .lidar s t false := by
  apply recordedStop_throws wrapperStop_lidar _ h
  intro e u hu
  exact rkStop_throws rawStop_lidar (fun _ => setLidarActive_false_returns)
    (fun _ _ h => throws_modify.mp h) (throws_get_bind.mp hu)

end StreamStop

/-! ## A pass of stops -/

/-- A feed that is flagged as running has its stream object. -/
structure Attached (s : DriverState) : Prop where
  imu : s.control.running.imu = true → s.control.imuStream.isSome = true
  lidar : s.control.running.lidar = true → s.control.lidarStream.isSome = true

/-- Driver and stream objects agree on what is running. -/
def Agree (s : DriverState) : Prop := ∀ f, s.active f = s.flag f

structure Stopping (w : World) (s t : DriverState) (ok : Bool) : Prop where
  confined : Confined (fun _ => True) NoStart s t
  down : ∀ f, t.flag f = true → s.flag f = true
  silence : ∀ f : Feed, ∀ lane ∈ f.streams, t.silence lane = 0 ∨ t.silence lane = s.silence lane
  returned : saw stopReturned s t = true ↔ t.control.running ≠ s.control.running
  threw : ∀ p, saw (stopThrew p) s t = (!ok && p t.control.running)
  clean : ok = true → ∀ f, saw (objectThrew f) s t = false
  thrown : ∀ f, saw (objectThrew f) s t = true → t.flag f = true ∧ t.active f = false
  objects : w.rkLocal = true → ∀ f, s.active f = s.flag f →
    saw (objectThrew f) s t = false → t.active f = t.flag f
  idle : ∀ f, s.flag f = false → t.active f = s.active f

section Stopping
variable {w : World} {s t u : DriverState} {ok : Bool}

theorem Stopping.flag_false (h : Stopping w s t ok) {f : Feed} (hf : s.flag f = false) :
    t.flag f = false :=
  Bool.eq_false_iff.mpr fun ht => absurd ((h.down f ht).symm.trans hf) Bool.noConfusion

theorem Stopping.attached (h : Stopping w s t ok) (hs : Attached s) : Attached t where
  imu := fun hi => h.confined.imuStream (hs.imu (h.down .boardImu hi))
  lidar := fun hl => h.confined.lidarStream (hs.lidar (h.down .lidar hl))

theorem running_eq_of_down (h : ∀ f, t.flag f = true → s.flag f = true)
    (h' : ∀ f, s.flag f = true → t.flag f = true) : t.control.running = s.control.running :=
  Running.ext_flag fun f => Bool.eq_iff_iff.mpr ⟨h f,h' f⟩

theorem Stopping.trans (h : Stopping w s t true) (h' : Stopping w t u ok) :
    Stopping w s u ok := by
  have hsaw : ∀ p, saw p s u = (saw p s t || saw p t u) :=
    fun p => saw_trans h.confined.later h'.confined.later
  refine ⟨h.confined.trans h'.confined,fun f hf => h.down f (h'.down f hf),?_,?_,?_,?_,?_,?_,?_⟩
  · intro f lane hl
    rcases h'.silence f lane hl with hz | he
    · exact Or.inl hz
    · rw [he]
      exact h.silence f lane hl
  · rw [hsaw,Bool.or_eq_true,h.returned,h'.returned]
    constructor
    · rintro hne heq
      have hst : t.control.running = s.control.running := by
        apply running_eq_of_down h.down
        intro f hf
        have hu : u.flag f = true := by rw [DriverState.flag,heq]; exact hf
        exact h'.down f hu
      rcases hne with hne | hne
      · exact hne hst
      · exact hne (heq.trans hst.symm)
    · intro hne
      by_contra hcon
      rw [not_or,not_not,not_not] at hcon
      exact hne (hcon.2.trans hcon.1)
  · intro p
    rw [hsaw,h.threw,h'.threw]
    rfl
  · intro hok f
    rw [hsaw,h.clean rfl,h'.clean hok]
    rfl
  · intro f hf
    rw [hsaw,h.clean rfl,Bool.false_or] at hf
    exact h'.thrown f hf
  · intro hw f hs hf
    rw [hsaw,h.clean rfl,Bool.false_or] at hf
    exact h'.objects hw f (h.objects hw f hs (h.clean rfl f)) hf
  · intro f hf
    rw [h'.idle f (h.flag_false hf),h.idle f hf]

/-- A change that no flag, object or event shows. -/
theorem stopping_silent (hj : Linked s t) (hc : t.control = s.control)
    (hs : ∀ lane, t.silence lane = 0 ∨ t.silence lane = s.silence lane) :
    Stopping w s t true := by
  have hsaw : ∀ p, saw p s t = false := hj.saw_eq
  have hflag : ∀ f, t.flag f = s.flag f := fun f => by unfold DriverState.flag; rw [hc]
  have hactive : ∀ f, t.active f = s.active f := by
    intro f
    cases f <;> simp only [DriverState.active, hc]
  refine ⟨confined_health hj hc fun f hf => absurd trivial hf,?_,fun _ lane _ => hs lane,?_,?_,
    fun _ f => hsaw _,?_,?_,fun f _ => hactive f⟩
  · exact fun f hf => (hflag f).symm.trans hf
  · simp [hsaw,hc]
  · simp [hsaw]
  · simp [hsaw]
  · intro _ f ha _
    rw [hactive,hflag,ha]

theorem active_eq_flag (s : DriverState) {f : Feed} (h : ¬ (f = .boardImu ∨ f = .lidar)) :
    s.active f = s.flag f := by
  cases f with
  | camera => rfl
  | boardImu => exact absurd (Or.inl rfl) h
  | lidar => exact absurd (Or.inr rfl) h
  | rover => rfl

theorem StopCall.failed {f : Feed} (h : StopCall w f s t false) (hf : s.flag f = true) :
    Stopping w s t false := by
  have hflag : ∀ g, t.flag g = s.flag g := fun g => congrArg (Running.flag · g) h.running
  refine ⟨h.confined.mono (fun _ _ => trivial) fun _ hk _ => hk,?_,
    fun _ lane _ => Or.inr (h.silence lane),?_,?_,nofun,?_,?_,?_⟩
  · exact fun g hg => (hflag g).symm.trans hg
  · simp [h.returned,h.running]
  · simp [h.threw,h.running]
  · intro g hg
    obtain ⟨rfl,_,hi⟩ := h.object g hg
    exact ⟨(hflag g).trans hf,hi⟩
  · intro hw g ha hsaw
    by_cases hgf : g = f
    · subst hgf
      by_cases hg : g = .boardImu ∨ g = .lidar
      · exact absurd ((h.blamed hw rfl hg).symm.trans hsaw) Bool.noConfusion
      · exact active_eq_flag t hg
    · rw [(h.confined.spared g hgf).active,hflag,ha]
  · intro g hg
    apply (h.confined.spared g _).active
    rintro rfl
    exact absurd (hg.symm.trans hf) Bool.noConfusion

/-- The flags after a stop returned; the board IMU's stop ends the camera too. -/
theorem StopCall.succeeded {f : Feed} (h : StopCall w f s t true) (hf : s.flag f = true)
    {r : Running} (hr : r.flag f = false)
    (hother : ∀ g, g ≠ f → r.flag g = s.flag g ∨ g = .camera ∧ r.flag g = false) :
    Stopping w s { t with control := { t.control with running := r } } true := by
  let u : DriverState := { t with control := { t.control with running := r } }
  have hsince : since s u = since s t := rfl
  have hsaw : ∀ p, saw p s u = saw p s t := fun p => by unfold saw; rw [hsince]
  have hdown : ∀ g, u.flag g = true → s.flag g = true := by
    intro g hg
    by_cases hgf : g = f
    · rw [hgf]
      exact hf
    · rcases hother g hgf with he | ⟨_,he⟩
      · exact he.symm.trans hg
      · exact absurd (hg.symm.trans he) Bool.noConfusion
  have hclean : ∀ g, saw (objectThrew g) s u = false := by
    intro g
    rw [hsaw,Bool.eq_false_iff]
    exact fun hg => absurd (h.object g hg).2.1 Bool.noConfusion
  have hactive : ∀ g, g ≠ f → g = .boardImu ∨ g = .lidar → u.active g = s.active g := by
    intro g hgf hg
    rw [← (h.confined.spared g hgf).active]
    rcases hg with rfl | rfl <;> rfl
  refine ⟨?_,hdown,fun _ lane _ => Or.inr (h.silence lane),?_,?_,fun _ => hclean,?_,?_,?_⟩
  · exact ⟨h.confined.terms,h.confined.imuStream,h.confined.lidarStream,h.confined.later,
      fun e he => ⟨(h.confined.events e he).1,fun _ _ => trivial⟩,h.confined.session,
      h.confined.stamped,fun g hg => absurd trivial hg⟩
  · rw [hsaw,h.returned]
    refine iff_of_true rfl fun heq => ?_
    have hne : u.flag f = s.flag f := congrArg (Running.flag · f) heq
    rw [hf] at hne
    exact absurd (hne.symm.trans hr) Bool.noConfusion
  · intro p
    rw [hsaw,h.threw]
    rfl
  · intro g hg
    exact absurd ((hclean g).symm.trans hg) Bool.noConfusion
  · intro hw g ha _
    by_cases hg : g = .boardImu ∨ g = .lidar
    · by_cases hgf : g = f
      · subst hgf
        have hsame : u.active g = t.active g := by
          rcases hg with rfl | rfl <;> rfl
        rw [hsame,h.inactive hw hg]
        exact hr.symm
      · rw [hactive g hgf hg,ha]
        rcases hother g hgf with he | ⟨hc,_⟩
        · exact he.symm
        · subst hc
          simp at hg
    · exact active_eq_flag u hg
  · intro g hg
    have hgf : g ≠ f := by
      rintro rfl
      exact absurd (hg.symm.trans hf) Bool.noConfusion
    by_cases hgo : g = .boardImu ∨ g = .lidar
    · exact hactive g hgf hgo
    · rw [active_eq_flag u hgo,active_eq_flag s hgo,hg]
      exact Bool.eq_false_iff.mpr fun hu => absurd ((hdown g hu).symm.trans hg) Bool.noConfusion

theorem Stopping.refl (s : DriverState) : Stopping w s s true :=
  stopping_silent ⟨rfl,rfl,rfl⟩ rfl fun _ => Or.inr rfl

theorem stopRover_returns (h : (stopRover w).Returns s () t) :
    Stopping w s t true ∧ t.flag .rover = false := by
  replace h := returns_get_bind.mp h
  split at h
  · rename_i hf
    obtain ⟨_,u,hu,h⟩ := returns_bind.mp h
    obtain ⟨_,rfl⟩ := returns_ask.mp hu
    obtain rfl := returns_modify.mp h
    refine ⟨StopCall.succeeded (f := .rover) (stopCall_asked rfl rfl rfl rfl rfl (Or.inr rfl)) hf
      rfl ?_,rfl⟩
    intro g hg
    cases g <;> first | exact Or.inl rfl | exact absurd rfl hg
  · rename_i hf
    obtain ⟨_,rfl⟩ := returns_pure.mp h
    exact ⟨.refl t,Bool.eq_false_iff.mpr hf⟩

theorem stopRover_throws {e : Failure} (h : (stopRover w).Throws s e t) :
    Stopping w s t false := by
  replace h := throws_get_bind.mp h
  split at h
  · rename_i hf
    rcases throws_bind.mp h with h | ⟨_,u,_,h⟩
    · obtain ⟨_,rfl⟩ := throws_ask.mp h
      exact StopCall.failed (f := .rover) (stopCall_asked rfl rfl rfl rfl rfl (Or.inr rfl)) hf
    · exact absurd h throws_modify.mp
  · exact absurd h (by simp)

theorem confined_stopRover : Within (Confined (· = .rover) NoStart) (stopRover w) := by
  refine within_bind within_get (fun s => within_ite ?_ (within_pure ()))
  refine within_bind (within_ask (fun _ => rfl) fun _ f hf => (Option.some.inj hf).symm) (fun _ => ?_)
  refine within_modify fun u => confined_flag fun g hg => ?_
  cases g <;> first | rfl | exact absurd rfl hg

theorem confined_stopLidar : Within (Confined (· = .lidar) NoStart) (stopLidar w) := by
  refine within_bind within_get (fun s => within_ite ?_ (within_pure ()))
  refine within_bind ?_ (fun _ => within_bind ?_ fun _ => within_accumulate _)
  · intro u
    rcases returns_or_throws (lidarStreamStop w) u with ⟨_,h⟩ | ⟨_,h⟩
    · exact (lidarStreamStop_returns h).confined
    · exact (lidarStreamStop_throws h).confined
  · refine within_modify fun u => confined_flag fun g hg => ?_
    cases g <;> first | rfl | exact absurd rfl hg

theorem stopLidar_returns (h : (stopLidar w).Returns s () t) :
    Stopping w s t true ∧ (Attached s → t.flag .lidar = false) := by
  replace h := returns_get_bind.mp h
  split at h
  · rename_i hf
    obtain ⟨_,u,hu,h⟩ := returns_bind.mp h
    obtain ⟨_,v,hv,h⟩ := returns_bind.mp h
    obtain rfl := returns_modify.mp hv
    have hstop : Stopping w s { u with control := { u.control with
        running := { u.control.running with lidar := false } } } true := by
      apply (lidarStreamStop_returns hu).succeeded (Bool.and_eq_true _ _ ▸ hf).1 rfl
      intro g hg
      rw [(lidarStreamStop_returns hu).running]
      cases g <;> first | exact Or.inl rfl | exact absurd rfl hg
    obtain rfl := h.state
    exact ⟨hstop.trans (stopping_silent ⟨rfl,rfl,rfl⟩ rfl fun _ => Or.inr rfl),fun _ => rfl⟩
  · rename_i hf
    obtain ⟨_,rfl⟩ := returns_pure.mp h
    refine ⟨.refl t,fun ha => Bool.eq_false_iff.mpr fun hl => hf ?_⟩
    rw [Bool.and_eq_true]
    exact ⟨hl,ha.lidar hl⟩

theorem stopLidar_throws {e : Failure} (h : (stopLidar w).Throws s e t) :
    Stopping w s t false := by
  replace h := throws_get_bind.mp h
  split at h
  · rename_i hf
    rcases throws_bind.mp h with h | ⟨_,u,_,h⟩
    · exact (lidarStreamStop_throws h).failed (Bool.and_eq_true _ _ ▸ hf).1
    · obtain ⟨_,v,_,h⟩ := (total_modify _).throws_bind.mp h
      · cases h
  · exact absurd h (by simp)

theorem stopCapture_returns (h : (stopCapture w).Returns s () t) : Stopping w s t true ∧
    (Attached s → t.flag .boardImu = false) ∧ t.flag .camera = false := by
  replace h := returns_get_bind.mp h
  split at h
  · rename_i hf
    obtain ⟨_,u,hu,h⟩ := returns_bind.mp h
    obtain rfl := returns_modify.mp h
    refine ⟨?_,fun _ => rfl,rfl⟩
    apply (imuStreamStop_returns hu).succeeded (Bool.and_eq_true _ _ ▸ hf).1 rfl
    intro g hg
    rw [(imuStreamStop_returns hu).running]
    cases g <;> first
      | exact Or.inl rfl
      | exact Or.inr ⟨rfl,rfl⟩
      | exact absurd rfl hg
  · rename_i hi
    have himu : Attached s → s.flag .boardImu = false := by
      intro ha
      refine Bool.eq_false_iff.mpr fun hf => hi ?_
      rw [Bool.and_eq_true]
      exact ⟨hf,ha.imu hf⟩
    split at h
    · rename_i hf
      obtain ⟨_,u,hu,h⟩ := returns_bind.mp h
      obtain ⟨_,rfl⟩ := returns_ask.mp hu
      obtain rfl := returns_modify.mp h
      refine ⟨StopCall.succeeded (f := .camera)
        (stopCall_asked rfl rfl rfl rfl rfl (Or.inl rfl)) hf rfl ?_,himu,rfl⟩
      intro g hg
      cases g <;> first | exact Or.inl rfl | exact absurd rfl hg
    · rename_i hf
      obtain ⟨_,rfl⟩ := returns_pure.mp h
      exact ⟨.refl t,himu,Bool.eq_false_iff.mpr hf⟩

theorem stopCapture_throws {e : Failure} (h : (stopCapture w).Throws s e t) :
    Stopping w s t false ∧ t.control.running = s.control.running := by
  replace h := throws_get_bind.mp h
  split at h
  · rename_i hf
    rcases throws_bind.mp h with h | ⟨_,u,_,h⟩
    · exact ⟨(imuStreamStop_throws h).failed (Bool.and_eq_true _ _ ▸ hf).1,
        (imuStreamStop_throws h).running⟩
    · exact absurd h throws_modify.mp
  · split at h
    · rename_i hf
      rcases throws_bind.mp h with h | ⟨_,u,_,h⟩
      · obtain ⟨_,rfl⟩ := throws_ask.mp h
        exact ⟨StopCall.failed (f := .camera)
          (stopCall_asked rfl rfl rfl rfl rfl (Or.inl rfl)) hf,rfl⟩
      · exact absurd h throws_modify.mp
    · exact absurd h (by simp)

theorem silence_foldl_disable (streams : List Stream) (h : SensorDataHealth) (lane : Stream) :
    (streams.foldl SensorDataHealth.disable h).silence lane =
      if lane ∈ streams then 0 else h.silence lane := by
  induction streams generalizing h with
  | nil => rfl
  | cons stream rest ih =>
    rw [List.foldl_cons,ih]
    by_cases hr : lane ∈ rest
    · simp [hr]
    · by_cases hl : lane = stream
      · subst hl
        simp [hr,SensorDataHealth.silence,SensorDataHealth.disable]
      · simp [hr,hl,SensorDataHealth.silence,SensorDataHealth.disable,
          SensorDataHealth.update_other]

theorem disableCaptureHealth_returns (h : disableCaptureHealth.Returns s () t) :
    Stopping w s t true ∧ (∀ f : Feed, ∀ lane ∈ f.streams, t.silence lane = 0) ∧
      t.control.running = s.control.running := by
  obtain rfl := returns_modify.mp h
  refine ⟨?_,?_,rfl⟩
  · refine stopping_silent ⟨rfl,rfl,rfl⟩ rfl fun lane => ?_
    rw [DriverState.silence,silence_foldl_disable]
    split
    · exact Or.inl rfl
    · exact Or.inr rfl
  · intro f lane hl
    have hm : lane ∈ captureStreams := by
      revert lane
      cases f <;> decide
    rw [DriverState.silence,silence_foldl_disable,if_pos hm]

/-- What a pass of stops has done; `ok` when it has stopped everything. -/
structure Pause (w : World) (s t : DriverState) (ok : Bool) : Prop extends Stopping w s t ok where
  disarmed : ∀ f : Feed, ∀ lane ∈ f.streams, t.silence lane = 0
  stopped : ok = true → Attached s → ∀ f, t.flag f = false
  captured : ok = false → ∀ f, f = .camera ∨ f = .boardImu → t.flag f = s.flag f

theorem Stopping.disarmed (h : Stopping w s t ok)
    (hs : ∀ f : Feed, ∀ lane ∈ f.streams, s.silence lane = 0) :
    ∀ f : Feed, ∀ lane ∈ f.streams, t.silence lane = 0 := by
  intro f lane hl
  rcases h.silence f lane hl with hz | he
  · exact hz
  · exact he.trans (hs f lane hl)

theorem stopConfiguredStreams_returns (h : (stopConfiguredStreams w).Returns s () t) :
    Pause w s t true := by
  obtain ⟨_,a,hdis,h⟩ := returns_bind.mp h
  obtain ⟨_,b,hrov,h⟩ := returns_bind.mp h
  obtain ⟨_,c,hlid,hcap⟩ := returns_bind.mp h
  obtain ⟨h1,hz,_⟩ := disableCaptureHealth_returns (w := w) hdis
  obtain ⟨h2,hrover⟩ := stopRover_returns hrov
  obtain ⟨h3,hlidar⟩ := stopLidar_returns hlid
  obtain ⟨h4,himu,hcam⟩ := stopCapture_returns hcap
  refine ⟨((h1.trans h2).trans h3).trans h4,?_,?_,nofun⟩
  · exact ((h2.trans h3).trans h4).disarmed hz
  · intro _ ha f
    have hb : Attached b := h2.attached (h1.attached ha)
    cases f with
    | camera => exact hcam
    | boardImu => exact himu (h3.attached hb)
    | lidar => exact h4.flag_false (hlidar hb)
    | rover => exact (h3.trans h4).flag_false hrover

theorem stopConfiguredStreams_throws {e : Failure}
    (h : (stopConfiguredStreams w).Throws s e t) : Pause w s t false := by
  obtain ⟨_,a,hdis,h⟩ := (total_modify _).throws_bind.mp h
  obtain ⟨h1,hz,hrun⟩ := disableCaptureHealth_returns (w := w) hdis
  have hflag : ∀ f, a.flag f = s.flag f := fun f => congrArg (Running.flag · f) hrun
  have hpause : ∀ {u}, Stopping w a u false →
      (∀ f, f = .camera ∨ f = .boardImu → u.flag f = a.flag f) → Pause w s u false :=
    fun hu hc => ⟨h1.trans hu,hu.disarmed hz,nofun,fun _ f hf => (hc f hf).trans (hflag f)⟩
  rcases throws_bind.mp h with h | ⟨_,b,hrov,h⟩
  · refine hpause (stopRover_throws h) fun f hf => ?_
    exact ((confined_stopRover.throws h).spared f (by rcases hf with rfl | rfl <;> simp)).flag
  obtain ⟨h2,_⟩ := stopRover_returns hrov
  have hb : ∀ f, f = .camera ∨ f = .boardImu → b.flag f = a.flag f := fun f hf =>
    ((confined_stopRover.returns hrov).spared f (by rcases hf with rfl | rfl <;> simp)).flag
  rcases throws_bind.mp h with h | ⟨_,c,hlid,hcap⟩
  · refine hpause (h2.trans (stopLidar_throws h)) fun f hf => ?_
    rw [← hb f hf]
    exact ((confined_stopLidar.throws h).spared f (by rcases hf with rfl | rfl <;> simp)).flag
  obtain ⟨h3,_⟩ := stopLidar_returns hlid
  obtain ⟨h4,hsame⟩ := stopCapture_throws hcap
  refine hpause ((h2.trans h3).trans h4) fun f hf => ?_
  rw [← hb f hf,show t.flag f = c.flag f from congrArg (Running.flag · f) hsame]
  exact ((confined_stopLidar.returns hlid).spared f (by rcases hf with rfl | rfl <;> simp)).flag

theorem Quiet.flag (h : Quiet s t) (f : Feed) : t.flag f = s.flag f := (h.spared f id).flag
theorem Quiet.active (h : Quiet s t) (f : Feed) : t.active f = s.active f := (h.spared f id).active

theorem Quiet.attached (h : Quiet s t) (hs : Attached s) : Attached t where
  imu := fun hi => h.imuStream (hs.imu ((h.flag .boardImu).symm.trans hi))
  lidar := fun hl => h.lidarStream (hs.lidar ((h.flag .lidar).symm.trans hl))

theorem Quiet.saw_eq (h : Quiet s t) {p : Entry → Bool}
    (hp : ∀ e, e.event.feed = none → p e = false) : saw p s t = false :=
  h.saw_false fun e _ hf => hp e (Option.eq_none_iff_forall_ne_some.mpr hf)

/-- An event that stops nothing. -/
theorem not_stop_of_isStop {e : Entry} (hstop : e.event.isStop = false) :
    stopReturned e = false ∧ (∀ p, stopThrew p e = false) ∧ ∀ f, objectThrew f e = false := by
  refine ⟨?_,fun p => ?_,fun f => ?_⟩
  · by_contra hr
    rw [Event.isStop_of_stopReturned (Bool.not_eq_false _ ▸ hr)] at hstop
    cases hstop
  · by_contra ht
    have hthrew : e.event.stopThrew = true := by
      rw [stopThrew,Bool.not_eq_false,Bool.and_eq_true] at ht
      exact ht.1
    rw [Event.isStop_of_stopThrew hthrew] at hstop
    cases hstop
  · refine decide_eq_false fun ho => ?_
    rw [Event.isStop_of_objectThrew ho] at hstop
    cases hstop

/-- What a pass of stops does is not affected by what was quiet before it. -/
theorem Pause.after_quiet (h : Quiet s t) (h' : Pause w t u ok) : Pause w s u ok := by
  have hc : Confined (fun _ => True) NoStart s t := h.confined fun _ => Event.isStart_of_feed
  have hrunning : t.control.running = s.control.running := Running.ext_flag h.flag
  have hsaw : ∀ {p : Entry → Bool}, (∀ e : Entry, e.event.feed = none → p e = false) →
      saw p s u = saw p t u := by
    intro p hp
    rw [saw_trans h.later h'.confined.later,h.saw_eq hp,Bool.false_or]
  refine ⟨⟨hc.trans h'.confined,?_,?_,?_,?_,?_,?_,?_,?_⟩,h'.disarmed,?_,?_⟩
  · exact fun f hf => (h.flag f).symm.trans (h'.down f hf)
  · intro f lane hl
    rw [← (h.spared f id).silence lane hl]
    exact h'.silence f lane hl
  · rw [hsaw fun e he => (not_stop_of_isStop (Event.isStop_of_feed he)).1,h'.returned,hrunning]
  · intro p
    rw [hsaw fun e he => (not_stop_of_isStop (Event.isStop_of_feed he)).2.1 p,h'.threw]
  · intro hok f
    rw [hsaw fun e he => (not_stop_of_isStop (Event.isStop_of_feed he)).2.2 f,h'.clean hok]
  · intro f hf
    rw [hsaw fun e he => (not_stop_of_isStop (Event.isStop_of_feed he)).2.2 f] at hf
    exact h'.thrown f hf
  · intro hw f hs hf
    rw [hsaw fun e he => (not_stop_of_isStop (Event.isStop_of_feed he)).2.2 f] at hf
    exact h'.objects hw f (by rw [h.active,h.flag,hs]) hf
  · intro f hf
    rw [h'.idle f ((h.flag f).trans hf),h.active]
  · exact fun hok hs => h'.stopped hok (h.attached hs)
  · exact fun hok f hf => (h'.captured hok f hf).trans (h.flag f)

theorem within_stopConfiguredStreams (w : World) :
    Within (Confined (fun _ => True) NoStart) (stopConfiguredStreams w) := by
  intro s
  rcases returns_or_throws (stopConfiguredStreams w) s with ⟨_,h⟩ | ⟨_,h⟩
  · exact (stopConfiguredStreams_returns h).confined
  · exact (stopConfiguredStreams_throws h).confined

end Stopping
end PrismRosAdapter.Driver
