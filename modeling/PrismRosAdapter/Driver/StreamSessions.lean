import PrismRosAdapter.Driver.MainLoop
import PrismRosAdapter.Driver.StartedStreams

/-! # The session that a stream is stopped on

A new client is opened only once every feed has been stopped, so whatever is stopped is
stopped on the session that has started it.
-/
namespace PrismRosAdapter.Driver
open Program Switching Runs

/-- What is on has been started on the present session, and whatever was on before has been
stopped on its own; no feed was on when the session changed. -/
structure Tied (w : World) (s : DriverState) : Prop where
  current : ∀ f, Current (word w) Entry.session s.link.session s.link.journal f
  paired : ∀ f, Paired (word w) Entry.session s.link.journal f
  present : ∀ f, Present (word w) Entry.session s.link.session s.link.journal f
  across : ∀ f, OffAcross (word w) Entry.session s.link.journal f

/-- The session stays, and all that happens happens on it. -/
structure SameSession (s t : DriverState) : Prop where
  later : Later s t
  session : t.link.session = s.link.session
  stamped : ∀ e ∈ since s t, e.session = s.link.session

theorem SameSession.refl (s : DriverState) : SameSession s s :=
  ⟨List.prefix_refl _,rfl,by simp [since_self]⟩

theorem SameSession.trans {s t u : DriverState} (h : SameSession s t) (h' : SameSession t u) :
    SameSession s u := by
  refine ⟨h.later.trans h'.later,h'.session.trans h.session,?_⟩
  rw [since_trans h.later h'.later]
  intro e he
  rcases List.mem_append.mp he with he | he
  · exact h.stamped e he
  · exact (h'.stamped e he).trans h.session

instance : Std.Refl SameSession := ⟨SameSession.refl⟩
instance : IsTrans DriverState SameSession := ⟨fun _ _ _ => SameSession.trans⟩

section Session
variable {w : World} {s t : DriverState}

theorem SameSession.tied (h : SameSession s t) (hs : Tied w s) : Tied w t := by
  have hpaired : ∀ f, Paired (word w) Entry.session t.link.journal f ∧
      Current (word w) Entry.session t.link.session t.link.journal f := fun f => by
    rw [journal_later h.later,h.session]
    exact (hs.paired f).append (hs.current f) h.stamped
  have hacross : ∀ f, OffAcross (word w) Entry.session t.link.journal f ∧
      Present (word w) Entry.session t.link.session t.link.journal f := fun f => by
    rw [journal_later h.later,h.session]
    exact (hs.across f).append (hs.present f) h.stamped
  exact ⟨fun f => (hpaired f).2,fun f => (hpaired f).1,fun f => (hacross f).2,
    fun f => (hacross f).1⟩

/-- While every feed is off the session may change. -/
theorem Unspoken.tied {A : Feed → Prop} (h : Unspoken w A s t) (hoff : ∀ f, s.on w f = false)
    (hs : Tied w s) : Tied w t where
  current f := current_of_off ((h.on_eq f).trans (hoff f))
  paired f := by
    rw [journal_later h.later]
    exact (hs.paired f).append_silent fun e he => h.silent e he f
  present f := .inr ((h.on_eq f).trans (hoff f))
  across f := by
    rw [journal_later h.later]
    exact (hs.across f).append_silent (hoff f) fun e he => h.silent e he f

theorem Confined.sameSession {A : Feed → Prop} {K : Event → Prop} (h : Confined A K s t) :
    SameSession s t where
  later := h.later
  session := h.session.1
  stamped e he := (h.stamped e he).1

theorem sameSession_confined {A : Feed → Prop} {K : Event → Prop} {α : Type} {x : Driving α}
    (h : Within (Confined A K) x) : Within SameSession x := h.mono fun _ _ => Confined.sameSession

theorem sameSession_quiet {α : Type} {x : Driving α} (h : Within Quiet x) :
    Within SameSession x := sameSession_confined h

theorem sameSession_modifyControl (g : Control → Control) :
    Within SameSession (modifyControl g) :=
  within_modify fun _ => ⟨List.prefix_refl _,rfl,by simp [since]⟩

theorem sameSession_recorded {α : Type} {event : Except Failure α → Event} {x : Driving α}
    (h : Within SameSession x) : Within SameSession (recorded event x) :=
  within_andThen h fun a s => ⟨later_note s (event a),rfl,by
    rw [since_note]
    exact fun e he => congrArg Entry.session (List.mem_singleton.mp he)⟩

theorem sameSession_ask {α : Type} {event : Except Failure α → Event}
    {reply : ℕ → Except Failure α} : Within SameSession (ask event reply) :=
  sameSession_recorded (sameSession_quiet (within_bind within_nextCall fun _ => within_answer _))

theorem adjusts_sameSession (w : World) : Adjusts w SameSession where
  control _ := sameSession_modifyControl _
  reset _ _ _ := within_bind (sameSession_quiet (within_steadyNowNs w)) fun _ =>
    within_modify fun _ => ⟨List.prefix_refl _,rfl,by simp [since]⟩
  resetCounter := within_modify fun _ => ⟨List.prefix_refl _,rfl,by simp [since]⟩
  disable := within_modify fun _ => ⟨List.prefix_refl _,rfl,by simp [since]⟩
  accumulate x := sameSession_quiet (within_accumulate x)
  call := sameSession_quiet within_nextCall
  ask _ := sameSession_ask
  recorded _ := sameSession_recorded

theorem sameSession_start : Within SameSession (startConfiguredStreams w) :=
  (adjusts_sameSession w).startConfiguredStreams
    (sameSession_quiet (quiet_establishDeviceTimeReference w))

theorem performs_sameSession (w : World) : Performs w SameSession where
  control _ := sameSession_modifyControl _
  fatal _ := sameSession_modifyControl _
  status _ _ := sameSession_quiet (within_publishStatus _ _)
  resolver := sameSession_quiet quiet_resetResolver
  plain _ _ := sameSession_quiet (quiet_consult _ _)
  query _ := sameSession_quiet (quiet_query w _)
  rover enable := within_bind ((adjusts_sameSession w).askRover enable) fun _ =>
    within_bind (sameSession_modifyControl _) fun _ => within_ite (within_throw _) (within_pure ())
  start := sameSession_start
  stop := (adjusts_sameSession w).stopConfiguredStreams

/-! ## A new client -/

structure Orderly (w : World) (s : DriverState) : Prop where
  inStep : InStep w s
  attached : Attached s
  tied : Tied w s

/-- The stream objects are new ones afterwards. -/
theorem unspoken_reopenControlClient :
    Within (Unspoken w fun _ => True) (reopenControlClient w) := by
  have hplain : ∀ {α : Type} (name : String) (reply : ℕ → Except Failure α),
      Within (Unspoken w fun _ => True) (consult name reply) := fun name reply =>
    unspoken_steady (steady_quiet (quiet_consult name reply))
  have hcontrol : ∀ {g : Control → Control}, (∀ c, (g c).running = c.running) →
      Within (Unspoken w fun _ => True) (modifyControl g) := fun hg =>
    within_modify fun s => unspoken_linked ⟨rfl,rfl,rfl⟩
      (fun f => congrArg (Running.flag · f) (hg s.control)) fun f hf => absurd trivial hf
  refine within_bind (hcontrol fun _ => rfl) (fun _ => within_bind (hplain _ _) fun _ => ?_)
  refine within_bind (unspoken_steady steady_openClient) (fun _ => within_bind (hplain _ _) fun _ => ?_)
  refine within_bind (hplain _ _) (fun info => within_bind (hcontrol fun _ => rfl) fun _ => ?_)
  refine within_bind (within_requireSensorBoard info _) (fun _ => ?_)
  exact within_bind (hcontrol fun _ => rfl) fun _ => hcontrol fun _ => rfl

theorem reconnectStreams_tied {status : Driving Unit} {fatalText : Failure → String}
    (hq : Within Quiet status) (h : (reconnectStreams w status fatalText).Leaves s t)
    (hs : Tied w s) (hoff : ∀ f, s.on w f = false) : Tied w t := by
  have hopen := unspoken_reopenControlClient (w := w)
  have hrest : Within SameSession (do startConfiguredStreams w; status) :=
    within_bind sameSession_start fun _ => sameSession_quiet hq
  have hfatal : ∀ text, Within SameSession (setFatal text : Driving Unit) := fun _ =>
    within_bind (sameSession_modifyControl _) fun _ => within_throw _
  rcases leaves_tryCatch.mp h with ⟨_,h⟩ | ⟨e,u,hthrow,h⟩
  · obtain ⟨_,b,hb,h⟩ := returns_bind.mp h
    exact (hrest.returns h).tied ((hopen.returns hb).tied hoff hs)
  · refine ((hfatal _).leaves h).tied ?_
    rcases throws_bind.mp hthrow with hb | ⟨_,b,hb,hthrow⟩
    · exact (hopen.throws hb).tied hoff hs
    · exact (hrest.throws hthrow).tied ((hopen.returns hb).tied hoff hs)

theorem checkTimeSource_host (h : (checkTimeSource w).Returns s () t) : w.rkLocal = false := by
  by_contra hw
  unfold checkTimeSource at h
  rw [if_pos (Bool.not_eq_false _ ▸ hw)] at h
  exact absurd h (by simp)

/-- The pause before a new client is opened leaves no feed on. -/
theorem synchronizeSystemTime_tied (h : (synchronizeSystemTime w).Leaves s t)
    (hs : Orderly w s) : Tied w t := by
  have hperf := performs_sameSession w
  have hquery : Within Quiet (query w .synchronizeSystemTime) := quiet_query w _
  rcases leaves_bind.mp h with ⟨e,h⟩ | ⟨_,a,hcheck,h⟩
  · exact (hperf.checkTimeSource.throws h).tied hs.tied
  obtain ⟨_,b,hstatus,h⟩ := (total_modify _).leaves_bind.mp h
  have hsb : Quiet s b := (quiet_checkTimeSource.returns hcheck).trans
    ((within_publishStatus _ _).returns hstatus)
  have hb : Orderly w b := ⟨(Steady.keeping hsb.steady).inStep hs.inStep,
    Quiet.attached hsb hs.attached,hsb.sameSession.tied hs.tied⟩
  rcases leaves_bind.mp h with ⟨e,h⟩ | ⟨_,c,hpause,h⟩
  · exact ((hperf.pauseStreams (hperf.status _ _) (by simp)).throws h).tied hb.tied
  have hflag : ∀ f, c.flag f = false := (pauseStreams_returns hpause).stopped rfl hb.attached
  have hin : InStep w c := (((upholds_keeping w).pauseStreams
    ((upholds_keeping w).status _ _) (by simp)).returns hpause).inStep hb.inStep
  have hc : Tied w c := ((hperf.pauseStreams (hperf.status _ _) (by simp)).returns hpause).tied hb.tied
  obtain ⟨_,d,hreset,h⟩ := total_resetResolver.leaves_bind.mp h
  have hcd : Quiet c d := quiet_resetResolver.returns hreset
  have hengaged : ∀ f, c.engaged w f = false := fun f => by
    rw [DriverState.engaged,if_neg (by simp [checkTimeSource_host hcheck])]
    exact hflag f
  have hoff : ∀ {u}, Quiet d u → ∀ f, u.on w f = false := fun hu f =>
    (hu.steady.on_eq f).trans ((hcd.steady.on_eq f).trans (hin.off (hengaged f)))
  have htied : ∀ {u}, Quiet d u → Tied w u := fun hu =>
    hu.sameSession.tied (hcd.sameSession.tied hc)
  rcases leaves_bind.mp h with ⟨e,h⟩ | ⟨_,m,hsync,h⟩
  · obtain ⟨e',m,hthrow,h⟩ := throws_tryCatch.mp h
    have hm := hquery.throws hthrow
    rcases throws_bind.mp h with h | ⟨_,n,hrec,h⟩
    · exact reconnectStreams_tied (within_publishStatus _ _) h.leaves (htied hm) (hoff hm)
    · rw [(throws_throw.mp h).2]
      exact reconnectStreams_tied (within_publishStatus _ _) hrec.leaves (htied hm) (hoff hm)
  · have hm : Quiet d m := by
      rcases returns_tryCatch.mp hsync with hsync | ⟨e,u,_,hsync⟩
      · exact hquery.returns hsync
      · obtain ⟨_,_,_,hsync⟩ := returns_bind.mp hsync
        exact absurd hsync (by simp)
    rcases leaves_bind.mp h with ⟨e,h⟩ | ⟨_,n,hrec,h⟩
    · exact reconnectStreams_tied (within_pure ()) h.leaves (htied hm) (hoff hm)
    · exact ((hperf.status _ _).leaves h).tied
        (reconnectStreams_tied (within_pure ()) hrec.leaves (htied hm) (hoff hm))

theorem act_tied (hs : Orderly w s) (action : Action) : Tied w (act w s action) := by
  cases action with
  | control command =>
    by_cases hsync : command = .synchronizeSystemTime
    · subst hsync
      exact synchronizeSystemTime_tied rfl hs
    · exact ((performs_sameSession w).command (fun h => absurd h hsync) s).tied hs.tied
  | receive => exact (Confined.sameSession (quiet_receive s)).tied hs.tied
  | expire => exact (Confined.sameSession (quiet_expire s)).tied hs.tied

/-! ## Passes of the loop -/

def Abiding (w : World) (s t : DriverState) : Prop := Orderly w s → Orderly w t

instance : Std.Refl (Abiding w) := ⟨fun _ => id⟩
instance : IsTrans DriverState (Abiding w) := ⟨fun _ _ _ h h' => h' ∘ h⟩

theorem abiding_of {α : Type} {x : Driving α} (hk : Within (Keeping w) x)
    (ha : Within Attaching x) (hs : Within SameSession x) : Within (Abiding w) x := fun s h =>
  ⟨(hk s).inStep h.inStep,ha s h.attached,(hs s).tied h.tied⟩

theorem abiding_quiet {α : Type} {x : Driving α} (h : Within Quiet x) : Within (Abiding w) x :=
  abiding_of (keeping_quiet h) (attaching_quiet h) (sameSession_quiet h)

theorem abiding_act (s : DriverState) (action : Action) : Abiding w s (act w s action) := fun h =>
  ⟨(keeping_act s action).inStep h.inStep,attaching_act w s action h.attached,act_tied h action⟩

theorem abiding_operate (passes : List Pass) : Within (Abiding w) (operate w passes) := by
  refine within_bind (abiding_quiet quiet_configureLidarNetworkOnStart) (fun _ => ?_)
  refine within_bind (abiding_of keeping_start attaching_start sameSession_start) (fun _ => ?_)
  refine within_bind (abiding_quiet quiet_publishStreamState) (fun _ => ?_)
  exact within_forEach (within_pass abiding_act fun _ _ => abiding_quiet (within_publishStatus _ _)) passes

end Session
end PrismRosAdapter.Driver
