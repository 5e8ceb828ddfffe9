import PrismRosAdapter.Driver.StreamSessions

/-! # What a run leaves behind

However a run ends, short of a throw that is no `std::exception`, every feed that has been
started has been asked to stop; the next run of the same driver begins with all of them off.
The exception is what the Agent of an RK-local build has started with other settings.
-/
namespace PrismRosAdapter.Driver
open Program Switching Runs

/-- What is true between two runs of a driver. -/
structure Halted (w : World) (s : DriverState) : Prop where
  stray : ∀ f, s.on w f = true → s.Stray w f
  rover : s.flag .rover = false

/-- Between two runs no feed is on, and each start and stop so far has been in order. -/
structure AtRest (w : World) (s : DriverState) : Prop where
  off : ∀ f, s.on w f = false
  rover : s.flag .rover = false
  alternate : ∀ f, f ≠ .rover → Alternates (word w) s.link.journal f
  paired : ∀ f, Paired (word w) Entry.session s.link.journal f
  across : ∀ f, OffAcross (word w) Entry.session s.link.journal f

theorem atRest_fresh (w : World) (config : DriverConfig) : AtRest w (fresh config) where
  off _ := rfl
  rover := rfl
  alternate _ _ := alternates_nil
  paired _ := paired_nil
  across _ := offAcross_nil

theorem AtRest.halted {w : World} {s : DriverState} (h : AtRest w s) : Halted w s where
  stray f hf := Bool.noConfusion ((h.off f).symm.trans hf)
  rover := h.rover

/-! ## The stops of `cleanup` -/

/-- Nothing that happens switches a feed on, and the flags stay. -/
structure Falling (w : World) (s t : DriverState) : Prop where
  later : Later s t
  falls : ∀ e ∈ since s t, ∀ f, word w e f ≠ some true
  flag : ∀ f, t.flag f = s.flag f

section Cleanup
variable {w : World} {s t u : DriverState} {f : Feed}

theorem Falling.refl (s : DriverState) : Falling w s s :=
  ⟨List.prefix_refl _,by simp [since_self],fun _ => rfl⟩

theorem Falling.trans (h : Falling w s t) (h' : Falling w t u) : Falling w s u := by
  refine ⟨h.later.trans h'.later,?_,fun f => (h'.flag f).trans (h.flag f)⟩
  rw [since_trans h.later h'.later]
  intro e he
  rcases List.mem_append.mp he with he | he
  · exact h.falls e he
  · exact h'.falls e he

instance : Std.Refl (Falling w) := ⟨Falling.refl⟩
instance : IsTrans DriverState (Falling w) := ⟨fun _ _ _ => Falling.trans⟩

theorem Unspoken.falling {A : Feed → Prop} (h : Unspoken w A s t) : Falling w s t where
  later := h.later
  falls e he f hw := Option.some_ne_none true (hw.symm.trans (h.silent e he f))
  flag := h.flag

theorem Falling.kept (h : Falling w s t) (ht : t.on w f = true) : s.on w f = true ∧
    last (word w) t.link.journal f = last (word w) s.link.journal f := by
  unfold DriverState.on at ht ⊢
  rw [journal_later h.later] at ht ⊢
  exact on_append_falling (fun e he => h.falls e he f) ht

theorem Falling.off (h : Falling w s t) (hs : s.on w f = false) : t.on w f = false :=
  Bool.eq_false_iff.mpr fun ht => Bool.noConfusion (hs.symm.trans (h.kept ht).1)

theorem Falling.alternates (h : Falling w s t) (hs : Alternates (word w) s.link.journal f) :
    Alternates (word w) t.link.journal f := by
  rw [journal_later h.later]
  exact hs.append_falling fun e he => h.falls e he f

theorem falling_note {event : Event} (h : ∀ f, event.word w f ≠ some true) (s : DriverState) :
    Falling w s (s.note event) where
  later := later_note s event
  falls := by
    rw [since_note]
    intro e he f
    obtain rfl := List.mem_singleton.mp he
    exact h f
  flag _ := rfl

section
variable {α : Type} {A : Feed → Prop} {event : Except Failure α → Event} {x : Driving α}

theorem falling_recorded (hx : Within (Unspoken w A) x)
    (he : ∀ a f, (event a).word w f ≠ some true) : Within (Falling w) (recorded event x) :=
  within_andThen (hx.mono fun _ _ => Unspoken.falling) fun a s => falling_note (he a) s

theorem off_recorded (he : Quietens w event f) (h : (recorded event x).Leaves s t) :
    t.on w f = false := by
  rw [← h]
  exact on_snoc.trans (congrArg (Option.getD · _) (he.off _))

end

theorem total_quietly (x : Driving Unit) : (quietly x).Total := by
  intro s e t h
  obtain ⟨_,_,_,h⟩ := throws_tryCatch.mp h
  exact throws_pure.mp h

theorem leaves_quietly {x : Driving Unit} : (quietly x).Leaves s t ↔ x.Leaves s t := by
  rw [quietly,leaves_tryCatch,leaves_iff,or_comm]
  refine or_congr ⟨?_,fun ⟨e,h⟩ => ⟨e,t,h,rfl⟩⟩ Iff.rfl
  rintro ⟨e,v,h,hv⟩
  obtain rfl := leaves_pure.mp hv
  exact ⟨e,h⟩

/-- One stop of `cleanup`: it switches off nothing but what it is about, and that where the
flags say that it is running. -/
theorem quietly_stop {c : Bool} {α : Type} {A : Feed → Prop} {event : Except Failure α → Event}
    {x : Driving α} {y : Driving Unit} (hx : Within (Unspoken w A) x) (he : Quietens w event f)
    (hy : ∀ s t, y.Leaves s t → (recorded event x).Leaves s t)
    (h : (quietly (whenever c y)).Returns s () t) :
    Falling w s t ∧ (c = true → t.on w f = false) := by
  have hl : (whenever c y).Leaves s t := leaves_quietly.mp h.leaves
  cases c with
  | false =>
    rw [leaves_pure.mp hl]
    exact ⟨.refl s,Bool.noConfusion⟩
  | true =>
    have hr := hy s t hl
    exact ⟨(falling_recorded hx he.falls).leaves hr,fun _ => off_recorded he hr⟩

/-- What is flagged is switched off, and nothing is switched on. -/
structure Swept (w : World) (s t : DriverState) : Prop where
  off : ∀ f, s.flag f = true → t.on w f = false
  kept : ∀ f, t.on w f = true → s.on w f = true ∧
    last (word w) t.link.journal f = last (word w) s.link.journal f
  alternates : ∀ f, Alternates (word w) s.link.journal f → Alternates (word w) t.link.journal f
  rover : t.flag .rover = false

theorem cleanup_sweeps (ha : Attached s) (h : (cleanup w).Leaves s t) : Swept w s t := by
  replace h := leaves_get_bind.mp h
  obtain ⟨_,a,hrover,h⟩ := (total_quietly _).leaves_bind.mp h
  obtain ⟨_,b,hflag,h⟩ := (total_modify _).leaves_bind.mp h
  obtain ⟨_,c,hlidar,h⟩ := (total_quietly _).leaves_bind.mp h
  obtain ⟨_,d,himu,h⟩ := (total_quietly _).leaves_bind.mp h
  obtain ⟨_,e,hvideo,hclose⟩ := (total_quietly _).leaves_bind.mp h
  obtain ⟨hsa,hoffRover⟩ := quietly_stop (steady_call w.stopRoverRtcm) quietens_rover
    (fun u v hl => by
      rcases leaves_bind.mp hl with ⟨_,hl⟩ | ⟨_,m,hl,hp⟩
      · exact hl.leaves
      · rw [leaves_pure.mp hp]
        exact hl.leaves) hrover
  obtain ⟨hbc,hoffLidar⟩ := quietly_stop unspoken_lidarStop quietens_lidar (fun _ _ => id) hlidar
  obtain ⟨hcd,hoffImu⟩ := quietly_stop unspoken_imuStop quietens_imu (fun _ _ => id) himu
  obtain ⟨hde,hoffVideo⟩ := quietly_stop (steady_call w.stopVideo) quietens_video (fun _ _ => id) hvideo
  have het : Falling w e t :=
    (steady_quiet (quiet_consult _ _) |>.leaves (leaves_quietly.mp hclose)).falling
  have hbt : Falling w b t := ((hbc.trans hcd).trans hde).trans het
  obtain rfl := returns_modify.mp hflag
  refine ⟨fun f hf => ?_,fun f hf => ?_,fun f hf => hbt.alternates (hsa.alternates hf),
    hbt.flag .rover⟩
  · cases f with
    | rover => exact hbt.off (hoffRover hf)
    | lidar =>
      exact ((hcd.trans hde).trans het).off (hoffLidar (Bool.and_eq_true_iff.mpr ⟨hf,ha.lidar hf⟩))
    | boardImu => exact (hde.trans het).off (hoffImu (Bool.and_eq_true_iff.mpr ⟨hf,ha.imu hf⟩))
    | camera => exact het.off (hoffVideo hf)
  · obtain ⟨hb,hlast⟩ := hbt.kept hf
    obtain ⟨hs,hlast'⟩ := hsa.kept hb
    exact ⟨hs,hlast.trans hlast'⟩

theorem Swept.halted (h : Swept w s t) (hs : Covered w s) : Halted w t where
  rover := h.rover
  stray f hf := by
    obtain ⟨hon,hlast⟩ := h.kept f hf
    rcases hs f hon with hflag | hstray
    · exact Bool.noConfusion ((h.off f hflag).symm.trans hf)
    · rw [DriverState.Stray,hlast]
      exact hstray

theorem sameSession_cleanup : Within SameSession (cleanup w) :=
  (adjusts_sameSession w).cleanup sameSession_ask

theorem total_cleanup : (cleanup w).Total :=
  total_bind total_get fun _ => total_bind (total_quietly _) fun _ =>
    total_bind (total_modify _) fun _ => total_bind (total_quietly _) fun _ =>
      total_bind (total_quietly _) fun _ => total_bind (total_quietly _) fun _ => total_quietly _

end Cleanup

/-! ## The ways a run ends -/

/-- How a run from `s` ends, and in which state. -/
inductive Ending (w : World) (passes : List Pass) (s : DriverState) :
    Except Failure Unit → DriverState → Prop where
  | refused {e a} (prepare : (prepareRun w).Throws s e a) : Ending w passes s (.error e) a
  | foreign {a b} (prepare : (prepareRun w).Returns s () a)
      (operate : (operate w passes).Throws a .foreign b) : Ending w passes s (.error .foreign) b
  | failed {a e b c} (prepare : (prepareRun w).Returns s () a)
      (operate : (operate w passes).Throws a e b) (std : e ≠ .foreign)
      (cleanup : (cleanup w).Leaves (publishStatus "failed" e.exceptionText b).2 c) :
      Ending w passes s (.error e) c
  | stopped {a b c} (prepare : (prepareRun w).Returns s () a)
      (operate : (operate w passes).Returns a () b) (cleanup : (cleanup w).Leaves b c) :
      Ending w passes s (.ok ()) (publishStatus "stopped" "" c).2

section Ends
variable {w : World} {passes : List Pass} {s t : DriverState}

theorem returns_cleanup (s : DriverState) : (cleanup w).Returns s () (cleanup w s).2 := by
  rcases returns_or_throws (cleanup w) s with ⟨_,h⟩ | ⟨e,h⟩
  · exact h
  · exact absurd h (total_cleanup s e _)

theorem failRun_foreign (s : DriverState) : (failRun w .foreign).Throws s .foreign s := rfl

theorem failRun_std {e : Failure} (he : e ≠ .foreign) (s : DriverState) :
    (failRun w e).Throws s e (cleanup w (publishStatus "failed" e.exceptionText s).2).2 := by
  unfold failRun
  rw [if_neg he]
  exact throws_bind.mpr (.inr ⟨(),_,rfl,throws_bind.mpr
    (.inr ⟨(),_,returns_cleanup _,throws_throw.mpr ⟨rfl,rfl⟩⟩)⟩)

theorem runDriver_ends (w : World) (passes : List Pass) (s : DriverState) :
    Ending w passes s (runDriver w passes s).1 (runDriver w passes s).2 := by
  unfold runDriver
  rcases returns_or_throws (prepareRun w) s with ⟨_,hprepare⟩ | ⟨e,hprepare⟩
  · rw [bind_of_returns hprepare]
    rcases returns_or_throws (operate w passes) (prepareRun w s).2 with ⟨_,hop⟩ | ⟨e,hop⟩
    · have hbody : (tryCatch (operate w passes) (failRun w)).Returns _ () _ :=
        returns_tryCatch.mpr (.inl hop)
      rw [bind_of_returns hbody,bind_of_returns (returns_cleanup _)]
      exact .stopped hprepare hop rfl
    · by_cases he : e = .foreign
      · subst he
        have hbody : (tryCatch (operate w passes) (failRun w)).Throws _ .foreign _ :=
          throws_tryCatch.mpr ⟨_,_,hop,failRun_foreign _⟩
        rw [bind_of_throws hbody]
        exact .foreign hprepare hop
      · have hbody : (tryCatch (operate w passes) (failRun w)).Throws _ e _ :=
          throws_tryCatch.mpr ⟨_,_,hop,failRun_std he _⟩
        rw [bind_of_throws hbody]
        exact .failed hprepare hop he rfl
  · rw [bind_of_throws hprepare]
    exact .refused hprepare

/-! ## Before the loop and in it -/

theorem resetRun_flag (s : DriverState) (h : s.flag .rover = false) (f : Feed) :
    (resetRun s).2.flag f = false := by
  cases f <;> first | rfl | exact h

/-- What `prepareRun` does once the last run is forgotten. -/
theorem prepareRun_calm (w : World) : ∃ x : Driving Unit, Within Calm x ∧ Within (Steady w) x ∧
    prepareRun w = (do
      resetRun
      x) := by
  have hcontrol : ∀ {g : Control → Control}, (∀ c, (g c).running = c.running) →
      (∀ c, (g c).config = c.config) → (∀ c, (g c).imuStream = c.imuStream) →
      (∀ c, (g c).lidarStream = c.lidarStream) → Within Calm (modifyControl g) :=
    fun hr hc hi hl => calm_of_reopened (reopened_modifyControl hr hc
      (fun c h => by rw [hi c]; exact h) fun c h => by rw [hl c]; exact h)
  refine ⟨_,?_,?_,rfl⟩
  · refine within_bind (calm_of_reopened reopened_openClient) (fun _ => ?_)
    refine within_bind (calm_of_quiet (quiet_consult _ _)) (fun _ => ?_)
    refine within_bind (calm_of_quiet (quiet_consult _ _)) (fun info => ?_)
    refine within_bind (calm_verifyIdentity info) (fun _ => ?_)
    refine within_bind (hcontrol (fun _ => rfl) (fun _ => rfl) (fun _ => rfl) fun _ => rfl)
      (fun _ => ?_)
    refine within_bind (within_requireSensorBoard info _) (fun _ => ?_)
    refine within_bind (hcontrol (fun _ => rfl) (fun _ => rfl) (fun _ => rfl) fun _ => rfl)
      (fun _ => ?_)
    refine within_bind (hcontrol (fun _ => rfl) (fun _ => rfl) (fun _ => rfl) fun _ => rfl)
      (fun _ => ?_)
    exact within_bind (calm_of_quiet quiet_ensureStreamObjects) fun _ =>
      calm_of_quiet (within_publishStatus _ _)
  · have hplain : ∀ {α : Type} (name : String) (reply : ℕ → Except Failure α),
        Within (Steady w) (consult name reply) := fun _ _ => steady_quiet (quiet_consult _ _)
    refine within_bind steady_openClient (fun _ => within_bind (hplain _ _) fun _ => ?_)
    refine within_bind (hplain _ _) (fun info => within_bind (steady_verifyIdentity info) fun _ => ?_)
    refine within_bind (steady_modifyControl (fun _ => rfl) fun _ => ⟨rfl,rfl⟩) (fun _ => ?_)
    refine within_bind (within_requireSensorBoard info _) (fun _ => ?_)
    refine within_bind (steady_modifyControl (fun _ => rfl) fun _ => ⟨rfl,rfl⟩) (fun _ => ?_)
    refine within_bind (steady_modifyControl (fun _ => rfl) fun _ => ⟨rfl,rfl⟩) (fun _ => ?_)
    exact within_bind steady_ensureStreamObjects fun _ => steady_quiet (within_publishStatus _ _)

/-- Nothing runs when the loop is about to begin. -/
theorem prepareRun_leaves (hs : s.flag .rover = false) (h : (prepareRun w).Leaves s t) :
    Steady w (resetRun s).2 t ∧ ∀ f, t.flag f = false := by
  obtain ⟨x,hcalm,hsteady,he⟩ := prepareRun_calm w
  have hreset : resetRun.Returns s () (resetRun s).2 := rfl
  rw [he,Leaves,bind_of_returns hreset] at h
  exact ⟨hsteady.leaves h,(hcalm.leaves h).off (resetRun_flag s hs)⟩

/-! ## Whole runs -/

theorem attaching_operate (passes : List Pass) : Within Attaching (operate w passes) := by
  refine within_bind (attaching_quiet quiet_configureLidarNetworkOnStart) (fun _ => ?_)
  refine within_bind attaching_start (fun _ => ?_)
  refine within_bind (attaching_quiet quiet_publishStreamState) (fun _ => ?_)
  exact within_forEach (within_pass (attaching_act w) fun _ _ => attaching_quiet (within_publishStatus _ _))
    passes

theorem keeping_operate (passes : List Pass) : Within (Keeping w) (operate w passes) := by
  refine within_bind (keeping_quiet quiet_configureLidarNetworkOnStart) (fun _ => ?_)
  refine within_bind keeping_start (fun _ => ?_)
  refine within_bind (keeping_quiet quiet_publishStreamState) (fun _ => ?_)
  exact within_forEach (within_pass keeping_act fun _ _ => keeping_quiet (within_publishStatus _ _)) passes

/-- From the last run on, what is on without a flag is stray. -/
theorem prepareRun_covered (hs : Halted w s) (h : (prepareRun w).Leaves s t) :
    Halted w t ∧ Attached t := by
  obtain ⟨hsteady,hflag⟩ := prepareRun_leaves hs.rover h
  refine ⟨⟨fun f hf => ?_,hflag .rover⟩,attached_of_off hflag⟩
  rw [DriverState.Stray,hsteady.last_eq]
  exact hs.stray f (hsteady.on_eq f ▸ hf)

theorem Halted.covered (h : Halted w s) : Covered w s := fun f hf => .inr (h.stray f hf)

theorem prepareRun_orderly (hs : AtRest w s) (h : (prepareRun w).Leaves s t) : Orderly w t := by
  obtain ⟨hsteady,hflag⟩ := prepareRun_leaves hs.rover h
  have hoff : ∀ f, (resetRun s).2.on w f = false := hs.off
  refine ⟨⟨fun f hf => ?_,fun f hf => hsteady.alternates (hs.alternate f hf)⟩,
    attached_of_off hflag,hsteady.tied hoff ?_⟩
  · exact Bool.noConfusion (((hsteady.on_eq f).trans (hoff f)).symm.trans hf)
  · exact ⟨fun f => current_of_off (hs.off f),hs.paired,fun f => .inr (hs.off f),hs.across⟩

/-- A run that does not end with a throw that is no `std::exception` leaves every feed off,
whatever else it ends with, short of a stray one. -/
theorem runDriver_halts (hs : Halted w s) (hne : (runDriver w passes s).1 ≠ .error .foreign) :
    Halted w (runDriver w passes s).2 := by
  have hend := runDriver_ends w passes s
  revert hne hend
  generalize (runDriver w passes s).1 = r
  generalize (runDriver w passes s).2 = u
  intro hne hend
  cases hend with
  | refused prepare => exact (prepareRun_covered hs prepare.leaves).1
  | foreign => exact absurd rfl hne
  | @failed a e b c prepare operate std cleanup =>
    obtain ⟨ha,hattached⟩ := prepareRun_covered hs prepare.leaves
    have hstatus : Quiet b (publishStatus "failed" e.exceptionText b).2 := within_publishStatus _ _ b
    have hb := ((keeping_operate passes).throws operate).covered ha.covered
    have hattachedb := (attaching_operate passes).throws operate hattached
    exact (cleanup_sweeps (Quiet.attached hstatus hattachedb) cleanup).halted
      (hstatus.steady.covered hb)
  | @stopped a b c prepare operate cleanup =>
    obtain ⟨ha,hattached⟩ := prepareRun_covered hs prepare.leaves
    have hb := ((keeping_operate passes).returns operate).covered ha.covered
    have hattachedb := (attaching_operate passes).returns operate hattached
    have hc := (cleanup_sweeps hattachedb cleanup).halted hb
    exact ⟨hc.stray,hc.rover⟩

/-- What the starts and stops of a run have been like. -/
structure Ordered (w : World) (s : DriverState) : Prop where
  alternate : ∀ f, f ≠ .rover → Alternates (word w) s.link.journal f
  paired : ∀ f, Paired (word w) Entry.session s.link.journal f
  across : ∀ f, OffAcross (word w) Entry.session s.link.journal f

theorem Orderly.ordered (h : Orderly w s) : Ordered w s :=
  ⟨h.inStep.alternate,h.tied.paired,h.tied.across⟩

theorem cleanup_ordered (hs : Orderly w s) (h : (cleanup w).Leaves s t) : Ordered w t := by
  have htied := (sameSession_cleanup.leaves h).tied hs.tied
  exact ⟨fun f hf => (cleanup_sweeps hs.attached h).alternates f (hs.inStep.alternate f hf),
    htied.paired,htied.across⟩

/-- On every way out of a run, no feed but rover RTCM has been started while it was on, and
each has been stopped on the session it was started on. -/
theorem runDriver_ordered (hs : AtRest w s) : Ordered w (runDriver w passes s).2 := by
  have hend := runDriver_ends w passes s
  revert hend
  generalize (runDriver w passes s).1 = r
  generalize (runDriver w passes s).2 = u
  intro hend
  cases hend with
  | refused prepare => exact (prepareRun_orderly hs prepare.leaves).ordered
  | foreign prepare operate =>
    exact ((abiding_operate passes).throws operate (prepareRun_orderly hs prepare.leaves)).ordered
  | failed prepare operate std cleanup =>
    exact cleanup_ordered (abiding_quiet (within_publishStatus _ _) _
      ((abiding_operate passes).throws operate (prepareRun_orderly hs prepare.leaves))) cleanup
  | stopped prepare operate cleanup =>
    have hc := cleanup_ordered
      ((abiding_operate passes).returns operate (prepareRun_orderly hs prepare.leaves)) cleanup
    exact ⟨hc.alternate,hc.paired,hc.across⟩

/-- An acknowledged start of the camera, the board IMU or the LiDAR is never sent to a feed
that is still on. -/
theorem capture_starts_alternate (w : World) (passes : List Pass) (hs : AtRest w s) :
    ∀ f ∈ [Feed.camera, .boardImu, .lidar],
      Alternates (word w) (runDriver w passes s).2.link.journal f := by
  intro f hf
  exact (runDriver_ordered hs).alternate f (by rintro rfl; simp at hf)

theorem capture_starts_alternate_camera : Alternates (word {})
    (runDriver {} [{ frames := 1 }, { frames := 1 }] (fresh {})).2.link.journal .camera :=
  capture_starts_alternate _ _ (atRest_fresh _ _) _ (by decide)

/-- Whatever is stopped while it is on is stopped on the session that has started it, and no
feed is on where one session follows another. -/
theorem stops_on_own_session (w : World) (passes : List Pass) (hs : AtRest w s) (f : Feed) :
    Paired (word w) Entry.session (runDriver w passes s).2.link.journal f ∧
      OffAcross (word w) Entry.session (runDriver w passes s).2.link.journal f :=
  ⟨(runDriver_ordered hs).paired f,(runDriver_ordered hs).across f⟩

/-- The streams of the first session are stopped before the second one is opened. -/
theorem stops_on_own_session_synchronized :
    Paired (word {}) Entry.session (runDriver {} [{ commands := [.synchronizeSystemTime] }]
      (fresh {})).2.link.journal .camera ∧
    OffAcross (word {}) Entry.session (runDriver {} [{ commands := [.synchronizeSystemTime] }]
      (fresh {})).2.link.journal .camera :=
  stops_on_own_session _ _ (atRest_fresh _ _) _

/-- A run that leaves nothing on leaves the driver at rest. -/
theorem runDriver_rests (hs : AtRest w s) (hne : (runDriver w passes s).1 ≠ .error .foreign)
    (hstray : ∀ f, ¬ (runDriver w passes s).2.Stray w f) : AtRest w (runDriver w passes s).2 :=
  have hhalted := runDriver_halts hs.halted hne
  have hordered := runDriver_ordered hs
  ⟨fun f => Bool.eq_false_iff.mpr fun hf => hstray f (hhalted.stray f hf),hhalted.rover,
    hordered.alternate,hordered.paired,hordered.across⟩

/-- The next run of the same driver. -/
def runAgain (w : World) (s : DriverState) (passes : List Pass) : DriverState :=
  (runDriver w passes s).2

/-- The cameras are started once and cannot be stopped. -/
def camerasStartOnce : World where
  startVideo := fun call => if call < 9 then .ok ⟨true,30⟩ else .error (.sdk "device busy")
  stopVideo := fun _ => .error (.sdk "device busy")

/-- The RK-local Agent starts the board IMU with other settings: the run fails, and nothing
asks the Agent to stop it again. -/
example : (runDriver { rkLocal := true, startImu := fun _ => .ok ⟨1,100⟩ } []
    (fresh { enableCamera := false, imuRateHz := 200 })).2.on { rkLocal := true } .boardImu =
      true := by decide +kernel

/-! ## What a run says of its end -/

/-- The client has been closed and has not been called since. -/
def Closed (s : DriverState) : Prop :=
  ∃ e answer, s.link.journal.getLast? = some e ∧ e.event = .requested (.plain "close") answer

/-- The state and the error of the last status. -/
def lastStatus (s : DriverState) : Option (String × String) :=
  s.link.statuses.getLast?.map fun status => (status.state,status.error)

/-- How a run from `s` has ended with `r` in `t`. It is refused before it has published
anything or started a stream; what throws later, be it the first start, is reported. -/
def Reports (w : World) (passes : List Pass) (s t : DriverState) (r : Except Failure Unit) :
    Prop :=
  match (prepareRun w s).1 with
  | .error e => r = .error e ∧ t = (prepareRun w s).2 ∧ t.link.statuses = s.link.statuses ∧
      ∀ entry ∈ since s t, entry.event.isStart = false
  | .ok _ =>
    let a := (prepareRun w s).2
    lastStatus a = some ("starting","") ∧ (∀ entry ∈ since s a, entry.event.isStart = false) ∧
      match (operate w passes a).1 with
      | .ok _ => r = .ok () ∧ Closed t ∧ lastStatus t = some ("stopped","")
      | .error .foreign => r = .error .foreign ∧ t = (operate w passes a).2
      | .error e => r = .error e ∧ Closed t ∧ lastStatus t = some ("failed",e.exceptionText)

/-- No status is published. -/
def Unreported (s t : DriverState) : Prop := t.link.statuses = s.link.statuses

instance : Std.Refl Unreported := ⟨fun _ => rfl⟩
instance : IsTrans DriverState Unreported := ⟨fun _ _ _ h h' => h'.trans h⟩

theorem unreported_ask {α : Type} {event : Except Failure α → Event}
    {reply : ℕ → Except Failure α} : Within Unreported (ask event reply) :=
  within_andThen (within_bind (fun _ => rfl) fun _ => within_answer _) fun _ _ => rfl

theorem unreported_openClient : Within Unreported (openClient w) := by
  have hopen : ∀ network, Within Unreported (openSession w network) := fun _ =>
    within_bind unreported_ask fun _ _ => rfl
  refine within_bind within_get (fun s => within_ite ?_ (within_ite ?_ ?_))
  · exact within_bind within_get fun _ => within_bind (within_answer _) fun _ => hopen _
  · exact within_bind within_get fun _ => within_bind (within_answer _) fun _ =>
      within_bind (within_answer _) fun _ => hopen _
  · exact within_bind within_get fun _ => within_ite (hopen _) (within_bind unreported_ask
      fun _ => within_ite (hopen _) (within_throw _))

theorem unreported_verifyIdentity (info : DeviceInfo) :
    Within Unreported (verifyIdentity w info) := by
  refine within_bind within_get (fun s => within_ite (within_pure ()) (within_bind ?_ fun _ => ?_))
  · exact within_ite (within_pure _) (within_bind (fun _ => rfl) fun _ => within_pure _)
  · exact within_bind (fun _ => rfl) fun _ => within_ite (fun _ => rfl) (within_throw _)

/-- The status comes last in `prepareRun`, and nothing throws behind it. -/
theorem unreported_prepareRun : ThrowsWithin Unreported (prepareRun w) := by
  have hcontrol : ∀ g, Within Unreported (modifyControl g) := fun _ _ => rfl
  have hreset : Within Unreported resetRun := fun _ => rfl
  refine throwsWithin_bind hreset (fun _ => ?_)
  refine throwsWithin_bind unreported_openClient (fun _ => ?_)
  refine throwsWithin_bind unreported_ask (fun _ => throwsWithin_bind unreported_ask fun info => ?_)
  refine throwsWithin_bind (unreported_verifyIdentity info) (fun _ => ?_)
  refine throwsWithin_bind (hcontrol _) (fun _ => ?_)
  refine throwsWithin_bind (within_requireSensorBoard info _) (fun _ => ?_)
  refine throwsWithin_bind (hcontrol _) (fun _ => throwsWithin_bind (hcontrol _) fun _ => ?_)
  exact throwsWithin_bind (hcontrol _) fun _ => (total_modify _).throwsWithin

/-- No start is sent before the loop. -/
theorem prepareRun_starts (h : (prepareRun w).Leaves s t) :
    ∀ entry ∈ since s t, entry.event.isStart = false := by
  obtain ⟨x,hx,_,he⟩ := prepareRun_calm w
  have hreset : resetRun.Returns s () (resetRun s).2 := rfl
  rw [he,Leaves,bind_of_returns hreset] at h
  exact fun entry hentry => Event.isStart_of_feed ((hx.leaves h).events entry hentry)

theorem unreported_recorded {α : Type} {event : Except Failure α → Event} {x : Driving α}
    (h : Within Unreported x) : Within Unreported (recorded event x) :=
  within_andThen h fun _ _ => rfl

theorem unreported_rkStop {active : Bool} {deactivate : Driving Unit}
    {event : Except Failure Unit → Event} {reply : ℕ → Except Failure Unit}
    (h : Within Unreported deactivate) :
    Within Unreported (rkStop w active deactivate event reply) :=
  within_ite (within_bind h fun _ => within_bind (fun _ => rfl) fun _ =>
    within_ite unreported_ask (within_pure ())) (within_pure ())

theorem unreported_streamStop {event : Except Failure Unit → Event} {x : Driving Unit}
    {reply : ℕ → Except Failure Unit} (h : Within Unreported x) :
    Within Unreported (recorded event (if w.rkLocal then x else hostCall reply)) :=
  unreported_recorded (within_ite h (within_bind (fun _ => rfl) fun _ => within_answer _))

theorem unreported_cleanup : Within Unreported (cleanup w) := by
  have hstop : ∀ {c : Bool} {x : Driving Unit}, Within Unreported x →
      Within Unreported (quietly (whenever c x)) := fun h => within_quietly (within_whenever h)
  refine within_bind within_get (fun s => within_bind (hstop ?_) fun _ => ?_)
  · exact within_bind unreported_ask fun _ => within_pure ()
  refine within_bind (fun _ => rfl) (fun _ => within_bind (hstop ?_) fun _ => ?_)
  · exact unreported_streamStop (within_bind within_get fun _ => unreported_rkStop fun _ => rfl)
  refine within_bind (hstop ?_) (fun _ => within_bind (hstop unreported_ask) fun _ => ?_)
  · exact unreported_streamStop (within_bind within_get fun _ => unreported_rkStop fun _ => rfl)
  · exact within_quietly unreported_ask

theorem cleanup_closes (h : (cleanup w).Leaves s t) : Closed t := by
  replace h := leaves_get_bind.mp h
  obtain ⟨_,a,_,h⟩ := (total_quietly _).leaves_bind.mp h
  obtain ⟨_,b,_,h⟩ := (total_modify _).leaves_bind.mp h
  obtain ⟨_,c,_,h⟩ := (total_quietly _).leaves_bind.mp h
  obtain ⟨_,d,_,h⟩ := (total_quietly _).leaves_bind.mp h
  obtain ⟨_,e,_,h⟩ := (total_quietly _).leaves_bind.mp h
  have hclose : (consult "close" w.close).Leaves e t := leaves_quietly.mp h
  rw [← hclose]
  exact ⟨_,_,List.getLast?_concat,rfl⟩

theorem lastStatus_publishStatus (state error : String) (s : DriverState) :
    lastStatus (publishStatus state error s).2 = some (state,error) := by
  simp only [lastStatus,publishStatus,modify,modifyGet,MonadStateOf.modifyGet,
    List.getLast?_concat,Option.map_some]

/-- The status comes last. -/
theorem prepareRun_status (h : (prepareRun w).Returns s () t) :
    lastStatus t = some ("starting","") := by
  have hlater : ∀ {α : Type} {x : Driving α} {f : α → Driving Unit},
      (∀ a s t, (f a).Returns s () t → lastStatus t = some ("starting","")) →
      ∀ s t, (x >>= f).Returns s () t → lastStatus t = some ("starting","") := by
    intro α x f hf s t h
    obtain ⟨a,u,_,h⟩ := returns_bind.mp h
    exact hf a u t h
  have hstatus : ∀ s t, (publishStatus "starting" "").Returns s () t →
      lastStatus t = some ("starting","") := fun s t h => by
    obtain rfl := returns_modify.mp h
    exact lastStatus_publishStatus "starting" "" s
  refine hlater (fun _ => hlater fun _ => hlater fun _ => hlater fun _ => hlater fun _ => ?_) s t h
  exact hlater fun _ => hlater fun _ => hlater fun _ => hlater fun _ => hlater fun _ => hstatus

end Ends
end PrismRosAdapter.Driver
