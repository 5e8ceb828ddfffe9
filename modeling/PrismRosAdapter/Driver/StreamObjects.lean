import PrismRosAdapter.Driver.ControlRuns

/-! # Flags and stream objects of the RK-local build

A stream object forgets its session before the Agent is asked to stop it and
keeps a session that it refuses. Either leaves it at odds with the driver's flag
unless a later start makes up for it.
-/
namespace PrismRosAdapter.Driver
open Program Runs

/-- The Agent failed to stop the feed, or a start of the feed, not enabled before,
was answered with other settings. -/
def parted (f : Feed) (s t : DriverState) : Bool :=
  saw (objectThrew f) s t || (!s.control.config.requested.flag f && saw (differs f) s t)

def Parts (w : World) (s : DriverState) (action : Action) : Prop :=
  parted .boardImu s (act w s action) = true ∨ parted .lidar s (act w s action) = true

theorem agree_iff_objects {s : DriverState} : Agree s ↔
    s.active .boardImu = s.flag .boardImu ∧ s.active .lidar = s.flag .lidar := by
  refine ⟨fun h => ⟨h .boardImu,h .lidar⟩,?_⟩
  rintro ⟨hi,hl⟩ f
  cases f <;> first | rfl | assumption

instance (s : DriverState) : Decidable (Agree s) := decidable_of_iff _ agree_iff_objects.symm
instance (w : World) (s : DriverState) (action : Action) : Decidable (Parts w s action) :=
  inferInstanceAs (Decidable (_ ∨ _))

section
variable {w : World} {s t : DriverState} {f : Feed} {ok : Bool}

theorem Event.feed_of_objectThrew {e : Event} (h : e.objectThrew = some f) : e.feed = some f := by
  unfold objectThrew at h
  split at h <;> simp_all [feed]

theorem parted_eq_false : parted f s t = false ↔ saw (objectThrew f) s t = false ∧
    (s.control.config.requested.flag f = false → saw (differs f) s t = false) := by
  unfold parted
  cases saw (objectThrew f) s t <;> cases s.control.config.requested.flag f <;> simp

/-- Nothing about the feed in the journal, and nothing changed about it. -/
theorem Spared.agrees_iff (h : Spared f s t) (he : ∀ e ∈ since s t, e.event.feed ≠ some f)
    (hs : s.active f = s.flag f) : t.active f = t.flag f ↔ parted f s t = false := by
  refine iff_of_true (by rw [h.active,h.flag,hs])
    (parted_eq_false.mpr ⟨?_,fun _ => saw_differs_false he⟩)
  exact saw_eq_false.mpr fun e hm => decide_eq_false fun ho => he e hm (Event.feed_of_objectThrew ho)

theorem Pause.agrees_iff (h : Pause w s t ok) (hw : w.rkLocal = true)
    (hs : s.active f = s.flag f) :
    t.active f = t.flag f ↔ saw (objectThrew f) s t = false := by
  constructor
  · intro ha
    refine Bool.eq_false_iff.mpr fun ho => ?_
    obtain ⟨hflag,hact⟩ := h.thrown f ho
    exact absurd ((hact.symm.trans ha).trans hflag) Bool.noConfusion
  · exact h.objects hw f hs

/-- A pass of starts brings flag and object of what it starts together. -/
theorem Resume.agrees_iff (h : Resume w s t true) (hw : w.rkLocal = true) (f : Feed) :
    t.active f = t.flag f ↔ (s.flag f = true ∨ s.control.config.requested.flag f = false →
      s.active f = s.flag f) := by
  by_cases hheld : s.flag f = true ∨ s.control.config.requested.flag f = false
  · have hspared := ((h.resumed f).held hheld).1
    rw [hspared.active,hspared.flag]
    exact ⟨fun hs _ => hs,fun hall => hall hheld⟩
  · have hs : s.flag f = false := Bool.eq_false_iff.mpr fun hf => hheld (Or.inl hf)
    have hr : s.control.config.requested.flag f = true :=
      Bool.not_eq_false _ ▸ fun hf => hheld (Or.inr hf)
    have ht := h.started rfl f hr
    refine iff_of_true ?_ fun hcon => absurd hcon hheld
    rw [ht,(h.resumed f).active hw hs ht]

theorem Resume.no_differs (h : Resume w s t true) (f : Feed) : saw (differs f) s t = false := by
  cases ht : t.flag f with
  | true => exact (h.resumed f).accepted ht
  | false =>
    apply saw_differs_false
    refine ((h.resumed f).held (Or.inr (Bool.eq_false_iff.mpr fun hr => ?_))).2
    exact absurd ((h.started rfl f hr).symm.trans ht) Bool.noConfusion

theorem Resume.agree_of_off (h : Resume w s t true) (hw : w.rkLocal = true)
    (hoff : ∀ f, s.flag f = false) (hin : ∀ f, s.active f = false) : Agree t := fun f =>
  (h.agrees_iff hw f).mpr fun _ => (hin f).trans (hoff f).symm

/-- After a pass of stops that returned, every object is inactive. -/
theorem Pause.inactive (h : Pause w s t true) (hw : w.rkLocal = true) (ha : Attached s)
    (hs : Agree s) (f : Feed) : t.active f = false :=
  ((h.agrees_iff hw (hs f)).mpr (h.clean rfl f)).trans (h.stopped rfl ha f)

/-- Stopped, and started again by a pass that returned. -/
theorem agrees_iff_of_pass {a b : DriverState} (pause : Pause w s a true) (calm : Calm a b)
    (resume : Resume w b t true) (hw : w.rkLocal = true) (ha : Attached s) (hs : Agree s) :
    t.active f = t.flag f ↔ parted f s t = false := by
  have hin : ∀ f, b.active f = false := fun f => calm.inactive f (pause.inactive hw ha hs f)
  refine iff_of_true (resume.agree_of_off hw (calm.off (pause.stopped rfl ha)) hin f)
    (parted_eq_false.mpr ⟨?_,fun _ => ?_⟩)
  · rw [saw_pass pause calm resume,pause.clean rfl,calm.no_stop.2.2,resume.no_stop.2.2]
    rfl
  · rw [saw_pass pause calm resume,(pause.no_start.2 f).2,(calm.no_start.2 f).2,
      resume.no_differs]
    rfl

section Rollback
variable {a b c d e : DriverState}

theorem Rollback.saw_objectThrew (h : Rollback w s a b c d e t ok) (f : Feed) :
    saw (objectThrew f) s t = saw (objectThrew f) c d := by
  rw [h.saw_eq,h.pause.clean rfl,h.calm.no_stop.2.2,h.start.no_stop.2.2,h.restore.no_stop.2.2,
    h.resume.no_stop.2.2]
  simp

theorem Rollback.saw_differs (h : Rollback w s a b c d e t ok) (f : Feed) :
    saw (differs f) s t = saw (differs f) b c := by
  rw [h.saw_eq,(h.pause.no_start.2 f).2,(h.calm.no_start.2 f).2,(h.stop.no_start.2 f).2,
    (h.restore.no_start.2 f).2,h.resume.no_differs]
  simp

/-- After the failed start an object is active without its flag exactly when it was
answered with other settings. -/
theorem Rollback.agrees_start (h : Rollback w s a b c d e t ok) (hw : w.rkLocal = true)
    (ha : Attached s) (hs : Agree s) (f : Feed) :
    c.active f = c.flag f ↔ saw (differs f) b c = false := by
  have hb : b.active f = false := h.calm.inactive f (h.pause.inactive hw ha hs f)
  have hoff := h.off ha f
  cases hc : c.flag f with
  | true =>
    exact iff_of_true ((h.start.resumed f).active hw hoff hc) ((h.start.resumed f).accepted hc)
  | false =>
    have hrefused := (h.start.resumed f).refused hw hoff hc
    rw [hb] at hrefused
    rw [← Bool.not_eq_true,hrefused]
    simp

theorem Rollback.agrees_iff (h : Rollback w s a b c d e t ok) (hw : w.rkLocal = true)
    (ha : Attached s) (hs : Agree s) (f : Feed) :
    t.active f = t.flag f ↔ parted f s t = false := by
  have hreq : e.control.config.requested = s.control.config.requested :=
    congrArg Terms.requested h.terms
  have hagree : e.active f = e.flag f ↔ saw (objectThrew f) c d = false ∧
      saw (differs f) b c = false := by
    rw [h.same,h.restore.flag]
    by_cases hc : c.active f = c.flag f
    · rw [h.stop.agrees_iff hw hc]
      exact (and_iff_left ((h.agrees_start hw ha hs f).mp hc)).symm
    · have hcf : c.flag f = false := by
        by_contra hne
        have ht : c.flag f = true := Bool.not_eq_false _ ▸ hne
        exact hc (((h.start.resumed f).active hw (h.off ha f) ht).trans ht.symm)
      have hdf := h.stop.flag_false hcf
      rw [h.stop.idle f hcf,hdf]
      exact iff_of_false (fun hcon => hc (hcon.trans hcf.symm)) fun hsaw =>
        hc ((h.agrees_start hw ha hs f).mpr hsaw.2)
  rw [h.resume.agrees_iff hw f,hagree,hreq,parted_eq_false,h.saw_objectThrew,h.saw_differs]
  constructor
  · intro hall
    refine ⟨Bool.eq_false_iff.mpr fun ho => ?_,fun hr => (hall (Or.inr hr)).2⟩
    have he : e.flag f = true := (h.restore.flag f).trans (h.stop.thrown f ho).1
    exact absurd ((hall (Or.inl he)).1.symm.trans ho) Bool.noConfusion
  · rintro ⟨ho,hd⟩ hheld
    refine ⟨ho,?_⟩
    rcases hheld with he | hr
    · have hcf : c.flag f = true := h.stop.down f ((h.restore.flag f).symm.trans he)
      exact (h.start.resumed f).accepted hcf
    · exact hd hr

end Rollback

/-! ## One turn and a whole run -/

theorem Finish.agrees_iff {command : Command} (h : Finish w s t command) (hw : w.rkLocal = true)
    (ha : Attached s) (hs : Agree s) (f : Feed) :
    t.active f = t.flag f ↔ parted f s t = false := by
  cases h with
  | spared h => exact (h.spared f id).agrees_iff (h.other id) (hs f)
  | rover h =>
    by_cases hf : f = .rover
    · subst hf
      refine iff_of_true rfl (parted_eq_false.mpr ⟨?_,fun _ => saw_differs_object (by simp)⟩)
      refine saw_eq_false.mpr fun e he => decide_eq_false fun ho => ?_
      unfold Event.objectThrew at ho
      split at ho <;> cases ho
    · refine (h.spared f hf).1.agrees_iff (fun e he hef => hf ?_) (hs f)
      exact Option.some.inj (hef.symm.trans (h.events e he))
  | @resumed _ a _ pause resume =>
    have hsaw : saw (objectThrew f) s t = saw (objectThrew f) s a := by
      rw [saw_trans pause.confined.later resume.confined.later,resume.no_stop.2.2,Bool.or_false]
    have hdiffers : saw (differs f) s t = false := by
      rw [saw_trans pause.confined.later resume.confined.later,(pause.no_start.2 f).2,
        resume.no_differs]
      rfl
    rw [resume.agrees_iff hw f,parted_eq_false,hsaw,pause.agrees_iff hw (hs f)]
    constructor
    · refine fun hall => ⟨Bool.eq_false_iff.mpr fun ho => ?_,fun _ => hdiffers⟩
      exact absurd ((hall (Or.inl (pause.thrown f ho).1)).symm.trans ho) Bool.noConfusion
    · exact fun h _ => h.1
  | restarted _ pause calm _ resume => exact agrees_iff_of_pass pause calm resume hw ha hs
  | abandoned pause =>
    rw [pause.agrees_iff hw (hs f),parted_eq_false]
    exact (and_iff_left fun _ => (pause.no_start.2 f).2).symm
  | switched pause calm _ resume => exact agrees_iff_of_pass pause calm resume hw ha hs
  | rolledBack rollback => exact rollback.agrees_iff hw ha hs f

variable {action : Action}

theorem act_agree_iff (hw : w.rkLocal = true) (ha : Attached s) (hs : Agree s)
    (ht : (act w s action).control.fatalControlError = "") :
    Agree (act w s action) ↔ ¬ Parts w s action := by
  have hfeed : ∀ f, (act w s action).active f = (act w s action).flag f ↔
      parted f s (act w s action) = false := by
    intro f
    rcases act_finishes ht with h | ⟨command,_,h⟩
    · exact (h.spared f id).agrees_iff (h.other id) (hs f)
    · exact h.agrees_iff hw ha hs f
  rw [agree_iff_objects,hfeed,hfeed,Parts,not_or,Bool.not_eq_true,Bool.not_eq_true]

/-- Between commands the driver's flags and the stream objects agree exactly when no
turn has parted them. -/
theorem flags_agree_iff {config : DriverConfig} (hw : w.rkLocal = true)
    (h : (startRun w).Returns (fresh config) () s) (actions : List Action) :
    Always (act w) (fun t => t.control.fatalControlError = "" → Agree t) s actions ↔
      EachStep (act w) (fun t action => (act w t action).control.fatalControlError = "" →
        ¬ Parts w t action) s actions := by
  obtain ⟨b,hoff,hin,hresume⟩ := startRun_returns h
  exact always_kept_iff (fun _ _ => act_agree_iff hw) (startRun_attached h)
    (hresume.agree_of_off hw hoff hin) actions

theorem flags_agree_restarted :
    let w : World := { rkLocal := true, startImu := fun _ => .ok ⟨1,200⟩ }
    Always (act w) (fun t => t.control.fatalControlError = "" → Agree t)
      (startRun w (fresh {})).2 [.receive, .control (.controlStreams .restart ⟨true,true,false⟩)] :=
  (flags_agree_iff rfl (returns_of_isOk (by decide +kernel)) _).mpr (by decide +kernel)

/-- The board IMU whose stop threw stays flagged, but its object drops its samples. -/
theorem failed_stop_parts_imu :
    ∃ (w : World) (config : DriverConfig) (s : DriverState) (action : Action),
      w.rkLocal = true ∧ (startRun w).Returns (fresh config) () s ∧
        ¬ Always (act w) (fun t => t.control.fatalControlError = "" → Agree t) s [action] := by
  refine ⟨{
      rkLocal := true
      startImu := fun _ => .ok ⟨1,200⟩
      stopImu := fun _ => .error (.sdk "agent is busy") },{},_,
    .control (.idle .getWifiHotspot),rfl,returns_of_isOk (by decide +kernel),?_⟩
  intro h
  exact absurd (h.last _ (by decide +kernel)) (by decide +kernel)

end
end PrismRosAdapter.Driver
