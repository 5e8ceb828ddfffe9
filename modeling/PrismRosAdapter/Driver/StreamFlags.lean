import PrismRosAdapter.Driver.ControlRuns

/-! # Running flags and the requested configuration

Only a stream command can leave the flags at odds with what is requested: when
its pause fails halfway, and when its rollback cannot stop a camera or board IMU
that it has just started.
-/
namespace PrismRosAdapter.Driver
open Program Runs

def AsRequested (s : DriverState) : Prop :=
  s.control.running = s.control.config.requested

/-- Some stop returned and another threw, and nothing was started afterwards. -/
def cutShort (s t : DriverState) : Bool :=
  saw stopReturned s t && saw (stopThrew fun _ => true) s t && !saw startCalled s t

/-- Camera or board IMU, not enabled before, were started, and a stop threw. -/
def leftRunning (s t : DriverState) : Bool :=
  saw (stopThrew fun _ => true) s t &&
    ((!s.control.config.enableCamera && saw (acknowledged .camera) s t) ||
      (!s.control.config.enableBoardImu && saw (acknowledged .boardImu) s t))

/-- Whether the turn changes the selection of streams. -/
def Action.switches : Action → Bool
  | .control (.controlStreams _ _) => true
  | _ => false

def Strands (w : World) (s : DriverState) (action : Action) : Prop :=
  action.switches = true ∧
    (cutShort s (act w s action) = true ∨ leftRunning s (act w s action) = true)

instance (s : DriverState) : Decidable (AsRequested s) := inferInstanceAs (Decidable (_ = _))
instance (w : World) (s : DriverState) (action : Action) : Decidable (Strands w s action) :=
  inferInstanceAs (Decidable (_ ∧ _))

section
variable {w : World} {s t : DriverState}

theorem asRequested_iff : AsRequested s ↔
    ∀ f, s.flag f = s.control.config.requested.flag f :=
  ⟨fun h f => congrArg (Running.flag · f) h,Running.ext_flag⟩

theorem Resume.flag_eq (h : Resume w s t true) (f : Feed) :
    t.flag f = (s.flag f || s.control.config.requested.flag f) := by
  cases hr : s.control.config.requested.flag f with
  | true => rw [h.started rfl f hr,Bool.or_true]
  | false => rw [((h.resumed f).held (Or.inr hr)).1.flag,Bool.or_false]

/-- A pass of starts makes up for whatever was stopped, but stops nothing. -/
theorem Resume.asRequested_iff (h : Resume w s t true) : AsRequested t ↔
    ∀ f, s.control.config.requested.flag f = false → s.flag f = false := by
  rw [Driver.asRequested_iff]
  apply forall_congr'
  intro f
  rw [h.flag_eq f,h.confined.requested]
  cases s.flag f <;> cases s.control.config.requested.flag f <;> simp

theorem Quiet.asRequested (h : Quiet s t) (hs : AsRequested s) : AsRequested t := by
  rw [asRequested_iff] at hs ⊢
  intro f
  rw [h.flag f,h.requested,hs f]

theorem Resume.asRequested_of_off (h : Resume w s t true) (hs : ∀ f, s.flag f = false) :
    AsRequested t := h.asRequested_iff.mpr fun f _ => hs f

theorem RoverSet.asRequested (h : RoverSet s t) (hs : AsRequested s) : AsRequested t := by
  rw [asRequested_iff] at hs ⊢
  intro f
  by_cases hf : f = .rover
  · subst hf
    exact h.rover (hs .rover)
  · rw [(h.spared f hf).1.flag,(h.spared f hf).2,hs f]

theorem not_stranded_of_stop (h : saw (stopThrew fun _ => true) s t = false) :
    ¬ (cutShort s t = true ∨ leftRunning s t = true) := by
  simp [cutShort,leftRunning,h]

/-! ## The two commands that strand a feed -/

/-- After a pause that failed halfway the flags are as requested if nothing stopped. -/
theorem Pause.asRequested_iff (h : Pause w s t false) (hs : AsRequested s) :
    AsRequested t ↔ ¬ (cutShort s t = true ∨ leftRunning s t = true) := by
  have hleft : leftRunning s t = false := by simp [leftRunning,h.no_start.2]
  have hcut : cutShort s t = saw stopReturned s t := by simp [cutShort,h.threw,h.no_start.1]
  rw [hcut,hleft,h.returned,AsRequested,h.confined.requested]
  rw [AsRequested] at hs
  simp [hs]

section Rollback
variable {a b c d e : DriverState} {ok : Bool}

/-- The stop of a rollback that fails leaves camera and board IMU as they are, and
nothing else can be running that is not requested. -/
theorem Rollback.asRequested_iff (h : Rollback w s a b c d e t ok) (hs : Attached s) :
    AsRequested t ↔ ∀ f, f = .camera ∨ f = .boardImu →
      s.control.config.requested.flag f = false → ok = false → c.flag f = false := by
  have hreq : e.control.config.requested = s.control.config.requested :=
    congrArg Terms.requested h.terms
  rw [h.resume.asRequested_iff,hreq]
  cases ok with
  | true =>
    have hoff := h.restore.off (h.stop.stopped rfl (h.attached_start hs))
    exact iff_of_true (fun f _ => hoff f) nofun
  | false =>
    constructor
    · intro hall f hf hr _
      rw [← h.stop.captured rfl f hf,← h.restore.flag f]
      exact hall f hr
    · intro hcap f hr
      rw [h.restore.flag f]
      cases f with
      | camera => exact h.stop.flag_false (hcap .camera (Or.inl rfl) hr rfl)
      | boardImu => exact h.stop.flag_false (hcap .boardImu (Or.inr rfl) hr rfl)
      | lidar => exact h.stop.flag_false ((h.start.lidar rfl).trans (h.off hs .lidar))
      | rover =>
        have hb : b.control.config.requested.flag .rover = false := h.rover.trans hr
        have hc := ((h.start.resumed .rover).held (Or.inr hb)).1.flag
        exact h.stop.flag_false (hc.trans (h.off hs .rover))

/-- A feed that is not requested was acknowledged in a rollback only if the failed
start had started it. -/
theorem Rollback.saw_acknowledged (h : Rollback w s a b c d e t ok) (hs : Attached s) {f : Feed}
    (hf : s.control.config.requested.flag f = false) :
    saw (acknowledged f) s t = c.flag f := by
  have hlast : saw (acknowledged f) e t = false := by
    apply saw_acknowledged_false
    have hreq : e.control.config.requested = s.control.config.requested :=
      congrArg Terms.requested h.terms
    exact ((h.resume.resumed f).held (Or.inr (hreq ▸ hf))).2
  have hstart : saw (acknowledged f) b c = c.flag f := by
    rw [Bool.eq_iff_iff,(h.start.resumed f).acked]
    exact and_iff_right (h.off hs f)
  rw [h.saw_eq,hlast,hstart,(h.pause.no_start.2 f).1,(h.calm.no_start.2 f).1,
    (h.stop.no_start.2 f).1,(h.restore.no_start.2 f).1]
  simp

theorem Rollback.not_cutShort (h : Rollback w s a b c d e t ok) (hs : Attached s) :
    cutShort s t = false := by
  simp [cutShort,h.saw_eq startCalled,h.start.called rfl (h.off hs)]

theorem Rollback.leftRunning_iff (h : Rollback w s a b c d e t ok) (hs : Attached s) :
    leftRunning s t = true ↔ ∃ f, (f = .camera ∨ f = .boardImu) ∧
      s.control.config.requested.flag f = false ∧ ok = false ∧ c.flag f = true := by
  have hack : ∀ {f}, s.control.config.requested.flag f = false →
      saw (acknowledged f) s t = c.flag f := h.saw_acknowledged hs
  simp only [leftRunning, h.saw_stopThrew, Bool.and_eq_true, Bool.or_eq_true, Bool.not_eq_true']
  constructor
  · rintro ⟨⟨hok,_⟩,⟨hr,ha⟩ | ⟨hr,ha⟩⟩
    · exact ⟨.camera,Or.inl rfl,hr,hok,(hack (f := .camera) hr).symm.trans ha⟩
    · exact ⟨.boardImu,Or.inr rfl,hr,hok,(hack (f := .boardImu) hr).symm.trans ha⟩
  · rintro ⟨f,rfl | rfl,hr,hok,hf⟩
    · exact ⟨⟨hok,trivial⟩,Or.inl ⟨hr,(hack hr).trans hf⟩⟩
    · exact ⟨⟨hok,trivial⟩,Or.inr ⟨hr,(hack hr).trans hf⟩⟩

theorem Rollback.asRequested_iff_not_stranded (h : Rollback w s a b c d e t ok)
    (hs : Attached s) :
    AsRequested t ↔ ¬ (cutShort s t = true ∨ leftRunning s t = true) := by
  rw [h.asRequested_iff hs,h.not_cutShort hs,h.leftRunning_iff hs]
  simp only [Bool.false_eq_true, false_or, not_exists, not_and, Bool.not_eq_true]

end Rollback

/-! ## One turn and a whole run -/

variable {action : Action}

theorem Finish.asRequested {command : Command} (h : Finish w s t command)
    (hc : ∀ c sel, command ≠ .controlStreams c sel) (ha : Attached s) (hs : AsRequested s) :
    AsRequested t := by
  cases h with
  | spared h => exact h.asRequested hs
  | rover h => exact h.asRequested hs
  | resumed _ pause resume =>
    refine resume.asRequested_iff.mpr fun f hf => pause.flag_false ?_
    rw [asRequested_iff.mp hs f,← pause.confined.requested]
    exact hf
  | restarted _ pause calm _ resume =>
    exact resume.asRequested_of_off (calm.off (pause.stopped rfl ha))
  | abandoned | switched | rolledBack => exact absurd rfl (hc _ _)

theorem Finish.asRequested_iff {command : StreamCommand} {sel : Selection}
    (h : Finish w s t (.controlStreams command sel)) (ha : Attached s) (hs : AsRequested s) :
    AsRequested t ↔ ¬ (cutShort s t = true ∨ leftRunning s t = true) := by
  cases h with
  | spared h =>
    exact iff_of_true (h.asRequested hs) (not_stranded_of_stop (h.saw_stopThrew _))
  | resumed hc => cases hc
  | restarted hc => cases hc
  | abandoned pause => exact pause.asRequested_iff hs
  | switched pause calm _ resume =>
    exact iff_of_true (resume.asRequested_of_off (calm.off (pause.stopped rfl ha)))
      (not_stranded_of_stop (saw_stopThrew_pass pause calm resume _))
  | rolledBack rollback => exact rollback.asRequested_iff_not_stranded ha

theorem act_asRequested_iff (ha : Attached s) (hs : AsRequested s)
    (ht : (act w s action).control.fatalControlError = "") :
    AsRequested (act w s action) ↔ ¬ Strands w s action := by
  rcases act_finishes ht with h | ⟨command,rfl,h⟩
  · exact iff_of_true (h.asRequested hs) fun hd => not_stranded_of_stop (h.saw_stopThrew _) hd.2
  · cases command with
    | controlStreams command sel =>
      rw [h.asRequested_iff ha hs,Strands]
      exact not_congr (and_iff_right rfl).symm
    | _ => exact iff_of_true (h.asRequested nofun ha hs) fun hd => Bool.noConfusion hd.1

/-- Between commands the flags are as requested exactly when no stream command has
stranded a feed. -/
theorem flags_as_requested_iff {config : DriverConfig}
    (h : (startRun w).Returns (fresh config) () s) (actions : List Action) :
    Always (act w) (fun t => t.control.fatalControlError = "" → AsRequested t) s actions ↔
      EachStep (act w) (fun t action => (act w t action).control.fatalControlError = "" →
        ¬ Strands w t action) s actions := by
  obtain ⟨b,hoff,_,hresume⟩ := startRun_returns h
  exact always_kept_iff (fun _ _ => act_asRequested_iff) (startRun_attached h)
    (hresume.asRequested_of_off hoff) actions

theorem flags_as_requested_restarted :
    Always (act {}) (fun t => t.control.fatalControlError = "" → AsRequested t)
      (startRun {} (fresh {})).2 [.receive, .control (.controlStreams .restart ⟨true,true,false⟩)] :=
  (flags_as_requested_iff (returns_of_isOk (by decide +kernel)) _).mpr (by decide +kernel)

/-- The rover is stopped first; the stop of the camera throws. -/
theorem failed_stop_strands_rover :
    ∃ (w : World) (config : DriverConfig) (s : DriverState) (action : Action),
      (startRun w).Returns (fresh config) () s ∧
        ¬ Always (act w) (fun t => t.control.fatalControlError = "" → AsRequested t) s [action] := by
  refine ⟨{ stopVideo := fun _ => .error (.sdk "transfer failed") },
    { enableRoverRtcm := true, enableBoardImu := false },_,
    .control (.controlStreams .stop ⟨true,false,false⟩),returns_of_isOk (by decide +kernel),?_⟩
  intro h
  exact absurd (h.last _ (by decide +kernel)) (by decide +kernel)

end
end PrismRosAdapter.Driver
