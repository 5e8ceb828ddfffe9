import PrismRosAdapter.Driver.ControlRuns

/-! # Silence monitoring of what runs

A pass of stops disarms every capture stream before its first call; a pass of
starts arms only what it starts itself. Whatever a failed stop leaves running is
therefore monitored by nobody.
-/
namespace PrismRosAdapter.Driver
open Program Runs

/-- Silence is monitored on every present lane of every feed that runs. -/
def Monitored (s : DriverState) : Prop := ∀ f, s.flag f = true → s.armed f = true

/-- Some feed that runs has a lane whose silence would matter. -/
def exposed (m : Terms) (r : Running) : Bool :=
  r.video || r.lidar || (r.imu && (bitOf m.imuMask 0 || bitOf m.imuMask 1))

/-- Commands that pause and resume the streams. -/
def Action.pauses : Action → Bool
  | .control (.setRoverRtcm _) => false
  | .control _ => true
  | _ => false

/-- A stop threw while a feed with a lane to monitor was running. -/
def Disarms (w : World) (s : DriverState) (action : Action) : Prop :=
  action.pauses = true ∧ saw (stopThrew (exposed s.control.terms)) s (act w s action) = true

instance (s : DriverState) : Decidable (Monitored s) :=
  decidable_of_iff ((s.flag .camera = true → s.armed .camera = true) ∧
    (s.flag .boardImu = true → s.armed .boardImu = true) ∧
    (s.flag .lidar = true → s.armed .lidar = true) ∧
    (s.flag .rover = true → s.armed .rover = true))
    ⟨fun ⟨hc,hi,hl,hr⟩ f => by cases f <;> assumption,
      fun h => ⟨h .camera,h .boardImu,h .lidar,h .rover⟩⟩
instance (w : World) (s : DriverState) (action : Action) : Decidable (Disarms w s action) :=
  inferInstanceAs (Decidable (_ ∧ _))

section
variable {w : World} {s t : DriverState}

theorem exposed_eq_false {m : Terms} {r : Running} :
    exposed m r = false ↔ ∀ f, r.flag f = true → m.lanes f = [] := by
  have hcamera : m.lanes .camera ≠ [] := by simp [Terms.lanes]
  have hlidar : m.lanes .lidar ≠ [] := by
    simp only [Terms.lanes]
    split <;> simp
  have himu : m.lanes .boardImu = [] ↔ (bitOf m.imuMask 0 || bitOf m.imuMask 1) = false := by
    cases h0 : bitOf m.imuMask 0 <;> cases h1 : bitOf m.imuMask 1 <;> simp [Terms.lanes,h0,h1]
  constructor
  · intro h f hf
    simp only [exposed, Bool.or_eq_false_iff, Bool.and_eq_false_iff] at h
    obtain ⟨⟨hv,hl⟩,hi⟩ := h
    cases f with
    | camera => exact absurd (hv.symm.trans hf) Bool.noConfusion
    | boardImu =>
      refine himu.mpr (Bool.or_eq_false_iff.mpr (hi.resolve_left fun h => ?_))
      exact absurd (h.symm.trans hf) Bool.noConfusion
    | lidar => exact absurd (hl.symm.trans hf) Bool.noConfusion
    | rover => rfl
  · intro h
    simp only [exposed, Bool.or_eq_false_iff, Bool.and_eq_false_iff]
    refine ⟨⟨Bool.eq_false_iff.mpr fun hv => hcamera (h .camera hv),
      Bool.eq_false_iff.mpr fun hl => hlidar (h .lidar hl)⟩,?_⟩
    cases hi : r.imu with
    | false => exact Or.inl rfl
    | true => exact Or.inr (Bool.or_eq_false_iff.mp (himu.mp (h .boardImu hi)))

theorem exposed_of_off {m : Terms} (h : ∀ f, s.flag f = false) :
    exposed m s.control.running = false :=
  exposed_eq_false.mpr fun f hf => absurd ((h f).symm.trans hf) Bool.noConfusion

/-- Monitoring of no lane is armed. -/
def Disarmed (s : DriverState) : Prop := ∀ f : Feed, ∀ lane ∈ f.streams, s.silence lane = 0

theorem Disarmed.armed_iff (h : Disarmed s) (f : Feed) :
    s.armed f = true ↔ s.control.terms.lanes f = [] := by
  constructor
  · intro ha
    rw [List.eq_nil_iff_forall_not_mem]
    intro lane hl
    have hpos : 0 < s.silence lane := of_decide_eq_true (List.all_eq_true.mp ha lane hl)
    rw [h f lane (Terms.lanes_subset _ f lane hl)] at hpos
    exact absurd hpos (by decide)
  · intro he
    rw [DriverState.armed,he]
    rfl

theorem Disarmed.monitored_iff (h : Disarmed s) :
    Monitored s ↔ exposed s.control.terms s.control.running = false := by
  rw [exposed_eq_false]
  exact forall_congr' fun f => imp_congr_right fun _ => h.armed_iff f

theorem Calm.disarmed (h : Calm s t) (hs : Disarmed s) : Disarmed t :=
  fun f lane hl => (h.silence f lane hl).trans (hs f lane hl)

/-- A pass of starts arms what it starts and nothing else. -/
theorem Resume.monitored_iff (h : Resume w s t true) (hs : Disarmed s) :
    Monitored t ↔ exposed s.control.terms s.control.running = false := by
  rw [← hs.monitored_iff]
  have hheld : ∀ f, s.flag f = true → t.flag f = true ∧ t.armed f = s.armed f := by
    intro f hf
    have hspared := ((h.resumed f).held (Or.inl hf)).1
    exact ⟨hspared.flag.trans hf,hspared.armed h.confined.terms⟩
  constructor
  · intro hm f hf
    rw [← (hheld f hf).2]
    exact hm f (hheld f hf).1
  · intro hm f hf
    cases hb : s.flag f with
    | false => exact (h.resumed f).armed hb hf
    | true =>
      rw [(hheld f hb).2]
      exact hm f hb

theorem Resume.monitored_of_off (h : Resume w s t true) (hs : ∀ f, s.flag f = false) :
    Monitored t := fun f => (h.resumed f).armed (hs f)

theorem Quiet.monitored (h : Quiet s t) (hs : Monitored s) : Monitored t := by
  intro f hf
  rw [h.armed id]
  exact hs f ((h.flag f).symm.trans hf)

theorem RoverSet.monitored (h : RoverSet s t) (hs : Monitored s) : Monitored t := by
  intro f hf
  by_cases hr : f = .rover
  · subst hr
    rfl
  · have hspared := (h.spared f hr).1
    rw [DriverState.armed,h.lanes,List.all_eq_true]
    intro lane hl
    rw [hspared.silence lane (Terms.lanes_subset _ f lane hl)]
    exact List.all_eq_true.mp (hs f (hspared.flag.symm.trans hf)) lane hl

/-! ## One turn and a whole run -/

theorem Finish.monitored_iff {command : Command} (h : Finish w s t command)
    (hc : ∀ enable, command ≠ .setRoverRtcm enable) (ha : Attached s) (hs : Monitored s) :
    Monitored t ↔ saw (stopThrew (exposed s.control.terms)) s t = false := by
  cases h with
  | spared h => exact iff_of_true (h.monitored hs) (h.saw_stopThrew _)
  | rover h => exact absurd rfl (hc _)
  | resumed _ pause resume =>
    rw [resume.monitored_iff pause.disarmed,
      saw_trans pause.confined.later resume.confined.later,pause.threw,resume.no_stop.2.1,
      pause.confined.terms]
    simp
  | restarted _ pause calm _ resume =>
    exact iff_of_true (resume.monitored_of_off (calm.off (pause.stopped rfl ha)))
      (saw_stopThrew_pass pause calm resume _)
  | abandoned pause =>
    rw [Disarmed.monitored_iff pause.disarmed,pause.threw,pause.confined.terms]
    rfl
  | switched pause calm _ resume =>
    exact iff_of_true (resume.monitored_of_off (calm.off (pause.stopped rfl ha)))
      (saw_stopThrew_pass pause calm resume _)
  | @rolledBack _ _ _ _ c d e ok rollback =>
    have hrun : e.control.running = d.control.running := Running.ext_flag rollback.restore.flag
    rw [rollback.resume.monitored_iff (rollback.restore.disarmed rollback.stop.disarmed),
      rollback.saw_stopThrew,rollback.terms,hrun]
    cases ok with
    | false => rfl
    | true =>
      exact iff_of_true (exposed_of_off (rollback.stop.stopped rfl (rollback.attached_start ha))) rfl

variable {action : Action}

theorem act_monitored_iff (ha : Attached s) (hs : Monitored s)
    (ht : (act w s action).control.fatalControlError = "") :
    Monitored (act w s action) ↔ ¬ Disarms w s action := by
  rcases act_finishes ht with h | ⟨command,rfl,h⟩
  · refine iff_of_true (h.monitored hs) fun hd => ?_
    exact absurd ((h.saw_stopThrew _).symm.trans hd.2) Bool.noConfusion
  · cases command with
    | setRoverRtcm enable =>
      refine iff_of_true ?_ fun hd => Bool.noConfusion hd.1
      cases h with
      | spared h => exact h.monitored hs
      | rover h => exact h.monitored hs
      | resumed hc => cases hc
      | restarted hc => cases hc
    | _ =>
      rw [h.monitored_iff nofun ha hs,Disarms,← Bool.not_eq_true]
      exact not_congr (and_iff_right rfl).symm

/-- Between commands every feed that runs is monitored exactly when no stop has
thrown while a feed with a lane to monitor was running. -/
theorem running_monitored_iff {config : DriverConfig}
    (h : (startRun w).Returns (fresh config) () s) (actions : List Action) :
    Always (act w) (fun t => t.control.fatalControlError = "" → Monitored t) s actions ↔
      EachStep (act w) (fun t action => (act w t action).control.fatalControlError = "" →
        ¬ Disarms w t action) s actions := by
  obtain ⟨b,hoff,_,hresume⟩ := startRun_returns h
  exact always_kept_iff (fun _ _ => act_monitored_iff) (startRun_attached h)
    (hresume.monitored_of_off hoff) actions

theorem running_monitored_restarted :
    Always (act {}) (fun t => t.control.fatalControlError = "" → Monitored t)
      (startRun {} (fresh {})).2 [.receive, .control (.controlStreams .restart ⟨true,true,false⟩)] :=
  (running_monitored_iff (returns_of_isOk (by decide +kernel)) _).mpr (by decide +kernel)

/-- The camera whose stop threw is started again without being armed. -/
theorem failed_stop_disarms_camera :
    ∃ (w : World) (config : DriverConfig) (s : DriverState) (action : Action),
      (startRun w).Returns (fresh config) () s ∧
        ¬ Always (act w) (fun t => t.control.fatalControlError = "" → Monitored t) s [action] := by
  refine ⟨{ stopVideo := fun _ => .error (.sdk "transfer failed") },
    { enableBoardImu := false },_,.control (.idle .getWifiHotspot),
    returns_of_isOk (by decide +kernel),?_⟩
  intro h
  exact absurd (h.last _ (by decide +kernel)) (by decide +kernel)

end
end PrismRosAdapter.Driver
