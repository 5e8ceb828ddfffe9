import PrismRosAdapter.Driver.DeviceIdentity
import PrismRosAdapter.Program.Switching

/-! # Streams that have been started and not stopped

An acknowledged start switches a feed on and a stop that is asked for switches it off,
however the stop ends. A feed that is on is flagged as running, so that whoever goes by
the flags stops every feed that is on and starts none of them twice. Only the RK-local build
has an exception: what the Agent has started with other settings is on and not flagged.
-/
namespace PrismRosAdapter.Driver
open Program Switching

/-- What an event says of a feed. A board IMU or LiDAR of the RK-local build has been started
when the Agent says so. Camera and board IMU share one capture session: a board IMU that has
stopped has ended both. -/
def Event.word (w : World) : Event → Feed → Option Bool
  | .startVideo _ (.ok status), .camera => some status.enabled
  | .stopVideo _, .camera => some false
  | .imuStop (.ok _), .camera => some false
  | .imuStart _ _ (.ok _), .boardImu => if w.rkLocal then none else some true
  | .startImu _ _ (.ok _), .boardImu => if w.rkLocal then some true else none
  | .imuStop _, .boardImu => some false
  | .lidarStart _ (.ok _), .lidar => if w.rkLocal then none else some true
  | .startLidar _ (.ok status), .lidar => if w.rkLocal then some status.enabled else none
  | .lidarStop _, .lidar => some false
  | .startRoverRtcm (.ok enabled), .rover => some enabled
  | .stopRoverRtcm _, .rover => some false
  | _, _ => none

def word (w : World) (e : Entry) (f : Feed) : Option Bool := e.event.word w f

namespace DriverState

/-- The feed has been started and not been asked to stop since. -/
def on (s : DriverState) (w : World) (f : Feed) : Bool := Switching.on (word w) s.link.journal f

/-- The last that is known of the feed is that the Agent has started it with other settings. -/
def Stray (s : DriverState) (w : World) (f : Feed) : Prop := w.rkLocal = true ∧
  ∃ e, last (word w) s.link.journal f = some e ∧ e.event.differs = some f

/-- Whether a start is held back: the RK-local objects go by their own flag. -/
def engaged (s : DriverState) (w : World) (f : Feed) : Bool :=
  if w.rkLocal then s.active f else s.flag f

end DriverState

/-- Every feed that is on is flagged, or it is stray. -/
def Covered (w : World) (s : DriverState) : Prop :=
  ∀ f, s.on w f = true → s.flag f = true ∨ s.Stray w f

/-- No feed that is on is started again, unless it is rover RTCM. -/
structure InStep (w : World) (s : DriverState) : Prop where
  engaged : ∀ f, s.on w f = true → s.engaged w f = true
  alternate : ∀ f, f ≠ .rover → Alternates (word w) s.link.journal f

theorem InStep.off {w : World} {s : DriverState} (h : InStep w s) {f : Feed}
    (hf : s.engaged w f = false) : s.on w f = false :=
  Bool.eq_false_iff.mpr fun hon => Bool.noConfusion (hf.symm.trans (h.engaged f hon))

/-- Both are kept, each by itself. -/
structure Keeping (w : World) (s t : DriverState) : Prop where
  covered : Covered w s → Covered w t
  inStep : InStep w s → InStep w t

instance {w : World} : Std.Refl (Keeping w) := ⟨fun _ => ⟨id,id⟩⟩
instance {w : World} : IsTrans DriverState (Keeping w) :=
  ⟨fun _ _ _ h h' => ⟨h'.covered ∘ h.covered,h'.inStep ∘ h.inStep⟩⟩

/-- The flags stay and no event says anything of a feed; only stream objects of the feeds in
`A` change. -/
structure Unspoken (w : World) (A : Feed → Prop) (s t : DriverState) : Prop where
  later : Later s t
  silent : ∀ e ∈ since s t, ∀ f, word w e f = none
  flag : ∀ f, t.flag f = s.flag f
  active : ∀ f, ¬ A f → t.active f = s.active f

abbrev Steady (w : World) : DriverState → DriverState → Prop := Unspoken w fun _ => False

section
variable {w : World} {A : Feed → Prop}

theorem Unspoken.refl (s : DriverState) : Unspoken w A s s :=
  ⟨List.prefix_refl _,by simp [since_self],fun _ => rfl,fun _ _ => rfl⟩

theorem Unspoken.trans {s t u : DriverState} (h : Unspoken w A s t) (h' : Unspoken w A t u) :
    Unspoken w A s u := by
  refine ⟨h.later.trans h'.later,?_,fun f => (h'.flag f).trans (h.flag f),
    fun f hf => (h'.active f hf).trans (h.active f hf)⟩
  rw [since_trans h.later h'.later]
  intro e he
  rcases List.mem_append.mp he with he | he
  · exact h.silent e he
  · exact h'.silent e he

instance : Std.Refl (Unspoken w A) := ⟨Unspoken.refl⟩
instance : IsTrans DriverState (Unspoken w A) := ⟨fun _ _ _ => Unspoken.trans⟩

theorem Event.word_of_feed {e : Event} (h : e.feed = none) (f : Feed) : e.word w f = none := by
  cases e <;> first | rfl | cases h

end

section Unspoken
variable {w : World} {A : Feed → Prop} {s t u : DriverState}

theorem Unspoken.on_eq (h : Unspoken w A s t) (f : Feed) : t.on w f = s.on w f := by
  unfold DriverState.on
  rw [journal_later h.later]
  exact on_append_silent fun e he => h.silent e he f

theorem Unspoken.last_eq (h : Unspoken w A s t) (f : Feed) :
    last (word w) t.link.journal f = last (word w) s.link.journal f := by
  rw [journal_later h.later]
  exact last_append_silent fun e he => h.silent e he f

theorem Unspoken.alternates (h : Unspoken w A s t) {f : Feed}
    (hs : Alternates (word w) s.link.journal f) : Alternates (word w) t.link.journal f := by
  rw [journal_later h.later]
  exact hs.append_falling fun e he hw => Option.some_ne_none true (hw.symm.trans (h.silent e he f))

theorem Unspoken.covered (h : Unspoken w A s t) (hs : Covered w s) : Covered w t := by
  intro f hf
  rw [h.flag,DriverState.Stray,h.last_eq]
  exact hs f (h.on_eq f ▸ hf)

theorem Steady.engaged_eq (h : Steady w s t) (f : Feed) : t.engaged w f = s.engaged w f := by
  rw [DriverState.engaged,DriverState.engaged,h.flag,h.active f id]

theorem Steady.keeping (h : Steady w s t) : Keeping w s t where
  covered := h.covered
  inStep hs := ⟨fun f hf => (h.engaged_eq f).trans (hs.engaged f (h.on_eq f ▸ hf)),
    fun f hf => h.alternates (hs.alternate f hf)⟩

theorem Unspoken.of_steady (h : Steady w s t) : Unspoken w A s t :=
  ⟨h.later,h.silent,h.flag,fun f _ => h.active f id⟩

theorem unspoken_linked (hj : Linked s t) (hf : ∀ f, t.flag f = s.flag f)
    (ha : ∀ f, ¬ A f → t.active f = s.active f) : Unspoken w A s t :=
  ⟨hj.later,by simp [hj.since_eq],hf,ha⟩

theorem Confined.steady {K : Event → Prop} (h : Confined (fun _ => False) K s t) : Steady w s t where
  later := h.later
  silent e he := Event.word_of_feed (Option.eq_none_iff_forall_ne_some.mpr fun f hf =>
    (h.events e he).2 f hf)
  flag f := (h.spared f id).flag
  active f hf := (h.spared f hf).active

theorem keeping_steady {α : Type} {x : Driving α} (h : Within (Steady w) x) :
    Within (Keeping w) x := h.mono fun _ _ => Steady.keeping

theorem steady_quiet {α : Type} {x : Driving α} (h : Within Quiet x) : Within (Steady w) x :=
  h.mono fun _ _ => Confined.steady

theorem unspoken_steady {α : Type} {x : Driving α} (h : Within (Steady w) x) :
    Within (Unspoken w A) x := h.mono fun _ _ => Unspoken.of_steady

theorem keeping_quiet {α : Type} {x : Driving α} (h : Within Quiet x) : Within (Keeping w) x :=
  keeping_steady (steady_quiet h)

theorem active_of_objects {g : Control → Control} (hr : ∀ c, (g c).running = c.running)
    (ho : ∀ c, isActive (g c).imuStream = isActive c.imuStream ∧
      isActive (g c).lidarStream = isActive c.lidarStream) (s : DriverState) (f : Feed) :
    { s with control := g s.control }.active f = s.active f := by
  cases f with
  | camera => exact congrArg Running.video (hr s.control)
  | boardImu => exact (ho s.control).1
  | lidar => exact (ho s.control).2
  | rover => exact congrArg Running.rover (hr s.control)

theorem steady_modifyControl {g : Control → Control} (hr : ∀ c, (g c).running = c.running)
    (ho : ∀ c, isActive (g c).imuStream = isActive c.imuStream ∧
      isActive (g c).lidarStream = isActive c.lidarStream) : Within (Steady w) (modifyControl g) :=
  within_modify fun s => unspoken_linked ⟨rfl,rfl,rfl⟩
    (fun f => congrArg (Running.flag · f) (hr s.control)) fun f _ => active_of_objects hr ho s f

theorem steady_silent {g : DriverState → DriverState}
    (hj : ∀ s, (g s).link.journal = s.link.journal) (hc : ∀ s, (g s).control = s.control) :
    Within (Steady w) (modify g : Driving Unit) :=
  within_modify fun s => by
    refine ⟨?_,?_,fun f => congrArg (fun c => c.running.flag f) (hc s),fun f _ => ?_⟩
    · rw [Later,hj s]
    · simp [since,hj s]
    · cases f <;> simp only [DriverState.active, hc]

theorem steady_modifyHealth (g : Health.SensorDataHealth → Health.SensorDataHealth) :
    Within (Steady w) (modifyHealth g) := steady_silent (fun _ => rfl) fun _ => rfl

theorem unspoken_note {event : Event} (h : ∀ f, event.word w f = none) (s : DriverState) :
    Unspoken w A s (s.note event) where
  later := later_note s event
  silent := by
    rw [since_note]
    intro e he f
    obtain rfl := List.mem_singleton.mp he
    exact h f
  flag _ := rfl
  active f _ := active_note s event f

theorem steady_nextCall : Within (Steady w) nextCall := steady_quiet within_nextCall

theorem steady_call {α : Type} (reply : ℕ → Except Failure α) : Within (Steady w) (do
    let call ← nextCall
    answer (reply call)) := within_bind steady_nextCall fun _ => within_answer _

theorem steady_ask {α : Type} {event : Except Failure α → Event} {reply : ℕ → Except Failure α}
    (h : ∀ a f, (event a).word w f = none) : Within (Steady w) (ask event reply) :=
  within_andThen (steady_call reply) fun a s => unspoken_note (h a) s

end Unspoken

/-! ## One call that says something -/

section Told
variable {w : World} {A : Feed → Prop} {s t u : DriverState} {event : Event} {after : List Entry}

theorem on_told (hu : Unspoken w A s u)
    (hj : t.link.journal = (u.note event).link.journal ++ after)
    (hafter : ∀ e ∈ after, ∀ f, word w e f = none) (f : Feed) :
    t.on w f = (event.word w f).getD (s.on w f) := by
  rw [DriverState.on,hj,on_append_silent fun e he => hafter e he f,← hu.on_eq f]
  exact on_snoc

theorem last_told (hu : Unspoken w A s u)
    (hj : t.link.journal = (u.note event).link.journal ++ after)
    (hafter : ∀ e ∈ after, ∀ f, word w e f = none) (f : Feed) :
    (event.word w f = none → last (word w) t.link.journal f = last (word w) s.link.journal f) ∧
      (event.word w f ≠ none → ∃ e, last (word w) t.link.journal f = some e ∧ e.event = event) := by
  rw [hj,last_append_silent fun e he => hafter e he f,← hu.last_eq f]
  constructor
  · intro hw
    refine last_snoc.trans (if_neg ?_)
    simpa [word] using hw
  · intro hw
    refine ⟨_,last_snoc.trans (if_pos ?_),rfl⟩
    simpa [word, Option.isSome_iff_ne_none] using hw

/-- The journal takes up an event; flags and stream objects follow what it says. -/
theorem keeping_told (hu : Unspoken w A s u)
    (hj : t.link.journal = (u.note event).link.journal ++ after)
    (hafter : ∀ e ∈ after, ∀ f, word w e f = none)
    (hon : ∀ f, event.word w f = some true → f = .rover ∨ s.engaged w f = false)
    (hengaged : ∀ f, (event.word w f).getD (s.engaged w f) = true → t.engaged w f = true)
    (hflag : ∀ f, (event.word w f).getD (s.flag f) = true → t.flag f = true ∨
      w.rkLocal = true ∧ event.word w f ≠ none ∧ event.differs = some f) : Keeping w s t where
  covered hs f hf := by
    rw [on_told hu hj hafter] at hf
    obtain ⟨hsilent,hspoken⟩ := last_told hu hj hafter f
    have hstray : w.rkLocal = true ∧ event.word w f ≠ none ∧ event.differs = some f →
        t.Stray w f := fun ⟨hw,hne,hd⟩ => by
      obtain ⟨e,he,rfl⟩ := hspoken hne
      exact ⟨hw,e,he,hd⟩
    cases hw : event.word w f with
    | none =>
      rw [hw,Option.getD_none] at hf
      rcases hs f hf with h | h
      · exact (hflag f (by rw [hw]; exact h)).imp_right hstray
      · rw [DriverState.Stray,hsilent hw]
        exact .inr h
    | some b =>
      rw [hw] at hf
      exact (hflag f (by rw [hw]; exact hf)).imp_right hstray
  inStep hs := by
    refine ⟨fun f hf => hengaged f ?_,fun f hf => ?_⟩
    · rw [on_told hu hj hafter] at hf
      cases hw : event.word w f with
      | none =>
        rw [hw,Option.getD_none] at hf
        exact hs.engaged f hf
      | some b => rwa [hw] at hf
    · rw [hj]
      refine Alternates.append_falling ?_ fun e he hw =>
        Option.some_ne_none true (hw.symm.trans (hafter e he f))
      refine alternates_snoc.mpr ⟨hu.alternates (hs.alternate f hf),fun hw => ?_⟩
      by_contra hne
      have hoff := (hon f hw).resolve_left hf
      have hengaged := hs.engaged f ((hu.on_eq f).symm.trans (Bool.not_eq_false _ ▸ hne))
      exact Bool.noConfusion (hoff.symm.trans hengaged)

end Told
/-! ## Starts -/

section Starts
variable {w : World} {s t : DriverState}

theorem steady_resetHealth (stream : Health.Stream) (rate : ℚ) (silenceNs : UInt64) :
    Within (Steady w) (resetHealth w stream rate silenceNs) :=
  within_bind (steady_quiet (within_steadyNowNs w)) fun _ => steady_modifyHealth _

theorem steady_armCamera (fps : ℚ) : Within (Steady w) (armCamera w fps) :=
  within_bind within_get fun _ =>
    within_bind (within_forEach (fun _ => steady_resetHealth _ _ _) _) fun _ =>
      steady_resetHealth _ _ _

theorem steady_called (s : DriverState) :
    Steady w s { s with link := { s.link with calls := s.link.calls + 1 } } :=
  ⟨List.prefix_refl _,by simp [since],fun _ => rfl,fun f _ => by cases f <;> rfl⟩

/-- A call without an answer. -/
theorem steady_asked {event : Event} (h : ∀ f, event.word w f = none) (s : DriverState) :
    Steady w s (s.asked event) := (steady_called s).trans (unspoken_note h _)

theorem engaged_camera (s : DriverState) : s.engaged w .camera = s.flag .camera := by
  rw [DriverState.engaged]
  split <;> rfl

theorem engaged_rover (s : DriverState) : s.engaged w .rover = s.flag .rover := by
  rw [DriverState.engaged]
  split <;> rfl

theorem engaged_mono {f : Feed} (hf : s.flag f = true → t.flag f = true)
    (ha : s.active f = true → t.active f = true) (h : s.engaged w f = true) :
    t.engaged w f = true := by
  unfold DriverState.engaged at h ⊢
  split at h
  · rename_i hw
    rw [if_pos hw]
    exact ha h
  · rename_i hw
    rw [if_neg hw]
    exact hf h

/-- A start of the camera or the rover: the flag takes up the answer as it is. -/
theorem keeping_answered {f : Feed} {event : Event} {b : Bool} {r : Running}
    (hf : f = .camera ∨ f = .rover)
    (hw : ∀ g, event.word w g = if g = f then some b else none)
    (hr : ∀ g, r.flag g = if g = f then b else s.flag g)
    (hoff : f = .camera → s.flag .camera = false) (c : DriverConfig) :
    Keeping w s { s.asked event with control := { s.control with running := r, config := c } } := by
  refine keeping_told (steady_called s) (List.append_nil _).symm (by simp) ?_ ?_ ?_
  · intro g hg
    rw [hw] at hg
    split at hg
    · rename_i hgf
      rw [hgf]
      rcases hf with rfl | rfl
      · exact .inr ((engaged_camera s).trans (hoff rfl))
      · exact .inl rfl
    · cases hg
  · intro g hg
    rw [hw] at hg
    by_cases hgf : g = f
    · subst hgf
      rw [if_pos rfl] at hg
      have hon : r.flag g = true := (hr g).trans ((if_pos rfl).trans hg)
      rcases hf with rfl | rfl
      · exact (engaged_camera _).trans hon
      · exact (engaged_rover _).trans hon
    · rw [if_neg hgf] at hg
      have hflag : r.flag g = s.flag g := (hr g).trans (if_neg hgf)
      refine engaged_mono (fun h => hflag.trans h) (fun h => ?_) hg
      cases g <;> first | exact h | exact hflag.trans h
  · intro g hg
    rw [hw] at hg
    refine .inl ((hr g).trans ?_)
    by_cases hgf : g = f
    · rw [if_pos hgf] at hg ⊢
      exact hg
    · rw [if_neg hgf] at hg ⊢
      exact hg

theorem keeping_startCamera : Within (Keeping w) (startCamera w) := by
  refine within_of_leaves fun s t h => ?_
  replace h := leaves_get_bind.mp h
  split at h
  · rename_i hc
    rw [Bool.and_eq_true,Bool.not_eq_true'] at hc
    rcases leaves_bind.mp h with ⟨e,h⟩ | ⟨video,a,ha,h⟩
    · obtain ⟨_,rfl⟩ := throws_ask.mp h
      exact (steady_asked (fun g => by cases g <;> rfl) s).keeping
    obtain ⟨_,rfl⟩ := returns_ask.mp ha
    obtain ⟨_,b,hb,h⟩ := (total_modify _).leaves_bind.mp h
    obtain rfl := returns_modify.mp hb
    have hrest : Within (Steady w) (do
        if ¬ video.enabled then throw (.adapter "camera start was rejected")
        armCamera w video.fps) :=
      within_ite (within_throw _) (steady_armCamera _)
    refine IsTrans.trans _ _ _ (keeping_answered (f := .camera) (b := video.enabled) (.inl rfl)
      ?_ ?_ (fun _ => hc.2) s.control.config) (hrest.leaves h).keeping
    · exact fun g => by cases g <;> rfl
    · exact fun g => by cases g <;> rfl
  · rw [leaves_pure.mp h]
    exact Std.Refl.refl s

theorem keeping_startRover : Within (Keeping w) (startRover w) := by
  refine within_of_leaves fun s t h => ?_
  replace h := leaves_get_bind.mp h
  split at h
  · obtain ⟨_,a,ha,h⟩ := total_resetHealth.leaves_bind.mp h
    obtain ⟨_,b,hb,h⟩ := (total_modify _).leaves_bind.mp h
    have hsb : Steady w s b := ((steady_resetHealth _ _ _).returns ha).trans
      ((steady_modifyHealth fun h => h.resetCounter .roverRtcm .lostBytes).returns hb)
    refine IsTrans.trans _ _ _ hsb.keeping ?_
    rcases leaves_bind.mp h with ⟨e,h⟩ | ⟨enabled,c,hc,h⟩
    · obtain ⟨_,rfl⟩ := throws_ask.mp h
      exact (steady_asked (fun g => by cases g <;> rfl) b).keeping
    obtain ⟨_,rfl⟩ := returns_ask.mp hc
    obtain ⟨_,d,hd,h⟩ := (total_modify _).leaves_bind.mp h
    obtain rfl := returns_modify.mp hd
    have hrest : Within (Steady w) (if ¬ enabled then throw (.adapter "rover RTCM start rejected")
        else return () : Driving Unit) := within_ite (within_throw _) (within_pure ())
    refine IsTrans.trans _ _ _ (keeping_answered (f := .rover) (b := enabled) (.inr rfl) ?_ ?_
      (by simp) b.control.config) (hrest.leaves h).keeping
    · exact fun g => by cases g <;> rfl
    · exact fun g => by cases g <;> rfl
  · rw [leaves_pure.mp h]
    exact Std.Refl.refl s

/-- What the events of the start of a stream object say: the wrapper's own of the host build
and the Agent's of the RK-local build. -/
structure StreamStart (w : World) (f : Feed) {α : Type} (wrapper : Except Failure Unit → Event)
    (agent : Except Failure α → Event) (enabled refuses : α → Bool) : Prop where
  failed : ∀ e g, (wrapper (.error e)).word w g = none
  host : w.rkLocal = false → ∀ g, (wrapper (.ok ())).word w g = if g = f then some true else none
  wrapped : w.rkLocal = true → ∀ g, (wrapper (.ok ())).word w g = none
  unanswered : ∀ e g, (agent (.error e)).word w g = none
  answered : w.rkLocal = true → ∀ status g,
    (agent (.ok status)).word w g = if g = f then some (enabled status) else none
  refused : ∀ status, refuses status = true → enabled status = true →
    (agent (.ok status)).differs = some f
  accepted : ∀ status, refuses status = false → enabled status = true

/-- Only the stream object of `f` is changed. -/
structure Activated (f : Feed) (active : Bool) (s t : DriverState) : Prop where
  journal : t.link.journal = s.link.journal
  running : t.control.running = s.control.running
  active : t.active f = active
  others : ∀ g, g ≠ f → t.active g = s.active g

section Object
variable {f : Feed} {α : Type} {wrapper : Except Failure Unit → Event}
  {agent : Except Failure α → Event} {enabled refuses : α → Bool} {raise : Running → Running}
  {u v : DriverState} {status : α}

/-- A flag that goes up switches nothing on. -/
theorem keeping_raised (hraise : ∀ r g, r.flag g = true → (raise r).flag g = true)
    (ha : w.rkLocal = true → ∀ r, (raise r).video = r.video ∧ (raise r).rover = r.rover)
    (s : DriverState) :
    Keeping w s { s with control := { s.control with running := raise s.control.running } } where
  covered hs g hg := (hs g hg).imp_left (hraise _ g)
  inStep hs := by
    refine ⟨fun g hg => ?_,hs.alternate⟩
    have h := hs.engaged g hg
    unfold DriverState.engaged at h ⊢
    split at h
    · rename_i hw
      rw [if_pos hw]
      cases g with
      | camera => exact (ha hw _).1.trans h
      | rover => exact (ha hw _).2.trans h
      | _ => exact h
    · rename_i hw
      rw [if_neg hw]
      exact hraise _ g h

/-- The Agent has answered; whether its settings are accepted decides about the flag. -/
theorem keeping_acknowledged {a : Except Failure Unit}
    (h : StreamStart w f wrapper agent enabled refuses) (hw : w.rkLocal = true)
    (hv : Activated f (enabled status) (s.asked (agent (.ok status))) v)
    (hoff : s.active f = false) (ha : ∀ g, (wrapper a).word w g = none)
    (hj : t.link.journal = (v.note (wrapper a)).link.journal)
    (hactive : ∀ g, t.active g = v.active g)
    (hflag : ∀ g, t.flag g = if g = f then !refuses status else s.flag g) : Keeping w s t := by
  have hjournal : (v.note (wrapper a)).link.journal = (s.asked (agent (.ok status))).link.journal ++
      [⟨wrapper a,v.control.running,v.link.session,v.link.verified,v.health⟩] :=
    congrArg (· ++ _) hv.journal
  refine keeping_told (steady_called s) (hj.trans hjournal) ?_ ?_ ?_ ?_
  · intro e he g
    obtain rfl := List.mem_singleton.mp he
    exact ha g
  · intro g hg
    rw [h.answered hw] at hg
    split at hg
    · rename_i hgf
      rw [hgf,DriverState.engaged,if_pos hw]
      exact .inr hoff
    · cases hg
  · intro g hg
    rw [h.answered hw] at hg
    rw [DriverState.engaged,if_pos hw,hactive]
    by_cases hgf : g = f
    · subst hgf
      rw [if_pos rfl] at hg
      exact hv.active.trans hg
    · rw [if_neg hgf,Option.getD_none,DriverState.engaged,if_pos hw] at hg
      exact (hv.others g hgf).trans ((active_note _ _ _).trans (by cases g <;> exact hg))
  · intro g hg
    rw [h.answered hw] at hg
    by_cases hgf : g = f
    · subst hgf
      rw [if_pos rfl] at hg
      rw [hflag,if_pos rfl,h.answered hw,if_pos rfl]
      cases hr : refuses status with
      | false => exact .inl rfl
      | true => exact .inr ⟨hw,Option.some_ne_none _,h.refused status hr hg⟩
    · rw [if_neg hgf,Option.getD_none] at hg
      rw [hflag,if_neg hgf]
      exact .inl hg

/-- The start of a stream object that is not flagged, with its flag. -/
theorem keeping_objectStart {start : Driving Unit} {reply : ℕ → Except Failure α}
    {hosted : ℕ → Except Failure Unit} {keep : α → Driving Unit} {text : String}
    (h : StreamStart w f wrapper agent enabled refuses) (hf : f = .boardImu ∨ f = .lidar)
    (hl : (recorded wrapper (if w.rkLocal then start else hostCall hosted) >>= fun _ =>
      setRunning raise).Leaves s t)
    (hraise : ∀ r g, (raise r).flag g = if g = f then true else r.flag g)
    (hstart : start s = rkStart (s.active f) agent reply keep refuses text s)
    (hoff : s.flag f = false) (htotal : ∀ status, (keep status).Total)
    (hkeep : ∀ status u v, u.control = s.control → (keep status).Returns u () v →
      Activated f (enabled status) u v) : Keeping w s t := by
  have hothers : ∀ r, (raise r).video = r.video ∧ (raise r).rover = r.rover := fun r => by
    have hcamera := hraise r .camera
    have hrover := hraise r .rover
    rcases hf with rfl | rfl <;> exact ⟨hcamera,hrover⟩
  have hactive : ∀ (u : DriverState) g, { u with control := { u.control with
      running := raise u.control.running } }.active g = u.active g := fun u g => by
    cases g <;> first | rfl | exact (hothers _).1 | exact (hothers _).2
  rcases leaves_bind.mp hl with ⟨e,hl⟩ | ⟨_,a,ha,hl⟩
  · obtain ⟨u,hu,rfl⟩ := throws_andThen.mp hl
    split at hu
    · rename_i hw
      rw [Throws,hstart] at hu
      obtain ⟨hact,hu⟩ := rkStart_throws (fun status e u v => htotal status u e v) hu
      rcases hu with ⟨e',rfl⟩ | ⟨status,hrefused,hk⟩
      · exact Steady.keeping ((steady_asked (h.unanswered e') s).trans (unspoken_note (h.failed e) _))
      · have hv := hkeep status (s.asked (agent (.ok status))) u rfl hk
        refine keeping_acknowledged h hw hv hact (h.failed e) rfl (active_note u _) fun g => ?_
        rw [hrefused]
        refine (congrArg (Running.flag · g) hv.running).trans ?_
        split
        · rename_i hgf
          rw [hgf]
          exact hoff
        · rfl
    · rw [throws_hostCall hu]
      exact Steady.keeping ((steady_called s).trans (unspoken_note (h.failed e) _))
  · obtain ⟨u,hu,rfl⟩ := returns_andThen.mp ha
    obtain rfl := hl
    split at hu
    · rename_i hw
      rw [Returns,hstart] at hu
      rcases rkStart_returns hu with ⟨_,rfl⟩ | ⟨hact,status,hkept,hk⟩
      · refine IsTrans.trans _ _ _ (Steady.keeping (unspoken_note (h.wrapped hw) u)) ?_
        refine keeping_raised (fun r g hg => ?_) (fun _ => hothers) _
        rw [hraise]
        split
        · rfl
        · exact hg
      · have hv := hkeep status (s.asked (agent (.ok status))) u rfl hk
        refine keeping_acknowledged h hw hv hact (h.wrapped hw) rfl (hactive _) fun g => ?_
        rw [hkept]
        refine (hraise _ g).trans ?_
        split
        · rfl
        · exact congrArg (Running.flag · g) hv.running
    · rename_i hw
      rw [Bool.not_eq_true] at hw
      rw [returns_hostCall hu]
      refine keeping_told (steady_called s) (List.append_nil _).symm (by simp) ?_ ?_ ?_
      · intro g hg
        rw [h.host hw] at hg
        split at hg
        · rename_i hgf
          rw [hgf,DriverState.engaged,if_neg (by simp [hw])]
          exact .inr hoff
        · cases hg
      · intro g hg
        rw [h.host hw] at hg
        rw [DriverState.engaged,if_neg (by simp [hw])]
        refine (hraise _ g).trans ?_
        split at hg
        · rename_i hgf
          exact if_pos hgf
        · rename_i hgf
          rw [Option.getD_none,DriverState.engaged,if_neg (by simp [hw])] at hg
          exact (if_neg hgf).trans hg
      · intro g hg
        rw [h.host hw] at hg
        refine .inl ((hraise _ g).trans ?_)
        split at hg
        · rename_i hgf
          exact if_pos hgf
        · rename_i hgf
          exact (if_neg hgf).trans hg

end Object
theorem streamStart_imu (sensors rate : UInt32) : StreamStart w .boardImu (.imuStart sensors rate)
    (.startImu sensors rate) (fun _ => true) (fun status =>
      decide (status.sensors ≠ sensors ∨ (rate ≠ 0 ∧ status.nominalRateHz ≠ rate))) where
  failed _ g := by cases g <;> rfl
  host hw g := by cases g <;> simp [Event.word, hw]
  wrapped hw g := by cases g <;> simp [Event.word, hw]
  unanswered _ g := by cases g <;> rfl
  answered hw _ g := by cases g <;> simp [Event.word, hw]
  refused _ hr _ := if_pos (of_decide_eq_true hr)
  accepted _ _ := rfl

theorem streamStart_lidar (model : SdkLidarModel) : StreamStart w .lidar (.lidarStart model)
    (.startLidar model) (·.enabled)
    (fun status => decide (¬ status.enabled ∨ status.model ≠ model)) where
  failed _ g := by cases g <;> rfl
  host hw g := by cases g <;> simp [Event.word, hw]
  wrapped hw g := by cases g <;> simp [Event.word, hw]
  unanswered _ g := by cases g <;> rfl
  answered hw _ g := by cases g <;> simp [Event.word, hw]
  refused _ hr he := if_pos ⟨he,(of_decide_eq_true hr).resolve_left (not_not.mpr he)⟩
  accepted _ hr := by
    by_contra hne
    exact of_decide_eq_false hr (.inl hne)

theorem activated_of {f : Feed} {active : Bool} {K : Event → Prop} (hc : Confined (· = f) K s t)
    (ha : t.active f = active) (hr : t.control.running = s.control.running)
    (hj : t.link.journal = s.link.journal) : Activated f active s t :=
  ⟨hj,hr,ha,fun g hg => (hc.spared g hg).active⟩

theorem keeping_startBoardImu : Within (Keeping w) (startBoardImu w) := by
  refine within_of_leaves fun s t h => ?_
  replace h := leaves_get_bind.mp h
  split at h
  · rename_i hc
    rw [Bool.and_eq_true,Bool.not_eq_true'] at hc
    split at h
    · rw [leaves_throw_bind.mp h]
      exact Std.Refl.refl s
    rename_i hi
    rw [Option.isNone_iff_eq_none,← ne_eq,← Option.isSome_iff_ne_none] at hi
    obtain ⟨_,a,ha,h⟩ := total_armImu.leaves_bind.mp h
    obtain ⟨harm,_⟩ := armImu_returns ha
    have hsteady : Within (Steady w) (armImu w) :=
      within_bind within_get fun _ => within_bind (steady_resetHealth _ _ _) fun _ =>
        steady_resetHealth _ _ _
    refine IsTrans.trans _ _ _ (hsteady.returns ha).keeping ?_
    refine keeping_objectStart (streamStart_imu _ _) (.inl rfl) h (fun r g => ?_) rfl ?_ ?_ ?_
    · cases g <;> rfl
    · exact (congrArg (fun c => c.running.imu) harm.control).trans hc.2
    · exact fun _ => total_modify _
    · intro status u v hu hk
      have hpresent : u.control.imuStream.isSome = true := by rwa [hu,harm.control]
      obtain ⟨hconfined,hactive,hrunning,_,hj⟩ := setImuActive_returns hk hpresent
      exact activated_of hconfined hactive hrunning hj
  · rw [leaves_pure.mp h]
    exact Std.Refl.refl s

theorem keeping_startLidar : Within (Keeping w) (startLidar w) := by
  refine within_of_leaves fun s t h => ?_
  replace h := leaves_get_bind.mp h
  split at h
  · rename_i hc
    rw [Bool.and_eq_true,Bool.not_eq_true'] at hc
    split at h
    · rw [leaves_throw_bind.mp h]
      exact Std.Refl.refl s
    rename_i hi
    rw [Option.isNone_iff_eq_none,← ne_eq,← Option.isSome_iff_ne_none] at hi
    have htotal : (accumulate Lidar.reset).Total := fun _ _ _ h => by cases h
    obtain ⟨_,a,ha,h⟩ := htotal.leaves_bind.mp h
    obtain rfl := ha.state
    obtain ⟨_,b,hb,h⟩ := total_armLidar.leaves_bind.mp h
    obtain ⟨harm,_⟩ := armLidar_returns hb
    have hsteady : Within (Steady w) (armLidar w) :=
      within_bind within_get fun _ => within_bind (steady_resetHealth _ _ _) fun _ =>
        steady_resetHealth _ _ _
    have hreset : Within (Steady w) (accumulate Lidar.reset) := steady_quiet (within_accumulate _)
    refine IsTrans.trans _ _ _ (Steady.keeping ((hreset s).trans (hsteady.returns hb))) ?_
    refine keeping_objectStart (streamStart_lidar _) (.inr rfl) h (fun r g => ?_) rfl ?_ ?_ ?_
    · cases g <;> rfl
    · exact (congrArg (fun c => c.running.lidar) harm.control).trans hc.2
    · exact fun _ => total_modify _
    · intro status u v hu hk
      have hpresent : u.control.lidarStream.isSome = true := by
        rw [hu,harm.control]
        exact hi
      obtain ⟨hconfined,hactive,hrunning,_,hj⟩ := setLidarActive_returns hk hpresent
      exact activated_of hconfined hactive hrunning hj
  · rw [leaves_pure.mp h]
    exact Std.Refl.refl s

theorem steady_ensureStreamObjects : Within (Steady w) ensureStreamObjects :=
  steady_modifyControl modest_ensured.running modest_ensured.objects

theorem keeping_start : Within (Keeping w) (startConfiguredStreams w) :=
  within_bind (keeping_steady steady_ensureStreamObjects) fun _ =>
    within_bind keeping_startCamera fun _ => within_bind keeping_startBoardImu fun _ =>
      within_bind (keeping_quiet (quiet_establishDeviceTimeReference w)) fun _ =>
        within_bind keeping_startRover fun _ => keeping_startLidar

end Starts
/-! ## Stops and commands -/

/-- A stop that says of the feed that it is off, however it ends. -/
structure Quietens {α : Type} (w : World) (event : Except Failure α → Event) (f : Feed) :
    Prop where
  off : ∀ a, (event a).word w f = some false
  falls : ∀ a f, (event a).word w f ≠ some true

section Stops
variable {w : World} {s t : DriverState}

theorem quietens_rover : Quietens w .stopRoverRtcm .rover where
  off _ := rfl
  falls a f := by cases a <;> cases f <;> nofun

theorem quietens_lidar : Quietens w .lidarStop .lidar where
  off _ := rfl
  falls a f := by cases a <;> cases f <;> nofun

theorem quietens_imu : Quietens w .imuStop .boardImu where
  off a := by cases a <;> rfl
  falls a f := by cases a <;> cases f <;> nofun

theorem quietens_video : Quietens w .stopVideo .camera where
  off _ := rfl
  falls a f := by cases a <;> cases f <;> nofun

theorem unspoken_hostCall {A : Feed → Prop} (reply : ℕ → Except Failure Unit) :
    Within (Unspoken w A) (hostCall reply) := unspoken_steady (steady_call reply)

theorem unspoken_rkStop {A : Feed → Prop} {active : Bool} {deactivate : Driving Unit}
    {event : Except Failure Unit → Event} {reply : ℕ → Except Failure Unit}
    (he : ∀ a f, (event a).word w f = none) (hd : Within (Unspoken w A) deactivate) :
    Within (Unspoken w A) (rkStop w active deactivate event reply) := by
  refine within_ite (within_bind hd fun _ => ?_) (within_pure ())
  exact within_bind (unspoken_steady steady_nextCall) fun _ =>
    within_ite (unspoken_steady (steady_ask he)) (within_pure ())

theorem unspoken_imuStop :
    Within (Unspoken w (· = .boardImu)) (if w.rkLocal then rkImuStop w else hostCall w.imuStop) := by
  refine within_ite (within_bind within_get fun _ => unspoken_rkStop (fun _ f => by cases f <;> rfl) ?_)
    (unspoken_hostCall _)
  exact within_modify fun s => unspoken_linked ⟨rfl,rfl,rfl⟩ (fun _ => rfl)
    fun f hf => by cases f <;> first | rfl | exact absurd rfl hf

theorem unspoken_lidarStop :
    Within (Unspoken w (· = .lidar)) (if w.rkLocal then rkLidarStop w else hostCall w.lidarStop) := by
  refine within_ite (within_bind within_get fun _ => unspoken_rkStop (fun _ f => by cases f <;> rfl) ?_)
    (unspoken_hostCall _)
  exact within_modify fun s => unspoken_linked ⟨rfl,rfl,rfl⟩ (fun _ => rfl)
    fun f hf => by cases f <;> first | rfl | exact absurd rfl hf

/-- A stop that has been called, with what it does to the flags. -/
theorem keeping_quieted {α : Type} {event : Except Failure α → Event} {f : Feed}
    {u : DriverState} {a : Except Failure α} {r : Running} (hu : Unspoken w (· = f) s u)
    (he : Quietens w event f)
    (hr : ∀ g, ((event a).word w g).getD (s.flag g) = true → r.flag g = true) (c : DriverConfig) :
    Keeping w s { u.note (event a) with control := { u.control with running := r, config := c } } := by
  refine keeping_told hu (List.append_nil _).symm (by simp) ?_ (fun g hg => ?_) fun g hg => ?_
  · exact fun g hg => absurd hg (he.falls a g)
  · cases hw : (event a).word w g with
    | some b =>
      rw [hw] at hg
      exact absurd (hw.trans (congrArg some hg)) (he.falls a g)
    | none =>
      have hne : g ≠ f := fun hgf => by
        rw [hgf,he.off] at hw
        cases hw
      have hflag : s.flag g = true → r.flag g = true := fun h => hr g (by rw [hw]; exact h)
      rw [hw] at hg
      refine engaged_mono hflag (fun ha => ?_) hg
      have hactive := (hu.active g hne).trans ha
      cases g <;> first | exact hactive | exact hflag ha
  · exact .inl (hr g hg)

/-- A stop whose flags go down with it, and what is done afterwards. -/
theorem keeping_stopped {event : Except Failure Unit → Event} {x y : Driving Unit}
    {g : Running → Running} {f : Feed} (hx : Within (Unspoken w (· = f)) x)
    (he : Quietens w event f)
    (hg : ∀ r f, ((event (.ok ())).word w f).getD (r.flag f) = true → (g r).flag f = true)
    (hy : Within (Steady w) y) : Within (Keeping w) (do
      recorded event x
      setRunning g
      y) := by
  refine within_of_leaves fun s t h => ?_
  rcases leaves_bind.mp h with ⟨e,h⟩ | ⟨_,a,ha,h⟩
  · obtain ⟨u,hu,rfl⟩ := throws_andThen.mp h
    have hsu := hx.throws hu
    refine keeping_quieted (r := u.control.running) hsu he (fun k hk => ?_) u.control.config
    cases hw : (event (.error e)).word w k with
    | none =>
      rw [hw] at hk
      exact (hsu.flag k).trans hk
    | some b =>
      rw [hw] at hk
      exact absurd (hw.trans (congrArg some hk)) (he.falls _ k)
  · obtain ⟨u,hu,rfl⟩ := returns_andThen.mp ha
    obtain ⟨_,b,hb,h⟩ := (total_modify _).leaves_bind.mp h
    obtain rfl := returns_modify.mp hb
    have hsu := hx.returns hu
    refine IsTrans.trans _ _ _ (keeping_quieted (r := g u.control.running) hsu he
      (fun k hk => hg _ k ?_) u.control.config) (hy.leaves h).keeping
    rw [show u.control.running.flag k = s.flag k from hsu.flag k]
    exact hk

theorem keeping_stopRover : Within (Keeping w) (stopRover w) := by
  refine within_of_leaves fun s t h => ?_
  replace h := leaves_get_bind.mp h
  split at h
  · have hcalled : Unspoken w (· = .rover) s
        { s with link := { s.link with calls := s.link.calls + 1 } } := .of_steady (steady_called s)
    rcases leaves_bind.mp h with ⟨e,h⟩ | ⟨a,b,hb,h⟩
    · obtain ⟨_,rfl⟩ := throws_ask.mp h
      refine keeping_quieted (r := s.control.running) hcalled quietens_rover (fun g hg => ?_)
        s.control.config
      cases g <;> first | exact hg | cases hg
    · obtain ⟨_,rfl⟩ := returns_ask.mp hb
      obtain rfl := h
      refine keeping_quieted hcalled quietens_rover (fun g hg => ?_) s.control.config
      cases g <;> exact hg
  · rw [leaves_pure.mp h]
    exact Std.Refl.refl s

theorem keeping_stopLidar : Within (Keeping w) (stopLidar w) := by
  refine within_bind within_get (fun s => within_ite ?_ (within_pure ()))
  refine keeping_stopped (g := fun r => { r with lidar := false }) unspoken_lidarStop quietens_lidar
    (fun r f hf => ?_) (steady_quiet (within_accumulate Lidar.reset))
  cases f <;> exact hf

theorem keeping_stopCapture : Within (Keeping w) (stopCapture w) := by
  refine within_bind within_get (fun s => within_ite ?_ (within_ite ?_ (within_pure ())))
  · refine keeping_stopped (g := fun r => { r with imu := false, video := false })
      unspoken_imuStop quietens_imu (fun r f hf => ?_) (within_pure ())
    cases f <;> exact hf
  · refine keeping_stopped (g := fun r => { r with video := false })
      (unspoken_steady (steady_call w.stopVideo)) quietens_video (fun r f hf => ?_) (within_pure ())
    cases f <;> exact hf

theorem keeping_stop : Within (Keeping w) (stopConfiguredStreams w) :=
  within_bind (keeping_steady (steady_modifyHealth _)) fun _ =>
    within_bind keeping_stopRover fun _ => within_bind keeping_stopLidar fun _ =>
      keeping_stopCapture

/-- The Agent's answer to a stop of rover RTCM goes into the flag as it is. -/
theorem keeping_setRoverRtcm (enable : Bool) : Within (Keeping w) (setRoverRtcm w enable) := by
  have hrest : ∀ enabled, Within (Steady w)
      (if enabled ≠ enable then throw (.adapter "Agent rejected rover RTCM control")
        else return () : Driving Unit) := fun _ => within_ite (within_throw _) (within_pure ())
  refine within_of_leaves fun s t h => ?_
  have hcalled : Unspoken w (· = .rover) s
      { s with link := { s.link with calls := s.link.calls + 1 } } := .of_steady (steady_called s)
  unfold setRoverRtcm askRover at h
  split at h
  · rcases leaves_bind.mp h with ⟨e,h⟩ | ⟨enabled,a,ha,h⟩
    · obtain ⟨_,rfl⟩ := throws_ask.mp h
      exact (steady_asked (fun g => by cases g <;> rfl) s).keeping
    obtain ⟨_,rfl⟩ := returns_ask.mp ha
    obtain ⟨_,b,hb,h⟩ := (total_modify _).leaves_bind.mp h
    obtain rfl := returns_modify.mp hb
    refine IsTrans.trans _ _ _ (keeping_answered (f := .rover) (b := enabled) (.inr rfl) ?_ ?_
      (by simp) _) ((hrest enabled).leaves h).keeping
    · exact fun g => by cases g <;> rfl
    · exact fun g => by cases g <;> rfl
  · rcases leaves_bind.mp h with ⟨e,h⟩ | ⟨enabled,a,ha,h⟩
    · obtain ⟨_,rfl⟩ := throws_ask.mp h
      refine keeping_quieted (r := s.control.running) hcalled quietens_rover (fun g hg => ?_)
        s.control.config
      cases g <;> first | exact hg | cases hg
    obtain ⟨_,rfl⟩ := returns_ask.mp ha
    obtain ⟨_,b,hb,h⟩ := (total_modify _).leaves_bind.mp h
    obtain rfl := returns_modify.mp hb
    refine IsTrans.trans _ _ _ (keeping_quieted hcalled quietens_rover (fun g hg => ?_) _)
      ((hrest enabled).leaves h).keeping
    cases g <;> first | exact hg | cases hg

theorem steady_openClient : Within (Steady w) (openClient w) := by
  have hopen : ∀ network, Within (Steady w) (openSession w network) := fun _ =>
    within_bind (steady_ask fun _ f => by cases f <;> rfl) fun _ =>
      steady_silent (fun _ => rfl) fun _ => rfl
  refine within_bind within_get (fun s => within_ite ?_ (within_ite ?_ ?_))
  · exact within_bind within_get fun _ => within_bind (within_answer _) fun _ => hopen _
  · exact within_bind within_get fun _ => within_bind (within_answer _) fun _ =>
      within_bind (within_answer _) fun _ => hopen _
  · exact within_bind within_get fun _ => within_ite (hopen _) (within_bind
      (steady_quiet (quiet_consult _ _)) fun _ => within_ite (hopen _) (within_throw _))

theorem steady_verifyIdentity (info : DeviceInfo) : Within (Steady w) (verifyIdentity w info) := by
  refine within_bind within_get (fun s => within_ite (within_pure ()) (within_bind ?_ fun _ => ?_))
  · exact within_ite (within_pure _) (within_bind steady_nextCall fun _ => within_pure _)
  · exact within_bind (steady_quiet (quiet_note rfl)) fun _ =>
      within_ite (steady_silent (fun _ => rfl) fun _ => rfl) (within_throw _)

theorem upholds_keeping (w : World) : Upholds w (Keeping w) where
  control hg := keeping_steady (steady_modifyControl hg.running hg.objects)
  fatal _ := keeping_steady (steady_modifyControl (fun _ => rfl) fun _ => ⟨rfl,rfl⟩)
  status _ _ := keeping_quiet (within_publishStatus _ _)
  resolver := keeping_quiet quiet_resetResolver
  plain _ _ := keeping_quiet (quiet_consult _ _)
  query _ := keeping_quiet (quiet_query w _)
  rover := keeping_setRoverRtcm
  opened := keeping_steady steady_openClient
  detach hw := within_modify fun s => by
    have hengaged : ∀ t : DriverState, ∀ f, t.engaged w f = t.flag f := fun t f => by
      rw [DriverState.engaged,if_neg (by simp [hw])]
    refine ⟨id,fun hs => ⟨fun f hf => ?_,hs.alternate⟩⟩
    exact (hengaged _ f).trans ((hengaged s f).symm.trans (hs.engaged f hf))
  start := keeping_start
  stop := keeping_stop

theorem keeping_act (s : DriverState) (action : Action) : Keeping w s (act w s action) := by
  cases action with
  | control command => exact (upholds_keeping w).command command s
  | receive => exact Steady.keeping (steady_quiet quiet_receive s)
  | expire => exact Steady.keeping (steady_quiet quiet_expire s)

end Stops
end PrismRosAdapter.Driver
