import PrismRosAdapter.Driver.Handlers
import PrismRosAdapter.Driver.Streams

/-! # The four feeds of a run

Camera, board IMU, LiDAR and rover RTCM are started and stopped one by one. A
computation is confined to some feeds when it leaves the flag, the stream object
and the silence monitoring of every other feed as they are and makes no SDK call
about them.
-/
namespace PrismRosAdapter.Driver
open Program Health

inductive Feed where
  | camera | boardImu | lidar | rover
  deriving DecidableEq, Repr

def Running.flag (r : Running) : Feed → Bool
  | .camera => r.video
  | .boardImu => r.imu
  | .lidar => r.lidar
  | .rover => r.rover

theorem Running.ext_flag {r r' : Running} (h : ∀ f, r.flag f = r'.flag f) : r = r' := by
  cases r
  cases r'
  exact (Running.mk.injEq ..).mpr ⟨h .camera,h .boardImu,h .lidar,h .rover⟩

def Feed.streams : Feed → List Stream
  | .camera => [.camera0, .camera1, .camera2, .camera3, .cameraMetadata]
  | .boardImu => [.boardImu0, .boardImu1]
  | .lidar => [.lidarPoints, .lidarImu]
  | .rover => []

/-! ## Events by feed and kind -/

def Event.feed : Event → Option Feed
  | .startVideo _ _ | .stopVideo _ => some .camera
  | .imuStart _ _ _ | .imuStop _ | .startImu _ _ _ | .stopImu _ => some .boardImu
  | .lidarStart _ _ | .lidarStop _ | .startLidar _ _ | .stopLidar _ => some .lidar
  | .startRoverRtcm _ | .stopRoverRtcm _ => some .rover
  | _ => none

def Event.isStart : Event → Bool
  | .startVideo _ _ | .imuStart _ _ _ | .startImu _ _ _ | .lidarStart _ _ | .startLidar _ _
  | .startRoverRtcm _ => true
  | _ => false

def Event.isStop : Event → Bool
  | .stopVideo _ | .imuStop _ | .stopImu _ | .lidarStop _ | .stopLidar _ | .stopRoverRtcm _ => true
  | _ => false

theorem Event.isStart_of_feed {e : Event} (h : e.feed = none) : e.isStart = false := by
  cases e <;> first | rfl | cases h
theorem Event.isStop_of_feed {e : Event} (h : e.feed = none) : e.isStop = false := by
  cases e <;> first | rfl | cases h

def Event.samples : Event → Bool
  | .sampled _ _ => true
  | _ => false

/-- An event about no feed that is no sample. -/
def Event.aside (e : Event) : Bool := e.feed.isNone && !e.samples

theorem Event.feed_of_aside {e : Event} (h : e.aside = true) : e.feed = none :=
  Option.isNone_iff_eq_none.mp (Bool.and_eq_true_iff.mp h).1
theorem Event.samples_of_feed {e : Event} (h : e.feed ≠ none) : e.samples = false := by
  cases e <;> first | rfl | exact absurd rfl h
theorem Event.samples_of_aside {e : Event} (h : e.aside = true) : e.samples = false :=
  (Bool.not_eq_true' _).mp (Bool.and_eq_true_iff.mp h).2

/-- A stop of a stream that returned. -/
def Event.stopReturned : Event → Bool
  | .stopVideo (.ok _) | .imuStop (.ok _) | .lidarStop (.ok _) | .stopRoverRtcm (.ok _) => true
  | _ => false

/-- A stop of a stream that threw. -/
def Event.stopThrew : Event → Bool
  | .stopVideo (.error _) | .imuStop (.error _) | .lidarStop (.error _)
  | .stopRoverRtcm (.error _) => true
  | _ => false

/-- The feed that the device has acknowledged as started. -/
def Event.acknowledged : Event → Option Feed
  | .startVideo _ (.ok status) => if status.enabled then some .camera else none
  | .imuStart _ _ (.ok _) => some .boardImu
  | .lidarStart _ (.ok _) => some .lidar
  | .startRoverRtcm (.ok enabled) => if enabled then some .rover else none
  | _ => none

theorem Event.isStop_of_stopReturned {e : Event} (h : e.stopReturned = true) : e.isStop = true := by
  cases e <;> first | rfl | cases h
theorem Event.isStop_of_stopThrew {e : Event} (h : e.stopThrew = true) : e.isStop = true := by
  cases e <;> first | rfl | cases h
theorem Event.isStart_of_acknowledged {e : Event} {f : Feed} (h : e.acknowledged = some f) :
    e.isStart = true := by
  unfold acknowledged at h
  split at h <;> first | rfl | cases h
theorem Event.feed_of_acknowledged {e : Event} {f : Feed} (h : e.acknowledged = some f) :
    e.feed = some f := by
  unfold acknowledged at h
  split at h <;> simp_all [feed]
theorem Event.isStart_of_isStop {e : Event} (h : e.isStop = true) : e.isStart = false := by
  cases e <;> first | rfl | cases h

/-! ## The journal since a state -/

def since (s t : DriverState) : List Entry := t.link.journal.drop s.link.journal.length

def saw (p : Entry → Bool) (s t : DriverState) : Bool := (since s t).any p

/-- The journal only grows. -/
def Later (s t : DriverState) : Prop := s.link.journal <+: t.link.journal

theorem Later.trans {s t u : DriverState} (h : Later s t) (h' : Later t u) : Later s u :=
  List.IsPrefix.trans h h'

theorem since_self (s : DriverState) : since s s = [] := List.drop_length

theorem since_trans {s t u : DriverState} (h : Later s t) (h' : Later t u) :
    since s u = since s t ++ since t u := by
  obtain ⟨first,hf⟩ := h
  obtain ⟨rest,hr⟩ := h'
  unfold since
  rw [← hr,← hf,List.append_assoc,List.drop_left,List.drop_left,← List.append_assoc,
    List.drop_left]

theorem saw_self (p : Entry → Bool) (s : DriverState) : saw p s s = false := by
  simp [saw,since_self]

theorem saw_trans {p : Entry → Bool} {s t u : DriverState} (h : Later s t) (h' : Later t u) :
    saw p s u = (saw p s t || saw p t u) := by
  simp [saw,since_trans h h']

theorem saw_mono {p : Entry → Bool} {s t u : DriverState} (hl : Later s t)
    (h : saw p s t = true) (hl' : Later t u) : saw p s u = true := by
  rw [saw_trans hl hl',h,Bool.true_or]

theorem since_note (s : DriverState) (event : Event) : since s (s.note event) =
    [⟨event,s.control.running,s.link.session,s.link.verified,s.health⟩] := by
  simp [since,DriverState.note]

theorem later_note (s : DriverState) (event : Event) : Later s (s.note event) :=
  ⟨_,rfl⟩

theorem saw_eq_true {p : Entry → Bool} {s t : DriverState} :
    saw p s t = true ↔ ∃ e ∈ since s t, p e = true := List.any_eq_true
theorem saw_eq_false {p : Entry → Bool} {s t : DriverState} :
    saw p s t = false ↔ ∀ e ∈ since s t, p e = false := by
  simp [saw]

/-! ## What a feed is like -/

/-- The settings that decide which feeds and lanes there should be. -/
structure Terms where
  requested : Running
  cameraMask : UInt8
  imuMask : UInt8
  lidarModel : LidarModel
  fatal : String
  deriving DecidableEq, Repr

def Control.terms (c : Control) : Terms where
  requested := c.config.requested
  cameraMask := c.cameraMask
  imuMask := c.imuMask
  lidarModel := c.config.lidarModel
  fatal := c.fatalControlError

/-- The lanes of a feed that are present. -/
def Terms.lanes (m : Terms) : Feed → List Stream
  | .camera => ((List.finRange 4).filter fun i => bitOf m.cameraMask i.val).map cameraStream ++
      [.cameraMetadata]
  | .boardImu => (if bitOf m.imuMask 0 then [.boardImu0] else []) ++
      (if bitOf m.imuMask 1 then [.boardImu1] else [])
  | .lidar => if m.lidarModel = .xt32 then [.lidarPoints] else [.lidarPoints, .lidarImu]
  | .rover => []

theorem cameraStream_mem : ∀ i, cameraStream i ∈ Feed.camera.streams := by decide

theorem Terms.lanes_subset (m : Terms) (f : Feed) : ∀ lane ∈ m.lanes f, lane ∈ f.streams := by
  intro lane hl
  cases f with
  | camera =>
    simp only [lanes, List.mem_append, List.mem_map, List.mem_singleton] at hl
    rcases hl with ⟨i,_,rfl⟩ | rfl
    · exact cameraStream_mem i
    · decide
  | boardImu =>
    simp only [lanes, List.mem_append] at hl
    rcases hl with hl | hl
    · split at hl <;> simp_all [Feed.streams]
    · split at hl <;> simp_all [Feed.streams]
  | lidar =>
    simp only [lanes] at hl
    split at hl
    · obtain rfl := List.mem_singleton.mp hl
      decide
    · exact hl
  | rover => exact hl

namespace DriverState

def flag (s : DriverState) (f : Feed) : Bool := s.control.running.flag f

def silence (s : DriverState) (lane : Stream) : UInt64 := s.health.silence lane

/-- The stream object's own view of a feed; camera and rover have no object. -/
def active (s : DriverState) : Feed → Bool
  | .camera => s.control.running.video
  | .boardImu => isActive s.control.imuStream
  | .lidar => isActive s.control.lidarStream
  | .rover => s.control.running.rover

/-- Silence is monitored on every lane of the feed that is present. -/
def armed (s : DriverState) (f : Feed) : Bool :=
  (s.control.terms.lanes f).all fun lane => decide (0 < s.silence lane)

end DriverState

/-! ## Confinement -/

structure Spared (f : Feed) (s t : DriverState) : Prop where
  flag : t.flag f = s.flag f
  active : t.active f = s.active f
  silence : ∀ lane ∈ f.streams, t.silence lane = s.silence lane

theorem Spared.refl (f : Feed) (s : DriverState) : Spared f s s := ⟨rfl,rfl,fun _ _ => rfl⟩

theorem Spared.trans {f : Feed} {s t u : DriverState} (h : Spared f s t) (h' : Spared f t u) :
    Spared f s u :=
  ⟨h'.flag.trans h.flag,h'.active.trans h.active,
    fun lane hl => (h'.silence lane hl).trans (h.silence lane hl)⟩

theorem Spared.armed {f : Feed} {s t : DriverState} (h : Spared f s t)
    (ht : t.control.terms = s.control.terms) : t.armed f = s.armed f := by
  unfold DriverState.armed
  rw [ht,Bool.eq_iff_iff,List.all_eq_true,List.all_eq_true]
  apply forall₂_congr
  intro lane hl
  rw [h.silence lane (Terms.lanes_subset _ f lane hl)]

/-- The SDK's side looks the same: same journal, same session. -/
structure Linked (s t : DriverState) : Prop where
  journal : t.link.journal = s.link.journal
  session : t.link.session = s.link.session
  verified : t.link.verified = s.link.verified

theorem Linked.refl (s : DriverState) : Linked s s := ⟨rfl,rfl,rfl⟩

theorem Linked.trans {s t u : DriverState} (h : Linked s t) (h' : Linked t u) : Linked s u :=
  ⟨h'.journal.trans h.journal,h'.session.trans h.session,h'.verified.trans h.verified⟩

theorem Linked.later {s t : DriverState} (h : Linked s t) : Later s t := by
  unfold Later
  rw [h.journal]

theorem Linked.since_eq {s t : DriverState} (h : Linked s t) : since s t = [] := by
  unfold since
  rw [h.journal,List.drop_length]

theorem Linked.saw_eq {s t : DriverState} (h : Linked s t) (p : Entry → Bool) :
    saw p s t = false := by
  simp [saw,h.since_eq]

/-- From `s` to `t` only the feeds in `A` changed, with events of kind `K` alone. -/
structure Confined (A : Feed → Prop) (K : Event → Prop) (s t : DriverState) : Prop where
  terms : t.control.terms = s.control.terms
  imuStream : s.control.imuStream.isSome = true → t.control.imuStream.isSome = true
  lidarStream : s.control.lidarStream.isSome = true → t.control.lidarStream.isSome = true
  later : Later s t
  events : ∀ e ∈ since s t, K e.event ∧ ∀ f, e.event.feed = some f → A f
  session : t.link.session = s.link.session ∧ t.link.verified = s.link.verified
  stamped : ∀ e ∈ since s t, e.session = s.link.session ∧ e.verified = s.link.verified
  spared : ∀ f, ¬ A f → Spared f s t

section Confined
variable {A : Feed → Prop} {K : Event → Prop}

theorem Confined.refl (s : DriverState) : Confined A K s s where
  terms := rfl
  imuStream := id
  lidarStream := id
  later := List.prefix_refl _
  events := by
    rw [since_self]
    intro e he
    cases he
  session := ⟨rfl,rfl⟩
  stamped := by
    rw [since_self]
    intro e he
    cases he
  spared := fun f _ => Spared.refl f s

theorem Confined.trans {s t u : DriverState} (h : Confined A K s t) (h' : Confined A K t u) :
    Confined A K s u where
  terms := h'.terms.trans h.terms
  imuStream := h'.imuStream ∘ h.imuStream
  lidarStream := h'.lidarStream ∘ h.lidarStream
  later := h.later.trans h'.later
  events := by
    rw [since_trans h.later h'.later]
    intro e he
    rcases List.mem_append.mp he with he | he
    · exact h.events e he
    · exact h'.events e he
  session := ⟨h'.session.1.trans h.session.1,h'.session.2.trans h.session.2⟩
  stamped := by
    rw [since_trans h.later h'.later]
    intro e he
    rcases List.mem_append.mp he with he | he
    · exact h.stamped e he
    · exact ⟨(h'.stamped e he).1.trans h.session.1,(h'.stamped e he).2.trans h.session.2⟩
  spared := fun f hf => (h.spared f hf).trans (h'.spared f hf)

instance : Std.Refl (Confined A K) := ⟨Confined.refl⟩
instance : IsTrans DriverState (Confined A K) := ⟨fun _ _ _ => Confined.trans⟩

theorem Confined.mono {B : Feed → Prop} {L : Event → Prop} (hA : ∀ f, A f → B f)
    (hK : ∀ e, K e → (∀ f, e.feed = some f → A f) → L e) {s t : DriverState}
    (h : Confined A K s t) : Confined B L s t where
  terms := h.terms
  imuStream := h.imuStream
  lidarStream := h.lidarStream
  later := h.later
  events := fun e he => ⟨hK e.event (h.events e he).1 (h.events e he).2,
    fun f hf => hA f ((h.events e he).2 f hf)⟩
  session := h.session
  stamped := h.stamped
  spared := fun f hf => h.spared f fun ha => hf (hA f ha)

theorem Confined.armed {s t : DriverState} (h : Confined A K s t) {f : Feed} (hf : ¬ A f) :
    t.armed f = s.armed f := (h.spared f hf).armed h.terms

/-- A property that no event of the kind has is not seen. -/
theorem Confined.saw_false {s t : DriverState} (h : Confined A K s t) {p : Entry → Bool}
    (hp : ∀ e, K e.event → (∀ f, e.event.feed = some f → A f) → p e = false) :
    saw p s t = false :=
  saw_eq_false.mpr fun e he => hp e (h.events e he).1 (h.events e he).2

theorem confined_note {event : Event} (hK : K event) (hA : ∀ f, event.feed = some f → A f)
    (s : DriverState) : Confined A K s (s.note event) where
  terms := rfl
  imuStream := id
  lidarStream := id
  later := later_note s event
  events := by
    rw [since_note]
    intro e he
    obtain rfl := List.mem_singleton.mp he
    exact ⟨hK,hA⟩
  session := ⟨rfl,rfl⟩
  stamped := by
    rw [since_note]
    intro e he
    obtain rfl := List.mem_singleton.mp he
    exact ⟨rfl,rfl⟩
  spared := fun f _ => by
    refine ⟨rfl,?_,fun _ _ => rfl⟩
    cases f <;> rfl

/-- A change that leaves the journal alone. -/
theorem confined_silent {s t : DriverState} (hj : Linked s t)
    (ht : t.control.terms = s.control.terms)
    (hi : s.control.imuStream.isSome = true → t.control.imuStream.isSome = true)
    (hl : s.control.lidarStream.isSome = true → t.control.lidarStream.isSome = true)
    (hs : ∀ f, ¬ A f → Spared f s t) : Confined A K s t where
  terms := ht
  imuStream := hi
  lidarStream := hl
  later := hj.later
  events := by
    rw [hj.since_eq]
    intro e he
    cases he
  session := ⟨hj.session,hj.verified⟩
  stamped := by
    rw [hj.since_eq]
    intro e he
    cases he
  spared := hs

/-- A change that leaves the control data alone as well. -/
theorem confined_health {s t : DriverState} (hj : Linked s t)
    (hc : t.control = s.control)
    (hs : ∀ f, ¬ A f → ∀ lane ∈ f.streams, t.silence lane = s.silence lane) :
    Confined A K s t := by
  refine confined_silent hj (by rw [hc]) (by rw [hc]; exact id) (by rw [hc]; exact id) ?_
  intro f hf
  refine ⟨by unfold DriverState.flag; rw [hc],?_,hs f hf⟩
  cases f <;> simp only [DriverState.active, hc]

theorem within_modifyHealth {g : SensorDataHealth → SensorDataHealth}
    (h : ∀ health f, ¬ A f → ∀ lane ∈ f.streams, (g health).silence lane = health.silence lane) :
    Within (Confined A K) (modifyHealth g) :=
  within_modify fun s => confined_health ⟨rfl,rfl,rfl⟩ rfl fun f hf lane hl => h s.health f hf lane hl

theorem within_modifyReceive (g : Receive → Receive) : Within (Confined A K) (modifyReceive g) :=
  within_modify fun _ => confined_health ⟨rfl,rfl,rfl⟩ rfl fun _ _ _ _ => rfl

theorem within_modifyLink {g : Link → Link} (h : ∀ l, (g l).journal = l.journal)
    (hs : ∀ l, (g l).session = l.session) (hv : ∀ l, (g l).verified = l.verified) :
    Within (Confined A K) (modifyLink g) :=
  within_modify fun s =>
    confined_health ⟨h s.link,hs s.link,hv s.link⟩ rfl fun _ _ _ _ => rfl

theorem within_accumulate {α : Type} (x : Lidar.Accumulating α) :
    Within (Confined A K) (accumulate x) :=
  fun _ => confined_health ⟨rfl,rfl,rfl⟩ rfl fun _ _ _ _ => rfl

theorem within_publishStatus (state error : String) :
    Within (Confined A K) (publishStatus state error) :=
  within_modify fun _ => confined_health ⟨rfl,rfl,rfl⟩ rfl fun _ _ _ _ => rfl

theorem within_nextCall : Within (Confined A K) nextCall :=
  within_bind within_get fun _ =>
    within_bind (within_modifyLink (fun _ => rfl) (fun _ => rfl) fun _ => rfl) fun _ =>
      within_pure _

theorem within_nextTick : Within (Confined A K) nextTick :=
  within_bind within_get fun _ =>
    within_bind (within_modifyLink (fun _ => rfl) (fun _ => rfl) fun _ => rfl) fun _ =>
      within_pure _

theorem within_steadyNowNs (w : World) : Within (Confined A K) (steadyNowNs w) :=
  within_bind within_nextTick fun _ => within_pure _

theorem within_recorded {α : Type} {event : Except Failure α → Event} {x : Driving α}
    (hx : Within (Confined A K) x) (hK : ∀ a, K (event a))
    (hA : ∀ a f, (event a).feed = some f → A f) : Within (Confined A K) (recorded event x) :=
  within_andThen hx fun a s => confined_note (hK a) (hA a) s

theorem within_ask {α : Type} {event : Except Failure α → Event} {reply : ℕ → Except Failure α}
    (hK : ∀ a, K (event a)) (hA : ∀ a f, (event a).feed = some f → A f) :
    Within (Confined A K) (ask event reply) :=
  within_recorded (within_bind within_nextCall fun _ => within_answer _) hK hA

end Confined
end PrismRosAdapter.Driver
