import PrismRosAdapter.Driver.SampleDrops

/-! # Samples dropped as unsynchronized

Samples that are dropped while a clock reference is awaited are not to be counted. A
wait that comes to its end therefore clears the counter, and with it whatever was
dropped before the wait. A wait that an exception ends leaves the counter as it is, and so
does the beginning of a run: what the run before it has counted is carried over.
-/
namespace PrismRosAdapter.Driver
open Program Runs

/-! ## What a run is made of -/

/-- Something that neither drops a sample nor shows the counter. -/
structure Elsewhere where
  change : DriverState → DriverState
  unmoved : ∀ s, Unmoved s (change s)

inductive Occurrence where
  | sample (sample : TimedSample)
  | waitBegins
  /-- The reference has come, or the time for it is up. -/
  | waitCompleted
  /-- An exception has ended the wait. -/
  | waitAbandoned
  | published (state error : String)
  | elsewhere (rest : Elsewhere)

def occur (w : World) (s : DriverState) : Occurrence → DriverState
  | .sample sample => (sample.program w s).2
  | .waitBegins => s
  | .waitCompleted => { s with receive := { s.receive with droppedUnsynchronized := 0 } }
  | .waitAbandoned => s
  | .published state error => (publishStatus state error s).2
  | .elsewhere rest => rest.change s

/-- What may come of a frame. -/
def Occurrence.arrives : Occurrence → Bool
  | .sample _ | .elsewhere _ => true
  | _ => false

/-- What may come of a command beside its waits. -/
def Occurrence.serves : Occurrence → Bool
  | .published _ _ | .elsewhere _ => true
  | _ => false

/-- The samples dropped since the run started, told apart by the waits. -/
structure Tally where
  waiting : Bool := false
  /-- Dropped outside the waits. -/
  dropped : ℕ := 0
  /-- Dropped outside the waits before the last wait that was completed. -/
  forgotten : ℕ := 0
  /-- Dropped in waits since then. -/
  waited : ℕ := 0
  /-- What the counter has kept from before the run. -/
  carried : UInt64 := 0
  /-- What the statuses published so far have to show. -/
  due : List ℕ := []

def Tally.drop (t : Tally) : Tally :=
  if t.waiting then { t with waited := t.waited + 1 } else { t with dropped := t.dropped + 1 }

def Tally.after (w : World) (s : DriverState) (t : Tally) : Occurrence → Tally
  | .sample sample => if sample.dropped w s then t.drop else t
  | .waitBegins => { t with waiting := true }
  | .waitCompleted => { t with waiting := false, forgotten := t.dropped, waited := 0, carried := 0 }
  | .waitAbandoned => { t with waiting := false }
  | .published _ _ => { t with due := t.due ++ [t.dropped] }
  | .elsewhere _ => t

/-- A driver beside the tally of its samples. -/
structure Account where
  driver : DriverState
  tally : Tally := {}

def account (w : World) (a : Account) (o : Occurrence) : Account :=
  ⟨occur w a.driver o,a.tally.after w a.driver o⟩

/-- Every status of the run, after the earlier ones, has shown the number of samples dropped
outside the waits until then. -/
def Shown (earlier : List DriverStatus) (a : Account) : Prop :=
  a.driver.link.statuses.map (·.droppedUnsynchronized) =
    earlier.map (·.droppedUnsynchronized) ++ a.tally.due.map UInt64.ofNat

/-- When a status is published, as many samples have been forgotten as have been dropped
in waits since then or carried over. -/
def Settled (a : Account) : Occurrence → Prop
  | .published _ _ =>
    UInt64.ofNat a.tally.forgotten = UInt64.ofNat a.tally.waited + a.tally.carried
  | _ => True

/-- The loop's own statuses, one a second, may come between any two turns. -/
inductive Turn where
  | act (action : Action)
  | publish (state error : String)

def turn (w : World) (s : DriverState) : Turn → DriverState
  | .act action => act w s action
  | .publish state error => (publishStatus state error s).2

/-- A run with its statuses; one whose beginning throws still publishes why. -/
def statusRun (w : World) (d : DriverState) (turns : List Turn) : DriverState :=
  run (turn w) (startRun w d).2 turns

/-- The account of a run that the driver `d` begins. -/
def opening (d : DriverState) : Account where
  driver := (resetRun d).2
  tally := { carried := d.receive.droppedUnsynchronized }

/-- The segment is one call of `establishDeviceTimeReference` with all that arrives in it. -/
structure Wait (w : World) (s t : DriverState) (segment : List Occurrence) : Prop where
  leads : run (occur w) s segment = t
  shape : ∃ inner, (∀ o ∈ inner, o.arrives = true) ∧
    ((segment = .waitBegins :: (inner ++ [.waitCompleted]) ∧
        (establishDeviceTimeReference w).Returns s () t) ∨
      segment = .waitBegins :: (inner ++ [.waitAbandoned]) ∧
        ∃ e, (establishDeviceTimeReference w).Throws s e t)

/-- No sample arrives outside a wait. -/
inductive Sampleless (w : World) : DriverState → List Occurrence → Prop
  | nil {s} : Sampleless w s []
  | next {s o rest} (ho : o.serves = true) (hrest : Sampleless w (occur w s o) rest) :
      Sampleless w s (o :: rest)
  | wait {s t segment rest} (hwait : Wait w s t segment) (hrest : Sampleless w t rest) :
      Sampleless w s (segment ++ rest)

/-- The occurrences of one turn. -/
def Turn.Consists (w : World) (s : DriverState) (i : Turn) (occurrences : List Occurrence) : Prop :=
  run (occur w) s occurrences = turn w s i ∧
    match i with
    | .act (.control _) => Sampleless w s occurrences
    | .act _ => ∀ o ∈ occurrences, o.arrives = true
    | .publish state error => occurrences = [.published state error]

/-- The occurrences of the turns, one after the other. -/
inductive Course (w : World) : DriverState → List Turn → List Occurrence → Prop
  | nil {s} : Course w s [] []
  | next {s i turns first rest} (hfirst : i.Consists w s first)
      (hrest : Course w (turn w s i) turns rest) : Course w s (i :: turns) (first ++ rest)

/-- The occurrences of a run, from its beginning on. -/
def Traced (w : World) (d : DriverState) (turns : List Turn)
    (occurrences : List Occurrence) : Prop :=
  ∃ first rest, occurrences = first ++ rest ∧ Sampleless w (resetRun d).2 first ∧
    run (occur w) (resetRun d).2 first = (startRun w d).2 ∧
    Course w (startRun w d).2 turns rest

section
variable {w : World} {s t : DriverState} {a : Account} {o : Occurrence}
  {earlier : List DriverStatus}

/-- What the counter lacks of the samples dropped is what has been forgotten. -/
def Balanced (a : Account) : Prop :=
  a.driver.receive.droppedUnsynchronized + UInt64.ofNat a.tally.forgotten =
    UInt64.ofNat a.tally.dropped + (UInt64.ofNat a.tally.waited + a.tally.carried)

theorem Tally.balanced_drop {t : Tally} {counter : UInt64}
    (h : counter + UInt64.ofNat t.forgotten =
      UInt64.ofNat t.dropped + (UInt64.ofNat t.waited + t.carried)) :
    counter + 1 + UInt64.ofNat t.drop.forgotten =
      UInt64.ofNat t.drop.dropped + (UInt64.ofNat t.drop.waited + t.drop.carried) := by
  have hone : counter + 1 + UInt64.ofNat t.forgotten =
      UInt64.ofNat t.dropped + (UInt64.ofNat t.waited + t.carried) + 1 := by
    rw [← h]
    exact add_right_comm _ _ _
  unfold drop
  cases t.waiting with
  | true =>
    rw [if_pos rfl,UInt64.ofNat_add,hone,add_assoc,add_right_comm (UInt64.ofNat t.waited)]
    rfl
  | false =>
    rw [if_neg (by decide),UInt64.ofNat_add,hone]
    exact add_right_comm _ _ _

theorem account_balanced (h : Balanced a) (o : Occurrence) : Balanced (account w a o) := by
  cases o with
  | sample sample =>
    have hcounter := (sample_counted (w := w) sample a.driver).counter
    unfold Balanced account
    dsimp only [occur, Tally.after]
    rw [hcounter]
    cases sample.dropped w a.driver with
    | true => exact Tally.balanced_drop h
    | false =>
      rw [if_neg (by decide),if_neg (by decide),add_zero]
      exact h
  | waitCompleted =>
    change 0 + UInt64.ofNat a.tally.dropped = UInt64.ofNat a.tally.dropped + (0 + 0)
    rw [zero_add,add_zero,add_zero]
  | elsewhere rest =>
    have hcounter := (rest.unmoved a.driver).counter
    unfold Balanced account
    dsimp only [occur, Tally.after]
    rw [hcounter]
    exact h
  | waitBegins => exact h
  | waitAbandoned => exact h
  | published state error => exact h

/-- The counter is right exactly when what was forgotten is made up for. -/
theorem Balanced.counter_iff (h : Balanced a) :
    a.driver.receive.droppedUnsynchronized = UInt64.ofNat a.tally.dropped ↔
      UInt64.ofNat a.tally.forgotten = UInt64.ofNat a.tally.waited + a.tally.carried := by
  unfold Balanced at h
  constructor
  · intro hc
    rw [hc] at h
    exact add_left_cancel h
  · intro hf
    rw [hf] at h
    exact add_right_cancel h

/-- One more status is right if the others are and the account is settled. -/
theorem account_shown_iff (h : Balanced a) (o : Occurrence) :
    Shown earlier (account w a o) ↔ Shown earlier a ∧ Settled a o := by
  have hsame : ∀ {statuses : List DriverStatus} {due : List ℕ},
      (account w a o).driver.link.statuses = statuses → (account w a o).tally.due = due →
      a.driver.link.statuses = statuses → a.tally.due = due → Settled a o →
      (Shown earlier (account w a o) ↔ Shown earlier a ∧ Settled a o) := by
    intro statuses due hs hd hs' hd' ho
    unfold Shown
    rw [hs,hd,hs',hd']
    exact (and_iff_left ho).symm
  cases o with
  | sample sample =>
    refine hsame (sample_counted sample a.driver).statuses ?_ rfl rfl trivial
    dsimp only [account, Tally.after]
    unfold Tally.drop
    split_ifs <;> rfl
  | elsewhere rest => exact hsame (rest.unmoved a.driver).statuses rfl rfl rfl trivial
  | waitBegins => exact hsame rfl rfl rfl rfl trivial
  | waitCompleted => exact hsame rfl rfl rfl rfl trivial
  | waitAbandoned => exact hsame rfl rfl rfl rfl trivial
  | published state error =>
    have hshown : Shown earlier (account w a (.published state error)) ↔
        a.driver.link.statuses.map (·.droppedUnsynchronized) ++
          [a.driver.receive.droppedUnsynchronized] =
        earlier.map (·.droppedUnsynchronized) ++ a.tally.due.map UInt64.ofNat ++
          [UInt64.ofNat a.tally.dropped] := by
      unfold Shown account
      dsimp only [Tally.after]
      rw [List.map_append,← List.append_assoc]
      exact Eq.congr (List.map_append ..) rfl
    rw [hshown,List.append_singleton_inj]
    exact and_congr_right fun _ => h.counter_iff

theorem run_shown_iff (h : Balanced a) (occurrences : List Occurrence) :
    Shown earlier (run (account w) a occurrences) ↔
      Shown earlier a ∧ EachStep (account w) Settled a occurrences := by
  induction occurrences generalizing a with
  | nil => exact (and_iff_left (eachStep_nil _)).symm
  | cons o rest ih =>
    rw [run_cons,ih (account_balanced h o),account_shown_iff h o,eachStep_cons,and_assoc]

/-- What is due never decreases. -/
structure Mounting (t : Tally) : Prop where
  sorted : t.due.Pairwise (· ≤ ·)
  bounded : ∀ d ∈ t.due, d ≤ t.dropped

theorem Mounting.drop {t : Tally} (h : Mounting t) : Mounting t.drop := by
  unfold Tally.drop
  split
  · exact ⟨h.sorted,h.bounded⟩
  · exact ⟨h.sorted,fun d hd => Nat.le_succ_of_le (h.bounded d hd)⟩

theorem account_mounting (h : Mounting a.tally) (o : Occurrence) :
    Mounting (account w a o).tally := by
  cases o with
  | sample sample =>
    dsimp only [account, Tally.after]
    split
    · exact h.drop
    · exact h
  | published state error =>
    constructor
    · refine List.pairwise_append.mpr ⟨h.sorted,List.pairwise_singleton _ _,fun d hd e he => ?_⟩
      rw [List.mem_singleton.mp he]
      exact h.bounded d hd
    · intro d hd
      rcases List.mem_append.mp hd with hd | hd
      · exact h.bounded d hd
      · exact (List.mem_singleton.mp hd).le
  | waitBegins => exact ⟨h.sorted,h.bounded⟩
  | waitCompleted => exact ⟨h.sorted,h.bounded⟩
  | waitAbandoned => exact ⟨h.sorted,h.bounded⟩
  | elsewhere rest => exact h

theorem run_mounting (h : Mounting a.tally) (occurrences : List Occurrence) :
    Mounting (run (account w) a occurrences).tally :=
  (always_of_step (account w) (H := fun _ _ => True) (P := fun a => Mounting a.tally)
    (fun _ o _ h => account_mounting h o) h fun _ _ _ => trivial).last

theorem run_driver (occurrences : List Occurrence) :
    (run (account w) a occurrences).driver = run (occur w) a.driver occurrences := by
  induction occurrences generalizing a with
  | nil => rfl
  | cons o rest ih => exact ih

/-! ## Every run has its occurrences -/

/-- Some occurrences of a frame lead from `s` to `t`. -/
def Arriving (w : World) (s t : DriverState) : Prop :=
  ∃ occurrences, (∀ o ∈ occurrences, o.arrives = true) ∧ run (occur w) s occurrences = t

instance : Std.Refl (Arriving w) := ⟨fun _ => ⟨[],nofun,rfl⟩⟩
instance : IsTrans DriverState (Arriving w) := ⟨fun _ _ _ ⟨first,hf,hs⟩ ⟨rest,hr,ht⟩ =>
  ⟨first ++ rest,fun o ho => (List.mem_append.mp ho).elim (hf o) (hr o),by rw [run_append,hs,ht]⟩⟩

theorem arriving_one {α : Type} {x : Driving α} (o : Occurrence) (ho : o.arrives = true)
    (h : ∀ s, (x s).2 = occur w s o) : Within (Arriving w) x := by
  intro s
  refine ⟨[o],fun p hp => ?_,(h s).symm⟩
  rw [List.mem_singleton.mp hp]
  exact ho

theorem arriving_elsewhere {α : Type} {x : Driving α} (h : Within Unmoved x) :
    Within (Arriving w) x :=
  arriving_one (.elsewhere ⟨fun s => (x s).2,h⟩) rfl fun _ => rfl

theorem reads_arriving (w : World) : Reads w (Arriving w) where
  boardImu := fun sample => arriving_one (.sample (.boardImu sample)) rfl fun _ => rfl
  lidarPoints := fun batch => arriving_one (.sample (.lidarPoints batch)) rfl fun _ => rfl
  lidarImu := fun sample => arriving_one (.sample (.lidarImu sample)) rfl fun _ => rfl
  cameraFrame := fun frame => arriving_one (.sample (.cameraFrame frame)) rfl fun _ => rfl
  diagnostics := fun result => arriving_elsewhere (unmoved_checkCameraDiagnostics result)
  metadata := fun metadata => arriving_elsewhere (unmoved_observeMeta metadata)
  cameraTime := fun metadata => arriving_elsewhere (unmoved_observeCameraTime metadata)
  roverChunk := fun chunk => arriving_elsewhere (unmoved_receiveRoverChunk chunk)
  call := arriving_elsewhere unmoved_nextCall
  ask := fun _ => arriving_elsewhere unmoved_ask
  note := fun _ => arriving_elsewhere (unmoved_note _)

theorem Sampleless.append {first rest : List Occurrence} (h : Sampleless w s first)
    (hr : Sampleless w (run (occur w) s first) rest) : Sampleless w s (first ++ rest) := by
  induction h with
  | nil => exact hr
  | next ho _ ih => exact .next ho (ih hr)
  | wait hwait _ ih =>
    rw [run_append,hwait.leads] at hr
    rw [List.append_assoc]
    exact .wait hwait (ih hr)

/-- Some occurrences without a sample outside a wait lead from `s` to `t`. -/
def Serving (w : World) (s t : DriverState) : Prop :=
  ∃ occurrences, Sampleless w s occurrences ∧ run (occur w) s occurrences = t

instance : Std.Refl (Serving w) := ⟨fun _ => ⟨[],.nil,rfl⟩⟩
instance : IsTrans DriverState (Serving w) := ⟨fun _ _ _ ⟨first,hf,hs⟩ ⟨rest,hr,ht⟩ =>
  ⟨first ++ rest,hf.append (hs ▸ hr),by rw [run_append,hs,ht]⟩⟩

theorem serving_one {α : Type} {x : Driving α} (o : Occurrence) (ho : o.serves = true)
    (h : ∀ s, (x s).2 = occur w s o) : Within (Serving w) x :=
  fun s => ⟨[o],.next ho .nil,(h s).symm⟩

theorem serving_elsewhere {α : Type} {x : Driving α} (h : Within Unmoved x) :
    Within (Serving w) x :=
  serving_one (.elsewhere ⟨fun s => (x s).2,h⟩) rfl fun _ => rfl

theorem Wait.serving {segment : List Occurrence} (h : Wait w s t segment) : Serving w s t := by
  refine ⟨segment,?_,h.leads⟩
  have hnil := Sampleless.wait h .nil
  rwa [List.append_nil] at hnil

theorem arriving_wait (turns : ℕ) : Within (Arriving w) (repeatWhile (fun s => !hasReference s)
    (survivingTimeout (awaitReferenceFrame w)) turns) :=
  within_repeatWhile (within_survivingTimeout (reads_arriving w).awaitReferenceFrame) _

/-- A call that waits begins to wait, reads frames and ends its wait. -/
theorem serving_establishDeviceTimeReference :
    Within (Serving w) (establishDeviceTimeReference w) := by
  refine within_of_leaves fun s t h => ?_
  have hticked : ∀ {tick a}, nextTick.Returns s tick a → Arriving w s a :=
    (arriving_elsewhere unmoved_nextTick).returns
  rcases leaves_iff.mp h with ⟨e,hcall⟩ | ⟨_,hcall⟩
  · replace h := throws_get_bind.mp hcall
    split at h
    · exact absurd h (by simp)
    obtain ⟨tick,a,htick,h⟩ := total_nextTick.throws_bind.mp h
    rcases throws_bind.mp h with h | ⟨_,b,_,h⟩
    · obtain ⟨inner,hinner,hrun⟩ : Arriving w s t :=
        IsTrans.trans _ _ _ (hticked htick) ((arriving_wait _).throws h)
      refine Wait.serving ⟨?_,inner,hinner,Or.inr ⟨rfl,e,hcall⟩⟩
      rw [run_cons,run_snoc]
      exact hrun
    · exact absurd h throws_modify.mp
  · replace h := returns_get_bind.mp hcall
    split at h
    · rw [(returns_pure.mp h).2]
      exact Std.Refl.refl s
    obtain ⟨tick,a,htick,h⟩ := returns_bind.mp h
    obtain ⟨_,b,hb,h⟩ := returns_bind.mp h
    obtain ⟨inner,hinner,hrun⟩ : Arriving w s b :=
      IsTrans.trans _ _ _ (hticked htick) ((arriving_wait _).returns hb)
    refine Wait.serving ⟨?_,inner,hinner,Or.inl ⟨rfl,hcall⟩⟩
    rw [run_cons,run_snoc,returns_modify.mp h]
    exact congrArg (fun b => occur w b .waitCompleted) hrun

theorem keeps_serving (w : World) : Keeps w (Serving w) where
  control := fun _ => serving_elsewhere (unmoved_modifyControl _)
  fatal := fun _ => serving_elsewhere (unmoved_modifyControl _)
  status := fun state error => serving_one (.published state error) rfl fun _ => rfl
  resolver := serving_elsewhere (unmoved_modifyReceive fun _ => rfl)
  plain := fun _ _ => serving_elsewhere unmoved_ask
  query := fun _ => serving_elsewhere unmoved_ask
  rover := fun enable => serving_elsewhere ((switches_unmoved w).askRover enable)
  opened := fun _ => serving_elsewhere
    (within_bind unmoved_ask fun _ => fun _ => ⟨⟨rfl,rfl⟩,fun _ => rfl⟩)
  start := within_bind (serving_elsewhere (unmoved_modifyControl _)) fun _ =>
    within_bind (serving_elsewhere (switches_unmoved w).startCamera) fun _ =>
      within_bind (serving_elsewhere (switches_unmoved w).startBoardImu) fun _ =>
        within_bind serving_establishDeviceTimeReference fun _ =>
          within_bind (serving_elsewhere (switches_unmoved w).startRover) fun _ =>
            serving_elsewhere (switches_unmoved w).startLidar
  stop := serving_elsewhere (switches_unmoved w).stopConfiguredStreams

theorem turn_consists (s : DriverState) (i : Turn) : ∃ occurrences, i.Consists w s occurrences := by
  cases i with
  | act action =>
    cases action with
    | control command =>
      obtain ⟨occurrences,hl,hrun⟩ := (keeps_serving w).command command s
      exact ⟨occurrences,hrun,hl⟩
    | receive =>
      obtain ⟨occurrences,hl,hrun⟩ :=
        within_survivingTimeout (reads_arriving w).receiveFrame s
      exact ⟨occurrences,hrun,hl⟩
    | expire =>
      obtain ⟨occurrences,hl,hrun⟩ := (reads_arriving w).expireCameraSets s
      exact ⟨occurrences,hrun,hl⟩
  | publish state error => exact ⟨[.published state error],rfl,rfl⟩

theorem course_exists (s : DriverState) (turns : List Turn) :
    ∃ occurrences, Course w s turns occurrences := by
  induction turns generalizing s with
  | nil => exact ⟨[],.nil⟩
  | cons i turns ih =>
    obtain ⟨first,hfirst⟩ := turn_consists (w := w) s i
    obtain ⟨rest,hrest⟩ := ih (turn w s i)
    exact ⟨first ++ rest,.next hfirst hrest⟩

theorem Course.leads {turns : List Turn} {occurrences : List Occurrence}
    (h : Course w s turns occurrences) : run (occur w) s occurrences = run (turn w) s turns := by
  induction h with
  | nil => rfl
  | next hfirst _ ih => rw [run_append,hfirst.1,ih,run_cons]

theorem traced_exists (w : World) (d : DriverState) (turns : List Turn) :
    ∃ occurrences, Traced w d turns occurrences := by
  obtain ⟨first,hfirst,hrun⟩ := (keeps_serving w).upholds.startAgain
    (fun info => serving_elsewhere (unmoved_verifyIdentity info)) d
  obtain ⟨rest,hrest⟩ := course_exists (w := w) (startRun w d).2 turns
  exact ⟨first ++ rest,first,rest,rfl,hfirst,hrun,hrest⟩

theorem Traced.leads {d : DriverState} {turns : List Turn} {occurrences : List Occurrence}
    (h : Traced w d turns occurrences) :
    run (occur w) (resetRun d).2 occurrences = statusRun w d turns := by
  obtain ⟨first,rest,rfl,_,hrun,hcourse⟩ := h
  rw [run_append,hrun,hcourse.leads]
  rfl

theorem balanced_opening (d : DriverState) : Balanced (opening d) := by
  change d.receive.droppedUnsynchronized + 0 = 0 + (0 + d.receive.droppedUnsynchronized)
  rw [add_zero,zero_add,zero_add]

theorem shown_opening (d : DriverState) : Shown d.link.statuses (opening d) :=
  (List.append_nil _).symm

/-- Every run, whatever the driver has been through before it, has its occurrences, and of its
samples: each status has shown how many have been dropped outside the waits until then, a
number that never decreases, exactly when at every status as many have been forgotten as have
been carried over from before the run or dropped in waits that were abandoned since. -/
theorem published_drops_iff (w : World) (d : DriverState) (turns : List Turn) :
    (∃ occurrences, Traced w d turns occurrences) ∧
    ∀ occurrences, Traced w d turns occurrences →
      let a := run (account w) (opening d) occurrences
      a.driver = statusRun w d turns ∧ a.tally.due.Pairwise (· ≤ ·) ∧
        (Shown d.link.statuses a ↔ EachStep (account w) Settled (opening d) occurrences) := by
  refine ⟨traced_exists w d turns,fun occurrences h => ⟨?_,?_,?_⟩⟩
  · exact (run_driver occurrences).trans h.leads
  · exact (run_mounting ⟨List.Pairwise.nil,fun d hd => by cases hd⟩ occurrences).sorted
  · rw [run_shown_iff (balanced_opening d),and_iff_right (shown_opening d)]

end

/-! ## A drop that is forgotten -/

/-- Every frame is a sample of the board IMU that is not synchronized. -/
def undatedImu : World where
  readFrame := fun _ => .ok (.imuSample (.ok {
    sensorId := 0
    sampleId := 1
    timestampUs := 1
    timestampSynced := false
    fsyncEvent := false
    sampleGap := false
    accelMg := fun _ => 0
    gyroMdps := fun _ => 0
    tempMilliC := 0 }))

/-- One sample is dropped after the start; reading the hotspot's state pauses the streams,
and when they have been restored the status shows no dropped sample any more. -/
theorem restart_forgets_drop :
    let s := statusRun undatedImu (fresh {})
      [.act .receive,.publish "streaming" "",.act (.control (.idle .getWifiHotspot))]
    s.link.statuses.map (·.droppedUnsynchronized) = [0,1,1,0] ∧
      ¬ (s.link.statuses.map (·.droppedUnsynchronized)).Pairwise (· ≤ ·) := by
  decide +kernel

/-- A driver that has counted 5 dropped samples in an earlier run. -/
def countedBefore : DriverState :=
  { fresh { transport := "network", networkHost := "::1" } with
    receive := { droppedUnsynchronized := 5 } }

/-- The password is missing now, and the status that says so shows the earlier run's 5: the
account is not settled there. -/
theorem published_drops_iff_carried :
    let w : World := { networkToken := none }
    ∃ occurrences, Traced w countedBefore [.publish "failed" "no password"] occurrences ∧
      (statusRun w countedBefore [.publish "failed" "no password"]).link.statuses.map
        (·.droppedUnsynchronized) = [5] ∧
      ¬ EachStep (account w) Settled (opening countedBefore) occurrences := by
  intro w
  have hcourse : Course w (startRun w countedBefore).2 [.publish "failed" "no password"]
      ([.published "failed" "no password"] ++ []) := .next ⟨rfl,rfl⟩ .nil
  have htraced : Traced w countedBefore [.publish "failed" "no password"]
      [.published "failed" "no password"] := ⟨[],_,rfl,.nil,rfl,hcourse⟩
  refine ⟨_,htraced,by decide +kernel,fun hsettled => ?_⟩
  have hshown := ((published_drops_iff w countedBefore _).2 _ htraced).2.2.mpr hsettled
  have hfive : ([5] : List UInt64) = [] ++ [0] := hshown
  exact absurd hfive (by decide)

/-- The first wait drops a sample and ends in an exception: the sample is counted. -/
example :
    let w : World := { undatedImu with
      waitTurns := fun _ => 2
      readFrame := fun call => if call = 7 then .error (.sdk "transfer failed")
        else undatedImu.readFrame call }
    (statusRun w (fresh {}) [.publish "failed" "transfer failed"]).link.statuses.map
      (·.droppedUnsynchronized) = [0,1] := by decide +kernel

end PrismRosAdapter.Driver
