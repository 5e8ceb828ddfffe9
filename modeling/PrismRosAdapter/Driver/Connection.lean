import PrismRosAdapter.Driver.MainLoop

/-! # The connection settings

They are checked when the driver is constructed and never change afterwards, so a client
that is opened again is opened the same way: no later check of them can fail and no
transport stands in for another.
-/
namespace PrismRosAdapter.Driver
open Program Runs

def validateConnectionConfig (w : World) (config : DriverConfig) : Except Failure Unit := do
  let transport := resolvedTransport config w.rkLocal
  if w.rkLocal then
    if transport ≠ "rklocal" then
      throw (.adapter ("RK-local build requires transport=auto or rklocal; " ++
        "use the host build for USB/network"))
    if config.deviceSerial ≠ "" then
      throw (.adapter "device_serial is not supported by RK-local")
    if config.rklocalSocket.toList.head? ≠ some '/' then
      throw (.adapter "rklocal_socket must be an absolute socket path")
  else if transport ≠ "usb" ∧ transport ≠ "network" then
    throw (.adapter "transport must be auto, usb or network in a host build")
  if transport ≠ "network" then
    if config.networkHost ≠ "" then
      throw (.adapter "network_host requires transport=network (no implicit fallback)")
    else return ()
  else validateNetworkConfig w config

/-- The constructor. -/
def construct (w : World) (config : DriverConfig) (gpsUtcLeapSeconds : ℤ) :
    Except Failure DriverState := do
  validateConnectionConfig w config
  if gpsUtcLeapSeconds < -1 ∨ 64 < gpsUtcLeapSeconds then
    throw (.adapter "gps_utc_leap_seconds must be -1 or 0..64")
  return fresh config

/-- What the SDK is given to open a network client with. -/
structure NetworkOptions where
  host : String
  port : UInt16
  connectTimeoutMs : UInt32
  token : String
  deriving DecidableEq, Repr

/-- Both numbers are narrowed without a check of their own. -/
def networkOptions (config : DriverConfig) (token : String) : NetworkOptions where
  host := config.networkHost
  port := UInt16.ofNat (config.networkPort % 65536).toNat
  connectTimeoutMs := UInt32.ofNat (config.networkConnectTimeoutMs % 4294967296).toNat
  token := token

/-- The configuration asks for a network client. -/
def DriverConfig.networked (w : World) (config : DriverConfig) : Bool :=
  decide (resolvedTransport config w.rkLocal = "network")

/-- What an attempt to open a client may fail with, once its settings have been checked. -/
inductive OpenFailure (w : World) (config : DriverConfig) : Failure → Prop where
  | sdk {call e} (answer : w.openClient call = .error e) : OpenFailure w config e
  | password {e} (networked : config.networked w = true) (answer : networkToken w = .error e) :
    OpenFailure w config e
  | enumerate {call e} (networked : config.networked w = false)
    (answer : w.enumerate call = .error e) : OpenFailure w config e
  | absent (networked : config.networked w = false) (serial : config.deviceSerial ≠ "") :
    OpenFailure w config (.adapter ("Prism device serial not found: " ++ config.deviceSerial))

section Checks
variable {w : World} {config config' : DriverConfig}

/-- Only settings that no command changes are looked at. -/
theorem validateConnectionConfig_fixed (h : config'.fixed = config.fixed) :
    validateConnectionConfig w config' = validateConnectionConfig w config := by
  cases config
  cases config'
  simp only [DriverConfig.fixed, DriverConfig.mk.injEq] at h
  obtain ⟨rfl,rfl,rfl,rfl,rfl,rfl,rfl,h⟩ := h
  rfl

theorem validated_rkLocal (hw : w.rkLocal = true) (h : validateConnectionConfig w config = .ok ()) :
    config.networked w = false ∧ validateRkLocalConfig config = .ok () := by
  simp only [validateConnectionConfig, hw, if_true] at h
  split at h
  · cases h
  · rename_i ht
    rw [not_not] at ht
    refine ⟨?_,?_⟩
    · unfold DriverConfig.networked
      rw [hw,ht]
      rfl
    · unfold validateRkLocalConfig
      split at h
      · cases h
      · rename_i hserial
        split at h
        · cases h
        · rename_i hsocket
          rw [if_neg hserial,if_neg hsocket]
          rfl

theorem validated_network (hw : w.rkLocal = false) (hn : config.networked w = true)
    (h : validateConnectionConfig w config = .ok ()) : validateNetworkConfig w config = .ok () := by
  have ht : resolvedTransport config false = "network" := by
    simpa [DriverConfig.networked,hw] using hn
  simpa [validateConnectionConfig,hw,ht,bind,Except.bind,pure,Except.pure] using h

theorem validateNetworkConfig_ok (h : validateNetworkConfig w config = .ok ()) :
    (1 ≤ config.networkPort ∧ config.networkPort ≤ 65535) ∧
      100 ≤ config.networkConnectTimeoutMs ∧ config.networkConnectTimeoutMs ≤ 60000 := by
  by_contra hrange
  simp only [validateNetworkConfig] at h
  split at h
  · cases h
  split at h
  · cases h
  split at h
  · cases h
  · omega

/-- What has been checked goes through the narrowing unchanged. -/
theorem networkOptions_exact (h : validateNetworkConfig w config = .ok ()) (token : String) :
    ((networkOptions config token).port.toNat : ℤ) = config.networkPort ∧
      ((networkOptions config token).connectTimeoutMs.toNat : ℤ) =
        config.networkConnectTimeoutMs := by
  obtain ⟨hport,htimeout⟩ := validateNetworkConfig_ok h
  simp only [networkOptions, UInt16.toNat_ofNat', UInt32.toNat_ofNat']
  omega

end Checks

section Opening
variable {w : World} {s t : DriverState}

theorem openSession_throws {network : Bool} {e : Failure}
    (h : (openSession w network).Throws s e t) : ∃ call, w.openClient call = .error e := by
  rcases throws_bind.mp h with h | ⟨_,u,_,h⟩
  · exact ⟨_,(throws_ask.mp h).1⟩
  · exact absurd h (by simp [modifyLink])

theorem openSession_returns {network : Bool} (h : (openSession w network).Returns s () t) :
    t.link.network = network := by
  obtain ⟨_,u,_,h⟩ := returns_bind.mp h
  rw [returns_modify.mp h]

/-- The checks that an opening makes again do not fail. -/
theorem openClient_throws {e : Failure}
    (hs : validateConnectionConfig w s.control.config = .ok ())
    (h : (openClient w).Throws s e t) : OpenFailure w s.control.config e := by
  replace h := throws_get_bind.mp h
  split at h
  · rename_i hw
    replace h := throws_get_bind.mp h
    rcases throws_bind.mp h with h | ⟨_,u,_,h⟩
    · rw [throws_answer,(validated_rkLocal hw hs).2] at h
      cases h.1
    · obtain ⟨call,h⟩ := openSession_throws h
      exact .sdk h
  rename_i hw
  rw [Bool.not_eq_true] at hw
  have hnet : s.control.config.networked w =
      decide (resolvedTransport s.control.config false = "network") := by
    rw [DriverConfig.networked,hw]
  split at h
  · rename_i ht
    rw [decide_eq_true ht] at hnet
    replace h := throws_get_bind.mp h
    rcases throws_bind.mp h with h | ⟨_,u,_,h⟩
    · rw [throws_answer,validated_network hw hnet hs] at h
      cases h.1
    rcases throws_bind.mp h with h | ⟨_,u,_,h⟩
    · exact .password hnet (throws_answer.mp h).1
    · obtain ⟨call,h⟩ := openSession_throws h
      exact .sdk h
  · rename_i ht
    rw [decide_eq_false ht] at hnet
    replace h := throws_get_bind.mp h
    dsimp only at h
    split at h
    · obtain ⟨call,h⟩ := openSession_throws h
      exact .sdk h
    rename_i hserial
    rcases throws_bind.mp h with h | ⟨devices,u,_,h⟩
    · exact .enumerate hnet (throws_ask.mp h).1
    split at h
    · obtain ⟨call,h⟩ := openSession_throws h
      exact .sdk h
    · rw [(throws_throw.mp h).1]
      exact .absent hnet hserial

/-- No transport stands in for another. -/
theorem openClient_network (hs : validateConnectionConfig w s.control.config = .ok ())
    (h : (openClient w).Returns s () t) : t.link.network = s.control.config.networked w := by
  replace h := returns_get_bind.mp h
  split at h
  · rename_i hw
    obtain ⟨_,u,_,h⟩ := returns_bind.mp (returns_get_bind.mp h)
    rw [openSession_returns h,(validated_rkLocal hw hs).1]
  rename_i hw
  rw [Bool.not_eq_true] at hw
  rw [DriverConfig.networked,hw]
  split at h
  · rename_i ht
    obtain ⟨_,u,_,h⟩ := returns_bind.mp (returns_get_bind.mp h)
    obtain ⟨_,v,_,h⟩ := returns_bind.mp h
    rw [openSession_returns h,decide_eq_true ht]
  · rename_i ht
    rw [decide_eq_false ht]
    replace h := returns_get_bind.mp h
    dsimp only at h
    split at h
    · exact openSession_returns h
    obtain ⟨devices,u,_,h⟩ := returns_bind.mp h
    split at h
    · exact openSession_returns h
    · exact absurd h (by simp)

end Opening

/-! ## Whole runs -/

section Runs
variable {w : World} {config : DriverConfig} {s t : DriverState}

/-- No setting of the connection changes, and the client stays. -/
structure SameConnection (s t : DriverState) : Prop where
  fixed : t.control.config.fixed = s.control.config.fixed
  session : t.link.session = s.link.session
  network : t.link.network = s.link.network

instance : Std.Refl SameConnection := ⟨fun _ => ⟨rfl,rfl,rfl⟩⟩
instance : IsTrans DriverState SameConnection := ⟨fun _ _ _ h h' =>
  ⟨h'.fixed.trans h.fixed,h'.session.trans h.session,h'.network.trans h.network⟩⟩

theorem sameConnection_modifyControl {g : Control → Control}
    (h : ∀ c, (g c).config.fixed = c.config.fixed) : Within SameConnection (modifyControl g) :=
  within_modify fun s => ⟨h s.control,rfl,rfl⟩

theorem sameConnection_modifyHealth (g : Health.SensorDataHealth → Health.SensorDataHealth) :
    Within SameConnection (modifyHealth g) := fun _ => ⟨rfl,rfl,rfl⟩

theorem sameConnection_modifyReceive (g : Receive → Receive) :
    Within SameConnection (modifyReceive g) := fun _ => ⟨rfl,rfl,rfl⟩

theorem sameConnection_steadyNowNs : Within SameConnection (steadyNowNs w) :=
  fun _ => ⟨rfl,rfl,rfl⟩

theorem sameConnection_nextCall : Within SameConnection nextCall := fun _ => ⟨rfl,rfl,rfl⟩

theorem sameConnection_recorded {α : Type} {event : Except Failure α → Event} {x : Driving α}
    (h : Within SameConnection x) : Within SameConnection (recorded event x) :=
  within_andThen h fun _ _ => ⟨rfl,rfl,rfl⟩

theorem sameConnection_ask {α : Type} {event : Except Failure α → Event}
    {reply : ℕ → Except Failure α} : Within SameConnection (ask event reply) :=
  sameConnection_recorded (within_bind sameConnection_nextCall fun _ => within_answer _)

theorem receives_sameConnection (w : World) : Receives w SameConnection where
  addIssue _ _ := sameConnection_modifyHealth _
  observe _ _ _ _ _ := within_sampling (within_bind sameConnection_steadyNowNs fun _ =>
    sameConnection_modifyHealth _) fun _ _ => ⟨rfl,rfl,rfl⟩
  checkRoverRtcm _ := within_sampling (within_bind (within_bind sameConnection_steadyNowNs fun _ =>
    sameConnection_modifyHealth _) fun _ => within_bind (sameConnection_modifyHealth _) fun _ =>
      sameConnection_modifyHealth _) fun _ _ => ⟨rfl,rfl,rfl⟩
  receive _ := sameConnection_modifyReceive _
  tick _ := ⟨rfl,rfl,rfl⟩
  call := sameConnection_nextCall
  accumulate _ _ := ⟨rfl,rfl,rfl⟩
  boardTime _ := within_ite (within_bind sameConnection_steadyNowNs fun _ =>
    sameConnection_modifyReceive _) (within_pure ())
  cameraTime _ := within_ite (within_bind sameConnection_steadyNowNs fun _ =>
    sameConnection_modifyReceive _) (within_pure ())
  ask _ := sameConnection_ask
  note _ _ := ⟨rfl,rfl,rfl⟩

theorem adjusts_sameConnection (w : World) : Adjusts w SameConnection where
  control h := sameConnection_modifyControl fun c => congrArg DriverConfig.fixed (h c)
  reset _ _ _ := within_bind sameConnection_steadyNowNs fun _ => sameConnection_modifyHealth _
  resetCounter := sameConnection_modifyHealth _
  disable := sameConnection_modifyHealth _
  accumulate _ _ := ⟨rfl,rfl,rfl⟩
  call := sameConnection_nextCall
  ask _ := sameConnection_ask
  recorded _ := sameConnection_recorded

theorem performs_sameConnection (w : World) : Performs w SameConnection where
  control h := sameConnection_modifyControl h.fixed
  fatal _ := sameConnection_modifyControl fun _ => rfl
  status _ _ _ := ⟨rfl,rfl,rfl⟩
  resolver := sameConnection_modifyReceive _
  plain _ _ := sameConnection_ask
  query _ := sameConnection_ask
  rover enable := within_bind ((adjusts_sameConnection w).askRover enable) fun _ =>
    within_bind (sameConnection_modifyControl fun _ => rfl) fun _ =>
      within_ite (within_throw _) (within_pure ())
  start := (adjusts_sameConnection w).startConfiguredStreams
    (receives_sameConnection w).establishDeviceTimeReference
  stop := (adjusts_sameConnection w).stopConfiguredStreams

/-- The settings are those of the constructor, and the client is of the kind they ask for. -/
structure Configured (w : World) (config : DriverConfig) (s : DriverState) : Prop where
  fixed : s.control.config.fixed = config.fixed
  network : s.link.session ≠ 0 → s.link.network = config.networked w

def Configures (w : World) (config : DriverConfig) (s t : DriverState) : Prop :=
  Configured w config s → Configured w config t

instance : Std.Refl (Configures w config) := ⟨fun _ => id⟩
instance : IsTrans DriverState (Configures w config) := ⟨fun _ _ _ h h' => h' ∘ h⟩

theorem SameConnection.configures (h : SameConnection s t) : Configures w config s t := fun hs =>
  ⟨h.fixed.trans hs.fixed,fun hne => h.network.trans (hs.network (h.session ▸ hne))⟩

theorem configures_of {α : Type} {x : Driving α} (h : Within SameConnection x) :
    Within (Configures w config) x := h.mono fun _ _ => SameConnection.configures

theorem networked_fixed {config' : DriverConfig} (h : config'.fixed = config.fixed) :
    config'.networked w = config.networked w := by
  have htransport : config'.fixed.transport = config.fixed.transport := congrArg _ h
  replace htransport : config'.transport = config.transport := htransport
  rw [DriverConfig.networked,DriverConfig.networked,resolvedTransport,resolvedTransport,htransport]

/-- A client that could not be opened changes nothing of what there is. -/
theorem sameConnection_openClient : ThrowsWithin SameConnection (openClient w) := by
  have hopen : ∀ network, ThrowsWithin SameConnection (openSession w network) := fun _ =>
    throwsWithin_bind sameConnection_ask fun _ => (total_modify _).throwsWithin
  refine throwsWithin_bind within_get (fun s => throwsWithin_ite ?_ (throwsWithin_ite ?_ ?_))
  · exact throwsWithin_bind within_get fun _ => throwsWithin_bind (within_answer _) fun _ => hopen _
  · exact throwsWithin_bind within_get fun _ => throwsWithin_bind (within_answer _) fun _ =>
      throwsWithin_bind (within_answer _) fun _ => hopen _
  · refine throwsWithin_bind within_get (fun _ => throwsWithin_ite (hopen _) ?_)
    exact throwsWithin_bind sameConnection_ask fun _ =>
      throwsWithin_ite (hopen _) (within_throw _).throwsWithin

def SameSettings (s t : DriverState) : Prop := t.control.config.fixed = s.control.config.fixed

instance : Std.Refl SameSettings := ⟨fun _ => rfl⟩
instance : IsTrans DriverState SameSettings := ⟨fun _ _ _ h h' => h'.trans h⟩

theorem sameSettings_openClient : Within SameSettings (openClient w) := by
  have hask : ∀ {α : Type} {event : Except Failure α → Event} {reply : ℕ → Except Failure α},
      Within SameSettings (ask event reply) := sameConnection_ask.mono fun _ _ h => h.fixed
  have hopen : ∀ network, Within SameSettings (openSession w network) := fun _ =>
    within_bind hask fun _ _ => rfl
  refine within_bind within_get (fun s => within_ite ?_ (within_ite ?_ ?_))
  · exact within_bind within_get fun _ => within_bind (within_answer _) fun _ => hopen _
  · exact within_bind within_get fun _ => within_bind (within_answer _) fun _ =>
      within_bind (within_answer _) fun _ => hopen _
  · exact within_bind within_get fun _ => within_ite (hopen _) (within_bind hask
      fun _ => within_ite (hopen _) (within_throw _))

theorem configures_openClient (hc : validateConnectionConfig w config = .ok ()) :
    Within (Configures w config) (openClient w) := by
  refine within_of_leaves fun s t h hs => ?_
  rcases leaves_iff.mp h with ⟨e,h⟩ | ⟨_,h⟩
  · exact (sameConnection_openClient s e t h).configures hs
  · refine ⟨?_,fun _ => ?_⟩
    · exact (sameSettings_openClient.returns h).trans hs.fixed
    · rw [openClient_network ((validateConnectionConfig_fixed hs.fixed).trans hc) h]
      exact networked_fixed hs.fixed

theorem upholds_configures (hc : validateConnectionConfig w config = .ok ()) :
    Upholds w (Configures w config) where
  control h := configures_of ((performs_sameConnection w).control h)
  fatal h := configures_of ((performs_sameConnection w).fatal h)
  status state error := configures_of ((performs_sameConnection w).status state error)
  resolver := configures_of (performs_sameConnection w).resolver
  plain name reply := configures_of ((performs_sameConnection w).plain name reply)
  query q := configures_of ((performs_sameConnection w).query q)
  rover enable := configures_of ((performs_sameConnection w).rover enable)
  start := configures_of (performs_sameConnection w).start
  stop := configures_of (performs_sameConnection w).stop
  opened := configures_openClient hc
  detach _ := configures_of (within_modify fun _ => ⟨rfl,rfl,rfl⟩)

theorem configured_cleared (config : DriverConfig) : Configured w config (cleared config) :=
  ⟨rfl,fun h => absurd rfl h⟩

theorem sameConnection_verifyIdentity (info : DeviceInfo) :
    Within SameConnection (verifyIdentity w info) := by
  refine within_bind within_get (fun s => within_ite (within_pure ()) (within_bind ?_ fun _ => ?_))
  · exact within_ite (within_pure _) (within_bind sameConnection_nextCall fun _ => within_pure _)
  · exact within_bind (fun _ => ⟨rfl,rfl,rfl⟩) fun _ =>
      within_ite (fun _ => ⟨rfl,rfl,rfl⟩) (within_throw _)

theorem configures_act (hc : validateConnectionConfig w config = .ok ()) (s : DriverState)
    (action : Action) : Configures w config s (act w s action) := by
  have hreads := (receives_sameConnection w).reads
  cases action with
  | control command => exact (upholds_configures hc).command command s
  | receive => exact configures_of (within_survivingTimeout hreads.receiveFrame) s
  | expire => exact configures_of hreads.expireCameraSets s

/-- In every state of every run the settings are as they were when they were checked. -/
theorem configured_run (hc : validateConnectionConfig w config = .ok ()) (turns : List Turn) :
    Configured w config (statusRun w (fresh config) turns) := by
  have hstart : Configures w config (cleared config) (startRun w (fresh config)).2 :=
    (upholds_configures hc).startRun
      (fun info => configures_of (sameConnection_verifyIdentity info)) config
  have hrun : Configures w config (startRun w (fresh config)).2 (statusRun w (fresh config) turns) := by
    refine run_within (turn w) (fun t next => ?_) _ turns
    cases next with
    | act action => exact configures_act hc t action
    | publish state error => exact (upholds_configures hc).status state error t
  exact hrun (hstart (configured_cleared config))

theorem OpenFailure.of_fixed {config' : DriverConfig} (h : config'.fixed = config.fixed)
    {e : Failure} (hf : OpenFailure w config' e) : OpenFailure w config e := by
  have hserial : config'.fixed.deviceSerial = config.fixed.deviceSerial := congrArg _ h
  replace hserial : config'.deviceSerial = config.deviceSerial := hserial
  have hnet := networked_fixed (w := w) h
  cases hf with
  | sdk answer => exact .sdk answer
  | password networked answer => exact .password (hnet.symm.trans networked) answer
  | enumerate networked answer => exact .enumerate (hnet.symm.trans networked) answer
  | absent networked serial =>
    rw [hserial]
    exact .absent (hnet.symm.trans networked) (hserial ▸ serial)

theorem networkOptions_fixed {config' : DriverConfig} (h : config'.fixed = config.fixed)
    (token : String) : networkOptions config' token = networkOptions config token := by
  have hhost : config'.fixed.networkHost = config.fixed.networkHost := congrArg _ h
  have hport : config'.fixed.networkPort = config.fixed.networkPort := congrArg _ h
  have htimeout : config'.fixed.networkConnectTimeoutMs = config.fixed.networkConnectTimeoutMs :=
    congrArg _ h
  simp only [networkOptions, NetworkOptions.mk.injEq, and_true]
  exact ⟨hhost,congrArg _ (congrArg _ (congrArg (· % 65536) hport)),
    congrArg _ (congrArg _ (congrArg (· % 4294967296) htimeout))⟩

end Runs
end PrismRosAdapter.Driver
