import PrismRosAdapter.Driver.ControlRuns

/-! # Which device the streams are started on

Over the network the device's serial is compared with the configured one after the
run has opened its client. A client that is opened again later is not compared.
-/
namespace PrismRosAdapter.Driver
open Program Runs

/-- The state after a whole run; a run whose beginning throws takes no turns. -/
def driverRun (w : World) (config : DriverConfig) (actions : List Action) : DriverState :=
  match startRun w (fresh config) with
  | (.ok _, s) => run (act w) s actions
  | (.error _, s) => s

/-- Every start was sent to a device whose serial had been compared since the session
was opened. -/
def StartsCompared (s : DriverState) : Prop :=
  ∀ e ∈ s.link.journal, e.event.isStart = true → e.verified = true

/-- Every start was sent on the session that the run began with. -/
def StartsInFirstSession (s : DriverState) : Prop :=
  ∀ e ∈ s.link.journal, e.event.isStart = true → e.session ≤ 1

instance (s : DriverState) : Decidable (StartsCompared s) :=
  inferInstanceAs (Decidable (∀ e ∈ _, _))
instance (s : DriverState) : Decidable (StartsInFirstSession s) :=
  inferInstanceAs (Decidable (∀ e ∈ _, _))

section
variable {w : World} {s t : DriverState} {config : DriverConfig}

def StartsStamped (s : DriverState) : Prop :=
  ∀ e ∈ s.link.journal, e.event.isStart = true → Stamped e

theorem StartsStamped.compared_iff (h : StartsStamped s) :
    StartsCompared s ↔ StartsInFirstSession s := by
  refine forall₂_congr fun e he => imp_congr_right fun hs => ?_
  obtain ⟨hpos,hver⟩ := h e he hs
  rw [hver,decide_eq_true_iff]
  omega

theorem journal_later (h : Later s t) : t.link.journal = s.link.journal ++ since s t := by
  obtain ⟨rest,hr⟩ := h
  rw [since,← hr,List.drop_left]

theorem Calm.startsStamped (h : Calm s t) (hs : StartsStamped s) : StartsStamped t := by
  intro e he hstart
  rw [journal_later h.later] at he
  rcases List.mem_append.mp he with he | he
  · exact hs e he hstart
  · rw [Event.isStart_of_feed (h.events e he)] at hstart
    cases hstart

theorem Onward.startsStamped (h : Onward s t) (hm : Matched s) (hs : StartsStamped s) :
    StartsStamped t := by
  intro e he hstart
  rw [journal_later h.later] at he
  rcases List.mem_append.mp he with he | he
  · exact hs e he hstart
  · exact (h.matched hm).2 e he

/-! ## The beginning of a run over the network -/

/-- A session with a network device whose serial has not been compared yet. -/
structure Opened (config : DriverConfig) (s : DriverState) : Prop where
  session : s.link.session = 1
  network : s.link.network = true
  deviceSerial : s.control.config.deviceSerial = config.deviceSerial

theorem Opened.asked (h : Opened config s) (event : Event) : Opened config (s.asked event) :=
  ⟨h.session,h.network,h.deviceSerial⟩

theorem openClient_returns (hw : w.rkLocal = false)
    (hn : resolvedTransport s.control.config false = "network") (hs : s.link.session = 0)
    (h : (openClient w).Returns s () t) : Opened s.control.config t := by
  replace h := returns_get_bind.mp h
  rw [if_neg (by simp [hw]),if_pos hn] at h
  replace h := returns_get_bind.mp h
  obtain ⟨_,u,hu,hvalid⟩ := returns_bind.mp h
  obtain ⟨_,v,hv,htoken⟩ := returns_bind.mp hvalid
  obtain ⟨_,x,hx,hopened⟩ := returns_bind.mp htoken
  obtain ⟨_,rfl⟩ := returns_answer.mp hu
  obtain ⟨_,rfl⟩ := returns_answer.mp hv
  obtain ⟨_,rfl⟩ := returns_ask.mp hx
  obtain rfl := returns_modify.mp hopened
  exact ⟨congrArg (· + 1) hs,rfl,rfl⟩

theorem verifyIdentity_returns {info : DeviceInfo} (hw : w.rkLocal = false)
    (hd : config.deviceSerial ≠ "") (ho : Opened config s)
    (h : (verifyIdentity w info).Returns s () t) : Matched t := by
  replace h := returns_get_bind.mp h
  have hcompare : ¬ (w.rkLocal || !s.link.network ||
      decide (s.control.config.deviceSerial = "")) = true := by
    simp [hw,ho.network,ho.deviceSerial,hd]
  rw [if_neg hcompare] at h
  obtain ⟨equal,u,hu,h⟩ := returns_bind.mp h
  obtain ⟨_,v,hv,h⟩ := returns_bind.mp h
  obtain rfl := returns_modify.mp hv
  have hsession : u.link.session = 1 := by
    have hq : Quiet s u := (within_ite (within_pure _) (within_bind within_nextCall fun _ =>
      within_pure _) : Within Quiet (identityMatches w info s.control.config.deviceSerial)).returns hu
    rw [hq.session.1,ho.session]
  split at h
  · obtain rfl := returns_modify.mp h
    exact ⟨hsession.ge,(decide_eq_true hsession).symm⟩
  · exact absurd h (by simp)

section Beginning
variable {a b c d : DriverState} {info : DeviceInfo} {u : Unit}

theorem resetRun_returns (h : resetRun.Returns (fresh config) () a) :
    a.link = {} ∧ a.control.config = config := by
  obtain rfl := h.state
  exact ⟨rfl,rfl⟩

theorem calm_consult {α : Type} {name : String} {reply : ℕ → Except Failure α} :
    Within Calm (consult name reply) := calm_of_quiet (quiet_consult _ _)

/-- From the fresh state to the comparison of the serials. -/
theorem identified (hw : w.rkLocal = false) (hn : resolvedTransport config false = "network")
    (hd : config.deviceSerial ≠ "") (hreset : resetRun.Returns (fresh config) () a)
    (hopen : (openClient w).Returns a () b)
    (hkeep : (consult "setKeepaliveEnabled" w.setKeepaliveEnabled).Returns b u c)
    (hinfo : (consult "deviceInfo" w.deviceInfo).Returns c info d)
    (hident : (verifyIdentity w info).Returns d () s) : StartsStamped s ∧ Matched s := by
  obtain ⟨hlink,hconfig⟩ := resetRun_returns hreset
  constructor
  · have hcalm : Calm a s := (((calm_of_reopened reopened_openClient).returns hopen).trans
      (calm_consult.returns hkeep)).trans ((calm_consult.returns hinfo).trans
      ((calm_verifyIdentity info).returns hident))
    refine hcalm.startsStamped fun e he => ?_
    rw [hlink] at he
    cases he
  · have hopened : Opened config b := hconfig ▸ openClient_returns hw (by rw [hconfig]; exact hn)
      (by rw [hlink]) hopen
    obtain ⟨_,rfl⟩ := returns_ask.mp hkeep
    obtain ⟨_,rfl⟩ := returns_ask.mp hinfo
    exact verifyIdentity_returns hw hd ((hopened.asked _).asked _) hident

theorem startRun_returns_matched (hw : w.rkLocal = false)
    (hn : resolvedTransport config false = "network") (hd : config.deviceSerial ≠ "")
    (h : (startRun w).Returns (fresh config) () t) : StartsStamped t ∧ Matched t := by
  obtain ⟨_,a,hreset,hrest⟩ := returns_bind.mp h
  obtain ⟨_,b,hopen,hrest⟩ := returns_bind.mp hrest
  obtain ⟨_,c,hkeep,hrest⟩ := returns_bind.mp hrest
  obtain ⟨info,d,hinfo,hrest⟩ := returns_bind.mp hrest
  obtain ⟨_,e,hident,hrest⟩ := returns_bind.mp hrest
  obtain ⟨hstamped,hmatched⟩ := identified hw hn hd hreset hopen hkeep hinfo hident
  have honward : Onward e t := (keeps_onward.afterIdentity info).returns hrest
  exact ⟨honward.startsStamped hmatched hstamped,(honward.matched hmatched).1⟩

/-- Nothing is started before the serials have been compared. -/
theorem startRun_throws_stamped (hw : w.rkLocal = false)
    (hn : resolvedTransport config false = "network") (hd : config.deviceSerial ≠ "")
    {e : Failure} (h : (startRun w).Throws (fresh config) e t) : StartsStamped t := by
  rcases throws_bind.mp h with h | ⟨_,a,hreset,h⟩
  · cases h
  have hnone : StartsStamped a := by
    intro e he
    rw [(resetRun_returns hreset).1] at he
    cases he
  rcases throws_bind.mp h with h | ⟨_,b,hopen,h⟩
  · exact ((calm_of_reopened reopened_openClient).throws h).startsStamped hnone
  have hb : StartsStamped b :=
    ((calm_of_reopened reopened_openClient).returns hopen).startsStamped hnone
  rcases throws_bind.mp h with h | ⟨_,c,hkeep,h⟩
  · exact (calm_consult.throws h).startsStamped hb
  have hc : StartsStamped c := (calm_consult.returns hkeep).startsStamped hb
  rcases throws_bind.mp h with h | ⟨info,d,hinfo,h⟩
  · exact (calm_consult.throws h).startsStamped hc
  have hd' : StartsStamped d := (calm_consult.returns hinfo).startsStamped hc
  rcases throws_bind.mp h with h | ⟨_,x,hident,h⟩
  · exact ((calm_verifyIdentity info).throws h).startsStamped hd'
  obtain ⟨hstamped,hmatched⟩ := identified hw hn hd hreset hopen hkeep hinfo hident
  exact ((keeps_onward.afterIdentity info).throws h).startsStamped hmatched hstamped

end Beginning

/-! ## Whole runs -/

theorem onward_run (s : DriverState) (actions : List Action) : Onward s (run (act w) s actions) := by
  induction actions generalizing s with
  | nil => exact Onward.refl s
  | cons action rest ih => exact (onward_act s action).trans (ih _)

theorem driverRun_stamped (hw : w.rkLocal = false)
    (hn : resolvedTransport config false = "network") (hd : config.deviceSerial ≠ "")
    (actions : List Action) : StartsStamped (driverRun w config actions) := by
  unfold driverRun
  cases h : startRun w (fresh config) with
  | mk result s =>
    cases result with
    | ok u =>
      obtain ⟨hstamped,hmatched⟩ := startRun_returns_matched hw hn hd h
      exact (onward_run s actions).startsStamped hmatched hstamped
    | error e => exact startRun_throws_stamped hw hn hd h

/-- In a run over the network every start goes to a device whose serial has been
compared exactly when none is made on a client that was opened again. -/
theorem starts_compared_iff (hw : w.rkLocal = false)
    (hn : resolvedTransport config false = "network") (hd : config.deviceSerial ≠ "")
    (actions : List Action) :
    StartsCompared (driverRun w config actions) ↔
      StartsInFirstSession (driverRun w config actions) :=
  (driverRun_stamped hw hn hd actions).compared_iff

theorem starts_compared_restarted :
    let w : World := { networkToken := some "secret", deviceInfo := fun _ => .ok { productSerial := "P1" } }
    StartsCompared (driverRun w { transport := "network", deviceSerial := "P1" }
      [.receive, .control (.controlStreams .restart ⟨true,true,false⟩)]) :=
  (starts_compared_iff rfl (by decide) (by decide) _).mpr (by decide +kernel)

/-- After the client has been opened again another device answers. -/
theorem reopened_client_not_compared :
    ∃ (w : World) (config : DriverConfig), w.rkLocal = false ∧
      resolvedTransport config false = "network" ∧ config.deviceSerial ≠ "" ∧
      ¬ StartsCompared (driverRun w config [.control .synchronizeSystemTime]) := by
  refine ⟨{
      networkToken := some "secret"
      deviceInfo := fun call => .ok { productSerial := if call < 9 then "P1" else "P2" } },
    { transport := "network", deviceSerial := "P1" },rfl,by decide,by decide,?_⟩
  decide +kernel

end
end PrismRosAdapter.Driver
