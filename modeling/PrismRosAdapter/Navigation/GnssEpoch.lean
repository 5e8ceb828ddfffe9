import Mathlib.Data.Nat.Cast.Order.Field
import Mathlib.Data.Nat.Dist
import PrismRosAdapter.Navigation.ReceiverModel

/-! # The instant of a time of day

A time of day becomes the instant nearest to the last PPS that has it, and the UTC
stamp of a GGA position is such an instant, of its time rounded to milliseconds.
-/
namespace PrismRosAdapter.Navigation

/-! ## The nearest instant of a residue -/

/-- No instant with this residue is closer to `p`. -/
structure NearestInstant (period residue p instant : ℕ) : Prop where
  residue_eq : instant % period = residue
  nearest : ∀ other, other % period = residue → Nat.dist instant p ≤ Nat.dist other p

section
variable {period residue p instant : ℕ}

/-- Two instants of one residue are a period or more apart. -/
theorem period_le_of_lt {other : ℕ} (h : instant < other) (hmod : instant % period = other % period) :
    instant + period ≤ other := by
  have hdvd : period ∣ other - instant := (Nat.modEq_iff_dvd' h.le).mp hmod
  have hle := Nat.le_of_dvd (Nat.sub_pos_of_lt h) hdvd
  omega

/-- An instant at most half a period away is nearest. -/
theorem nearest_of_half (hmod : instant % period = residue)
    (hhalf : 2 * Nat.dist instant p ≤ period) : NearestInstant period residue p instant := by
  refine ⟨hmod,fun other hother => ?_⟩
  rw [Nat.dist] at hhalf ⊢
  rw [Nat.dist]
  rcases Nat.lt_trichotomy instant other with hlt | rfl | hgt
  · have hle := period_le_of_lt hlt (hmod.trans hother.symm)
    omega
  · exact le_rfl
  · have hle := period_le_of_lt hgt (hother.trans hmod.symm)
    omega

/-- In the first period nothing comes before the instant. -/
theorem nearest_of_first (hmod : instant % period = residue) (hfirst : instant < period)
    (hle : p ≤ instant) : NearestInstant period residue p instant := by
  refine ⟨hmod,fun other hother => ?_⟩
  have hother' : instant ≤ other := by
    rw [Nat.mod_eq_of_lt hfirst] at hmod
    rw [hmod,← hother]
    exact Nat.mod_le other period
  rw [Nat.dist,Nat.dist]
  omega

end

/-! ## The day of the last PPS -/

def dayUs : ℕ := 86400000000

def addChecked (a b : ℕ) : Option ℕ := if a + b < 2 ^ 64 then some (a + b) else none

def mulChecked (a b : ℕ) : Option ℕ := if a * b < 2 ^ 64 then some (a * b) else none

def subChecked (a b : ℕ) : Option ℕ := if b ≤ a then some (a - b) else none

/-- The steps of `gnssEpochUs`, none of which may wrap. -/
def gnssEpochChecked (lastPpsEpochUs utcMsOfDay : ℕ) : Option ℕ := do
  let date ← mulChecked (lastPpsEpochUs / dayUs) dayUs
  let time ← mulChecked utcMsOfDay 1000
  let epoch ← addChecked date time
  let noonLater ← addChecked epoch (dayUs / 2)
  if noonLater < lastPpsEpochUs then addChecked epoch dayUs
  else
    let ppsLater ← addChecked lastPpsEpochUs (dayUs / 2)
    if ppsLater < epoch ∧ dayUs ≤ epoch then subChecked epoch dayUs else some epoch

/-- A timing state from which an instant can be told. -/
structure Dated (s : GnssTimingStatusState) : Prop where
  timeSynced : s.timeSynced = true
  positive : 0 < s.lastPpsEpochUs.toNat
  bounded : s.lastPpsEpochUs.toNat ≤ 2 ^ 64 - 1 - 2 * dayUs
  utc : s.utcMsOfDay.toNat < 86400000

section
variable {s : GnssTimingStatusState}

/-- The instant on the day of the PPS, moved by a day where that is nearer. -/
theorem Dated.cases (h : Dated s) :
    let p := s.lastPpsEpochUs.toNat
    let epoch := p / dayUs * dayUs + s.utcMsOfDay.toNat * 1000
    (epoch + dayUs / 2 < p ∧ (gnssEpochUs s).toNat = epoch + dayUs) ∨
    (¬ epoch + dayUs / 2 < p ∧ (p + dayUs / 2 < epoch ∧ dayUs ≤ epoch) ∧
      (gnssEpochUs s).toNat = epoch - dayUs) ∨
    (¬ epoch + dayUs / 2 < p ∧ ¬ (p + dayUs / 2 < epoch ∧ dayUs ≤ epoch) ∧
      (gnssEpochUs s).toNat = epoch) := by
  obtain ⟨hsynced,hpositive,hbounded,hutc⟩ := h
  rcases s with ⟨synced,p,t⟩
  dsimp only [dayUs] at *
  have hp : ¬ p = 0 := by
    rintro rfl
    exact absurd hpositive (by decide)
  have ht : ¬ (86400000 : UInt32) ≤ t := by
    rw [UInt32.le_iff_toNat_le]
    exact not_le.mpr hutc
  unfold gnssEpochUs
  dsimp only
  rw [if_neg (by simp [hsynced,hp,ht])]
  have hepoch : (p / 86400000000 * 86400000000 + t.toUInt64 * 1000).toNat =
      p.toNat / 86400000000 * 86400000000 + t.toNat * 1000 := by
    simp only [UInt64.toNat_add,UInt64.toNat_mul,UInt64.toNat_div,UInt64.reduceToNat,
      UInt32.toNat_toUInt64]
    omega
  have hdate := Nat.div_mul_le_self p.toNat 86400000000
  rw [← hepoch]
  generalize p / 86400000000 * 86400000000 + t.toUInt64 * 1000 = epoch at hepoch ⊢
  have hnoon : (epoch + 86400000000 / 2).toNat = epoch.toNat + 86400000000 / 2 := by
    simp only [UInt64.toNat_add,UInt64.toNat_div,UInt64.reduceToNat]
    omega
  have hpps : (p + 86400000000 / 2).toNat = p.toNat + 86400000000 / 2 := by
    simp only [UInt64.toNat_add,UInt64.toNat_div,UInt64.reduceToNat]
    omega
  simp only [UInt64.lt_iff_toNat_lt,UInt64.le_iff_toNat_le,hnoon,hpps,UInt64.reduceToNat]
  split_ifs with hlater hearlier
  · refine .inl ⟨hlater,?_⟩
    simp only [UInt64.toNat_add,UInt64.reduceToNat]
    omega
  · refine .inr (.inl ⟨hlater,hearlier,?_⟩)
    exact UInt64.toNat_sub_of_le epoch _ (UInt64.le_iff_toNat_le.mpr hearlier.2)
  · exact .inr (.inr ⟨hlater,hearlier,rfl⟩)

theorem addChecked_eq {a b : ℕ} (h : a + b < 2 ^ 64) : addChecked a b = some (a + b) := if_pos h

theorem mulChecked_eq {a b : ℕ} (h : a * b < 2 ^ 64) : mulChecked a b = some (a * b) := if_pos h

theorem subChecked_eq {a b : ℕ} (h : b ≤ a) : subChecked a b = some (a - b) := if_pos h

/-- No step wraps. -/
theorem Dated.checked (h : Dated s) :
    gnssEpochChecked s.lastPpsEpochUs.toNat s.utcMsOfDay.toNat = some (gnssEpochUs s).toNat := by
  have hcases := h.cases
  obtain ⟨-,-,hbounded,hutc⟩ := h
  generalize s.lastPpsEpochUs.toNat = p at *
  generalize s.utcMsOfDay.toNat = t at *
  generalize (gnssEpochUs s).toNat = instant at *
  unfold gnssEpochChecked
  generalize hday : dayUs = day at *
  rw [dayUs] at hday
  have hdate := Nat.div_mul_le_self p day
  have hpps : addChecked p (day / 2) = some (p + day / 2) := addChecked_eq (by omega)
  rw [mulChecked_eq (by omega),Option.bind_eq_bind,Option.bind_some,mulChecked_eq (by omega),
    Option.bind_some,addChecked_eq (by omega),Option.bind_some,addChecked_eq (by omega),
    Option.bind_some,hpps]
  rcases hcases with ⟨hlater,heq⟩ | ⟨hlater,hearlier,heq⟩ | ⟨hlater,hearlier,heq⟩
  · rw [if_pos hlater,heq]
    exact addChecked_eq (by omega)
  · rw [if_neg hlater,heq,Option.bind_some,if_pos hearlier]
    exact subChecked_eq hearlier.2
  · rw [if_neg hlater,heq,Option.bind_some,if_neg hearlier]

/-- The instant told is the one nearest to the PPS. -/
theorem Dated.nearest (h : Dated s) :
    NearestInstant dayUs (1000 * s.utcMsOfDay.toNat) s.lastPpsEpochUs.toNat (gnssEpochUs s).toNat ∧
    (dayUs / 2 ≤ s.lastPpsEpochUs.toNat →
      Nat.dist (gnssEpochUs s).toNat s.lastPpsEpochUs.toNat ≤ dayUs / 2) := by
  have hcases := h.cases
  obtain ⟨-,-,-,hutc⟩ := h
  generalize s.lastPpsEpochUs.toNat = p at *
  generalize s.utcMsOfDay.toNat = t at *
  generalize (gnssEpochUs s).toNat = instant at *
  simp only [dayUs] at *
  have hmod : instant % 86400000000 = 1000 * t := by omega
  have hnear : 2 * Nat.dist instant p ≤ 86400000000 ∨
      (instant < 86400000000 ∧ p ≤ instant ∧ p < 43200000000) := by
    rw [Nat.dist]
    omega
  refine ⟨?_,fun hhalf => by omega⟩
  rcases hnear with hhalf | ⟨hfirst,hle,-⟩
  · exact nearest_of_half hmod hhalf
  · exact nearest_of_first hmod hfirst hle

/-- The instant of a time of day is the nearest one that has it, also on the first day
of the epoch, and telling it wraps nowhere. -/
theorem gnssEpochUs_nearest (h : Dated s) :
    gnssEpochChecked s.lastPpsEpochUs.toNat s.utcMsOfDay.toNat = some (gnssEpochUs s).toNat ∧
    NearestInstant dayUs (1000 * s.utcMsOfDay.toNat) s.lastPpsEpochUs.toNat (gnssEpochUs s).toNat ∧
    (dayUs / 2 ≤ s.lastPpsEpochUs.toNat →
      Nat.dist (gnssEpochUs s).toNat s.lastPpsEpochUs.toNat ≤ dayUs / 2) :=
  ⟨h.checked,h.nearest⟩

/-- Just before midnight on the first day, where there is no day before. -/
theorem gnssEpochUs_nearest_first :
    let s : GnssTimingStatusState := ⟨true,1,86399900⟩
    (gnssEpochUs s).toNat = 86399900000 ∧
      NearestInstant dayUs (1000 * s.utcMsOfDay.toNat) s.lastPpsEpochUs.toNat
        (gnssEpochUs s).toNat := by
  have hdated : Dated ⟨true,1,86399900⟩ := ⟨rfl,by decide,by decide,by decide⟩
  exact ⟨by decide,(gnssEpochUs_nearest hdated).2.1⟩

end

/-! ## The stamp of a GGA position -/

def roundMs (seconds : ℚ) : ℤ := ⌊seconds * 1000 + 1 / 2⌋

/-- An epoch that reads as a time of day. -/
structure GgaEpoch {Model : Type} (sdk : GnssPlot Model) (epoch : String) (h m : ℕ) (s : ℚ) :
    Prop where
  utc : sdk.utcValid epoch = true
  hours : sdk.integer (substr epoch 0 (some 2)) 0 23 = h
  hours_le : h ≤ 23
  minutes : sdk.integer (substr epoch 2 (some 2)) 0 59 = m
  minutes_le : m ≤ 59
  seconds : sdk.number (substr epoch 4 none) (some 0) (some (59999999 / 1000000)) = some s
  seconds_nonneg : 0 ≤ s
  seconds_le : s ≤ 59999999 / 1000000

/-- A stamp of this time of day near the PPS. -/
structure Stamped (p h m : ℕ) (s : ℚ) (out : ReceiverPositionState) : Prop where
  valid : out.timestampValid = true
  whole : 1000 ∣ out.epochUs.toNat
  close : ∃ days : ℤ,
    |(out.epochUs.toNat : ℚ) - (days * dayUs + (h * 3600 + m * 60 + s) * 1000000)| ≤ 500
  near : |(out.epochUs.toNat : ℚ) - p| ≤ dayUs / 2 + 500

section
variable {Model : Type} {sdk : GnssPlot Model} {r : ReceiverModel Model} {epoch : String}
  {h m : ℕ} {s : ℚ}

theorem roundMs_bounds (hs : 0 ≤ s) : 0 ≤ roundMs s ∧
    (roundMs s : ℚ) ≤ s * 1000 + 1 / 2 ∧ s * 1000 - 1 / 2 < roundMs s := by
  refine ⟨Int.floor_nonneg.mpr (by linarith),Int.floor_le _,?_⟩
  have hlt := Int.lt_floor_add_one (s * 1000 + 1 / 2)
  rw [roundMs]
  linarith

theorem roundMs_lt_iff : roundMs s < 60000 ↔ s < 599995 / 10000 := by
  rw [roundMs,Int.floor_lt]
  constructor <;> intro hlt
  · have hlt' : s * 1000 + 1 / 2 < 60000 := hlt
    linarith
  · have hlt' : s * 1000 + 1 / 2 < 60000 := by linarith
    exact hlt'

/-- The time of day in milliseconds as it is rounded. -/
theorem GgaEpoch.utcEpochUs (g : GgaEpoch sdk epoch h m s) :
    ∃ ms : ℕ, (ms : ℤ) = (h * 3600 + m * 60) * 1000 + roundMs s ∧ ms ≤ 86400000 ∧
      (ms < 86400000 ↔ ¬ (h = 23 ∧ m = 59 ∧ 599995 / 10000 ≤ s)) ∧
      r.utcEpochUs sdk epoch = gnssEpochUs { r.timing with utcMsOfDay := UInt32.ofNat ms } := by
  obtain ⟨hutc,hhours,hh,hminutes,hm,hseconds,hs,hle⟩ := g
  obtain ⟨hround,hupper,hlower⟩ := roundMs_bounds hs
  have hmost : roundMs s ≤ 60000 := by
    have hlt : (roundMs s : ℚ) < 60001 := by linarith
    have hlt' : roundMs s < 60001 := by exact_mod_cast hlt
    omega
  refine ⟨((h * 3600 + m * 60) * 1000 + roundMs s).toNat,by omega,by omega,?_,?_⟩
  · rw [← not_lt,← roundMs_lt_iff]
    omega
  · unfold ReceiverModel.utcEpochUs
    rw [if_pos hutc,hseconds,hhours,hminutes]
    dsimp only
    rw [if_pos (by omega)]
    rfl

theorem timestampValid_iff {epochUs : UInt64} : ReceiverModel.timestampValid epochUs = true ↔
    0 < epochUs.toNat ∧ epochUs.toNat / 1000000 < 2147483648 := by
  rw [ReceiverModel.timestampValid,decide_eq_true_iff,UInt64.lt_iff_toNat_lt,
    UInt64.lt_iff_toNat_lt,UInt64.toNat_div]
  exact Iff.rfl

/-- An instant of the rounded time of day is within half a millisecond of the time. -/
theorem close_of_residue {ms instant : ℕ} (hms : (ms : ℤ) = (h * 3600 + m * 60) * 1000 + roundMs s)
    (hs : 0 ≤ s) (hmod : instant % dayUs = 1000 * ms) : ∃ days : ℤ,
      |(instant : ℚ) - (days * dayUs + (h * 3600 + m * 60 + s) * 1000000)| ≤ 500 := by
  obtain ⟨-,hupper,hlower⟩ := roundMs_bounds hs
  refine ⟨(instant / dayUs : ℕ),?_⟩
  have hinstant : (instant : ℚ) = ((instant / dayUs : ℕ) : ℤ) * dayUs + 1000 * (ms : ℤ) := by
    have hnat := Nat.div_add_mod' instant dayUs
    rw [hmod] at hnat
    rw [Int.cast_natCast,Int.cast_natCast,← Nat.cast_mul,← Nat.cast_ofNat,← Nat.cast_mul,
      ← Nat.cast_add,hnat]
  rw [hinstant,hms,abs_le]
  simp only [Int.cast_add,Int.cast_mul,Int.cast_natCast,Int.cast_ofNat]
  constructor <;> linarith

/-- A time of day that has been rounded up to midnight has no instant. -/
theorem gnssEpochUs_midnight {timing : GnssTimingStatusState} (h : 86400000 ≤ timing.utcMsOfDay.toNat) :
    gnssEpochUs timing = 0 :=
  if_pos (.inr (.inr (UInt32.le_iff_toNat_le.mpr h)))

/-- Half a day away from the PPS at the most, in the rationals. -/
theorem abs_sub_le_half_day {instant p : ℕ} (hupper : instant ≤ p + dayUs / 2)
    (hlower : p ≤ instant + dayUs / 2) : |(instant : ℚ) - p| ≤ dayUs / 2 + 500 := by
  have hupper' : (instant : ℚ) ≤ (p + dayUs / 2 : ℕ) := Nat.cast_le.mpr hupper
  have hlower' : (p : ℚ) ≤ (instant + dayUs / 2 : ℕ) := Nat.cast_le.mpr hlower
  have hhalfDay : ((dayUs / 2 : ℕ) : ℚ) ≤ dayUs / 2 := Nat.cast_div_le
  rw [Nat.cast_add] at hupper' hlower'
  rw [abs_le]
  constructor <;> linarith

/-- The stamp holds exactly when the seconds do not round up to midnight. -/
theorem position_stamped (g : GgaEpoch sdk (sdk.gnss r.model).epoch h m s)
    (hsynced : r.timing.timeSynced = true) (hday : dayUs ≤ r.timing.lastPpsEpochUs.toNat)
    (hpps : r.timing.lastPpsEpochUs.toNat ≤ 2 ^ 31 * 1000000 - 2 * dayUs) (now : UInt64) :
    Stamped r.timing.lastPpsEpochUs.toNat h m s (r.position sdk false now) ↔
      ¬ (h = 23 ∧ m = 59 ∧ 599995 / 10000 ≤ s) := by
  obtain ⟨ms,hms,hmost,hlt,hepoch⟩ := g.utcEpochUs (r := r)
  have hposition : (r.position sdk false now).timestampValid =
        ReceiverModel.timestampValid (r.utcEpochUs sdk (sdk.gnss r.model).epoch) ∧
      (r.position sdk false now).epochUs =
        if ReceiverModel.timestampValid (r.utcEpochUs sdk (sdk.gnss r.model).epoch) then
          r.utcEpochUs sdk (sdk.gnss r.model).epoch else 0 := ⟨rfl,rfl⟩
  rw [hepoch] at hposition
  have htoNat : (UInt32.ofNat ms).toNat = ms := by
    rw [UInt32.toNat_ofNat']
    omega
  rw [← hlt]
  constructor
  · intro hstamped
    by_contra hover
    have hzero : gnssEpochUs { r.timing with utcMsOfDay := UInt32.ofNat ms } = 0 :=
      gnssEpochUs_midnight (htoNat.symm ▸ not_lt.mp hover)
    have hvalid := hstamped.valid
    rw [hposition.1,hzero] at hvalid
    exact absurd hvalid (by decide)
  · intro hbelow
    have hdated : Dated { r.timing with utcMsOfDay := UInt32.ofNat ms } := by
      refine ⟨hsynced,?_,?_,htoNat.symm ▸ hbelow⟩ <;> simp only [dayUs] at hday hpps ⊢ <;> omega
    obtain ⟨⟨hmod,-⟩,hhalf⟩ := hdated.nearest
    rw [htoNat] at hmod
    generalize gnssEpochUs { r.timing with utcMsOfDay := UInt32.ofNat ms } = instant at *
    have hdist := hhalf (le_trans (Nat.div_le_self dayUs 2) hday)
    dsimp only at hdist
    rw [Nat.dist] at hdist
    have hvalid : ReceiverModel.timestampValid instant = true := by
      simp only [dayUs] at hday hpps hdist
      exact timestampValid_iff.mpr ⟨by omega,by omega⟩
    rw [hvalid,if_pos rfl] at hposition
    refine ⟨hposition.1,?_,?_,?_⟩
    · rw [hposition.2]
      simp only [dayUs] at hmod
      omega
    · rw [hposition.2]
      exact close_of_residue hms g.seconds_nonneg hmod
    · rw [hposition.2]
      exact abs_sub_le_half_day (by omega) (by omega)

end
/-- A receiver with this GGA epoch, whose last PPS was at a midnight. -/
def receiverAt (epoch : String) : ReceiverModel (UInt64 × PlotPosition) where
  model := (7,{ valid := true, epoch, sequence := 1, ms := 1000, quality := 4 })
  timing := { timeSynced := true, lastPpsEpochUs := 1728000000000000 }

/-- Four hundred microseconds before midnight the stamp is lost. -/
theorem position_stamped_midnight :
    let r := receiverAt "235959.9996"
    GgaEpoch sentencePlot (sentencePlot.gnss r.model).epoch 23 59 (599996 / 10000) ∧
    r.timing.timeSynced = true ∧ dayUs ≤ r.timing.lastPpsEpochUs.toNat ∧
    r.timing.lastPpsEpochUs.toNat ≤ 2 ^ 31 * 1000000 - 2 * dayUs ∧
    (r.position sentencePlot false 1100).timestampValid = false ∧
    ¬ Stamped r.timing.lastPpsEpochUs.toNat 23 59 (599996 / 10000)
      (r.position sentencePlot false 1100) := by
  have hinvalid : ((receiverAt "235959.9996").position sentencePlot false 1100).timestampValid =
      false := by decide +kernel
  refine ⟨?_,rfl,by decide,by decide,hinvalid,?_⟩
  · constructor <;> decide +kernel
  · intro hstamped
    exact Bool.false_ne_true (hinvalid.symm.trans hstamped.valid)

theorem position_stamped_minute :
    let r := receiverAt "115959.9996"
    Stamped r.timing.lastPpsEpochUs.toNat 11 59 (599996 / 10000)
      (r.position sentencePlot false 1100) := by
  have hepoch : GgaEpoch sentencePlot "115959.9996" 11 59 (599996 / 10000) := by
    constructor <;> decide +kernel
  exact (position_stamped (r := receiverAt "115959.9996") hepoch rfl (by decide) (by decide)
    1100).mpr (by decide)

end PrismRosAdapter.Navigation
