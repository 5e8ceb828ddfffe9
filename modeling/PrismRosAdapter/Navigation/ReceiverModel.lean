import Mathlib.Data.List.Infix
import Mathlib.Data.Rat.Floor
import Mathlib.Data.UInt
import Mathlib.Tactic.Linarith
import PrismRosAdapter.Program.Runs

/-! # The receiver's positions and their deviations

The positions come from the SDK's model of the receiver's sentences; the deviations
of the GNSS position come from a GST sentence of the same epoch that is kept aside.
-/
namespace PrismRosAdapter.Navigation

structure ObservationRecord where
  sequence : UInt64
  receivedMs : UInt64
  sentence : String
  deriving DecidableEq, Repr

structure GnssObservations where
  session : UInt64
  cursor : UInt64
  deviceMonotonicMs : UInt64
  gap : Bool := false
  records : List ObservationRecord := []
  deriving DecidableEq, Repr

/-- A position as the SDK's model keeps it. -/
structure PlotPosition where
  valid : Bool := false
  solution : String := ""
  epoch : String := ""
  sequence : UInt64 := 0
  ms : UInt64 := 0
  quality : ℤ := 0
  satellites : ℤ := 0
  latitude : ℚ := 0
  longitude : ℚ := 0
  height : Option ℚ := none
  eastSigma : Option ℚ := none
  northSigma : Option ℚ := none
  upSigma : Option ℚ := none
  deriving DecidableEq, Repr

/-- The SDK's part: its model of the receiver and the functions that read sentences.
An absent separator or bound is the default one. -/
structure GnssPlot (Model : Type) where
  session : Model → UInt64
  gnss : Model → PlotPosition
  rtk : Model → PlotPosition
  apply : Model → GnssObservations → Model
  clearTracks : Model → Model
  checksum : String → Bool
  split : String → Option Char → List String
  number : String → Option ℚ → Option ℚ → Option ℚ
  integer : String → ℤ → ℤ → ℤ
  utcValid : String → Bool
  fresh : UInt64 → UInt64 → UInt64 → Bool

/-- What is relied on: a batch sets the session, which clearing the tracks keeps, and
a time is fresh while it is past by at most the limit. -/
structure GnssPlot.Documented {Model : Type} (sdk : GnssPlot Model) : Prop where
  session_apply : ∀ model batch, sdk.session (sdk.apply model batch) = batch.session
  session_clearTracks : ∀ model, sdk.session (sdk.clearTracks model) = sdk.session model
  fresh_iff : ∀ now ms limit, sdk.fresh now ms limit ↔
    ms ≤ now ∧ now.toNat ≤ ms.toNat + limit.toNat

structure GnssTimingStatusState where
  timeSynced : Bool := false
  lastPpsEpochUs : UInt64 := 0
  utcMsOfDay : UInt32 := 0
  deriving DecidableEq, Repr

/-- GGA gives the time of day only; the date is the one nearest to the last PPS. -/
def gnssEpochUs (s : GnssTimingStatusState) : UInt64 :=
  let day : UInt64 := 86400000000
  if ¬ s.timeSynced ∨ s.lastPpsEpochUs = 0 ∨ 86400000 ≤ s.utcMsOfDay then 0
  else
    let epoch := s.lastPpsEpochUs / day * day + s.utcMsOfDay.toUInt64 * 1000
    if epoch + day / 2 < s.lastPpsEpochUs then epoch + day
    else if s.lastPpsEpochUs + day / 2 < epoch ∧ day ≤ epoch then epoch - day
    else epoch

structure Gst where
  valid : Bool := false
  epoch : String := ""
  ms : UInt64 := 0
  east : ℚ := 0
  north : ℚ := 0
  up : ℚ := 0
  deriving DecidableEq, Repr

structure ReceiverPositionState where
  valid : Bool := false
  heightValid : Bool := false
  covarianceValid : Bool := false
  timestampValid : Bool := false
  source : String := ""
  solution : String := ""
  timeSystem : String := ""
  epoch : String := ""
  quality : UInt8 := 0
  satellites : UInt16 := 0
  ageMs : UInt32 := 0
  sequence : UInt64 := 0
  session : UInt64 := 0
  epochUs : UInt64 := 0
  latitudeDeg : ℚ := 0
  longitudeDeg : ℚ := 0
  ellipsoidalHeightM : ℚ := 0
  eastStdM : ℚ := 0
  northStdM : ℚ := 0
  upStdM : ℚ := 0
  deriving DecidableEq, Repr

structure ReceiverModel (Model : Type) where
  model : Model
  timing : GnssTimingStatusState := {}
  gpsUtcLeapSeconds : ℤ := -1
  gst : Gst := {}

/-- `substr` on characters. -/
def substr (text : String) (position : ℕ) (count : Option ℕ) : String :=
  let rest := text.toList.drop position
  String.ofList (match count with | some n => rest.take n | none => rest)

namespace GnssPlot
variable {Model : Type} (sdk : GnssPlot Model)

/-- The fields between the `$` and the `*` of a checked sentence, if it is a GST with
nine fields or more. -/
def gstFields (sentence : String) : Option (List String) :=
  if sdk.checksum sentence ∧ sentence.toList.head? = some '$' then
    let f := sdk.split (String.ofList ((sentence.toList.drop 1).takeWhile (· != '*'))) none
    if 9 ≤ f.length ∧ (f.getD 0 "").length = 5 ∧ substr (f.getD 0 "") 2 none = "GST" then some f
    else none
  else none

def readGst (f : List String) (receivedMs : UInt64) : Gst :=
  let north := sdk.number (f.getD 6 "") (some 0) none
  let east := sdk.number (f.getD 7 "") (some 0) none
  let up := sdk.number (f.getD 8 "") (some 0) none
  match north, east, up with
  | some north, some east, some up =>
    if sdk.utcValid (f.getD 1 "") ∧ 0 < north ∧ 0 < east ∧ 0 < up then
      { valid := true, epoch := f.getD 1 "", ms := receivedMs, east, north, up }
    else {}
  | _, _, _ => {}

def takeGst (gst : Gst) (record : ObservationRecord) : Gst :=
  match sdk.gstFields record.sentence with
  | some f => sdk.readGst f record.receivedMs
  | none => gst

def sameUtc (a b : String) : Bool :=
  sdk.utcValid a && sdk.utcValid b &&
    match sdk.number a none none, sdk.number b none none with
    | some av, some bv => decide (|av - bv| < 1 / 2000)
    | _, _ => false

end GnssPlot

namespace ReceiverModel
variable {Model : Type} (sdk : GnssPlot Model)

/-- A change of session or a gap forgets the GST; then each GST of the batch replaces
it, or clears it when it cannot be used. -/
def apply (r : ReceiverModel Model) (batch : GnssObservations) : ReceiverModel Model :=
  let gst :=
    if (sdk.session r.model ≠ 0 ∧ sdk.session r.model ≠ batch.session) ∨ batch.gap then {}
    else r.gst
  { r with
    model := sdk.clearTracks (sdk.apply r.model batch)
    gst := batch.records.foldl sdk.takeGst gst }

def ageMs (p : PlotPosition) (now : UInt64) : UInt32 :=
  if p.sequence ≠ 0 ∧ p.ms ≤ now then UInt32.ofNat (min (now - p.ms).toNat 0xFFFFFFFF)
  else 0xFFFFFFFF

/-- The epoch of an ADRNAV position, a GPS week and milliseconds in it. -/
def gpsEpochUs (r : ReceiverModel Model) (epoch : String) : UInt64 :=
  if 0 ≤ r.gpsUtcLeapSeconds ∧ r.gpsUtcLeapSeconds ≤ 64 then
    match sdk.split epoch (some ':') with
    | [first, second] =>
      let week := sdk.integer first 0 65535
      let tow := sdk.integer second 0 604799999
      if 0 ≤ week ∧ 0 ≤ tow then
        315964800000000 + UInt64.ofNat week.toNat * 604800000000 +
          UInt64.ofNat tow.toNat * 1000 - UInt64.ofNat r.gpsUtcLeapSeconds.toNat * 1000000
      else 0
    | _ => 0
  else 0

/-- The epoch of a GGA position, a time of day. -/
def utcEpochUs (r : ReceiverModel Model) (epoch : String) : UInt64 :=
  if sdk.utcValid epoch then
    let h := sdk.integer (substr epoch 0 (some 2)) 0 23
    let m := sdk.integer (substr epoch 2 (some 2)) 0 59
    match sdk.number (substr epoch 4 none) (some 0) (some (59999999 / 1000000)) with
    | some s =>
      if 0 ≤ h ∧ 0 ≤ m then
        gnssEpochUs { r.timing with
          utcMsOfDay := UInt32.ofNat ((h * 3600 + m * 60) * 1000 + ⌊s * 1000 + 1 / 2⌋).toNat }
      else 0
    | none => 0
  else 0

def timestampValid (epochUs : UInt64) : Bool :=
  decide (0 < epochUs ∧ epochUs / 1000000 < 2147483648)

/-- The deviations and whether they hold: the sentence's own for ADRNAV, those of a
fresh GST of the same epoch for GGA. -/
def deviations (r : ReceiverModel Model) (rtk : Bool) (p : PlotPosition) (valid : Bool)
    (now : UInt64) : ℚ × ℚ × ℚ × Bool :=
  match rtk, p.eastSigma, p.northSigma, p.upSigma with
  | true, some east, some north, some up =>
    (east,north,up,valid && decide (0 < east ∧ 0 < north ∧ 0 < up))
  | true, _, _, _ => (0,0,0,false)
  | false, _, _, _ =>
    if r.gst.valid ∧ sdk.sameUtc r.gst.epoch p.epoch ∧ sdk.fresh now r.gst.ms 2000 then
      (r.gst.east,r.gst.north,r.gst.up,valid)
    else (0,0,0,false)

def position (r : ReceiverModel Model) (rtk : Bool) (now : UInt64) : ReceiverPositionState :=
  let p := if rtk then sdk.rtk r.model else sdk.gnss r.model
  let valid := p.valid && decide (ageMs p now ≤ 2000)
  let (east,north,up,covarianceValid) := r.deviations sdk rtk p valid now
  let epochUs := if rtk then r.gpsEpochUs sdk p.epoch else r.utcEpochUs sdk p.epoch
  { valid
    heightValid := p.height.isSome
    covarianceValid
    timestampValid := timestampValid epochUs
    source := if rtk then "ADRNAV" else "GGA"
    solution := p.solution
    timeSystem := if rtk then "GPST" else "UTC"
    epoch := p.epoch
    quality := UInt8.ofNat (max 0 p.quality).toNat
    satellites := UInt16.ofNat (max 0 p.satellites).toNat
    ageMs := ageMs p now
    sequence := p.sequence
    session := sdk.session r.model
    epochUs := if timestampValid epochUs then epochUs else 0
    latitudeDeg := p.latitude
    longitudeDeg := p.longitude
    ellipsoidalHeightM := p.height.getD 0
    eastStdM := east
    northStdM := north
    upStdM := up }

end ReceiverModel

/-! ## Where the kept GST comes from -/

section
variable {Model : Type} {sdk : GnssPlot Model}

/-- Of all GST records of nine fields in the batches the last one, which nothing but
records of its session, without a gap, has followed. -/
structure LastGst (sdk : GnssPlot Model) (batches : List GnssObservations)
    (batch : GnssObservations) (record : ObservationRecord) (fields : List String) : Prop where
  fields_eq : sdk.gstFields record.sentence = some fields
  split : ∃ before after earlier later, batches = before ++ batch :: after ∧
    batch.records = earlier ++ record :: later ∧
    (∀ r ∈ later, sdk.gstFields r.sentence = none) ∧
    ∀ b ∈ after, b.session = batch.session ∧ b.gap = false ∧
      ∀ r ∈ b.records, sdk.gstFields r.sentence = none

theorem checksum_of_gstFields {sentence : String} {fields : List String}
    (h : sdk.gstFields sentence = some fields) : sdk.checksum sentence ∧ 9 ≤ fields.length := by
  unfold GnssPlot.gstFields at h
  split at h
  · rename_i hc
    dsimp only at h
    split at h
    · rename_i hf
      obtain rfl := Option.some.inj h
      exact ⟨hc.1,hf.1⟩
    · cases h
  · cases h

/-- Going through records, the GST is the last usable or unusable one, if there is any. -/
theorem foldl_takeGst (records : List ObservationRecord) (gst : Gst) :
    ((∀ r ∈ records, sdk.gstFields r.sentence = none) ∧ records.foldl sdk.takeGst gst = gst) ∨
    ∃ earlier record later fields, records = earlier ++ record :: later ∧
      sdk.gstFields record.sentence = some fields ∧
      (∀ r ∈ later, sdk.gstFields r.sentence = none) ∧
      records.foldl sdk.takeGst gst = sdk.readGst fields record.receivedMs := by
  induction records using List.reverseRecOn with
  | nil => exact .inl ⟨nofun,rfl⟩
  | append_singleton records record ih =>
    rw [List.foldl_append,List.foldl_cons,List.foldl_nil]
    generalize hg : records.foldl sdk.takeGst gst = g at ih ⊢
    rw [GnssPlot.takeGst]
    cases hf : sdk.gstFields record.sentence with
    | some fields => exact .inr ⟨records,record,[],fields,rfl,hf,nofun,rfl⟩
    | none =>
      rcases ih with ⟨hnone,rfl⟩ | ⟨earlier,last,later,fields,rfl,hlast,hnone,rfl⟩
      · refine .inl ⟨?_,rfl⟩
        rw [List.forall_mem_append]
        exact ⟨hnone,by simpa using hf⟩
      · refine .inr ⟨earlier,last,later ++ [record],fields,by simp,hlast,?_,rfl⟩
        rw [List.forall_mem_append]
        exact ⟨hnone,by simpa using hf⟩

/-- What a kept GST says is what its sentence says, and can be used. -/
theorem readGst_valid {fields : List String} {receivedMs : UInt64}
    (h : (sdk.readGst fields receivedMs).valid) :
    let gst := sdk.readGst fields receivedMs
    gst.epoch = fields.getD 1 "" ∧ gst.ms = receivedMs ∧ sdk.utcValid (fields.getD 1 "") ∧
      sdk.number (fields.getD 6 "") (some 0) none = some gst.north ∧
      sdk.number (fields.getD 7 "") (some 0) none = some gst.east ∧
      sdk.number (fields.getD 8 "") (some 0) none = some gst.up ∧
      0 < gst.north ∧ 0 < gst.east ∧ 0 < gst.up := by
  unfold GnssPlot.readGst at h ⊢
  dsimp only at h ⊢
  split at h
  · rename_i north east up hn he hu
    split at h
    · rename_i hok
      rw [hn,he,hu,if_pos hok]
      exact ⟨rfl,rfl,hok.1,rfl,rfl,rfl,hok.2⟩
    · cases h
  · cases h

/-- Every batch leaves its session in the model, and a GST that is kept is the last of
the whole history. -/
structure Stems (sdk : GnssPlot Model) (batches : List GnssObservations)
    (r : ReceiverModel Model) : Prop where
  session : ∀ batch, batches.getLast? = some batch → sdk.session r.model = batch.session
  gst : r.gst.valid → ∃ batch record fields, LastGst sdk batches batch record fields ∧
    r.gst = sdk.readGst fields record.receivedMs

theorem LastGst.mem_batches {batches : List GnssObservations} {batch : GnssObservations}
    {record : ObservationRecord} {fields : List String}
    (h : LastGst sdk batches batch record fields) :
    ∃ last ∈ batches.getLast?, last.session = batch.session := by
  obtain ⟨before,after,earlier,later,rfl,_,_,hafter⟩ := h.split
  rcases List.eq_nil_or_concat after with rfl | ⟨rest,last,rfl⟩
  · exact ⟨batch,by simp,rfl⟩
  · exact ⟨last,by simp [List.getLast?_cons],(hafter last (by simp)).1⟩

/-- A batch without GST records, of the same session and without a gap, keeps it the last. -/
theorem LastGst.snoc {batches : List GnssObservations} {batch next : GnssObservations}
    {record : ObservationRecord} {fields : List String}
    (h : LastGst sdk batches batch record fields) (hs : next.session = batch.session)
    (hg : next.gap = false) (hn : ∀ r ∈ next.records, sdk.gstFields r.sentence = none) :
    LastGst sdk (batches ++ [next]) batch record fields := by
  obtain ⟨before,after,earlier,later,rfl,hrecords,hlater,hafter⟩ := h.split
  refine ⟨h.fields_eq,before,after ++ [next],earlier,later,by simp,hrecords,hlater,?_⟩
  rw [List.forall_mem_append]
  exact ⟨hafter,by simpa using ⟨hs,hg,hn⟩⟩

theorem Stems.step (hsdk : sdk.Documented) {batches : List GnssObservations}
    {r : ReceiverModel Model} (h : Stems sdk batches r) (hb : ∀ b ∈ batches, b.session ≠ 0)
    (next : GnssObservations) : Stems sdk (batches ++ [next]) (r.apply sdk next) := by
  constructor
  · intro batch hlast
    rw [List.getLast?_append,List.getLast?_singleton] at hlast
    obtain rfl := Option.some.inj hlast
    exact (hsdk.session_clearTracks _).trans (hsdk.session_apply _ _)
  · intro hvalid
    rw [ReceiverModel.apply] at hvalid ⊢
    dsimp only at hvalid ⊢
    rcases @foldl_takeGst Model sdk next.records (if (sdk.session r.model ≠ 0 ∧
        sdk.session r.model ≠ next.session) ∨ next.gap then {} else r.gst) with
      ⟨hnone,heq⟩ | ⟨earlier,record,later,fields,hrecords,hfields,hlater,heq⟩
    · rw [heq] at hvalid ⊢
      split at hvalid
      · cases hvalid
      · rename_i hkeep
        rw [if_neg hkeep]
        push Not at hkeep
        obtain ⟨batch,record,fields,hlast,hgst⟩ := h.gst hvalid
        obtain ⟨last,hmem,hsession⟩ := hlast.mem_batches
        have hcurrent := (h.session last hmem).trans hsession
        have hne : sdk.session r.model ≠ 0 := by
          rw [h.session last hmem]
          exact hb last (List.mem_of_getLast? hmem)
        refine ⟨batch,record,fields,hlast.snoc ?_ (by simpa using hkeep.2) hnone,hgst⟩
        rw [← hcurrent,hkeep.1 hne]
    · rw [heq]
      refine ⟨next,record,fields,⟨hfields,?_⟩,rfl⟩
      exact ⟨batches,[],earlier,later,rfl,hrecords,hlater,nofun⟩

theorem stems_run (hsdk : sdk.Documented) {start : ReceiverModel Model}
    (hstart : start.gst.valid = false) {batches : List GnssObservations}
    (hb : ∀ b ∈ batches, b.session ≠ 0) :
    Stems sdk batches (Runs.run (ReceiverModel.apply sdk) start batches) := by
  induction batches using List.reverseRecOn with
  | nil => exact ⟨nofun,fun h => absurd h (by rw [Runs.run_nil,hstart]; exact nofun)⟩
  | append_singleton batches next ih =>
    rw [List.forall_mem_append] at hb
    rw [Runs.run_snoc]
    exact (ih hb.1).step hsdk hb.1 next

/-! ## A position with deviations -/

theorem sameUtc_cases {a b : String} (h : sdk.sameUtc a b) :
    sdk.utcValid a ∧ sdk.utcValid b ∧ ∃ x y, sdk.number a none none = some x ∧
      sdk.number b none none = some y ∧ |x - y| < 1 / 2000 := by
  unfold GnssPlot.sameUtc at h
  rw [Bool.and_eq_true,Bool.and_eq_true] at h
  obtain ⟨⟨ha,hb⟩,h⟩ := h
  split at h
  · rename_i x y hx hy
    exact ⟨ha,hb,x,y,hx,hy,of_decide_eq_true h⟩
  · cases h

theorem ageMs_le {p : PlotPosition} {now : UInt64} (h : ReceiverModel.ageMs p now ≤ 2000) :
    p.sequence ≠ 0 ∧ p.ms ≤ now ∧ now.toNat ≤ p.ms.toNat + 2000 := by
  unfold ReceiverModel.ageMs at h
  split at h
  · rename_i hp
    rw [UInt32.le_iff_toNat_le] at h
    have hsub := UInt64.toNat_sub_of_le _ _ hp.2
    have hle := UInt64.le_iff_toNat_le.mp hp.2
    have hmin : (UInt32.ofNat (min (now - p.ms).toNat 0xFFFFFFFF)).toNat =
        min (now - p.ms).toNat 0xFFFFFFFF := by
      rw [UInt32.toNat_ofNat']
      omega
    rw [hmin] at h
    refine ⟨hp.1,hp.2,?_⟩
    have hlimit : (2000 : UInt32).toNat = 2000 := rfl
    omega
  · exact absurd h (by decide)

/-- The seconds of the day of a UTC number `hhmmss.s`. -/
def secondsOfDay (utc : ℚ) : ℚ :=
  let minutes := ⌊utc / 100⌋
  (minutes / 100 : ℤ) * 3600 + (minutes % 100 : ℤ) * 60 + (utc - 100 * minutes)

theorem minutes_le_of_close {x y : ℚ} (h : x - y < 1 / 2000) (hy : y - 100 * ⌊y / 100⌋ < 60) :
    ⌊x / 100⌋ ≤ ⌊y / 100⌋ := by
  by_contra hlt
  have hnext : (⌊y / 100⌋ : ℚ) + 1 ≤ ⌊x / 100⌋ := by exact_mod_cast not_le.mp hlt
  have hx : (⌊x / 100⌋ : ℚ) ≤ x / 100 := Int.floor_le _
  linarith

/-- Close numbers are close times of day, when neither has more than 60 seconds. -/
theorem secondsOfDay_close {x y : ℚ} (h : |x - y| < 1 / 2000)
    (hx : x - 100 * ⌊x / 100⌋ < 60) (hy : y - 100 * ⌊y / 100⌋ < 60) :
    |secondsOfDay x - secondsOfDay y| < 1 / 2000 := by
  have hfloor : ⌊x / 100⌋ = ⌊y / 100⌋ := by
    obtain ⟨hlo,hhi⟩ := abs_lt.mp h
    exact le_antisymm (minutes_le_of_close hhi hy) (minutes_le_of_close (by linarith) hx)
  unfold secondsOfDay
  rw [hfloor]
  dsimp only
  convert h using 2
  ring

/-- The position `out` given at `now` takes its deviations from this record. -/
structure DeviationsFrom (sdk : GnssPlot Model) (record : ObservationRecord)
    (fields : List String) (gga : PlotPosition) (now : UInt64) (out : ReceiverPositionState) :
    Prop where
  checked : sdk.checksum record.sentence
  nine : 9 ≤ fields.length
  fresh : record.receivedMs ≤ now ∧ now.toNat ≤ record.receivedMs.toNat + 2000
  north : sdk.number (fields.getD 6 "") (some 0) none = some out.northStdM ∧ 0 < out.northStdM
  east : sdk.number (fields.getD 7 "") (some 0) none = some out.eastStdM ∧ 0 < out.eastStdM
  up : sdk.number (fields.getD 8 "") (some 0) none = some out.upStdM ∧ 0 < out.upStdM
  utc : sdk.utcValid (fields.getD 1 "") ∧ sdk.utcValid gga.epoch
  epoch : ∃ x y, sdk.number (fields.getD 1 "") none none = some x ∧
    sdk.number gga.epoch none none = some y ∧ |x - y| < 1 / 2000 ∧
    (x - 100 * ⌊x / 100⌋ < 60 → y - 100 * ⌊y / 100⌋ < 60 →
      |secondsOfDay x - secondsOfDay y| < 1 / 2000)
  position : out.valid ∧ gga.valid ∧ gga.sequence ≠ 0 ∧ gga.ms ≤ now ∧
    now.toNat ≤ gga.ms.toNat + 2000

/-- A GNSS position with deviations has them from the kept GST. -/
theorem position_deviations {r : ReceiverModel Model} {now : UInt64}
    (h : (r.position sdk false now).covarianceValid = true) :
    (r.gst.valid ∧ sdk.sameUtc r.gst.epoch (sdk.gnss r.model).epoch ∧
      sdk.fresh now r.gst.ms 2000) ∧ (r.position sdk false now).valid = true ∧
    (r.position sdk false now).eastStdM = r.gst.east ∧
    (r.position sdk false now).northStdM = r.gst.north ∧
    (r.position sdk false now).upStdM = r.gst.up := by
  let gga := sdk.gnss r.model
  let valid := gga.valid && decide (ReceiverModel.ageMs gga now ≤ 2000)
  have hdev : r.deviations sdk false gga valid now =
      if r.gst.valid ∧ sdk.sameUtc r.gst.epoch gga.epoch ∧ sdk.fresh now r.gst.ms 2000 then
        (r.gst.east,r.gst.north,r.gst.up,valid) else (0,0,0,false) := rfl
  have hcov : (r.deviations sdk false gga valid now).2.2.2 = true := h
  rw [hdev] at hcov
  split at hcov
  case isFalse => cases hcov
  case isTrue hgst =>
    rw [if_pos hgst] at hdev
    exact ⟨hgst,hcov,congrArg (·.1) hdev,congrArg (·.2.1) hdev,congrArg (·.2.2.1) hdev⟩

/-- Where the kept GST was read from a record, the deviations are that record's. -/
theorem deviationsFrom_of_read (hsdk : sdk.Documented) {r : ReceiverModel Model} {now : UInt64}
    {record : ObservationRecord} {fields : List String}
    (h : (r.position sdk false now).covarianceValid = true)
    (hfields : sdk.gstFields record.sentence = some fields)
    (hread : r.gst = sdk.readGst fields record.receivedMs) :
    DeviationsFrom sdk record fields (sdk.gnss r.model) now (r.position sdk false now) := by
  obtain ⟨⟨hvalid,hsame,hfresh⟩,hposition,heast,hnorth,hup⟩ := position_deviations h
  obtain ⟨hepoch,hms,_,hn,he,hu,hpn,hpe,hpu⟩ := readGst_valid (hread ▸ hvalid)
  obtain ⟨hutc,hggautc,x,y,hx,hy,hclose⟩ := sameUtc_cases hsame
  obtain ⟨hsum,hnine⟩ := checksum_of_gstFields hfields
  rw [← hread] at hepoch hms hn he hu hpn hpe hpu
  rw [hepoch] at hutc hx
  obtain ⟨hgga,hage⟩ := Bool.and_eq_true_iff.mp hposition
  refine ⟨hsum,hnine,?_,?_,?_,?_,⟨hutc,hggautc⟩,⟨x,y,hx,hy,hclose,secondsOfDay_close hclose⟩,
    hposition,hgga,ageMs_le (of_decide_eq_true hage)⟩
  · rw [← hms]
    exact (hsdk.fresh_iff now r.gst.ms 2000).mp hfresh
  · rw [hnorth]
    exact ⟨hn,hpn⟩
  · rw [heast]
    exact ⟨he,hpe⟩
  · rw [hup]
    exact ⟨hu,hpu⟩

/-- Deviations of a GNSS position are those of the last GST of the whole history, of
the current session and after every gap, fresh, usable and of the position's epoch. -/
theorem covariance_provenance (hsdk : sdk.Documented) {start : ReceiverModel Model}
    (hstart : start.gst.valid = false) (batches : List GnssObservations)
    (hb : ∀ b ∈ batches, b.session ≠ 0) (timing : GnssTimingStatusState)
    (gpsUtcLeapSeconds : ℤ) (now : UInt64) :
    let r := { Runs.run (ReceiverModel.apply sdk) start batches with timing, gpsUtcLeapSeconds }
    (r.position sdk false now).covarianceValid →
      ∃ batch record fields, LastGst sdk batches batch record fields ∧
        (r.position sdk false now).session = batch.session ∧
        DeviationsFrom sdk record fields (sdk.gnss r.model) now (r.position sdk false now) := by
  intro r hcov
  have hstems := stems_run hsdk hstart hb
  obtain ⟨batch,record,fields,hlast,hread⟩ := hstems.gst (position_deviations hcov).1.1
  obtain ⟨last,hmem,hsession⟩ := hlast.mem_batches
  exact ⟨batch,record,fields,hlast,(hstems.session last hmem).trans hsession,
    deviationsFrom_of_read hsdk hcov hlast.fields_eq hread⟩

end

/-! ## One batch with a position and its GST -/

def digitsValue (digits : List Char) : Option ℕ :=
  if digits ≠ [] ∧ digits.all Char.isDigit then
    some (digits.foldl (fun n c => 10 * n + (c.toNat - '0'.toNat)) 0)
  else none

def decimal (text : String) (least greatest : Option ℚ) : Option ℚ :=
  let value : Option ℚ := match text.toList.splitOn '.' with
    | [whole] => (digitsValue whole).map (·)
    | [whole, fraction] => do
      some (((← digitsValue whole) : ℚ) + (← digitsValue fraction) / 10 ^ fraction.length)
    | _ => none
  value.filter fun x => (least.all (· ≤ x)) && greatest.all (x ≤ ·)

/-- The SDK's functions as far as a batch of GGA and GST sentences needs them. -/
def sentencePlot : GnssPlot (UInt64 × PlotPosition) where
  session := (·.1)
  gnss := (·.2)
  rtk _ := {}
  apply model batch :=
    (batch.session,batch.records.foldl (fun p record =>
      let f := (record.sentence.toList.splitOn ',').map String.ofList
      if f.head? = some "$GNGGA" then
        { p with
          valid := true
          solution := "FLOAT"
          epoch := f.getD 1 ""
          sequence := record.sequence
          ms := record.receivedMs
          quality := 5 }
      else p) model.2)
  clearTracks model := model
  checksum sentence :=
    let body := (sentence.toList.drop 1).takeWhile (· != '*')
    let sum := body.foldl (fun n c => n ^^^ c.toNat) 0
    decide (sentence.toList.drop (body.length + 1) =
      ['*',Nat.digitChar (sum / 16) |>.toUpper,Nat.digitChar (sum % 16) |>.toUpper])
  split text separator := (text.toList.splitOn (separator.getD ',')).map String.ofList
  number := decimal
  integer text least greatest := match digitsValue text.toList with
    | some n => if least ≤ n ∧ (n : ℤ) ≤ greatest then n else -1
    | none => -1
  utcValid text := decide (6 ≤ text.length) && (decimal text (some 0) (some 240000)).isSome
  fresh now ms limit := decide (ms ≤ now ∧ now.toNat ≤ ms.toNat + limit.toNat)

theorem sentencePlot_documented : sentencePlot.Documented where
  session_apply _ _ := rfl
  session_clearTracks _ := rfl
  fresh_iff _ _ _ := decide_eq_true_iff

def matchedBatch : GnssObservations where
  session := 7
  cursor := 2
  deviceMonotonicMs := 1100
  records := [
    ⟨1,1000,"$GNGGA,120000.1,3100.0000,N,12100.0000,E,5,12,0.8,20,M,10,M,,*7C"⟩,
    ⟨2,1000,"$GNGST,120000.100,0.03,0.04,0.02,0,0.03,0.02,0.05*64"⟩]

def matchedReceiver : ReceiverModel (UInt64 × PlotPosition) :=
  Runs.run (ReceiverModel.apply sentencePlot) { model := (0,{}) } [matchedBatch]

theorem covariance_provenance_matched : ∃ batch record fields,
    LastGst sentencePlot [matchedBatch] batch record fields ∧
    (matchedReceiver.position sentencePlot false 1100).session = batch.session ∧
    DeviationsFrom sentencePlot record fields (sentencePlot.gnss matchedReceiver.model) 1100
      (matchedReceiver.position sentencePlot false 1100) :=
  covariance_provenance sentencePlot_documented
    (rfl : ({ model := (0,{}) } : ReceiverModel (UInt64 × PlotPosition)).gst.valid = false)
    [matchedBatch] (by decide) {} (-1) 1100 (by decide +kernel)

end PrismRosAdapter.Navigation
