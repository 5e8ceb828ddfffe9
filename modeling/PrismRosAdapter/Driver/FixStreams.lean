import PrismRosAdapter.Driver.LossReports

/-! # What is counted of a receiver's fixes

A fix is polled again until the next one comes, and its number is one of the sentences it
came in. Neither a repeated reply nor a number that was left out is a loss.
-/
namespace PrismRosAdapter.Driver
open Runs Neighbours Health SensorDataHealth Dispatch Navigation

def Occasion.position {Value : Stream → Type} (rtk : Bool) :
    Occasion Value → Option ReceiverPositionState
  | .receiver _ _ positions => some (positions rtk)
  | _ => none

def identity (p : ReceiverPositionState) : UInt64 × UInt64 := (p.session,p.sequence)

def numbered (p : ReceiverPositionState) : Bool := p.sequence ≠ 0

def fixStampNs (p : ReceiverPositionState) : UInt64 := if p.timestampValid then p.epochUs * 1000 else 0

/-- The fixes that are others than the one before. -/
def newFixes (positions : List ReceiverPositionState) : List ReceiverPositionState :=
  ((withPrevious (positions.filter numbered)).filter fun p =>
    p.1.map identity ≠ some (identity p.2)).map (·.2)

def sessionChange (p : ReceiverPositionState × ReceiverPositionState) : Bool :=
  p.1.session ≠ p.2.session

def backward (p : ReceiverPositionState × ReceiverPositionState) : Bool :=
  fixStampNs p.2 ≠ 0 ∧ fixStampNs p.2 < fixStampNs p.1

/-- The fix has become stale, or it is the first of a session and already stale. -/
def staleOnset (p : Option ReceiverPositionState × ReceiverPositionState) : Bool :=
  stalePosition p.2 && !p.1.any fun before =>
    decide (before.session = p.2.session) && stalePosition before

/-- The issues that fixes may count. -/
def fixIssues : List Issue := [.sessionChanged, .statusStale, .timestampBackward, .queryError]

/-- What a record tells of the positions polled so far. -/
structure FixBook (positions : List ReceiverPositionState) (last : UInt64 × UInt64)
    (r : StreamHealth) : Prop where
  last_eq : last = ((positions.filter numbered).getLast?.map identity).getD (0,0)
  session : r.session = positions.getLast?.map (·.session)
  condition : r.conditions .statusStale = positions.getLast?.any stalePosition
  stamp : ∀ previous, r.stamp = some previous →
    ∃ p, (newFixes positions).getLast? = some p ∧ previous = fixStampNs p
  period : r.period = 0
  changes : r.total .sessionChanged = UInt64.ofNat ((pairs positions).countP sessionChange)
  onsets : r.total .statusStale = UInt64.ofNat ((withPrevious positions).countP staleOnset)
  backwards : ∃ n ≤ (pairs (newFixes positions)).countP backward,
    r.total .timestampBackward = UInt64.ofNat n
  nothing : ∀ issue ∉ fixIssues, r.total issue = 0

section
variable {positions : List ReceiverPositionState} {p : ReceiverPositionState}
  {last : UInt64 × UInt64}

theorem newFixes_snoc : newFixes (positions ++ [p]) = newFixes positions ++
    if numbered p ∧ ((positions.filter numbered).getLast?.map identity) ≠ some (identity p)
    then [p] else [] := by
  unfold newFixes
  rw [List.filter_append]
  cases hn : numbered p with
  | false => simp [hn]
  | true =>
    have hsingle : [p].filter numbered = [p] := by simp [hn]
    rw [hsingle,withPrevious_snoc,List.filter_append,List.map_append]
    congr 1
    generalize (positions.filter numbered).getLast? = before
    by_cases hi : before.map identity = some (identity p)
    · rw [if_neg fun h => h.2 hi,List.filter_singleton]
      simp only [hi, ne_eq, not_true_eq_false, decide_false, cond_false, List.map_nil]
    · rw [if_pos ⟨rfl,hi⟩,List.filter_singleton]
      simp only [hi, ne_eq, not_false_eq_true, decide_true, cond_true, List.map_singleton]

/-- A fix is new to the check just when it is another one. -/
theorem newFix_iff (hlast : last = ((positions.filter numbered).getLast?.map identity).getD (0,0)) :
    newFix last p = true ↔ numbered p = true ∧
      (positions.filter numbered).getLast?.map identity ≠ some (identity p) := by
  have hfirst : numbered p = true → identity p ≠ (0,0) := by
    intro hn he
    simp [numbered, (Prod.mk.inj he).2] at hn
  unfold newFix
  rw [hlast]
  cases h : (positions.filter numbered).getLast? with
  | none =>
    constructor
    · intro hnew
      exact ⟨(Bool.and_eq_true_iff.mp hnew).1,nofun⟩
    · rintro ⟨hn,_⟩
      exact Bool.and_eq_true_iff.mpr ⟨hn,decide_eq_true (hfirst hn)⟩
  | some before =>
    rw [Bool.and_eq_true,Option.map_some,Option.getD_some]
    exact and_congr Iff.rfl <| decide_eq_true_iff.trans (not_congr (eq_comm.trans Option.some_inj.symm))

end

/-! ## One position -/

section
variable (h : SensorDataHealth) (stream : Stream)

/-- A record after an operation that counts at most one issue, once. -/
structure CountsOne (counted : Issue) (times : Bool) (r r' : StreamHealth) : Prop where
  total : ∀ issue, r'.total issue = r.total issue +
    if issue = counted then UInt64.ofNat times.toNat else 0
  period : r'.period = r.period

theorem CountsOne.trans_none {counted : Issue} {times : Bool} {r r' r'' : StreamHealth}
    (hr : CountsOne counted times r r') (htotal : r''.total = r'.total)
    (hperiod : r''.period = r'.period) : CountsOne counted times r r'' :=
  ⟨fun issue => (congrFun htotal issue).trans (hr.total issue),hperiod.trans hr.period⟩

theorem countsOne_add (counted : Issue) : CountsOne counted true (h.states stream)
    ((h.add stream counted 1).states stream) :=
  ⟨fun issue => total_add issue counted 1,update_blind (·.period) (by intros; rfl) h _ stream⟩

theorem countsOne_none (counted : Issue) (r : StreamHealth) : CountsOne counted false r r :=
  ⟨fun _ => by simp,rfl⟩

theorem countsOne_session (id : UInt64) : CountsOne .sessionChanged
    ((h.states stream).session.any (· != id)) (h.states stream)
      ((h.session stream id).states stream) := by
  unfold SensorDataHealth.session
  cases (h.states stream).session.any (· != id) with
  | false =>
    rw [if_neg Bool.false_ne_true,update_same]
    exact (countsOne_none _ _).trans_none rfl rfl
  | true =>
    rw [if_pos rfl,update_same,update_same]
    exact (countsOne_add h stream _).trans_none rfl rfl

theorem session_session (id : UInt64) :
    ((h.session stream id).states stream).session = some id := by
  rw [SensorDataHealth.session,update_same]

/-- The conditions and the stamp of a session end with it. -/
theorem session_kept (issue : Issue) (id : UInt64) :
    ((h.session stream id).states stream).conditions issue =
      (!(h.states stream).session.any (· != id) && (h.states stream).conditions issue) ∧
    ∀ previous, ((h.session stream id).states stream).stamp = some previous →
      (h.states stream).stamp = some previous := by
  unfold SensorDataHealth.session
  cases (h.states stream).session.any (· != id) with
  | false =>
    rw [if_neg Bool.false_ne_true,update_same]
    exact ⟨rfl,fun _ hs => hs⟩
  | true =>
    rw [if_pos rfl,update_same,update_same]
    exact ⟨rfl,nofun⟩

theorem countsOne_condition (counted : Issue) (active : Bool) : CountsOne counted
    (active && !(h.states stream).conditions counted) (h.states stream)
      ((h.condition stream counted active).states stream) := by
  unfold SensorDataHealth.condition setCondition
  rw [update_same]
  by_cases hc : active = true ∧ ¬ (h.states stream).conditions counted = true
  · rw [if_pos hc,hc.1,Bool.eq_false_of_not_eq_true hc.2]
    exact (countsOne_add h stream _).trans_none rfl rfl
  · rw [if_neg hc,show (active && !(h.states stream).conditions counted) = false by
      simpa using hc]
    exact (countsOne_none _ _).trans_none rfl rfl

theorem condition_kept (counted : Issue) (active : Bool) :
    ((h.condition stream counted active).states stream).session = (h.states stream).session ∧
    ((h.condition stream counted active).states stream).stamp = (h.states stream).stamp ∧
    ((h.condition stream counted active).states stream).conditions counted = active := by
  have hadd : ((h.add stream counted 1).states stream).session = (h.states stream).session ∧
      ((h.add stream counted 1).states stream).stamp = (h.states stream).stamp := by
    rw [add,update_same]
    exact ⟨rfl,rfl⟩
  unfold SensorDataHealth.condition setCondition
  rw [update_same]
  simp only [Function.update_self, and_true]
  split
  · exact hadd
  · exact ⟨rfl,rfl⟩

def goesBack (r : StreamHealth) (stampNs : UInt64) : Bool :=
  r.stamp.any fun previous => decide (stampNs ≠ 0 ∧ stampNs < previous)

/-- A fix has no number of its own and no rate: it can only go back. -/
theorem countsOne_observe (hperiod : (h.states stream).period = 0) (now stampNs : UInt64) :
    CountsOne .timestampBackward (goesBack (h.states stream) stampNs) (h.states stream) ((h.observe stream now stampNs none 64 true).states stream) := by
  have htouch : CountsOne .timestampBackward false (h.states stream)
      ((h.touch stream now).states stream) := by
    rw [touch,update_same]
    exact (countsOne_none _ _).trans_none rfl rfl
  have hstamp : ((h.touch stream now).states stream).stamp = (h.states stream).stamp := by
    rw [touch,update_same]
  unfold SensorDataHealth.observe goesBack
  rw [update_same]
  simp only [Option.map_none, Option.getD_none, hstamp]
  cases hs : (h.states stream).stamp with
  | none => exact htouch.trans_none rfl rfl
  | some previous =>
    have hzero : ((h.touch stream now).states stream).period = 0 := htouch.period.trans hperiod
    simp only [Option.any_some, observeStamp, hzero, lt_self_iff_false, false_and, if_false, if_true,
      Bool.false_eq_true, not_false_eq_true, and_true]
    by_cases hback : stampNs ≠ 0 ∧ stampNs < previous
    · rw [if_pos hback.1,if_pos hback.2,decide_eq_true hback]
      have hadd := countsOne_add (h.touch stream now) stream .timestampBackward
      refine ⟨fun issue => (hadd.total issue).trans ?_,hadd.period.trans htouch.period⟩
      rw [htouch.total issue]
      simp
    · rw [decide_eq_false hback]
      split
      · rename_i hne
        rw [if_neg fun hlt => hback ⟨hne,hlt⟩,ite_self]
        exact htouch.trans_none rfl rfl
      · exact htouch.trans_none rfl rfl

theorem observe_kept (now stampNs : UInt64) :
    let r := (h.observe stream now stampNs none 64 true).states stream
    r.session = (h.states stream).session ∧ r.conditions = (h.states stream).conditions ∧
      r.stamp = if stampNs ≠ 0 then some stampNs else none := by
  have hadd : ∀ (g : SensorDataHealth) kind n, ((g.add stream kind n).states stream).session =
      (g.states stream).session ∧
      ((g.add stream kind n).states stream).conditions = (g.states stream).conditions := by
    intro g kind n
    rw [add,update_same]
    exact ⟨rfl,rfl⟩
  have htouch : ((h.touch stream now).states stream).session = (h.states stream).session ∧
      ((h.touch stream now).states stream).conditions = (h.states stream).conditions := by
    rw [touch,update_same]
    exact ⟨rfl,rfl⟩
  have hstamp : ∀ previous, ((((h.touch stream now).observeStamp stream stampNs previous
      true).states stream).session = (h.states stream).session) ∧
      (((h.touch stream now).observeStamp stream stampNs previous
      true).states stream).conditions = (h.states stream).conditions := by
    intro previous
    unfold observeStamp
    dsimp only
    split_ifs <;> simp only [hadd, htouch, and_self]
  unfold SensorDataHealth.observe
  rw [update_same]
  simp only [Option.map_none, Option.getD_none, and_true]
  split
  · split
    · exact hstamp _
    · exact htouch
  · exact htouch

end

section
variable {h : SensorDataHealth} {positions : List ReceiverPositionState}
  {p : ReceiverPositionState} {last : UInt64 × UInt64} {rtk : Bool} {now : UInt64}

theorem receiverSequence_eq
    (hlast : last = ((positions.filter numbered).getLast?.map identity).getD (0,0)) :
    receiverSequence last p =
      (((positions ++ [p]).filter numbered).getLast?.map identity).getD (0,0) := by
  have hnew := newFix_iff (p := p) hlast
  rw [List.filter_append]
  cases hn : numbered p with
  | false =>
    rw [receiverSequence,if_neg fun h => Bool.false_ne_true (hn.symm.trans (hnew.mp h).1),hlast]
    simp [hn]
  | true =>
    have hsingle : [p].filter numbered = [p] := by simp [hn]
    rw [hsingle,List.getLast?_append,List.getLast?_singleton,Option.some_or,Option.map_some,
      Option.getD_some,receiverSequence]
    split
    · rfl
    · rename_i hold
      have hsame : (positions.filter numbered).getLast?.map identity = some (identity p) := by
        by_contra hne
        exact hold (hnew.mpr ⟨hn,hne⟩)
      rw [hlast,hsame]
      rfl

/-- What every position changes, new or not. -/
theorem FixBook.noted (hbook : FixBook positions last (h.states (fixStream rtk))) :
    let g := (h.session (fixStream rtk) p.session).condition (fixStream rtk) .statusStale
      (stalePosition p)
    let r := g.states (fixStream rtk)
    r.session = some p.session ∧ r.conditions .statusStale = stalePosition p ∧ r.period = 0 ∧
      (∀ previous, r.stamp = some previous →
        (h.states (fixStream rtk)).stamp = some previous) ∧
      r.total .sessionChanged =
        UInt64.ofNat ((pairs (positions ++ [p])).countP sessionChange) ∧
      r.total .statusStale =
        UInt64.ofNat ((withPrevious (positions ++ [p])).countP staleOnset) ∧
      ∀ issue, issue ≠ .sessionChanged → issue ≠ .statusStale →
        r.total issue = (h.states (fixStream rtk)).total issue := by
  intro g r
  have hsession := countsOne_session h (fixStream rtk) p.session
  have hcondition := countsOne_condition (h.session (fixStream rtk) p.session)
    (fixStream rtk) .statusStale (stalePosition p)
  obtain ⟨hkept,hstamp⟩ := session_kept h (fixStream rtk) .statusStale p.session
  obtain ⟨hid,hsame,hactive⟩ := condition_kept (h.session (fixStream rtk) p.session)
    (fixStream rtk) .statusStale (stalePosition p)
  refine ⟨hid.trans (session_session h (fixStream rtk) p.session),hactive,?_,?_,?_,?_,?_⟩
  · exact hcondition.period.trans (hsession.period.trans hbook.period)
  · exact fun previous hs => hstamp previous (hsame.symm.trans hs)
  · rw [countP_pairs_snoc,UInt64.ofNat_add,← hbook.changes]
    refine (hcondition.total _).trans ?_
    rw [if_neg (by decide),add_zero,hsession.total,if_pos rfl,hbook.session]
    congr 2
    cases positions.getLast? with
    | none => rfl
    | some before => by_cases hs : before.session = p.session <;> simp [sessionChange, hs]
  · rw [withPrevious_snoc,List.countP_append,UInt64.ofNat_add,← hbook.onsets]
    refine (hcondition.total _).trans ?_
    rw [if_pos rfl,hsession.total,if_neg (by decide),add_zero,hkept,hbook.condition,hbook.session]
    congr 2
    rw [List.countP_singleton]
    cases positions.getLast? with
    | none => cases hp : stalePosition p <;> simp [staleOnset, hp]
    | some before =>
      by_cases hs : before.session = p.session <;> cases hp : stalePosition p <;>
        cases hb : stalePosition before <;> simp [staleOnset, hs, hp, hb]
  · intro issue hchanged hstale
    refine (hcondition.total issue).trans ?_
    rw [if_neg hstale,add_zero,hsession.total,if_neg hchanged,add_zero]

/-- A position adds what it says on the one before it. -/
theorem FixBook.check (hbook : FixBook positions last (h.states (fixStream rtk))) :
    FixBook (positions ++ [p]) (receiverSequence last p)
      ((run SensorDataHealth.apply h (checkPosition rtk now last p)).states (fixStream rtk)) := by
  have hnoted := hbook.noted (p := p)
  have hlast := receiverSequence_eq (p := p) hbook.last_eq
  have hnew := newFix_iff (p := p) hbook.last_eq
  obtain ⟨n,hn,hback⟩ := hbook.backwards
  have hsession : (positions ++ [p]).getLast?.map (·.session) = some p.session := by simp
  have hstale : (positions ++ [p]).getLast?.any stalePosition = stalePosition p := by simp
  rw [checkPosition,run_append]
  change FixBook _ _ ((run SensorDataHealth.apply ((h.session (fixStream rtk) p.session).condition
    (fixStream rtk) .statusStale (stalePosition p)) _).states _)
  generalize (h.session (fixStream rtk) p.session).condition (fixStream rtk) .statusStale
    (stalePosition p) = g at hnoted ⊢
  obtain ⟨hid,hactive,hperiod,hstamp,hchanges,honsets,hrest⟩ := hnoted
  have hnothing : ∀ issue ∉ fixIssues, (g.states (fixStream rtk)).total issue = 0 := by
    intro issue hi
    refine (hrest issue ?_ ?_).trans (hbook.nothing issue hi)
    · rintro rfl
      exact hi (by decide)
    · rintro rfl
      exact hi (by decide)
  by_cases hfix : newFix last p = true
  · have hfixes : newFixes (positions ++ [p]) = newFixes positions ++ [p] := by
      rw [newFixes_snoc,if_pos (hnew.mp hfix)]
    have hobserved := countsOne_observe g (fixStream rtk) hperiod now (fixStampNs p)
    obtain ⟨hkept,hconditions,hstamped⟩ :=
      observe_kept g (fixStream rtk) now (fixStampNs p)
    rw [if_pos hfix]
    refine ⟨hlast,?_,?_,?_,hobserved.period.trans hperiod,?_,?_,
      ⟨n + (goesBack (g.states (fixStream rtk)) (fixStampNs p)).toNat,?_,?_⟩,?_⟩
    · exact hkept.trans (hid.trans hsession.symm)
    · exact (congrFun hconditions _).trans (hactive.trans hstale.symm)
    · intro previous hs
      have hprevious := hstamped.symm.trans hs
      split at hprevious
      · exact ⟨p,by rw [hfixes]; simp,(Option.some.inj hprevious).symm⟩
      · cases hprevious
    · refine (hobserved.total _).trans ?_
      rw [if_neg (by decide),add_zero]
      exact hchanges
    · refine (hobserved.total _).trans ?_
      rw [if_neg (by decide),add_zero]
      exact honsets
    · rw [hfixes,countP_pairs_snoc]
      refine Nat.add_le_add hn (Bool.toNat_le_toNat fun hany => ?_)
      obtain ⟨previous,hs,hdecide⟩ := (Option.any_eq_true _ _).mp hany
      obtain ⟨before,hbefore,rfl⟩ := hbook.stamp previous (hstamp previous hs)
      rw [hbefore]
      exact hdecide
    · refine (hobserved.total _).trans ?_
      rw [if_pos rfl,hrest _ (by decide) (by decide),hback,← UInt64.ofNat_add]
    · intro issue hi
      refine (hobserved.total issue).trans ?_
      rw [if_neg fun he => hi (by rw [he]; decide),add_zero]
      exact hnothing issue hi
  · rw [if_neg hfix]
    have hfixes : newFixes (positions ++ [p]) = newFixes positions := by
      rw [newFixes_snoc,if_neg fun hf => hfix (hnew.mpr hf),List.append_nil]
    refine ⟨hlast,hid.trans hsession.symm,hactive.trans hstale.symm,?_,hperiod,hchanges,honsets,
      ⟨n,hfixes ▸ hn,(hrest _ (by decide) (by decide)).trans hback⟩,hnothing⟩
    intro previous hs
    rw [hfixes]
    exact hbook.stamp previous (hstamp previous hs)

end
/-! ## Everything else -/

/-- What positions alone change of a record. -/
def fixPart (r : StreamHealth) : Option UInt64 × Option UInt64 × (Issue → Bool) × ℚ × (Issue → UInt64) :=
  (r.session,r.stamp,r.conditions,r.period,fun issue =>
    if issue = .queryError then 0 else r.total issue)

/-- An operation that is no position's. -/
def noFix (rtk : Bool) (op : Operation) : Bool :=
  match op with
  | .disable _ | .queryError .. | .reports .. => true
  | op => decide (op.stream ≠ some (fixStream rtk))

section
variable {h : SensorDataHealth} {rtk : Bool} {r r' : StreamHealth}

theorem FixBook.same {positions : List ReceiverPositionState} {last : UInt64 × UInt64}
    (hbook : FixBook positions last r) (hsame : fixPart r' = fixPart r) :
    FixBook positions last r' := by
  simp only [fixPart, Prod.mk.injEq] at hsame
  obtain ⟨hsession,hstamp,hconditions,hperiod,htotals⟩ := hsame
  have htotal : ∀ issue ≠ Issue.queryError, r'.total issue = r.total issue := by
    intro issue hi
    simpa only [if_neg hi] using congrFun htotals issue
  refine ⟨hbook.last_eq,hsession.trans hbook.session,?_,?_,hperiod.trans hbook.period,?_,?_,?_,?_⟩
  · exact (congrFun hconditions _).trans hbook.condition
  · exact fun previous hs => hbook.stamp previous (hstamp.symm.trans hs)
  · exact (htotal _ (by decide)).trans hbook.changes
  · exact (htotal _ (by decide)).trans hbook.onsets
  · obtain ⟨n,hn,hback⟩ := hbook.backwards
    exact ⟨n,hn,(htotal _ (by decide)).trans hback⟩
  · intro issue hi
    refine (htotal issue ?_).trans (hbook.nothing issue hi)
    rintro rfl
    exact hi (by decide)

theorem fixPart_apply {op : Operation} (hop : noFix rtk op = true) :
    fixPart ((h.apply op).states (fixStream rtk)) = fixPart (h.states (fixStream rtk)) := by
  have hother : ∀ lane, op.stream = some lane → lane ≠ fixStream rtk →
      fixPart ((h.apply op).states (fixStream rtk)) = fixPart (h.states (fixStream rtk)) :=
    fun lane hlane hne => congrArg fixPart (apply_other hlane hne.symm)
  cases op with
  | disable lane =>
    unfold SensorDataHealth.apply SensorDataHealth.disable
    exact update_blind fixPart (by intros; rfl) h _ _
  | queryError lane detail =>
    unfold SensorDataHealth.apply SensorDataHealth.queryError SensorDataHealth.add
    refine (update_blind fixPart (by intros; rfl) _ _ _).trans ?_
    refine update_blind fixPart (fun s => ?_) h _ _
    simp only [fixPart, Prod.mk.injEq, true_and]
    funext issue
    by_cases hi : issue = .queryError
    · rw [if_pos hi,if_pos hi]
    · rw [if_neg hi,if_neg hi,Function.update_of_ne hi]
  | reports now force =>
    change fixPart ((h.reports now force).2.states (fixStream rtk)) = _
    by_cases hp : (h.states (fixStream rtk)).prints now force
    · rw [reported_of_prints hp]
      rfl
    · rw [reported_of_not_prints hp]
  | reset lane => exact hother lane rfl fun he => of_decide_eq_true hop (congrArg some he)
  | touch lane => exact hother lane rfl fun he => of_decide_eq_true hop (congrArg some he)
  | session lane => exact hother lane rfl fun he => of_decide_eq_true hop (congrArg some he)
  | add lane => exact hother lane rfl fun he => of_decide_eq_true hop (congrArg some he)
  | condition lane => exact hother lane rfl fun he => of_decide_eq_true hop (congrArg some he)
  | resetCounter lane => exact hother lane rfl fun he => of_decide_eq_true hop (congrArg some he)
  | counter lane => exact hother lane rfl fun he => of_decide_eq_true hop (congrArg some he)
  | observe lane => exact hother lane rfl fun he => of_decide_eq_true hop (congrArg some he)

theorem fixPart_run (ops : List Operation) (hops : ∀ op ∈ ops, noFix rtk op = true) :
    fixPart ((run SensorDataHealth.apply h ops).states (fixStream rtk)) =
      fixPart (h.states (fixStream rtk)) := by
  induction ops generalizing h with
  | nil => rfl
  | cons op ops ih =>
    obtain ⟨hop,hrest⟩ := List.forall_mem_cons.mp hops
    exact (ih hrest).trans (fixPart_apply hop)

theorem noFix_of_stream {op : Operation} {lane : Stream} (hop : op.stream = some lane)
    (hne : lane ≠ fixStream rtk) : noFix rtk op = true := by
  cases op <;> simp_all [noFix, Operation.stream]

end

/-! ## Whole runs -/

namespace LossWatch
section
variable {Value : Stream → Type} {w : World} {s : LossWatch Value} {o : Occasion Value} {rtk : Bool}

theorem noFix_sensed {op : Operation} (hop : sensed op = true) : noFix rtk op = true := by
  obtain ⟨lane,hlane,hsampled⟩ := sensed_stream hop
  refine noFix_of_stream hlane ?_
  rintro rfl
  cases rtk <;> exact absurd hsampled (by decide)

theorem operations_noFix (hposition : o.position rtk = none) :
    ∀ op ∈ s.operations o, noFix rtk op = true := by
  have hlane : ∀ {lane op}, Operation.stream op = some lane → lane ≠ .gnssFix → lane ≠ .rtkFix →
      noFix rtk op = true := by
    intro lane op hop hgnss hrtk
    cases rtk
    · exact noFix_of_stream hop hgnss
    · exact noFix_of_stream hop hrtk
  cases o with
  | turn next => exact List.forall_mem_nil _
  | queue lane i => exact List.forall_mem_nil _
  | raw clock batch =>
    intro op hop
    obtain ⟨channel,hop⟩ := stream_rawBatchOperations hop
    refine hlane hop ?_ ?_ <;>
    · unfold rawStream
      split_ifs <;> decide
  | timing now =>
    intro op hop
    rw [List.mem_singleton.mp hop]
    exact hlane rfl (by decide) (by decide)
  | receiver clock batch positions => cases hposition
  | reception now reception =>
    exact fun op hop => hlane (stream_checkReception hop) (by decide) (by decide)
  | rtk now status => exact fun op hop => hlane (stream_checkRtk hop) (by decide) (by decide)
  | queryFailed lane detail =>
    intro op hop
    rw [List.mem_singleton.mp hop]
    rfl
  | droppedRawFrames frames =>
    intro op hop
    rw [List.mem_singleton.mp hop]
    exact hlane rfl (by decide) (by decide)
  | poll c =>
    simp only [operations, List.forall_mem_singleton]
    refine hlane rfl ?_ ?_ <;>
    · intro he
      exact absurd (he ▸ c.reported) (by decide)
  | print now final =>
    intro op hop
    rcases mem_printReport hop with ⟨lane,rfl⟩ | rfl <;> rfl

/-- A new baseline of a stream that has had no position yet. -/
theorem fixBook_reset {h : SensorDataHealth} {lane : Stream} {now silenceNs : UInt64}
    (hbook : FixBook [] (0,0) (h.states (fixStream rtk))) :
    FixBook [] (0,0) ((h.apply (.reset lane now 0 silenceNs)).states (fixStream rtk)) := by
  by_cases hl : lane = fixStream rtk
  · subst hl
    change FixBook [] (0,0) ((h.reset (fixStream rtk) now 0 silenceNs).states (fixStream rtk))
    rw [SensorDataHealth.reset,update_same]
    exact ⟨rfl,rfl,rfl,fun _ hstamp => (Option.some_ne_none _ hstamp.symm).elim,by simp [periodOf],
      hbook.changes,hbook.onsets,hbook.backwards,hbook.nothing⟩
  · exact hbook.same (fixPart_apply (noFix_of_stream rfl hl))

theorem fixBook_start {h : SensorDataHealth} {ops : List Operation}
    (hbook : FixBook [] (0,0) (h.states (fixStream rtk)))
    (hops : ∀ op ∈ ops, sensed op = true ∨ ∃ lane now, op = .reset lane now 0 (5 * kSecond)) :
    FixBook [] (0,0) ((run SensorDataHealth.apply h ops).states (fixStream rtk)) := by
  induction ops generalizing h with
  | nil => exact hbook
  | cons op ops ih =>
    obtain ⟨hop,hrest⟩ := List.forall_mem_cons.mp hops
    refine ih ?_ hrest
    rcases hop with hop | ⟨lane,now,rfl⟩
    · exact hbook.same (fixPart_apply (noFix_sensed hop))
    · exact fixBook_reset hbook

theorem step_lastReceiverSequence (hposition : o.position rtk = none) :
    (step w s o).lastReceiverSequence rtk = s.lastReceiverSequence rtk := by
  cases o with
  | receiver clock batch positions => cases hposition
  | _ => rfl

theorem receiver_lastReceiverSequence (clock : ℕ → UInt64) (batch : GnssObservations)
    (positions : Bool → ReceiverPositionState) :
    (step w s (.receiver clock batch positions)).lastReceiverSequence rtk =
      receiverSequence (s.lastReceiverSequence rtk) (positions rtk) := by
  cases rtk with
  | false =>
    simp only [step, checkPositions, List.foldl_cons, List.foldl_nil]
    rw [Function.update_of_ne (by decide),Function.update_self]
    rfl
  | true =>
    simp only [step, checkPositions, List.foldl_cons, List.foldl_nil]
    rw [Function.update_self,Function.update_of_ne (by decide)]
    rfl

theorem step_fixPart (hposition : o.position rtk = none) :
    fixPart ((step w s o).driver.health.states (fixStream rtk)) =
      fixPart (s.driver.health.states (fixStream rtk)) := by
  by_cases hturn : ∃ next, o = .turn next
  · obtain ⟨next,rfl⟩ := hturn
    obtain ⟨ops,hops,heq⟩ := turn_sensed (w := w) (s := s) next
    have hhealth := printer_health s.printer ops
    rw [← heq] at hhealth
    change (step w s (.turn next)).driver.health = _ at hhealth
    rw [hhealth]
    exact fixPart_run ops fun op hop => noFix_sensed (hops op hop)
  · rw [step_health fun next hn => hturn ⟨next,hn⟩]
    exact fixPart_run _ (operations_noFix hposition)

/-- The observations go to a stream of their own, and so does the other position. -/
theorem receiver_fixBook {positions : List ReceiverPositionState} {clock : ℕ → UInt64}
    {batch : GnssObservations} {polled : Bool → ReceiverPositionState}
    (hbook : FixBook positions (s.lastReceiverSequence rtk)
      (s.driver.health.states (fixStream rtk))) :
    FixBook (positions ++ [polled rtk])
      (receiverSequence (s.lastReceiverSequence rtk) (polled rtk))
      ((step w s (.receiver clock batch polled)).driver.health.states (fixStream rtk)) := by
  have hhealth : (step w s (.receiver clock batch polled)).driver.health = _ := step_health nofun
  have hobservations : ∀ op ∈ checkObservations clock batch, noFix rtk op = true := fun op hop =>
    noFix_of_stream (stream_checkObservations hop) (by cases rtk <;> decide)
  have hother : ∀ now last position, ∀ op ∈ checkPosition (!rtk) now last position,
      noFix rtk op = true := fun now last position op hop =>
    noFix_of_stream (stream_checkPosition hop) (by cases rtk <;> decide)
  rw [hhealth]
  simp only [operations, run_append]
  cases rtk with
  | false => exact (hbook.same (fixPart_run _ hobservations)).check.same (fixPart_run _ (hother _ _ _))
  | true =>
    exact ((hbook.same (fixPart_run _ hobservations)).same (fixPart_run _ (hother _ _ _))).check

theorem step_fixBook {positions : List ReceiverPositionState}
    (hbook : FixBook positions (s.lastReceiverSequence rtk)
      (s.driver.health.states (fixStream rtk))) :
    FixBook (positions ++ (o.position rtk).toList) ((step w s o).lastReceiverSequence rtk)
      ((step w s o).driver.health.states (fixStream rtk)) := by
  cases hposition : o.position rtk with
  | none =>
    rw [step_lastReceiverSequence hposition,Option.toList_none,List.append_nil]
    exact hbook.same (step_fixPart hposition)
  | some position =>
    cases o with
    | receiver clock batch polled =>
      obtain rfl := Option.some.inj hposition
      rw [receiver_lastReceiverSequence]
      exact receiver_fixBook hbook
    | _ => cases hposition

theorem run_fixBook {positions : List ReceiverPositionState}
    (hbook : FixBook positions (s.lastReceiverSequence rtk)
      (s.driver.health.states (fixStream rtk))) (occasions : List (Occasion Value)) :
    let t := run (step w) s occasions
    FixBook (positions ++ occasions.filterMap (·.position rtk)) (t.lastReceiverSequence rtk)
      (t.driver.health.states (fixStream rtk)) := by
  induction occasions generalizing s positions with
  | nil => simpa using hbook
  | cons o occasions ih =>
    have hpositions : (o :: occasions).filterMap (·.position rtk) =
        (o.position rtk).toList ++ occasions.filterMap (·.position rtk) := by
      cases ho : o.position rtk <;> simp [ho]
    rw [run_cons,hpositions,← List.append_assoc]
    exact ih (step_fixBook hbook)

/-- However polls, reports, frames and commands interleave: a fix stream counts each change of
session and each time its position has become stale, and never a lost, repeated or late fix,
whatever numbers the polls bring and how often they bring the same one; its time is said to
go back at most as often as two successive fixes do. -/
theorem fixes_counted (w : World) (config : DriverConfig)
    (queues : ∀ stream, Dispatching (Value stream)) (navigation : Bool) (begun : UInt64)
    (occasions : List (Occasion Value)) (rtk : Bool) :
    let positions := occasions.filterMap (·.position rtk)
    let record := (run (step w) (start w config queues navigation begun)
      occasions).driver.health.states (fixStream rtk)
    record.total .sessionChanged = UInt64.ofNat ((pairs positions).countP sessionChange) ∧
      record.total .statusStale = UInt64.ofNat ((withPrevious positions).countP staleOnset) ∧
      (∃ n ≤ (pairs (newFixes positions)).countP backward,
        record.total .timestampBackward = UInt64.ofNat n) ∧
      ∀ issue ∉ fixIssues, record.total issue = 0 := by
  intro positions record
  obtain ⟨ops,hops,hprinter⟩ := start_health w config queues navigation begun
  have hbegun : FixBook [] ((start w config queues navigation begun).lastReceiverSequence rtk)
      ((start w config queues navigation begun).driver.health.states (fixStream rtk)) := by
    rw [show (start w config queues navigation begun).driver.health =
      run SensorDataHealth.apply {} ops from congrArg Printer.health hprinter]
    exact fixBook_start ⟨rfl,rfl,rfl,nofun,rfl,rfl,rfl,⟨0,Nat.zero_le _,rfl⟩,fun _ _ => rfl⟩ hops
  have hbook := run_fixBook (w := w) hbegun occasions
  exact ⟨hbook.changes,hbook.onsets,hbook.backwards,hbook.nothing⟩

end
end LossWatch
end PrismRosAdapter.Driver
