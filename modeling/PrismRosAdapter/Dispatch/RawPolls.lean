import PrismRosAdapter.Dispatch.RawDispatch
import PrismRosAdapter.Health.Operations

/-! # Polls of the raw GNSS cache

A poll reads up to four pages behind a cursor that is kept from poll to poll. One
chunk is filled in over and over; what goes out of it is told by the answers to the
queries alone.
-/
namespace PrismRosAdapter.Dispatch

structure GnssRawRecord where
  sequence : UInt64
  receivedMs : UInt64
  channel : UInt8
  flags : UInt32
  lostBytes : UInt64
  data : List UInt8
  deriving DecidableEq, Repr

structure GnssRawBatch where
  session : UInt64
  cursor : UInt64
  deviceMonotonicMs : UInt64
  gap : Bool := false
  more : Bool := false
  records : List GnssRawRecord := []
  deriving DecidableEq, Repr

/-- A query with its answer, or what the exception said. -/
structure RawQuery where
  cursor : UInt64
  session : UInt64
  answer : Except String GnssRawBatch

/-- The device's answers, by the number of the query, and the steady clock. -/
structure RawSource where
  gnssRaw : ℕ → UInt64 → UInt64 → Except String GnssRawBatch
  clock : ℕ → UInt64 := fun _ => 1

/-- What is kept between polls, with the queries made and the chunks pushed so far. -/
structure RawPolls where
  rawCursor : UInt64 := 0
  rawSession : UInt64 := 0
  nextRaw : UInt64 := 0
  dispatch : DispatchQueue GnssRawState
  health : Health.SensorDataHealth := {}
  ticks : ℕ := 0
  queries : List RawQuery := []
  pushed : List GnssRawState := []

namespace RawPolls

def push (s : RawPolls) (out : GnssRawState) : RawPolls :=
  { s with dispatch := s.dispatch.push out, pushed := s.pushed ++ [out] }

def steadyNowNs (source : RawSource) (s : RawPolls) : UInt64 × RawPolls :=
  (source.clock s.ticks,{ s with ticks := s.ticks + 1 })

def checkRawRecord (source : RawSource) (s : RawPolls) (r : GnssRawRecord) : RawPolls :=
  let (now,s) := s.steadyNowNs source
  let health := s.health.observe .rawDispatch now 0 (some r.sequence) 64 false
  let stream : Health.Stream :=
    if r.channel = 2 then .corsRtcm else if r.channel = 1 then .gnssRaw else .rawDispatch
  let (now,s) := s.steadyNowNs source
  let health := health.touch stream now
  let health := if r.flags &&& 1 ≠ 0 then health.add stream .sourceGap 1 else health
  let health := if r.flags &&& 2 ≠ 0 then health.add stream .sessionChanged 1 else health
  let health := if r.flags &&& 4 ≠ 0 then health.add stream .uartError 1 else health
  { s with health := health.add stream .lostBytes r.lostBytes }

def checkRawBatch (source : RawSource) (s : RawPolls) (b : GnssRawBatch) : RawPolls :=
  let health := [Health.Stream.rawDispatch,.gnssRaw,.corsRtcm].foldl
    (fun (h : Health.SensorDataHealth) stream => h.session stream b.session) s.health
  let health := if b.gap then health.add .rawDispatch .cacheGap 1 else health
  b.records.foldl (checkRawRecord source) { s with health := health }

/-- A record goes out in the same chunk as the one before it. -/
def pushRecord (p : RawPolls × GnssRawState) (r : GnssRawRecord) : RawPolls × GnssRawState :=
  let out := { p.2 with
    sequence := r.sequence
    receivedMs := r.receivedMs
    channel := r.channel
    flags := r.flags
    lostBytes := r.lostBytes
    data := r.data }
  (p.1.push out,out)

def pushGap (p : RawPolls × GnssRawState) (gap : Bool) : RawPolls × GnssRawState :=
  if gap then
    let out := { p.2 with cacheGap := true }
    (p.1.push out,{ out with cacheGap := false })
  else p

/-- What a page that came does before the next query. -/
def readPage (source : RawSource) (p : RawPolls × GnssRawState) (b : GnssRawBatch) :
    RawPolls × GnssRawState :=
  let s := p.1.checkRawBatch source b
  let s := { s with rawCursor := b.cursor, rawSession := b.session }
  let out := { p.2 with
    session := b.session
    cursor := b.cursor
    deviceMonotonicMs := b.deviceMonotonicMs }
  let (s,out) := b.records.foldl RawPolls.pushRecord (pushGap (s,out) b.gap)
  (s,{ out with
    sequence := 0
    receivedMs := 0
    channel := 0
    flags := 0
    lostBytes := 0
    data := [] })

/-- Paged at most so many pages, and what a failed query said. -/
def readPages (source : RawSource) : ℕ → RawPolls × GnssRawState →
    (RawPolls × GnssRawState) × Option String
  | 0, p => (p,none)
  | pages + 1, (s,out) =>
    let answer := source.gnssRaw s.queries.length s.rawCursor s.rawSession
    let s := { s with queries := s.queries ++ [⟨s.rawCursor,s.rawSession,answer⟩] }
    match answer with
    | .error what => ((s,out),some what)
    | .ok b =>
      let p := readPage source (s,out) b
      if b.more then readPages source pages p else (p,none)

def poll (source : RawSource) (s : RawPolls) (hostReceivedNs : UInt64) : RawPolls :=
  let ((s,out),failed) := readPages source 4 (s,{ hostReceivedNs })
  match failed with
  | none =>
    let (now,s) := s.steadyNowNs source
    { s with nextRaw := now + 50000000 }
  | some what =>
    let s := s.push { out with queryFailed := true, data := [], channel := 0 }
    let s := { s with health := s.health.queryError .rawDispatch what }
    let (now,s) := s.steadyNowNs source
    { s with nextRaw := now + 5000000000 }

/-- A turn of the receive loop at `now`, which polls when the time has come. -/
def turn (source : RawSource) (enableGnssRaw : Bool) (s : RawPolls) (t : UInt64 × UInt64) :
    RawPolls :=
  if enableGnssRaw ∧ s.nextRaw ≤ t.1 then s.poll source t.2 else s

end RawPolls

/-! ## What goes out -/

structure IsRecord (b : GnssRawBatch) (r : GnssRawRecord) (c : GnssRawState) : Prop where
  sequence : c.sequence = r.sequence
  receivedMs : c.receivedMs = r.receivedMs
  channel : c.channel = r.channel
  flags : c.flags = r.flags
  lostBytes : c.lostBytes = r.lostBytes
  data : c.data = r.data
  session : c.session = b.session
  cursor : c.cursor = b.cursor
  cacheGap : c.cacheGap = false
  queryFailed : c.queryFailed = false

/-- A chunk that stands for no record. -/
structure Empty (c : GnssRawState) : Prop where
  sequence : c.sequence = 0
  receivedMs : c.receivedMs = 0
  channel : c.channel = 0
  flags : c.flags = 0
  lostBytes : c.lostBytes = 0
  data : c.data = []

structure GapMarker (b : GnssRawBatch) (c : GnssRawState) : Prop where
  empty : Empty c
  session : c.session = b.session
  cursor : c.cursor = b.cursor
  cacheGap : c.cacheGap = true
  queryFailed : c.queryFailed = false

structure FailureMarker (c : GnssRawState) : Prop where
  empty : Empty c
  cacheGap : c.cacheGap = false
  queryFailed : c.queryFailed = true

/-- A page delivers its gap, then its records; a failed query one marker. -/
inductive Delivers : RawQuery → List GnssRawState → Prop
  | gap {cursor session : UInt64} {b : GnssRawBatch} {marker : GnssRawState}
      {chunks : List GnssRawState} (hgap : b.gap = true) (hmarker : GapMarker b marker)
      (hrecords : List.Forall₂ (IsRecord b) b.records chunks) :
      Delivers ⟨cursor,session,.ok b⟩ (marker :: chunks)
  | page {cursor session : UInt64} {b : GnssRawBatch} {chunks : List GnssRawState}
      (hgap : b.gap = false) (hrecords : List.Forall₂ (IsRecord b) b.records chunks) :
      Delivers ⟨cursor,session,.ok b⟩ chunks
  | failed {cursor session : UInt64} {what : String} {marker : GnssRawState}
      (hmarker : FailureMarker marker) : Delivers ⟨cursor,session,.error what⟩ [marker]

def advance (position : UInt64 × UInt64) (q : RawQuery) : UInt64 × UInt64 :=
  match q.answer with
  | .ok b => (b.cursor,b.session)
  | .error _ => position

/-- The cursor and the session of the last page that came. -/
def lastPage (queries : List RawQuery) : UInt64 × UInt64 := queries.foldl advance (0,0)

def RawQuery.more (q : RawQuery) : Bool :=
  match q.answer with
  | .ok b => b.more
  | .error _ => false

/-- The queries of one poll, which reads on while there is more, up to so many pages. -/
inductive Paged : ℕ → List RawQuery → Prop
  | full : Paged 0 []
  | last {pages : ℕ} {q : RawQuery} (h : q.more = false) : Paged (pages + 1) [q]
  | goes_on {pages : ℕ} {q : RawQuery} {rest : List RawQuery} (h : q.more = true)
      (hrest : Paged pages rest) : Paged (pages + 1) (q :: rest)

/-- All that has been asked was delivered, and the next query goes on behind it. -/
structure Polled (start : DispatchQueue GnssRawState) (s : RawPolls) : Prop where
  delivered : ∃ groups, List.Forall₂ Delivers s.queries groups ∧ s.pushed = groups.flatten
  resumed : ∀ before q after, s.queries = before ++ q :: after →
    (q.cursor,q.session) = lastPage before
  position : (s.rawCursor,s.rawSession) = lastPage s.queries
  dispatch : s.dispatch = s.pushed.foldl DispatchQueue.push start

/-- The chunk between two pages. -/
structure Clean (out : GnssRawState) : Prop where
  empty : Empty out
  cacheGap : out.cacheGap = false
  queryFailed : out.queryFailed = false

/-- The chunk within a page. -/
structure InPage (b : GnssRawBatch) (out : GnssRawState) : Prop where
  session : out.session = b.session
  cursor : out.cursor = b.cursor
  cacheGap : out.cacheGap = false
  queryFailed : out.queryFailed = false

section
open RawPolls
variable {source : RawSource} {start : DispatchQueue GnssRawState} {s : RawPolls}
  {out : GnssRawState} {b : GnssRawBatch}

/-- Pushes change the queue and nothing else that is kept. -/
theorem foldl_push (chunks : List GnssRawState) (s : RawPolls) : chunks.foldl RawPolls.push s =
    { s with
      dispatch := chunks.foldl DispatchQueue.push s.dispatch
      pushed := s.pushed ++ chunks } := by
  induction chunks generalizing s with
  | nil => simp
  | cons c rest ih =>
    rw [List.foldl_cons,List.foldl_cons,ih]
    simp [RawPolls.push]

/-- The records of a page go out one by one. -/
theorem foldl_pushRecord (records : List GnssRawRecord) (h : InPage b out) :
    ∃ chunks out', List.Forall₂ (IsRecord b) records chunks ∧ InPage b out' ∧
      records.foldl RawPolls.pushRecord (s,out) = (chunks.foldl RawPolls.push s,out') := by
  induction records generalizing s out with
  | nil => exact ⟨[],out,.nil,h,rfl⟩
  | cons r rest ih =>
    have hrecord : InPage b (pushRecord (s,out) r).2 :=
      ⟨h.session,h.cursor,h.cacheGap,h.queryFailed⟩
    obtain ⟨chunks,out',hchunks,hout',heq⟩ := ih (s := (pushRecord (s,out) r).1) hrecord
    refine ⟨(pushRecord (s,out) r).2 :: chunks,out',.cons ?_ hchunks,hout',heq⟩
    exact ⟨rfl,rfl,rfl,rfl,rfl,rfl,h.session,h.cursor,h.cacheGap,h.queryFailed⟩

theorem foldl_checkRawRecord (records : List GnssRawRecord) (s : RawPolls) :
    ∃ health ticks, records.foldl (checkRawRecord source) s =
      { s with health := health, ticks := ticks } := by
  induction records generalizing s with
  | nil => exact ⟨s.health,s.ticks,rfl⟩
  | cons r rest ih =>
    obtain ⟨health,ticks,heq⟩ := ih (checkRawRecord source s r)
    exact ⟨health,ticks,heq⟩

/-- A page opens with a marker if the cache has lost something. -/
theorem pushGap_opens (s : RawPolls) (hempty : Empty out) (h : InPage b out) :
    ∃ markers out', InPage b out' ∧ pushGap (s,out) b.gap = (markers.foldl RawPolls.push s,out') ∧
      ∀ cursor session chunks, List.Forall₂ (IsRecord b) b.records chunks →
        Delivers ⟨cursor,session,.ok b⟩ (markers ++ chunks) := by
  cases hgap : b.gap with
  | false => exact ⟨[],out,h,rfl,fun _ _ _ hchunks => .page hgap hchunks⟩
  | true =>
    have hmarker : GapMarker b { out with cacheGap := true } := by
      obtain ⟨hsequence,hreceived,hchannel,hflags,hlost,hdata⟩ := hempty
      exact ⟨⟨hsequence,hreceived,hchannel,hflags,hlost,hdata⟩,h.session,h.cursor,rfl,h.queryFailed⟩
    refine ⟨[{ out with cacheGap := true }],{ out with cacheGap := false },?_,rfl,?_⟩
    · exact ⟨h.session,h.cursor,rfl,h.queryFailed⟩
    · exact fun _ _ _ hchunks => .gap hgap hmarker hchunks

/-- A page that came delivers what it holds, and leaves the chunk clean. -/
theorem readPage_delivers (source : RawSource) (s : RawPolls) (b : GnssRawBatch)
    (cursor session : UInt64) (h : Clean out) :
    ∃ chunks health ticks, Delivers ⟨cursor,session,.ok b⟩ chunks ∧
      Clean (readPage source (s,out) b).2 ∧
      (readPage source (s,out) b).1 = chunks.foldl RawPolls.push { s with
        rawCursor := b.cursor
        rawSession := b.session
        health := health
        ticks := ticks } := by
  obtain ⟨health,ticks,hcheck⟩ : ∃ health ticks, s.checkRawBatch source b =
      { s with health := health, ticks := ticks } := foldl_checkRawRecord b.records _
  let s' : RawPolls := { s with
    rawCursor := b.cursor
    rawSession := b.session
    health := health
    ticks := ticks }
  let out' : GnssRawState := { out with
    session := b.session
    cursor := b.cursor
    deviceMonotonicMs := b.deviceMonotonicMs }
  have hempty : Empty out' := by
    obtain ⟨hsequence,hreceived,hchannel,hflags,hlost,hdata⟩ := h.empty
    exact ⟨hsequence,hreceived,hchannel,hflags,hlost,hdata⟩
  obtain ⟨markers,opened,hopened,hopens,hdelivers⟩ :=
    pushGap_opens s' hempty ⟨rfl,rfl,h.cacheGap,h.queryFailed⟩
  obtain ⟨chunks,last,hchunks,hlast,hrecords⟩ :=
    foldl_pushRecord (s := markers.foldl RawPolls.push s') b.records hopened
  have hread : readPage source (s,out) b = ((markers ++ chunks).foldl RawPolls.push s',
      { last with
        sequence := 0
        receivedMs := 0
        channel := 0
        flags := 0
        lostBytes := 0
        data := [] }) := by
    rw [readPage,hcheck]
    dsimp only
    rw [hopens,hrecords,List.foldl_append]
  rw [hread]
  refine ⟨markers ++ chunks,health,ticks,hdelivers _ _ _ hchunks,?_,rfl⟩
  exact ⟨⟨rfl,rfl,rfl,rfl,rfl,rfl⟩,hlast.cacheGap,hlast.queryFailed⟩

theorem lastPage_snoc {queries : List RawQuery} {q : RawQuery} :
    lastPage (queries ++ [q]) = advance (lastPage queries) q := by
  simp [lastPage]

namespace Polled

theorem initial : Polled start { dispatch := start } where
  delivered := ⟨[],.nil,rfl⟩
  resumed := fun before q after h => absurd h.symm (by simp)
  position := rfl
  dispatch := rfl

/-- When the next poll is due and what the health says is of no account. -/
theorem rescheduled (h : Polled start s) (nextRaw : UInt64) (health : Health.SensorDataHealth)
    (ticks : ℕ) :
    Polled start { s with nextRaw := nextRaw, health := health, ticks := ticks } :=
  ⟨h.delivered,h.resumed,h.position,h.dispatch⟩

/-- A query from where the last page ended, and the delivery of its answer. -/
theorem query (h : Polled start s) {q : RawQuery} {chunks : List GnssRawState}
    (hfrom : (q.cursor,q.session) = (s.rawCursor,s.rawSession)) (hdelivers : Delivers q chunks)
    (health : Health.SensorDataHealth) (ticks : ℕ) :
    Polled start (chunks.foldl RawPolls.push { s with
      rawCursor := (advance (s.rawCursor,s.rawSession) q).1
      rawSession := (advance (s.rawCursor,s.rawSession) q).2
      health := health
      ticks := ticks
      queries := s.queries ++ [q] }) := by
  obtain ⟨⟨groups,hgroups,hpushed⟩,hresumed,hposition,hdispatch⟩ := h
  rw [foldl_push]
  refine ⟨⟨groups ++ [chunks],?_,?_⟩,?_,?_,?_⟩
  · exact List.rel_append hgroups (.cons hdelivers .nil)
  · simp [hpushed]
  · exact Runs.each_snoc.mpr ⟨hresumed,hfrom.trans hposition⟩
  · rw [lastPage_snoc,← hposition]
  · rw [hdispatch,List.foldl_append]

/-- What reading pages leaves: all delivered, but for a query that failed at the end. -/
theorem readPages (pages : ℕ) (h : Polled start s) (hout : Clean out) :
    match RawPolls.readPages source pages (s,out) with
    | ((s',_),none) => Polled start s'
    | ((s',out'),some what) => ∃ s₀, Polled start s₀ ∧ Clean out' ∧
      s' = { s₀ with queries := s₀.queries ++ [⟨s₀.rawCursor,s₀.rawSession,.error what⟩] } := by
  induction pages generalizing s out with
  | zero => exact h
  | succ pages ih =>
    rw [RawPolls.readPages]
    generalize hanswer : source.gnssRaw s.queries.length s.rawCursor s.rawSession = answer
    cases answer with
    | error what => exact ⟨s,h,hout,rfl⟩
    | ok b =>
      obtain ⟨chunks,health,ticks,hdelivers,hclean,heq⟩ :=
        readPage_delivers source
          { s with queries := s.queries ++ [⟨s.rawCursor,s.rawSession,.ok b⟩] } b
          s.rawCursor s.rawSession hout
      have hpage := h.query rfl hdelivers health ticks
      dsimp only
      generalize readPage source ({ s with
        queries := s.queries ++ [⟨s.rawCursor,s.rawSession,.ok b⟩] },out) b = p at heq hclean ⊢
      obtain ⟨s',out'⟩ := p
      have hs' : Polled start s' := by
        have heq' : s' = _ := heq
        rw [heq']
        exact hpage
      cases b.more with
      | true => exact ih hs' hclean
      | false => exact hs'

/-- A poll delivers all it has asked for. -/
theorem poll (h : Polled start s) (hostReceivedNs : UInt64) :
    Polled start (s.poll source hostReceivedNs) := by
  have hread := @Polled.readPages source start s { hostReceivedNs } 4 h
    ⟨⟨rfl,rfl,rfl,rfl,rfl,rfl⟩,rfl,rfl⟩
  unfold RawPolls.poll
  generalize RawPolls.readPages source 4 (s,{ hostReceivedNs }) = result at hread ⊢
  obtain ⟨⟨s',out'⟩,_ | what⟩ := result
  · exact hread.rescheduled _ _ _
  · obtain ⟨s₀,hs₀,hclean,rfl⟩ := hread
    have hmarker : FailureMarker { out' with queryFailed := true, data := [], channel := 0 } := by
      obtain ⟨hsequence,hreceived,-,hflags,hlost,-⟩ := hclean.empty
      exact ⟨⟨hsequence,hreceived,rfl,hflags,hlost,rfl⟩,hclean.cacheGap,rfl⟩
    have hdelivers : Delivers ⟨s₀.rawCursor,s₀.rawSession,.error what⟩ _ := .failed hmarker
    have hfailed := hs₀.query rfl hdelivers s₀.health s₀.ticks
    exact hfailed.rescheduled _ _ _

theorem turn (h : Polled start s) (enableGnssRaw : Bool) (t : UInt64 × UInt64) :
    Polled start (s.turn source enableGnssRaw t) := by
  unfold RawPolls.turn
  split
  · exact h.poll t.2
  · exact h

end Polled

theorem polled_run (enableGnssRaw : Bool) (turns : List (UInt64 × UInt64)) (h : Polled start s) :
    Polled start (turns.foldl (RawPolls.turn source enableGnssRaw) s) := by
  induction turns generalizing s with
  | nil => exact h
  | cons t rest ih => exact ih (h.turn enableGnssRaw t)

/-! ## What a poll asks -/

theorem readPage_queries : (readPage source (s,out) b).1.queries = s.queries := by
  have hrecords : ∀ (records : List GnssRawRecord) (p : RawPolls × GnssRawState),
      (records.foldl RawPolls.pushRecord p).1.queries = p.1.queries := by
    intro records
    induction records with
    | nil => exact fun _ => rfl
    | cons r rest ih => exact fun p => ih (pushRecord p r)
  have hgap : ∀ p : RawPolls × GnssRawState, (pushGap p b.gap).1.queries = p.1.queries := by
    intro p
    unfold pushGap
    split <;> rfl
  obtain ⟨health,ticks,hcheck⟩ : ∃ health ticks, s.checkRawBatch source b =
      { s with health := health, ticks := ticks } := foldl_checkRawRecord b.records _
  unfold readPage
  dsimp only
  rw [hrecords,hgap,hcheck]

theorem readPages_reads (source : RawSource) (pages : ℕ) (s : RawPolls) (out : GnssRawState) :
    ∃ asked, Paged pages asked ∧
      (readPages source pages (s,out)).1.1.queries = s.queries ++ asked := by
  induction pages generalizing s out with
  | zero => exact ⟨[],.full,(List.append_nil _).symm⟩
  | succ pages ih =>
    rw [readPages]
    generalize source.gnssRaw s.queries.length s.rawCursor s.rawSession = answer
    cases answer with
    | error what => exact ⟨[_],.last rfl,rfl⟩
    | ok b =>
      obtain ⟨p,hp⟩ : ∃ p, p = readPage source ({ s with
        queries := s.queries ++ [⟨s.rawCursor,s.rawSession,.ok b⟩] },out) b := ⟨_,rfl⟩
      have hqueries : p.1.queries = s.queries ++ [⟨s.rawCursor,s.rawSession,.ok b⟩] := by
        rw [hp,readPage_queries]
      dsimp only
      rw [← hp]
      split
      · rename_i hmore
        obtain ⟨rest,hrest,heq⟩ := ih p.1 p.2
        refine ⟨⟨s.rawCursor,s.rawSession,.ok b⟩ :: rest,.goes_on hmore hrest,?_⟩
        rw [heq,hqueries,List.append_assoc]
        rfl
      · rename_i hmore
        have hlast : RawQuery.more ⟨s.rawCursor,s.rawSession,.ok b⟩ = false :=
          Bool.eq_false_iff.mpr hmore
        exact ⟨[_],.last hlast,hqueries⟩

/-- What a poll keeps for the next one asks nothing. -/
theorem queries_rescheduled {asked : List RawQuery} (h : s.queries = asked) (nextRaw : UInt64)
    (health : Health.SensorDataHealth) (ticks : ℕ) (dispatch : DispatchQueue GnssRawState)
    (pushed : List GnssRawState) :
    ({ s with
      nextRaw := nextRaw, health := health, ticks := ticks, dispatch := dispatch,
      pushed := pushed } : RawPolls).queries = asked := h

theorem poll_reads (source : RawSource) (s : RawPolls) (hostReceivedNs : UInt64) :
    ∃ asked, Paged 4 asked ∧ (s.poll source hostReceivedNs).queries = s.queries ++ asked := by
  obtain ⟨asked,hreads,hqueries⟩ := readPages_reads source 4 s { hostReceivedNs }
  refine ⟨asked,hreads,?_⟩
  unfold RawPolls.poll
  generalize readPages source 4 (s,{ hostReceivedNs }) = result at hqueries ⊢
  obtain ⟨⟨s',out'⟩,_ | what⟩ := result
  · exact queries_rescheduled hqueries _ _ _ _ _
  · exact queries_rescheduled hqueries _ _ _ _ _

theorem run_reads (enableGnssRaw : Bool) (turns : List (UInt64 × UInt64)) (s : RawPolls) :
    ∃ polls : List (List RawQuery), (∀ asked ∈ polls, Paged 4 asked) ∧
      (turns.foldl (RawPolls.turn source enableGnssRaw) s).queries =
        s.queries ++ polls.flatten := by
  induction turns generalizing s with
  | nil => exact ⟨[],List.forall_mem_nil _,(List.append_nil _).symm⟩
  | cons t rest ih =>
    obtain ⟨polls,hpolls,heq⟩ := ih (s.turn source enableGnssRaw t)
    rw [List.foldl_cons,heq]
    unfold RawPolls.turn
    split
    · obtain ⟨asked,hreads,hqueries⟩ := poll_reads source s t.2
      refine ⟨asked :: polls,List.forall_mem_cons.mpr ⟨hreads,hpolls⟩,?_⟩
      rw [hqueries,List.flatten_cons,List.append_assoc]
    · exact ⟨polls,hpolls,rfl⟩

end

/-- Over any turns what is pushed is, query by query, what the answer delivers, each query
goes on where the last page that came ended, and a poll reads on while there is more, up to
four pages. -/
theorem raw_polls_deliver (source : RawSource) (start : DispatchQueue GnssRawState)
    (enableGnssRaw : Bool) (turns : List (UInt64 × UInt64)) :
    let s := turns.foldl (RawPolls.turn source enableGnssRaw) { dispatch := start }
    (∃ groups, List.Forall₂ Delivers s.queries groups ∧ s.pushed = groups.flatten) ∧
    s.dispatch = s.pushed.foldl DispatchQueue.push start ∧
    (∀ before q after, s.queries = before ++ q :: after →
      (q.cursor,q.session) = lastPage before) ∧
    ∃ polls : List (List RawQuery), (∀ asked ∈ polls, Paged 4 asked) ∧ s.queries = polls.flatten := by
  intro s
  have hpolled : Polled start s := polled_run enableGnssRaw turns .initial
  exact ⟨hpolled.delivered,hpolled.dispatch,hpolled.resumed,run_reads enableGnssRaw turns _⟩

/-- A page with a gap and a record, a failed query, and the next poll from that page. -/
def brokenSource : RawSource where
  gnssRaw n _ _ := if n = 1 then .error "timeout" else
    .ok {
      session := 7
      cursor := 10
      deviceMonotonicMs := 5
      gap := n = 0
      more := n = 0
      records := [⟨3,4,2,5,64,[1,2]⟩] }

example :
    let s := [(0,0),(6000000000,1)].foldl (RawPolls.turn brokenSource true)
      { dispatch := { capacity := 8 } }
    s.pushed.map (fun c => (c.channel,c.cacheGap,c.queryFailed)) =
      [(0,true,false),(2,false,false),(0,false,true),(2,false,false)] ∧
    s.queries.map (fun q => (q.cursor,q.session)) = [(0,0),(10,7),(10,7)] := by
  decide +kernel

end PrismRosAdapter.Dispatch
