import PrismRosAdapter.Dispatch.DispatchQueue
import PrismRosAdapter.Program.Runs
import Mathlib.Data.List.Chain
import Mathlib.Data.UInt

/-! # The drop counter of published raw chunks

The worker reads the queue's drop counter when it publishes a chunk, not when it
takes the chunk out. Drops that fall between the two are already counted with
that chunk although they discard what follows it.
-/
namespace PrismRosAdapter.Dispatch
open DispatchQueue Runs

structure GnssRawState where
  hostReceivedNs : UInt64 := 0
  session : UInt64 := 0
  sequence : UInt64 := 0
  receivedMs : UInt64 := 0
  deviceMonotonicMs : UInt64 := 0
  cursor : UInt64 := 0
  channel : UInt8 := 0
  flags : UInt32 := 0
  lostBytes : UInt64 := 0
  adapterDroppedChunks : UInt64 := 0
  cacheGap : Bool := false
  queryFailed : Bool := false
  data : List UInt8 := []
  deriving DecidableEq, Repr

/-- A chunk with its place in the order of pushes. -/
structure Numbered where
  position : ℕ
  chunk : GnssRawState
  deriving DecidableEq, Repr

/-- The raw queue with what it has published and discarded. Three fields follow the schedule:
`droppedWhileHeld`, a push overflowed since the held chunk was taken out; `lossBehind`, one
did so between the taking out of the chunk published last and that of the held one;
`overflows`, how many pushes have overflowed since that publication. -/
structure RawDispatch where
  dispatch : DispatchQueue Numbered
  pushed : ℕ := 0
  published : List Numbered := []
  discarded : List ℕ := []
  droppedWhileHeld : Bool := false
  lossBehind : Bool := false
  overflows : ℕ := 0
  deriving DecidableEq, Repr

inductive RawStep where
  | push (chunk : GnssRawState)
  | pop
  | publish (threw : Bool)
  deriving DecidableEq, Repr

/-- The handler: a chunk goes out with the drop counter of that moment. -/
def stamped (v : Numbered) (dropped : ℕ) : Numbered :=
  { v with chunk := { v.chunk with adapterDroppedChunks := UInt64.ofNat dropped } }

def RawDispatch.push (s : RawDispatch) (chunk : GnssRawState) : RawDispatch :=
  let next := { s with
    dispatch := s.dispatch.push ⟨s.pushed,chunk⟩
    pushed := s.pushed + 1 }
  if s.dispatch.Overflows then
    { next with
      discarded := s.discarded ++ (s.dispatch.queue.head?.map Numbered.position).toList
      droppedWhileHeld := s.dispatch.held.isSome
      lossBehind := s.lossBehind || s.dispatch.held.isNone
      overflows := s.overflows + 1 }
  else next

def RawDispatch.pop (s : RawDispatch) : RawDispatch :=
  { s with
    dispatch := s.dispatch.pop
    droppedWhileHeld := if s.dispatch.held.isSome then s.droppedWhileHeld else false }

/-- A chunk whose handler throws has not gone out. -/
def RawDispatch.publish (s : RawDispatch) (threw : Bool) : RawDispatch :=
  match s.dispatch.held with
  | none => s
  | some v =>
    let next := { s with dispatch := s.dispatch.handled threw, droppedWhileHeld := false }
    if threw then { next with lossBehind := s.lossBehind || s.droppedWhileHeld }
    else
      { next with
        published := s.published ++ [stamped v s.dispatch.dropped]
        lossBehind := s.droppedWhileHeld
        overflows := 0 }

def RawDispatch.step (s : RawDispatch) : RawStep → RawDispatch
  | .push chunk => s.push chunk
  | .pop => s.pop
  | .publish threw => s.publish threw

def rawDispatch (capacity : ℕ) : RawDispatch where
  dispatch := DispatchQueue.start { capacity := capacity }

/-- Chunks lost between two publications raise the counter of the second. -/
def AnnouncesLoss (discarded : List ℕ) (a b : Numbered) : Prop :=
  (∃ k ∈ discarded, a.position < k ∧ k < b.position) →
    a.chunk.adapterDroppedChunks < b.chunk.adapterDroppedChunks

def RawDispatch.Announced (s : RawDispatch) : Prop :=
  s.published.IsChain (AnnouncesLoss s.discarded)

/-- A chunk is published behind a loss, and since the publication before it no push has
overflowed, or so many that the 64-bit counter has come round. -/
def HidesLoss (s : RawDispatch) : RawStep → Prop
  | .publish false => s.dispatch.held.isSome ∧ s.published ≠ [] ∧ s.lossBehind = true ∧
      (s.overflows = 0 ∨
        s.dispatch.dropped % 2 ^ 64 ≤ (s.dispatch.dropped - s.overflows) % 2 ^ 64)
  | _ => False

instance (s : RawDispatch) : ∀ i, Decidable (HidesLoss s i)
  | .publish false => inferInstanceAs (Decidable (_ ∧ _))
  | .publish true => inferInstanceAs (Decidable False)
  | .push _ => inferInstanceAs (Decidable False)
  | .pop => inferInstanceAs (Decidable False)

def RawDispatch.front (s : RawDispatch) : ℕ := s.pushed - s.dispatch.queue.length

/-- Where the next chunk to be published stands in the order of pushes. -/
def RawDispatch.next (s : RawDispatch) : ℕ :=
  match s.dispatch.held with
  | none => s.front
  | some v => v.position

/-- The queue holds the latest pushes, and everything before it is accounted for. -/
structure Accounted (s : RawDispatch) : Prop where
  started : s.dispatch.Started
  positions : s.dispatch.queue.map Numbered.position =
    List.range' s.front s.dispatch.queue.length
  length_le : s.dispatch.queue.length ≤ s.pushed
  held_lt : ∀ v ∈ s.dispatch.held, v.position < s.front
  held_dropped : ∀ v ∈ s.dispatch.held, s.droppedWhileHeld = true ↔ v.position + 1 < s.front
  held_kept : ∀ v ∈ s.dispatch.held, v.position ∉ s.discarded
  discarded_lt : ∀ k ∈ s.discarded, k < s.front
  past_next : ∀ k, s.next < k → k < s.front → k ∈ s.discarded

/-- A chunk was discarded between the last publication and the next one. -/
def LostBefore (s : RawDispatch) (last : Numbered) : Prop :=
  ∃ k ∈ s.discarded, last.position < k ∧ k < s.next

/-- What the schedule says of the chunk published last. -/
structure Counted (s : RawDispatch) (last : Numbered) : Prop where
  lt_next : last.position < s.next
  overflows_le : s.overflows ≤ s.dispatch.dropped
  counter : last.chunk.adapterDroppedChunks = UInt64.ofNat (s.dispatch.dropped - s.overflows)
  loss : s.lossBehind = true ↔ LostBefore s last

/-- What every step of the queue keeps. -/
structure Tracked (s : RawDispatch) : Prop where
  accounted : Accounted s
  published_lt : ∀ b ∈ s.published, b.position < s.front
  counted : ∀ last ∈ s.published.getLast?, Counted s last

theorem rawDispatch_tracked {capacity : ℕ} (h : 0 < capacity) : Tracked (rawDispatch capacity) := by
  refine ⟨⟨⟨rfl,rfl,h⟩,rfl,le_rfl,?_,?_,?_,?_,?_⟩,?_,?_⟩
  · intro v hv
    cases hv
  · intro v hv
    cases hv
  · intro v hv
    cases hv
  · intro k hk
    cases hk
  · intro k _ hk
    cases hk
  · intro b hb
    cases hb
  · intro last hl
    cases hl

theorem Accounted.queue_head {s : RawDispatch} (h : Accounted s) {v : Numbered}
    {rest : List Numbered} (hq : s.dispatch.queue = v :: rest) :
    v.position = s.front ∧ rest.map Numbered.position = List.range' (s.front + 1) rest.length := by
  have hp := h.positions
  rw [hq,List.map_cons,List.length_cons,List.range'_succ] at hp
  exact List.cons.inj hp

theorem push_dispatch (s : RawDispatch) (chunk : GnssRawState) :
    (s.push chunk).dispatch = s.dispatch.push ⟨s.pushed,chunk⟩ := by
  unfold RawDispatch.push
  split <;> rfl

theorem push_full {s : RawDispatch} (ho : s.dispatch.Overflows) (chunk : GnssRawState)
    {v : Numbered} {rest : List Numbered} (hq : s.dispatch.queue = v :: rest) :
    s.push chunk = { s with
      dispatch := { s.dispatch with
        queue := rest ++ [⟨s.pushed,chunk⟩], dropped := s.dispatch.dropped + 1
        depth := rest.length + 1, peak := max s.dispatch.peak (rest.length + 1) }
      pushed := s.pushed + 1
      discarded := s.discarded ++ [v.position]
      droppedWhileHeld := s.dispatch.held.isSome
      lossBehind := s.lossBehind || s.dispatch.held.isNone
      overflows := s.overflows + 1 } := by
  unfold RawDispatch.push
  rw [if_pos ho,push_overflow ho,hq]
  rfl

/-- A step that gives up the chunk at the front moves the front by one. -/
theorem front_push_full {s : RawDispatch} (h : Accounted s) (ho : s.dispatch.Overflows)
    (chunk : GnssRawState) {v : Numbered} {rest : List Numbered}
    (hq : s.dispatch.queue = v :: rest) : (s.push chunk).front = s.front + 1 := by
  have hlen := h.length_le
  rw [hq,List.length_cons] at hlen
  rw [push_full ho chunk hq]
  simp only [RawDispatch.front, hq, List.length_append, List.length_cons, List.length_nil]
  omega

/-- What is published next moves with the front, unless it is held already. -/
theorem next_push_full {s : RawDispatch} (h : Accounted s) (ho : s.dispatch.Overflows)
    (chunk : GnssRawState) {v : Numbered} {rest : List Numbered}
    (hq : s.dispatch.queue = v :: rest) :
    (s.dispatch.held = none ∧ (s.push chunk).next = s.front + 1 ∧ s.next = s.front) ∨
      (∃ w, s.dispatch.held = some w ∧ (s.push chunk).next = w.position ∧ s.next = w.position) := by
  have hheld : (s.push chunk).dispatch.held = s.dispatch.held := by rw [push_full ho chunk hq]
  unfold RawDispatch.next
  rw [hheld]
  cases s.dispatch.held with
  | none => exact Or.inl ⟨rfl,front_push_full h ho chunk hq,rfl⟩
  | some w => exact Or.inr ⟨w,rfl,rfl,rfl⟩

theorem Accounted.exists_head {s : RawDispatch} (h : Accounted s) (ho : s.dispatch.Overflows) :
    ∃ v rest, s.dispatch.queue = v :: rest := by
  have hl := (overflows_iff h.started).mp ho
  have hpos := h.started.positive
  exact List.exists_cons_of_length_pos (by omega)

theorem Accounted.push_full {s : RawDispatch} (h : Accounted s) (ho : s.dispatch.Overflows)
    (chunk : GnssRawState) : Accounted (s.push chunk) := by
  obtain ⟨v,rest,hq⟩ := h.exists_head ho
  obtain ⟨hv,hrest⟩ := h.queue_head hq
  have hlen := h.length_le
  rw [hq,List.length_cons] at hlen
  have hfront := front_push_full h ho chunk hq
  have hnext := next_push_full h ho chunk hq
  have hs := Dispatch.push_full ho chunk hq
  have hheld : (s.push chunk).dispatch.held = s.dispatch.held := by rw [hs]
  have hdiscarded : (s.push chunk).discarded = s.discarded ++ [s.front] := by rw [hs,hv]
  refine ⟨push_dispatch s chunk ▸ push_started h.started _,?_,?_,?_,?_,?_,?_,?_⟩
  · rw [hfront,hs]
    have hsum : s.front + 1 + rest.length = s.pushed := by
      simp only [RawDispatch.front, hq, List.length_cons]
      omega
    simp only [List.map_append, hrest, List.map_cons, List.map_nil, List.length_append,
      List.length_cons, List.length_nil]
    rw [Nat.zero_add,List.range'_concat,Nat.one_mul,hsum]
  · rw [hs]
    simp only [List.length_append, List.length_cons, List.length_nil]
    omega
  · intro w hw
    rw [hheld] at hw
    rw [hfront]
    exact Nat.lt_succ_of_lt (h.held_lt w hw)
  · intro w hw
    rw [hheld] at hw
    have hlt := h.held_lt w hw
    rw [hfront,hs]
    rw [Option.mem_def.mp hw]
    simp only [Option.isSome_some, true_iff]
    omega
  · intro w hw hk
    rw [hheld] at hw
    rw [hdiscarded] at hk
    rcases List.mem_append.mp hk with hk | hk
    · exact h.held_kept w hw hk
    · exact absurd (List.mem_singleton.mp hk) (Nat.ne_of_lt (h.held_lt w hw))
  · intro k hk
    rw [hdiscarded] at hk
    rw [hfront]
    rcases List.mem_append.mp hk with hk | hk
    · exact Nat.lt_succ_of_lt (h.discarded_lt k hk)
    · rw [List.mem_singleton.mp hk]
      exact Nat.lt_succ_self _
  · intro k hk hlt
    rw [hfront] at hlt
    rw [hdiscarded]
    rcases Nat.lt_succ_iff_lt_or_eq.mp hlt with hlt | rfl
    · rcases hnext with ⟨_,hn,_⟩ | ⟨w,_,hn,hn'⟩
      · omega
      · exact List.mem_append_left _ (h.past_next k (by omega) hlt)
    · exact List.mem_append_right _ (List.mem_singleton_self _)

/-- An overflow discards the chunk at the front, which comes after a chunk that is held. -/
theorem Counted.push_full {s : RawDispatch} {last : Numbered} (hc : Counted s last)
    (h : Accounted s) (ho : s.dispatch.Overflows) (chunk : GnssRawState) :
    Counted (s.push chunk) last := by
  obtain ⟨v,rest,hq⟩ := h.exists_head ho
  have hnext := next_push_full h ho chunk hq
  have hs := Dispatch.push_full ho chunk hq
  have hdiscarded : (s.push chunk).discarded = s.discarded ++ [s.front] := by
    rw [hs,(h.queue_head hq).1]
  have hdropped : (s.push chunk).dispatch.dropped = s.dispatch.dropped + 1 := by rw [hs]
  have hoverflows : (s.push chunk).overflows = s.overflows + 1 := by rw [hs]
  have hbehind : (s.push chunk).lossBehind = (s.lossBehind || s.dispatch.held.isNone) := by rw [hs]
  have hlt := hc.lt_next
  have hle := hc.overflows_le
  refine ⟨?_,by omega,?_,?_⟩
  · rcases hnext with ⟨_,hn,hn'⟩ | ⟨w,_,hn,hn'⟩ <;> omega
  · rw [hc.counter,hdropped,hoverflows,Nat.add_sub_add_right]
  · rw [hbehind,LostBefore,hdiscarded]
    rcases hnext with ⟨hheld,hn,hn'⟩ | ⟨w,hheld,hn,hn'⟩
    · rw [hheld,hn,Option.isNone_none,Bool.or_true]
      exact iff_of_true rfl ⟨s.front,by simp,by omega,Nat.lt_succ_self _⟩
    · rw [hheld,hn,Option.isNone_some,Bool.or_false,hc.loss,LostBefore,hn']
      constructor
      · rintro ⟨k,hk,hbetween⟩
        exact ⟨k,List.mem_append_left _ hk,hbetween⟩
      · rintro ⟨k,hk,h1,h2⟩
        rcases List.mem_append.mp hk with hk | hk
        · exact ⟨k,hk,h1,h2⟩
        · have hfront := h.held_lt w hheld
          rw [List.mem_singleton.mp hk] at h2
          omega

theorem Tracked.push_full {s : RawDispatch} (h : Tracked s) (ho : s.dispatch.Overflows)
    (chunk : GnssRawState) : Tracked (s.push chunk) := by
  have ha := h.accounted
  obtain ⟨v,rest,hq⟩ := ha.exists_head ho
  have hpub : (s.push chunk).published = s.published := by rw [Dispatch.push_full ho chunk hq]
  refine ⟨ha.push_full ho chunk,?_,?_⟩
  · intro b hb
    rw [hpub] at hb
    rw [front_push_full ha ho chunk hq]
    exact Nat.lt_succ_of_lt (h.published_lt b hb)
  · intro last hlast
    rw [hpub] at hlast
    exact (h.counted last hlast).push_full ha ho chunk

/-- A step that neither publishes nor discards only has the queue to account for. -/
theorem Tracked.aside {s t : RawDispatch} (h : Tracked s) (ha : Accounted t)
    (hnext : t.next = s.next) (hfront : s.front ≤ t.front)
    (hdropped : t.dispatch.dropped = s.dispatch.dropped)
    (hpublished : t.published = s.published) (hdiscarded : t.discarded = s.discarded)
    (hbehind : t.lossBehind = s.lossBehind) (hoverflows : t.overflows = s.overflows) :
    Tracked t := by
  refine ⟨ha,?_,?_⟩
  · intro b hb
    rw [hpublished] at hb
    exact lt_of_lt_of_le (h.published_lt b hb) hfront
  · intro last hl
    rw [hpublished] at hl
    have hc := h.counted last hl
    refine ⟨?_,?_,?_,?_⟩
    · rw [hnext]
      exact hc.lt_next
    · rw [hdropped,hoverflows]
      exact hc.overflows_le
    · rw [hdropped,hoverflows]
      exact hc.counter
    · rw [hbehind,LostBefore,hdiscarded,hnext]
      exact hc.loss

theorem Tracked.push_room {s : RawDispatch} (h : Tracked s) (ho : ¬ s.dispatch.Overflows)
    (chunk : GnssRawState) : Tracked (s.push chunk) := by
  have ha := h.accounted
  have hs : s.push chunk = { s with
      dispatch := s.dispatch.enqueue ⟨s.pushed,chunk⟩, pushed := s.pushed + 1 } := by
    unfold RawDispatch.push
    rw [if_neg ho,DispatchQueue.push_room ha.started ho]
  have hlen := ha.length_le
  have hfront : (s.push chunk).front = s.front := by
    rw [hs]
    simp only [RawDispatch.front, enqueue, List.length_append, List.length_cons, List.length_nil]
    omega
  have hnext : (s.push chunk).next = s.next := by
    unfold RawDispatch.next
    rw [hfront,hs]
    rfl
  refine h.aside ⟨push_dispatch s chunk ▸ push_started ha.started _,?_,?_,?_,?_,?_,?_,?_⟩ hnext
    (le_of_eq hfront.symm) (by rw [hs]; rfl) (by rw [hs]) (by rw [hs]) (by rw [hs]) (by rw [hs])
  · rw [hfront,hs]
    have hsum : s.front + s.dispatch.queue.length = s.pushed := by
      simp only [RawDispatch.front]
      omega
    simp only [enqueue, List.map_append, ha.positions, List.map_cons, List.map_nil,
      List.length_append, List.length_cons, List.length_nil]
    rw [Nat.zero_add,List.range'_concat,Nat.one_mul,hsum]
  · rw [hs]
    simp only [enqueue, List.length_append, List.length_cons, List.length_nil]
    omega
  · rw [hfront,hs]
    exact ha.held_lt
  · rw [hfront,hs]
    exact ha.held_dropped
  · rw [hs]
    exact ha.held_kept
  · rw [hfront,hs]
    exact ha.discarded_lt
  · rw [hfront,hnext,hs]
    exact ha.past_next

theorem Tracked.push {s : RawDispatch} (h : Tracked s) (chunk : GnssRawState) :
    Tracked (s.push chunk) := by
  by_cases ho : s.dispatch.Overflows
  · exact h.push_full ho chunk
  · exact h.push_room ho chunk

/-- Taking a chunk out moves it from the front of the queue into the worker's hand. -/
theorem Tracked.pop_taken {s : RawDispatch} (h : Tracked s) {v : Numbered} {rest : List Numbered}
    (hheld : s.dispatch.held = none) (hq : s.dispatch.queue = v :: rest)
    (hs : s.pop = { s with
      dispatch := { s.dispatch with queue := rest, depth := rest.length, held := some v }
      droppedWhileHeld := false }) : Tracked s.pop := by
  have ha := h.accounted
  obtain ⟨hv,hrest⟩ := ha.queue_head hq
  have hlen := ha.length_le
  rw [hq,List.length_cons] at hlen
  have hfront : s.pop.front = s.front + 1 := by
    rw [hs]
    simp only [RawDispatch.front, hq, List.length_cons]
    omega
  have hn : s.next = s.front := by
    unfold RawDispatch.next
    rw [hheld]
  have hnext : s.pop.next = s.next := by
    rw [hn,hs]
    exact hv
  refine h.aside ⟨hs ▸ ⟨ha.started.handler,ha.started.running,ha.started.positive⟩,
    ?_,?_,?_,?_,?_,?_,?_⟩ hnext (by omega) (by rw [hs]) (by rw [hs]) (by rw [hs]) (by rw [hs])
    (by rw [hs])
  · rw [hfront,hs]
    exact hrest
  · rw [hs]
    dsimp only
    omega
  · intro w hw
    rw [hs] at hw
    obtain rfl := Option.mem_some_iff.mp hw
    omega
  · intro w hw
    rw [hfront]
    rw [hs] at hw ⊢
    obtain rfl := Option.mem_some_iff.mp hw
    simp only [Bool.false_eq_true, false_iff]
    omega
  · intro w hw hk
    rw [hs] at hw hk
    obtain rfl := Option.mem_some_iff.mp hw
    exact absurd hv (Nat.ne_of_lt (ha.discarded_lt _ hk))
  · intro k hk
    rw [hs] at hk
    rw [hfront]
    exact Nat.lt_succ_of_lt (ha.discarded_lt k hk)
  · intro k hk hlt
    omega

theorem Tracked.pop {s : RawDispatch} (h : Tracked s) : Tracked s.pop := by
  have ha := h.accounted
  rcases pop_cases ha.started with ⟨v,rest,hheld,hq,hpop⟩ | ⟨_,hpop⟩
  · refine h.pop_taken hheld hq ?_
    unfold RawDispatch.pop
    rw [hpop,hheld]
    rfl
  · cases hheld : s.dispatch.held with
    | some w =>
      have hs : s.pop = s := by
        unfold RawDispatch.pop
        rw [hpop,hheld]
        rfl
      rw [hs]
      exact h
    | none =>
      have hs : s.pop = { s with droppedWhileHeld := false } := by
        unfold RawDispatch.pop
        rw [hpop,hheld]
        rfl
      rw [hs]
      refine h.aside ⟨ha.started,ha.positions,ha.length_le,ha.held_lt,?_,ha.held_kept,
        ha.discarded_lt,ha.past_next⟩ rfl le_rfl rfl rfl rfl rfl rfl
      intro w hw
      dsimp only at hw
      rw [hheld] at hw
      cases hw

theorem publish_held {s : RawDispatch} {v : Numbered} (h : s.dispatch.held = some v) :
    s.publish false = { s with
      dispatch := s.dispatch.handled false
      published := s.published ++ [stamped v s.dispatch.dropped]
      droppedWhileHeld := false
      lossBehind := s.droppedWhileHeld
      overflows := 0 } := by
  unfold RawDispatch.publish
  rw [h]
  rfl

theorem publish_threw {s : RawDispatch} {v : Numbered} (h : s.dispatch.held = some v) :
    s.publish true = { s with
      dispatch := s.dispatch.handled true
      droppedWhileHeld := false
      lossBehind := s.lossBehind || s.droppedWhileHeld } := by
  unfold RawDispatch.publish
  rw [h]
  rfl

theorem publish_idle {s : RawDispatch} (h : s.dispatch.held = none) (threw : Bool) :
    s.publish threw = s := by
  unfold RawDispatch.publish
  rw [h]

/-- The worker's hand is empty again: everything before the front is accounted for. -/
theorem Accounted.handled {s t : RawDispatch} (h : Accounted s) {threw : Bool}
    (hdispatch : t.dispatch = s.dispatch.handled threw) (hpushed : t.pushed = s.pushed)
    (hdiscarded : t.discarded = s.discarded) : Accounted t := by
  have hfront : t.front = s.front := by
    unfold RawDispatch.front
    rw [hdispatch,hpushed]
    rfl
  have hheld : t.dispatch.held = none := by
    rw [hdispatch]
    rfl
  refine ⟨hdispatch ▸ handled_started h.started threw,?_,?_,?_,?_,?_,?_,?_⟩
  · rw [hfront,hdispatch]
    exact h.positions
  · rw [hdispatch,hpushed]
    exact h.length_le
  all_goals intro w hw
  · cases hheld.symm.trans hw
  · cases hheld.symm.trans hw
  · cases hheld.symm.trans hw
  · rw [hdiscarded] at hw
    rw [hfront]
    exact h.discarded_lt w hw
  · intro hlt
    unfold RawDispatch.next at hw
    rw [hheld] at hw
    exact absurd hw (Nat.lt_asymm hlt)

/-- What has been discarded up to the front, beyond a chunk that is held. -/
theorem Accounted.lost_iff {s : RawDispatch} (h : Accounted s) {v : Numbered}
    (hheld : s.dispatch.held = some v) {p : ℕ} (hp : p < v.position) :
    (∃ k ∈ s.discarded, p < k ∧ k < s.front) ↔
      (∃ k ∈ s.discarded, p < k ∧ k < v.position) ∨ s.droppedWhileHeld = true := by
  have hlt := h.held_lt v hheld
  have hnext : s.next = v.position := by
    unfold RawDispatch.next
    rw [hheld]
  rw [h.held_dropped v hheld]
  constructor
  · rintro ⟨k,hk,h1,h2⟩
    rcases Nat.lt_trichotomy k v.position with hlo | rfl | hhi
    · exact .inl ⟨k,hk,h1,hlo⟩
    · exact absurd hk (h.held_kept v hheld)
    · exact .inr (by omega)
  · rintro (⟨k,hk,h1,h2⟩ | hgap)
    · exact ⟨k,hk,h1,h2.trans hlt⟩
    · exact ⟨v.position + 1,h.past_next _ (by omega) hgap,by omega,hgap⟩

theorem Tracked.publish {s : RawDispatch} (h : Tracked s) (threw : Bool) :
    Tracked (s.publish threw) := by
  have ha := h.accounted
  cases hheld : s.dispatch.held with
  | none =>
    rw [publish_idle hheld]
    exact h
  | some v =>
    have hnext : s.next = v.position := by
      unfold RawDispatch.next
      rw [hheld]
    have hlt := ha.held_lt v hheld
    cases threw with
    | false =>
      rw [publish_held hheld]
      refine ⟨ha.handled rfl rfl rfl,?_,?_⟩
      · intro b hb
        rcases List.mem_append.mp hb with hb | hb
        · exact h.published_lt b hb
        · rw [List.mem_singleton.mp hb]
          exact hlt
      · intro last hl
        rw [List.getLast?_concat] at hl
        obtain rfl := Option.mem_some_iff.mp hl
        refine ⟨hlt,Nat.zero_le _,rfl,?_⟩
        rw [ha.held_dropped v hheld]
        constructor
        · exact fun hgap => ⟨v.position + 1,ha.past_next _ (by omega) hgap,Nat.lt_succ_self _,hgap⟩
        · rintro ⟨k,_,h1,h2⟩
          exact lt_of_le_of_lt h1 h2
    | true =>
      rw [publish_threw hheld]
      refine ⟨ha.handled rfl rfl rfl,h.published_lt,?_⟩
      intro last hl
      have hc := h.counted last hl
      have hlast := hc.lt_next
      rw [hnext] at hlast
      refine ⟨hlast.trans hlt,hc.overflows_le,hc.counter,?_⟩
      rw [Bool.or_eq_true,hc.loss,LostBefore,hnext]
      exact (ha.lost_iff hheld hlast).symm

theorem Tracked.step {s : RawDispatch} (h : Tracked s) (i : RawStep) : Tracked (s.step i) := by
  cases i with
  | push chunk => exact h.push chunk
  | pop => exact h.pop
  | publish threw => exact h.publish threw

/-- What is discarded behind all publications leaves them as they are. -/
theorem announced_discard {discarded : List ℕ} {k : ℕ} {published : List Numbered}
    (h : ∀ b ∈ published, b.position < k) :
    published.IsChain (AnnouncesLoss (discarded ++ [k])) ↔
      published.IsChain (AnnouncesLoss discarded) := by
  apply List.IsChain.iff_of_mem_imp
  intro a b _ hb
  unfold AnnouncesLoss
  refine imp_congr_left ⟨?_,?_⟩
  · rintro ⟨j,hj,h1,h2⟩
    rcases List.mem_append.mp hj with hj | hj
    · exact ⟨j,hj,h1,h2⟩
    · rw [List.mem_singleton.mp hj] at h2
      exact absurd h2 (Nat.lt_asymm (h b hb))
  · rintro ⟨j,hj,hbetween⟩
    exact ⟨j,List.mem_append_left _ hj,hbetween⟩

theorem Tracked.announced_push {s : RawDispatch} (h : Tracked s) (chunk : GnssRawState) :
    (s.push chunk).Announced ↔ s.Announced := by
  by_cases ho : s.dispatch.Overflows
  · obtain ⟨v,rest,hq⟩ := h.accounted.exists_head ho
    have hs := Dispatch.push_full ho chunk hq
    rw [(h.accounted.queue_head hq).1] at hs
    unfold RawDispatch.Announced
    rw [hs]
    exact announced_discard h.published_lt
  · have hs : (s.push chunk).published = s.published ∧ (s.push chunk).discarded = s.discarded := by
      unfold RawDispatch.push
      rw [if_neg ho]
      exact ⟨rfl,rfl⟩
    rw [RawDispatch.Announced,hs.1,hs.2,RawDispatch.Announced]

/-- The counter of the held chunk exceeds that of the last one, unless it has come round. -/
theorem Counted.raised_iff {s : RawDispatch} {last : Numbered} (h : Counted s last) :
    last.chunk.adapterDroppedChunks < UInt64.ofNat s.dispatch.dropped ↔
      ¬ (s.overflows = 0 ∨
        s.dispatch.dropped % 2 ^ 64 ≤ (s.dispatch.dropped - s.overflows) % 2 ^ 64) := by
  rw [h.counter,UInt64.lt_iff_toNat_lt,UInt64.toNat_ofNat',UInt64.toNat_ofNat',not_or,not_le]
  refine ⟨fun hlt => ⟨fun hzero => ?_,hlt⟩,fun hboth => hboth.2⟩
  rw [hzero,Nat.sub_zero] at hlt
  exact Nat.lt_irrefl _ hlt

theorem Tracked.announced_publish {s : RawDispatch} (h : Tracked s) (ha : s.Announced)
    {v : Numbered} (hheld : s.dispatch.held = some v) :
    (s.publish false).Announced ↔ ¬ HidesLoss s (.publish false) := by
  have hnext : s.next = v.position := by
    unfold RawDispatch.next
    rw [hheld]
  have hhides : HidesLoss s (.publish false) ↔ s.published ≠ [] ∧ s.lossBehind = true ∧
      (s.overflows = 0 ∨
        s.dispatch.dropped % 2 ^ 64 ≤ (s.dispatch.dropped - s.overflows) % 2 ^ 64) := by
    rw [HidesLoss,hheld]
    exact and_iff_right rfl
  rw [hhides,publish_held hheld,RawDispatch.Announced,List.isChain_append]
  cases hl : s.published.getLast? with
  | none =>
    rw [List.getLast?_eq_none_iff.mp hl]
    simp
  | some last =>
    have hc := h.counted last hl
    have hsome : s.published ≠ [] := fun hnil => by rw [hnil] at hl; cases hl
    have hlost : AnnouncesLoss s.discarded last (stamped v s.dispatch.dropped) ↔
        (s.lossBehind = true → last.chunk.adapterDroppedChunks < UInt64.ofNat s.dispatch.dropped) := by
      rw [hc.loss,LostBefore,hnext]
      rfl
    rw [hc.raised_iff] at hlost
    constructor
    · rintro ⟨_,_,hlast⟩ ⟨_,hloss,hwrapped⟩
      exact hlost.mp (hlast last rfl _ rfl) hloss hwrapped
    · intro hnot
      refine ⟨ha,.singleton _,?_⟩
      intro a haLast b hb
      obtain rfl := Option.mem_some_iff.mp haLast
      obtain rfl := Option.mem_some_iff.mp hb
      exact hlost.mpr fun hloss hwrapped => hnot ⟨hsome,hloss,hwrapped⟩

/-- A step keeps losses announced exactly when it hides none. -/
theorem Tracked.announced_step {s : RawDispatch} (h : Tracked s) (ha : s.Announced) (i : RawStep) :
    (s.step i).Announced ↔ ¬ HidesLoss s i := by
  cases i with
  | push chunk => exact iff_of_true ((h.announced_push chunk).mpr ha) not_false
  | pop => exact iff_of_true ha not_false
  | publish threw =>
    cases hheld : s.dispatch.held with
    | none =>
      rw [RawDispatch.step,publish_idle hheld]
      refine iff_of_true ha ?_
      cases threw with
      | false =>
        rw [HidesLoss,hheld]
        exact fun hhides => Bool.noConfusion hhides.1
      | true => exact not_false
    | some v =>
      cases threw with
      | false => exact h.announced_publish ha hheld
      | true =>
        rw [RawDispatch.step,publish_threw hheld]
        exact iff_of_true ha not_false

/-- In any schedule of pushes, pops and publications, every loss between two
published chunks raises the second one's counter if and only if no chunk is
published behind a loss that no later overflow has made up for. -/
theorem drops_announced_iff (capacity : ℕ) (hc : 0 < capacity) (schedule : List RawStep) :
    Always RawDispatch.step RawDispatch.Announced (rawDispatch capacity) schedule ↔
      EachStep RawDispatch.step (fun s i => ¬ HidesLoss s i) (rawDispatch capacity) schedule := by
  have hstart : Tracked (rawDispatch capacity) := rawDispatch_tracked hc
  have hany : EachStep RawDispatch.step (fun _ _ => True) (rawDispatch capacity) schedule :=
    fun _ _ _ => trivial
  have htracked := always_of_step RawDispatch.step (P := Tracked)
    (fun s i _ ht => ht.step i) hstart hany
  have hstep : ∀ s i, True → Tracked s ∧ s.Announced →
      (Tracked (s.step i) ∧ (s.step i).Announced ↔ ¬ HidesLoss s i) := by
    rintro s i - ⟨ht,ha⟩
    rw [← ht.announced_step ha i]
    exact and_iff_right (ht.step i)
  have hiff := always_iff_eachStep RawDispatch.step hstep ⟨hstart,.nil⟩ hany
  rw [← hiff]
  constructor
  · exact fun h first hf => ⟨htracked first hf,h first hf⟩
  · exact fun h => h.mono _ (fun s hs => hs.2)

/-- Chunk 1 is lost while chunk 0 is held and chunk 2 while none is; the handler throws for
chunk 3, and chunk 4 carries both losses. -/
theorem drops_announced_iff_later :
    let schedule : List RawStep := [.push {},.pop,.push {},.push {},.publish false,.push {},.pop,
      .publish true,.push {},.pop,.publish false]
    Always RawDispatch.step RawDispatch.Announced (rawDispatch 1) schedule ∧
      (run RawDispatch.step (rawDispatch 1) schedule).published =
        [⟨0,{ adapterDroppedChunks := 1 }⟩,⟨4,{ adapterDroppedChunks := 2 }⟩] ∧
      (run RawDispatch.step (rawDispatch 1) schedule).discarded = [1,2] :=
  ⟨(drops_announced_iff 1 (by decide) _).mpr (by decide),by decide,by decide⟩

/-- The second chunk is lost while the first is held: the first already carries
the count, and the third is published with the same one. -/
def lossWhileHeld : List RawStep :=
  [.push {}, .pop, .push {}, .push {}, .publish false, .pop, .publish false]

theorem lossWhileHeld_unannounced :
    ¬ (run RawDispatch.step (rawDispatch 1) lossWhileHeld).Announced := by
  intro h
  have hpair : (run RawDispatch.step (rawDispatch 1) lossWhileHeld).published =
      [⟨0,{ adapterDroppedChunks := 1 }⟩,⟨2,{ adapterDroppedChunks := 1 }⟩] := by decide
  have hlost : (run RawDispatch.step (rawDispatch 1) lossWhileHeld).discarded = [1] := by decide
  unfold RawDispatch.Announced at h
  rw [hpair,hlost] at h
  exact Nat.lt_irrefl 1 ((List.isChain_cons_cons.mp h).1 ⟨1,by decide,by decide,by decide⟩)

end PrismRosAdapter.Dispatch
