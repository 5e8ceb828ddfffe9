import PrismRosAdapter.Failure
import PrismRosAdapter.Program.Runs
import Mathlib.Data.List.TakeWhile

/-! # Confirmed publications

A window lets a bounded number of publications go out before it waits for their
acknowledgment. What counts is the history since the last fence: a wait that
succeeded, or a publication that nobody could have acknowledged.
-/
namespace PrismRosAdapter.Dispatch
open Runs

/-- A publication with how a wait for its acknowledgment would end. -/
structure Publication where
  reliable : Bool
  subscribers : ℕ
  wait : Except Failure Bool

structure PublicationAckWindow where
  limit : ℕ
  positive : 0 < limit
  pending : ℕ := 0

/-- What a call of `published` ends with, and whether it has waited. -/
structure Published where
  answer : Except Failure Bool
  window : PublicationAckWindow
  waited : Bool

namespace PublicationAckWindow

def construct (limit : ℕ) : Except Failure PublicationAckWindow :=
  if h : limit = 0 then throw (.adapter "ACK window must be positive")
  else return { limit, positive := Nat.pos_of_ne_zero h }

/-- After a timeout or an exception the fence stays pending. -/
def published (window : PublicationAckWindow) (p : Publication) : Published :=
  if ¬ p.reliable ∨ p.subscribers = 0 then ⟨.ok true,{ window with pending := 0 },false⟩
  else
    let counted := { window with
      pending := if window.pending < window.limit then window.pending + 1 else window.pending }
    if counted.pending < counted.limit then ⟨.ok true,counted,false⟩
    else
      match p.wait with
      | .ok true => ⟨.ok true,{ counted with pending := 0 },true⟩
      | .ok false => ⟨.ok false,counted,true⟩
      | .error e => ⟨.error e,counted,true⟩

end PublicationAckWindow

namespace Publication

def confirmable (p : Publication) : Bool := p.reliable && p.subscribers != 0

def acknowledged (p : Publication) : Bool :=
  match p.wait with
  | .ok acked => acked
  | .error _ => false

end Publication

/-- A call that has been made. -/
structure Call where
  publication : Publication
  answer : Except Failure Bool
  waited : Bool

/-- A successful wait. -/
def Call.confirmed (c : Call) : Bool := c.waited && c.publication.acknowledged

def Call.fence (c : Call) : Bool := !c.publication.confirmable || c.confirmed

structure Publisher where
  window : PublicationAckWindow
  calls : List Call := []

def Publisher.publish (s : Publisher) (p : Publication) : Publisher :=
  let done := s.window.published p
  { window := done.window, calls := s.calls ++ [⟨p,done.answer,done.waited⟩] }

/-- The call that the publication leads to. -/
def Publisher.call (s : Publisher) (p : Publication) : Call :=
  ⟨p,(s.window.published p).answer,(s.window.published p).waited⟩

def publisher (limit : ℕ) (h : 0 < limit) : Publisher := { window := { limit, positive := h } }

/-- How many calls there have been since the last fence. -/
def sinceFence (calls : List Call) : ℕ := (calls.reverse.takeWhile fun c => !c.fence).length

/-- What is pending is what came after the last fence, up to the limit, and each call
has waited when that was reached. -/
structure Fenced (limit : ℕ) (s : Publisher) : Prop where
  limit_eq : s.window.limit = limit
  pending : s.window.pending = min limit (sinceFence s.calls)
  waited : ∀ before c after, s.calls = before ++ c :: after →
    (c.waited = true ↔ c.publication.confirmable = true ∧ limit ≤ sinceFence before + 1)
  answered : ∀ c ∈ s.calls, c.answer = .ok true ↔
    c.waited = false ∨ c.publication.acknowledged = true

section
variable {limit : ℕ} {s : Publisher} {calls : List Call} {c : Call}

theorem sinceFence_snoc : sinceFence (calls ++ [c]) =
    if c.fence then 0 else sinceFence calls + 1 := by
  unfold sinceFence
  rw [List.reverse_append,List.reverse_singleton,List.singleton_append,List.takeWhile_cons]
  cases c.fence <;> rfl

/-- Calls that are no fences only add up. -/
theorem sinceFence_append {rest : List Call} (h : ∀ c ∈ rest, c.fence = false) :
    sinceFence (calls ++ rest) = sinceFence calls + rest.length := by
  induction rest using List.reverseRecOn with
  | nil => rw [List.append_nil]; rfl
  | append_singleton rest c ih =>
    obtain ⟨hrest,hc⟩ := List.forall_mem_append.mp h
    rw [← List.append_assoc,sinceFence_snoc,if_neg (by simp [hc c List.mem_cons_self]),ih hrest,
      List.length_append,List.length_singleton,Nat.add_assoc]

theorem unconfirmable_iff {p : Publication} :
    (¬ p.reliable = true ∨ p.subscribers = 0) ↔ p.confirmable = false := by
  unfold Publication.confirmable
  cases p.reliable <;> simp

/-- A call in terms of what is pending: the three ways it can go. -/
theorem published_cases (w : PublicationAckWindow) (p : Publication) :
    (p.confirmable = false ∧ w.published p = ⟨.ok true,{ w with pending := 0 },false⟩) ∨
    (p.confirmable = true ∧ w.pending + 1 < w.limit ∧
      w.published p = ⟨.ok true,{ w with pending := w.pending + 1 },false⟩) ∨
    (p.confirmable = true ∧ w.limit ≤ w.pending + 1 ∧ (w.published p).waited = true ∧
      ((w.published p).answer = .ok true ↔ p.acknowledged = true) ∧
      (w.published p).window = { w with
        pending := if p.acknowledged then 0 else max w.pending w.limit }) := by
  unfold PublicationAckWindow.published
  cases hc : p.confirmable with
  | false => exact .inl ⟨rfl,if_pos (unconfirmable_iff.mpr hc)⟩
  | true =>
    have hcan : ¬ (¬ p.reliable = true ∨ p.subscribers = 0) := by
      rw [unconfirmable_iff,hc]
      exact Bool.noConfusion
    rw [if_neg hcan]
    have hpositive := w.positive
    dsimp only
    by_cases hnext : w.pending + 1 < w.limit
    · rw [if_pos (Nat.lt_of_succ_lt hnext),if_pos hnext]
      exact .inr (.inl ⟨rfl,hnext,rfl⟩)
    · have hcounted : (if w.pending < w.limit then w.pending + 1 else w.pending) =
          max w.pending w.limit := by
        split <;> omega
      rw [hcounted,if_neg (not_lt.mpr (le_max_right _ _))]
      refine .inr (.inr ⟨rfl,not_lt.mp hnext,?_⟩)
      unfold Publication.acknowledged
      cases p.wait with
      | error e => simp
      | ok acked => cases acked <;> simp

namespace Fenced

theorem initial (h : 0 < limit) : Fenced limit (publisher limit h) where
  limit_eq := rfl
  pending := by simp [publisher,sinceFence]
  waited := fun before c after h => absurd h.symm (by simp [publisher])
  answered := by simp [publisher]

/-- A call that keeps the count, waits when the limit is reached, and answers for what it
has waited for. -/
theorem snoc (h : Fenced limit s) {p : Publication}
    (hlimit : (s.window.published p).window.limit = s.window.limit)
    (hpending : (s.window.published p).window.pending =
      min limit (if (s.call p).fence then 0 else sinceFence s.calls + 1))
    (hwaited : (s.window.published p).waited = true ↔
      p.confirmable = true ∧ limit ≤ sinceFence s.calls + 1)
    (hanswered : (s.window.published p).answer = .ok true ↔
      (s.window.published p).waited = false ∨ p.acknowledged = true) :
    Fenced limit (s.publish p) where
  limit_eq := hlimit.trans h.limit_eq
  pending := hpending.trans (congrArg (min limit) sinceFence_snoc.symm)
  waited := Runs.each_snoc.mpr ⟨h.waited,hwaited⟩
  answered := List.forall_mem_append.mpr ⟨h.answered,List.forall_mem_singleton.mpr hanswered⟩

theorem step (h : Fenced limit s) (p : Publication) : Fenced limit (s.publish p) := by
  have hlimit := h.limit_eq
  have hpending := h.pending
  have hpositive := s.window.positive
  rcases published_cases s.window p with
    ⟨hc,heq⟩ | ⟨hc,hlt,heq⟩ | ⟨hc,hle,hwait,hanswer,hwindow⟩
  · have hfence : (s.call p).fence = true := by simp [Call.fence,Publisher.call,hc]
    refine h.snoc ?_ ?_ ?_ ?_ <;> simp [heq,hc,hfence]
  · have hbelow : sinceFence s.calls + 1 < limit := by omega
    have hfence : (s.call p).fence = false := by
      simp [Call.fence,Call.confirmed,Publisher.call,hc,heq]
    refine h.snoc ?_ ?_ ?_ ?_ <;> simp [heq,hbelow,hfence]
    omega
  · have hreached : limit ≤ sinceFence s.calls + 1 := by omega
    have hfence : (s.call p).fence = p.acknowledged := by
      simp [Call.fence,Call.confirmed,Publisher.call,hc,hwait]
    refine h.snoc (by rw [hwindow]) ?_ ?_ ?_
    · rw [hwindow,hfence]
      cases p.acknowledged with
      | true => simp
      | false =>
        simp
        omega
    · simp [hwait,hc,hreached]
    · simp [hwait,hanswer]

theorem run (h : Fenced limit s) (publications : List Publication) :
    Fenced limit (publications.foldl Publisher.publish s) := by
  induction publications generalizing s with
  | nil => exact h
  | cons p rest ih => exact ih (h.step p)

/-- A burst of confirmable publications without a wait is shorter than the limit. -/
theorem burst (h : Fenced limit s) (hpositive : 0 < limit) {before burst after : List Call}
    (hsplit : s.calls = before ++ burst ++ after)
    (hburst : ∀ c ∈ burst, c.publication.confirmable = true ∧ c.waited = false) :
    burst.length < limit := by
  rcases List.eq_nil_or_concat' burst with rfl | ⟨rest,last,rfl⟩
  · exact hpositive
  · obtain ⟨hrest,hlast⟩ := List.forall_mem_append.mp hburst
    obtain ⟨hconfirmable,hunwaited⟩ := hlast last List.mem_cons_self
    -- none of the calls before the last one is a fence, and the last one has not waited
    have hcount : sinceFence (before ++ rest) = sinceFence before + rest.length :=
      sinceFence_append fun c hc => by
        simp [Call.fence,Call.confirmed,(hrest c hc).1,(hrest c hc).2]
    have hdue := h.waited (before ++ rest) last after (by simp [hsplit])
    have hbelow : ¬ limit ≤ sinceFence (before ++ rest) + 1 := fun hle => by
      rw [hdue.mpr ⟨hconfirmable,hle⟩] at hunwaited
      exact Bool.noConfusion hunwaited
    rw [List.length_append,List.length_singleton]
    omega

/-- After a wait without success each confirmable publication waits, until a fence. -/
theorem retry (h : Fenced limit s) {before between after : List Call} {failed next : Call}
    (hsplit : s.calls = before ++ failed :: between ++ next :: after)
    (hwaited : failed.waited = true) (hfailed : failed.publication.acknowledged = false)
    (hbetween : ∀ c ∈ between, c.publication.confirmable = true ∧ c.confirmed = false)
    (hnext : next.publication.confirmable = true) : next.waited = true := by
  have hdue := (h.waited before failed (between ++ next :: after) (by simp [hsplit])).mp hwaited
  have hfence : ∀ c ∈ failed :: between, c.fence = false := by
    refine List.forall_mem_cons.mpr ⟨by simp [Call.fence,Call.confirmed,hdue.1,hfailed],?_⟩
    intro c hc
    simp [Call.fence,(hbetween c hc).1,(hbetween c hc).2]
  have hcount : sinceFence (before ++ failed :: between) = _ := sinceFence_append hfence
  refine (h.waited (before ++ failed :: between) next after hsplit).mpr ⟨hnext,?_⟩
  rw [List.length_cons] at hcount
  omega

end Fenced

theorem calls_publication (publications : List Publication) (s : Publisher) :
    (publications.foldl Publisher.publish s).calls.map Call.publication =
      s.calls.map Call.publication ++ publications := by
  induction publications generalizing s with
  | nil => simp
  | cons p rest ih => simp [ih,Publisher.publish]

theorem construct_eq (h : 0 < limit) :
    PublicationAckWindow.construct limit = .ok (publisher limit h).window :=
  dif_neg (Nat.ne_of_gt h)

/-- A publication is waited for exactly when it and those since the last fence fill the
window. A failed fence is retried by each confirmable publication up to the next fence. -/
theorem waited_at_limit (h : 0 < limit) (publications : List Publication) :
    let s := publications.foldl Publisher.publish (publisher limit h)
    s.calls.map Call.publication = publications ∧ s.window.pending ≤ limit ∧
    (∀ before c after, s.calls = before ++ c :: after →
      (c.waited = true ↔ c.publication.confirmable = true ∧ limit ≤ sinceFence before + 1) ∧
      (c.answer = .ok true ↔ c.waited = false ∨ c.publication.acknowledged = true)) ∧
    (∀ before burst after, s.calls = before ++ burst ++ after →
      (∀ c ∈ burst, c.publication.confirmable = true ∧ c.waited = false) →
      burst.length ≤ limit - 1) ∧
    ∀ before failed between next after, s.calls = before ++ failed :: between ++ next :: after →
      failed.waited = true → failed.publication.acknowledged = false →
      (∀ c ∈ between, c.publication.confirmable = true ∧ c.confirmed = false) →
      next.publication.confirmable = true → next.waited = true := by
  intro s
  have hfenced : Fenced limit s := (Fenced.initial h).run publications
  have hpending : s.window.pending ≤ limit := by
    rw [hfenced.pending]
    exact min_le_left limit _
  refine ⟨calls_publication publications _,hpending,?_,?_,?_⟩
  · intro before c after hsplit
    have hmem : c ∈ s.calls := by simp [hsplit]
    exact ⟨hfenced.waited before c after hsplit,hfenced.answered c hmem⟩
  · intro before burst after hsplit hburst
    have hlt := hfenced.burst h hsplit hburst
    omega
  · intro before failed between next after hsplit
    exact hfenced.retry hsplit

end

/-- Nothing is waited for again when the subscribers have left in between. -/
theorem waited_at_limit_departed :
    ¬ ∀ (limit : ℕ) (h : 0 < limit) (publications : List Publication)
      before failed between next after,
      (publications.foldl Publisher.publish (publisher limit h)).calls =
        before ++ failed :: between ++ next :: after →
      failed.waited = true → failed.publication.acknowledged = false →
      (∀ c ∈ between, c.confirmed = false) →
      next.publication.confirmable = true → next.waited = true := by
  intro h
  let reached : Publication := ⟨true,1,.ok false⟩
  let departed : Publication := ⟨true,0,.ok false⟩
  have hwaited := h 2 (by decide) [reached,reached,departed,reached]
    [⟨reached,.ok true,false⟩] ⟨reached,.ok false,true⟩ [⟨departed,.ok true,false⟩]
    ⟨reached,.ok true,false⟩ [] rfl rfl rfl (by decide) rfl
  exact Bool.noConfusion hwaited

theorem waited_at_limit_two :
    let reached : Publication := ⟨true,1,.ok false⟩
    let s := [reached,reached,reached].foldl Publisher.publish (publisher 2 (by decide))
    s.calls.map Call.waited = [false,true,true] ∧ s.window.pending ≤ 2 := by
  have h := waited_at_limit (by decide : 0 < 2)
    [⟨true,1,.ok false⟩,⟨true,1,.ok false⟩,⟨true,1,.ok false⟩]
  exact ⟨rfl,h.2.1⟩

end PrismRosAdapter.Dispatch
