import Mathlib.Data.List.Basic
import Mathlib.Data.List.Sublists

/-! # Obligations in a journal of events

Some events incur a list of duties, others perform one duty, and a performing
event may fail. A journal is kept when it has performed duties that it incurred,
in order, and all of them exactly if no failure left a duty of the same list
undone.
-/
namespace PrismRosAdapter.Obligations
variable {ε δ : Type*}

structure Ledger (ε δ : Type*) where
  incurs : ε → Option (List δ)
  performs : ε → Option δ
  fails : ε → Bool

namespace Ledger
variable (L : Ledger ε δ)

def incurred (l : List ε) : List δ := l.flatMap fun e => (L.incurs e).getD []
def performed (l : List ε) : List δ := l.filterMap L.performs

/-- What is owed after an event: the newest list, less what has been performed. -/
def owedAfter (owed : List δ) (e : ε) : List δ :=
  match L.incurs e with
  | some duties => duties
  | none => if (L.performs e).isSome then owed.tail else owed

/-- No failure leaves anything owed. -/
def lossless : List δ → List ε → Bool
  | _, [] => true
  | owed, e :: rest =>
    (!L.fails e || (L.owedAfter owed e).isEmpty) && lossless (L.owedAfter owed e) rest

structure Kept (l : List ε) : Prop where
  sublist : (L.performed l).Sublist (L.incurred l)
  exact : L.performed l = L.incurred l ↔ L.lossless [] l = true
  fresh : ∀ owed, L.lossless owed l = L.lossless [] l

/-- An event that neither incurs nor performs anything. -/
structure Aside (e : ε) : Prop where
  incurs : L.incurs e = none
  performs : L.performs e = none
  fails : L.fails e = false

variable {L} {l m : List ε} {owed : List δ}

theorem incurred_append : L.incurred (l ++ m) = L.incurred l ++ L.incurred m :=
  List.flatMap_append
theorem performed_append : L.performed (l ++ m) = L.performed l ++ L.performed m :=
  List.filterMap_append

theorem lossless_append :
    L.lossless owed (l ++ m) = (L.lossless owed l && L.lossless (l.foldl L.owedAfter owed) m) := by
  induction l generalizing owed with
  | nil => rfl
  | cons e rest ih => simp only [List.cons_append, lossless, List.foldl_cons, ih, Bool.and_assoc]

/-- Duties performed short of those incurred cannot be made up for elsewhere. -/
theorem append_eq_iff {a a' b b' : List δ} (ha : a.Sublist a') (hb : b.Sublist b') :
    a ++ b = a' ++ b' ↔ a = a' ∧ b = b' := by
  refine ⟨fun h => ?_,fun ⟨h,h'⟩ => by rw [h,h']⟩
  have hlen : a.length = a'.length := by
    have hsum := congrArg List.length h
    rw [List.length_append,List.length_append] at hsum
    have hla := ha.length_le
    have hlb := hb.length_le
    omega
  exact List.append_inj h hlen

theorem Kept.append (h : L.Kept l) (h' : L.Kept m) : L.Kept (l ++ m) where
  sublist := by
    rw [performed_append,incurred_append]
    exact h.sublist.append h'.sublist
  exact := by
    rw [performed_append,incurred_append,append_eq_iff h.sublist h'.sublist,h.exact,h'.exact,
      lossless_append,h'.fresh (l.foldl L.owedAfter []),Bool.and_eq_true]
  fresh := by
    intro owed
    rw [lossless_append,lossless_append,h.fresh owed,h'.fresh,h'.fresh (l.foldl L.owedAfter [])]

theorem Kept.nil : L.Kept [] where
  sublist := List.Sublist.refl _
  exact := iff_of_true rfl rfl
  fresh := fun _ => rfl

theorem Aside.kept {e : ε} (h : L.Aside e) : L.Kept [e] where
  sublist := by simp [performed,incurred,h.performs]
  exact := by simp [performed,incurred,lossless,h.performs,h.incurs,h.fails]
  fresh := by simp [lossless,h.fails]

theorem kept_of_aside (h : ∀ e ∈ l, L.Aside e) : L.Kept l := by
  induction l with
  | nil => exact .nil
  | cons e rest ih =>
    exact (h e List.mem_cons_self).kept.append (ih fun x hx => h x (List.mem_cons_of_mem e hx))

/-- The event by which each duty is performed. -/
structure Performs (L : Ledger ε δ) (f : δ → ε) : Prop where
  incurs : ∀ d, L.incurs (f d) = none
  performs : ∀ d, L.performs (f d) = some d
  fails : ∀ d, L.fails (f d) = false

section Performs
variable {f : δ → ε} {duties : List δ} {e x : ε}

theorem Performs.incurred (h : L.Performs f) : L.incurred (duties.map f) = [] := by
  simp [Ledger.incurred,h.incurs]

theorem Performs.performed (h : L.Performs f) : L.performed (duties.map f) = duties := by
  simp [Ledger.performed,List.filterMap_map,h.performs]

theorem Performs.lossless (h : L.Performs f) :
    L.lossless (duties ++ owed) (duties.map f ++ l) = L.lossless owed l := by
  induction duties with
  | nil => rfl
  | cons d rest ih =>
    rw [List.map_cons,List.cons_append,List.cons_append,Ledger.lossless,h.fails,owedAfter,h.incurs]
    simpa [h.performs] using ih

/-- All duties of one list have been performed. -/
theorem Kept.settled (h : L.Performs f) (hi : L.incurs e = some duties)
    (hp : L.performs e = none) (hf : L.fails e = false) : L.Kept (e :: duties.map f) := by
  have hperformed : L.performed (e :: duties.map f) = duties := by
    rw [Ledger.performed,List.filterMap_cons_none hp]
    exact h.performed
  have hincurred : L.incurred (e :: duties.map f) = duties := by
    rw [Ledger.incurred,List.flatMap_cons,hi]
    exact (congrArg (duties ++ ·) h.incurred).trans (List.append_nil duties)
  have hlossless : ∀ owed, L.lossless owed (e :: duties.map f) = true := by
    intro owed
    have hall : L.lossless (duties ++ []) (duties.map f ++ []) = L.lossless [] [] := h.lossless
    rw [List.append_nil,List.append_nil] at hall
    rw [Ledger.lossless,hf,owedAfter,hi]
    exact hall
  refine ⟨?_,?_,fun owed => ?_⟩
  · rw [hperformed,hincurred]
  · rw [hperformed,hincurred]
    exact iff_of_true rfl (hlossless [])
  · rw [hlossless,hlossless]

/-- The performance of a duty has failed, and the rest of its list was left undone. -/
theorem Kept.cut {d : δ} {rest : List δ} (h : L.Performs f)
    (hi : L.incurs e = some (duties ++ d :: rest)) (hp : L.performs e = none)
    (hf : L.fails e = false) (hxi : L.incurs x = none) (hxp : L.performs x = some d)
    (hxf : L.fails x = true) : L.Kept (e :: (duties.map f ++ [x])) := by
  have hperformed : L.performed (e :: (duties.map f ++ [x])) = duties ++ [d] := by
    rw [Ledger.performed,List.filterMap_cons_none hp]
    exact (performed_append (l := duties.map f)).trans (by
      rw [h.performed]
      simp [Ledger.performed,hxp])
  have hincurred : L.incurred (e :: (duties.map f ++ [x])) = duties ++ d :: rest := by
    have hnone : L.incurred (duties.map f ++ [x]) = [] := by
      rw [incurred_append,h.incurred]
      simp [Ledger.incurred,hxi]
    rw [Ledger.incurred,List.flatMap_cons,hi]
    exact (congrArg ((duties ++ d :: rest) ++ ·) hnone).trans (List.append_nil _)
  have hlossless : ∀ owed, L.lossless owed (e :: (duties.map f ++ [x])) = rest.isEmpty := by
    intro owed
    rw [Ledger.lossless,hf,owedAfter,hi]
    refine (h.lossless (l := [x])).trans ?_
    simp [Ledger.lossless,hxf,owedAfter,hxi,hxp]
  refine ⟨?_,?_,fun owed => ?_⟩
  · rw [hperformed,hincurred]
    exact (List.Sublist.refl duties).append ((List.nil_sublist rest).cons_cons d)
  · rw [hperformed,hincurred,hlossless,List.append_cancel_left_eq,List.isEmpty_iff]
    simp [eq_comm]
  · rw [hlossless,hlossless]

end Performs
end Ledger
end PrismRosAdapter.Obligations
