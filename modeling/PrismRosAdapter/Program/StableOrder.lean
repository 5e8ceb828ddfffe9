import Mathlib.Data.List.Enum
import Mathlib.Data.List.Perm.Basic
import Mathlib.Order.Lattice

/-! # Stable order, and lists built element by element

A stable sort by a key is a strict order by the key and the place before. A list built
by a computation that can fail is built completely or not at all.
-/
namespace PrismRosAdapter.StableOrder

section
variable {α κ : Type*} [LinearOrder κ] (key : α → κ)

def byKey (a b : α) : Bool := decide (key a ≤ key b)

/-- Before by the key, or by the place where the keys are equal. -/
def Before (a b : α × ℕ) : Prop := key a.1 < key b.1 ∨ key a.1 = key b.1 ∧ a.2 < b.2

theorem nodup_places (l : List α) : (l.zipIdx.map Prod.snd).Nodup := by
  rw [List.zipIdx_map_snd]
  exact List.nodup_range'

/-- Sorting by a key leaves each element with its own place. -/
theorem stable (l : List α) : ∃ order : List (α × ℕ), order.Perm l.zipIdx ∧
    order.map Prod.fst = l.mergeSort (byKey key) ∧ order.Pairwise (Before key) := by
  have htrans : ∀ a b c : α, byKey key a b = true → byKey key b c = true →
      byKey key a c = true := by
    intro a b c hab hbc
    exact decide_eq_true (le_trans (of_decide_eq_true hab) (of_decide_eq_true hbc))
  have htotal : ∀ a b : α, (byKey key a b || byKey key b a) = true := by
    intro a b
    rw [Bool.or_eq_true]
    exact (le_total (key a) (key b)).imp decide_eq_true decide_eq_true
  have hperm := List.mergeSort_perm l.zipIdx (List.zipIdxLE (byKey key))
  refine ⟨l.zipIdx.mergeSort (List.zipIdxLE (byKey key)),hperm,List.mergeSort_zipIdx,?_⟩
  have hsorted := List.pairwise_mergeSort (List.zipIdxLE_trans htrans)
    (List.zipIdxLE_total htotal) l.zipIdx
  have hplaces : (l.zipIdx.mergeSort (List.zipIdxLE (byKey key))).Pairwise
      fun a b => a.2 ≠ b.2 :=
    List.pairwise_map.mp ((hperm.map Prod.snd).nodup_iff.mpr (nodup_places l))
  refine (hsorted.and hplaces).imp ?_
  rintro a b ⟨hle,hne⟩
  unfold List.zipIdxLE byKey at hle
  split_ifs at hle with hab hba
  · have heq := le_antisymm (of_decide_eq_true hab) (of_decide_eq_true hba)
    exact .inr ⟨heq,Nat.lt_of_le_of_ne (of_decide_eq_true hle) hne⟩
  · have hlt := not_le.mp fun hle' => hba (decide_eq_true hle')
    exact .inl hlt

end

section
variable {ε α β : Type*} {f : α → Except ε β}

/-- Either every element is built, or one of them fails. -/
theorem mapM_cases (l : List α) :
    (∃ built, l.mapM f = .ok built ∧ List.Forall₂ (fun a b => f a = .ok b) l built) ∨
    ∃ e, l.mapM f = .error e ∧ ∃ a ∈ l, f a = .error e := by
  induction l with
  | nil => exact .inl ⟨[],rfl,.nil⟩
  | cons a rest ih =>
    rw [List.mapM_cons]
    cases ha : f a with
    | error e => exact .inr ⟨e,rfl,a,List.mem_cons_self,ha⟩
    | ok b =>
      rcases ih with ⟨built,hbuilt,hall⟩ | ⟨e,he,a',hmem,ha'⟩
      · rw [hbuilt]
        exact .inl ⟨b :: built,rfl,.cons ha hall⟩
      · rw [he]
        exact .inr ⟨e,rfl,a',List.mem_cons_of_mem a hmem,ha'⟩

end

section
variable {α β : Type*} {R : α → β → Prop} {S : α → α → Prop} {T : β → β → Prop}

/-- An order of the elements is one of what they were built into. -/
theorem pairwise_of_forall₂ {l : List α} {built : List β} (h : List.Forall₂ R l built)
    (hl : l.Pairwise S) (hT : ∀ a b a' b', R a b → R a' b' → S a a' → T b b') :
    built.Pairwise T := by
  have hlength := h.length_eq
  rw [List.pairwise_iff_getElem] at hl ⊢
  intro i j hi hj hij
  have hi' : i < l.length := hlength ▸ hi
  have hj' : j < l.length := hlength ▸ hj
  exact hT _ _ _ _ (h.get hi' hi) (h.get hj' hj) (hl i j hi' hj' hij)

theorem forall_of_forall₂ {P : α → Prop} {l : List α} {built : List β}
    (h : List.Forall₂ R l built) (hP : ∀ a b, R a b → P a) : ∀ a ∈ l, P a := by
  induction h with
  | nil => simp
  | cons hab _ ih => exact List.forall_mem_cons.mpr ⟨hP _ _ hab,ih⟩

end
end PrismRosAdapter.StableOrder
