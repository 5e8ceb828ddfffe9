import Mathlib.Algebra.Order.Ring.Nat

/-! # Neighbours in a history

What is counted between each entry of a history and the one before it. A history grows at
its end, where one more entry has one more neighbour.
-/
namespace PrismRosAdapter.Neighbours
variable {α : Type*}

/-- Each entry but the first, with the one before it. -/
def pairs (l : List α) : List (α × α) := l.zip l.tail

@[simp] theorem pairs_cons_cons (a b : α) (l : List α) :
    pairs (a :: b :: l) = (a,b) :: pairs (b :: l) := rfl

theorem pairs_snoc (l : List α) (a : α) :
    pairs (l ++ [a]) = pairs l ++ l.getLast?.toList.map fun b => (b,a) := by
  induction l with
  | nil => rfl
  | cons b l ih =>
    cases l with
    | nil => rfl
    | cons c l =>
      rw [List.cons_append,List.cons_append,pairs_cons_cons,← List.cons_append,ih]
      rw [pairs_cons_cons,List.getLast?_cons_cons,List.cons_append]

/-- A sum over neighbours grows by what the last entry and the new one give. -/
theorem sum_pairs_snoc (f : α × α → ℕ) (l : List α) (a : α) :
    ((pairs (l ++ [a])).map f).sum =
      ((pairs l).map f).sum + (l.getLast?.map fun b => f (b,a)).getD 0 := by
  rw [pairs_snoc,List.map_append,List.sum_append_nat]
  cases l.getLast? <;> rfl

theorem countP_pairs_snoc (p : α × α → Bool) (l : List α) (a : α) :
    (pairs (l ++ [a])).countP p =
      (pairs l).countP p + (l.getLast?.any fun b => p (b,a)).toNat := by
  rw [pairs_snoc]
  cases l.getLast? with
  | none => simp
  | some b => cases h : p (b,a) <;> simp [h]

/-- Every entry, with the one before it if there is one. -/
def withPrevious (l : List α) : List (Option α × α) := (none :: l.map some).zip l

theorem withPrevious_snoc (l : List α) (a : α) :
    withPrevious (l ++ [a]) = withPrevious l ++ [(l.getLast?,a)] := by
  have hlast : ∀ (l : List α) (b : Option α), (b :: (l ++ [a]).map some).zip (l ++ [a]) =
      (b :: l.map some).zip l ++ [((l.getLast?.map some).getD b,a)] := by
    intro l
    induction l with
    | nil => exact fun _ => rfl
    | cons c l ih =>
      intro b
      rw [List.cons_append,List.map_cons,List.zip_cons_cons,ih (some c),List.getLast?_cons]
      cases l.getLast? <;> rfl
  have h := hlast l none
  unfold withPrevious
  rw [h]
  cases l.getLast? <;> rfl

/-- How often a condition has set in. -/
def onsets (l : List Bool) : ℕ := (pairs (false :: l)).countP fun p => !p.1 && p.2

theorem onsets_snoc (l : List Bool) (b : Bool) :
    onsets (l ++ [b]) = onsets l + (!l.getLast?.getD false && b).toNat := by
  unfold onsets
  rw [← List.cons_append,countP_pairs_snoc,List.getLast?_cons]
  rfl

end PrismRosAdapter.Neighbours
