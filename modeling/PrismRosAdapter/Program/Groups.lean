import Mathlib.Data.List.SplitBy

/-! # Groups of consecutive items with one key

The groups of a list that grows at its end: the next item either joins the last
group or starts a group of its own.
-/
namespace PrismRosAdapter.Groups
variable {α κ : Type*} [DecidableEq κ] (key : α → κ)

def groupsBy (l : List α) : List (List α) := l.splitBy fun x y => decide (key x = key y)

theorem groupsBy_flatten (l : List α) : (groupsBy key l).flatten = l := List.flatten_splitBy _ l

theorem groupsBy_new {l : List α} {x : α} (h : ∀ y ∈ l.getLast?, key y ≠ key x) :
    groupsBy key (l ++ [x]) = groupsBy key l ++ [[x]] := by
  unfold groupsBy
  rw [List.splitBy_append_cons]
  · rfl
  · intro y hy
    exact decide_eq_false (h y hy)

theorem groupsBy_join {l g : List α} {first : List (List α)} {x : α}
    (hl : groupsBy key l = first ++ [g]) (h : ∀ y ∈ g.getLast?, key y = key x) :
    groupsBy key (l ++ [x]) = first ++ [g ++ [x]] := by
  unfold groupsBy at hl ⊢
  obtain ⟨hflat,hne,hchain,hbreak⟩ := List.splitBy_eq_iff.mp hl
  have hg : g ≠ [] := by
    rintro rfl
    exact hne (by simp)
  refine List.splitBy_eq_iff.mpr ⟨by simp [hflat],?_,?_,?_⟩
  · intro hm
    rcases List.mem_append.mp hm with hm | hm
    · exact hne (List.mem_append_left _ hm)
    · simp at hm
  · intro m hm
    rcases List.mem_append.mp hm with hm | hm
    · exact hchain m (List.mem_append_left _ hm)
    · obtain rfl := List.mem_singleton.mp hm
      refine List.isChain_append.mpr ⟨hchain g (by simp),by simp,?_⟩
      intro y hy z hz
      obtain rfl := Option.mem_some_iff.mp hz
      exact decide_eq_true (h y hy)
  · rw [List.isChain_append] at hbreak ⊢
    refine ⟨hbreak.1,by simp,?_⟩
    intro m hm m' hm'
    obtain rfl := Option.mem_some_iff.mp hm'
    obtain ⟨ha,_,hr⟩ := hbreak.2.2 m hm g (by simp)
    refine ⟨ha,by simp,?_⟩
    rwa [List.head_append_of_ne_nil hg]

end PrismRosAdapter.Groups
