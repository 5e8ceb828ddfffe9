import PrismRosAdapter.Program.Loops

/-! # What a computation sends

A computation that sends a list of messages has sent all of it when it returns and a prefix
of it when it throws, whatever else it does to the state.
-/
namespace PrismRosAdapter.Program
variable {σ ε μ α β : Type} {sent : σ → List μ} {a b : List μ}

def Emits (sent : σ → List μ) (messages : List μ) (x : Program σ ε α) : Prop :=
  ∀ s, ∃ out, sent (x s).2 = sent s ++ out ∧ out <+: messages ∧
    ∀ r t, x.Returns s r t → out = messages

theorem emits_nothing {x : Program σ ε α} (h : ∀ s, sent (x s).2 = sent s) : Emits sent [] x :=
  fun s => ⟨[],by rw [h,List.append_nil],List.prefix_rfl,fun _ _ _ => rfl⟩

theorem emits_pure (r : α) : Emits sent [] (pure r : Program σ ε α) := emits_nothing fun _ => rfl

theorem emits_bind {x : Program σ ε α} {f : α → Program σ ε β} (hx : Emits sent a x)
    (hf : ∀ r, Emits sent b (f r)) : Emits sent (a ++ b) (x >>= f) := by
  intro s
  obtain ⟨first,hsent,hbegun,hall⟩ := hx s
  rcases returns_or_throws x s with ⟨r,hr⟩ | ⟨e,he⟩
  · obtain rfl := hall r _ hr
    obtain ⟨rest,hrest,hle,hdone⟩ := hf r (x s).2
    rw [bind_of_returns hr]
    refine ⟨first ++ rest,by rw [hrest,hsent,List.append_assoc],?_,fun r' t h => ?_⟩
    · exact (List.prefix_append_right_inj first).mpr hle
    · rw [hdone r' t ?_]
      obtain ⟨_,_,hr',h⟩ := returns_bind.mp h
      obtain ⟨hok,rfl⟩ := Prod.mk.inj (hr.symm.trans hr')
      obtain rfl := Except.ok.inj hok
      exact h
  · rw [bind_of_throws he]
    refine ⟨first,hsent,hbegun.trans (List.prefix_append a b),fun r t h => ?_⟩
    obtain ⟨_,_,hr,_⟩ := returns_bind.mp h
    cases (congrArg Prod.fst (he.symm.trans hr) : Except.error e = .ok _)

theorem emits_ite {c : Prop} [Decidable c] {x y : Program σ ε α} (hx : Emits sent a x)
    (hy : Emits sent b y) : Emits sent (if c then a else b) (if c then x else y) := by
  by_cases h : c
  · rwa [if_pos h,if_pos h]
  · rwa [if_neg h,if_neg h]

theorem emits_forEach {body : α → Program σ ε Unit} {messages : α → List μ}
    (h : ∀ item, Emits sent (messages item) (body item)) (items : List α) :
    Emits sent (items.flatMap messages) (forEach body items) := by
  induction items with
  | nil => exact emits_pure ()
  | cons item rest ih => exact emits_bind (h item) fun _ => ih

end PrismRosAdapter.Program
