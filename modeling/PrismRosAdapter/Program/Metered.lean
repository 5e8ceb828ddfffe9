import PrismRosAdapter.Program.Loops

/-! # Computations under a meter

A meter counts what a computation can only do more of. From a state where it is
paid, a computation throws only once the meter has moved; where it is charged, the
meter moves on either exit.
-/
namespace PrismRosAdapter.Program
variable {σ ε α β : Type} {meter : σ → ℕ}

/-- The meter has not been turned back. -/
def Onto (meter : σ → ℕ) (s t : σ) : Prop := meter s ≤ meter t

instance : Std.Refl (Onto meter) := ⟨fun _ => Nat.le_refl _⟩
instance : IsTrans σ (Onto meter) := ⟨fun _ _ _ => Nat.le_trans⟩

structure Paid (meter : σ → ℕ) (x : Program σ ε α) (s : σ) : Prop where
  onto : Onto meter s (x s).2
  thrown : ∀ {e t}, x.Throws s e t → meter s < meter t

def Charged (meter : σ → ℕ) (x : Program σ ε α) : Prop := ∀ s, meter s < meter (x s).2

section Rules
variable {x : Program σ ε α} {f : α → Program σ ε β} {s : σ}

theorem Charged.within (h : Charged meter x) : Within (Onto meter) x := fun s => Nat.le_of_lt (h s)

theorem Charged.paid (h : Charged meter x) (s : σ) : Paid meter x s where
  onto := h.within s
  thrown := fun hx => hx.state ▸ h s

theorem within_of_paid (h : ∀ s, Paid meter x s) : Within (Onto meter) x := fun s => (h s).onto

theorem paid_of_total (hx : Within (Onto meter) x) (ht : x.Total) (s : σ) : Paid meter x s where
  onto := hx s
  thrown := fun h => absurd h (ht s _ _)

theorem paid_pure (a : α) (s : σ) : Paid meter (pure a : Program σ ε α) s :=
  paid_of_total (within_pure a) (total_pure a) s

theorem charged_bind (hx : Charged meter x) (hf : ∀ a, Within (Onto meter) (f a)) :
    Charged meter (x >>= f) := by
  intro s
  rcases leaves_bind.mp (show (x >>= f).Leaves s _ from rfl) with ⟨e,h⟩ | ⟨a,t,h,hrest⟩
  · exact h.state ▸ hx s
  · have hs : meter s < meter t := h.state ▸ hx s
    exact Nat.lt_of_lt_of_le hs ((hf a).leaves hrest)

theorem paid_bind (hx : Paid meter x s) (hf : ∀ a t, x.Returns s a t → Paid meter (f a) t) :
    Paid meter (x >>= f) s := by
  constructor
  · rcases leaves_bind.mp (show (x >>= f).Leaves s _ from rfl) with ⟨e,h⟩ | ⟨a,t,h,hrest⟩
    · exact h.state ▸ hx.onto
    · have hs : Onto meter s t := h.state ▸ hx.onto
      have ht : Onto meter t ((x >>= f) s).2 := hrest ▸ (hf a t h).onto
      exact Nat.le_trans hs ht
  · intro e u h
    rcases throws_bind.mp h with h | ⟨a,t,h,hrest⟩
    · exact hx.thrown h
    · have hs : Onto meter s t := h.state ▸ hx.onto
      exact Nat.lt_of_le_of_lt hs ((hf a t h).thrown hrest)

theorem paid_get_bind {f : σ → Program σ ε β} (h : Paid meter (f s) s) :
    Paid meter ((get : Program σ ε σ) >>= f) s where
  onto := h.onto
  thrown := fun hx => h.thrown (throws_get_bind.mp hx)

/-- What throws out of a handler has first thrown into it. -/
theorem paid_tryCatch {handler : ε → Program σ ε α} (hx : Paid meter x s)
    (hh : ∀ e, Within (Onto meter) (handler e)) : Paid meter (tryCatch x handler) s := by
  constructor
  · rcases leaves_tryCatch.mp (show (tryCatch x handler).Leaves s _ from rfl) with
      ⟨a,h⟩ | ⟨e,t,h,hrest⟩
    · exact h.state ▸ hx.onto
    · exact Nat.le_of_lt (Nat.lt_of_lt_of_le (hx.thrown h) ((hh e).leaves hrest))
  · intro e u h
    obtain ⟨e',t,h,hrest⟩ := throws_tryCatch.mp h
    exact Nat.lt_of_lt_of_le (hx.thrown h) ((hh e').throws hrest)

theorem paid_ite {c : Prop} [Decidable c] {y : Program σ ε α} (hx : c → Paid meter x s)
    (hy : ¬ c → Paid meter y s) : Paid meter (if c then x else y) s := by
  split
  · rename_i hc
    exact hx hc
  · rename_i hc
    exact hy hc

end Rules

theorem paid_forEach {body : α → Program σ ε Unit} (h : ∀ item s, Paid meter (body item) s)
    (items : List α) (s : σ) : Paid meter (forEach body items) s := by
  induction items generalizing s with
  | nil => exact paid_pure () s
  | cons item rest ih => exact paid_bind (h item s) fun _ t _ => ih t

theorem paid_repeatWhile {going : σ → Bool} {body : Program σ ε Unit}
    (h : ∀ s, Paid meter body s) (turns : ℕ) (s : σ) :
    Paid meter (repeatWhile going body turns) s := by
  induction turns generalizing s with
  | zero => exact paid_pure () s
  | succ turns ih =>
    refine paid_get_bind (paid_ite (fun _ => ?_) fun _ => paid_pure () s)
    exact paid_bind (h s) fun _ t _ => ih t

end PrismRosAdapter.Program
