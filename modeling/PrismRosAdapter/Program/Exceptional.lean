import Mathlib.Logic.Basic
import Mathlib.Order.Defs.Unbundled

/-! # Stateful computations that may throw

A computation reads and writes one state and either returns or throws. What it
wrote before a throw stays written, as for an object whose member function
throws. The relations `Returns` and `Throws` take a computation apart one
statement at a time; `Within` bounds every change a computation can make, on
either exit, by one preorder on states.
-/
namespace PrismRosAdapter

def Program (σ ε α : Type) : Type := σ → Except ε α × σ

namespace Program
variable {σ ε α β : Type}

instance : Monad (Program σ ε) where
  pure a := fun s => (.ok a, s)
  bind x f := fun s =>
    match x s with
    | (.ok a, t) => f a t
    | (.error e, t) => (.error e, t)

/-- The handler starts from the state the throw left behind. -/
instance : MonadExceptOf ε (Program σ ε) where
  throw e := fun s => (.error e, s)
  tryCatch x handler := fun s =>
    match x s with
    | (.ok a, t) => (.ok a, t)
    | (.error e, t) => handler e t

instance : MonadStateOf σ (Program σ ε) where
  get := fun s => (.ok s, s)
  set s := fun _ => (.ok (), s)
  modifyGet f := fun s => (.ok (f s).1, (f s).2)

def Returns (x : Program σ ε α) (s : σ) (a : α) (t : σ) : Prop := x s = (.ok a, t)
def Throws (x : Program σ ε α) (s : σ) (e : ε) (t : σ) : Prop := x s = (.error e, t)

theorem returns_or_throws (x : Program σ ε α) (s : σ) :
    (∃ a, x.Returns s a (x s).2) ∨ ∃ e, x.Throws s e (x s).2 := by
  cases h : x s with
  | mk r t =>
    cases r with
    | ok a => exact Or.inl ⟨a,h⟩
    | error e => exact Or.inr ⟨e,h⟩

theorem Returns.state {x : Program σ ε α} {s t : σ} {a : α} (h : x.Returns s a t) :
    (x s).2 = t := by rw [h]
theorem Throws.state {x : Program σ ε α} {s t : σ} {e : ε} (h : x.Throws s e t) :
    (x s).2 = t := by rw [h]

theorem returns_of_fst {x : Program σ ε α} {s : σ} {a : α} (h : (x s).1 = .ok a) :
    x.Returns s a (x s).2 := Prod.ext h rfl

theorem returns_of_isOk {x : Program σ ε Unit} {s : σ} (h : (x s).1.isOk = true) :
    x.Returns s () (x s).2 := by
  apply returns_of_fst
  cases hx : (x s).1 with
  | ok a => rfl
  | error e =>
    rw [hx] at h
    cases h

@[simp] theorem returns_pure {s t : σ} {a b : α} :
    (pure a : Program σ ε α).Returns s b t ↔ b = a ∧ t = s := by
  simp only [Returns, pure, Prod.mk.injEq, Except.ok.injEq]
  exact and_congr eq_comm eq_comm
@[simp] theorem throws_pure {s t : σ} {a : α} {e : ε} :
    (pure a : Program σ ε α).Throws s e t ↔ False := by
  simp [Throws, pure]

theorem returns_bind {x : Program σ ε α} {f : α → Program σ ε β} {s u : σ} {b : β} :
    (x >>= f).Returns s b u ↔ ∃ a t, x.Returns s a t ∧ (f a).Returns t b u := by
  simp only [Returns, bind]
  cases h : x s with
  | mk r t => cases r <;> simp [and_assoc]

theorem throws_bind {x : Program σ ε α} {f : α → Program σ ε β} {s u : σ} {e : ε} :
    (x >>= f).Throws s e u ↔
      x.Throws s e u ∨ ∃ a t, x.Returns s a t ∧ (f a).Throws t e u := by
  simp only [Throws, Returns, bind]
  cases h : x s with
  | mk r t => cases r <;> simp [and_assoc]

@[simp] theorem returns_throw {s t : σ} {a : α} {e : ε} :
    (throw e : Program σ ε α).Returns s a t ↔ False := by
  simp [Returns, throw, throwThe, MonadExceptOf.throw]
@[simp] theorem throws_throw {s t : σ} {e e' : ε} :
    (throw e : Program σ ε α).Throws s e' t ↔ e' = e ∧ t = s := by
  simp only [Throws, throw, throwThe, MonadExceptOf.throw, Prod.mk.injEq, Except.error.injEq]
  exact and_congr eq_comm eq_comm

theorem returns_tryCatch {x : Program σ ε α} {handler : ε → Program σ ε α} {s u : σ} {a : α} :
    (tryCatch x handler).Returns s a u ↔
      x.Returns s a u ∨ ∃ e t, x.Throws s e t ∧ (handler e).Returns t a u := by
  simp only [Throws, Returns, tryCatch, tryCatchThe, MonadExceptOf.tryCatch]
  cases h : x s with
  | mk r t => cases r <;> simp [and_assoc]

theorem throws_tryCatch {x : Program σ ε α} {handler : ε → Program σ ε α} {s u : σ} {e : ε} :
    (tryCatch x handler).Throws s e u ↔
      ∃ e' t, x.Throws s e' t ∧ (handler e').Throws t e u := by
  simp only [Throws, tryCatch, tryCatchThe, MonadExceptOf.tryCatch]
  cases h : x s with
  | mk r t => cases r <;> simp [and_assoc]

@[simp] theorem returns_get {s t u : σ} :
    (get : Program σ ε σ).Returns s t u ↔ t = s ∧ u = s := by
  simp only [Returns, get, getThe, MonadStateOf.get, Prod.mk.injEq, Except.ok.injEq]
  exact and_congr eq_comm eq_comm
@[simp] theorem throws_get {s t : σ} {e : ε} :
    (get : Program σ ε σ).Throws s e t ↔ False := by
  simp [Throws, get, getThe, MonadStateOf.get]

@[simp] theorem returns_modify {f : σ → σ} {s t : σ} {a : PUnit} :
    (modify f : Program σ ε PUnit).Returns s a t ↔ t = f s := by
  constructor
  · intro h
    exact (congrArg Prod.snd h).symm
  · rintro rfl
    rfl
@[simp] theorem throws_modify {f : σ → σ} {s t : σ} {e : ε} :
    (modify f : Program σ ε PUnit).Throws s e t ↔ False := by
  refine iff_false_intro fun h => ?_
  have hresult : (Except.ok PUnit.unit : Except ε PUnit) = .error e := congrArg Prod.fst h
  cases hresult

theorem returns_get_bind {f : σ → Program σ ε β} {s u : σ} {b : β} :
    ((get : Program σ ε σ) >>= f).Returns s b u ↔ (f s).Returns s b u := Iff.rfl
theorem throws_get_bind {f : σ → Program σ ε β} {s u : σ} {e : ε} :
    ((get : Program σ ε σ) >>= f).Throws s e u ↔ (f s).Throws s e u := Iff.rfl

theorem bind_bind {γ : Type} (x : Program σ ε α) (f : α → Program σ ε β)
    (g : β → Program σ ε γ) : x >>= f >>= g = x >>= fun a => f a >>= g := by
  funext s
  simp only [bind]
  cases x s with
  | mk r t => cases r <;> rfl

/-! What runs first at one state is all that the rest can tell of it. -/

theorem bind_congr_at {x y : Program σ ε α} {s : σ} (h : x s = y s) (f : α → Program σ ε β) :
    (x >>= f) s = (y >>= f) s := by
  simp only [bind]
  rw [h]

theorem bind_of_returns {x : Program σ ε α} {s t : σ} {a : α} (h : x.Returns s a t)
    (f : α → Program σ ε β) : (x >>= f) s = f a t := by
  simp only [bind]
  rw [h]

theorem bind_of_throws {x : Program σ ε α} {s t : σ} {e : ε} (h : x.Throws s e t)
    (f : α → Program σ ε β) : (x >>= f) s = (.error e, t) := by
  simp only [bind]
  rw [h]

theorem tryCatch_congr_at {x y : Program σ ε α} {s : σ} (h : x s = y s)
    (handler : ε → Program σ ε α) : tryCatch x handler s = tryCatch y handler s := by
  simp only [tryCatch, tryCatchThe, MonadExceptOf.tryCatch]
  rw [h]

/-- `x` ends in `u`, whether it returns or throws. -/
def Leaves (x : Program σ ε α) (s u : σ) : Prop := (x s).2 = u

theorem Returns.leaves {x : Program σ ε α} {s u : σ} {a : α} (h : x.Returns s a u) :
    x.Leaves s u := h.state
theorem Throws.leaves {x : Program σ ε α} {s u : σ} {e : ε} (h : x.Throws s e u) :
    x.Leaves s u := h.state

theorem leaves_iff {x : Program σ ε α} {s u : σ} :
    x.Leaves s u ↔ (∃ e, x.Throws s e u) ∨ ∃ a, x.Returns s a u := by
  constructor
  · rintro rfl
    rcases returns_or_throws x s with h | h
    · exact Or.inr h
    · exact Or.inl h
  · rintro (⟨e,h⟩ | ⟨a,h⟩)
    · exact h.leaves
    · exact h.leaves

theorem leaves_bind {x : Program σ ε α} {f : α → Program σ ε β} {s u : σ} :
    (x >>= f).Leaves s u ↔
      (∃ e, x.Throws s e u) ∨ ∃ a t, x.Returns s a t ∧ (f a).Leaves t u := by
  simp only [Leaves, Throws, Returns, bind]
  cases h : x s with
  | mk r t => cases r <;> simp [and_assoc]

theorem leaves_tryCatch {x : Program σ ε α} {handler : ε → Program σ ε α} {s u : σ} :
    (tryCatch x handler).Leaves s u ↔
      (∃ a, x.Returns s a u) ∨ ∃ e t, x.Throws s e t ∧ (handler e).Leaves t u := by
  simp only [Leaves, Throws, Returns, tryCatch, tryCatchThe, MonadExceptOf.tryCatch]
  cases h : x s with
  | mk r t => cases r <;> simp [and_assoc]

@[simp] theorem leaves_throw {s u : σ} {e : ε} :
    (throw e : Program σ ε α).Leaves s u ↔ u = s := eq_comm
@[simp] theorem leaves_pure {s u : σ} {a : α} :
    (pure a : Program σ ε α).Leaves s u ↔ u = s := eq_comm
theorem leaves_get_bind {f : σ → Program σ ε β} {s u : σ} :
    ((get : Program σ ε σ) >>= f).Leaves s u ↔ (f s).Leaves s u := Iff.rfl

/-- Nothing follows an exception. -/
theorem throws_throw_bind {f : α → Program σ ε β} {s t : σ} {e e' : ε} :
    (throw e >>= f).Throws s e' t ↔ e' = e ∧ t = s := by
  simp [throws_bind]
theorem leaves_throw_bind {f : α → Program σ ε β} {s u : σ} {e : ε} :
    (throw e >>= f).Leaves s u ↔ u = s := by
  simp [leaves_bind]

/-- `x` returns from every state. -/
def Total (x : Program σ ε α) : Prop := ∀ s e t, ¬ x.Throws s e t

theorem total_pure (a : α) : (pure a : Program σ ε α).Total := by simp [Total]
theorem total_get : (get : Program σ ε σ).Total := by simp [Total]
theorem total_modify (f : σ → σ) : (modify f : Program σ ε PUnit).Total := by simp [Total]

theorem total_bind {x : Program σ ε α} {f : α → Program σ ε β} (hx : x.Total)
    (hf : ∀ a, (f a).Total) : (x >>= f).Total := by
  intro s e u h
  rcases throws_bind.mp h with h | ⟨a,t,_,h⟩
  · exact hx s e u h
  · exact hf a t e u h

/-- A program that never throws is followed by the rest. -/
theorem Total.leaves_bind {x : Program σ ε α} {f : α → Program σ ε β} {s u : σ} (hx : x.Total) :
    (x >>= f).Leaves s u ↔ ∃ a t, x.Returns s a t ∧ (f a).Leaves t u := by
  rw [Program.leaves_bind]
  exact or_iff_right fun ⟨e,h⟩ => hx s e u h

theorem Total.throws_bind {x : Program σ ε α} {f : α → Program σ ε β} {s u : σ} {e : ε}
    (hx : x.Total) : (x >>= f).Throws s e u ↔ ∃ a t, x.Returns s a t ∧ (f a).Throws t e u := by
  rw [Program.throws_bind]
  exact or_iff_right (hx s e u)

theorem total_ite {c : Prop} [Decidable c] {x y : Program σ ε α} (hx : x.Total) (hy : y.Total) :
    (if c then x else y).Total := by
  split
  · exact hx
  · exact hy

/-- Runs `x` and then `f` on how it ended, whether it returned or threw. -/
def andThen (x : Program σ ε α) (f : Except ε α → σ → σ) : Program σ ε α := fun s =>
  ((x s).1, f (x s).1 (x s).2)

theorem returns_andThen {x : Program σ ε α} {f : Except ε α → σ → σ} {s u : σ} {a : α} :
    (x.andThen f).Returns s a u ↔ ∃ t, x.Returns s a t ∧ u = f (.ok a) t := by
  simp only [Returns, andThen, Prod.mk.injEq]
  constructor
  · rintro ⟨hr,rfl⟩
    exact ⟨(x s).2,Prod.ext hr rfl,by rw [hr]⟩
  · rintro ⟨t,h,rfl⟩
    rw [h]
    exact ⟨rfl,rfl⟩

theorem throws_andThen {x : Program σ ε α} {f : Except ε α → σ → σ} {s u : σ} {e : ε} :
    (x.andThen f).Throws s e u ↔ ∃ t, x.Throws s e t ∧ u = f (.error e) t := by
  simp only [Throws, andThen, Prod.mk.injEq]
  constructor
  · rintro ⟨hr,rfl⟩
    exact ⟨(x s).2,Prod.ext hr rfl,by rw [hr]⟩
  · rintro ⟨t,h,rfl⟩
    rw [h]
    exact ⟨rfl,rfl⟩

/-- Returns or throws what is given. -/
def answer (r : Except ε α) : Program σ ε α := fun s => (r, s)

@[simp] theorem returns_answer {r : Except ε α} {s t : σ} {a : α} :
    (answer r : Program σ ε α).Returns s a t ↔ r = .ok a ∧ t = s := by
  simp only [Returns, answer, Prod.mk.injEq]
  exact and_congr_right fun _ => eq_comm
@[simp] theorem throws_answer {r : Except ε α} {s t : σ} {e : ε} :
    (answer r : Program σ ε α).Throws s e t ↔ r = .error e ∧ t = s := by
  simp only [Throws, answer, Prod.mk.injEq]
  exact and_congr_right fun _ => eq_comm

/-- Both exits of `x` stay within `R` of the state it was entered in. -/
def Within (R : σ → σ → Prop) (x : Program σ ε α) : Prop := ∀ s, R s (x s).2

section Within
variable {R : σ → σ → Prop}

theorem Within.returns {x : Program σ ε α} (h : Within R x) {s t : σ} {a : α}
    (hx : x.Returns s a t) : R s t := hx.state ▸ h s
theorem Within.throws {x : Program σ ε α} (h : Within R x) {s t : σ} {e : ε}
    (hx : x.Throws s e t) : R s t := hx.state ▸ h s

theorem within_pure [Std.Refl R] (a : α) : Within R (pure a : Program σ ε α) :=
  fun s => Std.Refl.refl s
theorem within_throw [Std.Refl R] (e : ε) : Within R (throw e : Program σ ε α) :=
  fun s => Std.Refl.refl s
theorem within_get [Std.Refl R] : Within R (get : Program σ ε σ) := fun s => Std.Refl.refl s
theorem within_modify {f : σ → σ} (h : ∀ s, R s (f s)) :
    Within R (modify f : Program σ ε PUnit) := h

theorem within_answer [Std.Refl R] (r : Except ε α) : Within R (answer r : Program σ ε α) :=
  fun s => Std.Refl.refl s
theorem within_andThen [IsTrans σ R] {x : Program σ ε α} {f : Except ε α → σ → σ}
    (hx : Within R x) (hf : ∀ r s, R s (f r s)) : Within R (x.andThen f) :=
  fun s => IsTrans.trans _ _ _ (hx s) (hf _ _)

theorem within_bind [IsTrans σ R] {x : Program σ ε α} {f : α → Program σ ε β}
    (hx : Within R x) (hf : ∀ a, Within R (f a)) : Within R (x >>= f) := by
  intro s
  have hs := hx s
  simp only [bind]
  cases h : x s with
  | mk r t =>
    rw [h] at hs
    cases r with
    | ok a => exact IsTrans.trans _ _ _ hs (hf a t)
    | error e => exact hs

theorem within_tryCatch [IsTrans σ R] {x : Program σ ε α} {handler : ε → Program σ ε α}
    (hx : Within R x) (hh : ∀ e, Within R (handler e)) : Within R (tryCatch x handler) := by
  intro s
  have hs := hx s
  simp only [tryCatch, tryCatchThe, MonadExceptOf.tryCatch]
  cases h : x s with
  | mk r t =>
    rw [h] at hs
    cases r with
    | ok a => exact hs
    | error e => exact IsTrans.trans _ _ _ hs (hh e t)

theorem within_ite {c : Prop} [Decidable c] {x y : Program σ ε α}
    (hx : Within R x) (hy : Within R y) : Within R (if c then x else y) := by
  split
  · exact hx
  · exact hy

theorem Within.leaves {x : Program σ ε α} (h : Within R x) {s u : σ} (hx : x.Leaves s u) :
    R s u := hx ▸ h s

theorem within_of_leaves {x : Program σ ε α} (h : ∀ s u, x.Leaves s u → R s u) : Within R x :=
  fun s => h s _ rfl

theorem Within.mono {S : σ → σ → Prop} (h : ∀ s t, R s t → S s t) {x : Program σ ε α}
    (hx : Within R x) : Within S x := fun s => h _ _ (hx s)

/-- The exit of `x` that throws stays within `R`. -/
def ThrowsWithin (R : σ → σ → Prop) (x : Program σ ε α) : Prop := ∀ s e t, x.Throws s e t → R s t

theorem Total.throwsWithin {x : Program σ ε α} (h : x.Total) : ThrowsWithin R x :=
  fun s e t hx => absurd hx (h s e t)

theorem Within.throwsWithin {x : Program σ ε α} (h : Within R x) : ThrowsWithin R x :=
  fun _ _ _ hx => h.throws hx

theorem throwsWithin_ite {c : Prop} [Decidable c] {x y : Program σ ε α} (hx : ThrowsWithin R x)
    (hy : ThrowsWithin R y) : ThrowsWithin R (if c then x else y) := by
  split
  · exact hx
  · exact hy

theorem throwsWithin_bind [IsTrans σ R] {x : Program σ ε α} {f : α → Program σ ε β}
    (hx : Within R x) (hf : ∀ a, ThrowsWithin R (f a)) : ThrowsWithin R (x >>= f) := by
  intro s e u h
  rcases throws_bind.mp h with h | ⟨a,t,ht,h⟩
  · exact hx.throws h
  · exact IsTrans.trans _ _ _ (hx.returns ht) (hf a t e u h)

end Within
end Program
end PrismRosAdapter
