import Mathlib.Data.List.Infix
import Mathlib.Order.Defs.Unbundled

/-! # Runs of a deterministic step function

A run feeds a list of inputs to `step`. What one step preserves, every run
preserves; and when one step from a good state is good exactly under a condition
on that step, a run passes through good states only exactly when each of its
steps meets the condition.
-/
namespace PrismRosAdapter.Runs
variable {σ ι : Type*} (step : σ → ι → σ)

def run (s : σ) (inputs : List ι) : σ := inputs.foldl step s

@[simp] theorem run_nil (s : σ) : run step s [] = s := rfl
@[simp] theorem run_cons (s : σ) (i : ι) (inputs : List ι) :
    run step s (i :: inputs) = run step (step s i) inputs := rfl
theorem run_append (s : σ) (first rest : List ι) :
    run step s (first ++ rest) = run step (run step s first) rest := List.foldl_append
theorem run_snoc (s : σ) (inputs : List ι) (i : ι) :
    run step s (inputs ++ [i]) = step (run step s inputs) i := by
  rw [run_append]
  rfl

/-- Some inputs lead from `s` to `t`. -/
def Reaches (s t : σ) : Prop := ∃ inputs, run step s inputs = t

instance : Std.Refl (Reaches step) := ⟨fun _ => ⟨[],rfl⟩⟩
instance : IsTrans σ (Reaches step) := ⟨fun _ _ _ ⟨first,hf⟩ ⟨rest,hr⟩ =>
  ⟨first ++ rest,by rw [run_append,hf,hr]⟩⟩

/-- What relates the two ends of each step relates the two ends of a run. -/
theorem run_within {R : σ → σ → Prop} [Std.Refl R] [IsTrans σ R] (h : ∀ s i, R s (step s i))
    (s : σ) (inputs : List ι) : R s (run step s inputs) := by
  induction inputs generalizing s with
  | nil => exact Std.Refl.refl s
  | cons i rest ih => exact IsTrans.trans _ _ _ (h s i) (ih (step s i))

/-- Every state the run passes through, its two ends included, satisfies `P`. -/
def Always (P : σ → Prop) (s : σ) (inputs : List ι) : Prop :=
  ∀ first, first <+: inputs → P (run step s first)

/-- Every step of the run satisfies `P` at the state it starts from. -/
def EachStep (P : σ → ι → Prop) (s : σ) (inputs : List ι) : Prop :=
  ∀ first i, first ++ [i] <+: inputs → P (run step s first) i

theorem always_nil {P : σ → Prop} {s : σ} : Always step P s [] ↔ P s := by
  constructor
  · exact fun h => h [] (List.prefix_refl [])
  · intro h first hf
    rw [List.prefix_nil.mp hf]
    exact h

theorem always_cons {P : σ → Prop} {s : σ} {i : ι} {inputs : List ι} :
    Always step P s (i :: inputs) ↔ P s ∧ Always step P (step s i) inputs := by
  constructor
  · intro h
    refine ⟨h [] (List.nil_prefix),?_⟩
    intro first hf
    exact h (i :: first) (List.cons_prefix_cons.mpr ⟨rfl,hf⟩)
  · rintro ⟨h0,h⟩ first hf
    cases first with
    | nil => exact h0
    | cons j first =>
      obtain ⟨rfl,hr⟩ := List.cons_prefix_cons.mp hf
      exact h first hr

theorem eachStep_nil {P : σ → ι → Prop} {s : σ} : EachStep step P s [] := by
  intro first i hf
  simp at hf

theorem eachStep_cons {P : σ → ι → Prop} {s : σ} {i : ι} {inputs : List ι} :
    EachStep step P s (i :: inputs) ↔ P s i ∧ EachStep step P (step s i) inputs := by
  constructor
  · intro h
    refine ⟨h [] i (List.cons_prefix_cons.mpr ⟨rfl,List.nil_prefix⟩),?_⟩
    intro first j hf
    exact h (i :: first) j (List.cons_prefix_cons.mpr ⟨rfl,hf⟩)
  · rintro ⟨h0,h⟩ first j hf
    cases first with
    | nil =>
      obtain ⟨rfl,_⟩ := List.cons_prefix_cons.mp hf
      exact h0
    | cons k first =>
      obtain ⟨rfl,hr⟩ := List.cons_prefix_cons.mp hf
      exact h first j hr

instance decidableEachStep {P : σ → ι → Prop} [∀ s i, Decidable (P s i)] :
    ∀ (s : σ) (inputs : List ι), Decidable (EachStep step P s inputs)
  | _, [] => .isTrue (eachStep_nil step)
  | s, i :: inputs =>
    have := decidableEachStep (P := P) (step s i) inputs
    decidable_of_iff (P s i ∧ EachStep step P (step s i) inputs) (eachStep_cons step).symm

section Invariant
variable {P : σ → Prop} {H C : σ → ι → Prop}

/-- What each step preserves under the standing assumption `H` on steps holds
all along the run. -/
theorem always_of_step (hstep : ∀ s i, H s i → P s → P (step s i)) {s : σ} (h : P s)
    {inputs : List ι} (hH : EachStep step H s inputs) : Always step P s inputs := by
  induction inputs generalizing s with
  | nil => exact (always_nil step).mpr h
  | cons i inputs ih =>
    obtain ⟨hi,hr⟩ := (eachStep_cons step).mp hH
    exact (always_cons step).mpr ⟨h,ih (hstep s i hi h) hr⟩

/-- A step condition that is exact from good states is exact for whole runs. -/
theorem always_iff_eachStep (hstep : ∀ s i, H s i → P s → (P (step s i) ↔ C s i)) {s : σ}
    (h : P s) {inputs : List ι} (hH : EachStep step H s inputs) :
    Always step P s inputs ↔ EachStep step C s inputs := by
  induction inputs generalizing s with
  | nil => exact ⟨fun _ => eachStep_nil step, fun _ => (always_nil step).mpr h⟩
  | cons i inputs ih =>
    obtain ⟨hi,hH⟩ := (eachStep_cons step).mp hH
    rw [always_cons,eachStep_cons]
    constructor
    · rintro ⟨_,hr⟩
      have hp : P (step s i) := hr [] List.nil_prefix
      exact ⟨(hstep s i hi h).mp hp,(ih hp hH).mp hr⟩
    · rintro ⟨hc,hr⟩
      exact ⟨h,(ih ((hstep s i hi h).mpr hc) hH).mpr hr⟩

theorem Always.eachStep {s : σ} {inputs : List ι} (h : Always step P s inputs) :
    EachStep step (fun t _ => P t) s inputs :=
  fun first _ hf => h first ((List.prefix_append first _).trans hf)

theorem Always.last {s : σ} {inputs : List ι} (h : Always step P s inputs) :
    P (run step s inputs) := h inputs (List.prefix_refl inputs)

theorem Always.mono {Q : σ → Prop} (h : ∀ s, P s → Q s) {s : σ} {inputs : List ι}
    (hp : Always step P s inputs) : Always step Q s inputs := fun first hf => h _ (hp first hf)

end Invariant
/-! ## One input more -/

section Snoc
variable {l : List ι} {a : ι}

theorem snoc_split {before after : List ι} {b : ι} :
    l ++ [a] = before ++ b :: after ↔
      (after = [] ∧ before = l ∧ b = a) ∨
        ∃ rest, after = rest ++ [a] ∧ l = before ++ b :: rest := by
  constructor
  · intro he
    rcases List.eq_nil_or_concat after with rfl | ⟨rest,c,rfl⟩
    · obtain ⟨rfl,hb⟩ := List.append_inj' he rfl
      exact .inl ⟨rfl,rfl,(List.cons.inj hb).1.symm⟩
    · rw [List.concat_eq_append,← List.cons_append,← List.append_assoc] at he
      obtain ⟨rfl,hc⟩ := List.append_inj' he rfl
      obtain rfl := (List.cons.inj hc).1
      exact .inr ⟨rest,List.concat_eq_append ..,rfl⟩
  · rintro (⟨rfl,rfl,rfl⟩ | ⟨rest,rfl,rfl⟩)
    · rfl
    · rw [List.append_assoc,List.cons_append]

/-- What holds of each entry and those before it, of one entry more. -/
theorem each_snoc {P : List ι → ι → Prop} :
    (∀ before b after, l ++ [a] = before ++ b :: after → P before b) ↔
      (∀ before b after, l = before ++ b :: after → P before b) ∧ P l a := by
  constructor
  · intro h
    exact ⟨fun before b after he => h before b (after ++ [a]) (by simp [he]),h l a [] rfl⟩
  · rintro ⟨h,ha⟩ before b after he
    rcases snoc_split.mp he with ⟨rfl,rfl,rfl⟩ | ⟨rest,-,he⟩
    · exact ha
    · exact h before b rest he

end Snoc

end PrismRosAdapter.Runs
