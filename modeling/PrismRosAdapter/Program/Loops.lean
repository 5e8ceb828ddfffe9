import PrismRosAdapter.Program.Exceptional
import Mathlib.Data.List.Basic

/-! # Loops of stateful computations

A loop that throws leaves the state its last turn left and returns nothing it
had gathered.
-/
namespace PrismRosAdapter.Program
variable {σ ε α β : Type}

/-- Runs `body` on the items in order, numbered from `index`, and joins what the
turns return. -/
def collect (body : ℕ → α → Program σ ε (List β)) : ℕ → List α → Program σ ε (List β)
  | _, [] => pure []
  | index, item :: rest => do
    let first ← body index item
    let later ← collect body (index + 1) rest
    return first ++ later

section Collect
variable {body : ℕ → α → Program σ ε (List β)} {index : ℕ}

theorem collect_nil_returns {s t : σ} {out : List β} :
    (collect body index []).Returns s out t ↔ out = [] ∧ t = s := by
  rw [collect,returns_pure]

theorem collect_cons_returns {item : α} {rest : List α} {s u : σ} {out : List β} :
    (collect body index (item :: rest)).Returns s out u ↔
      ∃ first t later, (body index item).Returns s first t ∧
        (collect body (index + 1) rest).Returns t later u ∧ out = first ++ later := by
  simp only [collect, returns_bind, returns_pure]
  constructor
  · rintro ⟨first,t,hf,later,v,hl,rfl,rfl⟩
    exact ⟨first,t,later,hf,hl,rfl⟩
  · rintro ⟨first,t,later,hf,hl,rfl⟩
    exact ⟨first,t,hf,later,u,hl,rfl,rfl⟩

end Collect

/-- Runs `body` on the items in order. -/
def forEach (body : α → Program σ ε Unit) : List α → Program σ ε Unit
  | [] => pure ()
  | item :: rest => do
    body item
    forEach body rest

section ForEach
variable {body : α → Program σ ε Unit}

theorem forEach_nil_returns {s t : σ} : (forEach body []).Returns s () t ↔ t = s := by
  rw [forEach,returns_pure,eq_self_iff_true,true_and]
theorem forEach_nil_throws {s t : σ} {e : ε} : ¬ (forEach body []).Throws s e t := by
  rw [forEach,throws_pure]
  exact not_false

theorem forEach_cons_returns {item : α} {rest : List α} {s u : σ} :
    (forEach body (item :: rest)).Returns s () u ↔
      ∃ t, (body item).Returns s () t ∧ (forEach body rest).Returns t () u := by
  rw [forEach,returns_bind]
  exact ⟨fun ⟨_,t,hb,hr⟩ => ⟨t,hb,hr⟩,fun ⟨t,hb,hr⟩ => ⟨(),t,hb,hr⟩⟩

theorem forEach_cons_throws {item : α} {rest : List α} {s u : σ} {e : ε} :
    (forEach body (item :: rest)).Throws s e u ↔ (body item).Throws s e u ∨
      ∃ t, (body item).Returns s () t ∧ (forEach body rest).Throws t e u := by
  rw [forEach,throws_bind]
  exact or_congr_right ⟨fun ⟨_,t,hb,hr⟩ => ⟨t,hb,hr⟩,fun ⟨t,hb,hr⟩ => ⟨(),t,hb,hr⟩⟩

theorem within_forEach {R : σ → σ → Prop} [Std.Refl R] [IsTrans σ R]
    (h : ∀ item, Within R (body item)) (items : List α) : Within R (forEach body items) := by
  induction items with
  | nil => exact within_pure ()
  | cons item rest ih => exact within_bind (h item) (fun _ => ih)

theorem total_forEach (h : ∀ item, (body item).Total) (items : List α) :
    (forEach body items).Total := by
  induction items with
  | nil => exact total_pure ()
  | cons item rest ih => exact total_bind (h item) (fun _ => ih)

end ForEach

/-- Repeats `body` while `going` holds, for at most `turns` turns. -/
def repeatWhile (going : σ → Bool) (body : Program σ ε Unit) : ℕ → Program σ ε Unit
  | 0 => pure ()
  | turns + 1 => do
    let s ← get
    if going s then
      body
      repeatWhile going body turns
    else pure ()

theorem within_repeatWhile {R : σ → σ → Prop} [Std.Refl R] [IsTrans σ R] {going : σ → Bool}
    {body : Program σ ε Unit} (h : Within R body) (turns : ℕ) :
    Within R (repeatWhile going body turns) := by
  induction turns with
  | zero => exact within_pure ()
  | succ turns ih =>
    refine within_bind within_get (fun s => ?_)
    exact within_ite (within_bind h (fun _ => ih)) (within_pure ())

end PrismRosAdapter.Program
