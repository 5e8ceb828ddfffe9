import PrismRosAdapter.Program.Runs
import Mathlib.Data.List.Basic

/-! # Switches read off a journal

Some events of a journal say that a switch is on, some that it is off; a switch is as
the last of them says. It alternates when nothing says on of a switch that is on.
-/
namespace PrismRosAdapter.Switching
variable {ε κ : Type*} (word : ε → κ → Option Bool)

/-- The switch `k` after a journal that began with it off. -/
def on (l : List ε) (k : κ) : Bool := l.foldl (fun b e => (word e k).getD b) false

def Alternates (l : List ε) (k : κ) : Prop :=
  ∀ before e after, l = before ++ e :: after → word e k = some true → on word before k = false

variable {word} {l m : List ε} {e : ε} {k : κ}

theorem on_append : on word (l ++ m) k = m.foldl (fun b e => (word e k).getD b) (on word l k) :=
  List.foldl_append

theorem on_snoc : on word (l ++ [e]) k = (word e k).getD (on word l k) := on_append

/-- What says nothing of a switch leaves it as it is. -/
theorem on_append_silent (h : ∀ e ∈ m, word e k = none) : on word (l ++ m) k = on word l k := by
  induction m generalizing l with
  | nil => rw [List.append_nil]
  | cons e rest ih =>
    rw [List.forall_mem_cons] at h
    rw [List.append_cons,ih h.2,on_snoc,h.1,Option.getD_none]

theorem alternates_nil : Alternates word [] k := by
  intro before e after h
  exact absurd h.symm (List.append_ne_nil_of_right_ne_nil _ (List.cons_ne_nil _ _))

theorem alternates_snoc : Alternates word (l ++ [e]) k ↔
    Alternates word l k ∧ (word e k = some true → on word l k = false) :=
  Runs.each_snoc

theorem Alternates.append_falling (hl : Alternates word l k)
    (h : ∀ e ∈ m, word e k ≠ some true) : Alternates word (l ++ m) k := by
  induction m generalizing l with
  | nil => rwa [List.append_nil]
  | cons e rest ih =>
    rw [List.forall_mem_cons] at h
    rw [List.append_cons]
    exact ih (alternates_snoc.mpr ⟨hl,fun hw => absurd hw h.1⟩) h.2

/-! ## Who switches off what another has switched on -/

/-- The last that says anything of the switch. -/
def last (word : ε → κ → Option Bool) (l : List ε) (k : κ) : Option ε :=
  l.foldl (fun r e => if (word e k).isSome then some e else r) none

theorem last_snoc : last word (l ++ [e]) k = if (word e k).isSome then some e else last word l k :=
  List.foldl_append

theorem last_append_silent (h : ∀ e ∈ m, word e k = none) :
    last word (l ++ m) k = last word l k := by
  induction m generalizing l with
  | nil => rw [List.append_nil]
  | cons e rest ih =>
    rw [List.forall_mem_cons] at h
    rw [List.append_cons,ih h.2,last_snoc,h.1]
    rfl

/-- A switch that is on in spite of what says at most off has not been spoken of. -/
theorem on_append_falling (h : ∀ e ∈ m, word e k ≠ some true)
    (hon : on word (l ++ m) k = true) :
    on word l k = true ∧ last word (l ++ m) k = last word l k := by
  induction m generalizing l with
  | nil =>
    rw [List.append_nil] at hon ⊢
    exact ⟨hon,rfl⟩
  | cons e rest ih =>
    rw [List.forall_mem_cons] at h
    rw [List.append_cons] at hon ⊢
    obtain ⟨hl,hlast⟩ := ih h.2 hon
    rw [on_snoc] at hl
    rw [hlast,last_snoc]
    cases hw : word e k with
    | none =>
      rw [hw] at hl
      exact ⟨hl,rfl⟩
    | some b =>
      rw [hw] at hl
      exact absurd (hw.trans (congrArg some hl)) h.1

/-- A switch is on when the last word of it is that it is on. -/
theorem on_eq_last : on word l k = ((last word l k).bind (word · k)).getD false := by
  induction l using List.reverseRecOn with
  | nil => rfl
  | append_singleton l e ih =>
    rw [on_snoc,last_snoc,ih]
    cases h : word e k with
    | none => rfl
    | some b => simp [h]

variable {σ : Type*} {key : ε → σ} {c : σ}

/-- What has switched on a switch that is on has the key `c`. -/
def Current (word : ε → κ → Option Bool) (key : ε → σ) (c : σ) (l : List ε) (k : κ) : Prop :=
  ∀ e, last word l k = some e → word e k = some true → key e = c

/-- What says off of a switch that is on has the key of what has switched it on. -/
def Paired (word : ε → κ → Option Bool) (key : ε → σ) (l : List ε) (k : κ) : Prop :=
  ∀ before e after, l = before ++ e :: after → word e k = some false →
    Current word key (key e) before k

theorem current_of_off (h : on word l k = false) : Current word key c l k := by
  intro e he hw
  rw [on_eq_last,he,Option.bind_some,hw] at h
  exact Bool.noConfusion h

theorem paired_nil : Paired word key [] k := by
  intro before e after h
  exact absurd h.symm (List.append_ne_nil_of_right_ne_nil _ (List.cons_ne_nil _ _))

theorem paired_snoc : Paired word key (l ++ [e]) k ↔
    Paired word key l k ∧ (word e k = some false → Current word key (key e) l k) :=
  Runs.each_snoc

theorem Current.snoc (h : Current word key c l k) (he : key e = c) :
    Current word key c (l ++ [e]) k := by
  intro x hx hw
  rw [last_snoc] at hx
  split at hx
  · exact Option.some.inj hx ▸ he
  · exact h x hx hw

/-- As long as the key stays the same, what is on is switched off by its own. -/
theorem Paired.append (hl : Paired word key l k) (hc : Current word key c l k)
    (h : ∀ e ∈ m, key e = c) : Paired word key (l ++ m) k ∧ Current word key c (l ++ m) k := by
  induction m generalizing l with
  | nil => rw [List.append_nil]; exact ⟨hl,hc⟩
  | cons e rest ih =>
    rw [List.forall_mem_cons] at h
    rw [List.append_cons]
    exact ih (paired_snoc.mpr ⟨hl,fun _ => h.1.symm ▸ hc⟩) (hc.snoc h.1) h.2

theorem Paired.append_silent (hl : Paired word key l k) (h : ∀ e ∈ m, word e k = none) :
    Paired word key (l ++ m) k := by
  induction m generalizing l with
  | nil => rwa [List.append_nil]
  | cons e rest ih =>
    rw [List.forall_mem_cons] at h
    rw [List.append_cons]
    exact ih (paired_snoc.mpr ⟨hl,fun hw => absurd (h.1.symm.trans hw) (by simp)⟩) h.2

/-- Wherever the key changes from one entry to the next, the switch is off. -/
def OffAcross (word : ε → κ → Option Bool) (key : ε → σ) (l : List ε) (k : κ) : Prop :=
  ∀ before e after, l = before ++ e :: after → ∀ x, before.getLast? = some x → key x ≠ key e →
    on word before k = false

/-- The last entry has the key `c`, or the switch is off. -/
def Present (word : ε → κ → Option Bool) (key : ε → σ) (c : σ) (l : List ε) (k : κ) : Prop :=
  (∀ x, l.getLast? = some x → key x = c) ∨ on word l k = false

theorem offAcross_nil : OffAcross word key [] k := by
  intro before e after h
  exact absurd h.symm (List.append_ne_nil_of_right_ne_nil _ (List.cons_ne_nil _ _))

theorem offAcross_snoc : OffAcross word key (l ++ [e]) k ↔ OffAcross word key l k ∧
    ∀ x, l.getLast? = some x → key x ≠ key e → on word l k = false :=
  Runs.each_snoc

theorem OffAcross.append (hl : OffAcross word key l k) (hp : Present word key c l k)
    (h : ∀ e ∈ m, key e = c) : OffAcross word key (l ++ m) k ∧ Present word key c (l ++ m) k := by
  induction m generalizing l with
  | nil => rw [List.append_nil]; exact ⟨hl,hp⟩
  | cons e rest ih =>
    rw [List.forall_mem_cons] at h
    rw [List.append_cons]
    refine ih (offAcross_snoc.mpr ⟨hl,fun x hx hne => ?_⟩) (.inl fun x hx => ?_) h.2
    · exact hp.resolve_left fun hlast => hne ((hlast x hx).trans h.1.symm)
    · rw [List.getLast?_concat] at hx
      exact Option.some.inj hx ▸ h.1

/-- While a switch is off the key may change. -/
theorem OffAcross.append_silent (hl : OffAcross word key l k) (hoff : on word l k = false)
    (h : ∀ e ∈ m, word e k = none) : OffAcross word key (l ++ m) k := by
  induction m generalizing l with
  | nil => rwa [List.append_nil]
  | cons e rest ih =>
    rw [List.forall_mem_cons] at h
    rw [List.append_cons]
    refine ih (offAcross_snoc.mpr ⟨hl,fun _ _ _ => hoff⟩) ?_ h.2
    rw [on_snoc,h.1]
    exact hoff

end PrismRosAdapter.Switching
