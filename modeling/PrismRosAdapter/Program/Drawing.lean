import PrismRosAdapter.Program.Loops

/-! # What is made of a supply

A state tells what it has been supplied with so far, and a relation what has been made of
some items between two states. A computation that draws makes something only of what it is
supplied with while it runs, of each item at most once and in the order of the supply.
-/
namespace PrismRosAdapter.Program

/-- A supply and a use of it that is composed item by item. -/
structure Drawing (σ ι : Type) where
  supplied : σ → List ι
  made : List ι → σ → σ → Prop
  made_nil : ∀ s, made [] s s
  made_append : ∀ {a b s t u}, made a s t → made b t u → made (a ++ b) s u

namespace Drawing
variable {σ ε ι α β : Type} (d : Drawing σ ι)

/-- Some of the given items have been used, and nothing has been supplied. -/
def Uses (given : List ι) (s t : σ) : Prop :=
  d.supplied t = d.supplied s ∧ ∃ used, used.Sublist given ∧ d.made used s t

/-- Some of the given items and of those supplied after them have been used. -/
def Draws (given : List ι) (s t : σ) : Prop :=
  ∃ new used, d.supplied t = d.supplied s ++ new ∧ used.Sublist (given ++ new) ∧ d.made used s t

variable {d} {a b given : List ι} {s t u : σ}

theorem Uses.trans (h : d.Uses a s t) (h' : d.Uses b t u) : d.Uses (a ++ b) s u := by
  obtain ⟨hs,first,hfirst,hmade⟩ := h
  obtain ⟨hs',rest,hrest,hmade'⟩ := h'
  exact ⟨hs'.trans hs,first ++ rest,hfirst.append hrest,d.made_append hmade hmade'⟩

theorem Uses.mono (h : d.Uses a s t) (hab : a.Sublist b) : d.Uses b s t := by
  obtain ⟨hs,used,hused,hmade⟩ := h
  exact ⟨hs,used,hused.trans hab,hmade⟩

theorem Uses.draws_after (h : d.Uses a s t) (h' : d.Draws b t u) : d.Draws (a ++ b) s u := by
  obtain ⟨hs,first,hfirst,hmade⟩ := h
  obtain ⟨new,rest,hs',hrest,hmade'⟩ := h'
  refine ⟨new,first ++ rest,by rw [hs',hs],?_,d.made_append hmade hmade'⟩
  rw [List.append_assoc]
  exact hfirst.append hrest

/-- What is supplied first is given to what follows. -/
theorem draws_supply (h : d.supplied t = d.supplied s ++ given) (hmade : d.made [] s t)
    (h' : d.Draws given t u) : d.Draws [] s u := by
  obtain ⟨new,used,hs',hused,hmade'⟩ := h'
  exact ⟨given ++ new,used,by rw [hs',h,List.append_assoc],hused,d.made_append hmade hmade'⟩

instance : Std.Refl (d.Uses []) := ⟨fun s => ⟨rfl,[],List.Sublist.refl _,d.made_nil s⟩⟩
instance : IsTrans σ (d.Uses []) := ⟨fun _ _ _ h h' => h.trans h'⟩

instance : Std.Refl (d.Draws []) :=
  ⟨fun s => ⟨[],[],(List.append_nil _).symm,List.Sublist.refl _,d.made_nil s⟩⟩

instance : IsTrans σ (d.Draws []) where
  trans s t u h h' := by
    obtain ⟨new,used,hs,hused,hmade⟩ := h
    obtain ⟨new',used',hs',hused',hmade'⟩ := h'
    refine ⟨new ++ new',used ++ used',by rw [hs',hs,List.append_assoc],?_,
      d.made_append hmade hmade'⟩
    exact hused.append hused'

/-- Of all that has been supplied, what has been made of it. -/
theorem Draws.total (h : d.Draws [] s t) (hs : d.supplied s = []) :
    ∃ used, used.Sublist (d.supplied t) ∧ d.made used s t := by
  obtain ⟨new,used,ht,hused,hmade⟩ := h
  exact ⟨used,by rwa [ht,hs],hmade⟩

/-! ## Computations -/

variable {x : Program σ ε α} {f : α → Program σ ε β}

theorem within_uses_mono (h : Within (d.Uses a) x) (hab : a.Sublist b) : Within (d.Uses b) x :=
  fun s => (h s).mono hab

theorem within_draws (h : Within (d.Uses a) x) : Within (d.Draws a) x := by
  intro s
  have hdraws := (h s).draws_after (Std.Refl.refl (r := d.Draws []) _)
  rwa [List.append_nil] at hdraws

theorem within_uses_bind (hx : Within (d.Uses a) x) (hf : ∀ r, Within (d.Uses b) (f r)) :
    Within (d.Uses (a ++ b)) (x >>= f) := by
  refine within_of_leaves fun s u h => ?_
  rcases leaves_bind.mp h with ⟨e,h⟩ | ⟨r,t,ht,h⟩
  · exact (hx.throws h).mono (List.sublist_append_left a b)
  · exact (hx.returns ht).trans ((hf r).leaves h)

theorem within_draws_bind (hx : Within (d.Uses a) x) (hf : ∀ r, Within (d.Draws b) (f r)) :
    Within (d.Draws (a ++ b)) (x >>= f) := by
  refine within_of_leaves fun s u h => ?_
  rcases leaves_bind.mp h with ⟨e,h⟩ | ⟨r,t,ht,h⟩
  · exact within_draws (within_uses_mono hx (List.sublist_append_left a b)) |>.throws h
  · exact (hx.returns ht).draws_after ((hf r).leaves h)

/-- Where the items are used at the end, or not at all. -/
theorem within_uses_last (hx : Within (d.Uses []) x) (hf : ∀ r, Within (d.Uses a) (f r)) :
    Within (d.Uses a) (x >>= f) := within_uses_bind hx hf

theorem within_uses_forEach {body : α → Program σ ε Unit} {item : α → ι}
    (h : ∀ value, Within (d.Uses [item value]) (body value)) (values : List α) :
    Within (d.Uses (values.map item)) (forEach body values) := by
  induction values with
  | nil => exact within_pure (R := d.Uses []) ()
  | cons value rest ih => exact within_uses_bind (h value) fun _ => ih

end Drawing
end PrismRosAdapter.Program
