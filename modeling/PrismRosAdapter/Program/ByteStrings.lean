import Mathlib.Data.List.Basic
import Mathlib.Tactic.Common

/-! # Strings of bytes and counting loops

A string in the manner of `std::string`: its places are machine words, and one word,
`npos`, is greater than all of them. A loop that counts through places ends because the
place it ends at is a word.
-/
namespace PrismRosAdapter.Strings

/-- No place of a string and not its size either. -/
def npos : UInt64 := 18446744073709551615

/-- Every string the library can hold is shorter than `npos`. -/
structure StdString where
  bytes : List UInt8
  length_lt : bytes.length < npos.toNat

namespace StdString

def size (s : StdString) : UInt64 := .ofNat s.bytes.length

def empty (s : StdString) : Bool := s.bytes.isEmpty

/-- The byte at a place, which has to be before the end. -/
def byteAt (s : StdString) (index : UInt64) : Option UInt8 := s.bytes[index.toNat]?

/-- The first place from `pos` on that holds `c`. -/
def find (s : StdString) (c : UInt8) (pos : UInt64) : UInt64 :=
  match (s.bytes.drop pos.toNat).findIdx? (· == c) with
  | some k => pos + .ofNat k
  | none => npos

/-- What there is from a place on. -/
def tail (s : StdString) (index : UInt64) : List UInt8 := s.bytes.drop index.toNat

end StdString

/-! ## Separators -/

section Separators
variable {α : Type*} [DecidableEq α] {a : α} {l group : List α}

/-- What comes before the first separator and what behind it. -/
theorem split_at_first (h : a ∈ l) :
    l.takeWhile (· ≠ a) ++ a :: (l.dropWhile (· ≠ a)).tail = l := by
  induction l with
  | nil => cases h
  | cons c rest ih =>
    by_cases hc : c = a
    · simp [hc]
    · have hmem : a ∈ rest := (List.mem_cons.mp h).resolve_left (Ne.symm hc)
      simpa [hc] using ih hmem

theorem not_mem_before_first : a ∉ l.takeWhile (· ≠ a) := by
  intro h
  simpa using List.all_eq_true.mp List.all_takeWhile a h

/-- A group without the separator is what comes before it. -/
theorem split_before_first (h : a ∉ group) (rest : List α) :
    (group ++ a :: rest).takeWhile (· ≠ a) = group ∧
      ((group ++ a :: rest).dropWhile (· ≠ a)).tail = rest := by
  have hne : ∀ c ∈ group, decide (c ≠ a) = true := fun c hc =>
    decide_eq_true fun he => h (he ▸ hc)
  rw [List.takeWhile_append_of_pos hne,List.dropWhile_append_of_pos hne]
  simp

end Separators

/-! ## Counting through places -/

/-- Below another word the next one does not wrap. -/
theorem toNat_succ {index stop : UInt64} (h : index.toNat < stop.toNat) :
    (index + 1).toNat = index.toNat + 1 := by
  have hstop := stop.toNat_lt
  rw [UInt64.toNat_add,UInt64.toNat_one]
  omega

/-- `for (index = first; index < stop; ++index)`, where each turn hands on what it carries. -/
def countUp {m : Type → Type} [Monad m] {α : Type} (body : UInt64 → α → m α)
    (index stop : UInt64) (carried : α) : m α :=
  if index < stop then do
    let carried ← body index carried
    countUp body (index + 1) stop carried
  else pure carried
termination_by stop.toNat - index.toNat
decreasing_by
  have hlt := UInt64.lt_iff_toNat_lt.mp ‹index < stop›
  rw [toNat_succ hlt]
  omega

section Counting
variable {m : Type → Type} [Monad m] {α : Type} {body : UInt64 → α → m α} {index stop : UInt64}
  {carried : α}

theorem countUp_done (h : stop ≤ index) : countUp body index stop carried = pure carried := by
  rw [countUp,if_neg (UInt64.not_lt.mpr h)]

theorem countUp_next (h : index < stop) : countUp body index stop carried =
    body index carried >>= countUp body (index + 1) stop := by
  rw [countUp,if_pos h]

end Counting

/-! ## Places -/

namespace StdString
variable {s : StdString} {index pos : UInt64} {c : UInt8} {front rest : List UInt8}

theorem size_toNat : s.size.toNat = s.bytes.length :=
  UInt64.toNat_ofNat_of_lt' (Nat.lt_trans s.length_lt (by decide))

theorem length_tail : (s.tail index).length = s.bytes.length - index.toNat := List.length_drop

/-- A part of a string is as long as a word says. -/
theorem toNat_length (h : s.tail index = front ++ rest) :
    (UInt64.ofNat front.length).toNat = front.length := by
  have hfits := s.length_lt
  have hnpos : npos.toNat = 2 ^ 64 - 1 := rfl
  have hlength := congrArg List.length h
  rw [length_tail,List.length_append] at hlength
  rw [UInt64.toNat_ofNat']
  omega

/-- No place up to the end wraps. -/
theorem toNat_add (h : s.tail index = front ++ rest) :
    (index + .ofNat front.length).toNat = index.toNat + front.length := by
  have hfits := s.length_lt
  have hindex := index.toNat_lt
  have hnpos : npos.toNat = 2 ^ 64 - 1 := rfl
  have hlength := congrArg List.length h
  rw [length_tail,List.length_append] at hlength
  rw [UInt64.toNat_add,toNat_length h]
  omega

/-- Behind a front part the tail is the rest. -/
theorem tail_add (h : s.tail index = front ++ rest) :
    s.tail (index + .ofNat front.length) = rest := by
  rw [tail,toNat_add h,← List.drop_drop]
  exact (congrArg (List.drop front.length) h).trans List.drop_left

/-- The place behind one in the string is still no further than the end. -/
theorem tail_next (h : s.tail index = c :: rest) :
    s.tail (index + 1) = rest ∧ (index + 1).toNat ≤ s.bytes.length := by
  have hsplit : s.tail index = [c] ++ rest := h
  have hplace : (index + 1).toNat = index.toNat + 1 := toNat_add hsplit
  have hlength := congrArg List.length h
  rw [length_tail,List.length_cons] at hlength
  exact ⟨tail_add hsplit,by omega⟩

/-- How much is left from a place on. -/
theorem size_sub (h : index.toNat ≤ s.bytes.length) :
    s.size - index = .ofNat (s.tail index).length := by
  have hfits := s.length_lt
  have hnpos : npos.toNat = 2 ^ 64 - 1 := rfl
  have hle : index ≤ s.size := UInt64.le_iff_toNat_le.mpr (by rwa [size_toNat])
  rw [← UInt64.toNat_inj,UInt64.toNat_sub_of_le _ _ hle,size_toNat,length_tail,UInt64.toNat_ofNat']
  omega

theorem byteAt_of_tail (h : s.tail index = c :: rest) : s.byteAt index = some c := by
  have hhead := congrArg List.head? h
  rwa [tail,List.head?_drop] at hhead

theorem findIdx?_of_not_mem (h : c ∉ front) : front.findIdx? (· == c) = none :=
  List.findIdx?_eq_none_iff.mpr fun _ hb => beq_eq_false_iff_ne.mpr fun he => h (he ▸ hb)

theorem find_of_not_mem (h : c ∉ s.tail pos) : s.find c pos = npos := by
  have hnone : (s.bytes.drop pos.toNat).findIdx? (· == c) = none := findIdx?_of_not_mem h
  rw [find,hnone]

theorem find_of_append (h : s.tail pos = front ++ c :: rest) (hc : c ∉ front) :
    s.find c pos = pos + .ofNat front.length := by
  have hsome : (s.bytes.drop pos.toNat).findIdx? (· == c) = some front.length := by
    change (s.tail pos).findIdx? (· == c) = some front.length
    rw [h,List.findIdx?_append,findIdx?_of_not_mem hc,List.findIdx?_cons,
      if_pos (beq_self_eq_true c)]
    simp
  rw [find,hsome]

theorem find_ne_npos (h : s.tail pos = front ++ c :: rest) (hc : c ∉ front) :
    s.find c pos ≠ npos := by
  have hlength := congrArg List.length h
  rw [length_tail,List.length_append,List.length_cons] at hlength
  have hfits := s.length_lt
  intro he
  rw [find_of_append h hc] at he
  have hplace := toNat_add h
  rw [he] at hplace
  omega

/-- A loop over the places of a group of bytes goes through the group. -/
theorem countUp_bytes {m : Type → Type} [Monad m] {α : Type} {body : UInt64 → α → m α}
    {turn : α → UInt8 → m α} (hbody : ∀ i a b, s.byteAt i = some b → body i a = turn a b)
    {group : List UInt8} (h : s.tail index = group ++ rest) :
    countUp body index (index + .ofNat group.length) = group.foldlM turn := by
  induction group generalizing index with
  | nil =>
    funext carried
    exact countUp_done (UInt64.le_of_eq (UInt64.add_zero index))
  | cons b group ih =>
    have htail : s.tail (index + 1) = group ++ rest := (tail_next h).1
    have hstop : index + .ofNat (b :: group).length = index + 1 + .ofNat group.length := by
      rw [List.length_cons,Nat.add_comm,UInt64.ofNat_add,← UInt64.add_assoc]
      rfl
    have hlt : index < index + .ofNat (b :: group).length := by
      rw [UInt64.lt_iff_toNat_lt,toNat_add h,List.length_cons]
      omega
    funext carried
    rw [countUp_next hlt,hbody _ _ _ (byteAt_of_tail h),hstop,ih htail]
    rfl

end StdString
end PrismRosAdapter.Strings
