import Mathlib.Algebra.Order.Ring.Nat
import Mathlib.Data.List.Basic
import Mathlib.Tactic.Ring

/-! # Bytes in memory

Words little-endian, copies into a list of bytes, and what is read back from it, also
where the list is a row of equally long blocks.
-/
namespace PrismRosAdapter.Bytes

/-- The `width` bytes of `n`, the least first. -/
def littleEndian : ℕ → ℕ → List UInt8
  | 0, _ => []
  | width + 1, n => UInt8.ofNat (n % 256) :: littleEndian width (n / 256)

def ofLittleEndian : List UInt8 → ℕ
  | [] => 0
  | b :: bs => b.toNat + 256 * ofLittleEndian bs

/-- Copies `bytes` to the place `at` and those behind it. -/
def store (data : List UInt8) (address : ℕ) : List UInt8 → List UInt8
  | [] => data
  | b :: bs => store (data.set address b) (address + 1) bs

def load (data : List UInt8) (address width : ℕ) : List UInt8 := (data.drop address).take width

section Words

@[simp] theorem length_littleEndian (width n : ℕ) : (littleEndian width n).length = width := by
  induction width generalizing n with
  | zero => rfl
  | succ width ih => rw [littleEndian,List.length_cons,ih]

theorem ofLittleEndian_littleEndian {width n : ℕ} (h : n < 256 ^ width) :
    ofLittleEndian (littleEndian width n) = n := by
  induction width generalizing n with
  | zero =>
    rw [pow_zero,Nat.lt_one_iff] at h
    rw [littleEndian,ofLittleEndian,h]
  | succ width ih =>
    have hdiv : n / 256 < 256 ^ width := by
      rw [Nat.div_lt_iff_lt_mul (by decide)]
      rwa [pow_succ] at h
    have hmod : (UInt8.ofNat (n % 256)).toNat = n % 256 := by
      rw [UInt8.toNat_ofNat']
      omega
    rw [littleEndian,ofLittleEndian,ih hdiv,hmod]
    exact Nat.mod_add_div n 256

end Words

section Memory
variable {data before block after bytes : List UInt8} {address width : ℕ}

@[simp] theorem length_store : (store data address bytes).length = data.length := by
  induction bytes generalizing data address with
  | nil => rfl
  | cons b bs ih => rw [store,ih,List.length_set]

/-- A copy within a block leaves what is around it. -/
theorem store_block (h : address + bytes.length ≤ block.length) :
    store (before ++ block ++ after) (before.length + address) bytes =
      before ++ store block address bytes ++ after := by
  induction bytes generalizing block address with
  | nil => rfl
  | cons b bs ih =>
    rw [List.length_cons] at h
    have hset : (before ++ block ++ after).set (before.length + address) b =
        before ++ block.set address b ++ after := by
      rw [List.append_assoc,List.append_assoc,List.set_append_right _ _ (by omega),
        Nat.add_sub_cancel_left,List.set_append_left _ _ (by omega)]
    rw [store,store,hset,Nat.add_assoc,ih (by rw [List.length_set]; omega)]

/-- What is read within a block does not depend on what is around it. -/
theorem load_block (h : address + width ≤ block.length) :
    load (before ++ block ++ after) (before.length + address) width =
      load block address width := by
  unfold load
  rw [List.append_assoc,← List.drop_drop,List.drop_left,List.drop_append_of_le_length (by omega),
    List.take_append_of_le_length (by rw [List.length_drop]; omega)]

end Memory

section Blocks
variable {blocks : List (List UInt8)} {length : ℕ}

theorem length_flatten_of_forall (h : ∀ b ∈ blocks, b.length = length) :
    blocks.flatten.length = blocks.length * length := by
  induction blocks with
  | nil => simp
  | cons b rest ih =>
    obtain ⟨hb,hrest⟩ := List.forall_mem_cons.mp h
    rw [List.flatten_cons,List.length_append,hb,ih hrest,List.length_cons,Nat.succ_mul,
      Nat.add_comm]

/-- The row of blocks around one of them. -/
theorem flatten_split (h : ∀ b ∈ blocks, b.length = length) {i : ℕ} {block : List UInt8}
    (hi : blocks[i]? = some block) : ∃ before after,
      blocks.flatten = before ++ block ++ after ∧ before.length = i * length := by
  obtain ⟨hlt,hget⟩ := List.getElem?_eq_some_iff.mp hi
  refine ⟨(blocks.take i).flatten,(blocks.drop (i + 1)).flatten,?_,?_⟩
  · calc
      blocks.flatten = (blocks.take i ++ blocks[i] :: blocks.drop (i + 1)).flatten := by
        rw [← List.drop_eq_getElem_cons hlt,List.take_append_drop]
      _ = (blocks.take i).flatten ++ block ++ (blocks.drop (i + 1)).flatten := by
        rw [hget,List.flatten_append,List.flatten_cons,List.append_assoc]
  · rw [length_flatten_of_forall fun b hb => h b (List.mem_of_mem_take hb),List.length_take]
    rw [Nat.min_eq_left hlt.le]

/-- What is read within one block of the row. -/
theorem load_flatten (h : ∀ b ∈ blocks, b.length = length) {i : ℕ} {block : List UInt8}
    (hi : blocks[i]? = some block) {address width : ℕ} (hwidth : address + width ≤ length) :
    load blocks.flatten (i * length + address) width = load block address width := by
  obtain ⟨before,after,heq,hbefore⟩ := flatten_split h hi
  rw [heq,← hbefore]
  exact load_block (by rw [h block (List.mem_of_getElem? hi)]; exact hwidth)

/-- Each place of the row is a place of one of its blocks. -/
theorem getElem?_flatten (h : ∀ b ∈ blocks, b.length = length) {k : ℕ} {b : UInt8}
    (hk : blocks.flatten[k]? = some b) :
    ∃ block ∈ blocks, block[k % length]? = some b := by
  have hlt := (List.getElem?_eq_some_iff.mp hk).1
  rw [length_flatten_of_forall h] at hlt
  have hpositive : 0 < length := by
    rcases Nat.eq_zero_or_pos length with rfl | hpos
    · simp at hlt
    · exact hpos
  have hi : k / length < blocks.length := (Nat.div_lt_iff_lt_mul hpositive).mpr hlt
  obtain ⟨block,hget⟩ : ∃ block, blocks[k / length]? = some block :=
    ⟨_,List.getElem?_eq_getElem hi⟩
  have hmem := List.mem_of_getElem? hget
  obtain ⟨before,after,heq,hbefore⟩ := flatten_split h hget
  have hmod := Nat.mod_lt k hpositive
  have hblock := h block hmem
  have hplace : k - before.length = k % length := by
    rw [hbefore]
    exact Nat.sub_eq_of_eq_add (Nat.mod_add_div' k length).symm
  have hle : before.length ≤ k := by
    rw [hbefore]
    exact Nat.div_mul_le_self k length
  rw [heq,List.append_assoc,List.getElem?_append_right hle,hplace,
    List.getElem?_append_left (by omega)] at hk
  exact ⟨block,hmem,hk⟩

end Blocks
end PrismRosAdapter.Bytes
