import PrismRosAdapter.Driver.LidarNetwork
import PrismRosAdapter.Program.ByteStrings
import Mathlib.Data.Nat.Digits.Defs

/-! # The check of an IPv4 address

The scanner of the source counts through the places of a string and leaves at the first
thing that is wrong. It answers what the check of the list of bytes answers, and that
holds of dotted quads alone.
-/
namespace PrismRosAdapter.Driver
open Program Strings

/-! ## Dotted quads -/

/-- One to three ASCII digits that stand for at most 255. -/
structure Octet (group : List UInt8) : Prop where
  nonempty : 1 ≤ group.length
  short : group.length ≤ 3
  digits : ∀ c ∈ group, 48 ≤ c ∧ c ≤ 57
  value : Nat.ofDigits 10 (group.reverse.map fun c => c.toNat - 48) ≤ 255

/-- Octets with a single dot between one and the next. -/
def Dotted (octets : ℕ) (text : List UInt8) : Prop :=
  ∃ groups : List (List UInt8), groups.length = octets ∧ (∀ group ∈ groups, Octet group) ∧
    text = [dot].intercalate groups

section
variable {group rest text : List UInt8}

theorem octetValue_eq (group : List UInt8) :
    octetValue group = Nat.ofDigits 10 (group.reverse.map fun c => c.toNat - 48) := by
  rw [Nat.ofDigits_eq_foldr,List.foldr_map,List.foldr_reverse,octetValue]
  congr 1
  funext number c
  simp
  omega

theorem isOctet_iff : isOctet group = true ↔ Octet group := by
  unfold isOctet
  rw [octetValue_eq]
  simp only [Bool.and_eq_true,decide_eq_true_iff,List.all_eq_true,isDigit]
  constructor
  · rintro ⟨⟨⟨hne,hshort⟩,hdigits⟩,hvalue⟩
    exact ⟨Nat.one_le_iff_ne_zero.mpr hne,hshort,hdigits,hvalue⟩
  · rintro ⟨hne,hshort,hdigits,hvalue⟩
    exact ⟨⟨⟨Nat.one_le_iff_ne_zero.mp hne,hshort⟩,hdigits⟩,hvalue⟩

theorem Octet.no_dot (h : Octet group) : dot ∉ group :=
  fun hmem => absurd (h.digits dot hmem).1 (by decide)

theorem dotted_one : Dotted 1 text ↔ Octet text := by
  constructor
  · rintro ⟨groups,hlength,hall,rfl⟩
    obtain ⟨group,rfl⟩ := List.length_eq_one_iff.mp hlength
    rw [List.intercalate_singleton]
    exact hall group List.mem_cons_self
  · intro h
    exact ⟨[text],rfl,by simpa using h,List.intercalate_singleton.symm⟩

theorem dotted_more {more : ℕ} : Dotted (more + 2) text ↔
    ∃ group rest, Octet group ∧ Dotted (more + 1) rest ∧ text = group ++ dot :: rest := by
  constructor
  · rintro ⟨groups,hlength,hall,rfl⟩
    obtain ⟨group,groups,rfl⟩ := List.exists_cons_of_length_eq_add_one hlength
    rw [List.forall_mem_cons] at hall
    have hlength' : groups.length = more + 1 := Nat.succ.inj hlength
    have hne : groups ≠ [] := List.ne_nil_of_length_eq_add_one hlength'
    exact ⟨group,_,hall.1,⟨groups,hlength',hall.2,rfl⟩,by
      rw [List.intercalate_cons_of_ne_nil hne]
      simp⟩
  · rintro ⟨group,rest,hgroup,⟨groups,hlength,hall,rfl⟩,rfl⟩
    have hne : groups ≠ [] := List.ne_nil_of_length_eq_add_one hlength
    refine ⟨group :: groups,by rw [List.length_cons,hlength],?_,?_⟩
    · exact List.forall_mem_cons.mpr ⟨hgroup,hall⟩
    · rw [List.intercalate_cons_of_ne_nil hne]
      simp

theorem octetsValid_zero : octetsValid 0 text = true ↔ Octet text := by
  rw [octetsValid,Bool.and_eq_true,isOctet_iff]
  constructor
  · exact And.right
  · intro h
    exact ⟨by simpa using h.no_dot,h⟩

theorem octetsValid_more {more : ℕ} : octetsValid (more + 1) text = true ↔
    ∃ group rest, Octet group ∧ octetsValid more rest = true ∧ text = group ++ dot :: rest := by
  rw [octetsValid,Bool.and_eq_true,Bool.and_eq_true,isOctet_iff,List.contains_iff_mem]
  constructor
  · rintro ⟨⟨hdot,hgroup⟩,hrest⟩
    exact ⟨_,_,hgroup,hrest,(split_at_first hdot).symm⟩
  · rintro ⟨group,rest,hgroup,hrest,rfl⟩
    obtain ⟨htake,hdrop⟩ := split_before_first hgroup.no_dot rest
    rw [htake,hdrop]
    exact ⟨⟨by simp,hgroup⟩,hrest⟩

theorem octetsValid_iff {more : ℕ} : octetsValid more text = true ↔ Dotted (more + 1) text := by
  induction more generalizing text with
  | zero => rw [octetsValid_zero,dotted_one]
  | succ more ih =>
    rw [octetsValid_more,dotted_more]
    simp only [ih]

/-- The check of the list of bytes holds of dotted quads alone. -/
theorem valid_iff : isValidIpv4 text = true ↔ Dotted 4 text := by
  rw [isValidIpv4,Bool.and_eq_true,octetsValid_iff]
  refine ⟨And.right,fun h => ⟨?_,h⟩⟩
  obtain ⟨group,rest,-,-,rfl⟩ := dotted_more.mp h
  simp

end

/-! ## The scanner -/

namespace Ipv4Scan

/-- What ends the scan before its last line. -/
inductive Ending where
  | returned (answer : Bool)
  /-- A read at a place that is not in the string. -/
  | outside (index : UInt64)
  deriving DecidableEq, Repr

abbrev Scanning := Except Ending

def read (value : StdString) (index : UInt64) : Scanning UInt8 :=
  match value.byteAt index with
  | some character => return character
  | none => throw (.outside index)

def addDigit (number : UInt32) (character : UInt8) : Scanning UInt32 :=
  if ¬ isDigit character then throw (.returned false)
  else return number * 10 + (character.toUInt32 - 48)

def readDigit (value : StdString) (index : UInt64) (number : UInt32) : Scanning UInt32 := do
  let character ← read value index
  addDigit number character

/-- The group of `length` bytes from `begin` on. -/
def readOctet (value : StdString) (begin length : UInt64) : Scanning Unit :=
  if length = 0 ∨ length > 3 then throw (.returned false)
  else do
    let number ← countUp (readDigit value) begin (begin + length) 0
    if number > 255 then throw (.returned false)

/-- One turn of the outer loop, which hands on where the next one begins. -/
def scanOctet (value : StdString) (octet begin : UInt64) : Scanning UInt64 :=
  let «end» := value.find dot begin
  if (octet < 3 ∧ «end» = npos) ∨ (octet = 3 ∧ «end» ≠ npos) then throw (.returned false)
  else do
    let length := (if «end» = npos then value.size else «end») - begin
    readOctet value begin length
    return if «end» = npos then value.size else «end» + 1

def scan (value : StdString) : Scanning Bool :=
  if value.empty then throw (.returned false)
  else do
    let begin ← countUp (scanOctet value) 0 4 0
    return begin == value.size

/-- The source's function: how it ends. -/
def isValidIpv4 (value : StdString) : Ending :=
  match scan value with
  | .ok answer => .returned answer
  | .error ending => ending

section
variable {value : StdString} {begin : UInt64} {group rest : List UInt8}

theorem isDigit_iff {c : UInt8} : isDigit c = true ↔ 48 ≤ c.toNat ∧ c.toNat ≤ 57 := by
  rw [isDigit,decide_eq_true_iff,UInt8.le_iff_toNat_le,UInt8.le_iff_toNat_le]
  exact Iff.rfl

/-- A digit is added to a number, or the scan is over. -/
theorem addDigit_ofNat (n : ℕ) (c : UInt8) : addDigit (.ofNat n) c =
    if isDigit c then return .ofNat (n * 10 + (c.toNat - 48)) else throw (.returned false) := by
  unfold addDigit
  by_cases hc : isDigit c = true
  · have hdigit : c.toUInt32 - 48 = .ofNat (c.toNat - 48) := by
      have hbounds := isDigit_iff.mp hc
      have hle : (48 : UInt32) ≤ c.toUInt32 := by
        rw [UInt32.le_iff_toNat_le,UInt8.toNat_toUInt32]
        exact hbounds.1
      rw [← UInt32.toNat_inj,UInt32.toNat_sub_of_le _ _ hle,UInt8.toNat_toUInt32,
        UInt32.toNat_ofNat']
      have h48 : (48 : UInt32).toNat = 48 := rfl
      omega
    rw [if_neg (not_not.mpr hc),if_pos hc,hdigit,UInt32.ofNat_add,UInt32.ofNat_mul]
    rfl
  · rw [if_pos hc,if_neg hc]

theorem addDigits (n : ℕ) (group : List UInt8) : group.foldlM addDigit (.ofNat n) =
    if group.all isDigit then
      return .ofNat (group.foldl (fun number c => number * 10 + (c.toNat - 48)) n)
    else throw (.returned false) := by
  induction group generalizing n with
  | nil => rfl
  | cons c group ih =>
    rw [List.foldlM_cons,addDigit_ofNat,List.all_cons]
    cases isDigit c with
    | true => exact ih _
    | false => rfl

theorem octetValue_lt (h : group.all isDigit = true) : octetValue group < 10 ^ group.length := by
  rw [octetValue_eq]
  have hlt := Nat.ofDigits_lt_base_pow_length (b := 10)
    (l := group.reverse.map fun c => c.toNat - 48) (by decide) ?_
  · simpa using hlt
  · intro d hd
    obtain ⟨c,hc,rfl⟩ := List.mem_map.mp hd
    have hbounds := isDigit_iff.mp (List.all_eq_true.mp h c (List.mem_reverse.mp hc))
    omega

theorem readDigit_of_byteAt {index : UInt64} {number : UInt32} {c : UInt8}
    (h : value.byteAt index = some c) : readDigit value index number = addDigit number c := by
  rw [readDigit,read,h]
  rfl

theorem readDigits_eq (h : value.tail begin = group ++ rest) :
    countUp (readDigit value) begin (begin + .ofNat group.length) 0 =
      if group.all isDigit then return .ofNat (octetValue group) else throw (.returned false) := by
  have hloop : countUp (readDigit value) begin (begin + .ofNat group.length) =
      group.foldlM addDigit := by
    refine StdString.countUp_bytes ?_ h
    exact fun i number c hc => readDigit_of_byteAt hc
  have hzero : (0 : UInt32) = .ofNat 0 := rfl
  rw [hzero]
  exact (congrFun hloop _).trans (addDigits 0 group)

/-- The check of the length in words. -/
theorem length_check (h : value.tail begin = group ++ rest) :
    (UInt64.ofNat group.length = 0 ∨ UInt64.ofNat group.length > 3) ↔
      ¬ (group.length ≠ 0 ∧ group.length ≤ 3) := by
  have hthree : (3 : UInt64).toNat = 3 := rfl
  rw [← UInt64.toNat_inj,gt_iff_lt,UInt64.lt_iff_toNat_lt,StdString.toNat_length h,hthree,
    UInt64.toNat_zero]
  omega

/-- The check of the number in words: three digits do not wrap. -/
theorem number_check (h : group.all isDigit = true) (hshort : group.length ≤ 3) :
    UInt32.ofNat (octetValue group) > 255 ↔ ¬ octetValue group ≤ 255 := by
  have hlt := octetValue_lt h
  have hmost : 10 ^ group.length ≤ 10 ^ 3 := Nat.pow_le_pow_right (by decide) hshort
  have hmax : (255 : UInt32).toNat = 255 := rfl
  rw [gt_iff_lt,UInt32.lt_iff_toNat_lt,UInt32.toNat_ofNat',hmax]
  omega

/-- Where a group is in the string, it is checked as a list. -/
theorem readOctet_eq (h : value.tail begin = group ++ rest) :
    readOctet value begin (.ofNat group.length) =
      if isOctet group then return () else throw (.returned false) := by
  unfold readOctet isOctet
  by_cases hshort : group.length ≠ 0 ∧ group.length ≤ 3
  · have hgoes := not_not.mpr hshort ∘ (length_check h).mp
    rw [if_neg hgoes,decide_eq_true hshort,Bool.true_and,readDigits_eq h]
    cases hall : group.all isDigit with
    | false => rfl
    | true =>
      have hnumber := number_check hall hshort.2
      change (if UInt32.ofNat (octetValue group) > 255 then _ else _) = _
      by_cases hvalue : octetValue group ≤ 255
      · rw [if_neg (not_not.mpr hvalue ∘ hnumber.mp),decide_eq_true hvalue]
        rfl
      · rw [if_pos (hnumber.mpr hvalue),decide_eq_false hvalue]
        rfl
  · rw [if_pos ((length_check h).mpr hshort),decide_eq_false hshort]
    rfl

/-- The last octet goes up to the end of the string. -/
theorem scanOctet_last (hbegin : begin.toNat ≤ value.bytes.length) :
    scanOctet value 3 begin =
      if octetsValid 0 (value.tail begin) then return value.size else throw (.returned false) := by
  unfold scanOctet octetsValid
  by_cases hdot : dot ∈ value.tail begin
  · have hfound : value.find dot begin ≠ npos :=
      StdString.find_ne_npos (split_at_first hdot).symm not_mem_before_first
    rw [if_pos (.inr ⟨rfl,hfound⟩)]
    simp [hdot]
  · have hnone : value.find dot begin = npos := StdString.find_of_not_mem hdot
    have hsplit : value.tail begin = value.tail begin ++ [] := (List.append_nil _).symm
    have hgoes : ¬ (((3 : UInt64) < 3 ∧ npos = npos) ∨ ((3 : UInt64) = 3 ∧ npos ≠ npos)) := by simp
    have hcontains : (value.tail begin).contains dot = false := by simpa using hdot
    rw [hnone,if_neg hgoes,if_pos rfl,StdString.size_sub hbegin,hcontains]
    dsimp only
    rw [readOctet_eq hsplit,Bool.not_false,Bool.true_and]
    cases isOctet (value.tail begin) <;> rfl

/-- Each octet before it goes up to the next dot. -/
theorem scanOctet_more {octet : UInt64} (hoctet : octet < 3) :
    scanOctet value octet begin =
      if (value.tail begin).contains dot && isOctet ((value.tail begin).takeWhile (· ≠ dot)) then
        return begin + .ofNat ((value.tail begin).takeWhile (· ≠ dot)).length + 1
      else throw (.returned false) := by
  unfold scanOctet
  by_cases hdot : dot ∈ value.tail begin
  · have hsplit := (split_at_first hdot).symm
    have hfind := StdString.find_of_append hsplit not_mem_before_first
    have hfound := StdString.find_ne_npos hsplit not_mem_before_first
    have hne : octet ≠ 3 := (UInt64.ne_of_lt hoctet)
    have hgoes : ¬ ((octet < 3 ∧ value.find dot begin = npos) ∨
        (octet = 3 ∧ value.find dot begin ≠ npos)) := by simp [hfound,hne]
    have hcontains : (value.tail begin).contains dot = true := by simpa using hdot
    rw [if_neg hgoes,if_neg hfound,if_neg hfound,hfind,hcontains]
    dsimp only
    rw [UInt64.add_comm,UInt64.add_sub_cancel,UInt64.add_comm,readOctet_eq hsplit,Bool.true_and]
    cases isOctet ((value.tail begin).takeWhile (· ≠ dot)) <;> rfl
  · have hnone : value.find dot begin = npos := StdString.find_of_not_mem hdot
    rw [if_pos (.inl ⟨hoctet,hnone⟩)]
    simp [hdot]

/-- From an octet on the scan checks as many octets as are left. -/
theorem countUp_scanOctet {more : ℕ} {octet : UInt64} (hoctet : octet.toNat + more = 3)
    (hbegin : begin.toNat ≤ value.bytes.length) :
    countUp (scanOctet value) octet 4 begin =
      if octetsValid more (value.tail begin) then return value.size else throw (.returned false) := by
  have hthree : (3 : UInt64).toNat = 3 := rfl
  have hfour : (4 : UInt64).toNat = 4 := rfl
  induction more generalizing octet begin with
  | zero =>
    obtain rfl : octet = 3 := UInt64.toNat_inj.mp hoctet
    rw [countUp_next (by decide),scanOctet_last hbegin]
    cases octetsValid 0 (value.tail begin) with
    | true => exact countUp_done (by decide)
    | false => rfl
  | succ more ih =>
    have hlt : octet < 3 := UInt64.lt_iff_toNat_lt.mpr (by omega)
    have hlt' : octet < 4 := UInt64.lt_iff_toNat_lt.mpr (by omega)
    rw [countUp_next hlt',scanOctet_more hlt,octetsValid]
    by_cases hgroup : ((value.tail begin).contains dot &&
        isOctet ((value.tail begin).takeWhile (· ≠ dot))) = true
    · have hdot : dot ∈ value.tail begin := by simpa using (Bool.and_eq_true_iff.mp hgroup).1
      have hsplit := (split_at_first hdot).symm
      have hnext : (octet + 1).toNat = octet.toNat + 1 :=
        toNat_succ (UInt64.lt_iff_toNat_lt.mp hlt')
      -- the next octet begins behind the dot
      obtain ⟨htail,hplace⟩ := StdString.tail_next (StdString.tail_add hsplit)
      rw [if_pos hgroup,hgroup,Bool.true_and,← htail]
      exact ih (by omega) hplace
    · rw [if_neg hgroup]
      rw [Bool.not_eq_true] at hgroup
      rw [hgroup]
      rfl

theorem scan_eq (value : StdString) : scan value =
    if Driver.isValidIpv4 value.bytes then return true else throw (.returned false) := by
  unfold scan Driver.isValidIpv4
  have hfirst : (0 : UInt64).toNat + 3 = 3 := rfl
  have htail : value.tail 0 = value.bytes := List.drop_zero
  cases hempty : value.bytes.isEmpty with
  | true => rw [StdString.empty,hempty]; rfl
  | false =>
    rw [StdString.empty,hempty,countUp_scanOctet hfirst (Nat.zero_le _),htail]
    cases octetsValid 3 value.bytes with
    | true => simp
    | false => rfl

/-- The scanner is the check of the list of bytes. -/
theorem isValidIpv4_eq (value : StdString) :
    isValidIpv4 value = .returned (Driver.isValidIpv4 value.bytes) := by
  rw [isValidIpv4,scan_eq]
  cases Driver.isValidIpv4 value.bytes <;> rfl

/-- The function returns, reads no place outside the string, and answers whether the
string is a dotted quad. -/
theorem isValidIpv4_dotted (value : StdString) : ∃ answer, isValidIpv4 value = .returned answer ∧
    (answer = true ↔ Dotted 4 value.bytes) :=
  ⟨_,isValidIpv4_eq value,valid_iff⟩

end
end Ipv4Scan

/-! ## What the check guards -/

section
variable {w : World} {s t : DriverState} {name value : String}

theorem requireIpv4_returns (h : (requireIpv4 name value).Returns s () t) :
    Dotted 4 value.toUTF8.toList ∧ t = s := by
  unfold requireIpv4 at h
  split at h
  · rename_i hvalid
    exact ⟨valid_iff.mp hvalid,(returns_pure.mp h).2⟩
  · exact absurd h (by simp)

theorem requireIpv4_throws {e : Failure} (h : (requireIpv4 name value).Throws s e t) : t = s := by
  unfold requireIpv4 at h
  split at h
  · exact absurd h (by simp)
  · exact (throws_throw.mp h).2

/-- Nothing is asked of the device before all three addresses are dotted quads. -/
theorem configureLidarNetworkOnStart_checked (h : (configureLidarNetworkOnStart w).Leaves s t)
    (hasked : t ≠ s) : Dotted 4 s.control.config.lidarHostIp.toUTF8.toList ∧
      Dotted 4 s.control.config.lidarNetmask.toUTF8.toList ∧
      Dotted 4 s.control.config.lidarIp.toUTF8.toList := by
  replace h := leaves_get_bind.mp h
  dsimp only at h
  split at h
  · exact absurd (leaves_pure.mp h) hasked
  rcases leaves_bind.mp h with ⟨e,h⟩ | ⟨_,a,hhost,h⟩
  · exact absurd (requireIpv4_throws h) hasked
  obtain ⟨hhost,rfl⟩ := requireIpv4_returns hhost
  rcases leaves_bind.mp h with ⟨e,h⟩ | ⟨_,b,hmask,h⟩
  · exact absurd (requireIpv4_throws h) hasked
  obtain ⟨hmask,rfl⟩ := requireIpv4_returns hmask
  rcases leaves_bind.mp h with ⟨e,h⟩ | ⟨_,c,hlidar,h⟩
  · exact absurd (requireIpv4_throws h) hasked
  exact ⟨hhost,hmask,(requireIpv4_returns hlidar).1⟩

end
end PrismRosAdapter.Driver
