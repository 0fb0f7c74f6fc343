/-
**Unpadded base64url has one written form for each octet string.**

* `digitValue?_eq_some_iff`: a character of the alphabet stands for exactly one six bit number;
* `decodeChars?_encodeChars`: what is written is read back;
* `decodeChars?_eq_some_iff`: nothing but the written form is read, so padding, other alphabets and
  unused bits that are not zero are refused;
* `length_encode`: a written form is as long as the octets ask for;
* `inAlphabet_of_mem_encodeChars`: a written form holds characters of the alphabet only, and so no
  dot (`dot_not_mem_encodeChars`).
-/

import ClientAssertion.Base64Url
import Mathlib.Tactic.SplitIfs

namespace ClientAssertion.Base64Url

/-! ### Digits -/

theorem digitValue?_digit : ∀ value < 64, digitValue? (digit value) = some value := by
  decide +kernel

/-- The number of a character is below 64, and the character is the digit of the number. -/
theorem digit_of_digitValue? {char : Char} {value : Nat} (read : digitValue? char = some value) :
    value < 64 ∧ digit value = char := by
  simp only [digitValue?] at read
  split_ifs at read with upper lower decimal hyphen underscore
  · obtain rfl := Option.some.inj read
    refine ⟨by omega, ?_⟩
    rw [digit, if_pos (by omega), Nat.add_sub_cancel' upper.1, Char.ofNat_toNat]
  · obtain rfl := Option.some.inj read
    refine ⟨by omega, ?_⟩
    rw [digit, if_neg (by omega), if_pos (by omega), Nat.add_sub_cancel,
      Nat.add_sub_cancel' lower.1, Char.ofNat_toNat]
  · obtain rfl := Option.some.inj read
    refine ⟨by omega, ?_⟩
    rw [digit, if_neg (by omega), if_neg (by omega), if_pos (by omega), Nat.add_sub_cancel,
      Nat.add_sub_cancel' decimal.1, Char.ofNat_toNat]
  · obtain rfl := Option.some.inj read
    exact ⟨by decide, hyphen ▸ rfl⟩
  · obtain rfl := Option.some.inj read
    exact ⟨by decide, underscore ▸ rfl⟩

theorem digitValue?_eq_some_iff {char : Char} {value : Nat} :
    digitValue? char = some value ↔ value < 64 ∧ digit value = char :=
  ⟨digit_of_digitValue?, fun ⟨small, same⟩ => same ▸ digitValue?_digit value small⟩

/-! ### Groups -/

theorem ofNat_eq_of_toNat (octet : UInt8) {value : Nat} (same : value = octet.toNat) :
    UInt8.ofNat value = octet := by
  rw [same, UInt8.ofNat_toNat]

/-- **What is written is read back.** -/
theorem decodeChars?_encodeChars (octets : Bytes) :
    decodeChars? (encodeChars octets) = some octets := by
  fun_induction encodeChars octets with
  | case1 first second third rest group hypothesis =>
    have := first.toNat_lt
    have := second.toNat_lt
    have := third.toNat_lt
    have whole : group / 262144 * 262144 + group / 4096 % 64 * 4096 + group / 64 % 64 * 64 +
        group % 64 = group := by omega
    simp only [decodeChars?, digitValue?_digit (group / 262144) (by omega),
      digitValue?_digit (group / 4096 % 64) (by omega),
      digitValue?_digit (group / 64 % 64) (by omega), digitValue?_digit (group % 64) (by omega),
      hypothesis, Option.bind_eq_bind, Option.bind_some, whole]
    rw [ofNat_eq_of_toNat first (by omega), ofNat_eq_of_toNat second (by omega),
      ofNat_eq_of_toNat third (by omega)]
    rfl
  | case2 first second group =>
    have := first.toNat_lt
    have := second.toNat_lt
    have whole : group / 4096 * 4096 + group / 64 % 64 * 64 + group % 64 = group := by omega
    simp only [decodeChars?, digitValue?_digit (group / 4096) (by omega),
      digitValue?_digit (group / 64 % 64) (by omega), digitValue?_digit (group % 64) (by omega),
      Option.bind_eq_bind, Option.bind_some, whole]
    rw [if_pos (by omega), ofNat_eq_of_toNat first (by omega),
      ofNat_eq_of_toNat second (by omega)]
    rfl
  | case3 first group =>
    have := first.toNat_lt
    have whole : group / 64 * 64 + group % 64 = group := by omega
    simp only [decodeChars?, digitValue?_digit (group / 64) (by omega),
      digitValue?_digit (group % 64) (by omega), Option.bind_eq_bind, Option.bind_some, whole]
    rw [if_pos (by omega), ofNat_eq_of_toNat first (by omega)]
    rfl
  | case4 => rfl

theorem toNat_ofNat_of_lt {value : Nat} (small : value < 256) : (UInt8.ofNat value).toNat = value := by
  rw [UInt8.toNat_ofNat', Nat.mod_eq_of_lt small]

theorem three_octets (group : Nat) :
    group / 65536 * 65536 + group / 256 % 256 * 256 + group % 256 = group := by omega

theorem two_octets {group : Nat} (unused : group % 4 = 0) :
    group / 1024 * 1024 + group / 4 % 256 * 4 = group := by omega

/-- **Nothing but the written form is read.** A group of characters is the number that its digits
spell, and the number's octets spell the same digits again. -/
theorem eq_encodeChars_of_decodeChars? {chars : List Char} {octets : Bytes}
    (read : decodeChars? chars = some octets) : chars = encodeChars octets := by
  fun_induction decodeChars? chars generalizing octets with
  | case1 first second third fourth rest hypothesis =>
    simp only [Option.bind_eq_bind, Option.bind_eq_some_iff] at read
    obtain ⟨a, isA, b, isB, c, isC, d, isD, others, isRest, isGroup⟩ := read
    obtain ⟨smallA, rfl⟩ := digitValue?_eq_some_iff.mp isA
    obtain ⟨smallB, rfl⟩ := digitValue?_eq_some_iff.mp isB
    obtain ⟨smallC, rfl⟩ := digitValue?_eq_some_iff.mp isC
    obtain ⟨smallD, rfl⟩ := digitValue?_eq_some_iff.mp isD
    generalize sum : a * 262144 + b * 4096 + c * 64 + d = group at isGroup
    obtain rfl := Option.some.inj isGroup
    have toA : group / 262144 = a := by omega
    have toB : group / 4096 % 64 = b := by omega
    have toC : group / 64 % 64 = c := by omega
    have toD : group % 64 = d := by omega
    simp only [encodeChars, toNat_ofNat_of_lt (show group / 65536 < 256 by omega),
      toNat_ofNat_of_lt (show group / 256 % 256 < 256 by omega),
      toNat_ofNat_of_lt (show group % 256 < 256 by omega), three_octets, toA, toB, toC, toD]
    rw [hypothesis isRest]
  | case2 first second third =>
    simp only [Option.bind_eq_bind, Option.bind_eq_some_iff] at read
    obtain ⟨a, isA, b, isB, c, isC, isGroup⟩ := read
    obtain ⟨smallA, rfl⟩ := digitValue?_eq_some_iff.mp isA
    obtain ⟨smallB, rfl⟩ := digitValue?_eq_some_iff.mp isB
    obtain ⟨smallC, rfl⟩ := digitValue?_eq_some_iff.mp isC
    generalize sum : a * 4096 + b * 64 + c = group at isGroup
    split_ifs at isGroup with unused
    obtain rfl := Option.some.inj isGroup
    have whole : group / 1024 * 1024 + group / 4 % 256 * 4 = group := two_octets unused
    have toA : group / 4096 = a := by omega
    have toB : group / 64 % 64 = b := by omega
    have toC : group % 64 = c := by omega
    simp only [encodeChars, toNat_ofNat_of_lt (show group / 1024 < 256 by omega),
      toNat_ofNat_of_lt (show group / 4 % 256 < 256 by omega), whole, toA, toB, toC]
  | case3 first second =>
    simp only [Option.bind_eq_bind, Option.bind_eq_some_iff] at read
    obtain ⟨a, isA, b, isB, isGroup⟩ := read
    obtain ⟨smallA, rfl⟩ := digitValue?_eq_some_iff.mp isA
    obtain ⟨smallB, rfl⟩ := digitValue?_eq_some_iff.mp isB
    generalize sum : a * 64 + b = group at isGroup
    split_ifs at isGroup with unused
    obtain rfl := Option.some.inj isGroup
    have whole : group / 16 * 16 = group := by omega
    have toA : group / 64 = a := by omega
    have toB : group % 64 = b := by omega
    simp only [encodeChars, toNat_ofNat_of_lt (show group / 16 < 256 by omega), whole, toA, toB]
  | case4 single => cases read
  | case5 =>
    obtain rfl := Option.some.inj read
    rfl

/-- **A text spells octets exactly when it is their written form.** -/
theorem decodeChars?_eq_some_iff {chars : List Char} {octets : Bytes} :
    decodeChars? chars = some octets ↔ chars = encodeChars octets :=
  ⟨eq_encodeChars_of_decodeChars?, fun written => written ▸ decodeChars?_encodeChars octets⟩

theorem decode?_eq_some_iff {text : String} {octets : Bytes} :
    decode? text = some octets ↔ text = encode octets := by
  rw [decode?, decodeChars?_eq_some_iff, ← String.toList_inj, encode, String.toList_ofList]

theorem decode?_eq_none_iff {text : String} :
    decode? text = none ↔ ∀ octets, text ≠ encode octets := by
  simp only [Option.eq_none_iff_forall_ne_some, ne_eq, decode?_eq_some_iff]

theorem encodeChars_injective {first second : Bytes} (same : encodeChars first = encodeChars second) :
    first = second :=
  Option.some.inj ((decodeChars?_encodeChars first).symm.trans (decodeChars?_eq_some_iff.mpr same))

/-! ### Lengths -/

theorem length_encodeChars (octets : Bytes) :
    (encodeChars octets).length = (4 * octets.length + 2) / 3 := by
  fun_induction encodeChars octets with
  | case1 first second third rest group hypothesis =>
    simp only [List.length_cons, hypothesis]
    omega
  | case2 | case3 => simp
  | case4 => rfl

/-- Four characters are written for three octets, and for fewer octets one more than there are. -/
theorem length_encode (octets : Bytes) : (encode octets).length = (4 * octets.length + 2) / 3 := by
  rw [encode, String.length_ofList, length_encodeChars]

/-! ### The alphabet -/

/-- A character of the alphabet `A-Z a-z 0-9 - _`. -/
def InAlphabet (char : Char) : Prop :=
  ('A' ≤ char ∧ char ≤ 'Z') ∨ ('a' ≤ char ∧ char ≤ 'z') ∨ ('0' ≤ char ∧ char ≤ '9') ∨
    char = '-' ∨ char = '_'

instance (char : Char) : Decidable (InAlphabet char) :=
  inferInstanceAs (Decidable (_ ∨ _))

theorem inAlphabet_digit : ∀ value < 64, InAlphabet (digit value) := by decide +kernel

/-- **A written form holds characters of the alphabet only.** -/
theorem inAlphabet_of_mem_encodeChars (octets : Bytes) :
    ∀ char ∈ encodeChars octets, InAlphabet char := by
  fun_induction encodeChars octets with
  | case1 first second third rest group hypothesis =>
    have := first.toNat_lt
    have := second.toNat_lt
    have := third.toNat_lt
    simp only [List.forall_mem_cons]
    exact ⟨inAlphabet_digit _ (by omega), inAlphabet_digit _ (by omega),
      inAlphabet_digit _ (by omega), inAlphabet_digit _ (by omega), hypothesis⟩
  | case2 first second group =>
    have := first.toNat_lt
    have := second.toNat_lt
    simp only [List.forall_mem_cons]
    exact ⟨inAlphabet_digit _ (by omega), inAlphabet_digit _ (by omega),
      inAlphabet_digit _ (by omega), List.forall_mem_nil _⟩
  | case3 first group =>
    have := first.toNat_lt
    simp only [List.forall_mem_cons]
    exact ⟨inAlphabet_digit _ (by omega), inAlphabet_digit _ (by omega), List.forall_mem_nil _⟩
  | case4 => exact List.forall_mem_nil _

theorem inAlphabet_of_mem_encode (octets : Bytes) :
    ∀ char ∈ (encode octets).toList, InAlphabet char := by
  rw [encode, String.toList_ofList]
  exact inAlphabet_of_mem_encodeChars octets

/-- A written form can be told from the dots around it. -/
theorem dot_not_mem_encodeChars (octets : Bytes) : '.' ∉ encodeChars octets := fun member =>
  absurd (inAlphabet_of_mem_encodeChars octets '.' member) (by decide)

end ClientAssertion.Base64Url
