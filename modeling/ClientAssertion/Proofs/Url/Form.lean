/-
**Forms are read as they were written.**

* `Percent.decode_escape`: an escape is read as its octet, whatever follows;
* `decode_encodeOctet` and `decodeText_encodeText`: so is an octet as it is written in a form, and a
  whole name or value;
* `Spelled` are the octets that names and values are written in, none of them a separator, and
  `ofText_encode`: as a text, a written form keeps all its octets;
* `decode_encode`: pairs come back as they were written, empty and repeated ones too.
-/

import ClientAssertion.Proofs.Bytes
import ClientAssertion.Url.Form
import Mathlib.Data.List.Basic
import Mathlib.Tactic.SplitIfs

namespace ClientAssertion

/-! ### Escapes -/

namespace Percent

theorem hexValue?_hexDigit : ∀ value < 16, hexValue? (hexDigit value) = some value := by decide

/-- **An escape is read as its octet.** -/
theorem decode_escape (octet : UInt8) (rest : Bytes) :
    decode (escape octet ++ rest) = octet :: decode rest := by
  have bound : octet.toNat < 256 := octet.toNat_lt
  have high := hexValue?_hexDigit (octet.toNat / 16) (by omega)
  have low := hexValue?_hexDigit (octet.toNat % 16) (by omega)
  have whole : octet.toNat / 16 * 16 + octet.toNat % 16 = octet.toNat := by omega
  simp only [escape, List.cons_append, List.nil_append, decode, high, low, whole, UInt8.ofNat_toNat]

/-- What starts no escape stands for itself. -/
theorem decode_cons_of_ne {octet : UInt8} (other : octet ≠ 0x25) (rest : Bytes) :
    decode (octet :: rest) = octet :: decode rest := by
  rw [decode]
  rintro _ _ _ rfl
  exact absurd rfl other

end Percent

namespace Form

/-! ### Names and values -/

theorem isPlain_iff {octet : UInt8} :
    isPlain octet = true ↔ (48 ≤ octet.toNat ∧ octet.toNat ≤ 57) ∨
      (65 ≤ octet.toNat ∧ octet.toNat ≤ 90) ∨ (97 ≤ octet.toNat ∧ octet.toNat ≤ 122) ∨
      octet.toNat = 42 ∨ octet.toNat = 45 ∨ octet.toNat = 46 ∨ octet.toNat = 95 := by
  simp only [isPlain, Bool.or_eq_true, Bool.and_eq_true, decide_eq_true_eq, beq_iff_eq,
    UInt8.le_iff_toNat_le, ← UInt8.toNat_inj, UInt8.reduceToNat]
  omega

theorem ne_of_isPlain {octet : UInt8} (plain : isPlain octet = true) : octet ≠ 0x2b ∧ octet ≠ 0x25 := by
  constructor
  · rintro rfl
    exact absurd plain (by decide)
  · rintro rfl
    exact absurd plain (by decide)

theorem isPlain_hexDigit : ∀ value < 16, isPlain (Percent.hexDigit value) = true := by decide

/-- An octet that names and values are written in. -/
def Spelled (octet : UInt8) : Prop := octet = 0x2b ∨ octet = 0x25 ∨ isPlain octet = true

/-- **No octet of a name or value is a separator**, and all are ASCII. -/
theorem Spelled.bounds {octet : UInt8} (spelled : Spelled octet) :
    octet.toNat < 128 ∧ octet ≠ 0x26 ∧ octet ≠ 0x3d := by
  rcases spelled with rfl | rfl | plain
  · decide
  · decide
  · have number := isPlain_iff.mp plain
    refine ⟨by omega, ?_, ?_⟩
    · rintro rfl
      exact absurd plain (by decide)
    · rintro rfl
      exact absurd plain (by decide)

theorem spelled_of_mem_encodeOctet {octet other : UInt8} (member : other ∈ encodeOctet octet) :
    Spelled other := by
  have bound : octet.toNat < 256 := octet.toNat_lt
  rw [encodeOctet] at member
  split_ifs at member with blank plain
  · exact .inl (List.mem_singleton.mp member)
  · rw [List.mem_singleton.mp member]
    exact .inr (.inr plain)
  · simp only [Percent.escape, List.mem_cons, List.not_mem_nil, or_false] at member
    rcases member with rfl | rfl | rfl
    · exact .inr (.inl rfl)
    · exact .inr (.inr (isPlain_hexDigit _ (by omega)))
    · exact .inr (.inr (isPlain_hexDigit _ (by omega)))

theorem spelled_of_mem_encodeText {text : String} {octet : UInt8} (member : octet ∈ encodeText text) :
    Spelled octet := by
  obtain ⟨_, -, written⟩ := List.mem_flatMap.mp member
  exact spelled_of_mem_encodeOctet written

/-- A plus sign stands for a blank. -/
def unplus (octet : UInt8) : UInt8 := if octet = 0x2b then 0x20 else octet

theorem decodeText_eq (octets : Bytes) :
    decodeText octets = Bytes.lossyText (Percent.decode (octets.map unplus)) := rfl

theorem map_unplus_escape (octet : UInt8) :
    (Percent.escape octet).map unplus = Percent.escape octet := by
  have bound : octet.toNat < 256 := octet.toNat_lt
  have high : octet.toNat / 16 < 16 := by omega
  have low : octet.toNat % 16 < 16 := by omega
  have digit : ∀ value < 16, unplus (Percent.hexDigit value) = Percent.hexDigit value := by decide
  have sign : unplus 0x25 = 0x25 := by decide
  simp only [Percent.escape, List.map_cons, List.map_nil, sign, digit _ high, digit _ low]

/-- **A written octet is read as the octet.** The plus signs are read first, so that the one which is
written as an escape stays. -/
theorem decode_encodeOctet (octet : UInt8) (rest : Bytes) :
    Percent.decode ((encodeOctet octet).map unplus ++ rest) = octet :: Percent.decode rest := by
  rw [encodeOctet]
  split_ifs with blank plain
  · rw [blank]
    exact Percent.decode_cons_of_ne (by decide) rest
  · obtain ⟨noPlus, noEscape⟩ := ne_of_isPlain plain
    rw [List.map_singleton, unplus, if_neg noPlus]
    exact Percent.decode_cons_of_ne noEscape rest
  · rw [map_unplus_escape, Percent.decode_escape]

theorem decode_flatMap_encodeOctet (octets : Bytes) :
    Percent.decode ((octets.flatMap encodeOctet).map unplus) = octets := by
  induction octets with
  | nil => rfl
  | cons octet octets hypothesis =>
    rw [List.flatMap_cons, List.map_append, decode_encodeOctet, hypothesis]

/-- **A name or value is read as it was written.** -/
theorem decodeText_encodeText (text : String) : decodeText (encodeText text) = text := by
  rw [decodeText_eq, encodeText, decode_flatMap_encodeOctet, Bytes.lossyText_ofText]

/-! ### Pairs -/

/-- **A pair is read as it was written**, since its name has no `=`. -/
theorem decodePair_encodePair (pair : String × String) : decodePair (encodePair pair) = pair := by
  have name : ∀ octet ∈ encodeText pair.1, decide (octet ≠ 0x3d) = true := fun octet member =>
    decide_eq_true (spelled_of_mem_encodeText member).bounds.2.2
  rw [decodePair, encodePair, List.takeWhile_append_of_pos name, List.dropWhile_append_of_pos name,
    List.takeWhile_cons_of_neg (by decide), List.dropWhile_cons_of_neg (by decide), List.append_nil,
    List.drop_one, List.tail_cons, decodeText_encodeText, decodeText_encodeText]

theorem encodePair_ne_nil (pair : String × String) : encodePair pair ≠ [] :=
  List.append_ne_nil_of_right_ne_nil _ (List.cons_ne_nil _ _)

theorem mem_encodePair {pair : String × String} {octet : UInt8} (member : octet ∈ encodePair pair) :
    Spelled octet ∨ octet = 0x3d := by
  rcases List.mem_append.mp member with name | value
  · exact .inl (spelled_of_mem_encodeText name)
  · rcases List.mem_cons.mp value with sign | value
    · exact .inr sign
    · exact .inl (spelled_of_mem_encodeText value)

/-- No pair has a `&`. -/
theorem separator_not_mem_encodePair (pair : String × String) : 0x26 ∉ encodePair pair := by
  intro member
  rcases mem_encodePair member with spelled | sign
  · exact spelled.bounds.2.1 rfl
  · exact absurd sign (by decide)

/-! ### Forms -/

theorem splitAt_eq_splitOn (separator : UInt8) (octets : Bytes) :
    splitAt separator octets = octets.splitOn separator := by
  induction octets with
  | nil => rfl
  | cons octet octets hypothesis =>
    rw [splitAt, List.splitOn, List.splitOnP_cons_eq_if_modifyHead, ← List.splitOn, ← hypothesis]
    by_cases same : octet = separator
    · rw [if_pos same, if_pos (beq_iff_eq.mpr same)]
    · rw [if_neg same, if_neg (by simpa using same)]
      cases parts : splitAt separator octets with
      | nil =>
        rw [hypothesis] at parts
        exact absurd parts (List.splitOnP_ne_nil _ _)
      | cons part parts => rfl

theorem decodeOctets_encodeOctets (pairs : List (String × String)) :
    decodeOctets (encodeOctets pairs) = pairs := by
  rw [decodeOctets, encodeOctets, splitAt_eq_splitOn]
  cases pairs with
  | nil => rfl
  | cons pair pairs =>
    have whole : ∀ part ∈ (pair :: pairs).map encodePair, 0x26 ∉ part :=
      List.forall_mem_map.mpr fun other _ => separator_not_mem_encodePair other
    have nonempty : ∀ part ∈ (pair :: pairs).map encodePair, decide (part ≠ []) = true :=
      List.forall_mem_map.mpr fun other _ => decide_eq_true (encodePair_ne_nil other)
    have read : decodePair ∘ encodePair = id := funext decodePair_encodePair
    rw [List.splitOn_intercalate _ whole (by simp), List.filter_eq_self.mpr nonempty, List.map_map,
      read, List.map_id]

theorem mem_encodeOctets {pairs : List (String × String)} {octet : UInt8}
    (member : octet ∈ encodeOctets pairs) : Spelled octet ∨ octet = 0x3d ∨ octet = 0x26 := by
  induction pairs with
  | nil => cases member
  | cons pair pairs hypothesis =>
    have first : octet ∈ encodePair pair → Spelled octet ∨ octet = 0x3d ∨ octet = 0x26 :=
      fun written => (mem_encodePair written).imp_right .inl
    cases pairs with
    | nil =>
      rw [encodeOctets, List.map_singleton, List.intercalate_singleton] at member
      exact first member
    | cons second pairs =>
      rw [encodeOctets, List.map_cons, List.map_cons, List.intercalate_cons_cons, List.append_assoc,
        List.mem_append, List.singleton_append, List.mem_cons] at member
      rcases member with written | separator | later
      · exact first written
      · exact .inr (.inr separator)
      · exact hypothesis later

/-- **A written form keeps its octets**, which are all ASCII. -/
theorem ofText_encode (pairs : List (String × String)) :
    Bytes.ofText (encode pairs) = encodeOctets pairs := by
  have ascii : ∀ octet ∈ encodeOctets pairs, octet.toNat < 128 := by
    intro octet member
    rcases mem_encodeOctets member with spelled | rfl | rfl
    · exact spelled.bounds.1
    · decide
    · decide
  obtain ⟨text, same⟩ := Bytes.exists_ofText ascii
  rw [encode, ← same, Bytes.lossyText_ofText]

/-- **Pairs come back as they were written.** -/
theorem decode_encode (pairs : List (String × String)) : decode (encode pairs) = pairs := by
  rw [decode, ofText_encode, decodeOctets_encodeOctets]

example : encode [("code", "1+1=2 & é"), ("", ""), ("code", "%41")] =
    "code=1%2B1%3D2+%26+%C3%A9&=&code=%2541" := by decide +kernel

end Form

end ClientAssertion
