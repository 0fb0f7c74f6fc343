/-
**The octets of a text.**

* `ofText_ofList`: the octets of a text are those of its characters, one after the other;
* `ofChars_ascii`: an ASCII character has its number as its only octet, and `exists_ofText`: all
  octets of ASCII are such;
* `high_of_mem_utf8EncodeChar`: no octet of another character is one of ASCII;
* `length_ofText`: the number of octets.
-/

import ClientAssertion.Bytes
import Mathlib.Tactic.SplitIfs

namespace ClientAssertion.Bytes

/-- The octets of characters. -/
def ofChars (chars : List Char) : Bytes := chars.flatMap String.utf8EncodeChar

@[simp] theorem ofChars_nil : ofChars [] = [] := rfl

@[simp] theorem ofChars_cons (char : Char) (chars : List Char) :
    ofChars (char :: chars) = String.utf8EncodeChar char ++ ofChars chars := rfl

@[simp] theorem ofChars_append (first second : List Char) :
    ofChars (first ++ second) = ofChars first ++ ofChars second := List.flatMap_append

/-- The octets of a text are those of its characters. -/
theorem ofText_ofList (chars : List Char) : ofText (String.ofList chars) = ofChars chars := by
  simp [ofText, ofChars, List.utf8Encode]

theorem ofText_eq (text : String) : ofText text = ofChars text.toList := by
  rw [← ofText_ofList, String.ofList_toList]

@[simp] theorem ofText_append (first second : String) :
    ofText (first ++ second) = ofText first ++ ofText second := by
  simp [ofText_eq]

/-- A text has as many octets as its size in UTF-8 says. -/
theorem length_ofText (text : String) : (ofText text).length = text.utf8ByteSize := rfl

/-! ### ASCII -/

/-- A character of ASCII is its number as an octet. -/
theorem utf8EncodeChar_ascii {char : Char} (ascii : char.toNat < 128) :
    String.utf8EncodeChar char = [UInt8.ofNat char.toNat] :=
  if_pos (show char.val.toNat ≤ 0x7f from Nat.le_of_lt_succ ascii)

theorem toNat_ofNat_ascii {char : Char} (ascii : char.toNat < 128) :
    (UInt8.ofNat char.toNat).toNat = char.toNat :=
  UInt8.toNat_ofNat_of_lt' (Nat.lt_trans ascii (by decide))

/-- Every octet is the number of a character. -/
theorem toNat_ofNat_octet (octet : UInt8) : (Char.ofNat octet.toNat).toNat = octet.toNat := by
  have := octet.toNat_lt
  rw [Char.ofNat, dif_pos (Or.inl (by omega))]
  rfl

/-- Characters of ASCII are their numbers. -/
theorem ofChars_ascii {chars : List Char} (ascii : ∀ char ∈ chars, char.toNat < 128) :
    ofChars chars = chars.map fun char => UInt8.ofNat char.toNat := by
  induction chars with
  | nil => rfl
  | cons char chars hypothesis =>
    rw [ofChars_cons, utf8EncodeChar_ascii (ascii char List.mem_cons_self),
      hypothesis fun other member => ascii other (List.mem_cons_of_mem _ member)]
    rfl

/-- **Octets of ASCII are those of a text.** -/
theorem exists_ofText {octets : Bytes} (ascii : ∀ octet ∈ octets, octet.toNat < 128) :
    ∃ text, ofText text = octets := by
  refine ⟨String.ofList (octets.map fun octet => Char.ofNat octet.toNat), ?_⟩
  rw [ofText_ofList, ofChars_ascii, List.map_map]
  · refine (List.map_congr_left fun octet _ => ?_).trans (List.map_id _)
    rw [Function.comp_apply, toNat_ofNat_octet, UInt8.ofNat_toNat, id]
  · refine List.forall_mem_map.mpr fun octet member => ?_
    rw [toNat_ofNat_octet]
    exact ascii octet member

/-- **A character beyond ASCII has no octet of ASCII.** -/
theorem high_of_mem_utf8EncodeChar {char : Char} (wide : 128 ≤ char.toNat) :
    ∀ octet ∈ String.utf8EncodeChar char, 128 ≤ octet.toNat := by
  have value : char.val.toNat = char.toNat := rfl
  have high {number : Nat} (large : 128 ≤ number) (small : number < 256) :
      128 ≤ (UInt8.ofNat number).toNat := by
    rwa [UInt8.toNat_ofNat_of_lt' small]
  simp only [String.utf8EncodeChar, value]
  split_ifs with one two three
  · omega
  all_goals
    simp only [List.forall_mem_cons, List.not_mem_nil, false_implies, implies_true, and_true]
  · exact ⟨high (by omega) (by omega), high (by omega) (by omega)⟩
  · exact ⟨high (by omega) (by omega), high (by omega) (by omega), high (by omega) (by omega)⟩
  · exact ⟨high (by omega) (by omega), high (by omega) (by omega), high (by omega) (by omega),
      high (by omega) (by omega)⟩

end ClientAssertion.Bytes
