/-
**Octet strings.**

Keys, digests, signatures and the decoded parts of a token are lists of octets.

* `ofText` and `text?` pass between text and its UTF-8 octets, and `text?_ofText` says that no
  text is lost;
* `toNat` and `ofNat` read and write a number with its most significant octet first;
* `length_ofNat`: a number is written in exactly the width asked for.
-/

namespace ClientAssertion

/-- A string of octets. -/
abbrev Bytes := List UInt8

namespace Bytes

/-! ### Text -/

/-- The UTF-8 octets of a text. -/
def ofText (text : String) : Bytes := text.toUTF8.data.toList

/-- The text that the octets spell in UTF-8, if they spell one. -/
def text? (bytes : Bytes) : Option String := String.fromUTF8? ⟨bytes.toArray⟩

/-- The octets of a text spell that text. -/
theorem text?_ofText (text : String) : text? (ofText text) = some text := by
  have whole : (⟨(ofText text).toArray⟩ : ByteArray) = text.toByteArray := by simp [ofText]
  rw [text?, whole, String.fromUTF8?, dif_pos text.isValidUTF8]
  rfl

/-! ### Numbers -/

/-- The number that the octets spell, most significant octet first. -/
def toNat (bytes : Bytes) : Nat :=
  bytes.foldl (fun value octet => value * 256 + octet.toNat) 0

/-- The last `width` octets of a number, most significant octet first. -/
def ofNat : (width : Nat) → Nat → Bytes
  | 0, _ => []
  | width + 1, value => ofNat width (value / 256) ++ [UInt8.ofNat (value % 256)]

@[simp] theorem length_ofNat (width value : Nat) : (ofNat width value).length = width := by
  induction width generalizing value with
  | zero => rfl
  | succ width hypothesis => simp [ofNat, hypothesis]

/-! ### Octet by octet -/

/-- The exclusive or of two octet strings, as long as the shorter one. -/
def xor (first second : Bytes) : Bytes := List.zipWith (· ^^^ ·) first second

end Bytes

end ClientAssertion
