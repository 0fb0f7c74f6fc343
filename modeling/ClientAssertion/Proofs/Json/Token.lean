/-
**Strings and integers are read back from what is written for them.**

* `Spells`: pieces of a literal are what a quoted character leaves there, whether it stands for
  itself or is escaped, and they denote it; `exists_spells`: every character has such pieces;
* `token?_quoted` and `token?_int`: so a quoted text and an integer are tokens, the integer where no
  octet follows that might belong to a number (`EndsNumber`);
* `integer?_int`: the number of an integer denotes it.
-/

import ClientAssertion.Json.Print
import ClientAssertion.Json.Record
import ClientAssertion.Json.Token
import ClientAssertion.Proofs.Bytes
import ClientAssertion.Proofs.Text.Numeral
import Mathlib.Tactic.SplitIfs

namespace ClientAssertion.Json

/-! ### String literals -/

/-- An octet stands for itself in a literal. -/
def IsPlain (octet : UInt8) : Prop := octet ≠ 0x22 ∧ octet ≠ 0x5c ∧ ¬octet < 0x20

/-- Pieces in front of what is read of a literal. -/
def prepend (pieces : List Piece) (read : List Piece × Bytes) : List Piece × Bytes :=
  (pieces ++ read.1, read.2)

theorem literal?_plain {octet : UInt8} (plain : IsPlain octet) (rest : Bytes) :
    literal? (octet :: rest) = (literal? rest).map (prepend [.octet octet]) := by
  obtain ⟨quote, backslash, printable⟩ := plain
  rw [literal?]
  · simp only [if_neg printable]
    cases literal? rest <;> rfl
  · exact quote
  · rintro _ _ _ _ _ rfl
    exact absurd rfl backslash
  · rintro _ _ rfl
    exact absurd rfl backslash

theorem prepend_nil (read : Option (List Piece × Bytes)) : read.map (prepend []) = read := by
  cases read <;> rfl

theorem literal?_plains {octets : Bytes} (plain : ∀ octet ∈ octets, IsPlain octet) (rest : Bytes) :
    literal? (octets ++ rest) = (literal? rest).map (prepend (octets.map .octet)) := by
  induction octets with
  | nil => exact (prepend_nil _).symm
  | cons octet octets hypothesis =>
    rw [List.cons_append, literal?_plain (plain octet List.mem_cons_self),
      hypothesis fun other member => plain other (List.mem_cons_of_mem _ member)]
    cases literal? rest <;> rfl

theorem literal?_escaped {letter octet : UInt8} (escape : escaped? letter = some octet) (rest : Bytes) :
    literal? (0x5c :: letter :: rest) = (literal? rest).map (prepend [.octet octet]) := by
  rw [literal?, escape]
  · cases literal? rest <;> rfl
  · rintro _ _ _ _ _ ⟨rfl⟩
    cases escape

theorem literal?_unit {first second third fourth : UInt8} {unit : Nat}
    (isUnit : hexUnit? first second third fourth = some unit) (rest : Bytes) :
    literal? (0x5c :: 0x75 :: first :: second :: third :: fourth :: rest) =
      (literal? rest).map (prepend [.unit unit]) := by
  rw [literal?, isUnit]
  cases literal? rest <;> rfl

theorem octets?_octets (octets : Bytes) (pieces : List Piece) :
    octets? (octets.map .octet ++ pieces) = (octets? pieces).map (octets ++ ·) := by
  induction octets with
  | nil => cases h : octets? pieces <;> simp [h]
  | cons octet octets hypothesis =>
    rw [List.map_cons, List.cons_append, octets?, hypothesis]
    cases octets? pieces <;> rfl

/-- A unit below the surrogates stands for its character, whatever follows. -/
theorem octets?_unit {unit : Nat} (low : unit < 0xd800) (pieces : List Piece) :
    octets? (.unit unit :: pieces) =
      (octets? pieces).map (Bytes.ofText (Char.ofNat unit).toString ++ ·) := by
  have alone : ¬(0xd800 ≤ unit ∧ unit < 0xe000) := by omega
  have high : ¬(0xd800 ≤ unit ∧ unit < 0xdc00) := by omega
  have second : ¬(0xdc00 ≤ unit ∧ unit < 0xe000) := by omega
  cases pieces with
  | nil => simp [octets?, alone]
  | cons piece pieces =>
    cases piece with
    | octet octet => simp [octets?, alone]
    | unit next =>
      conv => lhs; rw [octets?, if_neg high, if_neg second]

/-! ### Characters between quotes -/

theorem isPlain_of_toNat {octet : UInt8} (quote : octet.toNat ≠ 0x22) (backslash : octet.toNat ≠ 0x5c)
    (printable : ¬octet.toNat < 0x20) : IsPlain octet :=
  ⟨fun same => quote (congrArg UInt8.toNat same), fun same => backslash (congrArg UInt8.toNat same),
    fun control => printable (UInt8.lt_iff_toNat_lt.mp control)⟩

/-- A character that is not escaped stands for itself with all its octets. -/
theorem isPlain_utf8EncodeChar {char : Char} (quote : char.toNat ≠ 0x22)
    (backslash : char.toNat ≠ 0x5c) (printable : ¬char.toNat < 0x20) :
    ∀ octet ∈ String.utf8EncodeChar char, IsPlain octet := by
  intro octet member
  rcases Nat.lt_or_ge char.toNat 128 with ascii | wide
  · rw [Bytes.utf8EncodeChar_ascii ascii, List.mem_singleton] at member
    subst member
    apply isPlain_of_toNat <;> rwa [Bytes.toNat_ofNat_ascii ascii]
  · have := Bytes.high_of_mem_utf8EncodeChar wide octet member
    exact isPlain_of_toNat (by omega) (by omega) (by omega)

theorem hexValue?_hexDigit :
    ∀ value < 16, (String.utf8EncodeChar (hexDigit value)).map hexValue? = [some value] := by
  decide +kernel

/-- Four digits spell a control character. -/
theorem hexUnit?_control {code : Nat} (control : code < 0x20) : ∃ high low,
    Bytes.ofChars ['\\', 'u', '0', '0', hexDigit (code / 16), hexDigit (code % 16)] =
      [0x5c, 0x75, 0x30, 0x30, high, low] ∧ hexUnit? 0x30 0x30 high low = some code := by
  obtain ⟨high, first, isHigh⟩ :=
    List.map_eq_singleton_iff.mp (hexValue?_hexDigit (code / 16) (by omega))
  obtain ⟨low, second, isLow⟩ :=
    List.map_eq_singleton_iff.mp (hexValue?_hexDigit (code % 16) (by omega))
  refine ⟨high, low, ?_, ?_⟩
  · simp only [Bytes.ofChars_cons, Bytes.ofChars_nil, first, second]
    rfl
  · have zero : hexValue? 0x30 = some 0 := rfl
    simp only [hexUnit?, zero, isHigh, isLow, Option.bind_eq_bind, Option.bind_some, Option.pure_def]
    congr 1
    omega

/-- Pieces are what a quoted character leaves of a literal, and they denote the character. -/
structure Spells (char : Char) (pieces : List Piece) : Prop where
  literal : ∀ rest, literal? (Bytes.ofChars (quotedChar char) ++ rest) =
    (literal? rest).map (prepend pieces)
  denotes : ∀ others, octets? (pieces ++ others) =
    (octets? others).map (String.utf8EncodeChar char ++ ·)

theorem spells_escaped {char : Char} {letter octet : UInt8}
    (written : Bytes.ofChars (quotedChar char) = [0x5c, letter])
    (escapes : escaped? letter = some octet) (encoded : String.utf8EncodeChar char = [octet]) :
    Spells char [.octet octet] where
  literal rest := by
    rw [written]
    exact literal?_escaped escapes rest
  denotes others := by
    rw [encoded]
    exact octets?_octets [octet] others

theorem spells_control {char : Char} (control : char.toNat < 0x20)
    (written : quotedChar char =
      ['\\', 'u', '0', '0', hexDigit (char.toNat / 16), hexDigit (char.toNat % 16)]) :
    Spells char [.unit char.toNat] := by
  obtain ⟨high, low, octets, isUnit⟩ := hexUnit?_control control
  constructor
  · intro rest
    rw [written, octets]
    exact literal?_unit isUnit rest
  · intro others
    rw [List.singleton_append, octets?_unit (by omega), Char.ofNat_toNat, Bytes.ofText_eq,
      Char.toString_eq_singleton, String.toList_singleton, Bytes.ofChars_cons, Bytes.ofChars_nil,
      List.append_nil]

theorem spells_plain {char : Char} (quote : char.toNat ≠ 0x22) (backslash : char.toNat ≠ 0x5c)
    (printable : ¬char.toNat < 0x20) (written : quotedChar char = [char]) :
    Spells char ((String.utf8EncodeChar char).map .octet) where
  literal rest := by
    rw [written, Bytes.ofChars_cons, Bytes.ofChars_nil, List.append_nil]
    exact literal?_plains (isPlain_utf8EncodeChar quote backslash printable) rest
  denotes others := octets?_octets _ others

/-- **Every quoted character is spelled by pieces.** -/
theorem exists_spells (char : Char) : ∃ pieces, Spells char pieces := by
  have known {code : Nat} (same : char.toNat = code) : char = Char.ofNat code := by
    rw [← same, Char.ofNat_toNat]
  obtain ⟨chars, written⟩ : ∃ chars, quotedChar char = chars := ⟨_, rfl⟩
  have spelled := written
  rw [quotedChar] at spelled
  split at spelled
  -- Only the last row of the table is about more than one character.
  case h_8 quote backslash _ _ _ _ _ =>
    split at spelled
    · rename_i control
      exact ⟨_, spells_control control (written.trans spelled.symm)⟩
    · rename_i printable
      exact ⟨_, spells_plain quote backslash printable (written.trans spelled.symm)⟩
  all_goals
    rename_i same
    obtain rfl := known same
    exact ⟨_, spells_escaped rfl rfl rfl⟩

/-- The characters between quotes denote themselves. -/
theorem literal?_quotedChars (chars : List Char) (rest : Bytes) : ∃ pieces,
    literal? (Bytes.ofChars (chars.flatMap quotedChar) ++ 0x22 :: rest) = some (pieces, rest) ∧
      octets? pieces = some (Bytes.ofChars chars) := by
  induction chars with
  | nil => exact ⟨[], by rw [List.flatMap_nil, Bytes.ofChars_nil, List.nil_append, literal?], rfl⟩
  | cons char chars hypothesis =>
    obtain ⟨pieces, spells⟩ := exists_spells char
    obtain ⟨others, read, denote⟩ := hypothesis
    refine ⟨pieces ++ others, ?_, ?_⟩
    · rw [List.flatMap_cons, Bytes.ofChars_append, List.append_assoc, spells.literal, read]
      rfl
    · rw [spells.denotes, denote]
      rfl

theorem ofText_quoted (text : String) : Bytes.ofText (quoted text) =
    0x22 :: (Bytes.ofChars (text.toList.flatMap quotedChar) ++ [0x22]) := by
  rw [quoted, Bytes.ofText_ofList, List.cons_append, Bytes.ofChars_cons, Bytes.ofChars_append]
  rfl

/-- **A quoted text is a token.** -/
theorem token?_quoted (text : String) (rest : Bytes) :
    token? (Bytes.ofText (quoted text) ++ rest) = some (.scalar (.string (some text)), rest) := by
  obtain ⟨pieces, read, denote⟩ := literal?_quotedChars text.toList rest
  have denoted : literalText? pieces = some text := by
    rw [literalText?, denote, ← Bytes.ofText_eq]
    exact Bytes.text?_ofText text
  rw [ofText_quoted, List.cons_append, List.append_assoc, List.singleton_append, token?, read]
  exact congrArg (fun text => some (Token.scalar (.string text), rest)) denoted

/-! ### Integers -/

theorem isAscii_of_isDigit {char : Char} (digit : char.isDigit = true) : char.toNat < 128 :=
  Nat.lt_of_le_of_lt (Numeral.toNat_of_isDigit digit).2 (by decide)

theorem asciiText_ofChars {chars : List Char} (ascii : ∀ char ∈ chars, char.toNat < 128) :
    asciiText (Bytes.ofChars chars) = String.ofList chars := by
  have back : ∀ char ∈ chars, Char.ofNat (UInt8.ofNat char.toNat).toNat = char := by
    intro char member
    rw [Bytes.toNat_ofNat_ascii (ascii char member), Char.ofNat_toNat]
  rw [asciiText, Bytes.ofChars_ascii ascii, List.map_map]
  exact congrArg String.ofList ((List.map_congr_left back).trans (List.map_id _))

/-- What may follow a number: no octet of a number. -/
def EndsNumber (rest : Bytes) : Prop :=
  ∀ octet ∈ rest.head?, isDigit octet = false ∧ octet ≠ 0x2e ∧ octet ≠ 0x65 ∧ octet ≠ 0x45

theorem isDigit_ofNat {char : Char} (digit : char.isDigit = true) :
    isDigit (UInt8.ofNat char.toNat) = true := by
  obtain ⟨least, greatest⟩ := Numeral.toNat_of_isDigit digit
  rw [isDigit, Bool.and_eq_true, decide_eq_true_iff, decide_eq_true_iff, UInt8.le_iff_toNat_le,
    UInt8.le_iff_toNat_le, Bytes.toNat_ofNat_ascii (isAscii_of_isDigit digit)]
  exact ⟨least, greatest⟩

theorem digits?_append {digits rest : Bytes} (nonempty : digits ≠ [])
    (all : ∀ octet ∈ digits, isDigit octet = true) (ends : EndsNumber rest) :
    digits? (digits ++ rest) = some (digits, rest) := by
  obtain ⟨taken, dropped⟩ :=
    Numeral.takeWhile_dropWhile_append all fun octet first => (ends octet first).1
  rw [digits?, taken, dropped, if_neg nonempty]

theorem magnitude?_append {digits rest : Bytes} (nonempty : digits ≠ [])
    (all : ∀ octet ∈ digits, isDigit octet = true)
    (leading : digits.head? = some 0x30 → digits.length = 1) (ends : EndsNumber rest) :
    magnitude? (digits ++ rest) = some (digits, rest) := by
  have integral : integral? (digits ++ rest) = some (digits, rest) := by
    rw [integral?, digits?_append nonempty all ends]
    exact if_neg fun zeros => zeros.2 (leading zeros.1)
  have fraction : fraction? rest = some ([], rest) := by
    cases rest with
    | nil => rfl
    | cons octet rest =>
      rw [fraction?]
      rintro _ ⟨rfl⟩
      exact (ends _ rfl).2.1 rfl
  have exponent : exponent? rest = some ([], rest) := by
    cases rest with
    | nil => rfl
    | cons octet rest =>
      obtain ⟨-, -, lower, upper⟩ := ends octet rfl
      rw [exponent?, if_neg (not_or.mpr ⟨lower, upper⟩)]
  simp [magnitude?, integral, fraction, exponent]

/-- **The digits of a natural number are a number without a sign.** -/
theorem magnitude?_digits (value : Nat) {rest : Bytes} (ends : EndsNumber rest) :
    magnitude? (Bytes.ofChars (Numeral.digits value) ++ rest) =
      some (Bytes.ofChars (Numeral.digits value), rest) := by
  have ascii : ∀ char ∈ Numeral.digits value, char.toNat < 128 := fun char member =>
    isAscii_of_isDigit (Numeral.isDigit_of_mem_digits member)
  rw [Bytes.ofChars_ascii ascii]
  refine magnitude?_append (by simpa using Numeral.digits_ne_nil value) ?_ ?_ ends
  · simp only [List.forall_mem_map]
    exact fun char member => isDigit_ofNat (Numeral.isDigit_of_mem_digits member)
  · obtain rfl | positive := Nat.eq_zero_or_pos value
    · exact fun _ => rfl
    · intro zero
      obtain ⟨char, first, same⟩ := Option.map_eq_some_iff.mp (List.head?_map.symm.trans zero)
      have code : char.toNat = 48 := by
        rw [← Bytes.toNat_ofNat_ascii (ascii char (List.mem_of_head? first)), same]
        rfl
      have isZero : char = '0' := by rw [← Char.ofNat_toNat char, code]
      rw [isZero] at first
      exact absurd first (Numeral.head?_digits_ne_zero positive)

theorem exists_ofChars_digits (value : Nat) : ∃ octet octets,
    Bytes.ofChars (Numeral.digits value) = octet :: octets ∧ isDigit octet = true := by
  obtain ⟨char, chars, written⟩ := List.exists_cons_of_ne_nil (Numeral.digits_ne_nil value)
  have digit : char.isDigit = true :=
    Numeral.isDigit_of_mem_digits (by rw [written]; exact List.mem_cons_self)
  refine ⟨_, Bytes.ofChars chars, ?_, isDigit_ofNat digit⟩
  rw [written, Bytes.ofChars_cons, Bytes.utf8EncodeChar_ascii (isAscii_of_isDigit digit)]
  rfl

theorem toList_toString_int (value : Int) : (toString value).toList =
    if value < 0 then '-' :: Numeral.digits value.natAbs else Numeral.digits value.natAbs := by
  rw [show toString value = value.repr from rfl, Int.repr_eq_if]
  by_cases negative : value < 0
  · have magnitude : (-value).toNat = value.natAbs := by omega
    rw [if_neg (by omega), if_pos negative, magnitude, Nat.repr_eq_ofList_toDigits,
      String.toList_append, String.toList_ofList, String.toList_ofList]
    rfl
  · have magnitude : value.toNat = value.natAbs := by omega
    rw [if_pos (by omega), if_neg negative, magnitude, Nat.repr_eq_ofList_toDigits,
      String.toList_ofList]
    rfl

theorem isAscii_of_mem_int {value : Int} {char : Char} (member : char ∈ (toString value).toList) :
    char.toNat < 128 := by
  rw [toList_toString_int] at member
  split at member
  · obtain rfl | digit := List.mem_cons.mp member
    · decide
    · exact isAscii_of_isDigit (Numeral.isDigit_of_mem_digits digit)
  · exact isAscii_of_isDigit (Numeral.isDigit_of_mem_digits member)

theorem number?_int (value : Int) {rest : Bytes} (ends : EndsNumber rest) :
    number? (Bytes.ofText (toString value) ++ rest) = some (Bytes.ofText (toString value), rest) := by
  rw [Bytes.ofText_eq, toList_toString_int]
  split
  · show number? (0x2d :: (Bytes.ofChars (Numeral.digits value.natAbs) ++ rest)) = _
    rw [number?, magnitude?_digits _ ends]
    rfl
  · obtain ⟨octet, octets, written, digit⟩ := exists_ofChars_digits value.natAbs
    rw [number?, magnitude?_digits _ ends]
    rintro _ minus
    rw [written] at minus
    obtain ⟨rfl, -⟩ := List.cons.inj minus
    cases digit

theorem token?_numeric {octet : UInt8} (numeric : octet = 0x2d ∨ isDigit octet = true) (rest : Bytes) :
    token? (octet :: rest) = (number? (octet :: rest)).map fun (written, rest) =>
      (.scalar (.number (asciiText written)), rest) := by
  rw [token?]
  all_goals
    rintro _ ⟨rfl⟩
    revert numeric
    decide

theorem exists_octets_int (value : Int) : ∃ octet octets,
    Bytes.ofText (toString value) = octet :: octets ∧ (octet = 0x2d ∨ isDigit octet = true) := by
  rw [Bytes.ofText_eq, toList_toString_int]
  split
  · exact ⟨0x2d, _, rfl, .inl rfl⟩
  · obtain ⟨octet, octets, written, digit⟩ := exists_ofChars_digits value.natAbs
    exact ⟨octet, octets, written, .inr digit⟩

/-- **An integer is a token** where no octet of a number follows it. -/
theorem token?_int (value : Int) {rest : Bytes} (ends : EndsNumber rest) :
    token? (Bytes.ofText (toString value) ++ rest) = some (.scalar (.int value), rest) := by
  have read := number?_int value ends
  have written : asciiText (Bytes.ofText (toString value)) = toString value := by
    rw [Bytes.ofText_eq, asciiText_ofChars fun _ => isAscii_of_mem_int, String.ofList_toList]
  obtain ⟨octet, octets, same, first⟩ := exists_octets_int value
  rw [same, List.cons_append] at read ⊢
  rw [token?_numeric first, read, ← same]
  exact congrArg (fun text => some (Token.scalar (.number text), rest)) written

/-- **An integer reads as itself.** -/
theorem integer?_int (value : Int) : (Json.int value).integer? = some value := by
  rw [Json.int, integer?, toList_toString_int]
  by_cases negative : value < 0
  · obtain ⟨less, positive⟩ : ∃ less, value.natAbs = less + 1 := ⟨value.natAbs - 1, by omega⟩
    rw [if_pos negative]
    simp only [Numeral.value?_digits, positive]
    exact congrArg some (by omega)
  · have back : (value.natAbs : Int) = value := by omega
    rw [if_neg negative]
    split
    · rename_i digits minus
      have digit : '-'.isDigit = true :=
        Numeral.isDigit_of_mem_digits (by rw [minus]; exact List.mem_cons_self)
      cases digit
    · rw [Numeral.value?_digits]
      exact congrArg some back

end ClientAssertion.Json
