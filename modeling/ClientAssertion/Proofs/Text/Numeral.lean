/-
**What decimal numerals denote.**

* `value?_digits`: the digits of a number denote it, and those of a positive one do not start with
  a zero (`head?_digits_ne_zero`);
* `ofDigits_lastDigits`: its last digits denote what is left of it by a power of ten;
* `ofDigits_fraction`: the digits behind a point denote it too, once the zeros that were dropped are
  put back.
-/

import ClientAssertion.Text.Numeral

namespace ClientAssertion.Numeral

/-! ### Where digits end -/

/-- What is taken of a list ends where the first element is none of the kind. -/
theorem takeWhile_dropWhile_append {Element : Type} {kind : Element → Bool} {inside rest : List Element}
    (all : ∀ element ∈ inside, kind element = true)
    (ends : ∀ element ∈ rest.head?, kind element = false) :
    (inside ++ rest).takeWhile kind = inside ∧ (inside ++ rest).dropWhile kind = rest := by
  rw [List.takeWhile_append_of_pos all, List.dropWhile_append_of_pos all]
  cases rest with
  | nil => exact ⟨List.append_nil _, rfl⟩
  | cons element rest => simp [ends element rfl]

/-! ### Digits in front of digits -/

theorem ofDigits_append_singleton (digits : List Char) (digit : Char) :
    ofDigits (digits ++ [digit]) = ofDigits digits * 10 + digitValue digit := by
  simp [ofDigits]

theorem ofDigits_append_zeros (digits : List Char) (count : Nat) :
    ofDigits (digits ++ List.replicate count '0') = ofDigits digits * Nat.pow 10 count := by
  induction count with
  | zero => rw [List.replicate_zero, List.append_nil]; exact (Nat.mul_one _).symm
  | succ count hypothesis =>
    rw [List.replicate_succ', ← List.append_assoc, ofDigits_append_singleton, hypothesis]
    exact Nat.mul_assoc _ _ 10

theorem toNat_of_isDigit {char : Char} (digit : char.isDigit = true) :
    48 ≤ char.toNat ∧ char.toNat ≤ 57 := by
  rw [Char.isDigit, Bool.and_eq_true, decide_eq_true_iff, decide_eq_true_iff] at digit
  exact ⟨UInt32.le_iff_toNat_le.mp digit.1, UInt32.le_iff_toNat_le.mp digit.2⟩

/-- The letters of ASCII, in either case. -/
theorem isAlpha_iff {char : Char} :
    char.isAlpha = true ↔ ('A' ≤ char ∧ char ≤ 'Z') ∨ ('a' ≤ char ∧ char ≤ 'z') := by
  have cases : char.isAlpha = (char.isUpper || char.isLower) := rfl
  have upper : char.isUpper = decide ('A' ≤ char ∧ char ≤ 'Z') := rfl
  have lower : char.isLower = (decide ('a' ≤ char) && decide (char ≤ 'z')) := rfl
  rw [cases, upper, lower, Bool.or_eq_true, Bool.and_eq_true, decide_eq_true_iff, decide_eq_true_iff,
    decide_eq_true_iff]

theorem ofDigits_lt {digits : List Char} (all : ∀ char ∈ digits, char.isDigit = true) :
    ofDigits digits < Nat.pow 10 digits.length := by
  -- The digits before are carried along as the value that the fold starts from.
  have behind : ∀ start, digits.foldl (fun value digit => value * 10 + digitValue digit) start <
      (start + 1) * Nat.pow 10 digits.length := by
    induction digits with
    | nil => exact fun start => Nat.lt_of_lt_of_eq (Nat.lt_succ_self start) (Nat.mul_one _).symm
    | cons digit digits hypothesis =>
      intro start
      have small : digitValue digit ≤ 9 := by
        have := toNat_of_isDigit (all digit List.mem_cons_self)
        rw [digitValue]
        omega
      rw [List.foldl_cons, List.length_cons]
      calc _ < (start * 10 + digitValue digit + 1) * Nat.pow 10 digits.length :=
            hypothesis (fun other member => all other (List.mem_cons_of_mem _ member)) _
        _ ≤ (start + 1) * 10 * Nat.pow 10 digits.length := Nat.mul_le_mul_right _ (by omega)
        _ = (start + 1) * Nat.pow 10 (digits.length + 1) := by
          rw [Nat.mul_assoc, Nat.mul_comm 10]
          rfl
  simpa [ofDigits] using behind 0

/-! ### All digits of a number -/

theorem isDigit_of_mem_digits {value : Nat} {char : Char} (member : char ∈ digits value) :
    char.isDigit = true :=
  Nat.isDigit_of_mem_toDigits (by decide) (by decide) member

theorem digits_ne_nil (value : Nat) : digits value ≠ [] := Nat.toDigits_ne_nil

theorem ofDigits_digits (value : Nat) : ofDigits (digits value) = value := by
  have folded : Nat.ofDigitChars 10 (Nat.toDigits 10 value) 0 = value :=
    Nat.ofDigitChars_ten_toDigits
  rw [Nat.ofDigitChars_eq_foldl] at folded
  have zero : '0'.toNat = 48 := rfl
  simpa only [ofDigits, digits, digitValue, Nat.mul_comm, zero] using folded

/-- **The digits of a number denote it.** -/
theorem value?_digits (value : Nat) : value? (digits value) = some value := by
  rw [value?, if_pos ⟨digits_ne_nil value, List.all_eq_true.mpr fun _ => isDigit_of_mem_digits⟩,
    ofDigits_digits]

theorem head?_digits_ne_zero {value : Nat} (positive : 0 < value) :
    (digits value).head? ≠ some '0' := by
  induction value using Nat.strongRecOn with
  | ind value hypothesis =>
    rw [digits, Nat.toDigits_eq_if (by decide)]
    split
    · rename_i small
      have nonzero : ∀ digit < 10, 0 < digit → digit.digitChar ≠ '0' := by decide
      simpa using nonzero value small positive
    · rw [List.head?_append, Option.or_of_isSome (List.isSome_head?.mpr Nat.toDigits_ne_nil)]
      exact hypothesis (value / 10) (by omega) (by omega)

/-! ### The last digits of a number -/

@[simp] theorem length_lastDigits (width value : Nat) : (lastDigits width value).length = width := by
  induction width generalizing value with
  | zero => rfl
  | succ width hypothesis => simp [lastDigits, hypothesis]

theorem isDigit_of_mem_lastDigits {width value : Nat} {char : Char}
    (member : char ∈ lastDigits width value) : char.isDigit = true := by
  induction width generalizing value with
  | zero => cases member
  | succ width hypothesis =>
    have single : ∀ digit < 10, (Char.ofNat (48 + digit)).isDigit = true := by decide
    rw [lastDigits, List.mem_append, List.mem_singleton] at member
    obtain earlier | rfl := member
    · exact hypothesis earlier
    · exact single _ (Nat.mod_lt _ (by decide))

/-- **The last digits of a number** denote what is left of it by a power of ten. -/
theorem ofDigits_lastDigits (width value : Nat) :
    ofDigits (lastDigits width value) = value % Nat.pow 10 width := by
  induction width generalizing value with
  | zero => exact (Nat.mod_one value).symm
  | succ width hypothesis =>
    have single : ∀ digit < 10, digitValue (Char.ofNat (48 + digit)) = digit := by decide
    have next : Nat.pow 10 (width + 1) = 10 * Nat.pow 10 width := Nat.mul_comm _ 10
    rw [lastDigits, ofDigits_append_singleton, hypothesis, single _ (Nat.mod_lt _ (by decide)), next,
      Nat.mod_mul]
    omega

theorem padded_of_lt {width value : Nat} (fits : value < Nat.pow 10 width) :
    padded width value = lastDigits width value :=
  if_pos fits

/-! ### Digits behind a point -/

theorem exists_dropTrailingZeros (digits : List Char) :
    ∃ count, digits = dropTrailingZeros digits ++ List.replicate count '0' := by
  have zeros : ∀ char ∈ digits.reverse.takeWhile (· == '0'), char = '0' := fun char member =>
    beq_iff_eq.mp (List.all_eq_true.mp List.all_takeWhile char member)
  refine ⟨(digits.reverse.takeWhile (· == '0')).length, ?_⟩
  calc digits
      = (digits.reverse.takeWhile (· == '0') ++ digits.reverse.dropWhile (· == '0')).reverse := by
        rw [List.takeWhile_append_dropWhile, List.reverse_reverse]
    _ = dropTrailingZeros digits ++ (digits.reverse.takeWhile (· == '0')).reverse :=
        List.reverse_append
    _ = _ := by rw [← List.reverse_replicate, ← List.eq_replicate_of_mem zeros]

/-- **The digits behind a point denote the number** with the zeros that were dropped. -/
theorem ofDigits_fraction {width value : Nat} (fits : value < Nat.pow 10 width) :
    (fraction width value).length ≤ width ∧
      ofDigits (fraction width value) * Nat.pow 10 (width - (fraction width value).length) = value := by
  obtain ⟨count, whole⟩ := exists_dropTrailingZeros (lastDigits width value)
  have length := congrArg List.length whole
  rw [length_lastDigits, List.length_append, List.length_replicate] at length
  have count_eq : width - (fraction width value).length = count := by
    rw [fraction]
    omega
  refine ⟨by rw [fraction]; omega, ?_⟩
  rw [count_eq, fraction, ← ofDigits_append_zeros, ← whole, ofDigits_lastDigits,
    Nat.mod_eq_of_lt fits]

theorem isDigit_of_mem_fraction {width value : Nat} {char : Char}
    (member : char ∈ fraction width value) : char.isDigit = true := by
  obtain ⟨count, whole⟩ := exists_dropTrailingZeros (lastDigits width value)
  have among : char ∈ lastDigits width value := by
    rw [whole]
    exact List.mem_append_left _ member
  exact isDigit_of_mem_lastDigits among

theorem fraction_ne_nil {width value : Nat} (fits : value < Nat.pow 10 width) (positive : value ≠ 0) :
    fraction width value ≠ [] := by
  intro none
  have denoted := (ofDigits_fraction fits).2
  rw [none] at denoted
  exact positive (denoted.symm.trans (Nat.zero_mul _))

end ClientAssertion.Numeral
