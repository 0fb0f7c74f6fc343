/-
**Spans are read back from their texts.**

The text of a span is a list of parts, each a count of a unit.  Months do not divide years, so that
the counts are no digits of one number; but every part is read by itself.

* `item?_part`: a part in front of a blank or of the end is one item, which adds its nanoseconds;
* `items?_spaced`: parts add up as they are read, without overflow on the way, if their sum is a span
  and none that counts parts of a second makes up a second;
* `sum_parts`: the parts of a span add up to the span;
* `ofText?_text`: so its text denotes it, up to the last nanosecond of the longest span.
-/

import ClientAssertion.Proofs.Text.Numeral
import ClientAssertion.Time.Span
import Mathlib.Tactic.Ring

namespace ClientAssertion.Span

/-! ### Units -/

/-- The name of a unit is spelled with letters, of which there is one. -/
theorem Unit.spelled_of_ofName? {name : String} {unit : Unit} (named : ofName? name = some unit) :
    name.toList ≠ [] ∧ ∀ char ∈ name.toList, isUnitChar char = true := by
  have spelled : name.toList ≠ [] ∧ name.toList.all isUnitChar = true := by
    rw [ofName?.eq_def] at named
    split at named <;> cases named <;> decide
  exact ⟨spelled.1, List.all_eq_true.mp spelled.2⟩

/-- A unit is a part of a second or some seconds. -/
theorem Unit.part_or_seconds (unit : Unit) : unit.nanoseconds < perSecond ∨
    ∃ seconds, 0 < seconds ∧ unit.nanoseconds = seconds * perSecond := by
  cases unit with
  | nanosecond | microsecond | millisecond => exact .inl (by decide)
  | second => exact .inr ⟨1, by decide, rfl⟩
  | _ => exact .inr ⟨_, by decide, rfl⟩

/-- What ends a number does not stand in the name of a unit, and the other way round. -/
theorem isNumberChar_of_isUnitChar {char : Char} (letter : isUnitChar char = true) :
    isNumberChar char = false ∧ char ≠ '.' := by
  have code : 65 ≤ char.toNat ∧ char.toNat ≤ 90 ∨ 97 ≤ char.toNat ∧ char.toNat ≤ 122 ∨
      char.toNat = 181 := by
    simp only [isUnitChar, Bool.or_eq_true, Numeral.isAlpha_iff, beq_iff_eq, Char.le_def,
      UInt32.le_iff_toNat_le] at letter
    rcases letter with (upper | lower) | rfl
    · exact .inl upper
    · exact .inr (.inl lower)
    · exact .inr (.inr rfl)
  have digit : char.isDigit = false := by
    refine Bool.eq_false_iff.mpr fun digit => ?_
    have := Numeral.toNat_of_isDigit digit
    omega
  constructor
  · simp only [isNumberChar, digit, isBlank, Bool.false_or, Bool.or_eq_false_iff,
      Bool.and_eq_false_iff, decide_eq_false_iff_not, beq_eq_false_iff_ne]
    omega
  · rintro rfl
    revert code
    decide

theorem isBlank_of_isDigit {char : Char} (digit : char.isDigit = true) : isBlank char = false := by
  have code := Numeral.toNat_of_isDigit digit
  simp only [isBlank, Bool.or_eq_false_iff, Bool.and_eq_false_iff, decide_eq_false_iff_not,
    beq_eq_false_iff_ne]
  omega

/-! ### Sums -/

theorem addGrains?_of_fits {total grains grain : Nat} (small : grains < 1 <<< 64)
    (below : grain = 1 → total % perSecond + grains < 1 <<< 64)
    (fits : total + grains * grain < (1 <<< 64) * perSecond) :
    addGrains? total grains grain = some (total + grains * grain) := by
  have noOverflow : ¬ (grain = 1 ∧ 1 <<< 64 ≤ total % perSecond + grains) :=
    fun ⟨one, large⟩ => Nat.not_lt.mpr large (below one)
  rw [addGrains?, if_neg (Nat.not_le.mpr small), if_neg noOverflow, if_pos fits]

/-- Whole units are added without overflow if the sum is a span and parts of a second do not make up
a second. -/
theorem addWhole?_of_fits {total count : Nat} {unit : Unit}
    (fits : total + count * unit.nanoseconds < (1 <<< 64) * perSecond)
    (within : unit.nanoseconds < perSecond → count * unit.nanoseconds < perSecond) :
    addWhole? total unit count = some (total + count * unit.nanoseconds) := by
  rw [addWhole?]
  rcases unit.part_or_seconds with part | ⟨seconds, positive, same⟩
  · have small := within part
    have remainder := Nat.mod_lt total (show 0 < perSecond by decide)
    have second : perSecond + perSecond ≤ 1 <<< 64 := by decide
    rw [if_pos part, Nat.div_one, addGrains?_of_fits (by omega) (fun _ => by omega)
      (by rwa [Nat.mul_one]), Nat.mul_one]
  · have whole : ¬ seconds * perSecond < perSecond := Nat.not_lt.mpr (Nat.le_mul_of_pos_left _ positive)
    rw [same, ← Nat.mul_assoc] at fits
    rw [same, if_neg whole, Nat.mul_div_cancel _ (by decide), ← Nat.mul_assoc]
    have small := Nat.lt_of_mul_lt_mul_right (Nat.lt_of_le_of_lt (Nat.le_add_left _ _) fits)
    exact addGrains?_of_fits small (by intro one; cases one) fits

/-! ### Parts -/

/-- A count of a unit. -/
structure Part where
  count : Nat
  unit : Unit

namespace Part

/-- The name of the unit, which is a word for days and longer ones. -/
def name (part : Part) : String :=
  match part.unit with
  | .nanosecond => "ns"
  | .microsecond => "us"
  | .millisecond => "ms"
  | .second => "s"
  | .minute => "m"
  | .hour => "h"
  | .day => if part.count = 1 then "day" else "days"
  | .week => if part.count = 1 then "week" else "weeks"
  | .month => if part.count = 1 then "month" else "months"
  | .year => if part.count = 1 then "year" else "years"

/-- The text of a part. -/
def text (part : Part) : String := toString part.count ++ part.name

theorem ofName?_name (part : Part) : Unit.ofName? part.name = some part.unit := by
  obtain ⟨count, unit⟩ := part
  cases unit with
  | day | week | month | year =>
    dsimp only [name]
    split <;> rfl
  | _ => rfl

/-- The nanoseconds of a part. -/
def nanoseconds (part : Part) : Nat := part.count * part.unit.nanoseconds

/-- A count of parts of a second does not make up a second. -/
def Within (part : Part) : Prop := part.unit.nanoseconds < perSecond → part.nanoseconds < perSecond

theorem toList_text (part : Part) :
    part.text.toList = Numeral.digits part.count ++ part.name.toList := by
  rw [text, String.toList_append, Nat.toString_eq_repr, Nat.toList_repr]
  rfl

theorem length_text (part : Part) : 2 ≤ part.text.toList.length := by
  have digits := List.length_pos_iff.mpr (Numeral.digits_ne_nil part.count)
  have name := List.length_pos_iff.mpr (Unit.spelled_of_ofName? part.ofName?_name).1
  rw [toList_text, List.length_append]
  omega

/-- A part starts with a digit. -/
theorem exists_digit (part : Part) :
    ∃ digit rest, part.text.toList = digit :: rest ∧ digit.isDigit = true := by
  obtain ⟨digit, digits, same⟩ := List.exists_cons_of_ne_nil (Numeral.digits_ne_nil part.count)
  have member : digit ∈ Numeral.digits part.count := same ▸ List.mem_cons_self
  exact ⟨digit, digits ++ part.name.toList, by rw [toList_text, same, List.cons_append],
    Numeral.isDigit_of_mem_digits member⟩

/-- The nanoseconds of some parts. -/
def sum (parts : List Part) : Nat := (parts.map nanoseconds).sum

theorem sum_nil : sum [] = 0 := rfl

theorem sum_cons (part : Part) (parts : List Part) :
    sum (part :: parts) = part.nanoseconds + sum parts := by
  rw [sum, List.map_cons, List.sum_cons, sum]

/-- The characters of parts with a blank in front of each. -/
def spaced : List Part → List Char
  | [] => []
  | part :: parts => ' ' :: (part.text.toList ++ spaced parts)

theorem head?_spaced (parts : List Part) : ∀ char ∈ (spaced parts).head?, isUnitChar char = false := by
  cases parts with
  | nil => exact fun char member => by cases member
  | cons part parts => rintro char ⟨⟩; decide

theorem length_spaced (parts : List Part) : 2 * parts.length ≤ (spaced parts).length := by
  induction parts with
  | nil => exact Nat.le_refl _
  | cons part parts hypothesis =>
    have text := part.length_text
    rw [spaced, List.length_cons, List.length_cons, List.length_append]
    omega

theorem cons_toList_intercalate {parts : List Part} (nonempty : parts ≠ []) :
    ' ' :: (" ".intercalate (parts.map text)).toList = spaced parts := by
  induction parts with
  | nil => contradiction
  | cons part parts hypothesis =>
    cases parts with
    | nil => simp [spaced]
    | cons next parts =>
      rw [List.map_cons, List.map_cons, String.intercalate_cons_cons, spaced, String.toList_append,
        String.toList_append, ← hypothesis (by simp)]
      simp

end Part

/-! ### Reading parts -/

/-- **A part is read as one item**, which ends where the name of its unit does. -/
theorem item?_part {total : Nat} {part : Part} {rest : List Char} (small : part.count < 1 <<< 64)
    (ends : ∀ char ∈ rest.head?, isUnitChar char = false) :
    item? total (part.text.toList ++ rest) =
      (addWhole? total part.unit part.count).map fun total => (total, rest) := by
  obtain ⟨nonempty, letters⟩ := Unit.spelled_of_ofName? part.ofName?_name
  obtain ⟨letter, others, spelled⟩ := List.exists_cons_of_ne_nil nonempty
  have foreign := isNumberChar_of_isUnitChar (letters letter (spelled ▸ List.mem_cons_self))
  have digit (char : Char) (member : char ∈ Numeral.digits part.count) : char.isDigit = true :=
    Numeral.isDigit_of_mem_digits member
  -- The count ends in front of the name, and the name in front of what follows the part.
  have counting (char : Char) (member : char ∈ Numeral.digits part.count) :
      isNumberChar char = true := by
    rw [isNumberChar, digit char member, Bool.true_or]
  have named : ∀ char ∈ (part.name.toList ++ rest).head?, isNumberChar char = false := by
    rw [spelled]
    rintro char ⟨⟩
    exact foreign.1
  have count := Numeral.takeWhile_dropWhile_append counting named
  have name := Numeral.takeWhile_dropWhile_append letters ends
  have isCount : digitsOf (part.text.toList ++ rest) =
      (Numeral.digits part.count, part.name.toList ++ rest) := by
    rw [digitsOf, Part.toList_text, List.append_assoc, count.1, count.2,
      List.filter_eq_self.mpr digit]
  have noFraction : fractionDigits? (part.name.toList ++ rest) = some ([], part.name.toList ++ rest) := by
    rw [spelled, List.cons_append, fractionDigits?]
    rintro chars ⟨⟩
    exact foreign.2 rfl
  simp only [item?, isCount, Numeral.value?_digits, if_neg (Nat.not_le.mpr small), noFraction, name.1,
    name.2, String.ofList_toList, part.ofName?_name, addFraction?, Option.bind_eq_bind, Option.bind_some]
  cases addWhole? total part.unit part.count <;> rfl

/-- A count fits into 64 bits if the part is a span. -/
theorem Part.count_lt {part : Part} (within : part.Within)
    (fits : part.nanoseconds < (1 <<< 64) * perSecond) : part.count < 1 <<< 64 := by
  rcases part.unit.part_or_seconds with below | ⟨seconds, positive, same⟩
  · have small : part.count ≤ part.nanoseconds :=
      Nat.le_mul_of_pos_right _ (by cases part.unit <;> decide)
    have second : perSecond ≤ 1 <<< 64 := by decide
    have := within below
    omega
  · rw [Part.nanoseconds, same, ← Nat.mul_assoc] at fits
    exact Nat.lt_of_le_of_lt (Nat.le_mul_of_pos_right _ positive) (Nat.lt_of_mul_lt_mul_right fits)

theorem items?_blank (fuel total : Nat) (chars : List Char) :
    items? (fuel + 1) total (' ' :: chars) = items? (fuel + 1) total chars := by
  rw [items?, items?, List.dropWhile_cons_of_pos (by decide)]

/-- **Parts add up as they are read**, each after a blank. -/
theorem items?_spaced {parts : List Part} (within : ∀ part ∈ parts, part.Within) {fuel total : Nat}
    (fuelled : parts.length < fuel) (fits : total + Part.sum parts < (1 <<< 64) * perSecond) :
    items? fuel total (Part.spaced parts) = some (total + Part.sum parts) := by
  induction parts generalizing fuel total with
  | nil =>
    obtain ⟨fuel, rfl⟩ : ∃ less, fuel = less + 1 := Nat.exists_eq_add_one.mpr fuelled
    rfl
  | cons part parts hypothesis =>
    obtain ⟨fuel, rfl⟩ : ∃ less, fuel = less + 1 :=
      Nat.exists_eq_add_one.mpr (Nat.zero_lt_of_lt fuelled)
    obtain ⟨first, others⟩ := List.forall_mem_cons.mp within
    rw [Part.sum_cons, ← Nat.add_assoc] at fits ⊢
    obtain ⟨digit, rest, spelled, isDigit⟩ := part.exists_digit
    have read : item? total (part.text.toList ++ Part.spaced parts) =
        some (total + part.nanoseconds, Part.spaced parts) := by
      rw [item?_part (Part.count_lt first (by omega)) (Part.head?_spaced parts),
        addWhole?_of_fits (Nat.lt_of_le_of_lt (Nat.le_add_right _ _) fits) first, Option.map_some]
      rfl
    rw [Part.spaced, items?_blank, items?, spelled, List.cons_append,
      List.dropWhile_cons_of_neg (by rw [isBlank_of_isDigit isDigit]; decide)]
    simp only [isDigit, if_true, Option.bind_eq_bind]
    rw [← List.cons_append, ← spelled, read, Option.bind_some]
    exact hypothesis others (Nat.lt_of_succ_lt_succ fuelled) fits

/-- **Parts denote their sum**, in any order, if it is a span. -/
theorem ofText?_parts {parts : List Part} (nonempty : parts ≠ [])
    (within : ∀ part ∈ parts, part.Within) (fits : Part.sum parts < (1 <<< 64) * perSecond) :
    ofText? (" ".intercalate (parts.map Part.text)) = some ⟨Part.sum parts, fits⟩ := by
  have joined := Part.cons_toList_intercalate nonempty
  have length := Part.length_spaced parts
  have positive := List.length_pos_iff.mpr nonempty
  generalize " ".intercalate (parts.map Part.text) = text at joined
  have read : items? (text.toList.length + 1) 0 text.toList = some (Part.sum parts) := by
    rw [← joined, List.length_cons] at length
    rw [← items?_blank, joined, items?_spaced within (by omega) (by rwa [Nat.zero_add]),
      Nat.zero_add]
  -- The text has a digit and a letter at least.
  obtain ⟨part, others, rfl⟩ := List.exists_cons_of_ne_nil nonempty
  obtain ⟨digit, rest, spelled, isDigit⟩ := part.exists_digit
  have chars : text.toList = part.text.toList ++ Part.spaced others := (List.cons.inj joined).2
  have noZero : text ≠ "0" := by
    rintro rfl
    have length := congrArg List.length chars
    have two := part.length_text
    rw [List.length_append, show "0".toList.length = 1 from rfl] at length
    omega
  have noBlanks : ¬ text.toList.all isBlank = true := by
    rw [chars, spelled, List.cons_append, List.all_cons, isBlank_of_isDigit isDigit,
      Bool.false_and]
    decide
  rw [ofText?, if_neg noZero, if_neg noBlanks, read, Option.bind_some, of?, dif_pos fits]

/-! ### The parts of a span -/

/-- The parts of a span with those that count nothing. -/
def allParts (span : Span) : List Part :=
  let inYear := span.seconds % 31557600
  let inMonth := inYear % 2630016
  let inDay := inMonth % 86400
  [⟨span.seconds / 31557600, .year⟩, ⟨inYear / 2630016, .month⟩, ⟨inMonth / 86400, .day⟩,
    ⟨inDay / 3600, .hour⟩, ⟨inDay % 3600 / 60, .minute⟩, ⟨inDay % 60, .second⟩,
    ⟨span.subsecond / 1000000, .millisecond⟩, ⟨span.subsecond / 1000 % 1000, .microsecond⟩,
    ⟨span.subsecond % 1000, .nanosecond⟩]

/-- The parts of a span. -/
def parts (span : Span) : List Part := span.allParts.filter fun part => part.count ≠ 0

/-- The text of a part, unless it counts nothing. -/
def Part.written (part : Part) : List String := if part.count = 0 then [] else [part.text]

theorem map_text_filter (parts : List Part) :
    (parts.filter fun part => part.count ≠ 0).map Part.text = parts.flatMap Part.written := by
  induction parts with
  | nil => rfl
  | cons part parts hypothesis =>
    rw [List.flatMap_cons, ← hypothesis, Part.written]
    by_cases none : part.count = 0 <;> simp [none]

theorem countedPlural_eq (part : Part) {word : String}
    (plural : part.name = word ++ if part.count = 1 then "" else "s") :
    countedPlural part.count word = part.written := by
  rw [countedPlural, Part.written, Part.text, plural, String.append_assoc]

theorem itemTexts_eq (span : Span) : span.itemTexts = span.parts.map Part.text := by
  have plural (count : Nat) (one : String) :
      (if count = 1 then one else one ++ "s") = one ++ if count = 1 then "" else "s" := by
    split <;> simp
  have year (count : Nat) := countedPlural_eq ⟨count, .year⟩ (plural count "year")
  have month (count : Nat) := countedPlural_eq ⟨count, .month⟩ (plural count "month")
  have day (count : Nat) := countedPlural_eq ⟨count, .day⟩ (plural count "day")
  have hour (count : Nat) : counted count "h" = Part.written ⟨count, .hour⟩ := rfl
  have minute (count : Nat) : counted count "m" = Part.written ⟨count, .minute⟩ := rfl
  have second (count : Nat) : counted count "s" = Part.written ⟨count, .second⟩ := rfl
  have millisecond (count : Nat) : counted count "ms" = Part.written ⟨count, .millisecond⟩ := rfl
  have microsecond (count : Nat) : counted count "us" = Part.written ⟨count, .microsecond⟩ := rfl
  have nanosecond (count : Nat) : counted count "ns" = Part.written ⟨count, .nanosecond⟩ := rfl
  simp only [parts, map_text_filter, allParts, List.flatMap_cons, List.flatMap_nil, List.append_nil,
    itemTexts, List.append_assoc, year, month, day, hour, minute, second, millisecond, microsecond,
    nanosecond]

theorem sum_filter (parts : List Part) :
    Part.sum (parts.filter fun part => part.count ≠ 0) = Part.sum parts := by
  induction parts with
  | nil => rfl
  | cons part parts hypothesis =>
    by_cases none : part.count = 0
    · have nothing : part.nanoseconds = 0 := by rw [Part.nanoseconds, none, Nat.zero_mul]
      rw [List.filter_cons_of_neg (by simpa using none), hypothesis, Part.sum_cons, nothing,
        Nat.zero_add]
    · rw [List.filter_cons_of_pos (by simpa using none), Part.sum_cons, Part.sum_cons, hypothesis]

/-- Seconds are counted by years, months, days, hours, minutes and seconds. -/
theorem calendar_eq (seconds : Nat) :
    seconds / 31557600 * 31557600 + (seconds % 31557600 / 2630016 * 2630016 +
      (seconds % 31557600 % 2630016 / 86400 * 86400 +
        (seconds % 31557600 % 2630016 % 86400 / 3600 * 3600 +
          (seconds % 31557600 % 2630016 % 86400 % 3600 / 60 * 60 +
            seconds % 31557600 % 2630016 % 86400 % 60)))) = seconds := by
  omega

/-- Nanoseconds are counted by milliseconds, microseconds and nanoseconds. -/
theorem fraction_eq (nanoseconds : Nat) :
    nanoseconds / 1000000 * 1000000 + (nanoseconds / 1000 % 1000 * 1000 + nanoseconds % 1000) =
      nanoseconds := by
  omega

/-- **The parts of a span add up to it.** -/
theorem sum_parts (span : Span) : Part.sum span.parts = span.nanoseconds := by
  calc Part.sum span.parts = Part.sum span.allParts := sum_filter _
    _ = span.seconds * perSecond + span.subsecond := by
      simp only [allParts, Part.sum_cons, Part.sum_nil, Part.nanoseconds, Unit.nanoseconds]
      conv_rhs => rw [← calendar_eq span.seconds, ← fraction_eq span.subsecond]
      ring
    _ = span.nanoseconds := Nat.div_add_mod' _ _

/-- The milliseconds, microseconds and nanoseconds of a span are less than a second. -/
theorem within_parts (span : Span) : ∀ part ∈ span.parts, part.Within := by
  have fraction : span.subsecond < perSecond := Nat.mod_lt _ (by decide)
  intro part member
  have among := (List.mem_filter.mp member).1
  simp only [allParts, List.mem_cons, List.not_mem_nil, or_false] at among
  rcases among with rfl | rfl | rfl | rfl | rfl | rfl | rfl | rfl | rfl <;>
    simp only [Part.Within, Part.nanoseconds, Unit.nanoseconds] <;>
    omega

/-- **The text of a span denotes it**, whatever its length. -/
theorem ofText?_text (span : Span) : ofText? span.text = some span := by
  by_cases zero : span.nanoseconds = 0
  · have none : span = Span.zero := by
      obtain ⟨_, _⟩ := span
      cases zero
      rfl
    rw [none]
    decide
  have fits : Part.sum span.parts < (1 <<< 64) * perSecond := span.sum_parts ▸ span.bounded
  have nonempty : span.parts ≠ [] := by
    intro none
    rw [← sum_parts, none] at zero
    exact zero rfl
  rw [text, if_neg zero, itemTexts_eq, ofText?_parts nonempty span.within_parts fits]
  simp only [sum_parts]

example : text ⟨(1 <<< 64) * perSecond - 1, by decide⟩ =
    "584542046090years 7months 15days 17h 5m 3s 999ms 999us 999ns" := by decide

/-- Seconds that 64 bits hold and nanoseconds below a second make a span. -/
theorem exists_of_seconds {seconds nanoseconds : Nat} (fits : seconds < 1 <<< 64)
    (below : nanoseconds < perSecond) :
    ∃ span : Span, span.seconds = seconds ∧ span.subsecond = nanoseconds := by
  have bounded : seconds * perSecond + nanoseconds < (1 <<< 64) * perSecond :=
    calc seconds * perSecond + nanoseconds < (seconds + 1) * perSecond := by
          rw [Nat.succ_mul]
          exact Nat.add_lt_add_left below _
      _ ≤ (1 <<< 64) * perSecond := Nat.mul_le_mul_right _ fits
  have whole : (seconds * perSecond + nanoseconds) / perSecond = seconds := by
    rw [Nat.mul_comm, Nat.mul_add_div (by decide), Nat.div_eq_of_lt below, Nat.add_zero]
  have rest : (seconds * perSecond + nanoseconds) % perSecond = nanoseconds := by
    rw [Nat.mul_comm, Nat.mul_add_mod, Nat.mod_eq_of_lt below]
  exact ⟨⟨seconds * perSecond + nanoseconds, bounded⟩, whole, rest⟩

end ClientAssertion.Span
