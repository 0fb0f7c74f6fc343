/-
**Timestamps are read back from their text.**

* `number?_padded`: a number that was padded to a width is read with that width;
* `fraction?_fractionChars` and `offset?_offsetChars`: so are the fraction without its trailing
  zeros and the offset;
* `date?_dateChars` and `clock?_timeChars`: so are the date, if its year has four digits, and the time
  of day;
* `ofText?_text`: the text of a timestamp whose year has four digits reads as the timestamp;
* `hasYear_of_ofText?`: and every timestamp that was read has such a year.
-/

import ClientAssertion.Proofs.Text.Numeral
import ClientAssertion.Time.Timestamp
import Mathlib.Tactic.SplitIfs

namespace ClientAssertion.Timestamp

/-! ### The parts of a timestamp -/

theorem number?_padded {width value : Nat} (fits : value < Nat.pow 10 width) (rest : List Char) :
    number? width (Numeral.padded width value ++ rest) = some (value, rest) := by
  have length := Numeral.length_lastDigits width value
  have digits : (Numeral.lastDigits width value).all Char.isDigit = true :=
    List.all_eq_true.mpr fun _ => Numeral.isDigit_of_mem_lastDigits
  rw [Numeral.padded_of_lt fits, number?, List.take_left' length, List.drop_left' length,
    if_pos ⟨length, digits⟩, Numeral.ofDigits_lastDigits, Nat.mod_eq_of_lt fits]

theorem after?_cons (char : Char) (chars : List Char) : after? char (char :: chars) = some chars :=
  if_pos rfl

theorem part?_padded {value : Nat} (fits : value < Nat.pow 10 2) (expected : Char)
    (rest : List Char) :
    part? expected (expected :: Numeral.padded 2 value ++ rest) = some (value, rest) := by
  rw [part?, List.cons_append, after?_cons, Option.bind_eq_bind, Option.bind_some,
    number?_padded fits]

/-- The fraction ends where no digit follows it; none is written for zero. -/
theorem fraction?_fractionChars {nanosecond : Nat} (fits : nanosecond < 1000000000)
    {rest : List Char} (ends : ∀ char ∈ rest.head?, char.isDigit = false ∧ char ≠ '.') :
    fraction? (fractionChars nanosecond ++ rest) = some (nanosecond, rest) := by
  by_cases none : nanosecond = 0
  · subst none
    cases rest with
    | nil => rfl
    | cons char rest =>
      rw [fractionChars, if_pos rfl, List.nil_append, fraction?]
      rintro _ ⟨rfl⟩
      exact (ends _ rfl).2 rfl
  · have fits : nanosecond < Nat.pow 10 9 := fits
    have digits : ∀ char ∈ Numeral.fraction 9 nanosecond, char.isDigit = true :=
      fun _ => Numeral.isDigit_of_mem_fraction
    obtain ⟨taken, dropped⟩ :=
      Numeral.takeWhile_dropWhile_append digits fun char first => (ends char first).1
    obtain ⟨short, denoted⟩ := Numeral.ofDigits_fraction fits
    rw [fractionChars, if_neg none, List.cons_append, fraction?, taken, dropped]
    simp only [if_neg (Numeral.fraction_ne_nil fits none), List.take_of_length_le short]
    exact congrArg (fun number => some (number, rest)) denoted

theorem offset?_signed {sign : Char} (isSign : sign = '+' ∨ sign = '-') {hours minutes : Nat}
    (hours_lt : hours < 24) (minutes_lt : minutes < 60) :
    offset? (sign :: Numeral.padded 2 hours ++ ':' :: Numeral.padded 2 minutes) =
      some (if sign = '-' then -(hours * 60 + minutes : Int) else hours * 60 + minutes) := by
  have fit_hours : hours < Nat.pow 10 2 := Nat.lt_trans hours_lt (by decide)
  have fit_minutes : minutes < Nat.pow 10 2 := Nat.lt_trans minutes_lt (by decide)
  have last := part?_padded fit_minutes ':' []
  rw [List.append_nil] at last
  rw [List.cons_append, offset?]
  · have known : ¬(sign ≠ '+' ∧ sign ≠ '-') := by
      rcases isSign with rfl | rfl <;> decide
    simp only [if_neg known, number?_padded fit_hours, Option.bind_eq_bind, Option.bind_some, last]
    exact if_neg (not_or.mpr ⟨fun more => more rfl, by omega⟩)
  · rcases isSign with rfl | rfl <;> rintro ⟨⟩
  · rcases isSign with rfl | rfl <;> rintro ⟨⟩

theorem offset?_offsetChars {offset : Int} (valid : -1440 < offset ∧ offset < 1440) :
    offset? (offsetChars offset) = some offset := by
  by_cases none : offset = 0
  · subst none
    rfl
  · have isSign : (if offset < 0 then '-' else '+') = '+' ∨ (if offset < 0 then '-' else '+') = '-' := by
      split
      · exact .inr rfl
      · exact .inl rfl
    rw [offsetChars, if_neg none, offset?_signed isSign (by omega) (by omega)]
    congr 1
    by_cases behind : offset < 0
    · rw [if_pos behind, if_pos rfl]
      omega
    · rw [if_neg behind, if_neg (by decide)]
      omega

theorem ends_offsetChars (offset : Int) :
    ∀ char ∈ (offsetChars offset).head?, char.isDigit = false ∧ char ≠ '.' := by
  unfold offsetChars
  split
  · rintro _ ⟨rfl⟩
    decide
  · split <;>
    · rintro _ ⟨rfl⟩
      decide

/-! ### Dates and times of day -/

/-- A year has four digits. -/
def IsYear (year : Int) : Prop := 0 ≤ year ∧ year ≤ 9999

theorem date_of?_eq (date : Date) : Date.of? date.year date.month date.day = some date :=
  dif_pos date.valid

theorem timeOfDay_of?_eq (time : TimeOfDay) :
    TimeOfDay.of? time.hour time.minute time.second time.nanosecond = some time :=
  dif_pos time.valid

theorem day_lt (date : Date) : date.day < 100 := by
  have := date.valid
  have : daysInMonth date.year date.month ≤ 31 := by
    unfold daysInMonth
    split <;> (try split) <;> decide
  omega

/-- A date is read back if its year has four digits. -/
theorem date?_dateChars {date : Date} (isYear : IsYear date.year) (rest : List Char) :
    date? (dateChars date ++ rest) = some (date, rest) := by
  obtain ⟨least, greatest⟩ := isYear
  obtain ⟨⟨-, month_le⟩, -⟩ := date.valid
  have fit_year : date.year.toNat < Nat.pow 10 4 := by
    have : Nat.pow 10 4 = 10000 := rfl
    omega
  have fit_month : date.month < Nat.pow 10 2 := Nat.lt_of_le_of_lt month_le (by decide)
  have made : Date.of? date.year.toNat date.month date.day = some date := by
    rw [Int.toNat_of_nonneg least]
    exact date_of?_eq date
  simp only [date?, dateChars, List.append_assoc, number?_padded fit_year, part?_padded fit_month,
    part?_padded (day_lt date), made, Option.bind_eq_bind, Option.bind_some, Option.pure_def]

/-- A time of day is read back as its numbers, where no fraction follows it. -/
theorem clock?_timeChars (time : TimeOfDay) {rest : List Char}
    (ends : ∀ char ∈ rest.head?, char.isDigit = false ∧ char ≠ '.') :
    clock? (timeChars time ++ rest) =
      some (⟨time.hour, time.minute, time.second, time.nanosecond⟩, rest) := by
  obtain ⟨hour_lt, minute_lt, second_lt, nanosecond_lt⟩ := time.valid
  have fit_hour : time.hour < Nat.pow 10 2 := Nat.lt_trans hour_lt (by decide)
  have fit_minute : time.minute < Nat.pow 10 2 := Nat.lt_trans minute_lt (by decide)
  have fit_second : time.second < Nat.pow 10 2 := Nat.lt_trans second_lt (by decide)
  simp only [clock?, timeChars, List.append_assoc, number?_padded fit_hour, part?_padded fit_minute,
    part?_padded fit_second, fraction?_fractionChars nanosecond_lt ends, Option.bind_eq_bind,
    Option.bind_some, Option.pure_def]

theorem year_of_date_of? {year : Int} {month day : Nat} {date : Date}
    (made : Date.of? year month day = some date) : date.year = year := by
  rw [Date.of?] at made
  split_ifs at made
  cases made
  rfl

theorem lt_of_number? {width value : Nat} {chars rest : List Char}
    (read : number? width chars = some (value, rest)) : value < Nat.pow 10 width := by
  rw [number?] at read
  split_ifs at read with digits
  cases read
  have bounded := Numeral.ofDigits_lt (List.all_eq_true.mp digits.2)
  rwa [digits.1] at bounded

/-- The date that was read has a year of four digits. -/
theorem isYear_of_date? {chars rest : List Char} {date : Date}
    (read : date? chars = some (date, rest)) : IsYear date.year := by
  simp only [date?, Option.bind_eq_bind, Option.bind_eq_some_iff] at read
  obtain ⟨⟨year, _⟩, isYear, ⟨month, _⟩, -, ⟨day, _⟩, -, _, made, ⟨⟩⟩ := read
  have small : year < 10000 := lt_of_number? isYear
  rw [year_of_date_of? made]
  exact ⟨Int.natCast_nonneg year, by omega⟩

/-! ### Whole timestamps -/

/-- The year of a timestamp has four digits. -/
def HasYear (timestamp : Timestamp) : Prop := IsYear timestamp.date.year

theorem of?_eq (timestamp : Timestamp) :
    of? timestamp.date timestamp.time timestamp.offset = some timestamp :=
  dif_pos timestamp.offset_valid

/-- The numbers of a time of day make no leap second. -/
theorem ofClock?_eq (timestamp : Timestamp) :
    ofClock? timestamp.date ⟨timestamp.time.hour, timestamp.time.minute, timestamp.time.second,
      timestamp.time.nanosecond⟩ timestamp.offset = some timestamp := by
  obtain ⟨-, -, second_lt, -⟩ := timestamp.time.valid
  rw [ofClock?, if_neg (Nat.ne_of_lt second_lt), timeOfDay_of?_eq]
  exact timestamp.of?_eq

/-- **The text of a timestamp reads as the timestamp**, if its year has four digits. -/
theorem ofText?_text {timestamp : Timestamp} (hasYear : timestamp.HasYear) :
    ofText? timestamp.text = some timestamp := by
  have separated (chars : List Char) : afterSeparator? ('T' :: chars) = some chars := rfl
  simp only [ofText?, text, String.toList_ofList, chars, ofChars?, List.append_assoc, List.cons_append,
    date?_dateChars hasYear, separated, clock?_timeChars _ (ends_offsetChars _),
    offset?_offsetChars timestamp.offset_valid, Option.bind_eq_bind, Option.bind_some]
  exact timestamp.ofClock?_eq

/-! ### What was read -/

theorem date_of_of? {date : Date} {time : TimeOfDay} {offset : Int} {timestamp : Timestamp}
    (made : of? date time offset = some timestamp) : timestamp.date = date := by
  rw [of?] at made
  split_ifs at made
  cases made
  rfl

/-- A timestamp has the date that was read, at a leap second, too. -/
theorem date_of_ofClock? {date : Date} {clock : Clock} {offset : Int} {timestamp : Timestamp}
    (made : ofClock? date clock offset = some timestamp) : timestamp.date = date := by
  rw [ofClock?] at made
  split_ifs at made with leap
  · simp only [Option.bind_eq_bind, Option.bind_eq_some_iff] at made
    obtain ⟨_, -, before, isBefore, kept⟩ := made
    split_ifs at kept
    cases kept
    exact date_of_of? isBefore
  · obtain ⟨_, -, last⟩ := Option.bind_eq_some_iff.mp made
    exact date_of_of? last

/-- **A timestamp that was read has a year of four digits.** -/
theorem hasYear_of_ofText? {text : String} {timestamp : Timestamp}
    (read : ofText? text = some timestamp) : timestamp.HasYear := by
  simp only [ofText?, ofChars?, Option.bind_eq_bind, Option.bind_eq_some_iff] at read
  obtain ⟨⟨date, _⟩, isDate, ⟨clock, _⟩, -, offset, -, made⟩ := read
  rw [HasYear, date_of_ofClock? made]
  exact isYear_of_date? isDate

end ClientAssertion.Timestamp
