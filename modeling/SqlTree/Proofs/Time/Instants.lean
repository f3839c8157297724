import SqlTree.Proofs.Decimal.Digits
import SqlTree.Proofs.Time.Days
import SqlTree.Scalar

/-!
# Instants and their text

The text of a timestamp inside a statement tells the instant, to the microsecond and no further: the
fields of the clock can be read off it one by one, from the last to the first, and the clock tells
the second.  The offset at which the timestamp was recorded plays no part.
-/

namespace SqlTree.Time

open Decimal (numberOf padded digitsOf)

/-! ## Fields -/

/-- The year that a text of years tells. -/
def yearOfText : List Char → Int
  | '-' :: digits => -numberOf digits
  | '+' :: digits => numberOf digits
  | digits => numberOf digits

theorem yearOfText_of_isDigit {digits : List Char}
    (allDigits : ∀ character ∈ digits, character.isDigit = true) :
    yearOfText digits = numberOf digits := by
  unfold yearOfText
  split
  · exact absurd (allDigits '-' List.mem_cons_self) (by decide)
  · rfl
  · rfl

/-- The text of a year tells the year. -/
theorem yearOfText_yearText (year : Int) : yearOfText (yearText year) = year := by
  unfold yearText
  split
  · next negative =>
    simp only [yearOfText, Decimal.numberOf_padded]
    omega
  · next notNegative =>
    split
    · simp only [yearOfText, Decimal.numberOf_padded]
      omega
    · rw [yearOfText_of_isDigit fun _ => Decimal.isDigit_of_mem_padded, Decimal.numberOf_padded]
      omega

theorem length_twoDigits {number : Nat} (fits : number < 100) : (twoDigits number).length = 2 :=
  Decimal.length_padded (by decide) fits

/-- A field of two digits at the end of a text can be read off it. -/
theorem append_twoDigits_inj {first second : List Char} {mark : Char} {number other : Nat}
    (fits : number < 100) (otherFits : other < 100)
    (same : first ++ mark :: twoDigits number = second ++ mark :: twoDigits other) :
    first = second ∧ number = other := by
  have sameLength : (mark :: twoDigits number).length = (mark :: twoDigits other).length := by
    rw [List.length_cons, List.length_cons, length_twoDigits fits, length_twoDigits otherFits]
  obtain ⟨sameFront, sameField⟩ := List.append_inj' same sameLength
  have sameNumber := congrArg numberOf (List.cons.inj sameField).2
  rw [twoDigits, twoDigits, Decimal.numberOf_padded, Decimal.numberOf_padded] at sameNumber
  exact ⟨sameFront, sameNumber⟩

/-! ## Clocks -/

namespace ClockReading

/-- The text of the date and of the time of day. -/
def text (reading : ClockReading) : List Char :=
  reading.date.text ++ ' ' :: reading.timeText

/-- All fields but the year are numbers of two digits. -/
structure FitsFields (reading : ClockReading) : Prop where
  month : reading.date.month < 100
  day : reading.date.day < 100
  hour : reading.hour < 100
  minute : reading.minute < 100
  second : reading.second < 100

theorem fitsFields_ofSeconds (seconds : Int) (leap : Bool) : (ofSeconds seconds leap).FitsFields := by
  obtain ⟨month, day⟩ := dateOfDay_bounds (seconds / 86400)
  refine ⟨month, day, ?_, ?_, ?_⟩
  · simp only [ofSeconds]
    omega
  · simp only [ofSeconds]
    omega
  · simp only [ofSeconds]
    split <;> omega

theorem text_eq (reading : ClockReading) :
    reading.text = yearText reading.date.year ++ '-' :: twoDigits reading.date.month ++
      '-' :: twoDigits reading.date.day ++ ' ' :: twoDigits reading.hour ++
      ':' :: twoDigits reading.minute ++ ':' :: twoDigits reading.second := by
  simp [text, timeText, CalendarDate.text]

/-- Clocks that show the same text show the same. -/
theorem eq_of_text {first second : ClockReading} (firstFits : first.FitsFields)
    (secondFits : second.FitsFields) (same : first.text = second.text) : first = second := by
  rw [text_eq, text_eq] at same
  obtain ⟨same, sameSecond⟩ := append_twoDigits_inj firstFits.second secondFits.second same
  obtain ⟨same, sameMinute⟩ := append_twoDigits_inj firstFits.minute secondFits.minute same
  obtain ⟨same, sameHour⟩ := append_twoDigits_inj firstFits.hour secondFits.hour same
  obtain ⟨same, sameDay⟩ := append_twoDigits_inj firstFits.day secondFits.day same
  obtain ⟨same, sameMonth⟩ := append_twoDigits_inj firstFits.month secondFits.month same
  have sameYear := congrArg yearOfText same
  rw [yearOfText_yearText, yearOfText_yearText] at sameYear
  obtain ⟨⟨year, month, day⟩, hour, minute, shown⟩ := first
  obtain ⟨⟨_, _, _⟩, _, _, _⟩ := second
  simp only at sameYear sameMonth sameDay sameHour sameMinute sameSecond
  subst sameYear sameMonth sameDay sameHour sameMinute sameSecond
  rfl

theorem point_notMem_text (reading : ClockReading) : '.' ∉ reading.text := by
  have noPoint {width number : Nat} : '.' ∉ padded width (digitsOf number) := fun member =>
    absurd (Decimal.isDigit_of_mem_padded member) (by decide)
  have noPointInYear : '.' ∉ yearText reading.date.year := by
    unfold yearText
    split
    · simp [noPoint]
    · split <;> simp [noPoint]
  simp [text_eq, twoDigits, noPoint, noPointInYear]

end ClockReading

/-! ## Instants -/

namespace Timestamp

/-- The second of universal time that the timestamp lies in: its minute since 1970-01-01T00:00Z, and
its place in the minute, which is 60 for a leap second at the end of the minute. -/
def universalSecond (time : Timestamp) : Int × Nat :=
  (time.seconds / 60, (time.seconds % 60).toNat + if time.isLeap then 1 else 0)

/-- If the timestamp lies in a leap second, this is one at the end of a minute. -/
def leapEndsMinute (time : Timestamp) : Prop :=
  time.isLeap = true → time.seconds % 60 = 59

/-- A clock tells the second, and nothing else. -/
theorem universalReading_eq_iff (first second : Timestamp) :
    first.universalReading = second.universalReading ↔
      first.universalSecond = second.universalSecond := by
  unfold universalReading ClockReading.ofSeconds universalSecond
  simp only [ClockReading.mk.injEq, Prod.mk.injEq]
  constructor
  · rintro ⟨sameDate, sameHour, sameMinute, sameSecond⟩
    have sameDay := dateOfDay_injective sameDate
    omega
  · rintro ⟨sameMinute, sameSecond⟩
    have sameDay : first.seconds / 86400 = second.seconds / 86400 := by omega
    refine ⟨congrArg dateOfDay sameDay, ?_, ?_, ?_⟩ <;> omega

/-- The leap seconds at the ends of minutes are seconds of their own. -/
theorem universalSecond_eq_iff {first second : Timestamp} (firstEnds : first.leapEndsMinute)
    (secondEnds : second.leapEndsMinute) :
    first.universalSecond = second.universalSecond ↔
      first.seconds = second.seconds ∧ first.isLeap = second.isLeap := by
  unfold universalSecond
  rw [Prod.mk.injEq]
  cases firstLeap : first.isLeap with
  | false =>
    cases secondLeap : second.isLeap with
    | false =>
      simp only [Bool.false_eq_true, if_false, and_true]
      omega
    | true =>
      have lastOfMinute := secondEnds secondLeap
      simp only [Bool.false_eq_true, if_false, if_true, and_false, iff_false]
      omega
  | true =>
    have lastOfMinute := firstEnds firstLeap
    cases secondLeap : second.isLeap with
    | false =>
      simp only [Bool.false_eq_true, Bool.true_eq_false, if_false, if_true, and_false, iff_false]
      omega
    | true =>
      simp only [if_true, and_true]
      omega

/-! ## Fractions -/

theorem microseconds_lt (time : Timestamp) : time.microseconds < 1000000 := by
  unfold microseconds fraction nanosecondsPerSecond
  omega

/-- A fraction is shown by at most six digits, the last one not zero, which write the number of
microseconds when zeros fill the six places. -/
theorem exists_microsecondText {microseconds : Nat} (positive : microseconds ≠ 0)
    (bounded : microseconds < 1000000) :
    ∃ digits, microsecondText microseconds = '.' :: digits ∧ 1 ≤ digits.length ∧
      digits.length ≤ 6 ∧ (∀ digit ∈ digits, digit.isDigit = true) ∧
      digits.getLast? ≠ some '0' ∧
      numberOf (digits ++ List.replicate (6 - digits.length) '0') = microseconds := by
  have sixPlaces : (padded 6 (digitsOf microseconds)).length = 6 :=
    Decimal.length_padded (by decide) bounded
  have front : (padded 6 (digitsOf microseconds)).rdropWhile (· == '0') <+:
      padded 6 (digitsOf microseconds) := List.rdropWhile_prefix _ _
  have filled := Decimal.append_endZeros (padded 6 (digitsOf microseconds))
  rw [sixPlaces] at filled
  refine ⟨(padded 6 (digitsOf microseconds)).rdropWhile (· == '0'), ?_, ?_, ?_, ?_, ?_, ?_⟩
  · rw [microsecondText, if_neg positive]
    rfl
  · exact List.length_pos_of_ne_nil (Decimal.rdropWhile_zeros_ne_nil positive 6)
  · exact front.length_le.trans_eq sixPlaces
  · exact fun digit member => Decimal.isDigit_of_mem_padded (front.subset member)
  · exact Decimal.getLast?_rdropWhile_zeros _
  · rw [filled, Decimal.numberOf_padded]

theorem eq_of_microsecondText {first second : Nat} (firstBounded : first < 1000000)
    (secondBounded : second < 1000000)
    (same : microsecondText first = microsecondText second) : first = second := by
  by_cases firstZero : first = 0
  · by_cases secondZero : second = 0
    · rw [firstZero, secondZero]
    · obtain ⟨digits, shown, -⟩ := exists_microsecondText secondZero secondBounded
      rw [firstZero, shown] at same
      cases same
  · obtain ⟨digits, shown, -, -, -, -, firstEq⟩ := exists_microsecondText firstZero firstBounded
    by_cases secondZero : second = 0
    · rw [secondZero, shown] at same
      cases same
    · obtain ⟨others, shownToo, -, -, -, -, secondEq⟩ :=
        exists_microsecondText secondZero secondBounded
      rw [shown, shownToo] at same
      obtain rfl : digits = others := (List.cons.inj same).2
      rw [← firstEq, secondEq]

/-! ## Texts -/

/-- What stands before a fraction, and the fraction, can be read off their text: the fraction begins
at the point. -/
theorem append_fraction_inj {whole otherWhole : List Char} (noPoint : '.' ∉ whole)
    (otherNoPoint : '.' ∉ otherWhole) {first second : Nat} (firstBounded : first < 1000000)
    (secondBounded : second < 1000000)
    (same : whole ++ microsecondText first = otherWhole ++ microsecondText second) :
    whole = otherWhole ∧ first = second := by
  have wholeOf {front : List Char} (noPointInFront : '.' ∉ front) (microseconds : Nat) :
      (front ++ microsecondText microseconds).takeWhile (· != '.') = front := by
    have allBefore : ∀ character ∈ front, (character != '.') = true := by
      intro character member
      simpa using ne_of_mem_of_not_mem member noPointInFront
    rw [List.takeWhile_append_of_pos allBefore, microsecondText]
    split <;> simp
  have sameWhole : whole = otherWhole := by
    rw [← wholeOf noPoint first, same, wholeOf otherNoPoint second]
  subst sameWhole
  exact ⟨rfl, eq_of_microsecondText firstBounded secondBounded (List.append_cancel_left same)⟩

theorem inlineText_eq (time : Timestamp) :
    time.inlineText =
      time.universalReading.text ++ microsecondText time.microseconds ++ "+00".toList :=
  rfl

/-- The text inside a statement tells the second and the microsecond, and nothing else. -/
theorem inlineText_eq_iff (first second : Timestamp) :
    first.inlineText = second.inlineText ↔
      first.universalSecond = second.universalSecond ∧
        first.microseconds = second.microseconds := by
  rw [inlineText_eq, inlineText_eq, List.append_cancel_right_eq, ← universalReading_eq_iff]
  constructor
  · intro same
    obtain ⟨sameText, sameMicroseconds⟩ := append_fraction_inj
      (ClockReading.point_notMem_text _) (ClockReading.point_notMem_text _)
      first.microseconds_lt second.microseconds_lt same
    have sameReading := ClockReading.eq_of_text (ClockReading.fitsFields_ofSeconds _ _)
      (ClockReading.fitsFields_ofSeconds _ _) sameText
    exact ⟨sameReading, sameMicroseconds⟩
  · rintro ⟨sameReading, sameMicroseconds⟩
    rw [sameReading, sameMicroseconds]

end Timestamp

end SqlTree.Time

namespace SqlTree.Scalar

open Time

/-- For every two timestamps, the texts inside a statement are the same if and only if both lie in
the same second of universal time, a leap second being one of its own, and in the same microsecond
of it.  Leap seconds are put at the end of a minute; one anywhere else is counted as the second
after it, and so it shares its text with that second.  The offset plays no part.  The text has a
fraction if there are microseconds, of one to six digits, the last of which is not zero, and filled
up to six places they write the number of microseconds. -/
theorem inline_of_timestamps (first second : Timestamp) :
    ((time first).inline = (time second).inline ↔
      first.universalSecond = second.universalSecond ∧
        first.microseconds = second.microseconds) ∧
    (first.leapEndsMinute → second.leapEndsMinute →
      (first.universalSecond = second.universalSecond ↔
        first.seconds = second.seconds ∧ first.isLeap = second.isLeap)) ∧
    (∀ offset, (time { first with offset }).inline = (time first).inline) ∧
    ∃ whole fraction : String,
      (time first).inline = "'" ++ whole ++ fraction ++ "+00'" ∧ '.' ∉ whole.toList ∧
      (first.microseconds = 0 → fraction = "") ∧
      (first.microseconds ≠ 0 → ∃ digits, fraction = "." ++ String.ofList digits ∧
        1 ≤ digits.length ∧ digits.length ≤ 6 ∧ (∀ digit ∈ digits, digit.isDigit = true) ∧
        digits.getLast? ≠ some '0' ∧
        Decimal.numberOf (digits ++ List.replicate (6 - digits.length) '0') =
          first.microseconds) := by
  refine ⟨?_, Timestamp.universalSecond_eq_iff, fun offset => rfl,
    String.ofList first.universalReading.text,
    String.ofList (Timestamp.microsecondText first.microseconds), ?_, ?_, ?_, ?_⟩
  · rw [← Timestamp.inlineText_eq_iff]
    constructor
    · intro same
      have sameCharacters := congrArg String.toList same
      simpa [inline] using sameCharacters
    · intro same
      rw [inline, inline, same]
  · rw [inline, Timestamp.inlineText_eq]
    apply String.toList_injective
    simp
  · rw [String.toList_ofList]
    exact first.universalReading.point_notMem_text
  · intro none
    rw [none]
    rfl
  · intro positive
    obtain ⟨digits, shown, rest⟩ :=
      Timestamp.exists_microsecondText positive first.microseconds_lt
    refine ⟨digits, ?_, rest⟩
    rw [shown]
    apply String.toList_injective
    simp

/-- A leap second has a text of its own, the same with every offset and whatever stands behind the
microseconds. -/
theorem inline_of_leap_second :
    Timestamp.leapEndsMinute ⟨1483228799, 1500000000, 3600⟩ ∧
      (time ⟨1483228799, 1500000000, 3600⟩).inline =
        (time ⟨1483228799, 1500000999, -7200⟩).inline ∧
      (time ⟨1483228799, 1500000000, 3600⟩).inline ≠ (time ⟨1483228799, 500000000, 0⟩).inline := by
  have ends : Timestamp.leapEndsMinute ⟨1483228799, 1500000000, 3600⟩ := fun _ => by decide
  have endsToo : Timestamp.leapEndsMinute ⟨1483228799, 1500000999, -7200⟩ := fun _ => by decide
  have ordinary : Timestamp.leapEndsMinute ⟨1483228799, 500000000, 0⟩ := fun _ => by decide
  refine ⟨ends, ?_, fun same => ?_⟩
  · obtain ⟨same, seconds, -⟩ :=
      inline_of_timestamps ⟨1483228799, 1500000000, 3600⟩ ⟨1483228799, 1500000999, -7200⟩
    exact same.mpr ⟨(seconds ends endsToo).mpr (by decide), by decide⟩
  · obtain ⟨sameText, seconds, -⟩ :=
      inline_of_timestamps ⟨1483228799, 1500000000, 3600⟩ ⟨1483228799, 500000000, 0⟩
    have sameSecond := (seconds ends ordinary).mp (sameText.mp same).1
    exact absurd sameSecond.2 (by decide)

end SqlTree.Scalar
