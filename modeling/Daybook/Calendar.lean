import Daybook.Text.Split

/-!
# Calendar dates

Dates of the Gregorian calendar, extended to all years from -262143 to 262142: which there are, how
they are counted, and how they are written and read.
-/

namespace Daybook

/-! ## Dates

A `Date` carries the proof that its day exists, so a date that is at hand needs no further check.
-/

-- A year is leap if 4 divides it, full centuries only if 400 does.
def isLeapYear (year : Int) : Bool :=
  year % 400 == 0 || (year % 4 == 0 && year % 100 != 0)

def monthLengths (leap : Bool) : List Nat :=
  [31, if leap then 29 else 28, 31, 30, 31, 30, 31, 31, 30, 31, 30, 31]

/-- The days of one month; a month outside 1 to 12 has none. -/
def daysInMonth (year : Int) : Nat → Nat
  | 0 => 0
  | month + 1 => (monthLengths (isLeapYear year)).getD month 0

def firstYear : Int := -262143

def lastYear : Int := 262142

structure IsDate (year : Int) (month day : Nat) : Prop where
  firstYear_le : firstYear ≤ year
  le_lastYear : year ≤ lastYear
  one_le_day : 1 ≤ day
  day_le : day ≤ daysInMonth year month

instance (year : Int) (month day : Nat) : Decidable (IsDate year month day) :=
  decidable_of_iff
    (firstYear ≤ year ∧ year ≤ lastYear ∧ 1 ≤ day ∧ day ≤ daysInMonth year month)
    ⟨fun ⟨h₁, h₂, h₃, h₄⟩ => ⟨h₁, h₂, h₃, h₄⟩, fun ⟨h₁, h₂, h₃, h₄⟩ => ⟨h₁, h₂, h₃, h₄⟩⟩

structure Date where
  year : Int
  month : Nat
  day : Nat
  isDate : IsDate year month day
deriving DecidableEq

namespace Date

def of? (year : Int) (month day : Nat) : Option Date :=
  if h : IsDate year month day then some ⟨year, month, day, h⟩ else none

/-- A date is made of its parts whenever there is one with these parts. -/
theorem of?_eq_some_iff {year : Int} {month day : Nat} {d : Date} :
    of? year month day = some d ↔ d.year = year ∧ d.month = month ∧ d.day = day := by
  unfold of?
  constructor
  · intro h
    split at h
    · cases h
      exact ⟨rfl, rfl, rfl⟩
    · cases h
  · rintro ⟨rfl, rfl, rfl⟩
    exact dif_pos d.isDate

@[simp] theorem of?_parts (d : Date) : of? d.year d.month d.day = some d :=
  of?_eq_some_iff.mpr ⟨rfl, rfl, rfl⟩

-- A month that has a day is one of the twelve.
theorem month_bounds (d : Date) : 1 ≤ d.month ∧ d.month ≤ 12 := by
  obtain ⟨year, month, day, h⟩ := d
  have hday := Nat.le_trans h.one_le_day h.day_le
  match month with
  | 0 => simp [daysInMonth] at hday
  | month + 1 =>
    refine ⟨by simp, Nat.succ_le_of_lt (Nat.lt_of_not_le fun hle => ?_)⟩
    rw [daysInMonth, List.getD_eq_getElem?_getD, List.getElem?_eq_none (by exact hle)] at hday
    simp at hday

end Date

/-! ## Counting days

Every day of the calendar has a number, counted from the first day of year 1, and a number leads
back to the day.  Adding days to a date is addition on these numbers.
-/

/-- The days from the first day of year 1 to the first day of `year`, negative before year 1. -/
def daysBeforeYear (year : Int) : Int :=
  365 * (year - 1) + (year - 1) / 4 - (year - 1) / 100 + (year - 1) / 400

def totalLength : List Nat → Nat
  | [] => 0
  | length :: lengths => length + totalLength lengths

def daysBeforeMonth (year : Int) (month : Nat) : Nat :=
  totalLength ((monthLengths (isLeapYear year)).take (month - 1))

/-- The year that day `n` falls in.  Four hundred years have 146097 days, and the year that this
mean gives is off by at most one. -/
def yearOfDay (n : Int) : Int :=
  let guess := 400 * n / 146097 + 1
  if n < daysBeforeYear guess then guess - 1
  else if daysBeforeYear (guess + 1) ≤ n then guess + 1
  else guess

/-- The month and day of the month that lie `rest` days after the start of month `month`, when the
months from there on have the given lengths. -/
def monthAndDay : List Nat → Nat → Nat → Nat × Nat
  | [], month, rest => (month, rest + 1)
  | length :: lengths, month, rest =>
    if rest < length then (month, rest + 1) else monthAndDay lengths (month + 1) (rest - length)

namespace Date

def dayNumber (d : Date) : Int :=
  daysBeforeYear d.year + daysBeforeMonth d.year d.month + d.day - 1

def ofDayNumber? (n : Int) : Option Date :=
  let year := yearOfDay n
  let (month, day) :=
    monthAndDay (monthLengths (isLeapYear year)) 1 (n - daysBeforeYear year).toNat
  of? year month day

def addDays? (d : Date) (days : Nat) : Option Date :=
  ofDayNumber? (d.dayNumber + days)

instance : LE Date := ⟨fun d e => d.dayNumber ≤ e.dayNumber⟩

instance (d e : Date) : Decidable (d ≤ e) :=
  inferInstanceAs (Decidable (d.dayNumber ≤ e.dayNumber))

theorem le_iff {d e : Date} : d ≤ e ↔ d.dayNumber ≤ e.dayNumber := Iff.rfl

end Date

/-! ### A day number leads back to its day -/

/-- A year is one day longer when it is a leap year. -/
theorem daysBeforeYear_add_one (year : Int) :
    daysBeforeYear (year + 1) = daysBeforeYear year + if isLeapYear year then 366 else 365 := by
  simp only [daysBeforeYear, isLeapYear, Bool.or_eq_true, Bool.and_eq_true, beq_iff_eq, bne_iff_ne]
  split <;> omega

-- Day `n` lies between the first day of its year and the first day of the next.
theorem daysBeforeYear_yearOfDay (n : Int) :
    daysBeforeYear (yearOfDay n) ≤ n ∧ n < daysBeforeYear (yearOfDay n + 1) := by
  simp only [yearOfDay]
  split
  · constructor
    · simp only [daysBeforeYear] at *
      omega
    · simpa using by assumption
  · split
    · constructor
      · assumption
      · simp only [daysBeforeYear] at *
        omega
    · omega

theorem totalLength_monthLengths (leap : Bool) :
    totalLength (monthLengths leap) = if leap then 366 else 365 := by
  cases leap <;> rfl

-- Splitting `rest` days into whole months and a day of the next loses nothing.
theorem monthAndDay_eq {lengths : List Nat} {month rest : Nat} (h : rest < totalLength lengths) :
    ∃ k, k < lengths.length ∧ (monthAndDay lengths month rest).1 = month + k ∧
      (monthAndDay lengths month rest).2 ≤ lengths.getD k 0 ∧
      1 ≤ (monthAndDay lengths month rest).2 ∧
      totalLength (lengths.take k) + (monthAndDay lengths month rest).2 = rest + 1 := by
  induction lengths generalizing month rest with
  | nil => cases h
  | cons length lengths ih =>
    by_cases hlt : rest < length
    · refine ⟨0, Nat.zero_lt_succ _, ?_⟩
      simp only [monthAndDay, if_pos hlt, List.getD_cons_zero, List.take_zero, totalLength]
      omega
    · have hrest : rest - length < totalLength lengths := by
        simp only [totalLength] at h
        omega
      obtain ⟨k, hk, hmonth, hle, hone, hsum⟩ := @ih (month + 1) _ hrest
      refine ⟨k + 1, ?_⟩
      simp only [monthAndDay, if_neg hlt, List.length_cons, List.getD_cons_succ,
        List.take_succ_cons, totalLength]
      omega

namespace Date

-- Every number whose year the calendar has belongs to a day.
theorem dayNumber_ofDayNumber? {n : Int} (hFirst : daysBeforeYear firstYear ≤ n)
    (hLast : n < daysBeforeYear (lastYear + 1)) :
    ∃ d, ofDayNumber? n = some d ∧ d.dayNumber = n := by
  have hyear := daysBeforeYear_yearOfDay n
  have hlength := daysBeforeYear_add_one (yearOfDay n)
  have hrest : (n - daysBeforeYear (yearOfDay n)).toNat
      < totalLength (monthLengths (isLeapYear (yearOfDay n))) := by
    rw [totalLength_monthLengths]
    split at hlength <;> simp_all <;> omega
  obtain ⟨k, hk, hmonth, hle, hone, hsum⟩ := @monthAndDay_eq _ 1 _ hrest
  have hisDate : IsDate (yearOfDay n)
      (monthAndDay (monthLengths (isLeapYear (yearOfDay n))) 1
        (n - daysBeforeYear (yearOfDay n)).toNat).1
      (monthAndDay (monthLengths (isLeapYear (yearOfDay n))) 1
        (n - daysBeforeYear (yearOfDay n)).toNat).2 := by
    refine ⟨?_, ?_, hone, ?_⟩
    · simp only [firstYear, daysBeforeYear] at *
      omega
    · simp only [lastYear, daysBeforeYear] at *
      omega
    · rw [hmonth, Nat.add_comm]
      exact hle
  refine ⟨⟨_, _, _, hisDate⟩, dif_pos hisDate, ?_⟩
  simp only [dayNumber, daysBeforeMonth, hmonth, Nat.add_sub_cancel_left]
  omega

end Date

/-! ## Dates as text

A date is written year, month and day with hyphens between.  The reader is more lenient than the
writer: it takes months and days of one digit, blanks before each part, and any sign on the year;
only a year without a sign is held to four digits.
-/

def padded (width n : Nat) : List Char :=
  let digits := Nat.toDigits 10 n
  List.replicate (width - digits.length) '0' ++ digits

/-- A year has at least four digits, and a sign unless it lies between 0 and 9999. -/
def yearText (year : Int) : List Char :=
  if 0 ≤ year ∧ year ≤ 9999 then padded 4 year.toNat
  else (if year < 0 then '-' else '+') :: padded 4 year.natAbs

namespace Date

def text (d : Date) : List Char :=
  yearText d.year ++ '-' :: padded 2 d.month ++ '-' :: padded 2 d.day

instance : ToString Date := ⟨fun d => String.ofList d.text⟩

/-! ### Reading -/

/-- The number that the leading digits of a text stand for, at least one digit and at most `most`,
and the text after them. -/
def leadingNumber? (most : Nat) (s : List Char) : Option (Nat × List Char) :=
  let digits := (s.takeWhile Char.isDigit).take most
  if digits = [] then none else some (Nat.ofDigitChars 10 digits 0, s.drop digits.length)

def leadingYear? : List Char → Option (Int × List Char)
  | '-' :: s => (leadingNumber? s.length s).map fun (n, rest) => (-(n : Int), rest)
  | '+' :: s => (leadingNumber? s.length s).map fun (n, rest) => ((n : Int), rest)
  | s => (leadingNumber? 4 s).map fun (n, rest) => ((n : Int), rest)

-- The date that a text writes, if it writes one and nothing else.
def read? (s : List Char) : Option Date := do
  let (year, s) ← leadingYear? (Text.trimStart s)
  let s ← Text.after? ['-'] s
  let (month, s) ← leadingNumber? 2 (Text.trimStart s)
  let s ← Text.after? ['-'] s
  let (day, s) ← leadingNumber? 2 (Text.trimStart s)
  if s.isEmpty then of? year month day else none

end Date

end Daybook
