import Daybook.Calendar
import Daybook.Proofs.Text.Numeral
import Mathlib.Algebra.Ring.Nat

/-!
# Days after a date, and dates read back

What the numbers of days and the texts of dates say about the dates themselves.
-/

namespace Daybook

/-! ## Days after a date

The day some days after a date has the number that many days further on, up to the last day of the
calendar; after that there is no day.
-/

theorem daysBeforeYear_le {year other : Int} (h : year ≤ other) :
    daysBeforeYear year ≤ daysBeforeYear other := by
  simp only [daysBeforeYear]
  omega

namespace Date

def lastDayNumber : Int := daysBeforeYear (lastYear + 1) - 1

theorem daysBeforeYear_firstYear_le (d : Date) : daysBeforeYear firstYear ≤ d.dayNumber := by
  have hyear := daysBeforeYear_le d.isDate.firstYear_le
  have hday := d.isDate.one_le_day
  rw [dayNumber]
  omega

/-- No day after the last one of the calendar has a date. -/
theorem le_lastDayNumber_of_ofDayNumber? {n : Int} {d : Date} (h : ofDayNumber? n = some d) :
    n ≤ lastDayNumber := by
  obtain ⟨hyear, -⟩ := of?_eq_some_iff.mp h
  have hlast : yearOfDay n ≤ lastYear := hyear ▸ d.isDate.le_lastYear
  have hnext := (daysBeforeYear_yearOfDay n).2
  have hend := daysBeforeYear_le (Int.add_le_add_right hlast 1)
  rw [lastDayNumber]
  omega

/-- Days can be added as long as the calendar goes on, and they are counted exactly. -/
theorem exists_addDays?_of_le {d : Date} {days : Nat} (h : d.dayNumber + days ≤ lastDayNumber) :
    ∃ e, d.addDays? days = some e ∧ e.dayNumber = d.dayNumber + days := by
  have hfirst := d.daysBeforeYear_firstYear_le
  rw [lastDayNumber] at h
  exact dayNumber_ofDayNumber? (by omega) (by omega)

/-- Beyond the last day of the calendar there is no date to come to. -/
theorem addDays?_of_lt {d : Date} {days : Nat} (h : lastDayNumber < d.dayNumber + days) :
    d.addDays? days = none := by
  cases hday : d.addDays? days with
  | none => rfl
  | some e =>
    have hle := le_lastDayNumber_of_ofDayNumber? hday
    omega

end Date


open Text (IsDigits)

/-! ## Dates read back

A date that is written down is read as the same date, over all years of the calendar.  The reader
tells the parts of a date apart by where the digits end, and a year without a sign has four.
-/

/-! ### Numbers with zeros in front -/

theorem isDigits_padded (width n : Nat) : IsDigits (padded width n) where
  ne_nil := List.append_ne_nil_of_right_ne_nil _ Nat.toDigits_ne_nil
  isDigit c hc := by
    rcases List.mem_append.mp hc with hzero | hdigit
    · rw [List.eq_of_mem_replicate hzero]
      rfl
    · exact (Text.isDigits_toDigits n).isDigit c hdigit

/-- Zeros in front do not change the number that the digits stand for. -/
theorem ofDigitChars_padded (width n : Nat) : Nat.ofDigitChars 10 (padded width n) 0 = n := by
  rw [padded, Nat.ofDigitChars_append, Nat.ofDigitChars_replicate_zero, Nat.mul_zero,
    Nat.ofDigitChars_ten_toDigits]

theorem length_padded_le {width n : Nat} (hwidth : 0 < width) (h : n < 10 ^ width) :
    (padded width n).length ≤ width := by
  have hdigits := (Nat.length_toDigits_le_iff (by decide : 1 < 10) hwidth).mpr h
  rw [padded, List.length_append, List.length_replicate]
  omega

theorem trimStart_padded (width n : Nat) (rest : List Char) :
    Text.trimStart (padded width n ++ rest) = padded width n ++ rest := by
  obtain ⟨c, digits, heq⟩ := List.exists_cons_of_ne_nil (isDigits_padded width n).ne_nil
  have hdigit : c.isDigit := (isDigits_padded width n).isDigit c (heq ▸ List.mem_cons_self)
  rw [heq, List.cons_append]
  exact Text.trimStart_cons_of_not_isBlank (Text.isBlank_of_isDigit hdigit)

/-! ### Parts of a date -/

namespace Date

/-- A number is read up to the first character that is no digit, if its digits are few enough. -/
theorem leadingNumber?_append {most : Nat} {digits rest : List Char} (h : IsDigits digits)
    (hlength : digits.length ≤ most) (hrest : ∀ c ∈ rest.head?, c.isDigit = false) :
    leadingNumber? most (digits ++ rest) = some (Nat.ofDigitChars 10 digits 0, rest) := by
  have hstop : rest.takeWhile Char.isDigit = [] := by
    cases rest with
    | nil => rfl
    | cons c rest => exact List.takeWhile_cons_of_neg (by simp [hrest c rfl])
  have hdigits : ((digits ++ rest).takeWhile Char.isDigit).take most = digits := by
    rw [List.takeWhile_append_of_pos h.isDigit, hstop, List.append_nil,
      List.take_of_length_le hlength]
  rw [leadingNumber?, hdigits, if_neg h.ne_nil, List.drop_left]

/-- A padded number is read back with what follows it. -/
theorem leadingNumber?_padded {most width : Nat} (n : Nat) {rest : List Char}
    (hlength : (padded width n).length ≤ most) (hrest : ∀ c ∈ rest.head?, c.isDigit = false) :
    leadingNumber? most (padded width n ++ rest) = some (n, rest) := by
  rw [leadingNumber?_append (isDigits_padded width n) hlength hrest, ofDigitChars_padded]

-- A digit is no sign, so a number without one is read as such.
theorem leadingYear?_of_isDigits {digits : List Char} (h : IsDigits digits) (rest : List Char) :
    leadingYear? (digits ++ rest) =
      (leadingNumber? 4 (digits ++ rest)).map fun (n, rest) => ((n : Int), rest) := by
  cases digits with
  | nil => exact absurd rfl h.ne_nil
  | cons c digits =>
    have hsigns : c ≠ '-' ∧ c ≠ '+' :=
      ⟨ne_of_apply_ne Char.isDigit (by rw [h.head]; decide),
        ne_of_apply_ne Char.isDigit (by rw [h.head]; decide)⟩
    rw [List.cons_append, leadingYear?]
    · exact fun rest heq => hsigns.1 (List.cons.inj heq).1
    · exact fun rest heq => hsigns.2 (List.cons.inj heq).1

/-- A year is read back whether or not its sign is written. -/
theorem leadingYear?_yearText (year : Int) (rest : List Char)
    (hrest : ∀ c ∈ rest.head?, c.isDigit = false) :
    leadingYear? (yearText year ++ rest) = some (year, rest) := by
  -- Behind a sign any number of digits is read, so these always fit.
  have hfits : ∀ n, (padded 4 n).length ≤ (padded 4 n ++ rest).length := fun n => by
    rw [List.length_append]
    exact Nat.le_add_right _ _
  rw [yearText]
  by_cases hplain : 0 ≤ year ∧ year ≤ 9999
  · have hlength : (padded 4 year.toNat).length ≤ 4 := length_padded_le (by decide) (by omega)
    rw [if_pos hplain, leadingYear?_of_isDigits (isDigits_padded 4 year.toNat),
      leadingNumber?_padded year.toNat hlength hrest]
    show some ((year.toNat : Int), rest) = _
    rw [Int.toNat_of_nonneg hplain.1]
  · rw [if_neg hplain, List.cons_append]
    by_cases hneg : year < 0
    · have habs : -(year.natAbs : Int) = year := by omega
      rw [if_pos hneg, leadingYear?, leadingNumber?_padded year.natAbs (hfits _) hrest]
      show some (-(year.natAbs : Int), rest) = _
      rw [habs]
    · have habs : (year.natAbs : Int) = year := by omega
      rw [if_neg hneg, leadingYear?, leadingNumber?_padded year.natAbs (hfits _) hrest]
      show some ((year.natAbs : Int), rest) = _
      rw [habs]

theorem daysInMonth_le (year : Int) (month : Nat) : daysInMonth year month ≤ 31 := by
  have hall : ∀ length ∈ monthLengths (isLeapYear year), length ≤ 31 := by
    cases isLeapYear year <;> decide
  cases month with
  | zero => exact Nat.zero_le 31
  | succ month =>
    rw [daysInMonth, List.getD_eq_getElem?_getD]
    cases hlength : (monthLengths (isLeapYear year))[month]? with
    | none => exact Nat.zero_le 31
    | some length => exact hall length (List.mem_of_getElem? hlength)

/-! ### Whole dates -/

-- The characters that dates are written with.
theorem isDigit_or_of_mem_text {d : Date} {c : Char} (h : c ∈ d.text) :
    c.isDigit ∨ c = '-' ∨ c = '+' := by
  have hpadded : ∀ {width n}, c ∈ padded width n → c.isDigit := fun hmem =>
    (isDigits_padded _ _).isDigit c hmem
  have hyear : c ∈ yearText d.year → c.isDigit ∨ c = '-' ∨ c = '+' := by
    intro hmem
    rw [yearText] at hmem
    split at hmem
    · exact .inl (hpadded hmem)
    · rcases List.mem_cons.mp hmem with hsign | hdigit
      · split at hsign
        · exact .inr (.inl hsign)
        · exact .inr (.inr hsign)
      · exact .inl (hpadded hdigit)
  rw [text, List.mem_append, List.mem_append, List.mem_cons, List.mem_cons] at h
  -- The year, the month and the day, with a hyphen before each of the last two.
  rcases h with (hmem | hhyphen | hmem) | hhyphen | hmem
  · exact hyear hmem
  · exact .inr (.inl hhyphen)
  · exact .inl (hpadded hmem)
  · exact .inr (.inl hhyphen)
  · exact .inl (hpadded hmem)

/-- Dates survive being written and read, also those whose year has a sign or five digits. -/
theorem read?_text (d : Date) : read? d.text = some d := by
  have hyear : Text.trimStart d.text = d.text := Text.trimStart_eq_self fun c hc =>
    Text.isBlank_of_isDigit_or (isDigit_or_of_mem_text (List.mem_of_mem_head? hc))
  have hmonth : (padded 2 d.month).length ≤ 2 :=
    length_padded_le (by decide) (Nat.lt_of_le_of_lt d.month_bounds.2 (by decide))
  have hday : (padded 2 d.day).length ≤ 2 := by
    apply length_padded_le (by decide)
    exact Nat.lt_of_le_of_lt (Nat.le_trans d.isDate.day_le (daysInMonth_le _ _)) (by decide)
  have hhyphen : ∀ rest : List Char, ∀ c ∈ ('-' :: rest).head?, c.isDigit = false := by
    rintro rest _ ⟨⟩
    rfl
  have hafter : ∀ rest : List Char, Text.after? ['-'] ('-' :: rest) = some rest := fun rest =>
    Text.after?_eq_some_iff.mpr rfl
  have hlast : leadingNumber? 2 (padded 2 d.day) = some (d.day, []) := by
    have hread := leadingNumber?_padded d.day hday
      fun c (hc : c ∈ ([] : List Char).head?) => absurd hc (by simp)
    rwa [List.append_nil] at hread
  have htrim : Text.trimStart (padded 2 d.day) = padded 2 d.day := by
    simpa using trimStart_padded 2 d.day []
  rw [read?, hyear, text, List.append_assoc, List.cons_append,
    leadingYear?_yearText _ _ (hhyphen _)]
  simp only [Option.bind_eq_bind, Option.bind_some, hafter, trimStart_padded, htrim,
    leadingNumber?_padded d.month hmonth (hhyphen _), hlast, List.isEmpty_nil, if_true, of?_parts]

example : (of? (-4) 2 29).map text = some "-0004-02-29".toList := by decide

end Date

end Daybook
