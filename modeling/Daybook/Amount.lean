/-!
# Amounts

Amounts of money are whole cents of 64 bits.  Their arithmetic clamps: a result that leaves the
range becomes the nearest amount, and `toInt` of a result says so in exact integers.
-/

namespace Daybook

abbrev Amount := Int64

namespace Amount

def clamp (n : Int) : Amount := Int64.ofIntClamp n

def largest : Int := 0x7FFFFFFFFFFFFFFF

def smallest : Int := -0x8000000000000000

def add (a b : Amount) : Amount := clamp (a.toInt + b.toInt)

def sub (a b : Amount) : Amount := clamp (a.toInt - b.toInt)

def times (quantity : Int32) (price : Amount) : Amount := clamp (quantity.toInt * price.toInt)

-- The sum from left to right, clamped after every step.
def sum (amounts : List Amount) : Amount := amounts.foldl add 0

/-! ## Clamping in exact integers -/

/-- An amount out of range is the nearest one in range. -/
theorem toInt_clamp (n : Int) : (clamp n).toInt = max smallest (min largest n) := by
  by_cases hLow : Int64.minValue.toInt ≤ n
  · by_cases hHigh : n ≤ Int64.maxValue.toInt
    · rw [clamp, Int64.toInt_ofIntClamp hLow hHigh]
      simp only [smallest, largest, Int64.toInt_minValue, Int64.toInt_maxValue] at *
      omega
    · have : clamp n = Int64.maxValue := by
        rw [clamp, Int64.ofIntClamp, dif_pos hLow, dif_neg hHigh]
      simp only [this, smallest, largest, Int64.toInt_minValue, Int64.toInt_maxValue] at *
      omega
  · have : clamp n = Int64.minValue := by
      rw [clamp, Int64.ofIntClamp, dif_neg hLow]
    simp only [this, smallest, largest, Int64.toInt_minValue] at *
    omega

theorem smallest_le_toInt (a : Amount) : smallest ≤ a.toInt := a.le_toInt

theorem toInt_le_largest (a : Amount) : a.toInt ≤ largest := by
  have := a.toInt_lt
  simp only [largest]
  omega

-- A number that is within the range is its own nearest amount.
theorem toInt_clamp_of_le {n : Int} (hLow : smallest ≤ n) (hHigh : n ≤ largest) :
    (clamp n).toInt = n := by
  rw [toInt_clamp]
  omega

theorem toInt_add (a b : Amount) :
    (add a b).toInt = max smallest (min largest (a.toInt + b.toInt)) := toInt_clamp _

theorem toInt_sub (a b : Amount) :
    (sub a b).toInt = max smallest (min largest (a.toInt - b.toInt)) := toInt_clamp _

end Amount

end Daybook
