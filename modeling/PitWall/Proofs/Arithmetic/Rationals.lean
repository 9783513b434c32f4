import Mathlib
import PitWall.Arithmetic.Rationals

namespace PitWall.Arithmetic

theorem ofInt_eq (n : Int) : (ofInt n : Except Fault Rat) = .ok n := rfl

theorem quotient_eq (x : Rat) {y : Rat} (divisor : y ≠ 0) : (quotient x y : Except Fault Rat) = .ok (x / y) :=
  if_neg divisor

theorem ratio_eq (a : Int) {b : Int} (divisor : b ≠ 0) : (ratio a b : Except Fault Rat) = .ok (a / b) :=
  quotient_eq a (Int.cast_ne_zero.mpr divisor)

theorem lesser_eq_min (x y : Rat) : lesser x y = min x y := by
  change (if decide (y < x) = true then y else x) = _
  rcases lt_or_ge y x with less | atLeast
  · rw [if_pos (decide_eq_true less),min_eq_right less.le]
  · rw [if_neg (by simpa using atLeast),min_eq_left atLeast]

theorem greater_eq_max (x y : Rat) : greater x y = max x y := by
  change (if decide (x < y) = true then y else x) = _
  rcases lt_or_ge x y with less | atLeast
  · rw [if_pos (decide_eq_true less),max_eq_right less.le]
  · rw [if_neg (by simpa using atLeast),max_eq_left atLeast]

theorem exceeds_iff (n : Int) (x : Rat) : exceeds n x = true ↔ x < n := by
  change (some (if (n : Rat) < x then Ordering.lt else if x < n then .gt else .eq) == some .gt) = true ↔ _
  rcases lt_trichotomy (n : Rat) x with under | equal | beyond
  · simp [under,under.le]
  · simp [equal]
  · simp [beyond,beyond.le]

end PitWall.Arithmetic
