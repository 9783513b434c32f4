import PitWall.Arithmetic.Doubles
import PitWall.Proofs.Checked
import PitWall.Proofs.Decimal.Rounding

namespace PitWall.Arithmetic
open Decimal

-- Integers of any size that a race meets are far from where doubles end.
def Moderate (n : Int) : Prop := n.natAbs < 2 ^ 200

theorem moderate_of_bounds {n : Int} (low : -1000000 ≤ n) (high : n ≤ 1000000) : Moderate n := by
  unfold Moderate
  omega

theorem nearest?_some (negative : Bool) {a b : Nat} (divisor : b ≠ 0) (small : a < 2 ^ 200 * b) :
    ∃ x, nearest? negative a b = some x := by
  obtain ⟨bits,near⟩ := nearestBits_some divisor small
  unfold nearest?
  rw [near]
  exact ⟨_,rfl⟩

theorem ofInt_succeeds {n : Int} (moderate : Moderate n) : Succeeds (ofInt n : Except Fault Float) := by
  obtain ⟨x,near⟩ := nearest?_some (n < 0) Nat.one_ne_zero (by rw [Nat.mul_one]; exact moderate)
  change Succeeds (doubleOfInt n)
  unfold doubleOfInt
  rw [near]
  exact succeeds_ok x

-- From half a unit above the largest double on, an integer has no double near it.
def TooLarge (n : Int) : Prop := 2 ^ 1024 - 2 ^ 970 ≤ n.natAbs

theorem ofInt_succeeds_iff {n : Int} : Succeeds (ofInt n : Except Fault Float) ↔ ¬ TooLarge n := by
  rw [TooLarge,not_le,← nearestBits_isSome_iff]
  change Succeeds (doubleOfInt n) ↔ _
  unfold doubleOfInt nearest?
  cases nearestBits n.natAbs 1 with
  | some bits => exact iff_of_true (succeeds_ok _) rfl
  | none =>
    refine iff_of_false ?_ nofun
    rintro ⟨_,done,_⟩
    cases done

theorem floor_of_equals {x : Float} {n : Int} (same : equals n x = true) : (floor x : Except Fault Int) = .ok n := by
  change (doubleOrder n x == some .eq) = true at same
  change doubleFloor x = .ok n
  unfold doubleOrder at same
  unfold doubleFloor
  dsimp only at same ⊢
  cases kind : (Double.of x).kind with
  | nan => rw [kind] at same; cases same
  | infinite =>
    rw [kind] at same
    cases sign : (Double.of x).negative <;> rw [sign] at same <;> cases same
  | finite magnitude =>
    rw [kind] at same
    dsimp only at same ⊢
    have exactly : n * magnitude.denominator = signed (Double.of x).negative magnitude.numerator :=
      compare_eq_iff_eq.mp (Option.some.inj (beq_iff_eq.mp same))
    have positive : (magnitude.denominator : Int) ≠ 0 :=
      Int.natCast_ne_zero.mpr (Nat.pow_pos Nat.two_pos).ne'
    rw [← exactly,Int.mul_fdiv_cancel _ positive]

theorem exceeds_eq {x : Float} {n : Int} (notBelow : within n x = true) (m : Int) :
    exceeds m x = (decide (n < m) && !within m x) := by
  change (doubleOrder n x == some .lt || doubleOrder n x == some .eq) = true at notBelow
  change (doubleOrder m x == some .gt) =
    (decide (n < m) && !(doubleOrder m x == some .lt || doubleOrder m x == some .eq))
  unfold doubleOrder at *
  dsimp only at *
  cases kind : (Double.of x).kind with
  | nan => simp [kind] at notBelow
  | infinite =>
    cases sign : (Double.of x).negative with
    | true => simp [kind,sign] at notBelow
    | false => simp
  | finite magnitude =>
    simp only [kind] at notBelow ⊢
    have unit : (0 : Int) ≤ magnitude.denominator := Int.natCast_nonneg _
    generalize signed _ _ = bound at *
    have low : n * magnitude.denominator ≤ bound := by
      simpa [le_iff_lt_or_eq,compare_lt_iff_lt] using notBelow
    rcases lt_trichotomy (m * magnitude.denominator) bound with under | equal | beyond
    · simp [compare_lt_iff_lt.mpr under]
    · simp [compare_eq_iff_eq.mpr equal]
    · have further : n < m := lt_of_mul_lt_mul_right (lt_of_le_of_lt low beyond) unit
      simp [compare_gt_iff_gt.mpr beyond,further]

theorem ratio_succeeds {a b : Int} (divisor : b ≠ 0) (moderate : Moderate a) : Succeeds (ratio a b : Except Fault Float) := by
  have atLeastOne : 1 ≤ b.natAbs := by omega
  have small : a.natAbs < 2 ^ 200 * b.natAbs :=
    Nat.lt_of_lt_of_le moderate (Nat.le_mul_of_pos_right _ atLeastOne)
  obtain ⟨x,near⟩ := nearest?_some ((a < 0) != (b < 0)) (by omega) small
  change Succeeds (doubleRatio a b)
  unfold doubleRatio
  rw [if_neg divisor,near]
  exact succeeds_ok x

theorem quotient_succeeds (x : Float) {y : Float} (divisor : (!(y == 0.0)) = true) :
    Succeeds (quotient x y : Except Fault Float) := by
  have nonzero : ¬ (y == 0.0) = true := by simpa using divisor
  change Succeeds (doubleQuotient x y)
  unfold doubleQuotient
  rw [if_neg nonzero]
  exact succeeds_ok (x / y)

end PitWall.Arithmetic
