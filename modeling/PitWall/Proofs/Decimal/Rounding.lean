import Mathlib
import PitWall.Decimal.Shortest

namespace PitWall.Decimal

theorem zpow_split {b : ℚ} (nonzero : b ≠ 0) (exponent : ℤ) :
    b ^ exponent * b ^ (-exponent).toNat = b ^ exponent.toNat := by
  obtain ⟨n,rfl | rfl⟩ := Int.eq_nat_or_neg exponent
  · simp
  · simp [nonzero]

theorem scaled_lt {a b : ℚ} {base : ℚ} (positive : 0 < base) (exponent : ℤ) :
    a * base ^ (-exponent).toNat < b * base ^ exponent.toNat ↔ a < b * base ^ exponent := by
  rw [← zpow_split positive.ne' exponent,← mul_assoc]
  exact mul_lt_mul_iff_left₀ (pow_pos positive _)

theorem scaled_le {a b : ℚ} {base : ℚ} (positive : 0 < base) (exponent : ℤ) :
    a * base ^ (-exponent).toNat ≤ b * base ^ exponent.toNat ↔ a ≤ b * base ^ exponent := by
  rw [← zpow_split positive.ne' exponent,← mul_assoc]
  exact mul_le_mul_iff_left₀ (pow_pos positive _)

theorem compareScaled_eq (a : Nat) (i : Int) (n : Nat) (j : Int) :
    compareScaled a i n j = compare ((a : ℚ) * 10 ^ i) ((n : ℚ) * 2 ^ j) := by
  have two := zpow_split (b := 2) (by norm_num) j
  have ten := zpow_split (b := 10) (by norm_num) i
  have positive : (0 : ℚ) < 10 ^ (-i).toNat * 2 ^ (-j).toNat := by positivity
  have left : ((a * Nat.pow 10 i.toNat * Nat.pow 2 (-j).toNat : Nat) : ℚ) =
      a * 10 ^ i * (10 ^ (-i).toNat * 2 ^ (-j).toNat) := by
    push_cast [Nat.pow_eq]
    rw [← ten]; ring
  have right : ((n * Nat.pow 2 j.toNat * Nat.pow 10 (-i).toNat : Nat) : ℚ) =
      n * 2 ^ j * (10 ^ (-i).toNat * 2 ^ (-j).toNat) := by
    push_cast [Nat.pow_eq]
    rw [← two]; ring
  unfold compareScaled
  rcases lt_trichotomy ((a : ℚ) * 10 ^ i) ((n : ℚ) * 2 ^ j) with less | same | more
  · rw [compare_lt_iff_lt.mpr less,compare_lt_iff_lt,← Nat.cast_lt (α := ℚ),left,right]
    exact mul_lt_mul_of_pos_right less positive
  · rw [compare_eq_iff_eq.mpr same,compare_eq_iff_eq,← Nat.cast_inj (R := ℚ),left,right,same]
  · rw [compare_gt_iff_gt.mpr more,compare_gt_iff_gt,← Nat.cast_lt (α := ℚ),left,right]
    exact mul_lt_mul_of_pos_right more positive

theorem log2_bounds {n : Nat} (nonzero : n ≠ 0) : (2 : ℚ) ^ (n.log2 : ℤ) ≤ n ∧ (n : ℚ) < 2 ^ (n.log2 + 1 : ℤ) := by
  have low := Nat.log2_self_le nonzero
  have high := Nat.lt_log2_self (n := n)
  constructor
  · rw [zpow_natCast]; exact_mod_cast low
  · rw [← Nat.cast_succ,zpow_natCast]; exact_mod_cast high

theorem quotientLog_bounds {a b : Nat} (nonzero : a ≠ 0) (divisor : b ≠ 0) :
    (b : ℚ) * 2 ^ quotientLog a b ≤ a ∧ (a : ℚ) < b * 2 ^ (quotientLog a b + 1) := by
  obtain ⟨aLow,aHigh⟩ := log2_bounds nonzero
  obtain ⟨bLow,bHigh⟩ := log2_bounds divisor
  have guessed : (a : ℚ) * 2 ^ (-((a.log2 : ℤ) - b.log2)).toNat < b * 2 ^ ((a.log2 : ℤ) - b.log2).toNat ↔
      (a : ℚ) < b * 2 ^ ((a.log2 : ℤ) - b.log2) := scaled_lt (by norm_num) _
  have upper : (a : ℚ) < b * 2 ^ ((a.log2 : ℤ) - b.log2 + 1) := by
    calc (a : ℚ) < 2 ^ (a.log2 + 1 : ℤ) := aHigh
      _ = 2 ^ (b.log2 : ℤ) * 2 ^ ((a.log2 : ℤ) - b.log2 + 1) := by
        rw [← zpow_add₀ (by norm_num)]; congr 1; ring
      _ ≤ b * 2 ^ ((a.log2 : ℤ) - b.log2 + 1) := mul_le_mul_of_nonneg_right bLow (by positivity)
  have lower : (b : ℚ) * 2 ^ ((a.log2 : ℤ) - b.log2 - 1) ≤ a := by
    calc (b : ℚ) * 2 ^ ((a.log2 : ℤ) - b.log2 - 1) ≤ 2 ^ (b.log2 + 1 : ℤ) * 2 ^ ((a.log2 : ℤ) - b.log2 - 1) :=
          mul_le_mul_of_nonneg_right bHigh.le (by positivity)
      _ = 2 ^ (a.log2 : ℤ) := by rw [← zpow_add₀ (by norm_num)]; congr 1; ring
      _ ≤ a := aLow
  unfold quotientLog
  dsimp only
  split
  · rename_i less
    refine ⟨lower,?_⟩
    rw [sub_add_cancel]
    exact guessed.mp (by exact_mod_cast less)
  · rename_i more
    exact ⟨not_lt.mp fun less => more (by exact_mod_cast guessed.mpr less),upper⟩

theorem quotientLog_eq {a b : Nat} {k : Int} (divisor : b ≠ 0) (low : (b : ℚ) * 2 ^ k ≤ a)
    (high : (a : ℚ) < b * 2 ^ (k + 1)) : quotientLog a b = k := by
  have positive : (0 : ℚ) < b := by exact_mod_cast Nat.pos_of_ne_zero divisor
  have nonzero : a ≠ 0 := by
    rintro rfl
    have : (0 : ℚ) < b * 2 ^ k := by positivity
    norm_num at low
    linarith
  obtain ⟨least,most⟩ := quotientLog_bounds nonzero divisor
  have apart {i j : Int} (less : (b : ℚ) * 2 ^ i < b * 2 ^ j) : i < j :=
    (zpow_lt_zpow_iff_right₀ (by norm_num)).mp (lt_of_mul_lt_mul_left less positive.le)
  have below := apart (least.trans_lt high)
  have above := apart (low.trans_lt most)
  omega

-- To the nearest integer: whatever lies within half a unit, at a half only if even.
theorem roundQuotient_eq {a b m : Nat} (positive : 0 < b) (low : 2 * m * b ≤ 2 * a + b)
    (high : 2 * a ≤ 2 * m * b + b) (ties : m % 2 = 1 → 2 * m * b ≠ 2 * a + b ∧ 2 * a ≠ 2 * m * b + b) :
    roundQuotient a b = m := by
  have split : b * (a / b) + a % b = a := Nat.div_add_mod a b
  have short := Nat.mod_lt a positive
  have bound {m n : Nat} (less : m * b < n * b) : m < n := Nat.lt_of_mul_lt_mul_right less
  unfold roundQuotient
  dsimp only
  generalize a / b = whole at *
  generalize a % b = part at *
  subst split
  cases order : compare (2 * part) b with
  | lt =>
    have below := compare_lt_iff_lt.mp order
    have upper : m < whole + 1 := bound (by linarith)
    have lower : whole < m + 1 := bound (by linarith)
    change whole = m
    omega
  | gt =>
    have above := compare_gt_iff_gt.mp order
    have upper : m < whole + 2 := bound (by linarith)
    have lower : whole < m := bound (by linarith)
    change whole + 1 = m
    omega
  | eq =>
    have half := compare_eq_iff_eq.mp order
    have upper : m < whole + 2 := bound (by linarith)
    have lower : whole < m + 1 := bound (by linarith)
    change whole + whole % 2 = m
    rcases (by omega : m = whole ∨ m = whole + 1) with rfl | rfl
    · have even : m % 2 ≠ 1 := fun odd => (ties odd).2 (by linarith)
      omega
    · have even : (whole + 1) % 2 ≠ 1 := fun odd => (ties odd).1 (by linarith)
      omega

theorem roundQuotient_scaled {a b m : Nat} {k : Int} (divisor : b ≠ 0) (low : (2 * m - 1) * (b * (2 : ℚ) ^ k) ≤ 2 * a)
    (high : 2 * a ≤ (2 * m + 1) * (b * (2 : ℚ) ^ k))
    (ties : m % 2 = 1 → (2 * m - 1) * (b * (2 : ℚ) ^ k) < 2 * a ∧ 2 * a < (2 * m + 1) * (b * (2 : ℚ) ^ k)) :
    roundQuotient (a * Nat.pow 2 (-k).toNat) (b * Nat.pow 2 k.toNat) = m := by
  have scale : (0 : ℚ) < 2 ^ (-k).toNat := by positivity
  have above : ((a * Nat.pow 2 (-k).toNat : Nat) : ℚ) = a * 2 ^ (-k).toNat := by push_cast [Nat.pow_eq]; rfl
  have below : ((b * Nat.pow 2 k.toNat : Nat) : ℚ) = b * 2 ^ k * 2 ^ (-k).toNat := by
    push_cast [Nat.pow_eq]
    rw [← zpow_split (by norm_num) k]; ring
  refine roundQuotient_eq (Nat.mul_pos (Nat.pos_of_ne_zero divisor) (Nat.pow_pos (by decide))) ?_ ?_ ?_ <;>
    generalize a * Nat.pow 2 (-k).toNat = dividend at * <;> generalize b * Nat.pow 2 k.toNat = unit at *
  · have scaled : 2 * m * (unit : ℚ) ≤ 2 * dividend + unit := by
      rw [above,below]
      linarith [mul_le_mul_of_nonneg_right low scale.le]
    exact_mod_cast scaled
  · have scaled : 2 * (dividend : ℚ) ≤ 2 * m * unit + unit := by
      rw [above,below]
      linarith [mul_le_mul_of_nonneg_right high scale.le]
    exact_mod_cast scaled
  · intro odd
    obtain ⟨lower,upper⟩ := ties odd
    constructor
    · have scaled : 2 * m * (unit : ℚ) < 2 * dividend + unit := by
        rw [above,below]
        linarith [mul_lt_mul_of_pos_right lower scale]
      exact_mod_cast scaled.ne
    · have scaled : 2 * (dividend : ℚ) < 2 * m * unit + unit := by
        rw [above,below]
        linarith [mul_lt_mul_of_pos_right upper scale]
      exact_mod_cast scaled.ne

theorem roundQuotient_le {a b n : Nat} (positive : 0 < b) (small : a ≤ n * b) : roundQuotient a b ≤ n := by
  have whole : a / b ≤ n := Nat.div_le_of_le_mul (by rwa [Nat.mul_comm])
  have split : b * (a / b) + a % b = a := Nat.div_add_mod a b
  unfold roundQuotient
  dsimp only
  -- A quotient that has reached the bound leaves nothing to round up.
  have full (reached : a / b = n) : a % b = 0 := by
    rw [reached,Nat.mul_comm] at split
    omega
  cases order : compare (2 * (a % b)) b with
  | lt => exact whole
  | gt =>
    have above := compare_gt_iff_gt.mp order
    have short : a / b ≠ n := fun reached => by rw [full reached] at above; omega
    change a / b + 1 ≤ n
    omega
  | eq =>
    have half := compare_eq_iff_eq.mp order
    have short : a / b ≠ n := fun reached => by rw [full reached] at half; omega
    change a / b + a / b % 2 ≤ n
    omega

theorem nearestBits_some {a b : Nat} (divisor : b ≠ 0) (small : a < 2 ^ 200 * b) : ∃ bits, nearestBits a b = some bits := by
  by_cases zero : a = 0
  · exact ⟨0,by simp [nearestBits,zero]⟩
  have positive : (0 : ℚ) < b := by exact_mod_cast Nat.pos_of_ne_zero divisor
  obtain ⟨low,high⟩ := quotientLog_bounds zero divisor
  have power : quotientLog a b < 200 := by
    have less : (b : ℚ) * 2 ^ quotientLog a b < b * 2 ^ (200 : ℤ) := by
      calc (b : ℚ) * 2 ^ quotientLog a b ≤ a := low
        _ < 2 ^ 200 * b := by exact_mod_cast small
        _ = b * 2 ^ (200 : ℤ) := by rw [mul_comm]; norm_cast
    exact (zpow_lt_zpow_iff_right₀ (by norm_num)).mp (lt_of_mul_lt_mul_left less positive.le)
  unfold nearestBits
  rw [if_neg (by simpa using zero)]
  dsimp only
  generalize unit : max (-1074) (quotientLog a b - 52) = q
  have significand : roundQuotient (a * Nat.pow 2 (-q).toNat) (b * Nat.pow 2 q.toNat) ≤ 2 ^ 53 := by
    refine roundQuotient_le (Nat.mul_pos (Nat.pos_of_ne_zero divisor) (Nat.pow_pos (by decide))) ?_
    have fits : (a : ℚ) ≤ 2 ^ 53 * b * 2 ^ q := by
      calc (a : ℚ) ≤ b * 2 ^ (quotientLog a b + 1) := high.le
        _ ≤ b * 2 ^ (53 + q) :=
          mul_le_mul_of_nonneg_left (zpow_le_zpow_right₀ (by norm_num) (by omega)) positive.le
        _ = 2 ^ 53 * b * 2 ^ q := by rw [zpow_add₀ (by norm_num)]; ring
    have scaled := (scaled_le (by norm_num) q).mpr fits
    rw [← Nat.mul_assoc]
    exact_mod_cast scaled
  have room : (q + 1074).toNat ≤ 2022 := by omega
  rw [if_pos]
  · exact ⟨_,rfl⟩
  · have := Nat.mul_le_mul_right fractionBits room
    unfold fractionBits at *
    omega

theorem le_roundQuotient {a b m : Nat} (positive : 0 < b) (reached : m * b ≤ a) : m ≤ roundQuotient a b := by
  have whole : m ≤ a / b := (Nat.le_div_iff_mul_le positive).mpr reached
  unfold roundQuotient
  dsimp only
  split <;> omega

-- An even bound is missed only by what is more than half a unit below it.
theorem roundQuotient_lt_iff {a b m : Nat} (positive : 0 < b) (even : m % 2 = 0) :
    roundQuotient a b < m ↔ 2 * a + b < 2 * m * b := by
  have split : b * (a / b) + a % b = a := Nat.div_add_mod a b
  have short := Nat.mod_lt a positive
  have bound {m n : Nat} : m * b < n * b ↔ m < n := Nat.mul_lt_mul_right positive
  unfold roundQuotient
  dsimp only
  generalize a / b = whole at *
  generalize a % b = part at *
  subst split
  cases order : compare (2 * part) b with
  | lt =>
    have below := compare_lt_iff_lt.mp order
    change whole < m ↔ _
    constructor
    · intro less
      have := Nat.mul_le_mul_right b (Nat.succ_le_of_lt less)
      linarith
    · intro less
      have : whole * b < m * b := by linarith
      exact bound.mp this
  | gt =>
    have above := compare_gt_iff_gt.mp order
    change whole + 1 < m ↔ _
    constructor
    · intro less
      have := Nat.mul_le_mul_right b (Nat.succ_le_of_lt less)
      linarith
    · intro less
      have : (whole + 1) * b < m * b := by linarith
      exact bound.mp this
  | eq =>
    have half := compare_eq_iff_eq.mp order
    change whole + whole % 2 < m ↔ _
    have next : whole + whole % 2 < m ↔ whole + 1 < m := by omega
    rw [next,← bound]
    constructor <;> intro less <;> linarith

theorem quotientLog_one {n : Nat} (nonzero : n ≠ 0) : quotientLog n 1 = n.log2 := by
  have low := Nat.log2_self_le nonzero
  unfold quotientLog
  have one : Nat.log2 1 = 0 := rfl
  have guess : (-(n.log2 : Int)).toNat = 0 := by omega
  simp only [one,Nat.cast_zero,sub_zero,guess,Int.toNat_natCast,Nat.pow_eq,pow_zero,mul_one,one_mul]
  rw [if_neg (Nat.not_lt.mpr low)]

theorem nearestBits_one {n : Nat} (nonzero : n ≠ 0) : nearestBits n 1 =
    let q := (n.log2 : Int) - 52
    let bits := (q + 1074).toNat * fractionBits + roundQuotient (n * 2 ^ (-q).toNat) (2 ^ q.toNat)
    if bits < 2047 * fractionBits then some bits else none := by
  have exponent : max (-1074) ((n.log2 : Int) - 52) = n.log2 - 52 := by omega
  unfold nearestBits
  rw [if_neg (by simpa using nonzero),quotientLog_one nonzero]
  dsimp only
  rw [exponent,Nat.one_mul]
  rfl

-- The largest finite double is 2^1024 - 2^971, and from half a unit above it on there is none.
theorem nearestBits_isSome_iff (n : Nat) : (nearestBits n 1).isSome = true ↔ n < 2 ^ 1024 - 2 ^ 970 := by
  have top : 2 ^ 1024 = 2 ^ 54 * 2 ^ 970 := by rw [← pow_add]
  have positive : 0 < 2 ^ 970 := by positivity
  have powers {i j : Nat} (less : i ≤ j) : 2 ^ i ≤ 2 ^ j := pow_le_pow_right₀ one_le_two less
  by_cases zero : n = 0
  · subst zero
    refine iff_of_true rfl ?_
    rw [top]
    generalize 2 ^ 970 = half at *
    omega
  have low := Nat.log2_self_le zero
  have high := Nat.lt_log2_self (n := n)
  rw [nearestBits_one zero]
  dsimp only
  have fits (bits : Nat) : (if bits < 2047 * fractionBits then some bits else none).isSome = true ↔ bits < 2047 * fractionBits := by
    split <;> simp [*]
  rw [fits]
  generalize n.log2 = log at *
  rcases lt_trichotomy log 1023 with less | rfl | more
  · have significand : roundQuotient (n * 2 ^ (-((log : Int) - 52)).toNat) (2 ^ ((log : Int) - 52).toNat) ≤ 2 ^ 53 := by
      refine roundQuotient_le (by positivity) ?_
      rw [← pow_add]
      have split : 53 + ((log : Int) - 52).toNat = log + 1 + (-((log : Int) - 52)).toNat := by omega
      rw [split,pow_add]
      exact Nat.mul_le_mul_right _ high.le
    have small : n < 2 ^ 1024 - 2 ^ 970 := by
      have room : 2 ^ (log + 1) ≤ 2 ^ 1023 := powers less
      have halfTop : 2 ^ 1023 = 2 ^ 53 * 2 ^ 970 := by rw [← pow_add]
      rw [halfTop] at room
      rw [top]
      generalize 2 ^ 970 = half at *
      omega
    refine iff_of_true ?_ small
    have place : ((log : Int) - 52 + 1074).toNat ≤ 2044 := by omega
    have := Nat.mul_le_mul_right fractionBits place
    unfold fractionBits at *
    omega
  · have unit : 2 ^ 971 = 2 * 2 ^ 970 := by rw [← pow_succ']
    have rounded := roundQuotient_lt_iff (a := n) (b := 2 ^ 971) (m := 2 ^ 53) (by positivity) rfl
    have place : (((1023 : Nat) : Int) - 52 + 1074).toNat = 2045 := rfl
    have up : (((1023 : Nat) : Int) - 52).toNat = 971 := rfl
    have down : (-(((1023 : Nat) : Int) - 52)).toNat = 0 := rfl
    rw [place,up,down,pow_zero,Nat.mul_one,top]
    have reads (m : Nat) : 2045 * fractionBits + m < 2047 * fractionBits ↔ m < 2 ^ 53 := by
      unfold fractionBits
      omega
    rw [reads,rounded]
    generalize 2 ^ 971 = whole at *
    generalize 2 ^ 970 = half at *
    omega
  · have down : (-((log : Int) - 52)).toNat = 0 := by omega
    rw [down,pow_zero,Nat.mul_one]
    have significand : 2 ^ 52 ≤ roundQuotient n (2 ^ ((log : Int) - 52).toNat) := by
      apply le_roundQuotient (by positivity)
      rw [← pow_add]
      have split : 52 + ((log : Int) - 52).toNat = log := by omega
      rw [split]
      exact low
    have large : ¬ n < 2 ^ 1024 - 2 ^ 970 := by
      have reached : 2 ^ 1024 ≤ 2 ^ log := powers more
      rw [top] at reached ⊢
      generalize 2 ^ 970 = half at *
      omega
    refine iff_of_false ?_ large
    have place : 2046 ≤ ((log : Int) - 52 + 1074).toNat := by omega
    have := Nat.mul_le_mul_right fractionBits place
    unfold fractionBits at *
    omega

end PitWall.Decimal
