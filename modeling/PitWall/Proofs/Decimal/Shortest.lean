import PitWall.Proofs.Decimal.Rounding

namespace PitWall.Decimal

def Digits.value (d : Digits) : ℚ := d.digits * 10 ^ d.exponent

namespace Binary

def value (x : Binary) : ℚ := x.m * 2 ^ x.q

-- The ends of the interval of numbers that round to x, in quarters of its unit.
def lowEnd (x : Binary) : ℚ := (4 * x.m - (if x.narrowBelow then 1 else 2)) * 2 ^ (x.q - 2)
def highEnd (x : Binary) : ℚ := (4 * x.m + 2) * 2 ^ (x.q - 2)

structure Around (x : Binary) (v : ℚ) : Prop where
  low : x.lowEnd ≤ v
  high : v ≤ x.highEnd
  ties : x.m % 2 = 1 → x.lowEnd < v ∧ v < x.highEnd

theorem readsBack_iff {x : Binary} (nonzero : 0 < x.m) {d : Digits} : x.readsBack d = true ↔ x.Around d.value := by
  have low : ((if x.narrowBelow then 4 * x.m - 1 else 4 * x.m - 2 : Nat) : ℚ) * 2 ^ (x.q - 2) = x.lowEnd := by
    unfold lowEnd
    split
    · rw [Nat.cast_sub (by omega)]; push_cast; rfl
    · rw [Nat.cast_sub (by omega)]; push_cast; rfl
  have high : ((4 * x.m + 2 : Nat) : ℚ) * 2 ^ (x.q - 2) = x.highEnd := by
    unfold highEnd; push_cast; rfl
  unfold readsBack
  dsimp only
  rw [compareScaled_eq,compareScaled_eq,low,high]
  simp only [Bool.and_eq_true,Bool.or_eq_true,beq_iff_eq,compare_gt_iff_gt,compare_lt_iff_lt,compare_eq_iff_eq]
  change (x.lowEnd < d.value ∨ x.m % 2 = 0 ∧ d.value = x.lowEnd) ∧
    (d.value < x.highEnd ∨ x.m % 2 = 0 ∧ d.value = x.highEnd) ↔ _
  constructor
  · rintro ⟨above,below⟩
    refine ⟨?_,?_,fun odd => ⟨?_,?_⟩⟩
    · rcases above with above | ⟨_,same⟩
      · exact above.le
      · exact same.ge
    · rcases below with below | ⟨_,same⟩
      · exact below.le
      · exact same.le
    · exact above.resolve_right fun ⟨even,_⟩ => by omega
    · exact below.resolve_right fun ⟨even,_⟩ => by omega
  · rintro ⟨above,below,ties⟩
    rcases Nat.mod_two_eq_zero_or_one x.m with even | odd
    · rw [eq_comm (a := d.value) (b := x.lowEnd)]
      exact ⟨above.lt_or_eq.imp_right fun same => ⟨even,same⟩,below.lt_or_eq.imp_right fun same => ⟨even,same⟩⟩
    · exact ⟨.inl (ties odd).1,.inl (ties odd).2⟩

-- What a double can be: a whole significand, or a smaller one at the least exponent.
structure Legal (x : Binary) : Prop where
  least : -1074 ≤ x.q
  most : x.q ≤ 971
  short : x.m < 2 ^ 53
  whole : 2 ^ 52 ≤ x.m ∨ x.q = -1074
  narrow : x.narrowBelow = true ↔ x.m = 2 ^ 52 ∧ -1074 < x.q

def bits (x : Binary) : Nat := (x.q + 1074).toNat * fractionBits + x.m

theorem Legal.bits_finite {x : Binary} (legal : x.Legal) : x.bits < 2047 * fractionBits := by
  have := legal.most
  have := legal.short
  unfold bits fractionBits
  omega

theorem zpow_quarter (q : Int) : (2 : ℚ) ^ q = 4 * 2 ^ (q - 2) := by
  rw [zpow_sub₀ (by norm_num)]
  norm_num
  ring

theorem Around.half {x : Binary} {v : ℚ} (around : x.Around v) :
    (2 * x.m - 1) * 2 ^ x.q ≤ 2 * v ∧ 2 * v ≤ (2 * x.m + 1) * 2 ^ x.q ∧
      (x.m % 2 = 1 → (2 * x.m - 1) * 2 ^ x.q < 2 * v ∧ 2 * v < (2 * x.m + 1) * 2 ^ x.q) := by
  have unit : (0 : ℚ) < 2 ^ (x.q - 2) := by positivity
  have lowEnd : (2 * x.m - 1) * 2 ^ x.q ≤ 2 * x.lowEnd := by
    rw [zpow_quarter]
    unfold lowEnd
    split <;> nlinarith
  have highEnd : (2 * x.m + 1) * 2 ^ x.q = 2 * x.highEnd := by
    rw [zpow_quarter]
    unfold highEnd
    ring
  refine ⟨?_,?_,fun odd => ⟨?_,?_⟩⟩
  · linarith [around.low]
  · linarith [around.high]
  · linarith [(around.ties odd).1]
  · linarith [(around.ties odd).2]

theorem Around.positive {x : Binary} {v : ℚ} (around : x.Around v) (nonzero : 0 < x.m) : 0 < v := by
  have one : (1 : ℚ) ≤ x.m := by exact_mod_cast nonzero
  have unit : (0 : ℚ) < 2 ^ x.q := by positivity
  have := around.half.1
  nlinarith

theorem Around.below {x : Binary} {v : ℚ} (around : x.Around v) (legal : x.Legal) : v < 2 ^ 53 * 2 ^ x.q := by
  have short : (x.m + 1 : ℚ) ≤ 2 ^ 53 := by exact_mod_cast legal.short
  have unit : (0 : ℚ) < 2 ^ x.q := by positivity
  have high := around.half.2.1
  nlinarith

-- Enough that the grid on which the quotient is rounded is the one of x.
theorem nearestBits_on_grid {x : Binary} {v : ℚ} (around : x.Around v) (legal : x.Legal) {a b : Nat}
    (nonzero : a ≠ 0) (divisor : b ≠ 0) (share : (a : ℚ) = v * b)
    (grid : max (-1074) (quotientLog a b - 52) = x.q) : nearestBits a b = some x.bits := by
  have positive : (0 : ℚ) < b := by exact_mod_cast Nat.pos_of_ne_zero divisor
  obtain ⟨low,high,ties⟩ := around.half
  have rounded : roundQuotient (a * Nat.pow 2 (-x.q).toNat) (b * Nat.pow 2 x.q.toNat) = x.m := by
    refine roundQuotient_scaled divisor ?_ ?_ ?_
    · rw [share]; linarith [mul_le_mul_of_nonneg_right low positive.le]
    · rw [share]; linarith [mul_le_mul_of_nonneg_right high positive.le]
    · intro odd
      rw [share]
      constructor
      · linarith [mul_lt_mul_of_pos_right (ties odd).1 positive]
      · linarith [mul_lt_mul_of_pos_right (ties odd).2 positive]
  unfold nearestBits
  rw [if_neg (by simpa using nonzero)]
  dsimp only
  rw [grid,rounded]
  exact if_pos legal.bits_finite

-- A value below the binade of x can only lie around x if x is the least of its binade.
theorem Around.carried {x : Binary} {v : ℚ} (around : x.Around v) (legal : x.Legal) (below : v < 2 ^ 52 * 2 ^ x.q)
    (inner : x.q ≠ -1074) : x.m = 2 ^ 52 ∧ (4 * 2 ^ 52 - 1) * 2 ^ (x.q - 2) ≤ v := by
  have least : x.m = 2 ^ 52 := by
    have low := around.half.1
    have less : (2 * x.m - 1 : ℚ) < 2 ^ 53 := by
      refine lt_of_mul_lt_mul_right ?_ (show (0 : ℚ) ≤ 2 ^ x.q by positivity)
      linarith
    have less : 2 * x.m < 2 ^ 53 + 1 := by
      have : (2 * x.m : ℚ) < 2 ^ 53 + 1 := by linarith
      exact_mod_cast this
    have := legal.whole
    omega
  have near : (4 * 2 ^ 52 - 1) * 2 ^ (x.q - 2) ≤ v := by
    have narrow := legal.narrow.mpr ⟨least,by have := legal.least; omega⟩
    have low := around.low
    unfold lowEnd at low
    rw [if_pos narrow,least] at low
    exact_mod_cast low
  exact ⟨least,near⟩

-- Just below a power of two the grid is twice as fine, and rounding up carries back to x.
theorem nearestBits_narrow {x : Binary} {v : ℚ} (around : x.Around v) (legal : x.Legal) {a b : Nat}
    (nonzero : a ≠ 0) (divisor : b ≠ 0) (share : (a : ℚ) = v * b) (below : v < 2 ^ 52 * 2 ^ x.q)
    (inner : x.q ≠ -1074) : nearestBits a b = some x.bits := by
  have positive : (0 : ℚ) < b := by exact_mod_cast Nat.pos_of_ne_zero divisor
  have unit : (0 : ℚ) < 2 ^ (x.q - 2) := by positivity
  have quarter := zpow_quarter x.q
  have half : (2 : ℚ) ^ (x.q - 1) = 2 * 2 ^ (x.q - 2) := by
    rw [← zpow_one_add₀ (by norm_num)]; congr 1; ring
  obtain ⟨least,near⟩ := around.carried legal below inner
  have log : quotientLog a b = x.q + 51 := by
    have fine : (2 : ℚ) ^ (x.q + 51) = 2 ^ 53 * 2 ^ (x.q - 2) := by
      rw [← zpow_natCast,← zpow_add₀ (by norm_num)]; congr 1; push_cast; ring
    refine quotientLog_eq divisor ?_ ?_
    · rw [share,fine]; nlinarith
    · rw [show x.q + 51 + 1 = 52 + x.q by ring,zpow_add₀ (by norm_num),share]
      have := mul_lt_mul_of_pos_right below positive
      calc v * b < 2 ^ 52 * 2 ^ x.q * b := this
        _ = b * (2 ^ (52 : ℤ) * 2 ^ x.q) := by norm_num; ring
  have rounded : roundQuotient (a * Nat.pow 2 (-(x.q - 1)).toNat) (b * Nat.pow 2 (x.q - 1).toNat) = 2 ^ 53 := by
    refine roundQuotient_scaled divisor ?_ ?_ ?_
    · rw [share,half]; push_cast; nlinarith
    · rw [share,half]; push_cast; nlinarith
    · intro odd; norm_num at odd
  have bits : (x.q - 1 + 1074).toNat * fractionBits + 2 ^ 53 = x.bits := by
    have := legal.least
    unfold Binary.bits fractionBits
    omega
  unfold nearestBits
  rw [if_neg (by simpa using nonzero)]
  dsimp only
  rw [log,show max (-1074) (x.q + 51 - 52) = x.q - 1 by have := legal.least; omega,rounded,bits]
  exact if_pos legal.bits_finite

theorem nearestBits_eq {x : Binary} {v : ℚ} (around : x.Around v) (legal : x.Legal) (nonzero : 0 < x.m) {a b : Nat}
    (divisor : b ≠ 0) (share : (a : ℚ) = v * b) : nearestBits a b = some x.bits := by
  have positive : (0 : ℚ) < b := by exact_mod_cast Nat.pos_of_ne_zero divisor
  have nonzero : a ≠ 0 := by
    rintro rfl
    have := mul_pos (around.positive nonzero) positive
    rw [← share] at this
    norm_num at this
  obtain ⟨least,_⟩ := quotientLog_bounds nonzero divisor
  have beyond : (a : ℚ) < b * 2 ^ (x.q + 53) := by
    rw [zpow_add₀ (by norm_num),share]
    have := mul_lt_mul_of_pos_right (around.below legal) positive
    calc v * b < 2 ^ 53 * 2 ^ x.q * b := this
      _ = b * (2 ^ x.q * 2 ^ (53 : ℤ)) := by norm_num; ring
  by_cases below : v < 2 ^ 52 * 2 ^ x.q ∧ x.q ≠ -1074
  · exact nearestBits_narrow around legal nonzero divisor share below.1 below.2
  · refine nearestBits_on_grid around legal nonzero divisor share ?_
    by_cases smallest : x.q = -1074
    · have upper : quotientLog a b < x.q + 53 :=
        (zpow_lt_zpow_iff_right₀ (by norm_num)).mp (lt_of_mul_lt_mul_left (least.trans_lt beyond) positive.le)
      omega
    · have above : 2 ^ 52 * 2 ^ x.q ≤ v := not_lt.mp fun less => below ⟨less,smallest⟩
      have log : quotientLog a b = x.q + 52 := by
        refine quotientLog_eq divisor ?_ (by rwa [add_assoc])
        rw [zpow_add₀ (by norm_num),share]
        calc (b : ℚ) * (2 ^ x.q * 2 ^ (52 : ℤ)) = 2 ^ 52 * 2 ^ x.q * b := by norm_num; ring
          _ ≤ v * b := mul_le_mul_of_nonneg_right above positive.le
      have := legal.least
      omega

theorem around_value (x : Binary) : x.Around x.value := by
  have unit : (0 : ℚ) < 2 ^ (x.q - 2) := by positivity
  have low : x.lowEnd < x.value := by
    unfold lowEnd value
    rw [zpow_quarter x.q]
    split <;> nlinarith
  have high : x.value < x.highEnd := by
    unfold highEnd value
    rw [zpow_quarter x.q]
    nlinarith
  exact ⟨low.le,high.le,fun _ => ⟨low,high⟩⟩

theorem exact_value (x : Binary) : x.exact.value = x.value := by
  unfold exact value Digits.value
  split
  · rename_i whole
    obtain ⟨n,same⟩ := Int.eq_ofNat_of_zero_le whole
    rw [same]
    push_cast [Nat.pow_eq]
    simp
  · have five := zpow_split (b := 5) (by norm_num) x.q
    rw [show x.q.toNat = 0 by omega,pow_zero] at five
    push_cast [Nat.pow_eq]
    rw [show (10 : ℚ) = 2 * 5 by norm_num,mul_zpow]
    calc (x.m : ℚ) * 5 ^ (-x.q).toNat * (2 ^ x.q * 5 ^ x.q) =
          x.m * 2 ^ x.q * (5 ^ x.q * 5 ^ (-x.q).toNat) := by ring
      _ = x.m * 2 ^ x.q := by rw [five,mul_one]

theorem neighbour?_readsBack {x : Binary} {exponent : Int} {d : Digits}
    (found : x.neighbour? exponent = some d) : x.readsBack d = true := by
  unfold neighbour? at found
  dsimp only at found
  split at found
  · cases found
  · rename_i low _; cases found; exact low
  · rename_i high; cases found; exact high
  · rename_i low high
    split at found
    · cases found; exact low
    · cases found; exact high
    · cases found
      split
      · exact low
      · exact high

end Binary

theorem Digits.stripped_value (steps : Nat) (d : Digits) : (Digits.stripped steps d).value = d.value := by
  induction steps generalizing d with
  | zero => rfl
  | succ steps ih =>
    unfold Digits.stripped
    split
    · rename_i round
      simp only [Bool.and_eq_true,beq_iff_eq] at round
      have tens : 10 * (d.digits / 10) = d.digits := Nat.mul_div_cancel' (Nat.dvd_of_mod_eq_zero round.1)
      rw [ih]
      unfold Digits.value
      dsimp only
      rw [zpow_add_one₀ (by norm_num)]
      conv_rhs => rw [← tens]
      push_cast
      ring
    · rfl

-- Zero apart, the digits chosen lie around x, however they were found.
theorem Binary.shortest_around {x : Binary} (nonzero : 0 < x.m) : x.Around x.shortest.value := by
  unfold shortest
  rw [if_neg (by simpa using nonzero.ne')]
  dsimp only
  rw [Digits.stripped_value]
  cases chosen : (List.range mostDigits).findSome? fun (n : Nat) => x.neighbour? (x.scale - (n + 1 : Nat)) with
  | none =>
    rw [Option.getD_none,exact_value]
    exact x.around_value
  | some d =>
    obtain ⟨n,_,found⟩ := List.exists_of_findSome?_eq_some chosen
    exact (readsBack_iff nonzero).mp (neighbour?_readsBack found)

end PitWall.Decimal
