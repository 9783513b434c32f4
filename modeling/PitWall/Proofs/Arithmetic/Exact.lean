import PitWall.Proofs.Arithmetic.Doubles
import PitWall.Proofs.Arithmetic.Signs
import PitWall.Proofs.Decimal.Shortest

namespace PitWall.Arithmetic
open Decimal Float.Model Float.Model.UnpackedFloat

-- The number that a double is; infinities and NaN are none.
def rational? (x : Float) : Option ℚ :=
  let double := Double.of x
  match double.kind with
  | .finite magnitude => some (if double.negative then -magnitude.value else magnitude.value)
  | .nan | .infinite => none

def unpackedRational? : UnpackedFloat → Option ℚ
  | .zero _ => some 0
  | .finite .positive m e _ => some (m * 2 ^ e)
  | .finite .negative m e _ => some (-(m * 2 ^ e))
  | .notANumber | .infinity _ => none

theorem finite_rational (sign : BitVec 1) {m : Nat} {e : Int} (positive : 0 < m) :
    unpackedRational? (.finite (Sign.ofBitVec sign) m e positive) =
      some (if (sign.toNat == 1) = true then -(m * 2 ^ e : ℚ) else m * 2 ^ e) := by
  have either : sign = 0#1 ∨ sign = 1#1 := by revert sign; decide
  rcases either with rfl | rfl <;> rfl

theorem toNat_apart {width : Nat} {v w : BitVec width} (apart : v ≠ w) : ¬ (v.toNat == w.toNat) = true :=
  fun same => apart (BitVec.eq_of_toNat_eq (eq_of_beq same))

-- Read from its bits or from its parts, a double is the same number.
theorem rational?_eq (x : Float) : rational? x = unpackedRational? x.toModel.unpack := by
  change rational? x = unpackedRational? (UnpackedFloat.unpack .binary64 x.toBits.toBitVec)
  unfold rational? Double.of Double.ofBits
  have parts : x.toBits.toNat = x.toBits.toBitVec.toNat := rfl
  rw [parts]
  generalize x.toBits.toBitVec = bits
  have fraction : bits.toNat % fractionBits = (@unpackMantissa .binary64 bits).toNat := (toNat_mantissa bits).symm
  have exponent : bits.toNat / fractionBits % 2048 = (@unpackExponent .binary64 bits).toNat := (toNat_exponent bits).symm
  have sign : bits.toNat / 0x8000000000000000 % 2 = (@unpackSign .binary64 bits).toNat := (toNat_sign bits).symm
  rw [fraction,exponent,sign]
  unfold UnpackedFloat.unpack
  dsimp only
  by_cases top : @unpackExponent .binary64 bits = -1#11
  · have full : (@unpackExponent .binary64 bits).toNat = 2047 := congrArg BitVec.toNat top
    rw [if_pos top,full]
    by_cases fractionless : @unpackMantissa .binary64 bits = 0#52
    · rw [if_pos fractionless,fractionless]; rfl
    · have fractional : ¬ ((@unpackMantissa .binary64 bits).toNat == 0) = true := toNat_apart fractionless
      rw [if_neg fractionless,if_neg fractional]; rfl
  · have short : ¬ ((@unpackExponent .binary64 bits).toNat == 2047) = true := toNat_apart top
    rw [if_neg top,if_neg short]
    by_cases least : @unpackExponent .binary64 bits = 0#11
    · have zero : (@unpackExponent .binary64 bits).toNat = 0 := congrArg BitVec.toNat least
      rw [if_pos least,zero]
      by_cases fractionless : @unpackMantissa .binary64 bits = 0#52
      · rw [dif_pos fractionless,fractionless]
        simp [unpackedRational?,Binary.value]
      · rw [dif_neg fractionless]
        exact (finite_rational _ _).symm
    · have normal : ¬ ((@unpackExponent .binary64 bits).toNat == 0) = true := toNat_apart least
      rw [if_neg least,if_neg normal,finite_rational,significand_toNat]
      rfl

theorem magnitude_pos {m : Nat} (positive : 0 < m) (e : Int) : 0 < (m * 2 ^ e : ℚ) :=
  mul_pos (Nat.cast_pos.mpr positive) (zpow_pos two_pos e)

theorem below_zero_eq (x : Float) : below x 0.0 = x.toModel.unpack.lt (.zero .positive) := by
  change decide (decide (x.toModel.unpack.lt (.zero .positive) = true) = true) = _
  rw [Bool.decide_eq_true,Bool.decide_eq_true]

theorem atMost_zero_eq (x : Float) : atMost x 0.0 = x.toModel.unpack.le (.zero .positive) := by
  change decide (decide (x.toModel.unpack.le (.zero .positive) = true) = true) = _
  rw [Bool.decide_eq_true,Bool.decide_eq_true]

section
variable {x : Float} {v : ℚ}

theorem below_zero_iff (exactly : rational? x = some v) : below x 0.0 = true ↔ v < 0 := by
  rw [rational?_eq] at exactly
  rw [below_zero_eq]
  generalize x.toModel.unpack = unpacked at exactly
  cases unpacked with
  | notANumber => cases exactly
  | infinity => cases exactly
  | zero => cases exactly; exact iff_of_false nofun (lt_irrefl 0)
  | finite sign m e nonzero =>
    have positive := magnitude_pos nonzero e
    cases sign with
    | positive => cases exactly; exact iff_of_false nofun (not_lt.mpr positive.le)
    | negative => cases exactly; exact iff_of_true rfl (neg_neg_of_pos positive)

theorem atMost_zero_iff (exactly : rational? x = some v) : atMost x 0.0 = true ↔ v ≤ 0 := by
  rw [rational?_eq] at exactly
  rw [atMost_zero_eq]
  generalize x.toModel.unpack = unpacked at exactly
  cases unpacked with
  | notANumber => cases exactly
  | infinity => cases exactly
  | zero => cases exactly; exact iff_of_true rfl le_rfl
  | finite sign m e nonzero =>
    have positive := magnitude_pos nonzero e
    cases sign with
    | positive => cases exactly; exact iff_of_false nofun (not_le.mpr positive)
    | negative => cases exactly; exact iff_of_true rfl (neg_neg_of_pos positive).le

theorem signed_fraction (negative : Bool) (magnitude : Binary) :
    (if negative then -magnitude.value else magnitude.value) =
      (signed negative magnitude.numerator : ℚ) / (magnitude.denominator : ℤ) := by
  have fraction : magnitude.value = (magnitude.numerator : ℚ) / magnitude.denominator := by
    have whole := zpow_split (b := 2) two_ne_zero magnitude.q
    rw [eq_div_iff (Nat.cast_ne_zero.mpr (Nat.pow_pos Nat.two_pos).ne')]
    unfold Binary.value Binary.numerator Binary.denominator
    push_cast [Nat.pow_eq]
    rw [mul_assoc,whole]
  rw [fraction]
  cases negative <;> simp [signed,neg_div]

theorem floor_rational {n : Int} (floored : doubleFloor x = .ok n) : ∃ v, rational? x = some v ∧ n = ⌊v⌋ := by
  unfold doubleFloor at floored
  unfold rational?
  dsimp only at floored ⊢
  cases kind : (Double.of x).kind with
  | nan => rw [kind] at floored; cases floored
  | infinite => rw [kind] at floored; cases floored
  | finite magnitude =>
    rw [kind] at floored
    cases floored
    refine ⟨_,rfl,?_⟩
    rw [signed_fraction,Int.cast_natCast,Rat.floor_intCast_div_natCast]
    exact Int.fdiv_eq_ediv_of_nonneg _ (Int.natCast_nonneg _)

theorem floor_not_below {n : Int} (notBelow : below x 0.0 = false) (floored : doubleFloor x = .ok n) : 0 ≤ n := by
  obtain ⟨v,exactly,rfl⟩ := floor_rational floored
  have nonneg : ¬ v < 0 := by
    rw [← below_zero_iff exactly,notBelow]
    exact Bool.false_ne_true
  exact Int.floor_nonneg.mpr (not_lt.mp nonneg)

end

theorem rational?_isSome_iff (x : Float) :
    (rational? x).isSome = true ↔ x.toBits.toNat / fractionBits % 2048 ≠ 2047 := by
  unfold rational? Double.of Double.ofBits
  dsimp only
  by_cases top : x.toBits.toNat / fractionBits % 2048 = 2047
  · have full : (x.toBits.toNat / fractionBits % 2048 == 2047) = true := beq_iff_eq.mpr top
    rw [if_pos full]
    refine iff_of_false ?_ (not_not.mpr top)
    cases fraction : x.toBits.toNat % fractionBits == 0 <;> simp
  · have short : ¬ (x.toBits.toNat / fractionBits % 2048 == 2047) = true := fun full => top (beq_iff_eq.mp full)
    rw [if_neg short]
    refine iff_of_true ?_ top
    cases least : x.toBits.toNat / fractionBits % 2048 == 0 <;> simp

theorem neg_resigns (x : UnpackedFloat) : ∃ sign, x.neg = withSign sign x := by
  cases x with
  | notANumber => exact ⟨.positive,rfl⟩
  | infinity sign => exact ⟨-sign,rfl⟩
  | zero sign => exact ⟨-sign,rfl⟩
  | finite sign m e _ => exact ⟨-sign,rfl⟩

theorem neg_isSome {x : Float} (finite : (rational? x).isSome = true) : (rational? (-x)).isSome = true := by
  rw [rational?_isSome_iff] at finite ⊢
  have value := toNat_exponent x.toBits.toBitVec
  have exponent : @unpackExponent .binary64 x.toBits.toBitVec ≠ -1#_ := by
    intro full
    rw [full] at value
    exact finite value.symm
  obtain ⟨sign,same⟩ := neg_resigns (UnpackedFloat.unpack .binary64 x.toBits.toBitVec)
  change (UnpackedFloat.pack .binary64 (UnpackedFloat.unpack .binary64 x.toBits.toBitVec).neg).toNat / _ % _ ≠ _
  rw [same,pack_withSign exponent,toNat_packComponents]
  have short := (@unpackMantissa .binary64 x.toBits.toBitVec).isLt
  have bounded := (@unpackExponent .binary64 x.toBits.toBitVec).isLt
  change _ < 2 ^ 52 at short
  change _ < 2 ^ 11 at bounded
  have same : x.toBits.toNat = x.toBits.toBitVec.toNat := rfl
  unfold fractionBits at finite ⊢
  omega

-- No integer is turned into an infinity.
theorem ofInt_isSome {n : Int} {x : Float} (converted : doubleOfInt n = .ok x) : (rational? x).isSome = true := by
  unfold doubleOfInt nearest? at converted
  cases near : nearestBits n.natAbs 1 with
  | none => rw [near] at converted; cases converted
  | some bits =>
    rw [near] at converted
    have finite := nearestBits_finite near
    have magnitude : (rational? (Float.ofBits (UInt64.ofNat bits))).isSome = true := by
      rw [rational?_isSome_iff,toBits_ofBits finite]
      unfold fractionBits at finite ⊢
      omega
    simp only [Option.map_some,Except.ok.injEq] at converted
    split at converted
    · cases converted; exact neg_isSome magnitude
    · cases converted; exact magnitude

theorem Plain.not_below {x : Float} (plain : Plain x) : below x 0.0 = false := by
  have unsigned : Unsigned x.toModel.unpack := unsigned_unpack plain
  rw [below_zero_eq]
  generalize x.toModel.unpack = unpacked at unsigned
  cases unpacked with
  | notANumber => rfl
  | infinity sign => cases unsigned; rfl
  | zero sign => rfl
  | finite sign m e _ => cases unsigned; rfl

theorem ofInt_not_below {n : Int} {x : Float} (nonneg : 0 ≤ n) (converted : doubleOfInt n = .ok x) : below x 0.0 = false :=
  (plain_ofInt nonneg converted).not_below

end PitWall.Arithmetic
