import PitWall.Proofs.Arithmetic.Exact

namespace PitWall.Arithmetic
open Decimal Float.Model Float.Model.UnpackedFloat

-- A number with an exponent up to a bound; infinities and NaN have none.
def UpTo (bound : Int) : UnpackedFloat → Prop
  | .zero _ => True
  | .finite _ _ e _ => e ≤ bound
  | .notANumber | .infinity _ => False

instance (bound : Int) : (x : UnpackedFloat) → Decidable (UpTo bound x)
  | .zero _ => .isTrue trivial
  | .finite _ _ e _ => inferInstanceAs (Decidable (e ≤ bound))
  | .notANumber | .infinity _ => .isFalse id

theorem UpTo.mono {x : UnpackedFloat} {bound other : Int} (upTo : UpTo bound x) (wider : bound ≤ other) : UpTo other x := by
  cases x with
  | notANumber => cases upTo
  | infinity sign => cases upTo
  | zero sign => trivial
  | finite sign m e _ => exact Int.le_trans upTo wider

def Short : UnpackedFloat → Prop
  | .finite _ m _ _ => m < 2 ^ 53
  | .zero _ | .notANumber | .infinity _ => True

theorem shift_mantissa_le (extended : ExtendedMantissa) (n : Nat) : (extended >>> n).mantissa ≤ extended.mantissa := by
  induction n with
  | zero => exact Nat.le_refl _
  | succ n ih => exact Nat.le_trans (Nat.div_le_self _ 2) ih

theorem roundedMantissa_le (extended : ExtendedMantissa) : extended.roundedMantissa ≤ extended.mantissa + 1 := by
  obtain ⟨mantissa,roundBit,stickyBit⟩ := extended
  cases roundBit <;> cases stickyBit <;>
    simp only [ExtendedMantissa.roundedMantissa,ExtendedMantissa.accuracy,Accuracy.roundToNearestEven] <;> omega

theorem ofMantissaAndAccuracy_mantissa (m : Nat) (accuracy : Accuracy) :
    (ExtendedMantissa.ofMantissaAndAccuracy m accuracy).mantissa = m := by
  rcases accuracy with _ | order
  · rfl
  · cases order <;> rfl

theorem log2_lt_of_lt {m bits : Nat} (room : 0 < bits) (small : m < 2 ^ bits) : m.log2 < bits := by
  by_cases zero : m = 0
  · subst zero
    exact room
  · exact (Nat.log2_lt zero).mpr small

theorem shift_upTo {m bits : Nat} (e : Int) (accuracy : Accuracy) (room : 0 < bits) (small : m < 2 ^ bits) :
    (shiftToTargetExponent .binary64 m e accuracy).1.mantissa ≤ m ∧
      (shiftToTargetExponent .binary64 m e accuracy).2 ≤ max e (max (e + bits - 53) (-1074)) := by
  have short := log2_lt_of_lt room small
  refine ⟨?_,?_⟩
  · refine Nat.le_trans (shift_mantissa_le _ _) ?_
    rw [ofMantissaAndAccuracy_mantissa]
  · change e + ((max ((m.log2 + 1 + e : Int) - 53) (-1074) - e).toNat : Int) ≤ _
    omega

theorem round_upTo {sign : Sign} {m bits : Nat} {e bound : Int} {accuracy : Accuracy} (room : 0 < bits)
    (small : m < 2 ^ bits) (upTo : e ≤ bound) (normal : -1074 ≤ bound) :
    UpTo (bound + 2 * bits) (roundWithAccuracy .binary64 sign m e accuracy) := by
  unfold roundWithAccuracy
  obtain ⟨kept,early⟩ := shift_upTo e accuracy room small
  generalize shiftToTargetExponent .binary64 m e accuracy = shifted at kept early
  obtain ⟨shifted,exponent⟩ := shifted
  dsimp only at kept early ⊢
  have rounded := roundedMantissa_le shifted
  have carried : shifted.roundedMantissa < 2 ^ (bits + 1) := by
    have : 2 ^ (bits + 1) = 2 ^ bits + 2 ^ bits := by ring
    omega
  obtain ⟨_,late⟩ := shift_upTo exponent .exact (Nat.succ_pos bits) carried
  generalize shiftToTargetExponent .binary64 shifted.roundedMantissa exponent .exact = final at late
  obtain ⟨final,last⟩ := final
  dsimp only at late ⊢
  split
  · trivial
  · change last ≤ _
    push_cast at late
    omega

theorem unpack_upTo {bits : BitVec 64} {bound : Int} (finite : (@unpackExponent .binary64 bits).toNat ≠ 2047)
    (upTo : (@unpackExponent .binary64 bits).toNat - 1075 ≤ bound) (normal : -1074 ≤ bound) :
    UpTo bound (UnpackedFloat.unpack .binary64 bits) := by
  have short : @unpackExponent .binary64 bits ≠ -1#11 := fun top => finite (congrArg BitVec.toNat top)
  unfold UnpackedFloat.unpack
  dsimp only
  rw [if_neg short]
  by_cases least : @unpackExponent .binary64 bits = 0#11
  · have zero : (@unpackExponent .binary64 bits).toNat = 0 := congrArg BitVec.toNat least
    rw [if_pos least,zero]
    split
    · trivial
    · exact normal
  · rw [if_neg least]
    exact upTo

theorem unpack_short (bits : BitVec 64) : Short (UnpackedFloat.unpack .binary64 bits) := by
  have fraction := (@unpackMantissa .binary64 bits).isLt
  change _ < 2 ^ 52 at fraction
  unfold UnpackedFloat.unpack
  dsimp only
  split
  · split <;> trivial
  · split
    · split
      · trivial
      · exact Nat.lt_trans fraction (by decide)
    · change (1#1 ++ @unpackMantissa .binary64 bits).toNat < 2 ^ 53
      rw [significand_toNat]
      omega

theorem exponent_packComponents (sign : Sign) (exponent : BitVec 11) (mantissa : BitVec 52) :
    (@unpackExponent .binary64 (packComponents .binary64 sign exponent mantissa)).toNat = exponent.toNat := by
  have short := mantissa.isLt
  have bounded := exponent.isLt
  rw [toNat_exponent,toNat_packComponents]
  omega

theorem unpack_pack_upTo {x : UnpackedFloat} {bound : Int} (upTo : UpTo bound x) (normal : -1074 ≤ bound)
    (small : bound ≤ 971) : UpTo bound (UnpackedFloat.unpack .binary64 (UnpackedFloat.pack .binary64 x)) := by
  have packed (sign : Sign) {exponent : BitVec 11} (mantissa : BitVec 52) (finite : exponent.toNat ≠ 2047)
      (upTo : exponent.toNat - 1075 ≤ bound) :
      UpTo bound (UnpackedFloat.unpack .binary64 (packComponents .binary64 sign exponent mantissa)) := by
    rw [← exponent_packComponents sign exponent mantissa] at finite upTo
    exact unpack_upTo finite upTo normal
  have least (sign : Sign) (mantissa : BitVec 52) :
      UpTo bound (UnpackedFloat.unpack .binary64 (packComponents .binary64 sign 0#11 mantissa)) :=
    packed sign mantissa (by decide) (by change (0 : Int) - 1075 ≤ bound; omega)
  cases x with
  | notANumber => cases upTo
  | infinity sign => cases upTo
  | zero sign => exact least sign 0#52
  | finite sign m e nonzero =>
    have upTo : e ≤ bound := upTo
    unfold UnpackedFloat.pack
    dsimp only
    have bias : e + (Format.binary64.exponentBias : Int) + (Format.binary64.mantissaBitsWithoutImplicit : Int) = e + 1075 := by
      change e + (1023 : Int) + (52 : Int) = _
      omega
    have fits : ¬ 2 ^ Format.binary64.exponentBits ≤ (e + 1075).toNat + 1 := by
      change ¬ 2 ^ 11 ≤ _
      omega
    rw [bias,if_neg fits]
    split
    · have exponent : (BitVec.ofNat 11 (e + 1075).toNat).toNat = (e + 1075).toNat := by
        rw [BitVec.toNat_ofNat,Nat.mod_eq_of_lt (by omega)]
      exact packed sign _ (by rw [exponent]; omega) (by rw [exponent]; omega)
    · exact least sign _

theorem mul_upTo {x y : UnpackedFloat} {bound other : Int} (left : UpTo bound x) (right : UpTo other y)
    (leftShort : Short x) (rightShort : Short y) (normal : 0 ≤ bound + other) :
    UpTo (bound + other + 212) (UnpackedFloat.mul .binary64 x y) := by
  cases x with
  | notANumber => cases left
  | infinity sign => cases left
  | zero sign =>
    cases y with
    | notANumber => cases right
    | infinity sign => cases right
    | zero sign => trivial
    | finite sign n f nonzero => trivial
  | finite sign m e nonzero =>
    cases y with
    | notANumber => cases right
    | infinity sign => cases right
    | zero sign => trivial
    | finite sign n f nonzero =>
      have small : m * n < 2 ^ 106 := by
        rw [show 106 = 53 + 53 from rfl,Nat.pow_add]
        exact Nat.mul_lt_mul'' leftShort rightShort
      have upTo : e + f ≤ bound + other := Int.add_le_add left right
      exact (round_upTo (by decide) small upTo (by omega)).mono (by omega)

-- The quotient is worked out to so many digits that its exponent is not above the difference of the two.
theorem divCore_upTo {m n : Nat} {e f : Int} (less : e ≤ f) (leftShort : m < 2 ^ 53) (rightShort : n < 2 ^ 53) :
    (divCore .binary64 m e n f).1 < 2 ^ 160 ∧ (divCore .binary64 m e n f).2.1 ≤ 0 := by
  have length := log2_lt_of_lt (by decide) rightShort
  have target : (divCore .binary64 m e n f).2.1 =
      min (e - f) (max ((m.log2 + 1 + e) - (n.log2 + 1 + f) - 53) (-1074)) := rfl
  have shifted : (divCore .binary64 m e n f).1 = (m <<< (e - f - (divCore .binary64 m e n f).2.1).toNat) / n := rfl
  have few : (e - f - (divCore .binary64 m e n f).2.1).toNat ≤ 107 := by omega
  refine ⟨?_,by omega⟩
  rw [shifted]
  generalize (e - f - (divCore .binary64 m e n f).2.1).toNat = shift at few
  calc (m <<< shift) / n ≤ m <<< shift := Nat.div_le_self _ _
    _ = m * 2 ^ shift := Nat.shiftLeft_eq m shift
    _ ≤ m * 2 ^ 107 := Nat.mul_le_mul_left m (Nat.pow_le_pow_right Nat.two_pos few)
    _ < 2 ^ 53 * 2 ^ 107 := Nat.mul_lt_mul_of_pos_right leftShort (Nat.pow_pos Nat.two_pos)
    _ = 2 ^ 160 := by rw [← Nat.pow_add]

theorem exponent_le_of_lt {m n : Nat} {e f : Int} {nonzero : 0 < m} {positive : 0 < n}
    (less : (finite .positive m e nonzero).lt (finite .positive n f positive) = true) : e ≤ f := by
  have ordered : (compare e f).then (compare m n) = .lt := Option.some.inj (beq_iff_eq.mp less)
  by_contra beyond
  rw [Int.compare_eq_gt.mpr (by omega)] at ordered
  cases ordered

theorem div_upTo {x y : UnpackedFloat} (low : Unsigned x) (less : x.lt y = true) (leftShort : Short x)
    (rightShort : Short y) : UpTo 320 (UnpackedFloat.div .binary64 x y) := by
  cases x with
  | notANumber => cases less
  | infinity sign =>
    cases low
    cases y with
    | infinity sign => cases sign <;> cases less
    | notANumber => cases less
    | zero sign => cases less
    | finite sign n f nonzero => cases less
  | zero sign =>
    cases y with
    | notANumber => cases less
    | infinity sign => trivial
    | zero sign => cases less
    | finite sign n f nonzero => trivial
  | finite sign m e nonzero =>
    cases low
    cases y with
    | notANumber => cases less
    | infinity sign => trivial
    | zero sign => cases less
    | finite sign n f positive =>
      cases sign with
      | negative => cases less
      | positive =>
        obtain ⟨small,exponent⟩ := divCore_upTo (exponent_le_of_lt less) leftShort rightShort
        exact round_upTo (by decide) small exponent (by decide)

theorem positive_of_lt {x y : UnpackedFloat} (less : x.lt y = true) (low : Unsigned x) : y.le (.zero .positive) = false := by
  cases y with
  | notANumber => rfl
  | infinity sign => cases unsigned_of_lt less low; rfl
  | zero sign =>
    cases x with
    | notANumber => cases less
    | infinity sign => cases low; cases less
    | zero sign => cases less
    | finite sign m e _ => cases low; cases less
  | finite sign n f _ => cases unsigned_of_lt less low; rfl

theorem nonzero_of_positive {x : Float} (positive : atMost x 0.0 = false) : (!(x == 0.0)) = true := by
  rw [atMost_zero_eq] at positive
  change (!(x.toModel.unpack.beq (.zero .positive))) = true
  unfold UnpackedFloat.beq
  unfold UnpackedFloat.le at positive
  generalize x.toModel.unpack.compare (.zero .positive) = order at positive
  rcases order with _ | _ | _ | _ <;> first | rfl | cases positive

theorem rational?_of_upTo {x : Float} {bound : Int} (upTo : UpTo bound x.toModel.unpack) : (rational? x).isSome = true := by
  rw [rational?_eq]
  generalize x.toModel.unpack = unpacked at upTo
  cases unpacked with
  | notANumber => cases upTo
  | infinity sign => cases upTo
  | zero sign => rfl
  | finite sign m e _ => cases sign <;> rfl

theorem floor_succeeds {x : Float} (exactly : (rational? x).isSome = true) : Succeeds (floor x : Except Fault Int) := by
  change Succeeds (doubleFloor x)
  unfold doubleFloor
  unfold rational? at exactly
  dsimp only at exactly ⊢
  cases kind : (Double.of x).kind with
  | nan => rw [kind] at exactly; cases exactly
  | infinite => rw [kind] at exactly; cases exactly
  | finite magnitude => exact succeeds_ok _

-- The share that a draw is of a larger chance can be had, and so can the floor of its multiples.
theorem share_succeeds {draw chance whole : Float} (plain : Plain draw) (less : below draw chance = true)
    (upTo : UpTo 0 whole.toModel.unpack) : Returns (quotient draw chance : Except Fault Float) fun share =>
      Succeeds (floor (share * whole) : Except Fault Int) := by
  have low : Unsigned draw.toModel.unpack := unsigned_unpack plain
  have less : draw.toModel.unpack.lt chance.toModel.unpack = true := lt_of_below less
  have short (x : Float) : Short x.toModel.unpack := unpack_short x.toBits.toBitVec
  have positive : atMost chance 0.0 = false := by
    rw [atMost_zero_eq]
    exact positive_of_lt less low
  obtain ⟨share,divided,_⟩ := quotient_succeeds draw (nonzero_of_positive positive)
  refine ⟨share,divided,?_⟩
  have shareUpTo : UpTo 320 share.toModel.unpack := by
    rw [quotient_value divided]
    exact unpack_pack_upTo (div_upTo low less (short draw) (short chance)) (by decide) (by decide)
  have product := mul_upTo shareUpTo upTo (short share) (short whole) (by decide)
  have upTo : UpTo 532 (share * whole).toModel.unpack := unpack_pack_upTo product (by decide) (by decide)
  exact floor_succeeds (rational?_of_upTo upTo)

end PitWall.Arithmetic
