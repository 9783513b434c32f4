import PitWall.Arithmetic.Doubles
import PitWall.Proofs.Checked
import PitWall.Proofs.Decimal.Bits
import PitWall.Proofs.Position

namespace PitWall.Arithmetic
open Decimal Float.Model Float.Model.UnpackedFloat

-- No minus sign; a double that is no number counts as having none.
def Unsigned : UnpackedFloat → Prop
  | .notANumber => True
  | .infinity sign | .zero sign | .finite sign _ _ _ => sign = .positive

def Plain (x : Float) : Prop := x.toBits.toNat < 2 ^ 63

theorem unsigned_unpack {bits : BitVec 64} (low : bits.toNat < 2 ^ 63) :
    Unsigned (UnpackedFloat.unpack .binary64 bits) := by
  have sign : Sign.ofBitVec (@unpackSign .binary64 bits) = .positive := by
    have zero : @unpackSign .binary64 bits = 0#1 := by
      apply BitVec.eq_of_toNat_eq
      rw [toNat_sign,Nat.div_eq_of_lt low]
      rfl
    rw [zero]; rfl
  unfold UnpackedFloat.unpack
  dsimp only
  rw [sign]
  split
  · split
    · rfl
    · trivial
  · split
    · split <;> rfl
    · rfl

theorem packed_low {exponent : BitVec 11} {fraction : BitVec 52} :
    (packComponents .binary64 .positive exponent fraction).toNat < 2 ^ 63 := by
  have := exponent.isLt
  have := fraction.isLt
  rw [toNat_packComponents]
  change 0 * 2 ^ 63 + _ + _ < _
  omega

theorem pack_unsigned {x : UnpackedFloat} (unsigned : Unsigned x) :
    (UnpackedFloat.pack .binary64 x).toNat < 2 ^ 63 := by
  cases x with
  | notANumber => exact packed_low
  | infinity sign => cases unsigned; exact packed_low
  | zero sign => cases unsigned; exact packed_low
  | finite sign m e nonzero =>
    cases unsigned
    unfold UnpackedFloat.pack
    dsimp only
    split
    · exact packed_low
    · split <;> exact packed_low

theorem round_unsigned (m : Nat) (e : Int) (accuracy : Accuracy) :
    Unsigned (roundWithAccuracy .binary64 .positive m e accuracy) := by
  unfold roundWithAccuracy
  dsimp only
  split <;> rfl

theorem mul_unsigned {x y : UnpackedFloat} (left : Unsigned x) (right : Unsigned y) :
    Unsigned (UnpackedFloat.mul .binary64 x y) := by
  cases x <;> cases y <;> first | trivial | (cases left; cases right; first | rfl | exact round_unsigned _ _ _)

theorem div_unsigned {x y : UnpackedFloat} (left : Unsigned x) (right : Unsigned y) :
    Unsigned (UnpackedFloat.div .binary64 x y) := by
  cases x <;> cases y <;> first | trivial | (cases left; cases right; first | rfl | exact round_unsigned _ _ _)

theorem unsigned_of_lt {x y : UnpackedFloat} (below : x.lt y = true) (low : Unsigned x) : Unsigned y := by
  cases x <;> cases y <;> first
    | trivial
    | cases below
    | (rename_i sign; cases low; cases sign <;> first | rfl | cases below)
    | (rename_i sign _ _ _; cases low; cases sign <;> first | rfl | cases below)

theorem lt_of_below {x y : Float} (less : below x y = true) : x.toModel.unpack.lt y.toModel.unpack = true := by
  have below : x < y := of_decide_eq_true less
  have lower : x.toModel < y.toModel := of_decide_eq_true below
  exact lower

theorem toBits_mul (x y : Float) :
    (x * y).toBits.toNat = (UnpackedFloat.pack .binary64
      (UnpackedFloat.mul .binary64 x.toModel.unpack y.toModel.unpack)).toNat := rfl

theorem toBits_div (x y : Float) :
    (x / y).toBits.toNat = (UnpackedFloat.pack .binary64
      (UnpackedFloat.div .binary64 x.toModel.unpack y.toModel.unpack)).toNat := rfl

theorem quotient_value {x y z : Float} (divided : doubleQuotient x y = .ok z) : z = x / y := by
  unfold doubleQuotient at divided
  split at divided
  · cases divided
  · cases divided
    rfl

theorem Plain.mul {x y : Float} (left : Plain x) (right : Plain y) : Plain (x * y) := by
  unfold Plain
  rw [toBits_mul]
  exact pack_unsigned (mul_unsigned (unsigned_unpack left) (unsigned_unpack right))

theorem plain_nearest {a b : Nat} {x : Float} (found : nearest? false a b = some x) : Plain x := by
  obtain ⟨bits,near,rfl⟩ := Option.map_eq_some_iff.mp found
  unfold Plain
  rw [if_neg Bool.false_ne_true,toBits_ofBits (nearestBits_finite near)]
  exact Nat.lt_trans (nearestBits_finite near) (by decide)

theorem plain_ratio {n m : Int} {x : Float} (nonneg : 0 ≤ n) (positive : 0 < m) (divided : doubleRatio n m = .ok x) : Plain x := by
  unfold doubleRatio at divided
  rw [if_neg positive.ne',decide_eq_false (not_lt.mpr nonneg),decide_eq_false (not_lt.mpr positive.le)] at divided
  split at divided
  · rename_i near
    cases divided
    exact plain_nearest near
  · cases divided

theorem plain_ofInt {n : Int} {x : Float} (nonneg : 0 ≤ n) (converted : doubleOfInt n = .ok x) : Plain x := by
  unfold doubleOfInt at converted
  rw [decide_eq_false (not_lt.mpr nonneg)] at converted
  split at converted
  · rename_i near
    cases converted
    exact plain_nearest near
  · cases converted

theorem floor_nonneg {x : Float} {n : Int} (plain : Plain x) (floored : doubleFloor x = .ok n) : 0 ≤ n := by
  have positive : (Double.of x).negative = false := by
    unfold Double.of Double.ofBits
    dsimp only
    rw [Nat.div_eq_of_lt (show x.toBits.toNat < 0x8000000000000000 from plain)]
    rfl
  unfold doubleFloor at floored
  dsimp only at floored
  split at floored
  · cases floored
  · cases floored
  · rw [positive] at floored
    cases floored
    exact Int.fdiv_nonneg (Int.natCast_nonneg _) (Int.natCast_nonneg _)

theorem floorsUp_double : Position.FloorsUp Float := by
  intro draw places seed threshold share whole floored nonneg _ positive drawn below divided converted rounded
  have seedPlain : Plain seed := plain_ratio nonneg (by decide) drawn
  have wholePlain : Plain whole := plain_ofInt (by omega) converted
  have beyond : Unsigned threshold.toModel.unpack := unsigned_of_lt (lt_of_below below) (unsigned_unpack seedPlain)
  have sharePlain : Plain share := by
    unfold Plain
    rw [quotient_value divided,toBits_div]
    exact pack_unsigned (div_unsigned (unsigned_unpack seedPlain) beyond)
  exact floor_nonneg (sharePlain.mul wholePlain) rounded

end PitWall.Arithmetic
