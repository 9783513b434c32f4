import Mathlib
import PitWall.Decimal.Binary

namespace PitWall.Decimal
open Float.Model Float.Model.UnpackedFloat

-- The 64 bits of a double in their three parts, lowest last.
theorem toNat_mantissa (bits : BitVec 64) :
    (@unpackMantissa .binary64 bits).toNat = bits.toNat % 2 ^ 52 := by
  change bits.toNat >>> 0 % 2 ^ 52 = _
  rw [Nat.shiftRight_zero]

theorem toNat_exponent (bits : BitVec 64) :
    (@unpackExponent .binary64 bits).toNat = bits.toNat / 2 ^ 52 % 2 ^ 11 := by
  change bits.toNat >>> 52 % 2 ^ 11 = _
  rw [Nat.shiftRight_eq_div_pow]

theorem toNat_sign (bits : BitVec 64) :
    (@unpackSign .binary64 bits).toNat = bits.toNat / 2 ^ 63 % 2 := by
  change bits.toNat >>> 63 % 2 ^ 1 = _
  rw [Nat.shiftRight_eq_div_pow]

theorem toNat_packComponents (sign : Sign) (exponent : BitVec 11) (mantissa : BitVec 52) :
    (packComponents .binary64 sign exponent mantissa).toNat =
      sign.toBitVec.toNat * 2 ^ 63 + exponent.toNat * 2 ^ 52 + mantissa.toNat := by
  have low := mantissa.isLt
  have middle := exponent.isLt
  simp only [packComponents,BitVec.toNat_append]
  rw [← Nat.shiftLeft_add_eq_or_of_lt middle,← Nat.shiftLeft_add_eq_or_of_lt low]
  simp only [Nat.shiftLeft_eq]
  omega

theorem significand_toNat (fraction : BitVec 52) : (1#1 ++ fraction).toNat = 2 ^ 52 + fraction.toNat := by
  rw [BitVec.toNat_append,← Nat.shiftLeft_add_eq_or_of_lt fraction.isLt]
  rfl

theorem parts_together (bits : BitVec 64) :
    packComponents .binary64 (Sign.ofBitVec (@unpackSign .binary64 bits))
      (@unpackExponent .binary64 bits) (@unpackMantissa .binary64 bits) = bits := by
  apply BitVec.eq_of_toNat_eq
  have sign : (Sign.ofBitVec (@unpackSign .binary64 bits)).toBitVec =
      @unpackSign .binary64 bits := by
    generalize @unpackSign .binary64 bits = sign
    revert sign; decide
  rw [toNat_packComponents,sign,toNat_mantissa,toNat_exponent,toNat_sign]
  have := bits.isLt
  omega

theorem pack_subnormal (sign : Sign) {fraction : BitVec 52} (positive : 0 < fraction.toNat) {exponent : Int}
    (smallest : exponent = -1074) :
    UnpackedFloat.pack .binary64 (.finite sign fraction.toNat exponent positive) =
      packComponents .binary64 sign 0#11 fraction := by
  have short : ¬ fraction.toNat.log2 + 1 = Format.binary64.mantissaBits := by
    have := (Nat.log2_lt (by omega)).mpr fraction.isLt
    change ¬ _ = 53
    omega
  subst smallest
  unfold UnpackedFloat.pack
  dsimp only
  rw [if_neg (by decide),if_neg short,BitVec.ofNat_toNat,BitVec.setWidth_eq]

theorem pack_normal (sign : Sign) {exponent : BitVec 11} {fraction : BitVec 52} {significand : Nat} {power : Int}
    (positive : 0 < significand) (finite : exponent.toNat < 2047) (whole : significand = 2 ^ 52 + fraction.toNat)
    (scaled : power = exponent.toNat - 1075) :
    UnpackedFloat.pack .binary64 (.finite sign significand power positive) =
      packComponents .binary64 sign exponent fraction := by
  have short := fraction.isLt
  have long : significand.log2 + 1 = Format.binary64.mantissaBits := by
    have lower : 52 ≤ significand.log2 := (Nat.le_log2 (by omega)).mpr (by omega)
    have upper : significand.log2 < 53 := (Nat.log2_lt (by omega)).mpr (by omega)
    change _ = 53
    omega
  have biased : (power + Format.binary64.exponentBias + Format.binary64.mantissaBitsWithoutImplicit).toNat =
      exponent.toNat := by
    change (power + (1023 : Nat) + (52 : Nat)).toNat = _
    omega
  have low : BitVec.ofNat 52 significand = fraction := by
    apply BitVec.eq_of_toNat_eq
    rw [BitVec.toNat_ofNat]
    omega
  unfold UnpackedFloat.pack
  dsimp only
  rw [biased,if_neg (by change ¬ 2048 ≤ _; omega),if_pos long,low,BitVec.ofNat_toNat,BitVec.setWidth_eq]

def withSign (sign : Sign) : UnpackedFloat → UnpackedFloat
  | .notANumber => .notANumber
  | .infinity _ => .infinity sign
  | .zero _ => .zero sign
  | .finite _ m e positive => .finite sign m e positive

theorem pack_withSign {bits : BitVec 64} (finite : @unpackExponent .binary64 bits ≠ -1#_) (sign : Sign) :
    UnpackedFloat.pack .binary64 (withSign sign (UnpackedFloat.unpack .binary64 bits)) =
      packComponents .binary64 sign (@unpackExponent .binary64 bits) (@unpackMantissa .binary64 bits) := by
  have top : (@unpackExponent .binary64 bits).toNat < 2047 := by
    have := (@unpackExponent .binary64 bits).isLt
    have : (@unpackExponent .binary64 bits).toNat ≠ 2047 := fun top =>
      finite (BitVec.eq_of_toNat_eq top)
    change _ < 2 ^ 11 at *
    omega
  unfold UnpackedFloat.unpack
  dsimp only
  rw [if_neg finite]
  split
  · rename_i smallest
    rw [smallest]
    split
    · rename_i fractionless
      rw [fractionless]
      rfl
    · exact pack_subnormal sign _ rfl
  · exact pack_normal sign _ top (significand_toNat _) rfl

-- Only a NaN can change on its way through the bits of a double.
theorem pack_unpack {bits : BitVec 64} (finite : @unpackExponent .binary64 bits ≠ -1#_) :
    UnpackedFloat.pack .binary64 (UnpackedFloat.unpack .binary64 bits) = bits := by
  have own : withSign (Sign.ofBitVec (@unpackSign .binary64 bits)) (UnpackedFloat.unpack .binary64 bits) =
      UnpackedFloat.unpack .binary64 bits := by
    unfold UnpackedFloat.unpack
    dsimp only
    split
    · split <;> rfl
    · split
      · split <;> rfl
      · rfl
  rw [← own,pack_withSign finite]
  exact parts_together bits

theorem toBits_ofBits {bits : Nat} (finite : bits < 2047 * fractionBits) :
    (Float.ofBits (UInt64.ofNat bits)).toBits.toNat = bits := by
  have short : bits < 2 ^ 64 := Nat.lt_trans finite (by decide)
  have same : (UInt64.ofNat bits).toBitVec.toNat = bits := by
    rw [UInt64.toNat_toBitVec,UInt64.toNat_ofNat',Nat.mod_eq_of_lt short]
  have exponent : @unpackExponent .binary64 (UInt64.ofNat bits).toBitVec ≠ -1#_ := by
    intro full
    have value : bits / 2 ^ 52 % 2 ^ 11 = 2047 := by
      rw [← same,← toNat_exponent,full]
      rfl
    unfold fractionBits at finite
    omega
  change (UnpackedFloat.pack .binary64 (UnpackedFloat.unpack .binary64 (UInt64.ofNat bits).toBitVec)).toNat = _
  rw [pack_unpack exponent,same]

theorem nearestBits_finite {a b bits : Nat} (near : nearestBits a b = some bits) : bits < 2047 * fractionBits := by
  unfold nearestBits at near
  split at near
  · cases near; decide
  · dsimp only at near
    split at near
    · rename_i finite; cases near; exact finite
    · cases near

end PitWall.Decimal
