import PitWall.Proofs.Decimal.Bits
import PitWall.Proofs.Decimal.Positional
import PitWall.Proofs.Decimal.Shortest

namespace PitWall.Decimal
open Sheet

theorem chanceValue_pointed {whole fraction : List Char} (digits : ∀ c ∈ whole ++ fraction, isDigit c = true) :
    chanceValue (pointed whole fraction) = nearest (countValue (whole ++ fraction)) (10 ^ fraction.length) := by
  obtain ⟨kept,places⟩ := pointed_parts digits
  unfold chanceValue
  dsimp only
  rw [kept,places]
  rfl

theorem Digits.written_value (d : Digits) : d.written.value = d.value := by
  obtain ⟨_,before,behind,row,scale⟩ := d.written_padded
  unfold Written.value Digits.value
  rw [row,countValue_padded,countValue_digitsOf]
  by_cases zero : d.digits = 0
  · simp [zero]
  · rw [scale zero,add_sub_assoc,zpow_add₀ (by norm_num),zpow_natCast]
    push_cast
    ring

theorem writes_shortest (d : Digits) : Writes d.written.plain d.value := by
  have writes := writes_plain d.written_inDigits
  rwa [d.written_value] at writes

def magnitude (bits : Nat) : Binary :=
  if bits / fractionBits = 0 then ⟨bits % fractionBits,-1074,false⟩
  else ⟨fractionBits + bits % fractionBits,(bits / fractionBits : Nat) - 1075,
    bits % fractionBits == 0 && bits / fractionBits > 1⟩

theorem double_ofBits {bits : Nat} (finite : bits < 2047 * fractionBits) :
    Double.ofBits bits = ⟨false,.finite (magnitude bits)⟩ := by
  unfold fractionBits at finite
  have short : bits / fractionBits < 2047 := Nat.div_lt_of_lt_mul (by unfold fractionBits; omega)
  have positive : bits / 0x8000000000000000 = 0 := Nat.div_eq_of_lt (by omega)
  unfold Double.ofBits magnitude
  dsimp only
  rw [positive,Nat.mod_eq_of_lt (show bits / fractionBits < 2048 by omega)]
  have top : (bits / fractionBits == 2047) = false := by simp; omega
  rw [top]
  by_cases subnormal : bits / fractionBits = 0
  · simp [subnormal]
  · simp [subnormal]

theorem magnitude_legal {bits : Nat} (finite : bits < 2047 * fractionBits) :
    (magnitude bits).Legal ∧ (magnitude bits).bits = bits := by
  unfold fractionBits at finite
  unfold magnitude Binary.bits
  by_cases subnormal : bits / fractionBits = 0
  · rw [if_pos subnormal]
    unfold fractionBits at *
    refine ⟨⟨by simp,by simp,by dsimp only; omega,.inr rfl,by simp⟩,?_⟩
    dsimp only
    omega
  · rw [if_neg subnormal]
    unfold fractionBits at *
    refine ⟨⟨by dsimp only; omega,by dsimp only; omega,by dsimp only; omega,.inl (by dsimp only; omega),?_⟩,?_⟩
    · simp only [Bool.and_eq_true,beq_iff_eq,decide_eq_true_eq]
      omega
    · dsimp only
      omega

-- A finite double without a sign is written as a numeral that reads as the same double.
theorem chanceValue_write {bits : Nat} (finite : bits < 2047 * fractionBits) :
    let chance := Float.ofBits (UInt64.ofNat bits)
    chanceValue (plain.write chance) = chance ∧ Field.numeral.Holds (plain.write chance) := by
  intro chance
  obtain ⟨legal,same⟩ := magnitude_legal finite
  have unsigned : Double.of chance = ⟨false,.finite (magnitude bits)⟩ := by
    rw [Double.of,toBits_ofBits finite,double_ofBits finite]
  have text : plain.write chance = (magnitude bits).shortest.written.plain := write_unsigned unsigned plain
  have writes := writes_shortest (magnitude bits).shortest
  rw [← text] at writes
  refine ⟨?_,writes.holds⟩
  obtain ⟨whole,fraction,digits,_,shape,value⟩ := writes
  rw [shape,chanceValue_pointed digits]
  have nearest_bits : nearestBits (countValue (whole ++ fraction)) (10 ^ fraction.length) = some bits := by
    by_cases zero : (magnitude bits).m = 0
    · have nothing : (magnitude bits).shortest = ⟨0,0⟩ := by
        unfold Binary.shortest
        rw [if_pos (by simp [zero])]
      rw [nothing,Digits.value,Nat.cast_zero,zero_mul,zero_mul,Nat.cast_eq_zero] at value
      have smallest : bits = 0 := by
        have least : (magnitude bits).q = -1074 := by
          have := legal.whole
          omega
        rw [← same,Binary.bits,least,zero]
        rfl
      rw [value,smallest]
      rfl
    · rw [← same]
      exact Binary.nearestBits_eq (Binary.shortest_around (Nat.pos_of_ne_zero zero)) legal (Nat.pos_of_ne_zero zero)
        (by positivity) (by rw [value]; push_cast; rfl)
  unfold nearest
  rw [nearest_bits]
  rfl

-- No numeral between 0 and 1 reads as infinity, so every accepted chance survives being written.
theorem chanceText_chanceValue {numeral : List Char} (chance : isChance (chanceValue numeral) = true) :
    chanceValue (chanceText (chanceValue numeral)) = chanceValue numeral ∧
      Field.numeral.Holds (chanceText (chanceValue numeral)) := by
  have infinite : isChance (Float.ofBits (UInt64.ofNat (2047 * fractionBits))) = false := by decide +kernel
  cases near : nearestBits (countValue (numeral.filter isDigit))
      (Nat.pow 10 ((numeral.dropWhile (· ≠ '.')).drop 1).length) with
  | none =>
    have same : chanceValue numeral = Float.ofBits (UInt64.ofNat (2047 * fractionBits)) := by
      unfold chanceValue nearest
      dsimp only
      rw [near]
      rfl
    rw [same,infinite] at chance
    cases chance
  | some bits =>
    have same : chanceValue numeral = Float.ofBits (UInt64.ofNat bits) := by
      unfold chanceValue nearest
      dsimp only
      rw [near]
      rfl
    rw [same]
    exact chanceValue_write (nearestBits_finite near)

end PitWall.Decimal
