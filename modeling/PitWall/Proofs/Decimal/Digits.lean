import Mathlib.Algebra.Order.Ring.Nat
import PitWall.Decimal.Notation
import PitWall.Proofs.Sheet.Pattern
import PitWall.Sheet.Sections

namespace PitWall.Sheet
open Decimal

theorem countValue_append (left right : List Char) :
    countValue (left ++ right) = 10 ^ right.length * countValue left + countValue right :=
  (Nat.ofDigitChars_append 0).trans Nat.ofDigitChars_eq_ofDigitChars_zero

theorem countValue_digitsOf (n : Nat) : countValue (digitsOf n) = n := Nat.ofDigitChars_ten_toDigits

theorem countValue_zeros (n : Nat) : countValue (zeros n) = 0 := by
  have zero : countValue (zeros n) = 10 ^ n * 0 := Nat.ofDigitChars_replicate_zero
  rw [zero,Nat.mul_zero]

theorem digitValue_lt {c : Char} (digit : isDigit c = true) : digitValue c < 10 := by
  simp only [isDigit,Bool.and_eq_true,decide_eq_true_eq] at digit
  have high : c.toNat ≤ 57 := UInt32.le_iff_toNat_le.mp digit.2
  unfold digitValue
  change c.toNat - 48 < 10
  omega

theorem countValue_lt {run : List Char} (digits : ∀ c ∈ run, isDigit c = true) :
    countValue run < 10 ^ run.length := by
  induction run with
  | nil => decide
  | cons c run ih =>
    have rest := ih fun d inside => digits d (List.mem_cons_of_mem _ inside)
    have first := digitValue_lt (digits c List.mem_cons_self)
    have split := countValue_append [c] run
    rw [List.singleton_append] at split
    have own : countValue [c] = digitValue c := by simp [countValue]
    rw [split,own,List.length_cons,Nat.pow_succ]
    have room := Nat.mul_le_mul_left (10 ^ run.length) (Nat.le_of_lt_succ first)
    omega

theorem isDigit_digitsOf (n : Nat) : ∀ c ∈ digitsOf n, isDigit c = true := by
  intro c inside
  have digit := Nat.isDigit_of_mem_toDigits (by decide) (by decide) inside
  simp only [Char.isDigit,Bool.and_eq_true,decide_eq_true_eq] at digit
  simp only [isDigit,Bool.and_eq_true,decide_eq_true_eq]
  exact digit

theorem isDigit_zeros (n : Nat) : ∀ c ∈ zeros n, isDigit c = true := by
  intro c inside
  rw [List.eq_of_mem_replicate inside]
  rfl

theorem digitsOf_ne_nil (n : Nat) : digitsOf n ≠ [] := Nat.toDigits_ne_nil

theorem holds_digitsOf {n : Nat} : Field.count.Holds (digitsOf n) ↔ n < 10 ^ 6 := by
  have short : (digitsOf n).length ≤ 6 ↔ n < 10 ^ 6 := Nat.length_toDigits_le_iff (by decide) (by decide)
  constructor
  · intro holds
    exact short.mp holds.2.1
  · intro small
    exact ⟨digitsOf_ne_nil n,short.mpr small,isDigit_digitsOf n⟩

theorem countValue_of_holds {run : List Char} (holds : Field.count.Holds run) : countValue run < 10 ^ 6 := by
  obtain ⟨_,short,digits⟩ := holds
  exact Nat.lt_of_lt_of_le (countValue_lt digits) (Nat.pow_le_pow_right (by decide) short)

theorem intText_natCast (n : Nat) : intText n = digitsOf n := by
  unfold intText
  rw [if_neg (by omega),Int.natAbs_natCast]

end PitWall.Sheet
