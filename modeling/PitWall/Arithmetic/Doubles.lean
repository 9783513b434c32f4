import PitWall.Arithmetic
import PitWall.Decimal.Notation

namespace PitWall.Arithmetic
open Decimal

def doubleOfInt (n : Int) : Except Fault Float :=
  match nearest? (n < 0) n.natAbs 1 with
  | some x => .ok x
  | none => .error .integerTooLarge

def doubleQuotient (x y : Float) : Except Fault Float :=
  if y == 0.0 then .error .zeroDivisor else .ok (x / y)

def doubleRatio (a b : Int) : Except Fault Float :=
  if b = 0 then .error .zeroDivisor
  else match nearest? ((a < 0) != (b < 0)) a.natAbs b.natAbs with
    | some x => .ok x
    | none => .error .quotientTooLarge

def signed (negative : Bool) (n : Nat) : Int := if negative then -n else n

def doubleFloor (x : Float) : Except Fault Int :=
  let double := Double.of x
  match double.kind with
  | .nan => .error .flooredNaN
  | .infinite => .error .flooredInfinity
  | .finite magnitude =>
    .ok (Int.fdiv (signed double.negative (magnitude.numerator)) (magnitude.denominator))

def doubleOrder (n : Int) (x : Float) : Option Ordering :=
  let double := Double.of x
  match double.kind with
  | .nan => none
  | .infinite => some (if double.negative then .gt else .lt)
  | .finite magnitude =>
    some (compare (n * magnitude.denominator) (signed double.negative (magnitude.numerator)))

instance : Arithmetic Float where
  below x y := x < y
  atMost x y := x ≤ y
  quotient := doubleQuotient
  ofInt := doubleOfInt
  ratio := doubleRatio
  floor := doubleFloor
  order := doubleOrder
  text x := String.ofList (shown.write x)

end PitWall.Arithmetic
