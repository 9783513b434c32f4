namespace PitWall.Decimal

-- A finite magnitude m · 2^q. The gap below a power of two is half the gap above it.
structure Binary where
  m : Nat
  q : Int
  narrowBelow : Bool

def Binary.numerator (x : Binary) : Nat := x.m * Nat.pow 2 x.q.toNat
def Binary.denominator (x : Binary) : Nat := Nat.pow 2 (-x.q).toNat

inductive Kind where
  | nan
  | infinite
  | finite (magnitude : Binary)

structure Double where
  negative : Bool
  kind : Kind

def fractionBits : Nat := 0x10000000000000

def Double.ofBits (bits : Nat) : Double :=
  let fraction := bits % fractionBits
  let exponent := bits / fractionBits % 2048
  ⟨bits / 0x8000000000000000 % 2 == 1,
    if exponent == 2047 then if fraction == 0 then .infinite else .nan
    else if exponent == 0 then .finite ⟨fraction,-1074,false⟩
    else .finite ⟨fractionBits + fraction,(exponent : Int) - 1075,fraction == 0 && exponent > 1⟩⟩

def Double.of (x : Float) : Double := Double.ofBits x.toBits.toNat

-- a / b to the nearest integer, a half to the even one.
def roundQuotient (a b : Nat) : Nat :=
  let whole := a / b
  match compare (2 * (a % b)) b with
  | .lt => whole
  | .gt => whole + 1
  | .eq => whole + whole % 2

-- The floor of log2 (a / b), for positive a and b.
def quotientLog (a b : Nat) : Int :=
  let guess : Int := (a.log2 : Int) - b.log2
  if a * Nat.pow 2 (-guess).toNat < b * Nat.pow 2 guess.toNat then guess - 1 else guess

-- The bits of the double nearest to a / b; `none` where that is past the largest finite one.
-- Significand and exponent are added, so a carry out of the significand moves to the next binade.
def nearestBits (a b : Nat) : Option Nat :=
  if a == 0 then some 0 else
  let q := max (-1074) (quotientLog a b - 52)
  let m := roundQuotient (a * Nat.pow 2 (-q).toNat) (b * Nat.pow 2 q.toNat)
  let bits := (q + 1074).toNat * fractionBits + m
  if bits < 2047 * fractionBits then some bits else none

def nearest (a b : Nat) : Float :=
  Float.ofBits (UInt64.ofNat ((nearestBits a b).getD (2047 * fractionBits)))

def nearest? (negative : Bool) (a b : Nat) : Option Float :=
  (nearestBits a b).map fun bits =>
    let magnitude := Float.ofBits (UInt64.ofNat bits)
    if negative then -magnitude else magnitude

end PitWall.Decimal
