import PitWall.Decimal.Binary

namespace PitWall.Decimal

-- digits · 10^exponent
structure Digits where
  digits : Nat
  exponent : Int
deriving DecidableEq

-- a · 10^i against n · 2^j, by naturals.
def compareScaled (a : Nat) (i : Int) (n : Nat) (j : Int) : Ordering :=
  compare (a * Nat.pow 10 i.toNat * Nat.pow 2 (-j).toNat)
    (n * Nat.pow 2 j.toNat * Nat.pow 10 (-i).toNat)

-- The reals that round to x form an interval, half a gap to either side; its ends belong to it
-- when the significand is even.
def Binary.readsBack (x : Binary) (d : Digits) : Bool :=
  let low := if x.narrowBelow then 4 * x.m - 1 else 4 * x.m - 2
  let ends := x.m % 2 == 0
  let left := compareScaled d.digits d.exponent low (x.q - 2)
  let right := compareScaled d.digits d.exponent (4 * x.m + 2) (x.q - 2)
  (left == .gt || (ends && left == .eq)) && (right == .lt || (ends && right == .eq))

-- The least k with x < 10^k is near the logarithm; step up until it holds.
def Binary.scaleFrom (x : Binary) : Nat → Int → Int
  | 0, k => k
  | steps + 1, k => if compareScaled 1 k x.m x.q == .gt then k else x.scaleFrom steps (k + 1)

def Binary.scale (x : Binary) : Int :=
  x.scaleFrom 4 ((((x.m.log2 : Int) + x.q) * 30103) / 100000 - 1)

def Binary.onGrid (x : Binary) (exponent : Int) : Nat :=
  x.numerator * Nat.pow 10 (-exponent).toNat / (x.denominator * Nat.pow 10 exponent.toNat)

-- The two neighbours of x on a grid; of two that read back the nearer one, the even one at a tie.
def Binary.neighbour? (x : Binary) (exponent : Int) : Option Digits :=
  let low : Digits := ⟨x.onGrid exponent,exponent⟩
  let high : Digits := ⟨low.digits + 1,exponent⟩
  match x.readsBack low, x.readsBack high with
  | false, false => none
  | true, false => some low
  | false, true => some high
  | true, true =>
    match compareScaled (low.digits + high.digits) exponent (2 * x.m) x.q with
    | .gt => some low
    | .lt => some high
    | .eq => some (if low.digits % 2 == 0 then low else high)

def mostDigits : Nat := 17

def Binary.exact (x : Binary) : Digits :=
  if 0 ≤ x.q then ⟨x.m * Nat.pow 2 x.q.toNat,0⟩ else ⟨x.m * Nat.pow 5 (-x.q).toNat,x.q⟩

def Digits.stripped : Nat → Digits → Digits
  | 0, d => d
  | steps + 1, d =>
    if d.digits % 10 == 0 && d.digits != 0 then Digits.stripped steps ⟨d.digits / 10,d.exponent + 1⟩ else d

def Binary.shortest (x : Binary) : Digits :=
  if x.m == 0 then ⟨0,0⟩ else
  let scale := x.scale
  let chosen := (List.range mostDigits).findSome? fun (n : Nat) => x.neighbour? (scale - (n + 1 : Nat))
  Digits.stripped (2 * mostDigits) (chosen.getD x.exact)

end PitWall.Decimal
