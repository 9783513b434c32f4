import PitWall.Arithmetic

namespace PitWall.Arithmetic

def rationalQuotient (x y : Rat) : Except Fault Rat :=
  if y = 0 then .error .zeroDivisor else .ok (x / y)

instance : Arithmetic Rat where
  below x y := x < y
  atMost x y := x ≤ y
  quotient := rationalQuotient
  ofInt n := .ok n
  ratio a b := rationalQuotient a b
  floor x := .ok x.floor
  order n x := some (if (n : Rat) < x then .lt else if x < n then .gt else .eq)
  text x := if x.den = 1 then toString x.num else s!"{x.num}/{x.den}"

end PitWall.Arithmetic
