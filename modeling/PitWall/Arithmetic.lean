namespace PitWall

-- Why a number could not be computed.
inductive Fault where
  | zeroDivisor
  | integerTooLarge
  | quotientTooLarge
  | flooredInfinity
  | flooredNaN
deriving DecidableEq

namespace Fault

def message : Fault → String
  | zeroDivisor => "float division by zero"
  | integerTooLarge => "int too large to convert to float"
  | quotientTooLarge => "integer division result too large for a float"
  | flooredInfinity => "cannot convert float infinity to integer"
  | flooredNaN => "cannot convert float NaN to integer"

end Fault

-- The numbers a race is computed with. No law is asked for: the race runs on doubles, and what is
-- said about exact numbers is said of the rationals.
class Arithmetic (R : Type) extends Add R, Sub R, Mul R, Neg R, OfScientific R where
  below : R → R → Bool
  atMost : R → R → Bool
  quotient : R → R → Except Fault R
  ofInt : Int → Except Fault R
  ratio : Int → Int → Except Fault R
  floor : R → Except Fault Int
  order : Int → R → Option Ordering
  text : R → String

namespace Arithmetic
variable {R : Type} [Arithmetic R]

-- The second operand wins only if it is strictly beyond the first, so an unordered pair keeps the first.
def lesser (x y : R) : R := if below y x then y else x
def greater (x y : R) : R := if below x y then y else x

-- An integer against a number, exactly.
def exceeds (n : Int) (x : R) : Bool := order n x == some .gt
def within (n : Int) (x : R) : Bool := order n x == some .lt || order n x == some .eq
def equals (n : Int) (x : R) : Bool := order n x == some .eq

def isNumber (x : R) : Bool := atMost x x

end Arithmetic
end PitWall
