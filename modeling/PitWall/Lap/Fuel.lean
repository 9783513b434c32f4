import PitWall.Tables.Basic

namespace PitWall.Lap
open Arithmetic
variable {R : Type} [Arithmetic R]

def fuelEffect (circuit : Circuit R) (fuel : R) : R :=
  -(circuit.startingFuelKg - fuel) * circuit.fuelEffectPerKg * 0.5

def burn (circuit : Circuit R) (fuel : R) : R := greater 0.0 (fuel - circuit.fuelConsumptionPerLap)

end PitWall.Lap
