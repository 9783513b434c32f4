import PitWall.Tables.Basic

namespace PitWall.Lap
open Arithmetic
variable {R : Type} [Arithmetic R]

-- Past the cliff the extra wear needs this many laps to come in full.
def cliffRamp : Int := 10

def freshLaps : Int := 3

-- Seconds lost to the age of the tires: the rate grows past the cliff and counts for every lap run.
def degradation (tire : TireData R) (lap : Int) (weather management : R) : Except Fault R := do
  let rate := tire.degradationRate * weather * management
  if tire.cliffLap < lap then
    let extra := tire.degradationRate * tire.cliffMultiplier - tire.degradationRate
    let ramp ← quotient (extra * (← ofInt (min (lap - tire.cliffLap) cliffRamp))) (← ofInt cliffRamp)
    return (rate + ramp) * (← ofInt lap)
  return rate * (← ofInt lap)

-- The worn share of the tread: linear up to one and a half cliffs, steeper past the cliff, never
-- more than all of it.
def wear (tire : TireData R) (lap : Int) : Except Fault R := do
  let life := (← ofInt tire.cliffLap) * 1.5
  let base ← quotient (← ofInt lap) life
  if tire.cliffLap < lap then
    return lesser (base + (← ratio (lap - tire.cliffLap) tire.cliffLap) * 0.5) 1.0
  return lesser base 1.0

def freshPenalty (tire : TireData R) (lap : Int) : R :=
  if freshLaps < lap then 0.0 else (1.0 - tire.initialGrip) * 2.0

end PitWall.Lap
