import PitWall.Arithmetic
import PitWall.Vocabulary
import PitWall.Text.Case

namespace PitWall

structure Circuit (R : Type) where
  baseLapTime : R
  pitLaneTimeLoss : R
  fuelEffectPerKg : R
  startingFuelKg : R
  fuelConsumptionPerLap : R
deriving BEq

structure TireData (R : Type) where
  initialGrip : R
  degradationRate : R
  cliffLap : Int
  cliffMultiplier : R
deriving BEq

structure PaceData (R : Type) where
  lapTimeDelta : R
  overtakingAbility : R
  defenseAbility : R
  realisticCeiling : Int
  realisticFloor : Int
  typicalFinish : Int
deriving BEq

structure RiskData (R : Type) where
  overtakingAggressiveness : R
  tireManagement : R
  pitStopEfficiency : R
deriving BEq

-- The figures in which one circuit differs from the default one.
structure CircuitOverride (R : Type) where
  baseLapTime : Option R
  pitLaneTimeLoss : Option R
  fuelEffectPerKg : Option R
  startingFuelKg : Option R
  fuelConsumptionPerLap : Option R
deriving BEq

namespace CircuitOverride
variable {R : Type}

def nothing : CircuitOverride R := ⟨none,none,none,none,none⟩

def onto (override : CircuitOverride R) (circuit : Circuit R) : Circuit R :=
  ⟨override.baseLapTime.getD circuit.baseLapTime,
    override.pitLaneTimeLoss.getD circuit.pitLaneTimeLoss,
    override.fuelEffectPerKg.getD circuit.fuelEffectPerKg,
    override.startingFuelKg.getD circuit.startingFuelKg,
    override.fuelConsumptionPerLap.getD circuit.fuelConsumptionPerLap⟩

end CircuitOverride

-- A circuit is known by the letters of its name alone, in capitals.
def circuitKey (name : String) : String :=
  String.ofList ((Text.upper name.toList).filter fun c => 'A' ≤ c && c ≤ 'Z')

-- Compounds, pace classes and risk profiles always have their data; a weather or a difficulty may
-- have none, and then its look-up has a fallback.
structure Tables (R : Type) where
  defaultCircuit : Circuit R
  overrides : List (String × CircuitOverride R)
  tire : Compound → TireData R
  weather : Weather → Option R
  pace : PaceClass → PaceData R
  risk : RiskProfile → RiskData R
  overtaking : Difficulty → Option R

namespace Tables
variable {R : Type}

def overrideFor (tables : Tables R) (name : String) : Option (CircuitOverride R) :=
  tables.overrides.lookup (circuitKey name)

def circuit (tables : Tables R) (name : String) : Circuit R :=
  match tables.overrideFor name with
  | some override => override.onto tables.defaultCircuit
  | none => tables.defaultCircuit

variable [Arithmetic R]

def weatherMultiplier (tables : Tables R) (weather : Weather) : R := (tables.weather weather).getD 1.0
def overtakingRate (tables : Tables R) (difficulty : Difficulty) : R :=
  (tables.overtaking difficulty).getD 0.025

end Tables

def agree {α β : Type} [Vocabulary α] [BEq β] (f g : α → β) : Bool :=
  (Vocabulary.all (α := α)).all fun member => f member == g member

-- The same figures throughout, in whatever order the overrides stand.
def Tables.same {R : Type} [BEq R] (left right : Tables R) : Bool :=
  left.defaultCircuit == right.defaultCircuit
    && left.overrides.length == right.overrides.length
    && left.overrides.all (fun (key,override) => right.overrides.lookup key == some override)
    && agree left.tire right.tire && agree left.weather right.weather
    && agree left.pace right.pace && agree left.risk right.risk
    && agree left.overtaking right.overtaking

end PitWall
